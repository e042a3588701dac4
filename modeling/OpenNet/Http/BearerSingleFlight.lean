import OpenNet.Foundation.Pool
import OpenNet.Http.BearerAuth

/-!
# Single flight of bearer credentials

Any number of `apply` and `on_unauthorized` calls and of token fetches in any interleaving.  The
fetch whose gate is in flight is the only one that is not stored, so at most one call of the
source is outstanding.  A refresh belongs to the generation that is stored: when it ends, the
generation has moved on or its failure is latched.
-/

namespace OpenNet.Http.Auth

open Checked Latch Pool

def Fetch.GateOk (f : Fetch) : Prop :=
  match f.stage with
  | .finished => (∃ result, f.gate.result = some result) ∧ 0 < f.gate.notifications
  | .written => (∃ result, f.gate.result = some result) ∧ f.gate.notifications = 0
  | _ => f.gate.result = none ∧ f.gate.notifications = 0

structure FetchOk (s : BearerState) (n : Nat) (f : Fetch) : Prop where
  pending : f.stage.pending ↔ s.inFlight = some n
  gate : f.GateOk
  refresh : f.stage.pending → f.isRefresh →
    f.refreshGeneration = s.generation ∧ s.lastRefreshFailureGeneration ≠ some s.generation

def CallStage.inside : CallStage → Bool
  | .starting _ | .completing _ | .waiting _ _ | .passed => true
  | .enter | .answered _ => false

structure CallOk (allowRefresh : Bool) (fetches : List Fetch) (generation i : Nat) (c : Call) :
    Prop where
  starting : ∀ gate, c.stage = .starting gate →
    ∃ f, fetches[gate]? = some f ∧ f.stage = .claimed ∧ f.owner = i
  waiting : ∀ gate w, c.stage = .waiting gate w → ∃ f, fetches[gate]? = some f ∧ Sound f.gate w
  rejected : ∀ status rejected, c.request = .unauthorized status rejected →
    0 < rejected ∧ rejected ≤ generation
  allowed : c.request ≠ .apply → c.stage.inside → allowRefresh
  retried : c.stage = .answered (.action (.ok .retryWithFreshCredentials)) →
    ∃ status rejected, c.request = .unauthorized status rejected ∧ rejected < generation ∧
      allowRefresh

/-- **The invariant of a provider.** -/
structure ProviderInv (allowRefresh : Bool) (s : Bearer) : Prop where
  fetches : ∀ (n : Nat) (f : Fetch), s.fetches[n]? = some f → FetchOk s.state n f
  flying : ∀ n, s.state.inFlight = some n → ∃ f : Fetch, s.fetches[n]? = some f
  calls : ∀ (i : Nat) (c : Call), s.calls[i]? = some c →
    CallOk allowRefresh s.fetches s.state.generation i c
  numbered : s.stored.map Prod.snd = List.range' 1 s.state.generation
  token : s.state.token.map (·, s.state.generation) = s.stored.getLast?
  returned : ∀ p ∈ s.returned, p ∈ s.stored
  once : s.refreshes.Nodup
  past : ∀ g ∈ s.refreshes, g < s.state.generation ∨ (g = s.state.generation ∧
    (s.state.lastRefreshFailureGeneration = some g ∨ Sees (fun f => f.isRefresh ∧
      f.refreshGeneration = g ∧ f.stage.called) s.fetches))

/-- The gates of `fetches` are earlier ones of `fetches'`. -/
def Extends (fetches fetches' : List Fetch) : Prop :=
  ∀ (n : Nat) (f : Fetch), fetches[n]? = some f →
    ∃ f' : Fetch, fetches'[n]? = some f' ∧ f.gate.Grows f'.gate

def NotStarting (s : Bearer) (gate : Nat) : Prop :=
  ∀ (j : Nat) (c : Call), s.calls[j]? = some c → c.stage ≠ .starting gate

variable {s' : Bearer} {f f' : Fetch} {gate : Nat}

theorem Extends.refl (fetches : List Fetch) : Extends fetches fetches :=
  fun _ f hget => ⟨f, hget, .refl _⟩

theorem Fetch.GateOk.ordered (h : f.GateOk) : f.gate.Ordered := by
  intro hpos
  unfold GateOk at h
  split at h
  · exact h.1
  · exact h.1
  · rw [h.2] at hpos
    cases hpos

/-! ## Calls -/

variable {allowRefresh : Bool} {s : Bearer}

variable {i : Nat}

variable {c : Call}

/-- What is known about a call stays while gates and generations grow, if its own claims stay. -/
theorem CallOk.mono {fetches fetches' : List Fetch} {generation generation' : Nat}
    (h : CallOk allowRefresh fetches generation i c) (hextends : Extends fetches fetches')
    (hclaims : ∀ gate f, c.stage = .starting gate → fetches[gate]? = some f →
      f.stage = .claimed → f.owner = i → fetches'[gate]? = some f)
    (hgeneration : generation ≤ generation') : CallOk allowRefresh fetches' generation' i c where
  starting gate hstage := by
    obtain ⟨f, hget, hclaimed, howner⟩ := h.starting gate hstage
    exact ⟨f, hclaims gate f hstage hget hclaimed howner, hclaimed, howner⟩
  waiting gate w hstage := by
    obtain ⟨f, hget, hsound⟩ := h.waiting gate w hstage
    obtain ⟨f', hget', hgrows⟩ := hextends gate f hget
    exact ⟨f', hget', hsound.grows hgrows⟩
  rejected status rejected hrequest := by
    obtain ⟨hpos, hle⟩ := h.rejected status rejected hrequest
    exact ⟨hpos, Nat.le_trans hle hgeneration⟩
  allowed := h.allowed
  retried hstage := by
    obtain ⟨status, rejected, hrequest, hlt, hallowed⟩ := h.retried hstage
    exact ⟨status, rejected, hrequest, Nat.lt_of_lt_of_le hlt hgeneration, hallowed⟩

/-- No call changes its request, and only call `i` moves. -/
def CallStep (i : Nat) (calls calls' : List Call) : Prop :=
  ∀ (j : Nat) (c : Call), calls[j]? = some c → ∃ c' : Call, calls'[j]? = some c' ∧
    c'.request = c.request ∧ (i ≠ j → c' = c)

theorem CallStep.refl (calls : List Call) : CallStep i calls calls :=
  fun _ c hc => ⟨c, hc, rfl, fun _ => rfl⟩

theorem CallStep.set {calls : List Call} {c c' : Call} (hc : calls[i]? = some c)
    (hrequest : c'.request = c.request) : CallStep i calls (calls.set i c') := by
  intro j c₀ hc₀
  by_cases hij : i = j
  · subst hij
    obtain rfl := Option.mem_unique hc hc₀
    exact ⟨c', set_self hc _, hrequest, fun hne => absurd rfl hne⟩
  · exact ⟨c₀, (List.getElem?_set_ne hij).trans hc₀, rfl, fun _ => rfl⟩

/-- A step of call `i` keeps invariant, gates and other calls. -/
structure Stepped (allowRefresh : Bool) (i : Nat) (s s' : Bearer) : Prop where
  inv : ProviderInv allowRefresh s'
  calls : CallStep i s.calls s'.calls := by exact .refl _
  gates : Extends s.fetches s'.fetches := by exact .refl _

/-- Call `i` may become `c`: it keeps its request. -/
structure Becomes (allowRefresh : Bool) (s : Bearer) (i : Nat) (c : Call) : Prop
    extends CallOk allowRefresh s.fetches s.state.generation i c where
  request : ∃ c₀ : Call, s.calls[i]? = some c₀ ∧ c.request = c₀.request

theorem Becomes.move (h : Becomes allowRefresh s i c) {stage : CallStage}
    (hallowed : c.request ≠ .apply → stage.inside → allowRefresh := by
      exact nofun)
    (hwaiting : ∀ gate w, stage = .waiting gate w →
      ∃ f, s.fetches[gate]? = some f ∧ Sound f.gate w := by nofun)
    (hretried : stage = .answered (.action (.ok .retryWithFreshCredentials)) →
      ∃ status generation, c.request = .unauthorized status generation ∧
        generation < s.state.generation ∧ allowRefresh := by nofun)
    (hstarting : ∀ gate, stage ≠ .starting gate := by nofun) :
    Becomes allowRefresh s i { c with stage } :=
  { h with
    starting gate hstage := absurd hstage (hstarting gate)
    waiting := hwaiting
    allowed := hallowed
    retried := hretried }

namespace ProviderInv

theorem init : ProviderInv allowRefresh {} where
  fetches _ _ hget := by cases hget
  flying _ hflight := by cases hflight
  calls _ _ hget := by cases hget
  numbered := rfl
  token := rfl
  returned _ hp := by cases hp
  once := List.nodup_nil
  past _ hg := by cases hg

section

variable (h : ProviderInv allowRefresh s)
include h

theorem stay : Stepped allowRefresh i s s := { inv := h }

theorem becomes (hc : s.calls[i]? = some c) : Becomes allowRefresh s i c :=
  ⟨h.calls i c hc, c, hc, rfl⟩

theorem setCall (hc : Becomes allowRefresh s i c) :
    Stepped allowRefresh i s { s with calls := s.calls.set i c } := by
  obtain ⟨c₀, hc₀, hrequest⟩ := hc.request
  refine ⟨{ h with calls := fun j c' hget => ?_ }, .set hc₀ hrequest, .refl _⟩
  obtain ⟨rfl, rfl⟩ | ⟨-, hget⟩ := get_set hget
  · exact hc.toCallOk
  · exact h.calls j c' hget

theorem token_isSome (hpos : 0 < s.state.generation) : s.state.token.isSome := by
  by_contra hnone
  have hlast := h.token
  rw [Option.not_isSome_iff_eq_none.mp hnone, Option.map_none] at hlast
  have hempty : s.stored = [] := List.getLast?_eq_none_iff.mp hlast.symm
  have hnumbered := congrArg List.length h.numbered
  rw [hempty] at hnumbered
  simp at hnumbered
  omega

theorem returnToken (hc : Becomes allowRefresh s i c) {token : AccessToken}
    (htoken : s.state.token = some token) : Stepped allowRefresh i s (s.returnToken i c token) := by
  have hmoved : Stepped allowRefresh i s
      (s.moveCall i c (.answered (.token (.ok (token, s.state.generation))))) :=
    h.setCall hc.move
  obtain ⟨hset, hcalls, -⟩ := hmoved
  refine ⟨{ hset with returned := fun p hp => ?_ }, hcalls, .refl _⟩
  rcases List.mem_append.mp hp with hp | hp
  · exact h.returned p hp
  · have hlast := h.token
    rw [htoken, Option.map_some] at hlast
    rw [List.mem_singleton.mp hp]
    exact List.mem_of_getLast? hlast.symm

theorem not_starting {gate : Nat} {f : Fetch} (hget : s.fetches[gate]? = some f)
    (hstage : f.stage ≠ .claimed) : NotStarting s gate := by
  intro j c hc hstarting
  obtain ⟨f', hget', hclaimed, -⟩ := (h.calls j c hc).starting gate hstarting
  obtain rfl := Option.mem_unique hget hget'
  exact hstage hclaimed

end

end ProviderInv

/-! ## Fetches -/

theorem Extends.set (hget : s.fetches[gate]? = some f) (hgrows : f.gate.Grows f'.gate) :
    Extends s.fetches (s.fetches.set gate f') := by
  intro n g hn
  by_cases hne : gate = n
  · subst hne
    obtain rfl := Option.mem_unique hget hn
    exact ⟨f', set_self hget _, hgrows⟩
  · exact ⟨g, (List.getElem?_set_ne hne).trans hn, .refl _⟩

namespace ProviderInv

variable {gate : Nat} {f : Fetch}

theorem calls_setFetch (h : ProviderInv allowRefresh s) (f' : Fetch)
    (hget : s.fetches[gate]? = some f) (hgrows : f.gate.Grows f'.gate) (hfree : NotStarting s gate)
    {generation : Nat} (hgeneration : s.state.generation ≤ generation) {j : Nat}
    (hc : s.calls[j]? = some c) : CallOk allowRefresh (s.fetches.set gate f') generation j c := by
  refine (h.calls j c hc).mono (.set hget hgrows) ?_ hgeneration
  intro n g hstarting hn _ _
  have hne : gate ≠ n := by
    rintro rfl
    exact hfree j c hc hstarting
  exact (List.getElem?_set_ne hne).trans hn

theorem setFetch (h : ProviderInv allowRefresh s) {old stage : FetchStage}
    {after : Gate (Except ErrorKind Unit)} {inline : Bool}
    (hget : s.fetches[gate]? = some f) (hstage : f.stage = old) (hfree : NotStarting s gate)
    (hgrows : f.gate.Grows after) (hgate : Fetch.GateOk { f with stage, inline, gate := after })
    (hpending : stage.pending = old.pending) (hcalled : old.called → stage.called) :
    Stepped allowRefresh i s (s.setFetch gate { f with stage, inline, gate := after }) := by
  subst hstage
  have hextends : Extends s.fetches (s.fetches.set gate { f with stage, inline, gate := after }) :=
    .set hget hgrows
  refine ⟨{ h with
    fetches := fun n g hn => by
      obtain ⟨rfl, rfl⟩ | ⟨-, hn⟩ := get_set hn
      · have hf := h.fetches n f hget
        exact ⟨hpending ▸ hf.pending, hgate, hpending ▸ hf.refresh⟩
      · exact h.fetches n g hn
    flying := fun n hn => by
      obtain ⟨g, hg⟩ := h.flying n hn
      obtain ⟨g', hg', -⟩ := hextends n g hg
      exact ⟨g', hg'⟩
    calls := fun _ _ hc => h.calls_setFetch _ hget hgrows hfree (Nat.le_refl _) hc
    past := fun g hg => by
      refine (h.past g hg).imp_right fun ⟨heq, hcause⟩ => ⟨heq, hcause.imp_right fun hseen => ?_⟩
      exact hseen.set hget fun ⟨hrefresh, hgen, hf⟩ => ⟨hrefresh, hgen, hcalled hf⟩ },
    .refl _, hextends⟩

theorem pending_unique (h : ProviderInv allowRefresh s) {n m : Nat} {g : Fetch}
    (hn : s.fetches[n]? = some f) (hm : s.fetches[m]? = some g) (hf : f.stage.pending)
    (hg : g.stage.pending) : n = m := by
  have hflight := (h.fetches n f hn).pending.mp hf
  rw [(h.fetches m g hm).pending.mp hg] at hflight
  exact (Option.some.inj hflight).symm

theorem pending_of_called {stage : FetchStage} (h : stage.called) : stage.pending := by
  cases stage <;> simp_all [FetchStage.called, FetchStage.pending]

/-- The source is called.  It is the first call of `refresh` for this generation. -/
theorem begin (h : ProviderInv allowRefresh s) (hget : s.fetches[gate]? = some f)
    (hstage : f.stage = .spawned) :
    Stepped allowRefresh i s (if f.isRefresh then
      { s.setFetch gate { f with stage := .calling } with
        refreshes := s.refreshes ++ [f.refreshGeneration] }
      else s.setFetch gate { f with stage := .calling }) := by
  have hf := h.fetches gate f hget
  have hpending : f.stage.pending := by rw [hstage]; rfl
  have hgate := hf.gate
  rw [Fetch.GateOk, hstage] at hgate
  have hset : Stepped allowRefresh i s (s.setFetch gate { f with stage := .calling }) :=
    h.setFetch hget hstage (h.not_starting hget (by rw [hstage]; nofun)) (.refl _) hgate rfl
      fun _ => rfl
  split
  · rename_i hrefresh
    obtain ⟨hgeneration, hlatch⟩ := hf.refresh hpending hrefresh
    have hfresh : f.refreshGeneration ∉ s.refreshes := by
      intro hmem
      rcases h.past _ hmem with hlt | ⟨heq, hlatched | ⟨n, f₀, hn, -, -, hcalled⟩⟩
      · rw [hgeneration] at hlt
        exact Nat.lt_irrefl _ hlt
      · rw [hgeneration] at hlatched
        exact hlatch hlatched
      -- The only pending fetch is this one, and it has not been called.
      obtain rfl := h.pending_unique hn hget (pending_of_called hcalled) hpending
      obtain rfl := Option.mem_unique hget hn
      rw [hstage] at hcalled
      cases hcalled
    exact ⟨{ hset.inv with
      once := by
        refine List.nodup_append.mpr ⟨h.once, List.pairwise_singleton _ _, ?_⟩
        rintro g hg g' hg' rfl
        rw [List.mem_singleton.mp hg'] at hg
        exact hfresh hg
      past := fun g hg => by
        rcases List.mem_append.mp hg with hg | hg
        · exact hset.inv.past g hg
        · obtain rfl := List.mem_singleton.mp hg
          exact .inr ⟨hgeneration, .inr ⟨gate, _, set_self hget _, hrefresh, rfl, rfl⟩⟩ },
      .refl _, hset.gates⟩
  · exact hset

end ProviderInv

/-- A completion stores the next token, or fails; a refresh latches that. -/
inductive Completion (gate : Nat) (f : Fetch) (s : BearerState) :
    Except NetError AccessToken → BearerState → Except ErrorKind Unit → Prop where
  | stored (token : AccessToken) :
    Completion gate f s (.ok token)
      { token := some token, generation := s.generation + 1, inFlight := none
        lastRefreshFailureGeneration := none } (.ok ())
  | failed (outcome : Except NetError AccessToken) (kind : ErrorKind) :
    Completion gate f s outcome
      { s with inFlight := none
               lastRefreshFailureGeneration := if f.isRefresh then some f.refreshGeneration
                 else s.lastRefreshFailureGeneration } (.error kind)

theorem completeTokenFetch_completion (f : Fetch) {s : BearerState}
    (hflight : s.inFlight = some gate) (outcome : Except NetError AccessToken) :
    Completion gate f s outcome (Bearer.completeTokenFetch gate f outcome s).1
      (Bearer.completeTokenFetch gate f outcome s).2 := by
  have hfail : ∀ kind, Completion gate f s outcome
      { s with inFlight := none
               lastRefreshFailureGeneration := if f.isRefresh then some f.refreshGeneration
                 else s.lastRefreshFailureGeneration } (.error kind) := .failed outcome
  unfold Bearer.completeTokenFetch
  cases outcome with
  | error error =>
    cases hrefresh : f.isRefresh <;> simpa [hrefresh, hflight] using hfail error.kind
  | ok token =>
    cases hadd : checkedAdd u64Max s.generation 1 with
    | none =>
      cases hrefresh : f.isRefresh <;> simpa [hrefresh, hflight] using hfail _
    | some generation =>
      obtain ⟨rfl, -⟩ := checkedAdd_eq_some.mp hadd
      cases hrefresh : f.isRefresh <;> simpa [hrefresh, hflight] using Completion.stored token

variable {result : Except ErrorKind Unit}

namespace ProviderInv

variable {gate : Nat} {f : Fetch}

section

variable (h : ProviderInv allowRefresh s)
include h

/-- The completion of the fetch in flight: afterwards none is pending. -/
theorem complete (hget : s.fetches[gate]? = some f) {outcome : Except NetError AccessToken}
    (hstage : f.stage = .returned outcome) {state : BearerState}
    (hcompletion : Completion gate f s.state outcome state result) :
    Stepped allowRefresh i s { s.setFetch gate { f with stage := .stored result } with
      state
      stored := s.stored ++ Bearer.storedTokens outcome result state.generation } := by
  have hf := h.fetches gate f hget
  have hpending : f.stage.pending := by rw [hstage]; rfl
  have hflight := hf.pending.mp hpending
  have hfree := h.not_starting hget (by rw [hstage]; nofun)
  have hgate := hf.gate
  rw [Fetch.GateOk, hstage] at hgate
  have hnone : state.inFlight = none := by cases hcompletion <;> rfl
  have hle : s.state.generation ≤ state.generation := by
    cases hcompletion with
    | stored => exact Nat.le_succ _
    | failed => exact Nat.le_refl _
  have hfetches : ∀ (n : Nat) (g : Fetch),
      (s.setFetch gate { f with stage := .stored result }).fetches[n]? = some g →
      FetchOk state n g := by
    intro n g hn
    have hidle : g.stage.pending = false ∧ g.GateOk := by
      obtain ⟨-, rfl⟩ | ⟨hne, hn⟩ := get_set hn
      · exact ⟨rfl, hgate⟩
      refine ⟨?_, (h.fetches n g hn).gate⟩
      by_contra hg
      exact hne (h.pending_unique hn hget (by simpa using hg) hpending)
    refine ⟨?_, hidle.2, fun hg => ?_⟩
    · rw [hidle.1, hnone]
      simp
    · rw [hidle.1] at hg
      cases hg
  have hcalls : ∀ (j : Nat) (c : Call), s.calls[j]? = some c → CallOk allowRefresh
      (s.fetches.set gate { f with stage := .stored result }) state.generation j c :=
    fun _ _ hc => h.calls_setFetch { f with stage := .stored result } hget (.refl _) hfree hle hc
  have hflying : ∀ n, state.inFlight = some n → ∃ g : Fetch, (s.setFetch gate
      { f with stage := .stored result }).fetches[n]? = some g := by
    intro n hn
    rw [hnone] at hn
    cases hn
  refine ⟨?_, .refl _, Extends.set hget (.refl _)⟩
  cases hcompletion with
  | stored token =>
    have hbelow : ∀ g ∈ s.refreshes, g ≤ s.state.generation := fun g hg => by
      rcases h.past g hg with hlt | ⟨rfl, -⟩
      · exact Nat.le_of_lt hlt
      · exact Nat.le_refl _
    exact { h with
      fetches := hfetches
      flying := hflying
      calls := hcalls
      numbered := by
        simp only [Bearer.storedTokens, List.map_append, h.numbered, List.map_singleton]
        rw [List.range'_concat, Nat.one_mul, Nat.add_comm 1]
      token := by simp [Bearer.storedTokens]
      returned := fun p hp => List.mem_append_left _ (h.returned p hp)
      past := fun g hg => .inl (Nat.lt_succ_of_le (hbelow g hg)) }
  | failed outcome kind =>
    have hstored : Bearer.storedTokens outcome (.error kind) s.state.generation = [] := by
      cases outcome <;> rfl
    simp only [hstored, List.append_nil]
    exact { h with
      fetches := hfetches
      flying := hflying
      calls := hcalls
      past := fun g hg => by
        rcases h.past g hg with hlt | ⟨heq, hcause⟩
        · exact .inl hlt
        refine .inr ⟨heq, .inl ?_⟩
        by_cases hrefresh : f.isRefresh
        · rw [heq, ← (hf.refresh hpending hrefresh).1]
          simp [hrefresh]
        simp only [hrefresh]
        rcases hcause with hlatched | ⟨n, f₀, hn, hrefresh₀, -, hcalled⟩
        · exact hlatched
        -- A refresh that was called would be pending, but this load is.
        obtain rfl := h.pending_unique hn hget (pending_of_called hcalled) hpending
        obtain rfl := Option.mem_unique hget hn
        exact absurd hrefresh₀ hrefresh }

/-- **Every step of a fetch keeps the invariant.** -/
theorem advance (i gate : Nat) (answer : SourceAnswer) (now : Nat) :
    Stepped allowRefresh i s (s.advance gate answer now) := by
  unfold Bearer.advance
  split
  · exact h.stay
  rename_i f hget
  have hf := h.fetches gate f hget
  have hfree : f.stage ≠ .claimed → NotStarting s gate := h.not_starting hget
  have hgate := hf.gate
  unfold Fetch.GateOk at hgate
  split
  · exact h.stay
  · exact h.stay
  · rename_i hstage
    exact h.begin hget hstage
  · rename_i hstage
    rw [hstage] at hgate
    exact h.setFetch hget hstage (hfree (by rw [hstage]; nofun)) (.refl _) hgate rfl fun _ => rfl
  · rename_i outcome hstage
    have hflight := hf.pending.mp (by rw [hstage]; rfl)
    exact h.complete hget hstage (completeTokenFetch_completion f hflight outcome)
  · rename_i result hstage
    rw [hstage] at hgate
    refine h.setFetch hget hstage (hfree (by rw [hstage]; nofun)) ⟨?_, Nat.le_refl _⟩
      ⟨⟨result, rfl⟩, hgate.2⟩ rfl nofun
    intro result' hresult
    rw [hgate.1] at hresult
    cases hresult
  · rename_i hstage
    rw [hstage] at hgate
    exact h.setFetch hget hstage (hfree (by rw [hstage]; nofun)) ⟨fun _ => id, Nat.le_succ _⟩
      ⟨hgate.1, Nat.succ_pos _⟩ rfl nofun

/-! ## Steps of a call -/

section

variable {i : Nat} {c : Call}

theorem answer (hc : Becomes allowRefresh s i c) (answer : Answer)
    (hretried : answer = .action (.ok .retryWithFreshCredentials) →
      ∃ status generation, c.request = .unauthorized status generation ∧
        generation < s.state.generation ∧ allowRefresh) :
    Stepped allowRefresh i s (s.moveCall i c (.answered answer)) := by
  have hstage := fun hstage => hretried (CallStage.answered.inj hstage)
  exact h.setCall (hc.move nofun nofun hstage)

theorem wait (hc : Becomes allowRefresh s i c) (hget : s.fetches[gate]? = some f) {w : Waiter}
    (hsound : Sound f.gate w) (hallowed : c.request ≠ .apply → allowRefresh) :
    Stepped allowRefresh i s (s.moveCall i c (.waiting gate w)) := by
  refine h.setCall (hc.move (fun hrequest _ => hallowed hrequest) ?_)
  intro gate' w' hstage
  cases hstage
  exact ⟨f, hget, hsound⟩

theorem joinOrClaim (hc : Becomes allowRefresh s i c) {isRefresh : Bool} {refreshGeneration : Nat}
    (hrefresh : isRefresh → refreshGeneration = s.state.generation ∧
      s.state.lastRefreshFailureGeneration ≠ some s.state.generation)
    (hallowed : c.request ≠ .apply → allowRefresh) :
    Stepped allowRefresh i s (s.joinOrClaim i c isRefresh refreshGeneration) := by
  unfold Bearer.joinOrClaim
  split
  · rename_i gate hflight
    obtain ⟨f, hget⟩ := h.flying gate hflight
    exact h.wait hc hget trivial hallowed
  · rename_i hflight
    -- Nothing is pending, and the new fetch is the only one that will be.
    let f : Fetch := { isRefresh, refreshGeneration, owner := i }
    have hnew : (s.fetches ++ [f])[s.fetches.length]? = some f := List.getElem?_concat_length
    have hextends : Extends s.fetches (s.fetches ++ [f]) :=
      fun n g hn => ⟨g, get_append_left hn _, .refl _⟩
    have hmono : ∀ {j : Nat} {c' : Call}, CallOk allowRefresh s.fetches s.state.generation j c' →
        CallOk allowRefresh (s.fetches ++ [f]) s.state.generation j c' := fun hj =>
      hj.mono hextends (fun _ _ _ hn _ _ => get_append_left hn _) (Nat.le_refl _)
    obtain ⟨c₀, hc₀, hrequest⟩ := hc.request
    exact ⟨{ h with
      fetches := fun n g hn => by
        obtain ⟨rfl, rfl⟩ | hn := get_append hn
        · exact ⟨iff_of_true rfl rfl, ⟨rfl, rfl⟩, fun _ => hrefresh⟩
        · have hg := h.fetches n g hn
          have hidle : g.stage.pending ≠ true := fun hpending => by
            have hsome := hg.pending.mp hpending
            rw [hflight] at hsome
            cases hsome
          refine ⟨iff_of_false hidle ?_, hg.gate, fun hpending => absurd hpending hidle⟩
          intro hsome
          exact Nat.ne_of_gt (List.getElem?_eq_some_iff.mp hn).1 (Option.some.inj hsome)
      flying := fun n hn => by
        obtain rfl := Option.some.inj hn
        exact ⟨f, hnew⟩
      calls := fun j c' hget => by
        obtain ⟨rfl, rfl⟩ | ⟨-, hget⟩ := get_set hget
        · exact { hmono hc.toCallOk with
            starting := fun gate hstage => by
              cases hstage
              exact ⟨f, hnew, rfl, rfl⟩
            waiting := nofun
            allowed := fun hrequest _ => hallowed hrequest
            retried := nofun }
        · exact hmono (h.calls j c' hget)
      past := fun g hg => by
        refine (h.past g hg).imp_right fun ⟨heq, hcause⟩ => ⟨heq, hcause.imp_right fun hseen => ?_⟩
        exact hseen.append f }, .set hc₀ hrequest, hextends⟩

theorem enter (hok : Becomes allowRefresh s i c) (now : Nat) :
    Stepped allowRefresh i s (s.enter allowRefresh now i c) := by
  unfold Bearer.enter
  split
  · rename_i hrequest
    have hload : Stepped allowRefresh i s (s.joinOrClaim i c false 0) :=
      h.joinOrClaim hok nofun fun hne => absurd hrequest hne
    split
    · rename_i token htoken
      split
      · exact h.returnToken hok htoken
      · exact hload
    · exact hload
  · rename_i status generation hrequest
    split
    · exact h.answer hok _ nofun
    rename_i hguard
    have hallow : allowRefresh := by
      cases allowRefresh with
      | true => rfl
      | false => simp at hguard
    split
    · rename_i hfresh
      simp only [Bool.and_eq_true, decide_eq_true_eq] at hfresh
      exact h.answer hok _ fun _ => ⟨status, generation, hrequest, hfresh.1, hallow⟩
    rename_i hstale
    split
    · exact h.answer hok _ nofun
    rename_i hlatch
    -- The rejected generation is the stored one.
    obtain ⟨hpos, hle⟩ := hok.rejected status generation hrequest
    have htoken := h.token_isSome (Nat.lt_of_lt_of_le hpos hle)
    have heq : generation = s.state.generation := by
      simp only [htoken, Bool.and_true, decide_eq_true_eq] at hstale
      omega
    refine h.joinOrClaim hok (fun _ => ⟨heq, ?_⟩) fun _ => hallow
    rw [← heq]
    exact hlatch

theorem pass (hok : Becomes allowRefresh s i c) (hstage : c.stage = .passed) :
    Stepped allowRefresh i s (s.pass i c) := by
  unfold Bearer.pass
  split
  · split
    · rename_i token htoken
      exact h.returnToken hok htoken
    · exact h.answer hok _ nofun
  · rename_i status generation hrequest
    have hallow := hok.allowed (by rw [hrequest]; nofun) (by rw [hstage]; rfl)
    split
    · rename_i hfresh
      simp only [Bool.and_eq_true, decide_eq_true_eq] at hfresh
      exact h.answer hok _ fun _ => ⟨status, generation, hrequest, hfresh.1, hallow⟩
    · exact h.setCall hok.move

theorem fail (hc : Becomes allowRefresh s i c) (error : NetError) :
    Stepped allowRefresh i s (s.fail i c error) := by
  unfold Bearer.fail
  split
  · exact h.answer hc _ nofun
  · exact h.answer hc _ nofun

theorem release (hc : Becomes allowRefresh s i c) {w : Waiter} (hstage : c.stage = .waiting gate w)
    (result : Option (Except ErrorKind Unit)) :
    Stepped allowRefresh i s (s.release i c result) := by
  unfold Bearer.release
  split
  · exact h.fail hc _
  · exact h.fail hc _
  · refine h.setCall (hc.move fun hrequest _ => ?_)
    exact hc.allowed hrequest (by rw [hstage]; rfl)

end

/-- **Every step of a call keeps the invariant.** -/
theorem runCall (now : Nat) (spawned : Bool) (i : Nat) :
    Stepped allowRefresh i s (s.runCall allowRefresh now spawned i) := by
  unfold Bearer.runCall
  split
  · exact h.stay
  rename_i c hc
  have hok := h.becomes hc
  have hallowed : c.stage.inside → c.request ≠ .apply → allowRefresh :=
    fun hin hrequest => hok.allowed hrequest hin
  split
  · exact h.enter hok now
  · rename_i gate hstage
    split
    · exact h.stay
    rename_i f hget
    have hallowed := hallowed (by rw [hstage]; rfl)
    obtain ⟨f', hget', hclaimed, howner⟩ := hok.starting gate hstage
    obtain rfl := Option.mem_unique hget hget'
    have hgate := (h.fetches gate f hget).gate
    unfold Fetch.GateOk at hgate
    rw [hclaimed] at hgate
    -- The owner was the only call that was about to spawn this fetch.
    have hfree : ∀ stage, (∀ gate, stage ≠ CallStage.starting gate) →
        NotStarting (s.moveCall i c stage) gate := by
      intro stage hne j c' hget' hstarting
      obtain ⟨-, rfl⟩ | ⟨hij, hget'⟩ := get_set hget'
      · exact hne gate hstarting
      obtain ⟨f', hget', -, howner'⟩ := (h.calls j c' hget').starting gate hstarting
      obtain rfl := Option.mem_unique hget hget'
      exact hij (howner'.symm.trans howner)
    have hspawn : ∀ {stage : CallStage} {next : FetchStage} {inline : Bool},
        Stepped allowRefresh i s (s.moveCall i c stage) → NotStarting (s.moveCall i c stage) gate →
        next.pending → Fetch.GateOk { f with stage := next, inline } →
        Stepped allowRefresh i s
          ((s.moveCall i c stage).setFetch gate { f with stage := next, inline }) :=
      fun hmoved hfree hpending hnext =>
        ⟨(hmoved.inv.setFetch (i := i) hget hclaimed hfree (.refl _) hnext hpending nofun).inv,
          hmoved.calls, Extends.set hget (.refl _)⟩
    split
    · have hmoved : Stepped allowRefresh i s (s.moveCall i c (.waiting gate .fresh)) :=
        h.wait hok hget trivial hallowed
      exact hspawn hmoved (hfree _ nofun) rfl hgate
    · have hmoved : Stepped allowRefresh i s (s.moveCall i c (.completing gate)) :=
        h.setCall (hok.move fun hrequest _ => hallowed hrequest)
      exact hspawn hmoved (hfree _ nofun) rfl hgate
  · rename_i gate hstage
    split
    · exact h.stay
    rename_i f hget
    split
    · exact h.wait hok hget trivial (hallowed (by rw [hstage]; rfl))
    · exact h.advance i gate .panicked now
  · rename_i gate w hstage
    split
    · exact h.stay
    rename_i f hget
    obtain ⟨f', hget', hsound⟩ := hok.waiting gate w hstage
    obtain rfl := Option.mem_unique hget hget'
    have hstep := hsound.step (h.fetches gate f hget).gate.ordered
    split
    · rename_i w' hw
      rw [hw] at hstep
      exact h.wait hok hget hstep (hallowed (by rw [hstage]; rfl))
    · rename_i result hw
      exact h.release hok hstage result
  · rename_i hstage
    exact h.pass hok hstage
  · exact h.stay

theorem step (action : BearerAction) : ProviderInv allowRefresh (s.step allowRefresh action) := by
  cases action with
  | call request =>
    simp only [Bearer.step]
    split
    · rename_i hcredible
      have hrejected : ∀ status generation, request = .unauthorized status generation →
          0 < generation ∧ generation ≤ s.state.generation := by
        rintro status generation rfl
        obtain ⟨p, hp, rfl⟩ : ∃ p ∈ s.returned, p.2 = generation := by
          simpa [Bearer.credible] using hcredible
        have hmem : p.2 ∈ s.stored.map Prod.snd := List.mem_map_of_mem (h.returned p hp)
        rw [h.numbered, List.mem_range'_1] at hmem
        omega
      exact { h with
        calls := fun j c hget => by
          obtain ⟨-, rfl⟩ | hget := get_append hget
          · exact {
              starting := nofun
              waiting := nofun
              rejected := hrejected
              allowed := nofun
              retried := nofun }
          · exact h.calls j c hget }
    · exact h
  | run i now spawned => exact (h.runCall now spawned i).inv
  | fetch gate answer now =>
    simp only [Bearer.step]
    split
    · exact h
    · exact (h.advance 0 gate answer now).inv

theorem run (actions : List BearerAction) :
    ProviderInv allowRefresh (Machine.run (Bearer.step allowRefresh) s actions) :=
  Machine.run_invariant (fun _ action h => h.step action) actions h

end

end ProviderInv

/-! ## Release -/

/-- Where a gate's result sends a waiting call: its error is the answer. -/
def Request.after (request : Request) : Except ErrorKind Unit → CallStage
  | .ok _ => .passed
  | .error kind =>
    let error := (NetError.new kind).withStage .provider
    match request with
    | .apply => .answered (.token (.error error))
    | .unauthorized _ _ => .answered (.action (.error error))

theorem release_some (result : Except ErrorKind Unit) :
    s.release i c (some result) = s.moveCall i c (c.request.after result) := by
  cases result with
  | ok => rfl
  | error kind =>
    simp only [Bearer.release, Bearer.fail, Request.after]
    cases c.request <;> rfl

def BearerAction.ofCall (i : Nat) : BearerAction → Bool
  | .run j _ _ => j = i
  | _ => false

/-- No action moves a gate back, or another call. -/
theorem step_frame (h : ProviderInv allowRefresh s) (action : BearerAction) :
    Extends s.fetches (s.step allowRefresh action).fetches ∧ ∀ (i : Nat) (c : Call),
      s.calls[i]? = some c → ∃ c' : Call, (s.step allowRefresh action).calls[i]? = some c' ∧
        c'.request = c.request ∧ (action.ofCall i = false → c' = c) := by
  have hsame (i : Nat) (c : Call) (hc : s.calls[i]? = some c) : ∃ c' : Call,
      s.calls[i]? = some c' ∧ c'.request = c.request ∧ (action.ofCall i = false → c' = c) :=
    ⟨c, hc, rfl, fun _ => rfl⟩
  cases action with
  | call request =>
    simp only [Bearer.step]
    split
    · exact ⟨.refl _, fun i c hc => ⟨c, get_append_left hc _, rfl, fun _ => rfl⟩⟩
    · exact ⟨.refl _, hsame⟩
  | run j now spawned =>
    obtain ⟨-, hcalls, hextends⟩ := h.runCall now spawned j
    refine ⟨hextends, fun i c hc => ?_⟩
    obtain ⟨c', hc', hrequest, hother⟩ := hcalls i c hc
    exact ⟨c', hc', hrequest, fun hnot => hother (of_decide_eq_false hnot)⟩
  | fetch gate answer now =>
    simp only [Bearer.step]
    split
    · exact ⟨.refl _, hsame⟩
    refine ⟨(h.advance 0 gate answer now).gates, fun i c hc => ?_⟩
    -- A step of a fetch is none of any call.
    obtain ⟨c', hc', hrequest, hother⟩ := (h.advance (i + 1) gate answer now).calls i c hc
    exact ⟨c', hc', hrequest, fun _ => hother (Nat.succ_ne_self i)⟩

/-- **A call leaves a gate only with its result**; until then each own step brings it closer to the
result of a raised gate. -/
theorem step_waiting (h : ProviderInv allowRefresh s) {w : Waiter} (hc : s.calls[i]? = some c)
    (hstage : c.stage = .waiting gate w) (hget : s.fetches[gate]? = some f)
    (action : BearerAction) :
    ∃ c' : Call, (s.step allowRefresh action).calls[i]? = some c' ∧ c'.request = c.request ∧
      ((∃ w', c'.stage = .waiting gate w' ∧ (action.ofCall i = false → w' = w) ∧
          ((∃ result, f.gate.Raised result) → action.ofCall i → w'.rank < w.rank)) ∨
        ∃ result, f.gate.result = some result ∧ c'.stage = c.request.after result) := by
  have hset := fun c' => set_self hc c'
  by_cases hown : action.ofCall i
  · obtain ⟨now, spawned, rfl⟩ : ∃ now spawned, action = .run i now spawned := by
      cases action with
      | run j now spawned =>
        obtain rfl : j = i := by simpa [BearerAction.ofCall] using hown
        exact ⟨now, spawned, rfl⟩
      | call | fetch => cases hown
    obtain ⟨f', hget', hsound⟩ := (h.calls i c hc).waiting gate w hstage
    obtain rfl := Option.mem_unique hget hget'
    have hstep := hsound.step (h.fetches gate f hget).gate.ordered
    simp only [Bearer.step, Bearer.runCall, hc, hstage, hget]
    cases hw : w.step f.gate with
    | waiting w' =>
      refine ⟨_, hset _, rfl, .inl ⟨w', rfl, fun hnot => by simp [hown] at hnot, ?_⟩⟩
      rintro ⟨result, hraised⟩ -
      obtain hread | ⟨w₁, hwait, hrank⟩ := step_of_raised hraised hsound
      · rw [hw] at hread
        cases hread
      · rw [hw] at hwait
        cases hwait
        exact hrank
    | read result =>
      rw [hw] at hstep
      obtain ⟨result, rfl⟩ := Option.isSome_iff_exists.mp hstep.2
      dsimp only
      rw [release_some]
      exact ⟨_, hset _, rfl, .inr ⟨result, hstep.1, rfl⟩⟩
  · obtain ⟨c', hc', hrequest, hsame⟩ := (step_frame h action).2 i c hc
    obtain rfl := hsame (by simpa using hown)
    exact ⟨c', hc', rfl, .inl ⟨w, hstage, fun _ => rfl, fun _ h => absurd h hown⟩⟩

/-- **A waiting call is released with the result of its gate**, however its steps interleave with
those of others. -/
theorem leaves_of_raised :
    ∀ (later : List BearerAction) {s : Bearer}, ProviderInv allowRefresh s →
      ∀ (c : Call) (w : Waiter) (f : Fetch), s.calls[i]? = some c →
      c.stage = .waiting gate w → s.fetches[gate]? = some f → f.gate.Raised result →
      w.rank < later.countP (BearerAction.ofCall i) →
      ∃ before, before <+: later ∧ ∃ c' : Call,
        (Machine.run (Bearer.step allowRefresh) s before).calls[i]? = some c' ∧
          c'.stage = c.request.after result
  | [], _, _, _, _, _, _, _, _, _, hrank => by cases hrank
  | action :: later, s, h, c, w, f, hc, hstage, hget, hraised, hrank => by
    obtain ⟨f', hget', hgrows⟩ := (step_frame h action).1 gate f hget
    obtain ⟨c', hc', hrequest, ⟨w', hstage', hsame, hcloser⟩ | ⟨result', hresult, hleft⟩⟩ :=
      step_waiting h hc hstage hget action
    · have hrank' : w'.rank < later.countP (BearerAction.ofCall i) := by
        rw [List.countP_cons] at hrank
        by_cases hown : action.ofCall i
        · have := hcloser ⟨result, hraised⟩ hown
          rw [if_pos hown] at hrank
          omega
        · rw [if_neg hown] at hrank
          rw [hsame (by simpa using hown)]
          exact hrank
      obtain ⟨before, hbefore, hleaves⟩ := leaves_of_raised later (h.step action) c' w' f' hc'
        hstage' hget' (hraised.grows hgrows) hrank'
      exact ⟨action :: before, List.prefix_cons_inj action |>.mpr hbefore, hrequest ▸ hleaves⟩
    · rw [hraised.1] at hresult
      cases hresult
      exact ⟨[action], ⟨later, rfl⟩, c', hc', hleft⟩

/-- **Bearer single flight**, for every interleaving: at most one call of the source is outstanding;
stored tokens are numbered one by one, and what `current_token` returned was stored together;
`refresh` is called at most once for a generation; fresh credentials are announced only with a later
generation stored, and never by a provider that may not refresh. Whatever the next step is, a call
at a gate waits or leaves with the gate's result: its error as the answer, or to go on. Once the
fetch is finished it leaves within two own steps. -/
theorem bearer_single_flight (allowRefresh : Bool) (actions : List BearerAction) :
    let s := Machine.run (Bearer.step allowRefresh) {} actions
    (∀ (n m : Nat) (f g : Fetch), s.fetches[n]? = some f → s.fetches[m]? = some g →
      f.stage.outstanding = true → g.stage.outstanding = true → n = m) ∧
    (s.stored.map Prod.snd = List.range' 1 s.state.generation ∧
      s.state.token.map (·, s.state.generation) = s.stored.getLast? ∧
      ∀ p ∈ s.returned, p ∈ s.stored) ∧
    s.refreshes.Nodup ∧
    (∀ c ∈ s.calls, c.stage = .answered (.action (.ok .retryWithFreshCredentials)) →
      allowRefresh = true ∧ ∃ status generation, c.request = .unauthorized status generation ∧
        generation < s.state.generation ∧ s.state.token.isSome = true) ∧
    ∀ (i gate : Nat) (c : Call) (w : Waiter), s.calls[i]? = some c → c.stage = .waiting gate w →
      ∃ f : Fetch, s.fetches[gate]? = some f ∧
      (∀ action, ∃ c' : Call, (s.step allowRefresh action).calls[i]? = some c' ∧
        ((∃ w', c'.stage = .waiting gate w') ∨
          ∃ result, f.gate.result = some result ∧ c'.stage = c.request.after result)) ∧
      (f.stage = .finished → ∃ result, f.gate.result = some result ∧
        ∀ later : List BearerAction, 2 ≤ later.countP (BearerAction.ofCall i) →
          ∃ before, before <+: later ∧ ∃ c' : Call,
            (Machine.run (Bearer.step allowRefresh) s before).calls[i]? = some c' ∧
              c'.stage = c.request.after result) := by
  intro s
  have h : ProviderInv allowRefresh s := ProviderInv.init.run actions
  refine ⟨?_, ⟨h.numbered, h.token, h.returned⟩, h.once, ?_, ?_⟩
  · intro n m f g hn hm hf hg
    have hpending : ∀ {stage : FetchStage}, stage.outstanding = true → stage.pending = true := by
      intro stage hstage
      cases stage <;> simp_all [FetchStage.outstanding, FetchStage.pending]
    exact h.pending_unique hn hm (hpending hf) (hpending hg)
  · intro c hmem hstage
    obtain ⟨i, hc⟩ := List.mem_iff_getElem?.mp hmem
    obtain ⟨status, generation, hrequest, hlt, hallowed⟩ := (h.calls i c hc).retried hstage
    exact ⟨hallowed, status, generation, hrequest, hlt,
      h.token_isSome (Nat.lt_of_le_of_lt (Nat.zero_le _) hlt)⟩
  · intro i gate c w hc hstage
    obtain ⟨f, hget, -⟩ := (h.calls i c hc).waiting gate w hstage
    refine ⟨f, hget, fun action => ?_, fun hfinished => ?_⟩
    · obtain ⟨c', hc', -, hnext⟩ := step_waiting h hc hstage hget action
      exact ⟨c', hc', hnext.imp_left fun ⟨w', hstage', _⟩ => ⟨w', hstage'⟩⟩
    · have hgate := (h.fetches gate f hget).gate
      unfold Fetch.GateOk at hgate
      rw [hfinished] at hgate
      obtain ⟨⟨result, hresult⟩, hnotified⟩ := hgate
      refine ⟨result, hresult, fun later hlater => ?_⟩
      have hrank : w.rank ≤ 1 := by cases w <;> simp [Waiter.rank]
      exact leaves_of_raised later h c w f hc hstage hget ⟨hresult, hnotified⟩ (by omega)

/-- A call that waits at a gate whose fetch is finished. -/
example : ∃ (c : Call) (f : Fetch),
    let s := Machine.run (Bearer.step true) {} ([.call .apply, .run 0 0 true, .run 0 0 true] ++
      List.replicate 5 (.fetch 0 (.answered (.ok ⟨"token", none⟩)) 0))
    s.calls[0]? = some c ∧ c.stage = .waiting 0 .fresh ∧ s.fetches[0]? = some f ∧
      f.stage = .finished :=
  ⟨_, _, rfl, rfl, rfl, rfl⟩

end OpenNet.Http.Auth
