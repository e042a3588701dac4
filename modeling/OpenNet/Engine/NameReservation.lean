import OpenNet.Engine.ClientRegistry
import OpenNet.Foundation.Pool

/-!
# Reserved names have an owner, and live workers keep their name

The job of a name holds the reservation, whatever happens.  A reservation without a job appears
only when a posted future is dropped or panics, and a client loses its name before its workers
were joined only when a destruction goes on without having joined them.
-/

namespace OpenNet.Engine

def Slot.client? : Slot → Option ClientId
  | .creating => none
  | .ready c | .closing c => some c
  | .managed c => c

def Slot.Reserved : Slot → Prop
  | .creating | .closing _ => True
  | .ready _ | .managed _ => False

/-- Somebody is left who will take the payload. -/
def Job.Handed (j : Job) : Prop := ∃ (k : Nat) (x : Runner), j.runners[k]? = some x ∧ x ≠ .gone

theorem Job.handed_set {j : Job} {k : Nat} {x y : Runner} (hk : j.runners[k]? = some x)
    (hy : y ≠ .gone) : Job.Handed { j with runners := j.runners.set k y } :=
  ⟨k, y, Pool.set_self hk y, hy⟩

theorem Job.handed_cons {j : Job} {x : Runner} {rest : List Runner} (h : j.runners = x :: rest)
    (hx : x ≠ .gone) : j.Handed :=
  ⟨0, x, by simp [h], hx⟩

/-- Only a WebSocket destruction has a payload: there until it is taken, and run once after that. -/
structure Job.Sound (r : Registry) (j : Job) : Prop where
  posted : ¬(r = .ws ∧ j.client.isSome) →
    j.runners = [] ∧ j.runs = 0 ∧ j.stage ≠ .guarded ∧ j.stage ≠ .cleaning
  guarded : j.stage = .guarded → j.runners = [] ∧ j.payload = false ∧ j.runs = 0
  cleaning : j.stage = .cleaning → j.payload ∧ j.runs = 0 ∧ j.Handed
  claimed : r = .ws → j.client.isSome → j.stage ≠ .guarded → j.stage ≠ .cleaning →
    j.payload = false ∧ j.runs = 1

namespace Job.Sound

variable {r : Registry} {j : Job}

theorem runs_le (h : j.Sound r) : j.runs ≤ 1 := by
  by_cases hws : r = .ws ∧ j.client.isSome
  · cases hstage : j.stage <;> grind [Job.Sound]
  · rw [(h.posted hws).2.1]
    exact Nat.zero_le 1

theorem move (h : j.Sound r) (hold : j.stage ≠ .guarded ∧ j.stage ≠ .cleaning) {next : Stage}
    (hnext : next ≠ .guarded ∧ next ≠ .cleaning) : ({ j with stage := next } : Job).Sound r := by
  constructor <;> grind [Job.Sound]

theorem handOver (h : j.Sound r) (hstage : j.stage = .guarded) {x : Runner} {rest : List Runner}
    (hx : x ≠ .gone) :
    ({ j with stage := .cleaning, payload := true, runners := x :: rest } : Job).Sound r where
  posted hn := absurd hstage (h.posted hn).2.2.1
  guarded := nofun
  cleaning _ := ⟨rfl, (h.guarded hstage).2.2, handed_cons rfl hx⟩
  claimed _ _ _ hnot := absurd rfl hnot

section

variable {k : Nat} {x : Runner} (h : j.Sound r) (hk : j.runners[k]? = some x)
include h hk

theorem runner : j.stage ≠ .guarded ∧ r = .ws ∧ j.client.isSome := by
  grind [Job.Sound]

theorem setRunner {y : Runner} (hy : j.payload → y ≠ .gone) :
    ({ j with runners := j.runners.set k y } : Job).Sound r := by
  have := h.runner hk
  constructor <;> grind [Job.Sound, handed_set]

theorem run (hpayload : j.payload) {next : Stage}
    (hnext : next ≠ .guarded ∧ next ≠ .cleaning) :
    ({ j with
      runners := j.runners.set k .gone, payload := false, runs := j.runs + 1
      stage := next } : Job).Sound r := by
  have := h.runner hk
  constructor <;> grind [Job.Sound]

end

end Job.Sound

namespace Entry

/-- The future of a creation or of an HTTP destruction is dropped or panics. -/
def Drops (r : Registry) (s : Entry) (a : Action) : Prop :=
  a = .job .abandon ∧ r ≠ .netStatus ∧ ∃ j, s.job = some j ∧ ¬(r = .ws ∧ j.client.isSome)

/-- A destruction goes on without having joined the workers. -/
def GivesUp (r : Registry) (s : Entry) (a : Action) : Prop :=
  ∃ j, s.job = some j ∧
    (a = .job (.shutdown false) ∧ r = .http ∧ j.stage = .running ∧ j.client.isSome ∨
      ∃ k, a = .job (.runHere k true) ∧ j.payload ∧ j.runners[k]? = some .caller)

variable {r : Registry} {s : Entry} {j : Job}

/-- The job of a name holds its reservation. -/
structure Owned (r : Registry) (s : Entry) : Prop where
  sound : ∀ j, s.job = some j → j.Sound r
  slot : ∀ j, s.job = some j → s.slot = some j.slot
  payloads : ∀ n ∈ s.payloads, n = 1

theorem Owned.put (h : Owned r s) (hj : s.job = some j) {x : Job} (hx : x.Sound r)
    (hclient : x.client = j.client) : Owned r (s.put x) where
  sound _ he := Option.some.inj he ▸ hx
  slot _ he := by
    rw [← Option.some.inj he, Job.slot, hclient]
    exact h.slot j hj
  payloads := h.payloads

theorem owned_none {slot : Option Slot} {clients payloads : List Nat}
    (h : ∀ n ∈ payloads, n = 1) : Owned r { slot, clients, job := none, payloads } where
  sound _ hx := by cases hx
  slot _ hx := by cases hx
  payloads := h

theorem Owned.runPayload (h : Owned r s) (hj : s.job = some j) {k : Nat} {x : Runner}
    (hk : j.runners[k]? = some x) {next : Stage} (hnext : next ≠ .guarded ∧ next ≠ .cleaning) :
    Owned r (s.runPayload j k next) := by
  have hsound := h.sound j hj
  unfold Entry.runPayload
  refine h.put hj ?_ (by split <;> rfl)
  split
  · rename_i hpayload
    exact hsound.run hk hpayload hnext
  · rename_i hpayload
    exact hsound.setRunner hk fun h => absurd h hpayload

theorem stepJob_owned (h : Owned r s) (hj : s.job = some j) (b : JobAction) :
    Owned r (s.stepJob r j b) := by
  have hsound := h.sound j hj
  fun_cases stepJob r s j b with
  | case1 hstage => exact h.put hj (hsound.move (by simp [hstage]) (by simp)) rfl
  | case4 | case5 | case6 | case11 | case12 => exact owned_none h.payloads
  | case8 launched hguard =>
    refine h.put hj (hsound.move (by simp [hguard]) ?_) rfl
    cases launched <;> simp
  | case14 hstage => exact h.put hj (hsound.handOver hstage (by simp)) rfl
  | case16 accepted queued hstage =>
    cases accepted with
    | true => exact h.put hj (hsound.handOver hstage (by simp)) rfl
    | false => exact h.put hj (hsound.handOver hstage (by cases queued <;> simp)) rfl
  | case18 k hk => exact h.put hj (hsound.setRunner hk (by simp)) rfl
  | case20 k spawned hk next =>
    refine h.put hj (hsound.setRunner hk fun hpayload => ?_) rfl
    cases spawned <;> simp [next, hpayload]
  | case22 k hk =>
    obtain hk | hk := hk <;> exact h.runPayload hj hk (by simp)
  | case24 k onWorker hk => exact h.runPayload hj hk (by cases onWorker <;> simp)
  | case27 c hclient hstage =>
    refine owned_none fun n hn => ?_
    split at hn
    · rename_i hws
      obtain hn | hn := List.mem_append.mp hn
      · exact h.payloads n hn
      -- the destruction that ends here has run its payload
      obtain rfl := List.mem_singleton.mp hn
      have hnot : j.stage ≠ .guarded ∧ j.stage ≠ .cleaning := by
        obtain hstage | ⟨hstage, -⟩ := hstage <;> simp [hstage]
      exact (hsound.claimed hws (by simp [hclient]) hnot.1 hnot.2).2
    · exact h.payloads n hn
  | _ => exact h

theorem step_owned (h : Owned r s) (a : Action) : Owned r (s.step r a) := by
  cases a with
  | job b =>
    simp only [step]
    split
    · exact h
    · rename_i j hj
      exact stepJob_owned h hj b
  | _ =>
    simp only [step]
    constructor
    · have := h.sound
      grind [Job.Sound, Job.slot]
    · have := h.slot
      grind [Job.slot]
    · have := h.payloads
      grind

def Kept (s : Entry) : Prop :=
  ∀ slot, s.slot = some slot → slot.Reserved → s.job.isSome

theorem step_kept (h : Owned r s) (hk : s.Kept) (hr : r ≠ .netStatus) {a : Action}
    (ha : ¬s.Drops r a) : (s.step r a).Kept := by
  have := h.slot
  cases a with
  | job b =>
    simp only [step]
    split
    · exact hk
    · rename_i j hj
      cases b <;> simp only [stepJob] <;>
        grind [put, runPayload, Job.slot, Kept, Slot.Reserved, Drops]
  | _ =>
    simp only [step]
    grind [Kept, Slot.Reserved]

/-- A job that ends leaves the name ready or free. -/
theorem step_settles (h : Owned r s) (hj : s.job = some j) (hr : r ≠ .netStatus) {a : Action}
    (ha : ¬s.Drops r a) (hend : (s.step r a).job = none) :
    (s.step r a).slot = none ∨ ∃ c, (s.step r a).slot = some (.ready c) := by
  have := h.slot j hj
  cases a with
  | job b =>
    simp only [step, hj] at hend ⊢
    cases b <;> simp only [stepJob] at hend ⊢ <;> grind [put, runPayload, Job.slot, Drops]
  | _ =>
    simp only [step] at hend ⊢
    grind [Job.slot]

/-- A client with live workers is the one that the name stands for. -/
structure Registered (s : Entry) : Prop where
  live : ∀ (c n : Nat), s.clients[c]? = some n → n ≠ 0 → s.slot.bind Slot.client? = some c
  joining : ∀ j, s.job = some j → j.stage ≠ .failed

theorem step_registered (h : Owned r s) (hs : s.Registered) {a : Action} (ha : ¬s.GivesUp r a) :
    (s.step r a).Registered := by
  have hslot := h.slot
  obtain ⟨hlive, hjoining⟩ := hs
  cases a with
  | job b =>
    simp only [step]
    split
    · exact ⟨hlive, hjoining⟩
    rename_i j hj
    cases b <;> simp only [stepJob] <;> constructor <;>
      grind [put, runPayload, Job.slot, Slot.client?, GivesUp]
  | _ =>
    simp only [step]
    constructor <;> grind [Slot.client?]

end Entry

/-- What steps at one name preserve under a condition, runs of the engine preserve. -/
theorem run_entries {I : Registry → Entry → Prop} {P : Registry → Entry → Action → Prop}
    (hstep : ∀ r s a, P r s a → I r s → I r (Entry.step r s a)) (hnew : ∀ r, I r {})
    (acts : List ((Registry × String) × Action))
    (hacts : Machine.Along step (fun s a => P a.1.1 (s a.1) a.2) (fun _ => {}) acts)
    (key : Registry × String) : I key.1 (Machine.run step (fun _ => {}) acts key) := by
  refine Machine.run_invariant_along (I := fun s => ∀ key, I key.1 (s key)) ?_ acts hacts
    (fun key => hnew key.1) key
  intro s a ha hs key
  by_cases hkey : key = a.1
  · subst hkey
    simpa [step] using hstep _ _ _ ha (hs a.1)
  · simpa [step, hkey] using hs key

theorem owned_new (r : Registry) : Entry.Owned r {} := ⟨by simp, by simp, by simp⟩

/-- **A reserved name has an owner.** Unless a future of a creation or of an HTTP destruction panics
or is dropped, a WebSocket or HTTP name that is `Creating` or `Closing` has a job with this
reservation; somebody is left who will take a waiting WebSocket payload. When the job ends, the name
is ready or free. -/
theorem reservations_owned (acts : List ((Registry × String) × Action))
    (hacts : Machine.Along step (fun s a => ¬(s a.1).Drops a.1.1 a.2) (fun _ => {}) acts)
    (r : Registry) (hr : r ≠ .netStatus) (name : String) :
    let s := Machine.run step (fun _ => {}) acts (r, name)
    (∀ slot, s.slot = some slot → slot.Reserved →
      ∃ j, s.job = some j ∧ j.slot = slot ∧ (j.stage = .cleaning → j.Handed)) ∧
    ∀ a j, ¬s.Drops r a → s.job = some j → (s.step r a).job = none →
      (s.step r a).slot = none ∨ ∃ c, (s.step r a).slot = some (.ready c) := by
  intro s
  obtain ⟨howned, hkept⟩ : s.Owned r ∧ (r ≠ .netStatus → s.Kept) := by
    refine run_entries (P := fun r s a => ¬s.Drops r a)
      (I := fun r s => s.Owned r ∧ (r ≠ .netStatus → s.Kept)) (fun r s a ha h => ?_)
      (fun r => ⟨owned_new r, fun _ => by simp [Entry.Kept]⟩) acts hacts (r, name)
    exact ⟨Entry.step_owned h.1 a, fun hr => Entry.step_kept h.1 (h.2 hr) hr ha⟩
  refine ⟨fun slot hslot hreserved => ?_, fun a j ha hj => Entry.step_settles howned hj hr ha⟩
  obtain ⟨j, hj⟩ := Option.isSome_iff_exists.mp (hkept hr slot hslot hreserved)
  exact ⟨j, hj, Option.some.inj ((howned.slot j hj).symm.trans hslot),
    fun hcleaning => ((howned.sound j hj).cleaning hcleaning).2.2⟩

theorem reservations_owned_creating :
    ∃ j, (Machine.run step (fun _ => {}) [((.ws, "a"), .create)] (.ws, "a")).job = some j ∧
      j.slot = .creating :=
  have h := reservations_owned [((.ws, "a"), .create)] ⟨by simp [Entry.Drops], trivial⟩
    .ws (by decide) "a"
  have ⟨j, hj, hslot, _⟩ := h.1 .creating rfl trivial
  ⟨j, hj, hslot⟩

/-- `post` could not hand a creation on: its future is dropped, and nobody is left to release the
name. -/
theorem dropped_creation_orphans_name :
    let s := Machine.run step (fun _ => {})
      [((.http, "a"), .create), ((.http, "a"), .job .abandon)] (.http, "a")
    s.slot = some .creating ∧ s.job = none := by
  decide

/-- **Live workers keep their name.** Unless a destruction goes on without having joined the
workers, a client with live workers is the one its name stands for: a name without a slot has none,
two clients with live workers never share a name; and a WebSocket payload is run once. -/
theorem names_outlive_workers (acts : List ((Registry × String) × Action))
    (hacts : Machine.Along step (fun s a => ¬(s a.1).GivesUp a.1.1 a.2) (fun _ => {}) acts)
    (r : Registry) (name : String) :
    let s := Machine.run step (fun _ => {}) acts (r, name)
    (∀ (c : ClientId) (n : Nat), s.clients[c]? = some n → n ≠ 0 →
      s.slot.bind Slot.client? = some c) ∧
    (s.slot = none → ∀ n ∈ s.clients, n = 0) ∧
    (∀ (c c' : ClientId) (n n' : Nat), s.clients[c]? = some n → s.clients[c']? = some n' →
      n ≠ 0 → n' ≠ 0 → c = c') ∧
    (∀ n ∈ s.payloads, n = 1) ∧ ∀ j, s.job = some j → j.runs ≤ 1 := by
  intro s
  obtain ⟨howned, h⟩ : s.Owned r ∧ s.Registered := by
    refine run_entries (P := fun r s a => ¬s.GivesUp r a)
      (I := fun r s => s.Owned r ∧ s.Registered) (fun r s a ha h => ?_)
      (fun r => ⟨owned_new r, by simp, by simp⟩) acts hacts (r, name)
    exact ⟨Entry.step_owned h.1 a, Entry.step_registered h.1 h.2 ha⟩
  refine ⟨h.live, fun hslot n hn => ?_, fun c c' n n' hc hc' hn hn' => ?_, howned.payloads, ?_⟩
  · obtain ⟨c, hc⟩ := List.mem_iff_getElem?.mp hn
    exact by_contra fun hn => by simpa [hslot] using h.live c n hc hn
  · exact Option.some.inj ((h.live c n hc hn).symm.trans (h.live c' n' hc' hn'))
  · exact fun j hj => (howned.sound j hj).runs_le

theorem names_outlive_workers_ready :
    let s := Machine.run step (fun _ => {})
      ([.create, .job .start, .job (.built true)].map (Prod.mk (.ws, "a"))) (.ws, "a")
    s.clients[0]? = some 1 ∧ s.slot.bind Slot.client? = some 0 := by
  refine ⟨rfl, (names_outlive_workers _ ?_ .ws "a").1 0 1 rfl (by decide)⟩
  simp [Machine.Along, Entry.GivesUp]

/-- The thread that joins an HTTP client's workers cannot be launched: the name is given back, and a
second client is created beside the live workers of the first. -/
theorem failed_shutdown_frees_name :
    let s := Machine.run step (fun _ => {})
      ([.create, .job .start, .job (.built true), .destroy, .job .start, .job (.shutdown false),
        .job .release, .create, .job .start, .job (.built true)].map (Prod.mk (.http, "a")))
      (.http, "a")
    s.clients = [3, 3] ∧ s.slot = some (.ready 1) := by
  decide

end OpenNet.Engine
