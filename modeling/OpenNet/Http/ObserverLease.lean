import OpenNet.Http.ObserverDelivery

/-!
# Observers of HTTP retries under middleware

Under middleware the end of a request waits in the `MiddlewareCompletion` until the lease has
ended, and whoever comes last, the loop or the lease, notifies it.  A lease that finds no attempt
recorded notifies the end itself; this is right when no attempt can start any more, and wrong
when the loop has just passed its check.  The report of a lease with an outcome replaces the
loop's; it counts the attempts when the loop was over by then.
-/

namespace OpenNet.Http

open RetryLoop (Mode LoopAction isOver Shape Added step_added)

/-! ## The completion -/

namespace CompletionState

variable {c : CompletionState} {t : TerminalObservation}

def ended (c : CompletionState) (outcome : Option (Except NetError Nat)) (report : RetryReport) :
    CompletionState :=
  { c with
    finished := true
    outcome
    elapsed := report.elapsed
    finalReport := if outcome.isSome then some report else c.finalReport }

theorem settle_attempts (c : CompletionState) (report : RetryReport) :
    (c.settle report).attempts = (c.finalReport.getD report).attempts := by
  unfold settle
  dsimp only
  split
  · split <;> rfl
  · split <;> rfl
  · rfl

theorem queue_cases (hwaiting : c.pending.isSome → c.finished = false)
    (t : TerminalObservation) :
    ((c.emitted ∨ c.pending.isSome) ∧ c.queue t = (none, c)) ∨
    (c.emitted = false ∧ c.pending = none ∧
      (c.finished = false ∧ c.queue t = (none, { c with pending := some t }) ∨
        c.finished ∧ c.queue t = (some { t with report := c.settle t.report },
          { c with pending := none, emitted := true }))) := by
  cases hemitted : c.emitted with
  | true => exact .inl ⟨.inl rfl, by simp [queue, takeReady, hemitted]⟩
  | false =>
    cases hpending : c.pending with
    | some u =>
      have hfinished := hwaiting (by rw [hpending]; rfl)
      exact .inl ⟨.inr rfl, by simp [queue, takeReady, hpending, hfinished]⟩
    | none =>
      refine .inr ⟨rfl, rfl, ?_⟩
      cases hfinished : c.finished with
      | false => exact .inl ⟨rfl, by simp [queue, takeReady, hemitted, hpending, hfinished]⟩
      | true =>
        refine .inr ⟨rfl, ?_⟩
        simp only [queue, takeReady, hemitted, hpending, hfinished]
        rfl

theorem finish_cases (hemitted : c.emitted = false) (outcome : Option (Except NetError Nat))
    (attempts : Nat) (report : RetryReport) :
    (∃ t, (c.pending = some t ∨ c.pending = none ∧ attempts = 0 ∧ t = ⟨none, {}⟩) ∧
      c.finish outcome attempts report =
        (some { t with report := (c.ended outcome report).settle t.report },
          { c.ended outcome report with pending := none, emitted := true })) ∨
    (c.pending = none ∧ 0 < attempts ∧
      c.finish outcome attempts report = (none, c.ended outcome report)) := by
  cases hpending : c.pending with
  | some t =>
    refine .inl ⟨t, .inl rfl, ?_⟩
    simp only [finish, hpending, Option.isNone_some, Bool.and_false, Bool.false_eq_true,
      if_false, takeReady, hemitted]
    rfl
  | none =>
    cases attempts with
    | zero =>
      refine .inl ⟨⟨none, {}⟩, .inr ⟨rfl, rfl, rfl⟩, ?_⟩
      simp only [finish, takeReady, hemitted, hpending]
      rfl
    | succ n => exact .inr ⟨rfl, Nat.succ_pos n, by simp [finish, takeReady, hpending, ended]⟩

end CompletionState

namespace Observation

/-! ## The invariant -/

/-- The lease may notify the end, or finds it in the completion. -/
def Closed (s : Observation) : Prop :=
  s.Quiet ∨ (isOver s.loop.stage ∧ handOvers s.transport.todo = [])

structure Queued (s : Observation) : Prop where
  slotless : s.control.pendingObservation = none
  emitted : s.completion.emitted ↔ s.terminals ≠ []
  single : s.terminals.length ≤ 1
  waiting : s.completion.pending.isSome → s.completion.finished = false
  ended : s.terminals ≠ [] → s.completion.finished
  finished : s.completion.finished → s.terminals ≠ [] ∨ observed s.loop.calls ≠ []
  positive : ∀ k, .storeAttempt k ∈ s.transport.todo → 0 < k
  unended : s.leaseEnding = false → s.lease.todo = [] ∧ s.completion.finished = false
  last : s.lease.todo.Pairwise fun op _ => op.rank ≠ 9
  leased : ∀ op ∈ s.lease.todo, op.rank ∉ [1, 2, 3, 8]
  ending : s.leaseEnding → s.completion.finished ∨ ∃ o, .finish o ∈ s.lease.todo
  once : s.completion.finished → ∀ o, .finish o ∉ s.lease.todo
  decided : s.leaseEnding → s.Closed ∨ 0 < s.control.attempt
  loaded : (∃ o, .finish o ∈ s.lease.todo) →
    .loadAttempt ∈ s.lease.todo ∨ 0 < s.lease.attempts ∨ s.Closed
  known : 0 < s.lease.attempts → observed s.loop.calls ≠ []

variable {events : List RetryEvent} {attempt attempts : Nat}
  {retryReport report : Option RetryReport} {cancelled : Bool} {a : LoopAction}

section Frames

variable {s s' : Observation} {op : Op} {rest : List Op}

theorem new_queued (mode : Mode) (random : UInt64) : Queued (new (.middleware mode) random) where
  slotless := rfl
  emitted := ⟨nofun, fun h => absurd rfl h⟩
  single := Nat.zero_le _
  waiting h := by cases h
  ended h := absurd rfl h
  finished h := by cases h
  positive k h := by cases h
  unended _ := ⟨rfl, rfl⟩
  last := List.Pairwise.nil
  leased op h := by cases h
  ending h := by cases h
  once h := by cases h
  decided h := by cases h
  loaded h := by obtain ⟨o, h⟩ := h; cases h
  known h := absurd h (Nat.lt_irrefl 0)

theorem Closed.of_eq (h : s.Closed) (hloop : s'.loop = s.loop) (hgone : s.gone → s'.gone)
    (hcancelled : s.control.cancelled → s'.control.cancelled)
    (hhandOvers : handOvers s.transport.todo = [] → handOvers s'.transport.todo = []) : s'.Closed :=
  h.imp (·.of_eq hloop hgone hcancelled) fun ⟨hover, hnone⟩ => ⟨hloop ▸ hover, hhandOvers hnone⟩

theorem Queued.frame (h : Queued s) {transport : Thread} {entered gone caught released : Bool}
    (hgone : s.gone → gone) (hattempt : 0 < s.control.attempt → 0 < attempt)
    (hcancelled : s.control.cancelled → cancelled)
    (hhandOvers : handOvers s.transport.todo = [] → handOvers transport.todo = [])
    (hpositive : ∀ k, .storeAttempt k ∈ transport.todo → 0 < k) :
    Queued { s with
      events, transport, entered, gone, caught, released
      control := { s.control with attempt, retryReport, cancelled } } :=
  { h with
    positive := hpositive
    decided hending :=
      (h.decided hending).imp (·.of_eq rfl hgone hcancelled hhandOvers) hattempt
    loaded hfinish :=
      (h.loaded hfinish).imp_right (Or.imp_right (·.of_eq rfl hgone hcancelled hhandOvers)) }

theorem Queued.is_ending (h : Queued s) (htodo : s.lease.todo = op :: rest) : s.leaseEnding := by
  by_contra hflag
  rw [(h.unended (Bool.not_eq_true _ ▸ hflag)).1] at htodo
  cases htodo

theorem Queued.pop_lease (h : Queued s) (htodo : s.lease.todo = op :: rest)
    (hop : ∀ o, op ≠ .finish o)
    (hloaded : attempts = s.lease.attempts ∧ op ≠ .loadAttempt ∨ attempts = s.control.attempt)
    (hstored : 0 < s.control.attempt → observed s.loop.calls ≠ []) :
    Queued { s with
      events, control := { s.control with retryReport }
      lease := { todo := rest, report, attempts } } := by
  have hending := h.is_ending htodo
  exact { h with
    unended := fun hflag => by rw [hending] at hflag; cases hflag
    last := by
      have hlast := h.last
      rw [htodo] at hlast
      exact (List.pairwise_cons.mp hlast).2
    leased := fun b hb => h.leased b (mem_tail htodo hb)
    ending := fun _ => (h.ending hending).imp_right fun ⟨o, ho⟩ =>
      ⟨o, (mem_popped htodo ho).resolve_left (hop o)⟩
    once := fun hfinished o ho => h.once hfinished o (mem_tail htodo ho)
    loaded := fun ⟨o, ho⟩ => by
      obtain ⟨hsame, hne⟩ | hload := hloaded
      · obtain hload | hpos | h' := h.loaded ⟨o, mem_tail htodo ho⟩
        · exact .inl ((mem_popped htodo hload).resolve_left hne)
        · exact .inr (.inl (hsame ▸ hpos))
        · exact .inr (.inr h')
      · obtain h' | hpos := h.decided hending
        · exact .inr (.inr h')
        · exact .inr (.inl (hload ▸ hpos))
    known := fun hpos => by
      obtain ⟨hsame, -⟩ | hload := hloaded
      · exact h.known (hsame ▸ hpos)
      · exact hstored (hload ▸ hpos) }

end Frames

/-! ## Steps -/

section Steps

variable {s : Observation} {mode : Mode} {op : Op} {rest : List Op}

theorem Queued.handOver (hs : Coherent s) (h : Queued s) {t : TerminalObservation}
    (htodo : s.transport.todo = .handOver t :: rest) :
    Coherent (s.runs (.middleware mode) (.handOver t) rest) ∧
      Queued (s.runs (.middleware mode) (.handOver t) rest) := by
  have hfits : s.Fits t := hs.fits t (by rw [places, htodo]; exact List.mem_cons_self)
  have hopen : handOvers s.transport.todo ≠ [] := by
    rw [htodo]
    exact List.cons_ne_nil _ _
  have hframe : ∀ noted : List RetryEvent, Queued { s with
      transport := { s.transport with todo := noted.map Op.notify ++ rest } } := fun _ =>
    h.frame id id id (fun hnone => absurd hnone hopen)
      fun k hk => h.positive k (mem_tail htodo (mem_notify hk (by simp)))
  simp only [Observation.runs, exec]
  obtain ⟨hwhere, heq⟩ | ⟨hemitted, hpending, ⟨hfinished, heq⟩ | ⟨hfinished, heq⟩⟩ :=
    s.completion.queue_cases h.waiting t
  · -- A second end is dropped: the first one is still in its place.
    simp only [heq, emit]
    refine ⟨hs.token_transport htodo (by simp) (List.append_nil _).symm rfl (fun u hu => ?_) ?_
      fun hne => absurd rfl hne, hframe []⟩
    · refine hs.fits u (List.mem_append_left _ ?_)
      rw [List.append_nil] at hu
      rw [List.append_assoc]
      exact List.mem_append_right _ hu
    · obtain hemitted | hsome := hwhere
      · exact List.append_ne_nil_of_right_ne_nil _ (h.emitted.mp hemitted)
      · obtain ⟨u, hu⟩ := Option.isSome_iff_exists.mp hsome
        simp [hu]
  · simp only [heq, emit]
    exact ⟨hs.token_transport htodo (by simp) (List.append_nil _).symm rfl
        (by simpa [h.slotless] using hfits) (by simp) fun hne => absurd rfl hne,
      { hframe [] with waiting := fun _ => hfinished }⟩
  · have hterminals : s.terminals = [] := by
      by_contra hne
      rw [h.emitted.mpr hne] at hemitted
      cases hemitted
    have hready : s.Fits { t with report := s.completion.settle t.report } := hfits
    simp only [heq, emit]
    exact ⟨hs.token_transport htodo (by simp) rfl (by simp)
        (by simpa [h.slotless] using hready) (by simp) fun _ => ⟨hterminals, h.slotless, rfl⟩,
      { hframe _ with
        emitted := ⟨fun _ => by simp, fun _ => rfl⟩
        single := by simp [hterminals]
        waiting := fun hsome => by cases hsome
        ended := fun _ => hfinished
        finished := fun _ => .inl (by simp) }⟩

theorem Queued.runs (hs : Coherent s) (h : Queued s) (htodo : s.transport.todo = op :: rest) :
    Coherent (s.runs (.middleware mode) op rest) ∧ Queued (s.runs (.middleware mode) op rest) := by
  have hpositive : ∀ k, .storeAttempt k ∈ rest → 0 < k := fun k hk =>
    h.positive k (mem_tail htodo hk)
  have hpop : op.handed = none → handOvers s.transport.todo = [] → handOvers rest = [] :=
    fun hhanded hnone => (handOvers_pop htodo hhanded).symm.trans hnone
  by_cases hplain : op.plain
  · obtain ⟨_, _, _, _, _, heq, hevents, hattempt, -⟩ :=
      exec_plain (.middleware mode) s { s.transport with todo := rest } hplain
    obtain ⟨hhanded, -⟩ := Op.plain_cases hplain
    rw [Observation.runs, heq]
    refine ⟨hs.pop_transport htodo hhanded hattempt hevents,
      h.frame id (fun hpos => ?_) id (hpop hhanded) hpositive⟩
    obtain hsame | hop := hattempt
    · exact hsame ▸ hpos
    · exact h.positive _ (hop ▸ mem_head htodo)
  cases op with
  | handOver t => exact h.handOver hs htodo
  | emitPending =>
    simp only [Observation.runs, exec, h.slotless]
    exact ⟨hs.pop_transport htodo rfl (.inl rfl) (List.append_nil _).symm,
      h.frame id id id (hpop rfl) hpositive⟩
  | finish outcome => exact absurd (hs.sorted.2 _ (mem_head htodo)) (by simp)
  | _ => exact absurd rfl hplain

variable {outcome : Option (Except NetError Nat)}

theorem Queued.last_op (h : Queued s) (htodo : s.lease.todo = .finish outcome :: rest) :
    rest = [] ∧ s.completion.finished = false ∧ s.completion.emitted = false ∧
      s.terminals = [] ∧ (0 < s.lease.attempts ∨ s.Closed) := by
  have hlast := h.last
  have hmem := mem_head htodo
  have hrest : rest = [] := by
    rw [htodo] at hlast
    refine List.eq_nil_iff_forall_not_mem.mpr fun b hb => ?_
    exact (List.pairwise_cons.mp hlast).1 b hb rfl
  have hfinished : s.completion.finished = false := by
    by_contra hflag
    exact h.once (Bool.not_eq_false _ ▸ hflag) outcome hmem
  have hterminals : s.terminals = [] := by
    by_contra hne
    rw [h.ended hne] at hfinished
    cases hfinished
  refine ⟨hrest, hfinished, ?_, hterminals, ?_⟩
  · by_contra hflag
    exact h.emitted.mp (Bool.not_eq_false _ ▸ hflag) hterminals
  · obtain hload | hknown := h.loaded ⟨outcome, hmem⟩
    · rw [htodo, hrest, List.mem_singleton] at hload
      cases hload
    · exact hknown

theorem Queued.finished_lease (h : Queued s) {completion : CompletionState} {lease : Thread}
    {terminals : List TerminalObservation} (hfinished : completion.finished)
    (hemitted : completion.emitted ↔ terminals ≠ []) (hsingle : terminals.length ≤ 1)
    (hpending : completion.pending = none) (hstarted : terminals ≠ [] ∨ observed s.loop.calls ≠ [])
    (hending : s.leaseEnding) (hnotes : ∀ op ∈ lease.todo, op.rank = 0)
    (hattempts : lease.attempts = s.lease.attempts) :
    Queued { s with completion, lease, terminals } :=
  { h with
    emitted := hemitted
    single := hsingle
    waiting hsome := by
      rw [hpending] at hsome
      cases hsome
    ended _ := hfinished
    finished _ := hstarted
    unended hflag := by rw [hending] at hflag; cases hflag
    last := List.Pairwise.imp_of_mem (fun {b c} hb _ _ => by
      rw [hnotes b hb]
      decide) (List.pairwise_of_forall fun _ _ => trivial)
    leased b hb := by
      rw [hnotes b hb]
      decide
    ending _ := .inl hfinished
    once _ o ho := by
      have hrank := hnotes _ ho
      cases hrank
    loaded ho := by
      obtain ⟨o, ho⟩ := ho
      have hrank := hnotes _ ho
      cases hrank
    known hpos := h.known (hattempts ▸ hpos) }

/-- The last operation of a lease notifies the end, or leaves it to the loop. -/
theorem Queued.finishes (hs : Coherent s) (h : Queued s)
    (htodo : s.lease.todo = .finish outcome :: rest) (route : Route) :
    rest = [] ∧ s.terminals = [] ∧
    ((∃ t u, (s.completion.pending = some t ∨ t.report.attempts = s.loop.state.attempts) ∧
      u = { t with report :=
        (s.completion.ended outcome (s.lease.report.getD {})).settle t.report } ∧
      s.Fits u ∧ notes s.transport.todo = [] ∧
      s.leases route (.finish outcome) rest = { s with
        completion := { s.completion.ended outcome (s.lease.report.getD {}) with
          pending := none, emitted := true }
        lease := { s.lease with todo := u.events.map Op.notify }
        terminals := s.terminals ++ [u] }) ∨
    (s.completion.pending = none ∧ observed s.loop.calls ≠ [] ∧
      s.leases route (.finish outcome) rest = { s with
        completion := s.completion.ended outcome (s.lease.report.getD {})
        lease := { s.lease with todo := [] } })) := by
  obtain ⟨rfl, hfinished, hemitted, hterminals, hknown⟩ := h.last_op htodo
  refine ⟨rfl, hterminals, ?_⟩
  simp only [Observation.leases, exec]
  obtain ⟨t, hwhere, heq⟩ | ⟨hpending, hpos, heq⟩ :=
    CompletionState.finish_cases hemitted outcome s.lease.attempts (s.lease.report.getD {})
  · refine .inl ⟨t, ⟨t.attempt, (s.completion.ended outcome
      (s.lease.report.getD {})).settle t.report⟩, ?_⟩
    simp only [heq, emit, List.append_nil]
    obtain hpending | ⟨hpending, hzero, rfl⟩ := hwhere
    · -- The loop was first: the end waits in the completion.
      have hfits : s.Fits t := hs.fits t (by simp [places, hpending])
      exact ⟨.inl hpending, trivial, hfits, hs.slot (.inr (by rw [hpending]; rfl)), trivial⟩
    · -- No attempt was recorded, and none will be started.
      have hquiet : s.Quiet := by
        obtain hpos | hquiet | ⟨hover, hnone⟩ := hknown
        · omega
        · exact hquiet
        · have hkept := hs.kept hover
          simp [places, hnone, h.slotless, hpending, hterminals] at hkept
      obtain ⟨current, hopen, -⟩ := hs.shape.attempts
      rw [hquiet.1] at hopen
      refine ⟨.inr hopen.of_nil.2.symm, trivial, ⟨?_, .inl hquiet⟩, ?_, trivial⟩
      · rw [hquiet.1, hopen.of_nil.2]
        exact .fresh
      · have howed := hs.owed
        rw [hquiet.1, hterminals] at howed
        exact (List.append_eq_nil_iff.mp (List.append_eq_nil_iff.mp howed).1).2
  · -- An attempt was recorded: the loop comes to its end later.
    exact .inr ⟨hpending, h.known hpos, by simp only [heq, emit]⟩

theorem Queued.leases (hs : Coherent s) (h : Queued s) (htodo : s.lease.todo = op :: rest) :
    Coherent (s.leases (.middleware mode) op rest) ∧
      Queued (s.leases (.middleware mode) op rest) := by
  have hmem := mem_head htodo
  have hending := h.is_ending htodo
  have hstored : 0 < s.control.attempt → observed s.loop.calls ≠ [] := fun hpos =>
    hs.stored (.inl hpos)
  by_cases hplain : op.plain
  · obtain ⟨_, attempt, _, _, _, heq, hevents, hattempt, hloaded⟩ :=
      exec_plain (.middleware mode) s { s.lease with todo := rest } hplain
    obtain ⟨-, -, hne⟩ := Op.plain_cases hplain
    obtain rfl : attempt = s.control.attempt := by
      obtain hsame | hop := hattempt
      · exact hsame
      · exact absurd (h.leased op hmem) (by simp [hop])
    rw [Observation.leases, heq]
    exact ⟨hs.pop_lease htodo hevents rfl, h.pop_lease htodo hne hloaded hstored⟩
  cases op with
  | finish outcome =>
    obtain ⟨rfl, hterminals, ⟨t, u, -, -, hfits, hquiet, heq⟩ | ⟨hpending, hstarted, heq⟩⟩ :=
      h.finishes hs htodo (.middleware mode)
    · rw [heq]
      exact ⟨hs.emit_lease htodo rfl hterminals hfits hquiet rfl rfl,
        h.finished_lease rfl ⟨fun _ => by simp, fun _ => rfl⟩ (by simp [hterminals]) rfl
          (.inl (by simp)) hending (fun _ => rank_notify) rfl⟩
    · obtain ⟨-, -, hemitted, -⟩ := h.last_op htodo
      rw [heq]
      refine ⟨hs.pop_lease htodo (List.append_nil _).symm rfl, h.finished_lease rfl ?_
        (by simp [hterminals]) hpending (.inr hstarted) hending (fun b hb => by cases hb) rfl⟩
      simp [CompletionState.ended, hemitted, hterminals]
  | handOver | emitPending => exact absurd (h.leased _ hmem) (by simp)
  | _ => exact absurd rfl hplain

theorem Quiet.step (hs : Coherent s) (hentered : s.entered) (hpasses : s.passes a)
    (hquiet : s.Quiet) (req : RetryRequest) (transport : Thread) :
    Quiet { s with loop := s.loop.step req mode a, transport } := by
  have hfixed : s.Fixed := .inl hquiet
  obtain ⟨hsame, -, hstill⟩ := hfixed.step hs hentered hpasses req mode
  have hnone := hsame.trans hquiet.1
  obtain h | hover := hstill transport
  · exact h
  · exact ⟨hnone, .inr (.inr hover)⟩

theorem Queued.advance (hs : Coherent s) (h : Queued s) (hentered : s.entered)
    (hpasses : s.passes a) (req : RetryRequest) {tail : LoopStage → List Op}
    (htail : ∀ stage, Closing (tail stage)) : Queued (s.advance req (.middleware mode) a tail) := by
  obtain ⟨added, ops, hclosing, -, hcalls, -, hadded, heq⟩ :=
    advance_eq hs.shape req (.middleware mode) a tail htail
  have hops := hclosing.trailing
  rw [heq]
  have hgrows : observed s.loop.calls ≠ [] →
      observed (s.loop.step req (Route.middleware mode).mode a).calls ≠ [] := fun hne => by
    rw [hcalls, observed_append]
    exact List.append_ne_nil_of_left_ne_nil hne _
  have hclosed : s.Closed → Closed { s with
      loop := s.loop.step req (Route.middleware mode).mode a
      transport := { todo := added.flatMap callOps ++ ops } } := by
    intro h'
    obtain hquiet | ⟨hover, -⟩ := h'
    · exact .inl (hquiet.step hs hentered hpasses req _)
    obtain ⟨hnone, hover⟩ := hadded.isOver hover
    refine .inr ⟨hover, ?_⟩
    rw [handOvers_append, hops.handOvers, hnone]
    rfl
  exact { h with
    finished := fun hfinished => (h.finished hfinished).imp_right hgrows
    positive := fun k hk => hadded.positive k
      ((List.mem_append.mp hk).resolve_right (hops.not_mem (by simp)))
    decided := fun hending => (h.decided hending).imp_left hclosed
    loaded := fun hfinish => (h.loaded hfinish).imp_right (Or.imp_right hclosed)
    known := fun hpos => hgrows (h.known hpos) }

theorem Queued.endLease (hs : Coherent s) (h : Queued s) (hending : s.leaseEnding = false)
    {cancels : Bool} (hstarts : s.Settled cancels ∨ 0 < s.control.attempt) {ops : List Op}
    (hops : Leaving ops outcome) :
    let s' := { s with control := { s.control with
      cancelled := s.control.cancelled || cancels } }.endLease ops
    Coherent s' ∧ Queued s' := by
  obtain ⟨hlease, hfinished⟩ := h.unended hending
  have hflag : s.control.cancelled → (s.control.cancelled || cancels) :=
    fun hflag => by rw [hflag]; rfl
  have hs' : Coherent { s with control := { s.control with
      cancelled := s.control.cancelled || cancels } } := hs.flags hs.absent hs.gone id hflag
  have hranks : ∀ b ∈ ops, b.rank ≠ 0 ∧ b.rank ∉ [1, 2, 3, 8] := fun b hb => by
    have hrank := hops.leased b hb
    rwa [List.mem_cons, not_or] at hrank
  refine ⟨hs'.endLease hlease (notes_eq_nil fun b hb => Nat.pos_of_ne_zero (hranks b hb).1), ?_⟩
  exact { h with
    unended := nofun
    last := hops.last
    leased := fun b hb => (hranks b hb).2
    ending := fun _ => .inr ⟨outcome, (hops.finishes outcome).mpr rfl⟩
    once := fun hflag => by
      change s.completion.finished at hflag
      rw [hfinished] at hflag
      cases hflag
    decided := fun _ => by
      refine hstarts.imp_left fun hsettled => hsettled.cases.imp_right
        fun ⟨hover, htodo⟩ => ⟨hover, ?_⟩
      exact congrArg handOvers htodo
    loaded := fun _ => .inl hops.counts
    known := fun hpos => absurd hpos (Nat.lt_irrefl 0) }

theorem Queued.step (hs : Coherent s) (h : Queued s) (req : RetryRequest) (a : ObserverAction)
    (hstarts : s.Starts a) :
    Coherent (s.step req (.middleware mode) a) ∧ Queued (s.step req (.middleware mode) a) := by
  have hstep := hs.stepped req (.middleware mode) a
  generalize s.step req (.middleware mode) a = s' at hstep ⊢
  cases hstep with
  | same => exact ⟨hs, h⟩
  | flags hentered hgone hstill hcancelled =>
    exact ⟨hs.flags (fun habsent => hs.absent (hentered habsent)) hgone hstill hcancelled,
      h.frame hstill id hcancelled id h.positive⟩
  | @advanced caught b tail hentered hidle hpasses htail hends hopen =>
    have hs' : Coherent { s with caught } := hs.flags hs.absent hs.gone id id
    have h' : Queued { s with caught } := { h with }
    exact ⟨hs'.advance hentered hidle hpasses req _ htail,
      h'.advance hs' hentered hpasses req htail⟩
  | transport htodo => exact h.runs hs htodo
  | settled hidle hover hops =>
    have htrailing := hops.trailing.1
    exact ⟨hs.settleWith hidle htrailing, h.frame id id id
      (fun _ => htrailing.handOvers) fun k hk => absurd hk (htrailing.not_mem (by simp))⟩
  | left cancels hroute hending hops hsettled htime =>
    exact h.endLease hs hending (hsettled hstarts) hops
  | lease htodo => exact h.leases hs htodo

end Steps

end Observation

end OpenNet.Http
