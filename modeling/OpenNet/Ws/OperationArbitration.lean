import OpenNet.Foundation.Machine
import OpenNet.Ws.OperationSections

/-!
# Terminal arbitration of one operation

The writer, the reader, timers, cancellation groups and the queues compete to end an
operation.  All of them act on one control, one critical section at a time and in any order, and
the history records what they were told.
-/

namespace OpenNet.Ws

/-! ## The machine -/

def DeliveryEvidence.rank : DeliveryEvidence → Nat
  | .notStarted => 0
  | .unknown => 1
  | .written => 2
  | .responseConfirmed => 3

/-- What the table comes to when a bound operation ends through it. -/
inductive TableRoute where
  /-- The entry is there; its failure is selected under the table's lock. -/
  | entry
  /-- There is no entry with the operation's token. -/
  | missing
  /-- The table is being dropped or gone. -/
  | dropped
  deriving DecidableEq, Repr

/-- `terminate`; `cancel` and `expire` have their own error and cause. -/
def OperationState.terminate (cfg : OperationConfig) (v : View) (s : OperationState)
    (error : NetError) (cause : TaskEndCause) (route : TableRoute) :
    TerminationOutcome × OperationPublication × OperationState :=
  if s.pending.isSome ∧ route = .missing then
    (.alreadyFinished, { retiredError := some error }, s)
  else s.selectFailure cfg v error cause

/-- A control and what it has told. -/
structure Arbiter where
  op : OperationState
  events : List TaskEvent := []
  outcomes : List TerminationOutcome := []
  /-- A `start_data_write` has returned `Ok(true)`. -/
  started : Bool := false

/-- One section. A failed success selection changes nothing; the failure after it is a section of
its own. -/
inductive ArbiterAction where
  | perform (sec : OperationState.Section)
  | bindRequest (v : View) (identity : PendingIdentity)
  | selectWritten (v : View)
  | selectResponse (v : View)
  | selectFailure (v : View) (error : NetError) (cause : TaskEndCause)
  | terminate (v : View) (error : NetError) (cause : TaskEndCause) (route : TableRoute)

namespace Arbiter

def new (source : TaskSource) (random : UInt64) (now : Nat) : Arbiter where
  op := .new source random now

/-- A section has returned an outcome, a publication and a state. -/
def ended (w : Arbiter) (r : TerminationOutcome × OperationPublication × OperationState) :
    Arbiter :=
  { w with
    op := r.2.2
    events := w.events ++ r.2.1.task.toList
    outcomes := w.outcomes ++ [r.1] }

def selected (w : Arbiter) : OperationState.Selection → Arbiter
  | .decided _ p s => { w with op := s, events := w.events ++ p.task.toList }
  | .failing _ _ => w

/-- One section of the control. -/
def step (cfg : OperationConfig) (w : Arbiter) : ArbiterAction → Arbiter
  | .perform sec =>
    { w with
      op := w.op.perform cfg sec
      started := w.started || sec.admits cfg w.op }
  | .bindRequest v identity =>
    { w with op := (w.op.bindRequest cfg v identity).toOption.getD w.op }
  | .selectWritten v => w.selected (w.op.selectWritten cfg v)
  | .selectResponse v => w.selected (w.op.selectResponse cfg v)
  | .selectFailure v error cause => w.ended (w.op.selectFailure cfg v error cause)
  | .terminate v error cause route => w.ended (w.op.terminate cfg v error cause route)

def run (cfg : OperationConfig) (w : Arbiter) (acts : List ArbiterAction) : Arbiter :=
  Machine.run (step cfg) w acts

/-! ## The invariant -/

/-- What holds of a control and its history, whatever has happened. -/
structure Inv (w : Arbiter) : Prop where
  finished_iff : w.op.phase = .finished ↔ w.op.result.isSome
  /-- While there is no result there is no event either. -/
  unpublished : w.op.result = none → w.events = []
  /-- The reserved event is given up with the result, so a second one cannot be produced. -/
  events_length : w.events.length ≤ 1
  events_result : ∀ event ∈ w.events, w.op.result = some event.result
  /-- Only the selection of a response confirms it. -/
  confirmed : w.op.delivery = .responseConfirmed → w.op.result.isSome
  /-- An admitted frame leaves evidence. -/
  started : w.started → w.op.delivery ≠ .notStarted
  /-- After a termination before the write nothing is admitted any more. -/
  beforeWrite : .terminatedBeforeWrite ∈ w.outcomes →
    w.started = false ∧ ∃ error, w.op.result = some (.error error)

theorem inv_new (source : TaskSource) (random : UInt64) (now : Nat) :
    Inv (new source random now) where
  finished_iff := by simp [new, OperationState.new]
  unpublished _ := rfl
  events_length := Nat.zero_le 1
  events_result := by simp [new]
  confirmed := by simp [new, OperationState.new]
  started := by simp [new]
  beforeWrite := by simp [new]

/-- Results stay and evidence rises. -/
structure Progress (w w' : Arbiter) : Prop where
  result : ∀ r, w.op.result = some r → w'.op.result = some r
  delivery : w.op.delivery.rank ≤ w'.op.delivery.rank

/-- What a section does to a control for which the invariant holds. -/
structure Moves (w w' : Arbiter) : Prop extends Progress w w' where
  inv : Inv w'
  /-- A failure that is selected while delivery is unknown says so. -/
  kind : ∀ error, w.op.result = none → w.op.delivery = .unknown →
    w'.op.result = some (.error error) → error.kind = .deliveryUnknown

section Moves

variable {w w' : Arbiter} (h : Inv w)
include h

theorem Inv.not_beforeWrite (hresult : w.op.result = none) :
    .terminatedBeforeWrite ∉ w.outcomes := by
  intro hmem
  obtain ⟨-, error, herror⟩ := h.beforeWrite hmem
  rw [herror] at hresult
  cases hresult

theorem Inv.rank_le (hresult : w.op.result = none) : w.op.delivery.rank ≤ 2 := by
  have hconfirmed : w.op.delivery ≠ .responseConfirmed := fun hd => by
    simpa [hresult] using h.confirmed hd
  cases hd : w.op.delivery <;> simp_all [DeliveryEvidence.rank]

theorem moves_quiet {s : OperationState} {outcomes : List TerminationOutcome}
    (hquiet : OperationState.Quiet w.op s)
    (hlate : ∀ o ∈ outcomes, o ∈ w.outcomes ∨ o = .alreadyFinished) :
    Moves w { w with op := s, outcomes } where
  result r hr := hquiet.result.trans hr
  delivery := by simp [hquiet.delivery]
  kind error hnone _ herror := by
    rw [hquiet.result, hnone] at herror
    cases herror
  inv := {
    finished_iff := by
      rw [hquiet.result]
      rcases hquiet.phase with hphase | ⟨hresult, hphase⟩
      · rw [hphase]
        exact h.finished_iff
      · simp [hphase, hresult]
    unpublished := fun hresult => h.unpublished (hquiet.result ▸ hresult)
    events_length := h.events_length
    events_result := fun event hevent => hquiet.result.trans (h.events_result event hevent)
    confirmed := fun hdelivery => by
      rw [hquiet.result]
      exact h.confirmed (hquiet.delivery ▸ hdelivery)
    started := fun hstarted => by
      rw [hquiet.delivery]
      exact h.started hstarted
    beforeWrite := fun hmem => by
      rw [hquiet.result]
      exact h.beforeWrite ((hlate _ hmem).resolve_right (by simp)) }

theorem moves_stay : Moves w w := moves_quiet h {} fun _ => .inl

theorem moves_late (p : OperationPublication) (htask : p.task = none) :
    Moves w (w.ended (.alreadyFinished, p, w.op)) := by
  have hmoves : Moves w { w with outcomes := w.outcomes ++ [.alreadyFinished] } :=
    moves_quiet h {} (by simp)
  simpa [ended, htask] using hmoves

theorem moves_admitted {retry : RetryState} {attempt : Bool} (hadmissible : w.op.Admissible) :
    Moves w { w with
      op := OperationState.markInFlight { w.op with retry, retryAttemptOpen := attempt }
      started := true } where
  result _ hr := hr
  delivery := by
    simp only [OperationState.markInFlight]
    split
    · rename_i hdelivery
      simp [hdelivery, DeliveryEvidence.rank]
    · exact Nat.le_refl _
  kind error hnone _ herror := absurd (hnone.symm.trans herror) (by simp)
  inv := { h with
    confirmed := fun hdelivery => by
      refine h.confirmed ?_
      simp only [OperationState.markInFlight] at hdelivery
      split at hdelivery
      · cases hdelivery
      · exact hdelivery
    started := fun _ => by
      simp only [OperationState.markInFlight]
      split
      · simp
      · assumption
    beforeWrite := fun hmem => by
      obtain ⟨-, error, herror⟩ := h.beforeWrite hmem
      rcases hadmissible with ⟨hresult, -⟩ | ⟨-, hresult⟩
      · rw [herror] at hresult
        cases hresult
      · rw [herror] at hresult
        cases hresult }

theorem moves_written (hresult : w.op.result = none) :
    Moves w { w with op := { w.op with
      delivery := .written, dataInFlight := false, phase := .awaitingResponse } } where
  result r hr := by simp [hresult] at hr
  delivery := h.rank_le hresult
  kind error hnone _ herror := absurd (hnone.symm.trans herror) (by simp)
  inv := { h with
    finished_iff := by simp [hresult]
    confirmed := nofun
    started := fun _ => by simp
    beforeWrite := fun hmem => absurd hmem (h.not_beforeWrite hresult) }

omit h in
theorem terminationOutcome_beforeWrite {delivery : DeliveryEvidence}
    (h : OperationState.terminationOutcome delivery = .terminatedBeforeWrite) :
    delivery = .notStarted := by
  cases delivery <;> first | rfl | cases h

variable (cfg : OperationConfig) (v : View) (s : OperationState)

omit h in
theorem finishLocked_task {result : OperationResult} {cause : TaskEndCause}
    {p : OperationPublication} : ∀ event ∈ (s.finishLocked cfg v result cause p).1.task,
      (s.finishLocked cfg v result cause p).2.result = some event.result := by
  intro event hevent
  unfold OperationState.finishLocked at hevent ⊢
  cases hobserved : s.observation with
  | none =>
    rw [hobserved] at hevent
    cases hevent
  | some source =>
    rw [hobserved] at hevent
    cases hevent
    rfl

/-- The operation ends under its lock: the event that is produced carries the result. -/
theorem moves_ends {result : OperationResult} {cause : TaskEndCause} {p : OperationPublication}
    {outcomes : List TerminationOutcome} (hresult : w.op.result = none)
    (hrank : w.op.delivery.rank ≤ s.delivery.rank)
    (hstarted : w.started → s.delivery ≠ .notStarted)
    (hbefore : .terminatedBeforeWrite ∈ outcomes →
      w.started = false ∧ ∃ error, result = .error error)
    (hkind : w.op.delivery = .unknown → ∀ error, result = .error error →
      error.kind = .deliveryUnknown) :
    Moves w { w with
      op := (s.finishLocked cfg v result cause p).2
      events := w.events ++ (s.finishLocked cfg v result cause p).1.task.toList
      outcomes } where
  result r hr := by simp [hresult] at hr
  delivery := hrank
  kind error _ hunknown herror := by
    cases result with
    | ok success => cases herror
    | error selected =>
      cases herror
      simpa using hkind hunknown selected rfl
  inv := {
    finished_iff := iff_of_true rfl rfl
    unpublished := nofun
    events_length := by
      rw [h.unpublished hresult, List.nil_append]
      exact Option.length_toList_le
    events_result := fun event hevent => by
      rw [h.unpublished hresult, List.nil_append, Option.mem_toList] at hevent
      exact finishLocked_task cfg v s event hevent
    confirmed := fun _ => rfl
    started := hstarted
    beforeWrite := fun hmem => by
      obtain ⟨hnot, error, rfl⟩ := hbefore hmem
      exact ⟨hnot, _, rfl⟩ }

theorem moves_selectFailure (error : NetError) (cause : TaskEndCause) :
    Moves w (w.ended (w.op.selectFailure cfg v error cause)) := by
  cases hresult : w.op.result with
  | some result =>
    rw [OperationState.selectFailure_finished (by simp [hresult])]
    exact moves_late h _ rfl
  | none =>
    unfold OperationState.selectFailure
    rw [if_neg (by simp [hresult])]
    refine moves_ends h cfg v w.op hresult (Nat.le_refl _) h.started (fun hmem => ⟨?_, _, rfl⟩) ?_
    · rw [List.mem_append, List.mem_singleton] at hmem
      have houtcome := hmem.resolve_left (h.not_beforeWrite hresult)
      -- The outcome says that nothing was started, and a started frame leaves evidence.
      cases hstarted : w.started with
      | false => rfl
      | true => exact absurd (terminationOutcome_beforeWrite houtcome.symm) (h.started hstarted)
    · rintro hunknown selected ⟨⟩
      exact OperationState.failureError_kind error hunknown

theorem moves_selectSuccess (settled : Bool) (win : OperationPublication × OperationState)
    (hwin : w.op.result = none →
      Moves w { w with op := win.2, events := w.events ++ win.1.task.toList }) :
    Moves w (w.selected (w.op.selectSuccess cfg v settled win)) := by
  obtain ⟨e, c, heq⟩ | ⟨-, heq⟩ | ⟨hresult, heq⟩ :=
    OperationState.selectSuccess_cases cfg v w.op settled win
  · rw [heq]
    exact moves_stay h
  · rw [heq]
    simpa [selected] using moves_stay h
  · rw [heq]
    exact hwin hresult

theorem moves_succeeds (hdelivery : 2 ≤ s.delivery.rank) (hresult : w.op.result = none)
    {success : TaskSuccess} {p : OperationPublication} :
    Moves w { w with
      op := (s.finishLocked cfg v (.ok success) .completed p).2
      events := w.events ++ (s.finishLocked cfg v (.ok success) .completed p).1.task.toList } := by
  refine moves_ends h cfg v s hresult (Nat.le_trans (h.rank_le hresult) hdelivery)
    (fun _ hnot => ?_)
    (fun hmem => absurd hmem (h.not_beforeWrite hresult)) fun _ _ herror => by cases herror
  rw [hnot] at hdelivery
  cases hdelivery

/-- **Every section keeps the invariant and makes progress.** -/
theorem step_moves (a : ArbiterAction) : Moves w (w.step cfg a) := by
  cases a with
  | perform sec =>
    rw [step]
    obtain ⟨hquiet, hadmits⟩ | ⟨retry, attempt, hstate, hadmits, hreason⟩ :=
      OperationState.perform_cases cfg w.op sec
    · rw [hadmits, Bool.or_false]
      exact moves_quiet h hquiet.toQuiet fun _ => .inl
    · rw [hstate, hadmits, Bool.or_true]
      exact moves_admitted h hreason
  | bindRequest v identity =>
    rw [step]
    cases hbind : w.op.bindRequest cfg v identity with
    | error e => exact moves_stay h
    | ok s =>
      obtain ⟨-, -, rfl⟩ := OperationState.bindRequest_ok hbind
      exact moves_quiet h {} fun _ => .inl
  | selectWritten v =>
    refine moves_selectSuccess h cfg v _ _ fun hresult => ?_
    split
    · simpa using moves_written h hresult
    · exact moves_succeeds h cfg v { w.op with delivery := .written, dataInFlight := false }
        (Nat.le_refl 2) hresult
  | selectResponse v =>
    refine moves_selectSuccess h cfg v _ _ fun hresult => ?_
    exact moves_succeeds h cfg v
      { w.op with delivery := .responseConfirmed, dataInFlight := false } (Nat.le_succ 2) hresult
  | selectFailure v error cause => exact moves_selectFailure h cfg v error cause
  | terminate v error cause route =>
    rw [step, OperationState.terminate]
    split
    · exact moves_late h _ rfl
    · exact moves_selectFailure h cfg v error cause

end Moves

theorem inv_step (cfg : OperationConfig) (w : Arbiter) (a : ArbiterAction) (h : Inv w) :
    Inv (w.step cfg a) := (step_moves h cfg a).inv

theorem inv_run (cfg : OperationConfig) (source : TaskSource) (random : UInt64) (now : Nat)
    (acts : List ArbiterAction) : Inv (run cfg (new source random now) acts) :=
  Machine.run_invariant (inv_step cfg) acts (inv_new source random now)

theorem progress_run {w : Arbiter} (cfg : OperationConfig) (acts : List ArbiterAction)
    (h : Inv w) : Progress w (run cfg w acts) :=
  Machine.run_rel (inv_step cfg) (fun _ => ⟨fun _ => id, Nat.le_refl _⟩)
    (fun _ _ _ h₁ h₂ =>
      ⟨fun r hr => h₂.result r (h₁.result r hr), Nat.le_trans h₁.delivery h₂.delivery⟩)
    (fun _ a h => (step_moves h cfg a).toProgress) acts h

/-- **Terminal arbitration.**  For every interleaving `acts` of the sections of a control, and
every continuation `more` of it:

* a result that is set is never changed, and the phase is `Finished` exactly when there is one;
* at most one task event is produced, and it carries exactly the result;
* delivery evidence only moves upward;
* a failure that a section selects while delivery is unknown has the kind `DeliveryUnknown`;
* `TerminatedBeforeWrite` is returned only if no `start_data_write` of the run, earlier or
  later, returns `Ok(true)`. -/
theorem terminal_arbitration (cfg : OperationConfig) (source : TaskSource) (random : UInt64)
    (now : Nat) (acts more : List ArbiterAction) :
    let w := run cfg (new source random now) acts
    let w' := run cfg w more
    (∀ r, w.op.result = some r → w'.op.result = some r) ∧
    (w.op.phase = .finished ↔ w.op.result.isSome = true) ∧
    (w.events.length ≤ 1 ∧ ∀ event ∈ w.events, w.op.result = some event.result) ∧
    w.op.delivery.rank ≤ w'.op.delivery.rank ∧
    (∀ a error, w.op.result = none → w.op.delivery = .unknown →
      (w.step cfg a).op.result = some (.error error) → error.kind = .deliveryUnknown) ∧
    (.terminatedBeforeWrite ∈ w'.outcomes → w'.started = false) := by
  intro w w'
  have hinv : Inv w := inv_run cfg source random now acts
  have hprogress : Progress w w' := progress_run cfg more hinv
  have hinv' : Inv w' := Machine.run_invariant (inv_step cfg) more hinv
  refine ⟨hprogress.result, hinv.finished_iff, ⟨hinv.events_length, hinv.events_result⟩,
    hprogress.delivery, ?_, fun hmem => (hinv'.beforeWrite hmem).1⟩
  intro a error hresult hunknown herror
  exact (step_moves hinv cfg a).kind error hresult hunknown herror

end Arbiter

end OpenNet.Ws
