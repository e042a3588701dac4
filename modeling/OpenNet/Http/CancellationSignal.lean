import Mathlib.Logic.Function.Basic
import OpenNet.Error
import OpenNet.Foundation.Machine

/-!
# Cancelling a request against its callback

Model of `CancellationSignal::request_cancel`, `enter_callback` and `publish_completion`, and of
what `run_callback` makes of the answer (`src/module/http/http_client_inner.rs`).

The phase of a request is one atomic byte with two bits.  A canceller loads it and then tries to
set the first bit by a compare-and-exchange that may also fail for no reason; entering the
callback and publishing the completion set the second bit at once.  Each access is one step.
-/

namespace OpenNet.Http

inductive HttpCancelOutcome where
  | requested | alreadyRequested | tooLate
  deriving DecidableEq, Repr

/-- The two bits of the flag word. -/
structure SignalPhase where
  cancelled : Bool := false
  callbackOrComplete : Bool := false
  deriving DecidableEq, Repr

/-- A call of `request_cancel`; `won` has set the bit. -/
inductive CancelCall where
  | idle
  | loaded (current : SignalPhase)
  | won
  | returned (outcome : HttpCancelOutcome)
  deriving DecidableEq, Repr

def CancelCall.took : CancelCall → Bool
  | .won | .returned .requested => true
  | _ => false

/-- The signal and the calls of `request_cancel`. -/
structure CancellationSignal where
  phase : SignalPhase := {}
  calls : Nat → CancelCall := fun _ => .idle

namespace CancellationSignal

def setCall (s : CancellationSignal) (i : Nat) (call : CancelCall) : CancellationSignal :=
  { s with calls := Function.update s.calls i call }

/-- One turn of the loop of `request_cancel`; a weak exchange may fail by itself. -/
def attempt (s : CancellationSignal) (i : Nat) (current : SignalPhase) (spurious : Bool) :
    CancellationSignal :=
  if current.callbackOrComplete then s.setCall i (.returned .tooLate)
  else if current.cancelled then s.setCall i (.returned .alreadyRequested)
  else if s.phase = current ∧ spurious = false then
    { s.setCall i .won with phase := { current with cancelled := true } }
  else s.setCall i (.loaded s.phase)

/-- `enter_callback`, and whether the request was cancelled. -/
def enterCallback (s : CancellationSignal) : CancellationSignal × Bool :=
  ({ s with phase := { s.phase with callbackOrComplete := true } }, s.phase.cancelled)

/-- The part of `publish_completion` that a canceller can see. -/
def publishCompletion (s : CancellationSignal) : CancellationSignal :=
  { s with phase := { s.phase with callbackOrComplete := true } }

/-- What `run_callback` hands over: a cancelled request keeps only timeouts. -/
def callbackResult {α : Type} (cancelled : Bool) (requestId attempt : Nat)
    (result : Except NetError α) : Except NetError α :=
  let timedOut := match result with
    | .error e => e.context.httpTimeoutPhase.isSome
    | .ok _ => false
  if cancelled && !timedOut then
    .error ((((NetError.new .cancelled).withStage .dispatch).withHttpRequestId
      requestId).withHttpAttempt attempt)
  else result

inductive Action where
  | requestCancel (i : Nat)
  | attempt (i : Nat) (spurious : Bool)
  | finish (i : Nat)
  | enterCallback
  | publishCompletion

/-- One access to the flag word. -/
def step (s : CancellationSignal) : Action → CancellationSignal
  | .requestCancel i => if s.calls i = .idle then s.setCall i (.loaded s.phase) else s
  | .attempt i spurious =>
    match s.calls i with
    | .loaded current => s.attempt i current spurious
    | _ => s
  | .finish i => if s.calls i = .won then s.setCall i (.returned .requested) else s
  | .enterCallback => s.enterCallback.1
  | .publishCompletion => s.publishCompletion

/-! ## What a step can do -/

/-- A call moves on, a call sets the bit while neither is set, or the second bit is set. -/
inductive Moved (s : CancellationSignal) : CancellationSignal → Prop where
  | kept : Moved s s
  | call (i : Nat) (call : CancelCall) (htook : call.took → (s.calls i).took) :
    Moved s (s.setCall i call)
  | won (i : Nat) (hfree : s.phase.cancelled = false) (hopen : s.phase.callbackOrComplete = false) :
    Moved s { s.setCall i .won with phase := { s.phase with cancelled := true } }
  | closed : Moved s s.publishCompletion

theorem step_moved (s : CancellationSignal) (action : Action) : Moved s (s.step action) := by
  cases action with
  | requestCancel i =>
    simp only [step]
    split
    · exact .call i _ nofun
    · exact .kept
  | attempt i spurious =>
    simp only [step]
    split
    · rename_i current _
      unfold attempt
      split
      · exact .call i _ nofun
      split
      · exact .call i _ nofun
      split
      · rename_i hopen hfree hphase
        obtain ⟨rfl, -⟩ := hphase
        exact .won i (Bool.not_eq_true _ ▸ hfree) (Bool.not_eq_true _ ▸ hopen)
      · exact .call i _ nofun
    · exact .kept
  | finish i =>
    simp only [step]
    split
    · rename_i hwon
      exact .call i _ fun _ => by rw [hwon]; rfl
    · exact .kept
  | enterCallback | publishCompletion => exact .closed

variable {s t : CancellationSignal} {i j : Nat} {call : CancelCall}

theorem setCall_calls (s : CancellationSignal) (i j : Nat) (call : CancelCall) :
    (s.setCall i call).calls j = if j = i then call else s.calls j :=
  Function.update_apply ..

theorem setCall_took (htook : call.took → (s.calls i).took)
    (hj : ((s.setCall i call).calls j).took) : (s.calls j).took := by
  rw [setCall_calls] at hj
  split at hj
  · rename_i heq
    exact heq ▸ htook hj
  · exact hj

/-- At most one call sets the bit, and then it is set. -/
structure Decided (s : CancellationSignal) : Prop where
  cancelled : ∀ i, (s.calls i).took → s.phase.cancelled
  unique : ∀ i j, (s.calls i).took → (s.calls j).took → i = j

theorem Moved.decided (h : Moved s t) (hs : s.Decided) : t.Decided := by
  cases h with
  | kept => exact hs
  | call i call htook =>
    exact ⟨fun j hj => hs.cancelled j (setCall_took htook hj),
      fun j k hj hk => hs.unique j k (setCall_took htook hj) (setCall_took htook hk)⟩
  | won i hfree =>
    -- nobody had set the bit, so the new call is the only one
    have honly : ∀ j, ((s.setCall i .won).calls j).took → j = i := by
      intro j hj
      rw [setCall_calls] at hj
      split at hj
      · assumption
      · rw [hs.cancelled j hj] at hfree
        cases hfree
    exact ⟨fun _ _ => rfl, fun j k hj hk => (honly j hj).trans (honly k hk).symm⟩
  | closed => exact ⟨hs.cancelled, hs.unique⟩

/-- Since `s` the second bit is set and no call set the first. -/
structure Late (s t : CancellationSignal) : Prop where
  closed : t.phase.callbackOrComplete
  took : ∀ j, (t.calls j).took → (s.calls j).took

theorem Moved.late {r : CancellationSignal} (h : Moved s t) (hs : Late r s) : Late r t := by
  cases h with
  | kept => exact hs
  | call i call htook => exact ⟨hs.closed, fun j hj => hs.took j (setCall_took htook hj)⟩
  | won i _ hopen =>
    rw [hs.closed] at hopen
    cases hopen
  | closed => exact ⟨rfl, hs.took⟩

/-! ## Whole runs -/

theorem run_decided (actions : List Action) : (Machine.run step {} actions).Decided :=
  Machine.run_invariant (I := Decided) (fun s action => (step_moved s action).decided) actions
    ⟨nofun, nofun⟩

theorem run_late (hclosed : s.phase.callbackOrComplete) (actions : List Action) :
    Late s (Machine.run step s actions) :=
  Machine.run_invariant (I := Late s) (fun t action => (step_moved t action).late) actions
    ⟨hclosed, fun _ => id⟩

theorem run_closed {action : Action} (haction : action = .enterCallback ∨
    action = .publishCompletion) {actions : List Action} (hmem : action ∈ actions) :
    (Machine.run step s actions).phase.callbackOrComplete := by
  obtain ⟨front, back, rfl⟩ := List.append_of_mem hmem
  rw [Machine.run_append, Machine.run_cons]
  refine (run_late ?_ back).closed
  rcases haction with rfl | rfl <;> rfl

def Refused (i : Nat) (s : CancellationSignal) : Prop :=
  s.phase.callbackOrComplete ∧ (s.calls i = .idle ∨ s.calls i = .returned .tooLate ∨
    ∃ current, s.calls i = .loaded current ∧ current.callbackOrComplete)

theorem Refused.attempt (h : s.Refused i) {current : SignalPhase}
    (hloaded : s.calls i = .loaded current) (spurious : Bool) :
    (s.step (.attempt i spurious)).calls i = .returned .tooLate := by
  obtain ⟨-, hidle | hlate | ⟨seen, hseen, hclosed⟩⟩ := h
  · rw [hidle] at hloaded; cases hloaded
  · rw [hlate] at hloaded; cases hloaded
  · simp only [step, hseen, CancellationSignal.attempt, hclosed, if_true, setCall_calls]

theorem Refused.step (h : s.Refused i) (action : Action) : (s.step action).Refused i := by
  refine ⟨(run_late h.1 [action]).closed, ?_⟩
  cases action with
  | requestCancel j =>
    simp only [CancellationSignal.step]
    split
    · rw [setCall_calls]
      split
      · exact .inr (.inr ⟨s.phase, rfl, h.1⟩)
      · exact h.2
    · exact h.2
  | attempt j spurious =>
    by_cases hj : i = j
    · subst hj
      obtain hidle | hlate | ⟨current, hloaded, -⟩ := h.2
      · exact .inl (by simp only [CancellationSignal.step, hidle])
      · exact .inr (.inl (by simp only [CancellationSignal.step, hlate]))
      · exact .inr (.inl (h.attempt hloaded spurious))
    · -- the turn of another call leaves this one as it is
      have hsame : (s.step (.attempt j spurious)).calls i = s.calls i := by
        simp only [CancellationSignal.step, CancellationSignal.attempt]
        repeat' split
        all_goals simp only [setCall_calls, if_neg hj]
      rw [hsame]
      exact h.2
  | finish j =>
    simp only [CancellationSignal.step]
    split
    · rename_i hwon
      rw [setCall_calls, if_neg]
      · exact h.2
      · rintro rfl
        obtain hcall | hcall | ⟨_, hcall, -⟩ := h.2 <;> rw [hcall] at hwon <;> cases hwon
    · exact h.2
  | enterCallback | publishCompletion => exact h.2

/-- **One linearisation point.** At most one call cancels the request; done before the callback is
entered it is seen there, and no response is handed over. Once the callback was entered or the
completion published, a call that has not set the bit never reports that it has cancelled, and one
that begins then returns `TooLate` at its first turn. -/
theorem cancellation_linearised {α : Type} (before after : List Action) :
    let s := Machine.run step {} before
    let t := Machine.run step s after
    (∀ i j, t.calls i = .returned .requested → t.calls j = .returned .requested → i = j) ∧
      (∀ i, s.calls i = .returned .requested → s.enterCallback.2 = true ∧
        ∀ requestId attempt (response : α), ∃ e,
          callbackResult s.enterCallback.2 requestId attempt (.ok response) = .error e ∧
            e.kind = .cancelled) ∧
      (.enterCallback ∈ before ∨ .publishCompletion ∈ before → ∀ i,
        (t.calls i = .returned .requested →
          s.calls i = .won ∨ s.calls i = .returned .requested) ∧
        (s.calls i = .idle → t.calls i = .idle ∨ t.calls i = .returned .tooLate ∨
          ∃ current, t.calls i = .loaded current ∧
            ∀ spurious, (t.step (.attempt i spurious)).calls i = .returned .tooLate)) := by
  intro s t
  have hs : s.Decided := run_decided before
  have ht : t.Decided := by
    have hrun := run_decided (before ++ after)
    rwa [Machine.run_append] at hrun
  refine ⟨fun i j hi hj => ht.unique i j (by rw [hi]; rfl) (by rw [hj]; rfl), fun i hi => ?_,
    fun hentered i => ?_⟩
  · have hseen : s.enterCallback.2 = true := hs.cancelled i (by rw [hi]; rfl)
    refine ⟨hseen, fun requestId attempt response => ?_⟩
    rw [hseen]
    exact ⟨_, rfl, rfl⟩
  · have hclosed : s.phase.callbackOrComplete = true :=
      hentered.elim (run_closed (.inl rfl)) (run_closed (.inr rfl))
    refine ⟨fun hi => ?_, fun hidle => ?_⟩
    · have htook := (run_late hclosed after).took i (by rw [hi]; rfl)
      unfold CancelCall.took at htook
      split at htook
      · exact .inl ‹_›
      · exact .inr ‹_›
      · cases htook
    · have hrefused : t.Refused i :=
        Machine.run_invariant (I := Refused i) (fun _ action h => h.step action) after
          ⟨hclosed, .inl hidle⟩
      exact hrefused.2.imp_right (Or.imp_right fun ⟨current, hloaded, _⟩ =>
        ⟨current, hloaded, hrefused.attempt hloaded⟩)

end CancellationSignal

end OpenNet.Http
