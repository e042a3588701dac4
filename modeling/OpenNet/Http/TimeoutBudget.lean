import OpenNet.Error
import OpenNet.Foundation.Checked

/-!
# HTTP time budgets

Model of `src/module/http/http_timeout.rs`.  Admission, attempts and bodies share one kind of
budget: the earliest of the deadlines that were added to it, with the phase it belongs to.
Instants are natural numbers; `clockRange` is the last one the monotonic clock can represent.
-/

namespace OpenNet

namespace TimeoutPhase

/-- Of coinciding deadlines the smaller number is reported. -/
def priority : TimeoutPhase → Nat
  | .total => 0
  | .admission => 1
  | .attempt => 2
  | .connect => 3
  | .headers => 4
  | .idleRead => 5

/-- `field`: the name of a phase. -/
def field : TimeoutPhase → String
  | .total => "http.timeouts.total"
  | .admission => "http.timeouts.admission"
  | .attempt => "http.timeouts.attempt"
  | .connect => "http.connect_timeout"
  | .headers => "http.timeouts.headers"
  | .idleRead => "http.timeouts.idle_read"

end TimeoutPhase

namespace Http

/-- Only the earliest deadline matters. -/
structure TimeoutBudget where
  earliest : Option (Nat × TimeoutPhase) := none
  deriving DecidableEq, Repr

namespace TimeoutBudget

variable (clockRange : Nat)

/-- The comparison of two deadlines as pairs with their priorities. -/
def before (current deadline : Nat × TimeoutPhase) : Bool :=
  decide (current.1 < deadline.1) ||
    (current.1 == deadline.1 && decide (current.2.priority ≤ deadline.2.priority))

/-- `with_phase`. -/
def withPhase (budget : TimeoutBudget) (start : Nat) (duration : Option Nat)
    (phase : TimeoutPhase) : Except NetError TimeoutBudget :=
  match duration with
  | none => .ok budget
  | some duration =>
    if duration = 0 then .error (NetError.config phase.field "timeout must be nonzero")
    else
      match Checked.checkedAdd clockRange start duration with
      | none => .error (NetError.config phase.field "timeout exceeds the monotonic clock range")
      | some deadline =>
        match budget.earliest with
        | some current =>
          if before current (deadline, phase) then .ok budget
          else .ok ⟨some (deadline, phase)⟩
        | none => .ok ⟨some (deadline, phase)⟩

/-- `total`. -/
def total (start : Nat) (duration : Option Nat) : Except NetError TimeoutBudget :=
  withPhase clockRange {} start duration .total

/-- `deadline`. -/
def deadline (budget : TimeoutBudget) : Option Nat := budget.earliest.map Prod.fst

/-- A deadline has come; `stage` is where the operation is. -/
def expired (budget : TimeoutBudget) (now : Nat) (stage : ErrorStage) : Option NetError :=
  match budget.earliest with
  | none => none
  | some (deadline, phase) =>
    if now < deadline then none
    else
      let kind := if phase = .total then ErrorKind.deadlineExceeded else .timedOut
      let stage := match phase with
        | .admission => .admission
        | .headers => .response
        | .idleRead => .receive
        | .connect | .attempt | .total => stage
      let error : NetError := { kind, sources := [.budgetExpired deadline phase] }
      some ((error.withStage stage).withTimeoutPhase phase)

variable {clockRange}

theorem withPhase_le {budget budget' : TimeoutBudget} {start : Nat} {duration : Option Nat}
    {phase : TimeoutPhase} {d : Nat}
    (h : budget.withPhase clockRange start duration phase = .ok budget')
    (hd : budget.deadline = some d) : ∃ d', budget'.deadline = some d' ∧ d' ≤ d := by
  obtain ⟨_ | current⟩ := budget
  · cases hd
  obtain rfl : current.1 = d := by simpa [deadline] using hd
  unfold withPhase at h
  split at h
  · cases h
    exact ⟨_, rfl, Nat.le_refl _⟩
  split at h
  · cases h
  split at h
  · cases h
  rename_i deadline _
  simp only at h
  split at h
  · cases h
    exact ⟨_, rfl, Nat.le_refl _⟩
  rename_i hbefore
  cases h
  refine ⟨deadline, rfl, ?_⟩
  simp only [before, Bool.or_eq_true, decide_eq_true_eq] at hbefore
  omega

end TimeoutBudget

end Http

end OpenNet
