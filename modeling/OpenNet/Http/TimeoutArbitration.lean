import Mathlib.Data.List.Perm.Basic
import Mathlib.Data.Prod.Lex
import Mathlib.Order.WithBot
import OpenNet.Http.TimeoutBudget

/-!
# The earliest budget wins

A budget is the minimum of the deadlines that were added to it, in the order of the pairs of
deadline and priority; `rank` takes budgets to that order, with the unlimited budget on top.
Nested operations have their results arbitrated from the inside out by `arbitrate_result`
(`src/module/http/http_client_inner.rs`), each with its own budget and at its own time, and what
is reported is again a minimum.
-/

namespace OpenNet.Http.TimeoutBudget

def rank (budget : TimeoutBudget) : WithTop (ℕ ×ₗ ℕ) :=
  match budget.earliest with
  | none => ⊤
  | some (deadline, phase) => (toLex (deadline, phase.priority) : ℕ ×ₗ ℕ)

variable {clockRange : Nat} {budget base : TimeoutBudget} {c c' : Nat × TimeoutPhase}

theorem before_iff : before c c' ↔ rank ⟨some c⟩ ≤ rank ⟨some c'⟩ := by
  simp [before, rank, Prod.Lex.toLex_le_toLex]

theorem rank_injective : Function.Injective rank := by
  rintro ⟨_ | ⟨c, phase⟩⟩ ⟨_ | ⟨d, phase'⟩⟩ h
  · rfl
  · cases h
  · cases h
  · obtain ⟨rfl, hpriority⟩ := Prod.mk.inj (toLex.injective (WithTop.coe_injective h))
    have hphase : phase = phase' := by
      cases phase <;> cases phase' <;> first | rfl | cases hpriority
    rw [hphase]

/-! ## Adding deadlines -/

/-- The arguments of a call of `with_phase`. -/
structure Addition where
  start : Nat
  duration : Option Nat
  phase : TimeoutPhase

def Addition.alone (a : Addition) : TimeoutBudget :=
  ⟨a.duration.map fun duration => (a.start + duration, a.phase)⟩

/-- The duration is not zero, and the clock reaches its end. -/
def Addition.Valid (clockRange : Nat) (a : Addition) : Prop :=
  ∀ duration, a.duration = some duration → 0 < duration ∧ a.start + duration ≤ clockRange

def Addition.add (clockRange : Nat) (budget : TimeoutBudget) (a : Addition) :
    Except NetError TimeoutBudget :=
  budget.withPhase clockRange a.start a.duration a.phase

/-- Successive calls of `with_phase`, up to the first that fails. -/
def withPhases (clockRange : Nat) (base : TimeoutBudget) (additions : List Addition) :
    Except NetError TimeoutBudget :=
  additions.foldlM (Addition.add clockRange) base

theorem add_spec (clockRange : Nat) (budget : TimeoutBudget) (a : Addition) :
    (a.Valid clockRange ∧ ∃ budget', a.add clockRange budget = .ok budget' ∧
      budget'.rank = min budget.rank a.alone.rank) ∨ (¬ a.Valid clockRange ∧ ∃ reason,
      a.add clockRange budget = .error (NetError.config a.phase.field reason)) := by
  obtain ⟨start, _ | duration, phase⟩ := a
  · exact .inl ⟨nofun, budget, rfl, (min_eq_left le_top).symm⟩
  unfold Addition.add withPhase
  dsimp only
  split
  · rename_i hzero
    exact .inr ⟨fun hvalid => Nat.ne_of_gt (hvalid duration rfl).1 hzero, _, rfl⟩
  rename_i hpos
  split
  · rename_i hover
    refine .inr ⟨fun hvalid => ?_, _, rfl⟩
    exact Nat.not_le.mpr (Checked.checkedAdd_eq_none.mp hover) (hvalid duration rfl).2
  rename_i deadline hadd
  obtain ⟨rfl, hfit⟩ := Checked.checkedAdd_eq_some.mp hadd
  refine .inl ⟨fun _ heq => by cases heq; exact ⟨Nat.pos_of_ne_zero hpos, hfit⟩, ?_⟩
  obtain ⟨_ | current⟩ := budget
  · exact ⟨_, rfl, (min_eq_right le_top).symm⟩
  dsimp only
  split
  · rename_i hbefore
    exact ⟨_, rfl, (min_eq_left (before_iff.mp hbefore)).symm⟩
  · rename_i hafter
    refine ⟨_, rfl, (min_eq_right (le_of_not_ge fun hle => hafter ?_)).symm⟩
    exact before_iff.mpr hle

theorem withPhases_spec (clockRange : Nat) (base : TimeoutBudget) (additions : List Addition) :
    ((∀ a ∈ additions, a.Valid clockRange) ∧
      ∃ budget, withPhases clockRange base additions = .ok budget ∧
        budget.rank = (additions.map (·.alone.rank)).foldl min base.rank) ∨
    ∃ a ∈ additions, ¬ a.Valid clockRange ∧ ∃ reason,
      withPhases clockRange base additions = .error (NetError.config a.phase.field reason) := by
  induction additions generalizing base with
  | nil => exact .inl ⟨by simp, base, rfl, rfl⟩
  | cons a rest ih =>
    rw [withPhases, List.foldlM_cons, List.map_cons, List.foldl_cons, List.forall_mem_cons]
    obtain ⟨hvalid, next, heq, hrank⟩ | ⟨hinvalid, reason, heq⟩ := add_spec clockRange base a
    · rw [heq, ← hrank, and_iff_right hvalid]
      refine (ih next).imp_right ?_
      rintro ⟨x, hx, hfound⟩
      exact ⟨x, List.mem_cons_of_mem _ hx, hfound⟩
    · rw [heq]
      exact .inr ⟨a, List.mem_cons_self, hinvalid, reason, rfl⟩

theorem withPhases_eq_ok {additions : List Addition} :
    withPhases clockRange base additions = .ok budget ↔ (∀ a ∈ additions, a.Valid clockRange) ∧
        budget.rank = (additions.map (·.alone.rank)).foldl min base.rank := by
  obtain ⟨hvalid, budget', heq, hrank⟩ | ⟨a, ha, hinvalid, reason, heq⟩ :=
    withPhases_spec clockRange base additions
  · rw [and_iff_right hvalid, heq, ← hrank, Except.ok.injEq]
    exact ⟨fun h => congrArg rank h.symm, fun h => rank_injective h.symm⟩
  · rw [heq]
    exact ⟨fun h => (by cases h), fun h => absurd (h.1 a ha) hinvalid⟩

/-! ## Arbitration -/

/-- From when its minimum has come, a budget names it. -/
theorem expired_spec (budget : TimeoutBudget) (now : Nat) (stage : ErrorStage) :
    (budget.expired now stage = none ∧ ∀ d, budget.deadline = some d → now < d) ∨
    ∃ e deadline phase, budget.expired now stage = some e ∧
      budget.earliest = some (deadline, phase) ∧ deadline ≤ now ∧
      e.context.httpTimeoutPhase = some phase ∧ e.sources = [.budgetExpired deadline phase] := by
  unfold expired deadline
  obtain ⟨_ | ⟨deadline, phase⟩⟩ := budget
  · exact .inl ⟨rfl, nofun⟩
  dsimp only
  split
  · rename_i hlt
    exact .inl ⟨rfl, fun _ heq => by cases heq; exact hlt⟩
  · rename_i hlt
    exact .inr ⟨_, deadline, phase, rfl, rfl, Nat.le_of_not_lt hlt, rfl, rfl⟩

/-- `candidate_wins`. -/
def candidateWins (budget : TimeoutBudget) (candidate : Nat × TimeoutPhase) : Bool :=
  match budget.earliest with
  | none => true
  | some current => before candidate current

/-- The expired budget that an error has among its causes. -/
def timeoutDeadline (e : NetError) : Option (Nat × TimeoutPhase) :=
  e.sources.findSome? fun
    | .budgetExpired deadline phase => some (deadline, phase)
    | _ => none

/-- A call of `arbitrate_result`: its budget, clock, two looks at the signal, and stage. -/
structure Arbitration where
  budget : TimeoutBudget
  now : Nat
  stage : ErrorStage
  cancelled : Bool := false
  cancelledLater : Bool := false

/-- `check_budget`: cancellation first. -/
def Arbitration.checkBudget (x : Arbitration) : Option NetError :=
  if x.cancelledLater then some ((NetError.new .cancelled).withStage x.stage)
  else x.budget.expired x.now x.stage

/-- A result; a failure may carry the head of the response. -/
abbrev Reply (Head α : Type) := Except (NetError × Option Head) α

variable {α Head : Type} (connectTimeout : NetError → Option Nat)

/-- The deadline a failure stands for; `connectTimeout` is `connect_timeout_deadline`. -/
def candidate : Reply Head α → Option (Nat × TimeoutPhase)
  | .ok _ => none
  | .error (e, _) => (timeoutDeadline e).or ((connectTimeout e).map (·, .connect))

def responseHead : Reply Head α → Option Head
  | .ok _ => none
  | .error (_, head) => head

/-- `arbitrate_result`. -/
def arbitrateResult (x : Arbitration) (result : Reply Head α) : Reply Head α :=
  if x.cancelled then .error ((NetError.new .cancelled).withStage x.stage, none)
  else if (candidate connectTimeout result).any x.budget.candidateWins then result
  else
    match x.checkBudget with
    | some error => .error (error, if error.kind = .cancelled then none else responseHead result)
    | none => result

/-- The results of nested operations, from the inside out. -/
def arbitrate (calls : List Arbitration) (result : Reply Head α) : Reply Head α :=
  calls.foldl (fun result x => arbitrateResult connectTimeout x result) result

def resultRank (result : Reply Head α) : WithTop (ℕ ×ₗ ℕ) :=
  rank ⟨candidate connectTimeout result⟩

def Arbitration.rank (x : Arbitration) : WithTop (ℕ ×ₗ ℕ) :=
  if (x.budget.expired x.now x.stage).isSome then x.budget.rank else ⊤

def Arbitration.Quiet (x : Arbitration) : Prop := x.cancelled = false ∧ x.cancelledLater = false

variable {x : Arbitration} (result : Reply Head α)

theorem candidateWins_iff : budget.candidateWins c ↔ rank ⟨some c⟩ ≤ budget.rank := by
  obtain ⟨_ | current⟩ := budget
  · exact iff_of_true rfl le_top
  · exact before_iff

theorem any_candidateWins (budget : TimeoutBudget) :
    ((candidate connectTimeout result).any budget.candidateWins →
      resultRank connectTimeout result ≤ budget.rank) ∧
    (¬ (candidate connectTimeout result).any budget.candidateWins →
      budget.rank ≤ resultRank connectTimeout result) := by
  unfold resultRank
  cases candidate connectTimeout result with
  | none => exact ⟨nofun, fun _ => le_top⟩
  | some c =>
    exact ⟨candidateWins_iff.mp, fun h => le_of_not_ge fun hle => h (candidateWins_iff.mpr hle)⟩

/-- One arbitration reports the earlier deadline; the result stays, or the error of the budget
takes its place. -/
theorem arbitrateResult_spec (hquiet : x.Quiet) :
    resultRank connectTimeout (arbitrateResult connectTimeout x result) =
      min (resultRank connectTimeout result) x.rank ∧
    (arbitrateResult connectTimeout x result = result ∨
      ∃ e head, x.budget.expired x.now x.stage = some e ∧
        arbitrateResult connectTimeout x result = .error (e, head)) := by
  obtain ⟨hwins, hloses⟩ := any_candidateWins connectTimeout result x.budget
  unfold arbitrateResult Arbitration.checkBudget Arbitration.rank
  rw [hquiet.1, hquiet.2, if_neg Bool.false_ne_true, if_neg Bool.false_ne_true]
  obtain ⟨hnone, -⟩ | ⟨e, deadline, phase, hsome, hearliest, -, -, hsources⟩ :=
    expired_spec x.budget x.now x.stage
  · rw [hnone]
    exact ⟨by split <;> exact (min_eq_left le_top).symm, .inl (by split <;> rfl)⟩
  rw [hsome]
  split
  · rename_i h
    exact ⟨(min_eq_left (hwins h)).symm, .inl rfl⟩
  · rename_i h
    refine ⟨?_, .inr ⟨e, _, rfl, rfl⟩⟩
    refine Eq.trans ?_ (min_eq_right (hloses h)).symm
    rw [resultRank, candidate, timeoutDeadline, hsources, TimeoutBudget.rank, TimeoutBudget.rank,
      hearliest]
    rfl

theorem arbitrate_spec {calls : List Arbitration} (hquiet : ∀ x ∈ calls, x.Quiet) :
    resultRank connectTimeout (arbitrate connectTimeout calls result) =
      (calls.map Arbitration.rank).foldl min (resultRank connectTimeout result) ∧
    (arbitrate connectTimeout calls result = result ∨ ∃ x ∈ calls, ∃ e head,
      x.budget.expired x.now x.stage = some e ∧
      arbitrate connectTimeout calls result = .error (e, head)) := by
  induction calls generalizing result with
  | nil => exact ⟨rfl, .inl rfl⟩
  | cons x rest ih =>
    obtain ⟨hx, hrest⟩ := List.forall_mem_cons.mp hquiet
    obtain ⟨hrank, hstep⟩ := arbitrateResult_spec connectTimeout result hx
    obtain ⟨hrun, hfound⟩ := ih (arbitrateResult connectTimeout x result) hrest
    rw [List.map_cons, List.foldl_cons, ← hrank]
    refine ⟨hrun, ?_⟩
    obtain hstays | ⟨y, hy, hreported⟩ := hfound
    · refine hstep.imp hstays.trans ?_
      rintro ⟨e, head, hexpired, heq⟩
      exact ⟨x, List.mem_cons_self, e, head, hexpired, hstays.trans heq⟩
    · exact .inr ⟨y, List.mem_cons_of_mem _ hy, hreported⟩

/-- **Time budgets are minima.** Valid additions in any order take the least deadline, by phase
priority among equal ones, and never extend the budget; an expired budget names the phase of its
minimum; the result of nested operations that were not cancelled reports the least of the budgets
expired when they ended. -/
theorem budget_arbitration (clockRange : Nat) (connectTimeout : NetError → Option Nat)
    (base : TimeoutBudget) (additions : List Addition) (calls : List Arbitration)
    (result : Reply Head α) : (((∀ a ∈ additions, a.Valid clockRange) ∧
      ∃ budget, withPhases clockRange base additions = .ok budget ∧
        budget.rank = (additions.map (·.alone.rank)).foldl min base.rank) ∨
      ∃ a ∈ additions, ¬ a.Valid clockRange ∧ ∃ reason,
        withPhases clockRange base additions = .error (NetError.config a.phase.field reason)) ∧
    (∀ others, additions.Perm others → ∀ budget, withPhases clockRange base additions = .ok budget ↔
        withPhases clockRange base others = .ok budget) ∧
    (∀ a budget, Addition.add clockRange base a = .ok budget → ∀ d, base.deadline = some d →
      ∃ d', budget.deadline = some d' ∧ d' ≤ d) ∧
    (∀ now stage, (base.expired now stage = none ∧ ∀ d, base.deadline = some d → now < d) ∨
      ∃ e deadline phase, base.expired now stage = some e ∧
        base.earliest = some (deadline, phase) ∧ deadline ≤ now ∧
        e.context.httpTimeoutPhase = some phase) ∧ ((∀ x ∈ calls, x.Quiet) →
      resultRank connectTimeout (arbitrate connectTimeout calls result) =
        (calls.map Arbitration.rank).foldl min (resultRank connectTimeout result) ∧
      (arbitrate connectTimeout calls result = result ∨ ∃ x ∈ calls, ∃ e head,
        x.budget.expired x.now x.stage = some e ∧
        arbitrate connectTimeout calls result = .error (e, head))) := by
  refine ⟨withPhases_spec clockRange base additions, fun others hperm budget => ?_,
    fun a _ hadd _ => withPhase_le hadd, fun now stage => ?_,
    fun hquiet => arbitrate_spec connectTimeout result hquiet⟩
  · rw [withPhases_eq_ok, withPhases_eq_ok, (hperm.map _).foldl_eq]
    simp only [hperm.mem_iff]
  · refine (expired_spec base now stage).imp_right ?_
    rintro ⟨e, deadline, phase, hsome, hearliest, hcome, hphase, -⟩
    exact ⟨e, deadline, phase, hsome, hearliest, hcome, hphase⟩

end OpenNet.Http.TimeoutBudget
