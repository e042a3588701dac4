import OpenNet.Foundation.Machine
import OpenNet.Foundation.Pool

/-!
# The barrier for retirement work

Model of `WorkTracker` in `libs/common/src/retirement.rs`.  The leases that are alive at the same
time share one generation, which lives as long as its strong count; `wait` blocks while the
generation that the tracker refers to is alive.

A lease is dropped without the lock.  Only the destructor of a generation takes it, to notify the
waiting calls, and until then the tracker may have begun another generation.
-/

namespace OpenNet.Common

/-- Strong references are leases; `dropping` is a destructor that has yet to notify. -/
structure WorkGeneration where
  leases : Nat
  dropping : Bool := false

inductive WaitCall where
  | enter
  | waiting (seen : Nat)
  | returned

/-- `WorkTracker` with the calls of `wait`. -/
structure WorkTracker where
  generations : List WorkGeneration := []
  /-- The generation that the weak reference is to. -/
  active : Option Nat := none
  notifications : Nat := 0
  calls : List WaitCall := []

namespace WorkTracker

/-- `Weak::strong_count` of the active generation. -/
def strongCount (t : WorkTracker) : Nat :=
  (t.active.bind (t.generations[·]?)).elim 0 (·.leases)

/-- `register`: the active generation, or a new one. -/
def register (t : WorkTracker) : WorkTracker :=
  match t.active, t.active.bind (t.generations[·]?) with
  | some g, some ⟨leases + 1, dropping⟩ =>
    { t with generations := t.generations.set g ⟨leases + 2, dropping⟩ }
  | _, _ =>
    { t with
      generations := t.generations ++ [{ leases := 1 }]
      active := some t.generations.length }

/-- The last lease leaves a destructor. -/
def dropLease (t : WorkTracker) (g : Nat) : WorkTracker :=
  match t.generations[g]? with
  | some ⟨leases + 1, dropping⟩ =>
    { t with generations := t.generations.set g ⟨leases, dropping || leases == 0⟩ }
  | _ => t

/-- The destructor of a generation. -/
def notify (t : WorkTracker) (g : Nat) : WorkTracker :=
  match t.generations[g]? with
  | some ⟨leases, true⟩ =>
    { t with
      generations := t.generations.set g { leases }
      notifications := t.notifications + 1 }
  | _ => t

/-- The section of `wait` that looks at the strong count. -/
def check (t : WorkTracker) (i : Nat) : WorkTracker :=
  match t.calls[i]? with
  | some .enter | some (.waiting _) =>
    { t with
      calls := t.calls.set i (if t.strongCount = 0 then .returned else .waiting t.notifications) }
  | _ => t

inductive Action where
  | register
  | dropLease (g : Nat)
  | notify (g : Nat)
  | wait
  | check (i : Nat)

def step (t : WorkTracker) : Action → WorkTracker
  | .register => t.register
  | .dropLease g => t.dropLease g
  | .notify g => t.notify g
  | .wait => { t with calls := t.calls ++ [.enter] }
  | .check i => t.check i

/-- Some lease is alive. -/
def Live (t : WorkTracker) : Prop := Pool.Sees (fun gen => 0 < gen.leases) t.generations

/-- Some destructor has yet to notify. -/
def Notifying (t : WorkTracker) : Prop := Pool.Sees (fun gen => gen.dropping) t.generations

/-- A call without a notification waits for a lease or a destructor. -/
def Attended (t : WorkTracker) : Prop :=
  ∀ (i seen : Nat), t.calls[i]? = some (.waiting seen) →
    seen ≤ t.notifications ∧ (seen = t.notifications → t.Live ∨ t.Notifying)

structure Inv (t : WorkTracker) : Prop where
  current : ∀ (g : Nat) gen, t.generations[g]? = some gen → 0 < gen.leases → t.active = some g
  attended : t.Attended

variable {t : WorkTracker}

theorem register_calls (t : WorkTracker) : t.register.calls = t.calls := by
  unfold register
  split <;> rfl

theorem dropLease_calls (t : WorkTracker) (g : Nat) : (t.dropLease g).calls = t.calls := by
  unfold dropLease
  split <;> rfl

theorem notify_calls (t : WorkTracker) (g : Nat) : (t.notify g).calls = t.calls := by
  unfold notify
  split <;> rfl

theorem Inv.strongCount_eq_zero (h : Inv t) : t.strongCount = 0 ↔ ¬ t.Live := by
  constructor
  · rintro hzero ⟨g, gen, hgen, hlive⟩
    simp [strongCount, h.current g gen hgen hlive, hgen] at hzero
    omega
  · intro hnone
    by_contra hcount
    unfold strongCount at hcount
    cases hgen : t.active.bind (t.generations[·]?) with
    | none => simp [hgen] at hcount
    | some gen =>
      obtain ⟨g, -, hg⟩ := Option.bind_eq_some_iff.mp hgen
      exact hnone ⟨g, gen, hg, by simpa [hgen, Nat.pos_iff_ne_zero] using hcount⟩

theorem Inv.attended_of (h : Inv t) {t' : WorkTracker} (hcalls : t'.calls = t.calls)
    (hnotes : t'.notifications = t.notifications) (hbusy : t'.Live ∨ t'.Notifying) :
    t'.Attended := by
  intro i seen hi
  rw [hcalls] at hi
  rw [hnotes]
  exact ⟨(h.attended i seen hi).1, fun _ => hbusy⟩

theorem Inv.register (h : Inv t) : Inv t.register := by
  unfold WorkTracker.register
  split
  · rename_i g leases dropping hactive hget
    have hget : t.generations[g]? = some ⟨leases + 1, dropping⟩ := by simpa [hactive] using hget
    refine ⟨fun g' gen hgen hlive => ?_,
      h.attended_of rfl rfl (.inl ⟨g, _, Pool.set_self hget _, Nat.succ_pos _⟩)⟩
    · obtain ⟨rfl, -⟩ | ⟨-, hold⟩ := Pool.get_set hgen
      · exact hactive
      · exact h.current g' gen hold hlive
  · rename_i hdead
    refine ⟨fun g gen hgen hlive => ?_,
      h.attended_of rfl rfl (.inl ⟨_, _, List.getElem?_concat_length, Nat.one_pos⟩)⟩
    obtain ⟨rfl, -⟩ | hold := Pool.get_append hgen
    · rfl
    · -- an old generation that is alive would have been upgraded
      obtain ⟨leases, dropping⟩ := gen
      obtain ⟨leases, rfl⟩ := Nat.exists_eq_add_of_lt hlive
      have hactive := h.current g _ hold hlive
      exact absurd (by simp [hactive, hold]) (hdead g leases dropping hactive)

theorem Inv.dropLease (h : Inv t) (g : Nat) : Inv (t.dropLease g) := by
  unfold WorkTracker.dropLease
  split
  · rename_i leases dropping hget
    refine ⟨fun g' gen hgen hlive => ?_, h.attended_of rfl rfl ?_⟩
    · obtain ⟨rfl, -⟩ | ⟨-, hold⟩ := Pool.get_set hgen
      · exact h.current g' _ hget (Nat.succ_pos leases)
      · exact h.current g' gen hold hlive
    · cases leases with
      | zero => exact .inr ⟨g, _, Pool.set_self hget _, by simp⟩
      | succ leases => exact .inl ⟨g, _, Pool.set_self hget _, Nat.succ_pos leases⟩
  · exact h

theorem Inv.notify (h : Inv t) (g : Nat) : Inv (t.notify g) := by
  unfold WorkTracker.notify
  split
  · rename_i leases hget
    refine ⟨fun g' gen hgen hlive => ?_, fun i seen hi => ?_⟩
    · obtain ⟨rfl, rfl⟩ | ⟨-, hold⟩ := Pool.get_set hgen
      · exact h.current g' _ hget hlive
      · exact h.current g' gen hold hlive
    · have hseen := (h.attended i seen hi).1
      exact ⟨Nat.le_succ_of_le hseen, fun heq => by simp at heq; omega⟩
  · exact h

/-- What a section of `wait` does to the calls. -/
theorem check_calls {i j : Nat} {call : WaitCall} (hj : (t.check i).calls[j]? = some call) :
    t.calls[j]? = some call ∨
      call = if t.strongCount = 0 then .returned else .waiting t.notifications := by
  unfold WorkTracker.check at hj
  split at hj
  · exact (Pool.get_set hj).symm.imp And.right And.right
  · exact (Pool.get_set hj).symm.imp And.right And.right
  · exact .inl hj

theorem check_eq (t : WorkTracker) (i : Nat) : ∃ calls, t.check i = { t with calls } := by
  unfold WorkTracker.check
  split <;> exact ⟨_, rfl⟩

theorem Inv.check (h : Inv t) (i : Nat) : Inv (t.check i) := by
  have hcalls := @check_calls t i
  obtain ⟨calls, heq⟩ := check_eq t i
  rw [heq] at hcalls ⊢
  refine ⟨h.current, fun j seen hj => ?_⟩
  obtain hold | hset := hcalls hj
  · exact h.attended j seen hold
  · by_cases hcount : t.strongCount = 0
    · simp [hcount] at hset
    · rw [if_neg hcount] at hset
      obtain rfl := WaitCall.waiting.inj hset
      exact ⟨Nat.le_refl _, fun _ => .inl (not_not.mp (mt h.strongCount_eq_zero.mpr hcount))⟩

theorem Inv.step (t : WorkTracker) (a : Action) (h : Inv t) : Inv (t.step a) := by
  cases a with
  | register => exact h.register
  | dropLease g => exact h.dropLease g
  | notify g => exact h.notify g
  | wait =>
    refine ⟨h.current, fun i seen hi => ?_⟩
    obtain ⟨-, hcall⟩ | hold := Pool.get_append hi
    · cases hcall
    · exact h.attended i seen hold
  | check i => exact h.check i

/-- Only a section of `wait` ends a call, and only when no lease is alive. -/
theorem Inv.not_live_of_returned (h : Inv t) {a : Action} {i : Nat}
    (hopen : t.calls[i]? ≠ some .returned) (hdone : (t.step a).calls[i]? = some .returned) :
    ¬ t.Live := by
  cases a with
  | register => exact absurd (t.register_calls ▸ hdone) hopen
  | dropLease g => exact absurd (t.dropLease_calls g ▸ hdone) hopen
  | notify g => exact absurd (t.notify_calls g ▸ hdone) hopen
  | wait =>
    obtain ⟨-, hcall⟩ | hold := Pool.get_append hdone
    · cases hcall
    · exact absurd hold hopen
  | check j =>
    rw [← h.strongCount_eq_zero]
    by_contra hcount
    simpa [hcount] using (check_calls hdone).resolve_left hopen

/-- Without a lease that is alive, the next section ends the call. -/
theorem Inv.returned_of_not_live (h : Inv t) {i : Nat} {call : WaitCall}
    (hi : t.calls[i]? = some call) (hnone : ¬ t.Live) :
    (t.step (.check i)).calls[i]? = some .returned := by
  rw [WorkTracker.step, WorkTracker.check, hi, if_pos (h.strongCount_eq_zero.mpr hnone)]
  cases call with
  | enter | waiting => exact Pool.set_self hi _
  | returned => exact hi

/-- Work that begins only inside other work does not bring a lease back. -/
theorem not_live_step (t : WorkTracker) (a : Action) (hnested : a = .register → t.Live)
    (hnone : ¬ t.Live) : ¬ (t.step a).Live := by
  cases a with
  | register => exact absurd (hnested rfl) hnone
  | dropLease g =>
    rw [WorkTracker.step, WorkTracker.dropLease]
    split
    · rename_i hget
      exact absurd ⟨g, _, hget, Nat.succ_pos _⟩ hnone
    · exact hnone
  | notify g =>
    rw [WorkTracker.step, WorkTracker.notify]
    split
    · rename_i leases hget
      intro hlive
      obtain hnew | hold := hlive.of_set
      · exact hnone ⟨g, _, hget, hnew⟩
      · exact hnone hold
    · exact hnone
  | wait => exact hnone
  | check i =>
    obtain ⟨calls, heq⟩ := check_eq t i
    rw [WorkTracker.step, heq]
    exact hnone

theorem inv_run (acts : List Action) : Inv (Machine.run step {} acts) :=
  Machine.run_invariant Inv.step acts ⟨by simp, by simp [Attended]⟩

/-- Over every interleaving: leases alive together share the active generation; a call returns
exactly when no lease is alive; one that waits unnotified waits for a lease or for a destructor that
will notify it; once no lease is alive, none comes back through nested work. -/
theorem work_barrier (acts : List Action) :
    let t := Machine.run step {} acts
    (∀ (g : Nat) gen, t.generations[g]? = some gen → 0 < gen.leases → t.active = some g) ∧
    (∀ (i : Nat) call, t.calls[i]? = some call → call ≠ .returned →
      (∀ a, (t.step a).calls[i]? = some .returned → ¬ t.Live) ∧
      (¬ t.Live → (t.step (.check i)).calls[i]? = some .returned) ∧
      (call = .waiting t.notifications → t.Live ∨ t.Notifying)) ∧
    ∀ more, Machine.Along step (fun t a => a = .register → t.Live) t more →
      ¬ t.Live → ¬ (Machine.run step t more).Live := by
  intro t
  have hinv : Inv t := inv_run acts
  refine ⟨hinv.current, fun i call hi hopen => ⟨?_, ?_, ?_⟩, fun more hnested hnone => ?_⟩
  · intro a hdone
    exact hinv.not_live_of_returned (by simpa [hi] using hopen) hdone
  · intro hnone
    exact hinv.returned_of_not_live hi hnone
  · rintro rfl
    exact (hinv.attended i _ hi).2 rfl
  · exact Machine.run_invariant_along not_live_step more hnested hnone

end WorkTracker

end OpenNet.Common
