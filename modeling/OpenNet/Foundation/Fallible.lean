/-!
# Checks that fail early

Fallible code runs its checks in order and stops at the first one that fails.
-/

namespace Fallible

universe u v w
variable {ε : Type u} {α : Type v} {β : Type v}

variable {x : Except ε α} {e : ε} {u : Unit}

variable {f : α → Except ε β} {c : Prop} {e' : ε} {o : Option α} {a : α}

theorem bind_eq_ok {b : β} : (x >>= f) = .ok b ↔ ∃ a, x = .ok a ∧ f a = .ok b := by
  cases x <;> simp [Bind.bind, Except.bind]

theorem bind_eq_error : (x >>= f) = .error e ↔ x = .error e ∨ ∃ a, x = .ok a ∧ f a = .error e := by
  cases x <;> simp [Bind.bind, Except.bind]

/-- A check that only succeeds or fails passes nothing on. -/
theorem check_bind_eq_ok {x : Except ε Unit} {f : Unit → Except ε Unit} :
    (x >>= f) = .ok u ↔ x = .ok () ∧ f () = .ok u := by
  cases x <;> simp [Bind.bind, Except.bind]

/-- Fail with `e` unless the condition holds. -/
def ensure (c : Prop) [Decidable c] (e : ε) : Except ε Unit := if c then .ok () else .error e

theorem ensure_eq_ok [Decidable c] : ensure c e = .ok u ↔ c := by
  unfold ensure
  split <;> simp_all

theorem ensure_eq_error [Decidable c] : ensure c e = .error e' ↔ ¬c ∧ e = e' := by
  unfold ensure
  split <;> simp_all

/-- Fail with the error that was reported, if there is one. -/
def report : Option ε → Except ε Unit
  | none => .ok ()
  | some e => .error e

theorem report_eq_ok {e : Option ε} : report e = .ok u ↔ e = none := by
  cases e <;> simp [report]

/-- The value, or the error that stands for its absence. -/
def required (o : Option α) (e : ε) : Except ε α :=
  match o with
  | some a => .ok a
  | none => .error e

theorem required_eq_ok : required o e = .ok a ↔ o = some a := by
  cases o <;> simp [required]

theorem required_eq_error : required o e = .error e' ↔ o = none ∧ e = e' := by
  cases o <;> simp [required]

theorem mapError_eq_ok {ε' : Type w} {f : ε → ε'} : x.mapError f = .ok a ↔ x = .ok a := by
  cases x <;> constructor <;> intro h <;> cases h <;> rfl

/-- Run a check on every element in order. -/
def forEach (check : α → Except ε Unit) : List α → Except ε Unit
  | [] => .ok ()
  | a :: as => match check a with
    | .ok () => forEach check as
    | .error e => .error e

end Fallible
