import Mathlib.Algebra.GroupWithZero.Nat

/-!
# Checked machine arithmetic

Unsigned machine integers are natural numbers bounded by the largest value of their width;
`checkedAdd` is the addition that reports overflow.
-/

namespace Checked

/-- The largest 64-bit unsigned value; also the largest `usize`. -/
def u64Max : Nat := 2 ^ 64 - 1

/-- The largest 32-bit unsigned value. -/
def u32Max : Nat := 2 ^ 32 - 1

/-- Addition that fails when the sum exceeds `limit`. -/
def checkedAdd (limit a b : Nat) : Option Nat := if a + b ≤ limit then some (a + b) else none

theorem checkedAdd_eq_some {limit a b c : Nat} :
    checkedAdd limit a b = some c ↔ c = a + b ∧ a + b ≤ limit := by
  unfold checkedAdd
  split <;> simp_all [eq_comm]

theorem checkedAdd_eq_none {limit a b : Nat} : checkedAdd limit a b = none ↔ limit < a + b := by
  unfold checkedAdd
  split <;> simp_all

/-- Addition that stops at `limit`. -/
def saturatingAdd (limit a b : Nat) : Nat := min (a + b) limit

theorem saturatingAdd_of_le {limit a b : Nat} (h : a + b ≤ limit) :
    saturatingAdd limit a b = a + b := Nat.min_eq_left h

end Checked
