import Mathlib.Order.Basic

/-!
# A latch with broadcast notification

One party writes a result once and then notifies everybody who waits.  A waiter first registers
for notifications, then reads the result, sleeps if there is none yet, and reads it again when it
wakes; a registration is woken by every notification that comes after it was made.
-/

namespace Latch

universe u
variable {ρ : Type u}

structure Gate (ρ : Type u) where
  result : Option ρ := none
  notifications : Nat := 0

/-- `seen` counts the notifications before the registration. -/
inductive Waiter where
  | fresh
  | subscribed (seen : Nat)
  | sleeping (seen : Nat)
  | woken
  deriving DecidableEq, Repr

/-- What a step of a waiter comes to. -/
inductive Progress (ρ : Type u) where
  | waiting (w : Waiter)
  | read (result : Option ρ)

def Waiter.step (g : Gate ρ) : Waiter → Progress ρ
  | fresh => .waiting (.subscribed g.notifications)
  | subscribed seen =>
    match g.result with
    | some result => .read (some result)
    | none => .waiting (.sleeping seen)
  | sleeping seen => if seen < g.notifications then .waiting .woken else .waiting (.sleeping seen)
  | woken => .read g.result

/-- Nobody is notified before the result is there. -/
def Gate.Ordered (g : Gate ρ) : Prop := 0 < g.notifications → ∃ result, g.result = some result

/-- The result stays and notifications add up. -/
structure Gate.Grows (g g' : Gate ρ) : Prop where
  result : ∀ result, g.result = some result → g'.result = some result
  notifications : g.notifications ≤ g'.notifications

theorem Gate.Grows.refl (g : Gate ρ) : g.Grows g := ⟨fun _ => id, Nat.le_refl _⟩

/-- The result is there and everybody has been notified. -/
def Gate.Raised (g : Gate ρ) (result : ρ) : Prop := g.result = some result ∧ 0 < g.notifications

variable {g : Gate ρ} {w : Waiter}

theorem Gate.Raised.grows {g' : Gate ρ} {result : ρ} (h : g.Raised result) (hg : g.Grows g') :
    g'.Raised result :=
  ⟨hg.result result h.1, Nat.lt_of_lt_of_le h.2 hg.notifications⟩

/-- A waiter went to sleep before the first notification, and wakes after the write. -/
def Sound (g : Gate ρ) : Waiter → Prop
  | .fresh => True
  | .subscribed seen => seen ≤ g.notifications
  | .sleeping seen => seen = 0
  | .woken => ∃ result, g.result = some result

theorem Sound.grows {g' : Gate ρ} (h : Sound g w) (hg : g.Grows g') : Sound g' w := by
  cases w with
  | fresh => trivial
  | subscribed seen => exact Nat.le_trans h hg.notifications
  | sleeping seen => exact h
  | woken =>
    obtain ⟨result, hresult⟩ := h
    exact ⟨result, hg.result result hresult⟩

/-- A step keeps a waiter sound, and a waiter that reads finds a result. -/
theorem Sound.step (hg : g.Ordered) (h : Sound g w) :
    match w.step g with
    | .waiting w' => Sound g w'
    | .read result => g.result = result ∧ result.isSome := by
  cases w with
  | fresh => exact Nat.le_refl _
  | subscribed seen =>
    cases hresult : g.result with
    | some result => simp [Waiter.step, hresult]
    | none =>
      -- Without a result nobody has been notified.
      have hnone : g.notifications = 0 := by
        by_contra hne
        obtain ⟨result, hsome⟩ := hg (Nat.pos_of_ne_zero hne)
        rw [hresult] at hsome
        cases hsome
      simp only [Waiter.step, hresult]
      have hseen : seen ≤ g.notifications := h
      rw [hnone] at hseen
      exact Nat.le_zero.mp hseen
  | sleeping seen =>
    have hseen : seen = 0 := h
    simp only [Waiter.step]
    split
    · rename_i w' hw
      split at hw
      · rename_i hlt
        cases hw
        exact hg (Nat.lt_of_le_of_lt (Nat.zero_le _) hlt)
      · cases hw
        exact hseen
    · rename_i hw
      split at hw <;> cases hw
  | woken =>
    obtain ⟨result, hresult⟩ := h
    simp [Waiter.step, hresult]

/-- Steps that separate a waiter from the result of a raised latch. -/
def Waiter.rank : Waiter → Nat
  | fresh => 1
  | subscribed _ => 0
  | sleeping _ => 1
  | woken => 0

/-- **No wakeup is lost**: on a raised latch a waiter reads the result or comes closer to it. -/
theorem step_of_raised {result : ρ} (hraised : g.Raised result) (h : Sound g w) :
    w.step g = .read (some result) ∨ ∃ w', w.step g = .waiting w' ∧ w'.rank < w.rank := by
  cases w with
  | fresh => exact .inr ⟨_, rfl, Nat.zero_lt_one⟩
  | subscribed seen => exact .inl (by simp [Waiter.step, hraised.1])
  | sleeping seen =>
    obtain rfl : seen = 0 := h
    exact .inr ⟨.woken, by simp [Waiter.step, hraised.2], Nat.zero_lt_one⟩
  | woken => exact .inl (by simp [Waiter.step, hraised.1])

end Latch
