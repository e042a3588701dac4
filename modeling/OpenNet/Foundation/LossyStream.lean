import Mathlib.Data.List.Forall2

/-!
# Accounting for a lossy ordered stream

A producer appends items to a stream; a consumer obtains some of them and is told, by a
number, how many it missed in between.  Writing `some a` for an item and `none` for a
missed one, what the consumer obtained accounts for the stream when it covers a prefix of
the stream position by position.
-/

namespace LossyStream

universe u
variable {α : Type u}

/-- A placeholder covers anything, an item only itself. -/
def Covers (obtained written : Option α) : Prop := obtained = none ∨ obtained = written

/-- `obtained` covers `written` position by position. -/
def Covered (obtained written : List (Option α)) : Prop := List.Forall₂ Covers obtained written

/-- The stream is what was obtained, the gap to report, the backlog, and what was lost. -/
def Accounted (history obtained : List (Option α)) (lag : Nat) (backlog : List α)
    (lost : List (Option α)) : Prop :=
  ∃ seen gap, history = seen ++ gap ++ backlog.map some ++ lost ∧
    Covered obtained seen ∧ gap.length = lag

theorem covered_append {o₁ o₂ w₁ w₂ : List (Option α)} (h₁ : Covered o₁ w₁)
    (h₂ : Covered o₂ w₂) : Covered (o₁ ++ o₂) (w₁ ++ w₂) :=
  List.rel_append h₁ h₂

theorem covered_placeholders : ∀ written : List (Option α),
    Covered (List.replicate written.length none) written
  | [] => List.Forall₂.nil
  | _ :: ws => List.Forall₂.cons (Or.inl rfl) (covered_placeholders ws)

theorem covered_refl : ∀ written : List (Option α), Covered written written
  | [] => List.Forall₂.nil
  | _ :: ws => List.Forall₂.cons (Or.inr rfl) (covered_refl ws)

theorem Covered.length_eq {obtained written : List (Option α)} (h : Covered obtained written) :
    obtained.length = written.length :=
  List.Forall₂.length_eq h

theorem Covers.trans {a b c : Option α} (hab : Covers a b) (hbc : Covers b c) : Covers a c := by
  rcases hab with rfl | rfl
  · exact .inl rfl
  · exact hbc

theorem Covered.trans {obtained : List (Option α)} :
    ∀ {middle written : List (Option α)}, Covered obtained middle → Covered middle written →
      Covered obtained written := by
  induction obtained with
  | nil =>
    intro middle written h₁ h₂
    cases h₁
    exact h₂
  | cons o obtained ih =>
    intro middle written h₁ h₂
    cases h₁ with
    | cons ho h₁ =>
      cases h₂ with
      | cons hw h₂ => exact List.Forall₂.cons (ho.trans hw) (ih h₁ h₂)

/-- What covers a concatenation falls into two parts, and so does what is covered by one. -/
theorem covered_append_left {front back : List (Option α)} :
    ∀ {written : List (Option α)}, Covered (front ++ back) written →
      ∃ w₁ w₂, written = w₁ ++ w₂ ∧ Covered front w₁ ∧ Covered back w₂ := by
  induction front with
  | nil => exact fun h => ⟨[], _, rfl, List.Forall₂.nil, h⟩
  | cons o front ih =>
    intro written h
    cases h with
    | cons ho h =>
      obtain ⟨w₁, w₂, rfl, h₁, h₂⟩ := ih h
      exact ⟨_ :: w₁, w₂, rfl, List.Forall₂.cons ho h₁, h₂⟩

/-- Items cover nothing but themselves. -/
theorem Covered.items {items : List α} :
    ∀ {written : List (Option α)}, Covered (items.map some) written → written = items.map some := by
  induction items with
  | nil =>
    intro written h
    cases h
    rfl
  | cons a items ih =>
    intro written h
    cases h with
    | cons ha h =>
      rcases ha with ha | rfl
      · cases ha
      · rw [ih h, List.map_cons]

section Operations

variable {history obtained : List (Option α)} {lag : Nat} {backlog : List α}
  {lost : List (Option α)}

theorem Accounted.publish (h : Accounted history obtained lag backlog []) (a : α) :
    Accounted (history ++ [some a]) obtained lag (backlog ++ [a]) [] := by
  obtain ⟨seen, gap, rfl, hcov, hgap⟩ := h
  exact ⟨seen, gap, by simp, hcov, hgap⟩

/-- The producer gives up the oldest items of the backlog; they join the unreported gap. -/
theorem Accounted.evict {front back : List α}
    (h : Accounted history obtained lag (front ++ back) lost) :
    Accounted history obtained (lag + front.length) back lost := by
  obtain ⟨seen, gap, rfl, hcov, hgap⟩ := h
  exact ⟨seen, gap ++ front.map some, by simp, hcov, by simp [hgap]⟩

/-- The producer skips `n` positions when nothing is queued. -/
theorem Accounted.skip (h : Accounted history obtained lag [] []) (n : Nat) :
    Accounted (history ++ List.replicate n none) obtained (lag + n) [] [] := by
  obtain ⟨seen, gap, rfl, hcov, hgap⟩ := h
  exact ⟨seen, gap ++ List.replicate n none, by simp, hcov, by simp [hgap]⟩

theorem Accounted.report (h : Accounted history obtained lag backlog lost) :
    Accounted history (obtained ++ List.replicate lag none) 0 backlog lost := by
  obtain ⟨seen, gap, rfl, hcov, rfl⟩ := h
  exact ⟨seen ++ gap, [], by simp, covered_append hcov (covered_placeholders gap), rfl⟩

/-- The consumer takes the oldest item; only possible once the gap has been reported. -/
theorem Accounted.take {a : α} (h : Accounted history obtained 0 (a :: backlog) lost) :
    Accounted history (obtained ++ [some a]) 0 backlog lost := by
  obtain ⟨seen, gap, rfl, hcov, hgap⟩ := h
  obtain rfl := List.length_eq_zero_iff.mp hgap
  have hitem : Covered [some a] [some a] := List.Forall₂.cons (Or.inr rfl) List.Forall₂.nil
  exact ⟨seen ++ [some a], [], by simp, covered_append hcov hitem, rfl⟩

theorem Accounted.length_eq (h : Accounted history obtained lag backlog lost) :
    history.length = obtained.length + lag + backlog.length + lost.length := by
  obtain ⟨seen, gap, rfl, hcov, rfl⟩ := h
  simp only [List.length_append, List.length_map, hcov.length_eq]

/-- Accounting for a stream that covers another one is accounting for the other one. -/
theorem Accounted.of_covered {written : List (Option α)}
    (h : Accounted history obtained lag backlog []) (hcov : Covered history written) :
    Accounted written obtained lag backlog [] := by
  obtain ⟨seen, gap, rfl, hseen, hgap⟩ := h
  rw [List.append_nil] at hcov
  obtain ⟨w, back, rfl, hw, hback⟩ := covered_append_left hcov
  obtain ⟨front, middle, rfl, hfront, hmiddle⟩ := covered_append_left hw
  exact ⟨front, middle, by rw [hback.items, List.append_nil], hseen.trans hfront,
    hmiddle.length_eq ▸ hgap⟩

/-- The consumer leaves; what it had not obtained is lost. -/
theorem Accounted.discard (h : Accounted history obtained lag backlog lost) :
    ∃ lost', Accounted history obtained 0 [] lost' := by
  obtain ⟨seen, gap, rfl, hcov, _⟩ := h
  exact ⟨gap ++ backlog.map some ++ lost, seen, [], by simp, hcov, rfl⟩

/-- What the consumer obtained covers a prefix of the stream. -/
theorem Accounted.covers_prefix (h : Accounted history obtained lag backlog lost) :
    ∃ seen, seen <+: history ∧ Covered obtained seen := by
  obtain ⟨seen, gap, rfl, hcov, _⟩ := h
  exact ⟨seen, ⟨gap ++ backlog.map some ++ lost, by simp⟩, hcov⟩

/-- With nothing outstanding and nothing lost, the consumer accounted for the whole stream. -/
theorem Accounted.covers_all (h : Accounted history obtained 0 [] []) :
    Covered obtained history := by
  obtain ⟨seen, gap, rfl, hcov, hgap⟩ := h
  obtain rfl := List.length_eq_zero_iff.mp hgap
  simpa using hcov

end Operations

end LossyStream
