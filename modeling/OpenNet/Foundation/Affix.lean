import Mathlib.Data.List.Infix

/-!
# Parts of a list that end at a separator

The two tests by which a path lies under another path and a domain under another domain.
-/

namespace Affix

universe u
variable {α : Type u} {sep : α} {whole part other : List α}

/-- `whole` is `part`, or goes on after it at a separator. -/
def Continues (sep : α) (whole part : List α) : Prop :=
  ∃ rest, whole = part ++ rest ∧
    (rest = [] ∨ part.getLast? = some sep ∨ rest.head? = some sep)

/-- `whole` is `part`, or ends in it right after a separator. -/
def EndsIn (sep : α) (whole part : List α) : Prop :=
  ∃ front, whole = front ++ part ∧ (front = [] ∨ front.getLast? = some sep)

theorem Continues.refl (part : List α) : Continues sep part part :=
  ⟨[], (List.append_nil part).symm, .inl rfl⟩

theorem EndsIn.refl (part : List α) : EndsIn sep part part :=
  ⟨[], rfl, .inl rfl⟩

theorem Continues.trans (h : Continues sep whole other) (hother : Continues sep other part) :
    Continues sep whole part := by
  obtain ⟨rest, rfl, hrest⟩ := h
  obtain ⟨middle, rfl, hmiddle⟩ := hother
  refine ⟨middle ++ rest, List.append_assoc part middle rest, ?_⟩
  cases middle with
  | nil => simpa using hrest
  | cons a middle => simpa using hmiddle

theorem EndsIn.trans (h : EndsIn sep whole other) (hother : EndsIn sep other part) :
    EndsIn sep whole part := by
  obtain ⟨front, rfl, hfront⟩ := h
  obtain ⟨middle, rfl, hmiddle⟩ := hother
  refine ⟨front ++ middle, (List.append_assoc front middle part).symm, ?_⟩
  cases middle with
  | nil => simpa using hfront
  | cons a middle =>
    rw [List.getLast?_append_of_ne_nil _ (List.cons_ne_nil a middle)]
    exact .inr (hmiddle.resolve_left (List.cons_ne_nil a middle))

theorem intercalate_append {first second : List (List α)} (hfirst : first ≠ [])
    (hsecond : second ≠ []) : [sep].intercalate (first ++ second) =
      [sep].intercalate first ++ sep :: [sep].intercalate second := by
  induction first with
  | nil => exact absurd rfl hfirst
  | cons a first ih =>
    cases first with
    | nil =>
      obtain ⟨b, second, rfl⟩ := List.exists_cons_of_ne_nil hsecond
      simp [List.intercalate]
    | cons b first => simpa [List.intercalate] using ih (List.cons_ne_nil b first)

theorem endsIn_iff_splitOn [BEq α] [LawfulBEq α] :
    EndsIn sep whole part ↔ part.splitOn sep <:+ whole.splitOn sep := by
  constructor
  · rintro ⟨front, rfl, rfl | hfront⟩
    · exact List.suffix_rfl
    · obtain ⟨front, rfl⟩ := List.getLast?_eq_some_iff.mp hfront
      rw [List.append_assoc, List.singleton_append, List.splitOn_append_cons_self]
      exact List.suffix_append _ _
  · rintro ⟨front, hfront⟩
    have hjoin (text : List α) : [sep].intercalate (text.splitOn sep) = text :=
      List.intercalate_splitOn sep
    have hwhole := hjoin whole
    rw [← hfront] at hwhole
    by_cases hnil : front = []
    · rw [hnil, List.nil_append, hjoin] at hwhole
      exact hwhole ▸ .refl part
    · rw [intercalate_append hnil (List.splitOn_ne_nil sep part), hjoin] at hwhole
      exact ⟨[sep].intercalate front ++ [sep], by rw [← hwhole]; simp, .inr (by simp)⟩

theorem Continues.comparable (hpart : Continues sep whole part)
    (hother : Continues sep whole other) (hlen : part.length ≤ other.length) :
    Continues sep other part := by
  obtain ⟨rest, rfl, hrest⟩ := hpart
  obtain ⟨rest', hwhole, -⟩ := hother
  obtain ⟨middle, rfl⟩ : part <+: other :=
    List.prefix_of_prefix_length_le (List.prefix_append part rest)
      (hwhole ▸ List.prefix_append other rest') hlen
  refine ⟨middle, rfl, ?_⟩
  have hsplit : rest = middle ++ rest' := by simpa using hwhole
  cases middle with
  | nil => exact .inl rfl
  | cons a middle =>
    -- The longer part goes on with the character the whole list goes on with.
    subst hsplit
    simpa using hrest

theorem EndsIn.comparable (hpart : EndsIn sep whole part) (hother : EndsIn sep whole other)
    (hlen : part.length ≤ other.length) : EndsIn sep other part := by
  obtain ⟨front, rfl, hfront⟩ := hpart
  obtain ⟨front', hwhole, -⟩ := hother
  obtain ⟨middle, rfl⟩ : part <:+ other :=
    List.suffix_of_suffix_length_le (List.suffix_append front part)
      (hwhole ▸ List.suffix_append front' other) hlen
  refine ⟨middle, rfl, ?_⟩
  have hsplit : front = front' ++ middle := by
    rw [← List.append_assoc] at hwhole
    exact List.append_cancel_right hwhole
  cases middle with
  | nil => exact .inl rfl
  | cons a middle =>
    -- The longer part ends its own front with the character before the shorter part.
    right
    rcases hfront with hnil | hlast
    · rw [hsplit] at hnil
      simp at hnil
    · rw [hsplit, List.getLast?_append_of_ne_nil _ (List.cons_ne_nil a middle)] at hlast
      exact hlast

end Affix
