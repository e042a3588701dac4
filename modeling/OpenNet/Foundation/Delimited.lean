import Mathlib.Data.List.Infix

/-!
# Texts with delimiters

`sections delim` cuts a text at the occurrences of a delimiter, from left to right.  It undoes
`join` as long as no occurrence starts inside a section, which for a delimiter whose first symbol
is not repeated says only that no section holds the delimiter.
-/

namespace Delimited

universe u
variable {α : Type u} [DecidableEq α] {delim text other rest : List α}

/-- The first section of a text and the later ones; `skip` symbols belong to the last delimiter. -/
def sections (delim : List α) : Nat → List α → List α × List (List α)
  | _, [] => ([], [])
  | skip + 1, _ :: text => sections delim skip text
  | 0, a :: text =>
    if delim.isPrefixOf (a :: text) then
      let later := sections delim (delim.length - 1) text
      ([], later.1 :: later.2)
    else
      let later := sections delim 0 text
      (a :: later.1, later.2)

/-- The sections with the delimiter between them. -/
def join (delim : List α) : List α → List (List α) → List α
  | first, [] => first
  | first, next :: more => first ++ (delim ++ join delim next more)

/-- No delimiter starts in `text` when `rest` follows. -/
def Clear (delim text rest : List α) : Prop :=
  ∀ front back, text = front ++ back → back ≠ [] → ¬ delim <+: back ++ rest

/-- No occurrence starts in `text` when a delimiter follows. -/
def Free (delim text : List α) : Prop := ∀ rest, Clear delim text (delim ++ rest)

omit [DecidableEq α] in
theorem Clear.nil : Clear delim [] rest := by
  intro front back h hback
  exact absurd (List.append_eq_nil_iff.mp h.symm).2 hback

omit [DecidableEq α] in
theorem Clear.append (htext : Clear delim text (other ++ rest)) (hother : Clear delim other rest) :
    Clear delim (text ++ other) rest := by
  intro front back h hback
  rcases List.append_eq_append_iff.mp h with ⟨middle, rfl, rfl⟩ | ⟨middle, rfl, rfl⟩
  · exact hother middle back rfl hback
  cases middle with
  | nil => simpa using hother [] other rfl (by simpa using hback)
  | cons a middle =>
    rw [List.append_assoc]
    exact htext front (a :: middle) rfl (List.cons_ne_nil a middle)

variable {c : α} {tail : List α} {more : List (List α)}

omit [DecidableEq α] in
/-- A text without the first symbol of the delimiter. -/
theorem Clear.of_head (h : c ∉ text) : Clear (c :: tail) text rest := by
  intro front back htext hback hpre
  cases back with
  | nil => exact hback rfl
  | cons a back =>
    obtain rfl : c = a := by simpa using (List.cons_prefix_cons.mp hpre).1
    exact h (htext ▸ List.mem_append_right _ List.mem_cons_self)

omit [DecidableEq α] in
theorem not_prefix_append {part : List α} (hc : c ∉ part) (h : ¬ part <+: text) :
    ¬ part <+: text ++ c :: rest := by
  intro hpre
  rcases Nat.le_total part.length text.length with hlen | hlen
  · exact h (List.prefix_of_prefix_length_le hpre (List.prefix_append text _) hlen)
  obtain ⟨more, rfl⟩ :=
    List.prefix_of_prefix_length_le (List.prefix_append text (c :: rest)) hpre hlen
  cases more with
  | nil => exact h (by rw [List.append_nil])
  | cons b more =>
    have hnext : b :: more <+: c :: rest := by simpa using hpre
    rw [(List.cons_prefix_cons.mp hnext).1] at hc
    exact hc (List.mem_append_right _ List.mem_cons_self)

omit [DecidableEq α] in
/-- A text before the first symbol of a delimiter that has it once: an occurrence that starts in the
text ends there. -/
theorem Clear.of_infix (honce : c ∉ tail) (h : ¬ (c :: tail) <:+: text) :
    Clear (c :: tail) text (c :: rest) := by
  intro front back htext hback hpre
  cases back with
  | nil => exact hback rfl
  | cons a back =>
    rw [List.cons_append] at hpre
    obtain ⟨rfl, htail⟩ := List.cons_prefix_cons.mp hpre
    refine not_prefix_append honce (fun hinside => h ?_) htail
    rw [htext]
    exact (List.cons_prefix_cons.mpr ⟨rfl, hinside⟩).isInfix.trans
      (List.suffix_append front _).isInfix

omit [DecidableEq α] in
theorem Free.clear_end (h : Free delim text) : Clear delim text [] := by
  intro front back htext hback hpre
  refine h [] front back htext hback (hpre.trans ?_)
  rw [List.append_nil]
  exact List.prefix_append back _

/-! ## Cutting -/

theorem sections_skip (delim : List α) :
    ∀ (skip : Nat) (text : List α), sections delim skip text = sections delim 0 (text.drop skip)
  | 0, text => by rw [List.drop_zero]
  | _ + 1, [] => by simp [sections]
  | skip + 1, a :: text => by
    rw [sections, sections_skip delim skip text, List.drop_succ_cons]

theorem sections_clear (hclear : Clear delim text rest) : sections delim 0 (text ++ rest) =
      (text ++ (sections delim 0 rest).1, (sections delim 0 rest).2) := by
  induction text with
  | nil => rfl
  | cons a text ih =>
    have hnot : ¬ delim.isPrefixOf (a :: (text ++ rest)) := by
      rw [List.isPrefixOf_iff_prefix]
      exact hclear [] (a :: text) rfl (List.cons_ne_nil a text)
    have hlater := ih fun front back h => hclear (a :: front) back (by rw [h]; rfl)
    rw [List.cons_append, sections, if_neg hnot, hlater]
    rfl

theorem sections_delim (hdelim : delim ≠ []) (rest : List α) : sections delim 0 (delim ++ rest) =
      ([], (sections delim 0 rest).1 :: (sections delim 0 rest).2) := by
  cases delim with
  | nil => exact absurd rfl hdelim
  | cons c tail =>
    have hpre : (c :: tail).isPrefixOf (c :: (tail ++ rest)) := by
      rw [List.isPrefixOf_iff_prefix]
      exact List.prefix_append (c :: tail) rest
    rw [List.cons_append, sections, if_pos hpre]
    simp [sections_skip]

theorem sections_join (hdelim : delim ≠ []) :
    ∀ {first : List α}, (∀ s ∈ first :: more, Free delim s) →
      sections delim 0 (join delim first more) = (first, more) := by
  induction more with
  | nil =>
    intro first h
    have hclear := (h first List.mem_cons_self).clear_end
    simpa [join, sections] using sections_clear hclear
  | cons next more ih =>
    intro first h
    have hlater := ih fun s hs => h s (List.mem_cons_of_mem first hs)
    rw [join, sections_clear (h first List.mem_cons_self _), sections_delim hdelim, hlater,
      List.append_nil]

omit [DecidableEq α] in
theorem join_of_ne_nil {first : List α} (h : more ≠ []) :
    join delim first more = first ++ join delim [] more := by
  cases more with
  | nil => exact absurd rfl h
  | cons next more => rfl

end Delimited
