import Mathlib.Data.List.Basic

/-!
# A pool of concurrent calls

The calls that a component serves at the same time are a list: a new call is appended, a step of
a call replaces it, and nothing else moves.
-/

namespace Pool

universe u
variable {α : Type u} {pool : List α} {i j : Nat} {old new x : α}

theorem get_set (h : (pool.set i new)[j]? = some x) :
    j = i ∧ x = new ∨ j ≠ i ∧ pool[j]? = some x := by
  by_cases hij : j = i
  · subst hij
    have hlt : j < pool.length := by
      have := (List.getElem?_eq_some_iff.mp h).1
      rwa [List.length_set] at this
    rw [List.getElem?_set_self hlt] at h
    exact .inl ⟨rfl, (Option.some.inj h).symm⟩
  · rw [List.getElem?_set_ne (Ne.symm hij)] at h
    exact .inr ⟨hij, h⟩

theorem get_append (h : (pool ++ [new])[j]? = some x) :
    j = pool.length ∧ x = new ∨ pool[j]? = some x := by
  have hlt := (List.getElem?_eq_some_iff.mp h).1
  rw [List.length_append, List.length_singleton] at hlt
  by_cases hj : j < pool.length
  · rw [List.getElem?_append_left hj] at h
    exact .inr h
  obtain rfl : j = pool.length := by omega
  rw [List.getElem?_concat_length] at h
  exact .inl ⟨rfl, (Option.some.inj h).symm⟩

theorem get_append_left (h : pool[j]? = some x) (more : List α) : (pool ++ more)[j]? = some x :=
  (List.getElem?_append_left (List.getElem?_eq_some_iff.mp h).1).trans h

theorem set_self (h : pool[i]? = some old) (new : α) : (pool.set i new)[i]? = some new :=
  List.getElem?_set_self (List.getElem?_eq_some_iff.mp h).1

theorem count_set (p : α → Bool) (h : pool[i]? = some old) (new : α) :
    (pool.set i new).countP p + (p old).toNat = pool.countP p + (p new).toNat := by
  obtain ⟨hlt, rfl⟩ := List.getElem?_eq_some_iff.mp h
  rw [List.countP_set hlt]
  have hpos : p pool[i] → 0 < pool.countP p := fun hp =>
    List.countP_pos_iff.mpr ⟨_, List.getElem_mem hlt, hp⟩
  cases hold : p pool[i] <;> cases hnew : p new <;> simp_all

theorem count_append (p : α → Bool) (pool : List α) (new : α) :
    (pool ++ [new]).countP p = pool.countP p + (p new).toNat := by
  rw [List.countP_append, List.countP_singleton]
  cases p new <;> rfl

theorem count_pos {p : α → Bool} (h : pool[i]? = some x) (hx : p x) : 0 < pool.countP p :=
  List.countP_pos_iff.mpr ⟨x, List.mem_of_getElem? h, hx⟩

/-- Some call has the property. -/
def Sees (P : α → Prop) (pool : List α) : Prop := ∃ (i : Nat) (x : α), pool[i]? = some x ∧ P x

variable {P Q : α → Prop}

theorem Sees.mono (hPQ : ∀ x, P x → Q x) : Sees P pool → Sees Q pool :=
  fun ⟨i, x, hx, hP⟩ => ⟨i, x, hx, hPQ x hP⟩

theorem Sees.set (h : Sees P pool) (hi : pool[i]? = some old) (hkept : P old → P new) :
    Sees P (pool.set i new) := by
  obtain ⟨j, x, hx, hP⟩ := h
  by_cases hij : j = i
  · subst hij
    obtain rfl := Option.some.inj (hx.symm.trans hi)
    exact ⟨j, new, set_self hi new, hkept hP⟩
  · exact ⟨j, x, by rw [List.getElem?_set_ne (Ne.symm hij), hx], hP⟩

theorem Sees.append (h : Sees P pool) (new : α) : Sees P (pool ++ [new]) := by
  obtain ⟨j, x, hx, hP⟩ := h
  exact ⟨j, x, get_append_left hx _, hP⟩

theorem Sees.of_set (h : Sees P (pool.set i new)) : P new ∨ Sees P pool := by
  obtain ⟨j, x, hx, hP⟩ := h
  obtain ⟨-, rfl⟩ | ⟨-, hx⟩ := get_set hx
  · exact .inl hP
  · exact .inr ⟨j, x, hx, hP⟩

theorem Sees.of_append (h : Sees P (pool ++ [new])) : P new ∨ Sees P pool := by
  obtain ⟨j, x, hx, hP⟩ := h
  obtain ⟨-, rfl⟩ | hx := get_append hx
  · exact .inl hP
  · exact .inr ⟨j, x, hx, hP⟩

end Pool
