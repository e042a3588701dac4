import Mathlib.Data.List.Perm.Basic
import Mathlib.Data.List.Nodup

/-!
# Maps whose values know their keys

A hash map that stores every value under a key computed from it is a list of values with
distinct keys; the order of the list stands for the unspecified order of iteration.
-/

universe u v
variable {κ : Type u} {α : Type v}

/-- A map of values of type `α`, each under its own key. -/
structure KeyedMap (key : α → κ) where
  values : List α
  nodup : (values.map key).Nodup

namespace KeyedMap

variable {key : α → κ} (m : KeyedMap key)

def empty : KeyedMap key := ⟨[], List.nodup_nil⟩

/-- Keep the values that satisfy a condition, after a change that keeps keys. -/
def retain (p : α → Bool) (f : α → α) (hf : ∀ a, key (f a) = key a) : KeyedMap key where
  values := (m.values.filter p).map f
  nodup := by
    have hkeys : ((m.values.filter p).map f).map key = (m.values.filter p).map key := by
      simp [Function.comp_def, hf]
    rw [hkeys]
    exact m.nodup.sublist (List.filter_sublist.map key)

variable {a : α} {k : κ}

theorem eq_of_key {b : α} (ha : a ∈ m.values) (hb : b ∈ m.values) (h : key a = key b) : a = b :=
  List.inj_on_of_nodup_map m.nodup ha hb h

variable [DecidableEq κ]

def contains (k : κ) : Bool := m.values.any fun a => key a = k

def get (k : κ) : Option α := m.values.find? fun a => key a = k

def erase (k : κ) : KeyedMap key where
  values := m.values.filter fun b => key b ≠ k
  nodup := m.nodup.sublist (List.filter_sublist.map key)

/-- Put a value under its key, in place of the old one. -/
def insert (a : α) : KeyedMap key where
  values := a :: m.values.filter fun b => key b ≠ key a
  nodup := by
    rw [List.map_cons, List.nodup_cons]
    exact ⟨by simp, m.nodup.sublist (List.filter_sublist.map key)⟩

def remove (k : κ) : Option (α × KeyedMap key) :=
  match m.values.find? fun a => key a = k with
  | none => none
  | some a =>
    some (a, ⟨m.values.filter fun b => key b ≠ k,
      m.nodup.sublist (List.filter_sublist.map key)⟩)

theorem contains_iff (k : κ) : m.contains k ↔ k ∈ m.values.map key := by
  simp [contains]

theorem get_eq_some : m.get k = some a ↔ a ∈ m.values ∧ key a = k := by
  constructor
  · intro h
    exact ⟨List.mem_of_find?_eq_some h, by simpa using List.find?_some h⟩
  · rintro ⟨hmem, rfl⟩
    cases hget : m.get (key a) with
    | none => simpa using List.find?_eq_none.mp hget a hmem
    | some b =>
      have hb : key b = key a := by simpa using List.find?_some hget
      rw [m.eq_of_key (List.mem_of_find?_eq_some hget) hmem hb]

theorem remove_of_mem (h : a ∈ m.values) : ∃ m', m.remove (key a) = some (a, m') := by
  have hget : m.values.find? (fun b => key b = key a) = some a := m.get_eq_some.mpr ⟨h, rfl⟩
  exact ⟨_, by rw [remove, hget]⟩

theorem mem_erase : a ∈ (m.erase k).values ↔ a ∈ m.values ∧ key a ≠ k := by
  simp [erase]

theorem mem_insert {b : α} : b ∈ (m.insert a).values ↔ b = a ∨ (b ∈ m.values ∧ key b ≠ key a) := by
  simp [insert]

theorem filter_absent {as : List α} (h : k ∉ as.map key) : as.filter (fun b => key b ≠ k) = as := by
  rw [List.filter_eq_self]
  intro a ha
  simpa using fun heq => h (List.mem_map.mpr ⟨a, ha, heq⟩)

theorem insert_values (hnew : m.contains (key a) = false) :
    (m.insert a).values = a :: m.values := by
  show a :: m.values.filter _ = _
  rw [filter_absent]
  rw [← m.contains_iff, hnew]
  simp

theorem remove_eq_some {m' : KeyedMap key} (h : m.remove k = some (a, m')) :
    key a = k ∧ m.values.Perm (a :: m'.values) := by
  unfold remove at h
  split at h
  · cases h
  rename_i hfind
  cases h
  obtain ⟨hkey, before, after, hvalues, hbefore⟩ := List.find?_eq_some_iff_append.mp hfind
  simp only [decide_eq_true_eq] at hkey
  refine ⟨hkey, ?_⟩
  -- The keys are distinct, so nothing but the value itself is filtered out.
  have hdistinct := m.nodup
  rw [hvalues, List.map_append, List.map_cons] at hdistinct
  have hrest : (before ++ after).filter (fun b => key b ≠ k) = before ++ after := by
    apply filter_absent
    rw [List.map_append, ← hkey]
    exact (List.nodup_middle.mp hdistinct).notMem
  have hfilter : m.values.filter (fun b => key b ≠ k) = before ++ after := by
    rw [← hrest, hvalues]
    simp [hkey]
  show m.values.Perm (a :: m.values.filter fun b => key b ≠ k)
  rw [hfilter, hvalues]
  exact List.perm_middle

end KeyedMap
