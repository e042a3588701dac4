import Mathlib.Data.List.Perm.Basic
import Mathlib.Data.List.Nodup
import Mathlib.Logic.Function.Basic

/-!
# An indexed binary heap

A binary max-heap in a list, with an index from the keys of its items to their positions, so
that an item can be removed by its key.  The type carries the fact that the index is exactly
the inverse of the list of items; the operations keep it.
-/

universe u v
variable {κ : Type u} {α : Type v}

/-- A heap of items of type `α` that are found by their key. -/
structure IndexedHeap (key : α → κ) where
  items : List α
  positions : κ → Option Nat
  indexed : ∀ k i, positions k = some i ↔ items[i]?.map key = some k

namespace IndexedHeap

variable {key : α → κ} (gt : α → α → Bool) (h : IndexedHeap key)

def empty : IndexedHeap key := ⟨[], fun _ => none, by simp⟩

/-- The greatest item. -/
def peek : Option α := h.items.head?

/-- The key is indexed. -/
def contains (k : κ) : Bool := (h.positions k).isSome

/-- All items, and an empty heap. -/
def drain : List α × IndexedHeap key := (h.items, empty)

/-- Compare two nodes; a position without a node is not greater. -/
def greater (left right : Nat) : Bool :=
  match h.items[left]?, h.items[right]? with
  | some a, some b => gt a b
  | _, _ => false

theorem contains_iff (k : κ) : h.contains k ↔ k ∈ h.items.map key := by
  rw [contains, Option.isSome_iff_exists]
  simp only [h.indexed, List.mem_iff_getElem?, List.getElem?_map]

variable {a : α} {k : κ} {h' : IndexedHeap key}

theorem position_unique {i j : Nat} {b : α} (hi : h.items[i]? = some a) (hj : h.items[j]? = some b)
    (hkey : key a = key b) : i = j := by
  have h₁ := (h.indexed (key a) i).mpr (by simp [hi])
  have h₂ := (h.indexed (key a) j).mpr (by simp [hj, hkey])
  simpa using h₁.symm.trans h₂

theorem keys_nodup : (h.items.map key).Nodup := by
  rw [List.nodup_iff_injective_get]
  rintro ⟨i, hi⟩ ⟨j, hj⟩ heq
  simp only [List.length_map] at hi hj
  simp only [List.get_eq_getElem, List.getElem_map] at heq
  exact Fin.ext (h.position_unique (List.getElem?_eq_getElem hi) (List.getElem?_eq_getElem hj) heq)

variable [DecidableEq κ]

/-! ## Moving nodes -/

/-- Correct the position of a key that is indexed. -/
def reposition (positions : κ → Option Nat) (k : κ) (i : Nat) : κ → Option Nat :=
  if (positions k).isSome then Function.update positions k (some i) else positions

theorem reposition_apply {positions : κ → Option Nat} (hk : (positions k).isSome) (i : Nat)
    (k' : κ) : reposition positions k i k' = if k' = k then some i else positions k' := by
  rw [reposition, if_pos hk, Function.update_apply]

theorem indexed_swap {left right : Nat} {b : α} (hne : left ≠ right)
    (hleft : h.items[left]? = some a) (hright : h.items[right]? = some b) (k : κ) (i : Nat) :
    reposition (reposition h.positions (key b) left) (key a) right k = some i ↔
      ((h.items.set left b).set right a)[i]?.map key = some k := by
  have ha : h.positions (key a) = some left := (h.indexed _ _).mpr (by simp [hleft])
  have hb : h.positions (key b) = some right := (h.indexed _ _).mpr (by simp [hright])
  have hkeys : key a ≠ key b := fun heq => hne (h.position_unique hleft hright heq)
  have hpos : reposition (reposition h.positions (key b) left) (key a) right k =
      if k = key a then some right else if k = key b then some left else h.positions k := by
    rw [reposition_apply (by rw [reposition_apply (by simp [hb])]; simp [hkeys, ha]),
      reposition_apply (by simp [hb])]
  have hitem : ((h.items.set left b).set right a)[i]? =
      if i = right then some a else if i = left then some b else h.items[i]? := by
    have hl := (List.getElem?_eq_some_iff.mp hleft).1
    have hr := (List.getElem?_eq_some_iff.mp hright).1
    simp only [List.getElem?_set, List.length_set, hl, hr, if_true, eq_comm (a := right),
      eq_comm (a := left)]
  have hold := h.indexed k i
  rw [hpos, hitem]
  grind

/-- Exchange two nodes and their positions, if both exist. -/
def swap (left right : Nat) : Bool × IndexedHeap key :=
  if hne : left = right then (true, h)
  else match hleft : h.items[left]?, hright : h.items[right]? with
    | some a, some b =>
      (true, ⟨(h.items.set left b).set right a,
        reposition (reposition h.positions (key b) left) (key a) right,
        h.indexed_swap hne hleft hright⟩)
    | _, _ => (false, h)

/-- The loop of `siftUp`; the position bounds the rounds. -/
def siftUpLoop : Nat → Nat → IndexedHeap key → IndexedHeap key
  | 0, _, h => h
  | rounds + 1, index, h =>
    if index = 0 then h
    else
      let parent := (index - 1) / 2
      if h.greater gt index parent then
        match h.swap index parent with
        | (true, h) => siftUpLoop rounds parent h
        | (false, h) => h
      else h

/-- Move a node up along its parents. -/
def siftUp (index : Nat) : IndexedHeap key := siftUpLoop gt index index h

/-- The larger one of the children of a node, given the left one. -/
def largerChild (left : Nat) : Nat :=
  if h.items[left + 1]?.isSome && h.greater gt (left + 1) left then left + 1 else left

/-- The loop of `siftDown`; the positions above bound the rounds. -/
def siftDownLoop : Nat → Nat → IndexedHeap key → IndexedHeap key
  | 0, _, h => h
  | rounds + 1, index, h =>
    let left := index * 2 + 1
    if h.items[left]?.isNone then h
    else
      let larger := h.largerChild gt left
      if h.greater gt larger index then
        match h.swap index larger with
        | (true, h) => siftDownLoop rounds larger h
        | (false, h) => h
      else h

/-- Move a node down along its larger children. -/
def siftDown (index : Nat) : IndexedHeap key := siftDownLoop gt (h.items.length - index) index h

/-- Restore the order around a node that was replaced. -/
def settle (index : Nat) : IndexedHeap key :=
  if index ≠ 0 && h.greater gt index ((index - 1) / 2) then h.siftUp gt index
  else h.siftDown gt index

theorem swap_perm (left right : Nat) : (h.swap left right).2.items.Perm h.items := by
  unfold swap
  split
  · exact .refl _
  rename_i hne
  split
  · rename_i a b hleft hright
    obtain ⟨hl, rfl⟩ := List.getElem?_eq_some_iff.mp hleft
    obtain ⟨hr, rfl⟩ := List.getElem?_eq_some_iff.mp hright
    exact List.set_set_perm hl hr
  · exact .refl _

theorem siftUpLoop_perm : ∀ (rounds index : Nat) (h : IndexedHeap key),
    (siftUpLoop gt rounds index h).items.Perm h.items
  | 0, _, _ => .refl _
  | rounds + 1, index, h => by
    have hswap := h.swap_perm index ((index - 1) / 2)
    unfold siftUpLoop
    dsimp only
    repeat' split
    all_goals first
      | exact .refl _
      | (rename_i heq; rw [heq] at hswap; exact hswap)
      | (rename_i heq; rw [heq] at hswap; exact (siftUpLoop_perm rounds _ _).trans hswap)

theorem siftDownLoop_perm : ∀ (rounds index : Nat) (h : IndexedHeap key),
    (siftDownLoop gt rounds index h).items.Perm h.items
  | 0, _, _ => .refl _
  | rounds + 1, index, h => by
    have hswap := h.swap_perm index (h.largerChild gt (index * 2 + 1))
    unfold siftDownLoop
    dsimp only
    repeat' split
    all_goals first
      | exact .refl _
      | (rename_i heq; rw [heq] at hswap; exact hswap)
      | (rename_i heq; rw [heq] at hswap; exact (siftDownLoop_perm rounds _ _).trans hswap)

theorem settle_perm (index : Nat) : (h.settle gt index).items.Perm h.items := by
  unfold settle
  split
  · exact siftUpLoop_perm gt _ _ _
  · exact siftDownLoop_perm gt _ _ _

/-! ## Entering and leaving -/

theorem indexed_append (hnew : h.contains (key a) = false) (k : κ) (i : Nat) :
    Function.update h.positions (key a) (some h.items.length) k = some i ↔
      (h.items ++ [a])[i]?.map key = some k := by
  have habsent : h.positions (key a) = none := by simpa [contains] using hnew
  have hold := h.indexed k i
  rw [Function.update_apply]
  grind

theorem indexed_dropLast (hk : h.positions k = some (h.items.length - 1)) (k' : κ) (i : Nat) :
    Function.update h.positions k none k' = some i ↔ h.items.dropLast[i]?.map key = some k' := by
  have hlast := (h.indexed _ _).mp hk
  have hold := h.indexed k' i
  have hone := h.indexed k i
  rw [Function.update_apply, List.getElem?_dropLast]
  grind

theorem indexed_replace {index : Nat} {last : α} (hk : h.positions k = some index)
    (hlast : h.items.getLast? = some last) (hend : index ≠ h.items.length - 1) (k' : κ) (i : Nat) :
    Function.update (Function.update h.positions k none) (key last) (some index) k' = some i ↔
      (h.items.dropLast.set index last)[i]?.map key = some k' := by
  have hitem := (h.indexed _ _).mp hk
  have hold := h.indexed k' i
  have hone := h.indexed k i
  have htail := h.indexed (key last) i
  have hpos : h.positions (key last) = some (h.items.length - 1) :=
    (h.indexed _ _).mpr (by rw [← List.getLast?_eq_getElem?, hlast]; rfl)
  simp only [Function.update_apply, List.getElem?_set, List.getElem?_dropLast,
    List.length_dropLast]
  grind

/-- Add an item, unless its key is indexed or allocation fails. -/
def push (a : α) (allocated : Bool) : Option (IndexedHeap key) :=
  if hnew : h.contains (key a) then none
  else if allocated then
    some (siftUp gt
      ⟨h.items ++ [a], Function.update h.positions (key a) (some h.items.length),
        h.indexed_append (by simpa using hnew)⟩ h.items.length)
  else none

/-- Remove the item with a key: the last item takes its place. -/
def remove (k : κ) : Option (α × IndexedHeap key) :=
  match hk : h.positions k with
  | none => none
  | some index =>
    if h.items[index]?.map key ≠ some k then none
    else match hlast : h.items.getLast? with
      | none => none
      | some last =>
        if hend : index = h.items.length - 1 then
          some (last, ⟨h.items.dropLast, Function.update h.positions k none,
            h.indexed_dropLast (hend ▸ hk)⟩)
        else match h.items.dropLast[index]? with
          | none => none
          | some removed =>
            some (removed, settle gt
              ⟨h.items.dropLast.set index last,
                Function.update (Function.update h.positions k none) (key last) (some index),
                h.indexed_replace hk hlast hend⟩ index)

/-- Remove the greatest item. -/
def pop : Option (α × IndexedHeap key) :=
  match h.items.head? with
  | none => none
  | some a => h.remove gt (key a)

theorem push_eq_none {allocated : Bool} :
    h.push gt a allocated = none ↔ h.contains (key a) ∨ allocated = false := by
  unfold push
  split <;> simp_all

theorem push_eq_some {allocated : Bool} (heq : h.push gt a allocated = some h') :
    h'.items.Perm (a :: h.items) := by
  unfold push at heq
  split at heq
  · cases heq
  split at heq
  · cases heq
    exact (siftUpLoop_perm gt _ _ _).trans (List.perm_append_singleton a h.items)
  · cases heq

theorem replace_perm {xs : List α} {index : Nat} {last removed : α}
    (hlast : xs.getLast? = some last) (hremoved : xs.dropLast[index]? = some removed) :
    xs.Perm (removed :: xs.dropLast.set index last) := by
  obtain ⟨hlt, rfl⟩ := List.getElem?_eq_some_iff.mp hremoved
  obtain ⟨ys, rfl⟩ := List.getLast?_eq_some_iff.mp hlast
  simp only [List.dropLast_concat] at hlt ⊢
  calc (ys ++ [last]).Perm (last :: ys) := List.perm_append_singleton last ys
    _ |>.Perm (last :: ys[index] :: ys.eraseIdx index) :=
        (List.getElem_cons_eraseIdx_perm hlt).symm.cons last
    _ |>.Perm (ys[index] :: last :: ys.eraseIdx index) := List.Perm.swap _ _ _
    _ |>.Perm (ys[index] :: ys.set index last) :=
        (List.set_perm_cons_eraseIdx hlt last).symm.cons _

theorem remove_eq_some (heq : h.remove gt k = some (a, h')) :
    key a = k ∧ h.items.Perm (a :: h'.items) := by
  unfold remove at heq
  split at heq
  · cases heq
  rename_i index hk
  have hitem := (h.indexed k index).mp hk
  rw [if_neg (by simp [hitem])] at heq
  split at heq
  · cases heq
  rename_i last hlast
  split at heq
  · rename_i hend
    cases heq
    rw [hend, ← List.getLast?_eq_getElem?, hlast] at hitem
    obtain ⟨ys, hys⟩ := List.getLast?_eq_some_iff.mp hlast
    refine ⟨by simpa using hitem, ?_⟩
    show h.items.Perm (a :: h.items.dropLast)
    rw [hys, List.dropLast_concat]
    exact List.perm_append_singleton a ys
  · split at heq
    · cases heq
    rename_i removed hremoved
    cases heq
    have hsame : h.items[index]? = some a := by
      have := hremoved
      rw [List.getElem?_dropLast] at this
      split at this
      · exact this
      · cases this
    refine ⟨by simpa [hsame] using hitem, ?_⟩
    refine (replace_perm hlast hremoved).trans (List.Perm.cons a ?_)
    apply List.Perm.symm
    apply settle_perm

theorem pop_eq_some (heq : h.pop gt = some (a, h')) : h.items.Perm (a :: h'.items) := by
  unfold pop at heq
  split at heq
  · cases heq
  · exact (h.remove_eq_some gt heq).2

/-- An item that is there is removed by its key. -/
theorem remove_iff : (∃ h', h.remove gt k = some (a, h')) ↔ a ∈ h.items ∧ key a = k := by
  constructor
  · rintro ⟨h', heq⟩
    obtain ⟨hkey, hperm⟩ := h.remove_eq_some gt heq
    exact ⟨hperm.mem_iff.mpr List.mem_cons_self, hkey⟩
  · rintro ⟨hmem, rfl⟩
    suffices hsome : (h.remove gt (key a)).isSome by
      obtain ⟨⟨b, h'⟩, heq⟩ := Option.isSome_iff_exists.mp hsome
      obtain ⟨hkey, hperm⟩ := h.remove_eq_some gt heq
      have hb : b ∈ h.items := hperm.mem_iff.mpr List.mem_cons_self
      exact ⟨h', List.inj_on_of_nodup_map h.keys_nodup hb hmem hkey ▸ heq⟩
    obtain ⟨index, hitem⟩ := List.mem_iff_getElem?.mp hmem
    have hk := (h.indexed (key a) index).mpr (by simp [hitem])
    have hlt := (List.getElem?_eq_some_iff.mp hitem).1
    unfold remove
    split <;> grind

theorem pop_iff : (∃ h', h.pop gt = some (a, h')) ↔ h.items.head? = some a := by
  unfold pop
  split
  · simp_all
  · rename_i b hb
    rw [remove_iff, hb, Option.some_inj]
    refine ⟨fun ⟨ha, hkey⟩ => ?_, fun heq => heq ▸ ⟨List.mem_of_head? hb, rfl⟩⟩
    exact (List.inj_on_of_nodup_map h.keys_nodup ha (List.mem_of_head? hb) hkey).symm

theorem pop_eq_remove (heq : h.pop gt = some (a, h')) : h.remove gt (key a) = some (a, h') := by
  have hhead := (h.pop_iff gt).mp ⟨h', heq⟩
  rwa [pop, hhead] at heq

end IndexedHeap

/-! ## The order of the heap -/

namespace IndexedHeap

variable {key : α → κ}

/-- The comparison is a strict order, up to items that are equal. -/
structure StrictOrder (gt : α → α → Bool) : Prop where
  asymm : ∀ a b, gt a b → gt b a = false
  trans : ∀ a b c, gt a b = false → gt b c = false → gt a c = false

/-- The item at `i` is not greater than the one at `p`. -/
def Below (gt : α → α → Bool) (get : Nat → Option α) (i p : Nat) : Prop :=
  ∀ a b, get p = some a → get i = some b → gt b a = false

/-- No item is greater than its parent. -/
def Ordered (gt : α → α → Bool) (h : IndexedHeap key) : Prop :=
  ∀ i, 0 < i → Below gt (h.items[·]?) i ((i - 1) / 2)

/-- No item but those of `off` exceeds its parent, and no child of the hole the hole's parent. -/
structure OrderedOff (gt : α → α → Bool) (off : Nat → Prop) (hole : Nat)
    (get : Nat → Option α) : Prop where
  edge : ∀ i, 0 < i → ¬off i → Below gt get i ((i - 1) / 2)
  past : 0 < hole → ∀ i, (i - 1) / 2 = hole → Below gt get i ((hole - 1) / 2)

def swapped (get : Nat → Option α) (i j : Nat) : Nat → Option α :=
  fun k => if k = j then get i else if k = i then get j else get k

theorem ordered_empty {gt : α → α → Bool} : Ordered gt (empty : IndexedHeap key) :=
  fun i _ a b ha => by simp [empty] at ha

section Order

variable {gt : α → α → Bool} (hgt : StrictOrder gt) {get : Nat → Option α} {hole : Nat} {a b : α}
  {h : IndexedHeap key}
include hgt

theorem up_swap (h : OrderedOff gt (· = hole) hole get) (hpos : 0 < hole)
    (ha : get hole = some a) (hb : get ((hole - 1) / 2) = some b) (hab : gt a b) :
    OrderedOff gt (· = (hole - 1) / 2) ((hole - 1) / 2) (swapped get hole ((hole - 1) / 2)) := by
  obtain ⟨hedge, hpast⟩ := h
  obtain ⟨hasymm, htrans⟩ := hgt
  simp only [Below] at *
  constructor <;> simp only [Below, swapped] <;> grind

theorem down_swap (h : OrderedOff gt (fun i => (i - 1) / 2 = hole) hole get) {larger : Nat}
    (hchild : (larger - 1) / 2 = hole ∧ 0 < larger)
    (hlarger : ∀ i, 0 < i → (i - 1) / 2 = hole → Below gt get i larger)
    (ha : get larger = some a) (hb : get hole = some b) (hab : gt a b) :
    OrderedOff gt (fun i => (i - 1) / 2 = larger) larger (swapped get hole larger) := by
  have hparent : hole < larger := by omega
  refine ⟨fun i hi hoff x y hx hy => ?_, fun _ i hi x y hx hy => ?_⟩
  · simp only [swapped, if_neg hoff] at hx hy
    by_cases hil : i = larger
    · rw [if_pos (hil ▸ hchild.1)] at hx
      rw [if_pos hil] at hy
      grind [hgt.asymm]
    rw [if_neg hil] at hy
    by_cases hih : i = hole
    · rw [if_pos hih] at hy
      rw [if_neg (by omega)] at hx
      exact h.past (by omega) larger hchild.1 x y (hih ▸ hx) hy
    rw [if_neg hih] at hy
    split at hx
    · rename_i hp
      exact hlarger i hi hp x y hx hy
    · rename_i hp
      exact h.edge i hi hp x y hx hy
  · simp only [swapped] at hx hy
    rw [if_neg (by omega), if_neg (by omega)] at hy
    rw [hchild.1, if_neg (by omega), if_pos rfl] at hx
    have := h.edge i (by omega) (by omega) x y
    grind

omit hgt in
theorem greater_iff {i j : Nat} : h.greater gt i j ↔
    ∃ a b, h.items[i]? = some a ∧ h.items[j]? = some b ∧ gt a b := by
  unfold greater
  split <;> simp_all

/-- No child is greater than the larger one. -/
theorem largerChild_spec (h : IndexedHeap key) (hole : Nat) :
    ((h.largerChild gt (hole * 2 + 1) - 1) / 2 = hole ∧ 0 < h.largerChild gt (hole * 2 + 1)) ∧
      ∀ i, 0 < i → (i - 1) / 2 = hole →
        Below gt (h.items[·]?) i (h.largerChild gt (hole * 2 + 1)) := by
  have hrefl : ∀ a, gt a a = false := fun a => by grind [hgt.asymm a a]
  unfold largerChild
  split
  · rename_i hright
    obtain ⟨-, hgreater⟩ := Bool.and_eq_true_iff.mp hright
    obtain ⟨a, b, ha, hb, hab⟩ := greater_iff.mp hgreater
    refine ⟨by omega, fun i hi hp x y hx hy => ?_⟩
    obtain rfl | rfl : i = hole * 2 + 1 ∨ i = hole * 2 + 2 := by omega
    · grind [hgt.asymm]
    · grind
  · rename_i hright
    refine ⟨by omega, fun i hi hp x y hx hy => ?_⟩
    obtain rfl | rfl : i = hole * 2 + 1 ∨ i = hole * 2 + 2 := by omega
    · grind
    · simp only [Bool.and_eq_true, greater_iff] at hright
      grind

variable [DecidableEq κ]

omit hgt in
theorem swap_get {left right : Nat} (ha : h.items[left]? = some a) (hb : h.items[right]? = some b) :
    (h.swap left right).1 ∧
      ∀ k, (h.swap left right).2.items[k]? = swapped (h.items[·]?) left right k := by
  unfold swap swapped
  split
  · grind
  split <;> grind

theorem siftUpLoop_ordered : ∀ (rounds index : Nat) (h : IndexedHeap key), index ≤ rounds →
    OrderedOff gt (· = index) index (h.items[·]?) → Ordered gt (siftUpLoop gt rounds index h)
  | 0, index, h, hle, ho => fun i hi => ho.edge i hi (by omega)
  | rounds + 1, index, h, hle, ho => by
    unfold siftUpLoop
    split
    · exact fun i hi => ho.edge i hi (by omega)
    dsimp only
    split
    · rename_i hpos hgreater
      obtain ⟨a, b, ha, hb, hab⟩ := greater_iff.mp hgreater
      obtain ⟨hok, hget⟩ := swap_get ha hb
      split
      · rename_i h' hswap
        rw [hswap] at hget
        refine siftUpLoop_ordered rounds _ h' (by omega) ?_
        have hget' : (h'.items[·]?) = _ := funext hget
        rw [hget']
        exact up_swap hgt ho (by omega) ha hb hab
      · simp_all
    · rename_i hpos hgreater
      rw [greater_iff] at hgreater
      intro i hi
      by_cases hi' : i = index
      · intro a b ha hb; grind
      · exact ho.edge i hi hi'

omit hgt [DecidableEq κ] in
theorem leaf_ordered (ho : OrderedOff gt (fun i => (i - 1) / 2 = hole) hole (h.items[·]?))
    (hleft : h.items[hole * 2 + 1]? = none) : Ordered gt h := by
  intro i hi
  by_cases hp : (i - 1) / 2 = hole
  · intro a b ha hb
    grind
  · exact ho.edge i hi hp

theorem siftDownLoop_ordered : ∀ (rounds index : Nat) (h : IndexedHeap key),
    h.items.length ≤ rounds + index →
    OrderedOff gt (fun i => (i - 1) / 2 = index) index (h.items[·]?) →
    Ordered gt (siftDownLoop gt rounds index h)
  | 0, _, h, hle, ho => show Ordered gt h from leaf_ordered ho (List.getElem?_eq_none (by omega))
  | rounds + 1, index, h, hle, ho => by
    unfold siftDownLoop
    dsimp only
    split
    · rename_i hleft
      exact leaf_ordered ho (Option.isNone_iff_eq_none.mp hleft)
    rename_i hleft
    obtain ⟨hchild, hlarger⟩ := largerChild_spec hgt h index
    split
    · rename_i hgreater
      obtain ⟨a, b, ha, hb, hab⟩ := greater_iff.mp hgreater
      obtain ⟨hok, hget⟩ := swap_get hb ha
      have hlength := (h.swap_perm index (h.largerChild gt (index * 2 + 1))).length_eq
      split
      · rename_i h' hswap
        rw [hswap] at hget hlength
        have hget' : (h'.items[·]?) = _ := funext hget
        refine siftDownLoop_ordered rounds _ h' (by simp only at hlength; omega) ?_
        rw [hget']
        exact down_swap hgt ho hchild hlarger ha hb hab
      · simp_all
    · rename_i hgreater
      rw [greater_iff] at hgreater
      intro i hi
      by_cases hp : (i - 1) / 2 = index
      · intro a b ha hb
        have hfar := hlarger i hi hp
        cases hl : h.items[h.largerChild gt (index * 2 + 1)]? with
        | none => grind [largerChild]
        | some c => exact hgt.trans b c a (hfar c b hl hb) (by grind)
      · exact ho.edge i hi hp

/-- An item that takes the place of another one settles where it belongs. -/
theorem settle_ordered {index : Nat} (ho : OrderedOff gt
    (fun i => i = index ∨ (i - 1) / 2 = index) index (h.items[·]?)) :
    Ordered gt (h.settle gt index) := by
  unfold settle
  split
  · rename_i hup
    simp only [ne_eq, Bool.and_eq_true, decide_eq_true_eq] at hup
    obtain ⟨a, b, ha, hb, hab⟩ := greater_iff.mp hup.2
    refine siftUpLoop_ordered hgt _ _ h (Nat.le_refl _) ⟨fun i hi hoff x y hx hy => ?_, ho.past⟩
    by_cases hp : (i - 1) / 2 = index
    · have := ho.past (by omega) i hp b y hb hy
      grind [hgt.asymm, hgt.trans]
    · exact ho.edge i hi (by omega) x y hx hy
  · rename_i hup
    simp only [ne_eq, Bool.and_eq_true, decide_eq_true_eq, greater_iff] at hup
    refine siftDownLoop_ordered hgt _ _ h (by omega) ⟨fun i hi hoff x y hx hy => ?_, ho.past⟩
    by_cases hi' : i = index
    · grind
    · exact ho.edge i hi (by omega) x y hx hy

theorem push_ordered (ho : Ordered gt h) {allocated : Bool} {h' : IndexedHeap key}
    (heq : h.push gt a allocated = some h') : Ordered gt h' := by
  unfold push at heq
  split at heq
  · cases heq
  split at heq
  · cases heq
    refine siftUpLoop_ordered hgt _ _ _ (Nat.le_refl _)
      ⟨fun i hi hoff x y hx hy => ?_, fun _ i hi x y hx hy => ?_⟩
    · exact ho i hi x y (by grind) (by grind)
    · grind
  · cases heq

theorem remove_ordered (ho : Ordered gt h) {k : κ} {h' : IndexedHeap key}
    (heq : h.remove gt k = some (a, h')) : Ordered gt h' := by
  unfold remove at heq
  split at heq
  · cases heq
  split at heq
  · cases heq
  split at heq
  · cases heq
  split at heq
  · cases heq
    exact fun i hi x y hx hy => ho i hi x y (by grind) (by grind)
  split at heq
  · cases heq
  cases heq
  refine settle_ordered hgt ⟨fun i hi hoff x y hx hy => ?_, fun hpos i hi x y hx hy => ?_⟩
  · exact ho i hi x y (by grind) (by grind)
  · rename_i index hk hitem last hlast hend _ hremoved
    refine hgt.trans y a x (ho i (by omega) a y ?_ ?_) (ho index hpos x a ?_ ?_)
      <;> grind

omit [DecidableEq κ] in
/-- No item is greater than the first one. -/
theorem head_max (ho : Ordered gt h) (ha : h.items.head? = some a) (hb : b ∈ h.items) :
    gt b a = false := by
  obtain ⟨i, hi⟩ := List.mem_iff_getElem?.mp hb
  rw [List.head?_eq_getElem?] at ha
  induction i using Nat.strongRecOn generalizing b with
  | ind i ih =>
    by_cases hpos : i = 0
    · grind [hgt.asymm]
    obtain ⟨c, hc⟩ : ∃ c, h.items[(i - 1) / 2]? = some c :=
      ⟨_, List.getElem?_eq_getElem (by grind)⟩
    exact hgt.trans b c a (ho i (by omega) c b hc hi)
      (ih _ (by omega) (List.mem_of_getElem? hc) hc)

end Order

end IndexedHeap
