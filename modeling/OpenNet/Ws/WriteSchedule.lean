import Mathlib.Data.List.Induction
import OpenNet.Ws.QueueOwnership

/-!
# The order in which requests are written

The heap of `indexed_heap.rs` orders the requests that are ready by priority and sequence, and
`pop_ready` compares its first one with the delayed requests whose time has come.
-/

namespace OpenNet.Ws

open IndexedHeap (Ordered StrictOrder)

/-! ## The heap -/

inductive HeapCall where
  | push (r : QueuedRequest)
  | remove (op : OpId)
  | pop
  | drain

structure HeapRun where
  heap : IndexedHeap QueuedRequest.op := .empty
  pushed : List QueuedRequest := []
  removed : List QueuedRequest := []

namespace HeapRun

def gives (s : HeapRun) : Option (QueuedRequest × IndexedHeap QueuedRequest.op) → HeapRun
  | some (r, heap) => { s with heap, removed := r :: s.removed }
  | none => s

def step (s : HeapRun) : HeapCall → HeapRun
  | .push r => match s.heap.push QueuedRequest.gt r true with
    | some heap => { s with heap, pushed := r :: s.pushed }
    | none => s
  | .remove op => s.gives (s.heap.remove QueuedRequest.gt op)
  | .pop => s.gives (s.heap.pop QueuedRequest.gt)
  | .drain => { s with heap := s.heap.drain.2, removed := s.heap.drain.1 ++ s.removed }

/-- The heap is ordered, with what was pushed and not removed. -/
structure Inv (s : HeapRun) : Prop where
  ordered : Ordered QueuedRequest.gt s.heap
  held : (s.heap.items ++ s.removed).Perm s.pushed

theorem Inv.gives {s : HeapRun} (h : Inv s)
    {out : Option (QueuedRequest × IndexedHeap QueuedRequest.op)}
    (hout : ∀ r heap, out = some (r, heap) →
      s.heap.remove QueuedRequest.gt (QueuedRequest.op r) = some (r, heap)) :
    Inv (s.gives out) := by
  match out with
  | none => exact h
  | some (r, heap) =>
    have hremove := hout r heap rfl
    refine ⟨IndexedHeap.remove_ordered QueuedRequest.gt_order h.ordered hremove, ?_⟩
    refine (List.perm_middle.trans ?_).trans h.held
    exact ((IndexedHeap.remove_eq_some _ _ hremove).2.append_right s.removed).symm

theorem Inv.step {s : HeapRun} (h : Inv s) (call : HeapCall) : Inv (s.step call) := by
  cases call with
  | push r =>
    unfold HeapRun.step
    dsimp only
    split
    · rename_i heap hpush
      refine ⟨IndexedHeap.push_ordered QueuedRequest.gt_order h.ordered hpush, ?_⟩
      exact ((IndexedHeap.push_eq_some _ _ hpush).append_right s.removed).trans (h.held.cons r)
    · exact h
  | remove op =>
    exact h.gives fun r heap hremove => (IndexedHeap.remove_eq_some _ _ hremove).1 ▸ hremove
  | pop => exact h.gives fun r heap => s.heap.pop_eq_remove QueuedRequest.gt
  | drain => exact ⟨IndexedHeap.ordered_empty, h.held⟩

end HeapRun

/-- The guard of a recovery from a broken index, or of a move given up. -/
inductive Recovers (h : IndexedHeap QueuedRequest.op) : Prop
  | invalidDispatchIndex (op : OpId) (index : Nat) (hindex : h.positions op = some index)
      (hitem : h.items[index]?.map QueuedRequest.op ≠ some op)
  | missingReplacementSlot (op : OpId) (index : Nat) (hindex : h.positions op = some index)
      (hend : index ≠ h.items.length - 1) (hslot : h.items.dropLast[index]? = none)
  | replacementIndexRecovered (op : OpId) (index : Nat) (last : QueuedRequest)
      (hindex : h.positions op = some index) (hend : index ≠ h.items.length - 1)
      (hlast : h.items.getLast? = some last)
      (hlost : Function.update h.positions op none last.op = none)
  | invalidSwap (left right : Nat)
      (hgreater : h.greater QueuedRequest.gt left right ∨
        h.greater QueuedRequest.gt right left)
      (hswap : (h.swap left right).1 = false)

theorem not_recovers (h : IndexedHeap QueuedRequest.op) : ¬Recovers h := by
  rintro (⟨op, index, hindex, hitem⟩ | ⟨op, index, hindex, hend, hslot⟩ |
    ⟨op, index, last, hindex, hend, hlast, hlost⟩ | ⟨left, right, hgreater, hswap⟩)
  · exact hitem ((h.indexed op index).mp hindex)
  · have hitem := (h.indexed op index).mp hindex
    grind
  · rw [List.getLast?_eq_getElem?] at hlast
    have hpos := (h.indexed last.op (h.items.length - 1)).mpr (by simp [hlast])
    by_cases hop : last.op = op
    · rw [hop, hindex] at hpos
      exact hend (Option.some_inj.mp hpos)
    · rw [Function.update_of_ne hop, hpos] at hlost
      cases hlost
  · rcases hgreater with hgreater | hgreater <;>
      obtain ⟨a, b, ha, hb, -⟩ := IndexedHeap.greater_iff.mp hgreater
    · rw [(IndexedHeap.swap_get ha hb).1] at hswap
      cases hswap
    · rw [(IndexedHeap.swap_get hb ha).1] at hswap
      cases hswap

/-- **The heap is correct.**  After any calls on a new heap with enough memory:

* the index is exactly the inverse of the items, and no item is greater than its parent;
* the heap holds what it took and has not given back;
* `push` takes every request but one whose token is in the heap already;
* `pop` gives a request that no other one is greater than, or there is none;
* `remove` gives the request with the token exactly when it is there;
* `drain` gives all of them and leaves none.

No heap, those in the middle of a call included, meets the guard of a recovery. -/
theorem heap_correct (calls : List HeapCall) :
    let s := Machine.run HeapRun.step {} calls
    (∀ op i, s.heap.positions op = some i ↔ s.heap.items[i]?.map QueuedRequest.op = some op) ∧
    Ordered QueuedRequest.gt s.heap ∧
    (s.heap.items ++ s.removed).Perm s.pushed ∧
    (∀ r, s.heap.push QueuedRequest.gt r true = none ↔ ∃ r' ∈ s.heap.items, r'.op = r.op) ∧
    (s.heap.pop QueuedRequest.gt = none ↔ s.heap.items = []) ∧
    (∀ r heap, s.heap.pop QueuedRequest.gt = some (r, heap) →
      r ∈ s.heap.items ∧ ∀ r' ∈ s.heap.items, r'.gt r = false) ∧
    (∀ op r, (∃ heap, s.heap.remove QueuedRequest.gt op = some (r, heap)) ↔
      r ∈ s.heap.items ∧ r.op = op) ∧
    (s.heap.drain.1.Perm s.heap.items ∧ s.heap.drain.2.items = []) ∧
    ∀ h, ¬Recovers h := by
  intro s
  have h : HeapRun.Inv s := Machine.run_invariant (I := HeapRun.Inv)
    (fun s call h => h.step call) calls ⟨IndexedHeap.ordered_empty, .refl _⟩
  refine ⟨s.heap.indexed, h.ordered, h.held, fun r => ?_, ?_, fun r heap hpop => ?_,
    fun op r => ?_, ⟨.refl _, rfl⟩, not_recovers⟩
  · rw [IndexedHeap.push_eq_none, IndexedHeap.contains_iff, List.mem_map]
    simp
  · rw [← List.head?_eq_none_iff, ← not_iff_not, ← ne_eq, ← ne_eq, Option.ne_none_iff_exists',
      Option.ne_none_iff_exists']
    simp [← s.heap.pop_iff QueuedRequest.gt]
  · have hhead := (s.heap.pop_iff QueuedRequest.gt).mp ⟨heap, hpop⟩
    exact ⟨List.mem_of_head? hhead, fun r' hr' =>
      IndexedHeap.head_max QueuedRequest.gt_order h.ordered hhead hr'⟩
  · exact s.heap.remove_iff QueuedRequest.gt

/-! ## The queue -/

namespace WriteQueue

variable {E : SessionConfig} {w : Session} {q : WriteQueue} {r : QueuedRequest}

def due (E : SessionConfig) (w : Session) (q : WriteQueue) (now : Nat) : List QueuedRequest :=
  q.delayed.values.filter fun r => (r.wakeAt E w).any (· ≤ now)

theorem Timed.readyDelayed_eq (h : Timed q) (now : Nat) : q.readyDelayed E w now =
    (greatest (q.due E w now)).filter fun r => q.heap.peek.all r.gt := by
  have hdue : q.delayed.values.filter (fun r => (r.wakeAt E w).all (· ≤ now)) = q.due E w now := by
    refine List.filter_congr fun r hr => ?_
    obtain ⟨time, htime⟩ := Option.isSome_iff_exists.mp (h.delayed r hr)
    cases hdeadline : (w.ops r.op).deadline (E.control r.op) <;>
      simp [QueuedRequest.wakeAt, earliest, htime, hdeadline]
  rw [readyDelayed, hdue]

/-- No request of a list is greater than the one that is found. -/
theorem greatest_spec (rs : List QueuedRequest) : (greatest rs = none ↔ rs = []) ∧
    ∀ r, greatest rs = some r → r ∈ rs ∧ ∀ r' ∈ rs, r'.gt r = false := by
  have hasymm := QueuedRequest.gt_order.asymm
  have htrans := QueuedRequest.gt_order.trans
  induction rs using List.reverseRecOn with
  | nil => simp [greatest]
  | append_singleton rs x ih =>
    have hstep : greatest (rs ++ [x]) =
        (greatest rs).elim (some x) fun b => if b.gt x then some b else some x := by
      rw [greatest, List.foldl_append, ← greatest]
      cases greatest rs <;> rfl
    cases hbest : greatest rs <;> rw [hbest] at hstep ih <;> grind [List.append_eq_nil_iff]

theorem popReady_fst (q : WriteQueue) (now : Nat) :
    (q.popReady E w now).1 = (q.readyDelayed E w now).or q.heap.peek := by
  unfold WriteQueue.popReady
  cases hready : q.readyDelayed E w now with
  | some g =>
    rw [readyDelayed, Option.filter_eq_some_iff] at hready
    have hmem := ((greatest_spec _).2 g hready.1).1
    obtain ⟨delayed, hremove⟩ := q.delayed.remove_of_mem (List.mem_filter.mp hmem).1
    simp [hremove]
  | none =>
    cases hpeek : q.heap.peek with
    | some a =>
      obtain ⟨heap, hpop⟩ := (q.heap.pop_iff QueuedRequest.gt).mpr hpeek
      simp [hpop]
    | none =>
      have hitems : q.heap.items = [] := List.head?_eq_none_iff.mp hpeek
      simp [IndexedHeap.pop, hitems]

/-- No request that may be written is greater than the one that is written next. -/
theorem Timed.next (h : Timed q) (now : Nat) :
    ((q.popReady E w now).1 = none ↔ q.heap.items = [] ∧ q.due E w now = []) ∧
    ∀ r, (q.popReady E w now).1 = some r → r ∈ q.heap.items ++ q.due E w now ∧
        ∀ r' ∈ q.heap.items ++ q.due E w now, r'.gt r = false := by
  obtain ⟨hnone, hbest⟩ := greatest_spec (q.due E w now)
  have hempty : q.heap.peek = none ↔ q.heap.items = [] := List.head?_eq_none_iff
  have htop : ∀ a, q.heap.peek = some a →
      a ∈ q.heap.items ∧ ∀ r' ∈ q.heap.items, r'.gt a = false := fun a ha =>
    ⟨List.mem_of_head? ha, fun r' => IndexedHeap.head_max QueuedRequest.gt_order h.ordered ha⟩
  have hasymm := QueuedRequest.gt_order.asymm
  have htrans := QueuedRequest.gt_order.trans
  rw [popReady_fst, h.readyDelayed_eq]
  cases hg : greatest (q.due E w now) <;> cases ha : q.heap.peek <;> grind

end WriteQueue

namespace QueueRun

/-- **The order of writing.** In every queue, at every time, nothing is written exactly when the
heap is empty and no delayed request has reached its time. Otherwise the request is one of those,
never one that is only prepared; none of them has a higher priority, or the same and an earlier
sequence. -/
theorem write_schedule (E : SessionConfig) (source : OpId → TaskSource) (random : OpId → UInt64)
    (start : OpId → Nat) (acts : List QueueAction) (now : Nat) :
    let s := (new source random start).run E acts
    let due := s.queue.due E s.session now
    ((s.queue.popReady E s.session now).1 = none ↔ s.queue.heap.items = [] ∧ due = []) ∧
    ∀ r, (s.queue.popReady E s.session now).1 = some r →
      r ∈ s.queue.heap.items ++ due ∧ r ∉ s.queue.prepared.values ∧
      ∀ r' ∈ s.queue.heap.items ++ due,
        r'.config.priority.rank < r.config.priority.rank ∨
        r'.config.priority.rank = r.config.priority.rank ∧ r.sequence ≤ r'.sequence := by
  intro s due
  have hinv : Inv E s := inv_run source random start acts
  obtain ⟨hnone, hsome⟩ := hinv.timed.next (E := E) (w := s.session) now
  refine ⟨hnone, fun r hr => ?_⟩
  obtain ⟨hmem, hmax⟩ := hsome r hr
  refine ⟨hmem, fun hprepared => ?_, fun r' hr' => ?_⟩
  · -- A token is in one container only.
    have hnodup := hinv.requests_nodup
    simp only [WriteQueue.requests, List.map_append, List.nodup_append] at hnodup
    obtain ⟨⟨-, -, hheap⟩, -, hdelayed⟩ := hnodup
    have hop := List.mem_map_of_mem (f := QueuedRequest.op) hprepared
    obtain hr | hr := List.mem_append.mp hmem
    · exact hheap _ (List.mem_map_of_mem hr) _ hop rfl
    · exact hdelayed _ (List.mem_append_right _ hop) _
        (List.mem_map_of_mem (List.mem_filter.mp hr).1) rfl
  · have hnot := hmax r' hr'
    rw [Bool.eq_false_iff, ne_eq, QueuedRequest.gt_iff] at hnot
    omega

end QueueRun

end OpenNet.Ws
