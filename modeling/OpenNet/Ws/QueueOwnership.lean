import OpenNet.Ws.PendingAgreement
import OpenNet.Ws.WriteQueue

/-!
# The write queue owns each request once

Requests enter the queue through `prepare` and `push_existing`.  They leave it to the writer,
or they are retired: taken out by a cancellation, a drain or a commit that fails, with their
control terminated before the queue's lock is released.  Here the operations of the queue
interleave with everything the session's other parties do, one critical section at a time.
-/

namespace OpenNet.Ws

open IndexedHeap (Ordered StrictOrder)

/-! ## Retiring a request -/

theorem OperationState.selectFailure_isSome (cfg : OperationConfig) (v : View)
    (s : OperationState) (error : NetError) (cause : TaskEndCause) :
    (s.selectFailure cfg v error cause).2.2.result.isSome := by
  cases hresult : s.result with
  | none =>
    obtain ⟨selected, -, hselected, -⟩ := selectFailure_active cfg v hresult error cause
    simp [hselected]
  | some result =>
    rw [selectFailure_finished (by simp [hresult])]
    simp [hresult]

namespace Session

variable {E : SessionConfig} {w : Session}

theorem failOp_finishes (w : Session) (v : View) (op : OpId) (error : NetError)
    (cause : TaskEndCause) : ((w.failOp E v op error cause).2.ops op).result.isSome := by
  show ((w.setOp op _).ops op).result.isSome
  rw [setOp_ops, if_pos rfl]
  exact OperationState.selectFailure_isSome _ v _ error cause

theorem retire_finishes (w : Session) (v : View) (id : RequestId) (entry : PendingEntry)
    (error : NetError) (cause : TaskEndCause) :
    ((w.retire E v id entry error cause).ops entry.op).result.isSome := by
  show ((w.setOp entry.op _).ops entry.op).result.isSome
  rw [setOp_ops, if_pos rfl]
  exact OperationState.selectFailure_isSome _ v _ error cause

theorem op_of_matchingEntry (h : Agreement E w) {op : OpId} {identity : PendingIdentity}
    (hbound : (w.ops op).pending = some identity) {entry : PendingEntry}
    (hentry : w.matchingEntry identity.id identity.token = some entry) : entry.op = op := by
  obtain ⟨here, htoken⟩ := matchingEntry_eq_some.mp hentry
  have hmem := (h.bound op identity).mp hbound
  have hmem' := (h.live identity.id entry.token entry.op (by simp [holder, here])).1
  exact congrArg Registered.op (h.token_inj _ hmem' _ hmem htoken)

/-- **A termination that was prepared has its result**, whoever selected it. -/
theorem prepareControlTermination_finishes (h : Agreement E w) (v : View) (op : OpId)
    (error : NetError) (cause : TaskEndCause) :
    ((w.prepareControlTermination E v op error cause).2.ops op).result.isSome := by
  unfold prepareControlTermination
  split
  · exact failOp_finishes w v op error cause
  rename_i identity hbound
  split
  · unfold prepareTermination
    split
    · rename_i entry hentry
      have hown := op_of_matchingEntry h hbound hentry
      subst hown
      exact retire_finishes w v _ entry error cause
    · exact failOp_finishes w v op _ _
  · exact failOp_finishes w v op _ _

/-- A queue's section keeps the agreement, and to other operations does what others could. -/
structure Bears (E : SessionConfig) (concerned : OpId → Bool) (w w' : Session) : Prop where
  safe : Safe E w w'
  others : ∀ o, concerned o = false → Interferes E o w w'

variable {w' w'' : Session} {concerned : OpId → Bool}

theorem Bears.refl (w : Session) : Bears E concerned w w := ⟨.refl w, fun _ _ => .refl w⟩

theorem Bears.trans (h : Bears E concerned w w') (h' : Bears E concerned w' w'') :
    Bears E concerned w w'' :=
  ⟨h.safe.trans h'.safe, fun o ho => (h.others o ho).trans (h'.others o ho)⟩

theorem bears_setOp {op : OpId} {s : OperationState} (hop : concerned op)
    (hresult : s.result = (w.ops op).result) (hpending : s.pending = (w.ops op).pending) :
    Bears E concerned w (w.setOp op s) := by
  refine ⟨(frame_setOp w op s hresult hpending).safe, fun o ho => interferes_setOp_ne ?_ s⟩
  rintro rfl
  rw [hop] at ho
  cases ho

end Session

namespace QueuedRequest

variable {E : SessionConfig} {w : Session} {r : QueuedRequest}

/-- By priority, and the earlier sequence first. -/
theorem gt_iff {left right : QueuedRequest} : left.gt right ↔
    right.config.priority.rank < left.config.priority.rank ∨
      right.config.priority.rank = left.config.priority.rank ∧ left.sequence < right.sequence := by
  simp only [gt, cmp, decide_eq_true_eq, Ordering.then_eq_gt, Nat.compare_eq_gt, Nat.compare_eq_eq]
  omega

theorem gt_order : StrictOrder gt where
  asymm a b h := by
    rw [Bool.eq_false_iff, ne_eq, gt_iff]
    rw [gt_iff] at h
    omega
  trans a b c hab hbc := by
    rw [Bool.eq_false_iff, ne_eq, gt_iff] at *
    omega

def core (r : QueuedRequest) : QueuedRequest :=
  { r with admissionCancel := none, retirement := none }

/-- Nobody has completed or retired the request. -/
structure Fresh (r : QueuedRequest) : Prop where
  completed : r.completed = false
  retirement : r.retirement = none

@[simp] theorem core_op (r : QueuedRequest) : r.core.op = r.op := rfl

@[simp] theorem core_released (r : QueuedRequest) : r.released.core = r.core := rfl

theorem Fresh.released (h : r.Fresh) : r.released.Fresh := ⟨h.completed, h.retirement⟩

theorem map_op_eq {rs rs' : List QueuedRequest} (h : (rs.map core).Perm (rs'.map core)) :
    (rs.map op).Perm (rs'.map op) := by
  simpa [Function.comp_def] using h.map op

theorem prepareRetirement_core (w : Session) (v : View) (r : QueuedRequest) (error : NetError) :
    (r.prepareRetirement E w v error).1.core = r.core := by
  unfold prepareRetirement
  split <;> rfl

theorem prepareRetirement_bears (concerned : OpId → Bool) (w : Session) (v : View)
    (r : QueuedRequest) (error : NetError) :
    Session.Bears E concerned w (r.prepareRetirement E w v error).2 := by
  unfold prepareRetirement
  split
  · have hstep := Session.prepareControlTermination_step (E := E) (w := w) v r.op error
    exact ⟨(hstep _).safe, fun o _ => (hstep _).others o rfl⟩
  · exact .refl w

theorem prepareRetirement_finishes (h : Session.Agreement E w) (hr : r.Fresh) (v : View)
    (error : NetError) : ((r.prepareRetirement E w v error).2.ops r.op).result.isSome := by
  unfold prepareRetirement
  rw [if_pos (by simp [hr.completed, hr.retirement])]
  exact Session.prepareControlTermination_finishes h v r.op error _

theorem retireAll_core (v : View) (error : NetError) : ∀ (w : Session) (rs : List QueuedRequest),
    (retireAll E v error w rs).1.map core = rs.map core
  | _, [] => rfl
  | w, r :: rs => by
    rw [retireAll]
    dsimp only
    rw [List.map_cons, List.map_cons, prepareRetirement_core, retireAll_core v error _ rs]

theorem retireAll_bears (concerned : OpId → Bool) (v : View) (error : NetError) :
    ∀ (w : Session) (rs : List QueuedRequest),
      Session.Bears E concerned w (retireAll E v error w rs).2
  | w, [] => .refl w
  | w, r :: rs =>
    (prepareRetirement_bears concerned w v r error).trans (retireAll_bears concerned v error _ rs)

theorem isSome_of_progress {w w' : Session} (h : Session.Progress w w') {op : OpId}
    (hop : (w.ops op).result.isSome) : (w'.ops op).result.isSome := by
  obtain ⟨result, hresult⟩ := Option.isSome_iff_exists.mp hop
  rw [h op result hresult]
  rfl

theorem retireAll_finishes (v : View) (error : NetError) :
    ∀ (w : Session) (rs : List QueuedRequest), Session.Agreement E w → (∀ r ∈ rs, r.Fresh) →
      ∀ r ∈ rs, ((retireAll E v error w rs).2.ops r.op).result.isSome
  | _, [], _, _ => by simp
  | w, r :: rs, h, hfresh => by
    have hnext := (prepareRetirement_bears (fun _ => true) w v r error).safe h
    simp only [List.forall_mem_cons] at hfresh ⊢
    refine ⟨?_, retireAll_finishes v error _ rs hnext.1 hfresh.2⟩
    exact isSome_of_progress ((retireAll_bears (fun _ => true) v error _ rs).safe hnext.1).2
      (prepareRetirement_finishes h hfresh.1 v error)

end QueuedRequest

namespace WriteQueue

variable {E : SessionConfig} {w : Session} {q : WriteQueue} {r : QueuedRequest}

/-! ## The containers -/

theorem contains_iff (q : WriteQueue) (op : OpId) :
    q.contains op ↔ op ∈ q.requests.map QueuedRequest.op := by
  simp [contains, requests, IndexedHeap.contains_iff, KeyedMap.contains_iff, or_assoc]

theorem requests_heap {heap : IndexedHeap QueuedRequest.op}
    (h : heap.items.Perm (r :: q.heap.items)) :
    ({ q with heap } : WriteQueue).requests.Perm (r :: q.requests) :=
  (h.append_right q.prepared.values).append_right q.delayed.values

theorem requests_prepared {prepared : KeyedMap QueuedRequest.op}
    (h : prepared.values.Perm (r :: q.prepared.values)) :
    ({ q with prepared } : WriteQueue).requests.Perm (r :: q.requests) :=
  ((h.append_left q.heap.items).trans List.perm_middle).append_right q.delayed.values

theorem requests_delayed {delayed : KeyedMap QueuedRequest.op}
    (h : delayed.values.Perm (r :: q.delayed.values)) :
    ({ q with delayed } : WriteQueue).requests.Perm (r :: q.requests) :=
  (h.append_left (q.heap.items ++ q.prepared.values)).trans List.perm_middle

/-- The heap is ordered, and every delayed request has a time. -/
structure Timed (q : WriteQueue) : Prop where
  ordered : Ordered QueuedRequest.gt q.heap
  delayed : ∀ r ∈ q.delayed.values, r.readyAt.isSome

section

variable (h : Timed q)
include h

theorem Timed.push_heap {allocated : Bool} {heap : IndexedHeap QueuedRequest.op}
    {prepared : KeyedMap QueuedRequest.op}
    (heq : q.heap.push QueuedRequest.gt r allocated = some heap) :
    Timed { q with heap, prepared } :=
  ⟨IndexedHeap.push_ordered QueuedRequest.gt_order h.ordered heq, h.delayed⟩

theorem Timed.remove_heap {op : OpId} {heap : IndexedHeap QueuedRequest.op}
    (heq : q.heap.remove QueuedRequest.gt op = some (r, heap)) : Timed { q with heap } :=
  ⟨IndexedHeap.remove_ordered QueuedRequest.gt_order h.ordered heq, h.delayed⟩

theorem Timed.insert_delayed {now : Nat} (hready : r.readyAt.any (now < ·)) :
    Timed { q with delayed := q.delayed.insert r } := by
  refine ⟨h.ordered, fun r' hr' => ?_⟩
  obtain rfl | ⟨hr', -⟩ := (KeyedMap.mem_insert _).mp hr'
  · exact Option.isSome_of_any hready
  · exact h.delayed r' hr'

theorem Timed.remove_delayed {op : OpId} {delayed : KeyedMap QueuedRequest.op}
    (heq : q.delayed.remove op = some (r, delayed)) : Timed { q with delayed } := by
  refine ⟨h.ordered, fun r' hr' => h.delayed r' ?_⟩
  exact (KeyedMap.remove_eq_some _ heq).2.mem_iff.mpr (List.mem_cons_of_mem _ hr')

end

/-- What a push may come to: the request enters, or it is returned and nothing has changed. -/
theorem push_cases (E : SessionConfig) (w : Session) (q : WriteQueue) (v : AdmissionView)
    (allocated prepared : Bool) (r : QueuedRequest) :
    (∃ error, q.push E w v allocated prepared r = (.error (r, error), w, q)) ∨
    ∃ w' q', q.push E w v allocated prepared r = (.ok (), w', q') ∧
      Session.Bears E (fun o => r.op = o) w w' ∧ q.contains r.op = false ∧
      q'.requests.Perm (r :: q.requests) ∧ (q.Timed → q'.Timed) := by
  have hparts (hpushable : q.pushable E w v r = .ok ()) : q.contains r.op = false ∧
      q.prepared.contains r.op = false ∧ q.delayed.contains r.op = false := by
    simp only [pushable, Fallible.bind_eq_ok, Fallible.ensure_eq_ok] at hpushable
    obtain ⟨_, -, _, -, habsent⟩ := hpushable
    have hall := habsent
    simp only [contains, Bool.or_eq_false_iff] at hall
    exact ⟨habsent, hall.1.2, hall.2⟩
  fun_cases push E w q v allocated prepared r with
  | case4 hpushable hprepared hallocated s hprepare =>
    obtain ⟨hnew, hinsert, -⟩ := hparts hpushable
    obtain ⟨-, -, rfl⟩ := OperationState.prepare_ok hprepare
    refine .inr ⟨_, _, rfl, ?_, hnew, ?_, fun h => ⟨h.ordered, h.delayed⟩⟩
    · refine Session.bears_setOp (decide_eq_true rfl) ?_ ?_ <;> rfl
    · exact requests_prepared (by rw [KeyedMap.insert_values _ hinsert])
  | case6 hpushable _ hdelayed =>
    obtain ⟨hnew, -, hinsert⟩ := hparts hpushable
    refine .inr ⟨_, _, rfl, .refl w, hnew, ?_, fun h => h.insert_delayed hdelayed⟩
    exact requests_delayed (by rw [KeyedMap.insert_values _ hinsert])
  | case8 hpushable _ _ heap hheap =>
    exact .inr ⟨_, _, rfl, .refl w, (hparts hpushable).1,
      requests_heap (IndexedHeap.push_eq_some _ _ hheap), fun h => h.push_heap hheap⟩
  | _ => exact .inl ⟨_, rfl⟩

variable {q' : WriteQueue}

theorem take_eq_some {op : OpId} (h : q.take op = some (r, q')) :
    q.requests.Perm (r :: q'.requests) ∧ (q.Timed → q'.Timed) := by
  unfold take at h
  split at h
  · rename_i prepared hremove
    cases h
    exact ⟨requests_prepared (q := { q with prepared }) (KeyedMap.remove_eq_some _ hremove).2,
      fun h => ⟨h.ordered, h.delayed⟩⟩
  split at h
  · rename_i heap hremove
    cases h
    exact ⟨requests_heap (q := { q with heap }) (IndexedHeap.remove_eq_some _ _ hremove).2,
      fun h => h.remove_heap hremove⟩
  · obtain ⟨⟨r', delayed⟩, hremove, heq⟩ := Option.map_eq_some_iff.mp h
    cases heq
    exact ⟨requests_delayed (q := { q with delayed }) (KeyedMap.remove_eq_some _ hremove).2,
      fun h => h.remove_delayed hremove⟩

theorem popReady_cases (E : SessionConfig) (w : Session) (q : WriteQueue) (now : Nat) :
    q.popReady E w now = (none, q) ∨
    ∃ r q', q.popReady E w now = (some r, q') ∧ q.requests.Perm (r :: q'.requests) ∧
      (q.Timed → q'.Timed) := by
  fun_cases popReady E w q now with
  | case1 _ _ r delayed hremove =>
    exact .inr ⟨r, _, rfl, requests_delayed (q := { q with delayed })
      (KeyedMap.remove_eq_some _ hremove).2, fun h => h.remove_delayed hremove⟩
  | case3 _ r heap hpop =>
    exact .inr ⟨r, _, rfl, requests_heap (q := { q with heap }) (IndexedHeap.pop_eq_some _ _ hpop),
      fun h => h.remove_heap (q.heap.pop_eq_remove _ hpop)⟩
  | _ => exact .inl rfl

/-! ## The end of a connection -/

def Same (rs rs' : List QueuedRequest) : Prop :=
  (rs.map QueuedRequest.released).Perm (rs'.map QueuedRequest.released)

namespace Same

variable {rs rs' : List QueuedRequest}

theorem core (h : Same rs rs') : (rs.map QueuedRequest.core).Perm (rs'.map QueuedRequest.core) := by
  simpa [Function.comp_def] using h.map QueuedRequest.core

theorem append {ss ss' : List QueuedRequest} (h : Same rs rs') (h' : Same ss ss') :
    Same (rs ++ ss) (rs' ++ ss') := by
  unfold Same
  rw [List.map_append, List.map_append]
  exact List.Perm.append h h'

theorem fresh (h : Same rs rs') (hfresh : ∀ r ∈ rs', r.Fresh) : ∀ r ∈ rs, r.Fresh := by
  intro r hr
  have hmem := h.mem_iff.mp (List.mem_map_of_mem (f := QueuedRequest.released) hr)
  obtain ⟨r', hr', heq⟩ := List.mem_map.mp hmem
  obtain ⟨hcompleted, hretirement⟩ := (hfresh r' hr').released
  rw [heq] at hcompleted hretirement
  exact ⟨hcompleted, hretirement⟩

end Same

theorem refill_same (E : SessionConfig) (w : Session) (allocated : OpId → Bool) :
    ∀ (rs : List QueuedRequest) (heap : IndexedHeap QueuedRequest.op),
      Same ((refill E w allocated heap rs).2 ++ (refill E w allocated heap rs).1.items)
        (rs ++ heap.items)
  | [], _ => .refl _
  | r :: rs, heap => by
    -- Whether kept or rejected, the request is one of those that follow the rest.
    have hrejected : ∀ r' : QueuedRequest, r'.released = r.released →
        Same (r' :: (refill E w allocated heap rs).2 ++ (refill E w allocated heap rs).1.items)
          (r :: rs ++ heap.items) := by
      intro r' heq
      have := refill_same E w allocated rs heap
      unfold Same at this ⊢
      rw [List.cons_append, List.cons_append, List.map_cons, List.map_cons, heq]
      exact this.cons _
    unfold refill
    split
    · split
      · rename_i heap' hpush
        have hperm := IndexedHeap.push_eq_some _ _ hpush
        refine (refill_same E w allocated rs heap').trans ?_
        rw [List.map_append, List.cons_append, List.map_cons, List.map_append]
        exact ((hperm.map QueuedRequest.released).append_left _).trans List.perm_middle
      · exact hrejected r.released rfl
    · exact hrejected r rfl

/-- With memory for all of them, exactly the requests that outlive the connection go back. -/
theorem refill_kept (E : SessionConfig) (w : Session) :
    ∀ (rs : List QueuedRequest) (heap : IndexedHeap QueuedRequest.op),
      ((rs ++ heap.items).map QueuedRequest.op).Nodup →
      (refill E w (fun _ => true) heap rs).1.items.Perm
        ((rs.filter (keeps E w)).map QueuedRequest.released ++ heap.items) ∧
      (refill E w (fun _ => true) heap rs).2 = rs.filter fun r => !keeps E w r
  | [], _, _ => ⟨.refl _, rfl⟩
  | r :: rs, heap, hnodup => by
    have hrest : ((rs ++ heap.items).map QueuedRequest.op).Nodup := by
      rw [List.cons_append, List.map_cons] at hnodup
      exact hnodup.of_cons
    unfold refill
    split
    · rename_i hkeep
      simp only [List.filter_cons, hkeep, if_true, Bool.not_true, Bool.false_eq_true, if_false]
      split
      · rename_i heap' hpush
        have hperm := IndexedHeap.push_eq_some _ _ hpush
        obtain ⟨hitems, hrejected⟩ := refill_kept E w rs heap' (by
          refine ((hperm.append_left rs).trans List.perm_middle).map QueuedRequest.op
            |>.nodup_iff.mpr ?_
          exact hnodup)
        refine ⟨hitems.trans ?_, hrejected⟩
        exact (hperm.append_left _).trans List.perm_middle
      · -- The token is new to the heap, so the push cannot be refused.
        rename_i hpush
        rw [IndexedHeap.push_eq_none] at hpush
        have hin := (heap.contains_iff r.op).mp (hpush.resolve_right (by simp))
        rw [List.cons_append, List.map_cons, List.nodup_cons, List.map_append] at hnodup
        exact absurd (List.mem_append_right _ hin) hnodup.1
    · rename_i hkeep
      obtain ⟨hitems, hrejected⟩ := refill_kept E w rs heap hrest
      simp only [List.filter_cons, hkeep, Bool.false_eq_true, if_false, Bool.not_false, if_true]
      exact ⟨hitems, by rw [hrejected]⟩

theorem retain_same (m : KeyedMap QueuedRequest.op) (kept : QueuedRequest → Bool) :
    Same (m.values.filter (fun r => !kept r) ++
      (m.retain kept QueuedRequest.released fun _ => rfl).values) m.values := by
  unfold Same KeyedMap.retain
  rw [List.map_append, List.map_map]
  show ((m.values.filter fun r => !kept r).map QueuedRequest.released ++
    (m.values.filter kept).map QueuedRequest.released).Perm _
  rw [← List.map_append]
  exact (List.perm_append_comm.trans (List.filter_append_perm kept m.values)).map _

theorem splitOnDisconnect_same (E : SessionConfig) (w : Session) (q : WriteQueue)
    (allocated : OpId → Bool) : Same ((q.splitOnDisconnect E w allocated).1 ++
      (q.splitOnDisconnect E w allocated).2.requests) q.requests := by
  have hheap := refill_same E w allocated q.heap.items .empty
  have hprepared := retain_same q.prepared fun r => keeps E w r && allocated r.op
  have hdelayed := retain_same q.delayed fun r => keeps E w r && allocated r.op
  refine List.Perm.trans (List.Perm.map _ ?_) ((hheap.append hprepared).append hdelayed |>.trans ?_)
  · classical
    rw [List.perm_iff_count]
    intro x
    simp only [splitOnDisconnect, requests, List.count_append]
    omega
  · rw [show (IndexedHeap.empty : IndexedHeap QueuedRequest.op).items = [] from rfl,
      List.append_nil]
    exact .refl _

/-- **With memory for all, exactly the requests that outlive the connection stay**, each where it
was and free of its lease. -/
theorem splitOnDisconnect_kept (E : SessionConfig) (w : Session) (q : WriteQueue) :
    (q.splitOnDisconnect E w fun _ => true).2.heap.items.Perm
        ((q.heap.items.filter (keeps E w)).map QueuedRequest.released) ∧
      (q.splitOnDisconnect E w fun _ => true).2.prepared.values =
        (q.prepared.values.filter (keeps E w)).map QueuedRequest.released ∧
      (q.splitOnDisconnect E w fun _ => true).2.delayed.values =
        (q.delayed.values.filter (keeps E w)).map QueuedRequest.released ∧
      (q.splitOnDisconnect E w fun _ => true).1 = q.requests.filter fun r => !keeps E w r := by
  obtain ⟨hitems, hrejected⟩ := refill_kept E w q.heap.items .empty (by
    rw [show (IndexedHeap.empty : IndexedHeap QueuedRequest.op).items = [] from rfl,
      List.append_nil]
    exact q.heap.keys_nodup)
  simp only [splitOnDisconnect, KeyedMap.retain, Bool.and_true, requests, List.filter_append,
    hrejected, and_self, and_true]
  simpa [IndexedHeap.empty] using hitems

theorem Timed.split (h : Timed q) (allocated : OpId → Bool) :
    Timed (q.splitOnDisconnect E w allocated).2 := by
  have hrefill : ∀ (rs : List QueuedRequest) (heap : IndexedHeap QueuedRequest.op),
      Ordered QueuedRequest.gt heap →
      Ordered QueuedRequest.gt (refill E w allocated heap rs).1 := by
    intro rs
    induction rs with
    | nil => exact fun heap hheap => hheap
    | cons r rs ih =>
      intro heap hheap
      unfold refill
      split
      · split
        · exact ih _ (IndexedHeap.push_ordered QueuedRequest.gt_order hheap (by assumption))
        · exact ih heap hheap
      · exact ih heap hheap
  refine ⟨hrefill _ _ IndexedHeap.ordered_empty, fun r hr => ?_⟩
  obtain ⟨r', hr', rfl⟩ := List.mem_map.mp hr
  exact h.delayed r' (List.mem_filter.mp hr').1

end WriteQueue

/-! ## The machine -/

/-- One critical section of the queue, or of the session around it. -/
inductive QueueAction where
  | push (v : AdmissionView) (allocated prepared : Bool) (r : QueuedRequest)
  | commitPrepared (v : AdmissionView) (allocated : Bool) (op : OpId)
  | cancelQueuedWithError (v : View) (op : OpId) (error : NetError)
  | next (now : Nat)
  | drainWithError (v : View) (error : NetError)
  | drainRejectedOnDisconnectWithError (v : View) (allocated : OpId → Bool) (error : NetError)
  | close
  | session (a : PendingAction)

/-- Session and queue, and the requests accepted, written and retired. -/
structure QueueRun where
  session : Session
  queue : WriteQueue := {}
  accepted : List QueuedRequest := []
  returned : List QueuedRequest := []
  retired : List QueuedRequest := []

namespace QueueRun

variable (E : SessionConfig)

/-- One section of queue or session. -/
def step (s : QueueRun) : QueueAction → QueueRun
  | .push v allocated prepared r =>
    -- `complete`, `release` and `Drop` consume a request: a completed one cannot be pushed.
    if r.completed || r.retirement.isSome then s
    else match s.queue.push E s.session v allocated prepared r with
      | (.ok (), session, queue) => { s with session, queue, accepted := r :: s.accepted }
      | (.error _, session, queue) => { s with session, queue }
  | .commitPrepared v allocated op =>
    match s.queue.commitPrepared E s.session v allocated op with
    | (.error (some r, _), session, queue) => { s with session, queue, retired := r :: s.retired }
    | (_, session, queue) => { s with session, queue }
  | .cancelQueuedWithError v op error =>
    match s.queue.cancelQueuedWithError E s.session v op error with
    | (some r, session, queue) => { s with session, queue, retired := r :: s.retired }
    | (none, session, queue) => { s with session, queue }
  | .next now =>
    match s.queue.popReady E s.session now with
    | (some r, queue) => { s with queue, returned := r :: s.returned }
    | (none, queue) => { s with queue }
  | .drainWithError v error =>
    let (requests, session, queue) := s.queue.drainWithError E s.session v error
    { s with session, queue, retired := requests ++ s.retired }
  | .drainRejectedOnDisconnectWithError v allocated error =>
    let (rejected, session, queue) :=
      s.queue.drainRejectedOnDisconnectWithError E s.session v allocated error
    { s with session, queue, retired := rejected ++ s.retired }
  | .close => { s with queue := s.queue.close }
  | .session a => { s with session := s.session.step E a }

def run (s : QueueRun) (acts : List QueueAction) : QueueRun := Machine.run (step E) s acts

end QueueRun

def QueueAction.concerns (E : SessionConfig) (o : OpId) (s : QueueRun) : QueueAction → Bool
  | .push _ _ _ r => r.op = o
  | .commitPrepared _ _ op => op = o
  | .next now => (s.queue.popReady E s.session now).1.any (·.op = o)
  | .session a => a.writes o s.session
  | _ => false

namespace QueueRun

variable (E : SessionConfig)

/-! ## What a section does to the queue -/

/-- Requests enter, are given to the writer or are retired. -/
structure Moves (s : QueueRun) (a : QueueAction) (entering leaving retiring : List QueuedRequest)
    (s' : QueueRun) : Prop where
  bears : Session.Bears E (a.concerns E · s) s.session s'.session := by exact .refl _
  same : ((leaving ++ retiring ++ s'.queue.requests).map QueuedRequest.core).Perm
    ((entering ++ s.queue.requests).map QueuedRequest.core) := by exact .refl _
  fresh : (∀ r ∈ s.queue.requests, r.Fresh) → ∀ r ∈ s'.queue.requests, r.Fresh := by exact id
  timed : s.queue.Timed → s'.queue.Timed := by exact id
  accepted : s'.accepted = entering ++ s.accepted := by rfl
  returned : s'.returned = leaving ++ s.returned := by rfl
  retired : s'.retired = retiring ++ s.retired := by rfl
  /-- Only a push lets a request enter, and its token is new. -/
  pushed : ∀ r ∈ entering, entering = [r] ∧ s.queue.contains r.op = false ∧
    ∃ v allocated prepared, a = .push v allocated prepared r := by exact fun r hr => by cases hr
  finished : Session.Agreement E s.session → (∀ r ∈ s.queue.requests, r.Fresh) →
    ∀ r ∈ retiring, (s'.session.ops r.op).result.isSome := by
      exact fun _ _ r hr => by cases hr

theorem moves_retireAll {s : QueueRun} {a : QueueAction} {w : Session} {queue : WriteQueue}
    {rs : List QueuedRequest} (hbears : Session.Bears E (a.concerns E · s) s.session w)
    (h : WriteQueue.Same (rs ++ queue.requests) s.queue.requests)
    (htimed : s.queue.Timed → queue.Timed) (v : View) (error : NetError) :
    Moves E s a [] [] (QueuedRequest.retireAll E v error w rs).1 { s with
      session := (QueuedRequest.retireAll E v error w rs).2, queue
      retired := (QueuedRequest.retireAll E v error w rs).1 ++ s.retired } where
  bears := hbears.trans (QueuedRequest.retireAll_bears _ v error w rs)
  same := by
    rw [List.nil_append, List.map_append, QueuedRequest.retireAll_core, ← List.map_append]
    exact h.core
  fresh hfresh r hr := h.fresh hfresh r (List.mem_append_right _ hr)
  timed := htimed
  finished hagree hfresh r hr := by
    have hops := congrArg (List.map QueuedRequest.op)
      (QueuedRequest.retireAll_core (E := E) v error w rs)
    simp only [List.map_map, Function.comp_def, QueuedRequest.core_op] at hops
    have hmem : r.op ∈ rs.map QueuedRequest.op := hops ▸ List.mem_map_of_mem hr
    obtain ⟨r', hr', heq⟩ := List.mem_map.mp hmem
    rw [← heq]
    exact QueuedRequest.retireAll_finishes v error w rs (hbears.safe hagree).1
      (fun r hr => h.fresh hfresh r (List.mem_append_left _ hr)) r' hr'

theorem moves_retire {s : QueueRun} {a : QueueAction} {w : Session} {queue : WriteQueue}
    {r : QueuedRequest} (hbears : Session.Bears E (a.concerns E · s) s.session w)
    (h : s.queue.requests.Perm (r :: queue.requests)) (htimed : s.queue.Timed → queue.Timed)
    (v : View) (error : NetError) :
    Moves E s a [] [] [(r.prepareRetirement E w v error).1] { s with
      session := (r.prepareRetirement E w v error).2, queue
      retired := (r.prepareRetirement E w v error).1 :: s.retired } :=
  moves_retireAll E hbears (show WriteQueue.Same ([r] ++ queue.requests) s.queue.requests from
    h.symm.map QueuedRequest.released) htimed v error

theorem commitPrepared_moves (s : QueueRun) (v : AdmissionView) (allocated : Bool) (op : OpId) :
    ∃ entering leaving retiring, Moves E s (.commitPrepared v allocated op) entering leaving
      retiring (s.step E (.commitPrepared v allocated op)) := by
  have htaken {r : QueuedRequest} {prepared : KeyedMap QueuedRequest.op}
      (hremove : s.queue.prepared.remove op = some (r, prepared)) : r.op = op ∧
        s.queue.requests.Perm (r :: ({ s.queue with prepared } : WriteQueue).requests) := by
    obtain ⟨hop, hvalues⟩ := KeyedMap.remove_eq_some _ hremove
    exact ⟨hop, WriteQueue.requests_prepared (q := { s.queue with prepared }) hvalues⟩
  have henqueues {r : QueuedRequest} {queue : WriteQueue} {control : OperationState}
      (hop : r.op = op) (henqueued : queue.enqueued E s.session v r = .ok control) :
      Session.Bears E (QueueAction.concerns E · s (.commitPrepared v allocated op)) s.session
        (s.session.setOp r.op control) := by
    simp only [WriteQueue.enqueued, Fallible.bind_eq_ok] at henqueued
    obtain ⟨_, -, _, -, henqueue⟩ := henqueued
    obtain ⟨-, -, rfl⟩ := OperationState.enqueue_ok henqueue
    refine Session.bears_setOp (decide_eq_true hop.symm) ?_ ?_ <;> rfl
  rw [step]
  fun_cases WriteQueue.commitPrepared E s.session s.queue v allocated op with
  | case1 => exact ⟨[], [], [], {}⟩
  | case2 r prepared hremove =>
    exact ⟨[], [], _, moves_retire E (.refl _) (htaken hremove).2
      (fun h => ⟨h.ordered, h.delayed⟩) v.toView _⟩
  | case3 r prepared hremove queue control henqueued session =>
    obtain ⟨hop, hperm⟩ := htaken hremove
    exact ⟨[], [], _, moves_retire E (henqueues hop henqueued) hperm
      (fun h => ⟨h.ordered, h.delayed⟩) v.toView _⟩
  | case4 r prepared hremove queue control henqueued session heap hpush =>
    obtain ⟨hop, hperm⟩ := htaken hremove
    have hback := (WriteQueue.requests_heap (q := queue) (IndexedHeap.push_eq_some _ _ hpush)).trans
      hperm.symm
    exact ⟨[], [], [], {
      bears := henqueues hop henqueued
      same := hback.map _
      fresh := fun hall r' hr => hall r' (hback.mem_iff.mp hr)
      timed := fun h => h.push_heap hpush }⟩

theorem step_moves (s : QueueRun) (a : QueueAction) :
    ∃ entering leaving retiring, Moves E s a entering leaving retiring (s.step E a) := by
  cases a with
  | push v allocated prepared r =>
    rw [step]
    split
    · exact ⟨[], [], [], {}⟩
    rename_i hfresh
    simp only [Bool.or_eq_true, not_or, Bool.not_eq_true, Option.isSome_eq_false_iff,
      Option.isNone_iff_eq_none] at hfresh
    obtain ⟨error, heq⟩ | ⟨session, queue, heq, hbears, hnew, hperm, htimed⟩ :=
      WriteQueue.push_cases E s.session s.queue v allocated prepared r
    · rw [heq]
      exact ⟨[], [], [], {}⟩
    · rw [heq]
      exact ⟨[r], [], [], {
        bears := hbears
        same := hperm.map _
        fresh := fun hall r' hr => (List.mem_cons.mp (hperm.mem_iff.mp hr)).elim
          (· ▸ ⟨hfresh.1, hfresh.2⟩) (hall r')
        timed := htimed
        pushed := fun r' hr => by
          obtain rfl := List.mem_singleton.mp hr
          exact ⟨rfl, hnew, _, _, _, rfl⟩ }⟩
  | commitPrepared v allocated op => exact commitPrepared_moves E s v allocated op
  | cancelQueuedWithError v op error =>
    rw [step, WriteQueue.cancelQueuedWithError]
    cases htake : s.queue.take op with
    | none => exact ⟨[], [], [], {}⟩
    | some taken =>
      obtain ⟨hperm, htimed⟩ := WriteQueue.take_eq_some htake
      exact ⟨[], [], _, moves_retire E (.refl _) hperm htimed v error⟩
  | next now =>
    rw [step]
    obtain heq | ⟨r, queue, heq, hperm, htimed⟩ :=
      WriteQueue.popReady_cases E s.session s.queue now
    · rw [heq]
      exact ⟨[], [], [], {}⟩
    · rw [heq]
      exact ⟨[], [r], [], {
        same := hperm.symm.map _
        fresh := fun hall r' hr => hall r' (hperm.mem_iff.mpr (List.mem_cons_of_mem r hr))
        timed := htimed }⟩
  | drainWithError v error =>
    refine ⟨[], [], _, moves_retireAll E (.refl _) ?_ (fun _ => ?_) v error⟩
    · show WriteQueue.Same (s.queue.requests ++ []) s.queue.requests
      rw [List.append_nil]
      exact .refl _
    · exact ⟨IndexedHeap.ordered_empty, fun r hr => by cases hr⟩
  | drainRejectedOnDisconnectWithError v allocated error =>
    exact ⟨[], [], _, moves_retireAll E (.refl _)
      (WriteQueue.splitOnDisconnect_same E s.session s.queue allocated)
      (fun h => h.split allocated) v error⟩
  | close => exact ⟨[], [], [], { timed := fun h => ⟨h.ordered, h.delayed⟩ }⟩
  | session a =>
    exact ⟨[], [], [], {
      bears := ⟨Session.step_safe s.session a, fun _ => Session.step_others s.session a⟩ }⟩

/-! ## The ledger -/

def left (s : QueueRun) : List QueuedRequest := s.returned ++ s.retired

/-- Every request that was accepted is accounted for. -/
structure Inv (s : QueueRun) : Prop where
  agreement : Session.Agreement E s.session
  /-- A token is in one container, once. -/
  requests_nodup : (s.queue.requests.map QueuedRequest.op).Nodup
  fresh : ∀ r ∈ s.queue.requests, r.Fresh
  /-- What was accepted is what has left and what is still there. -/
  ledger : (s.accepted.map QueuedRequest.core).Perm
    ((s.left ++ s.queue.requests).map QueuedRequest.core)
  ended : ∀ r ∈ s.retired, (s.session.ops r.op).result.isSome
  timed : s.queue.Timed

variable {E} {s s' : QueueRun} {a : QueueAction} {entering leaving retiring : List QueuedRequest}

theorem Moves.inv (h : Inv E s) (m : Moves E s a entering leaving retiring s') : Inv E s' := by
  obtain ⟨hagree, hprogress⟩ := m.bears.safe h.agreement
  have hnodup : ((entering ++ s.queue.requests).map QueuedRequest.op).Nodup := by
    cases entering with
    | nil => exact h.requests_nodup
    | cons r rest =>
      obtain ⟨hone, hnew, -⟩ := m.pushed r List.mem_cons_self
      have habsent : r.op ∉ s.queue.requests.map QueuedRequest.op := by
        rw [← WriteQueue.contains_iff, hnew]
        simp
      rw [hone]
      exact List.nodup_cons.mpr ⟨habsent, h.requests_nodup⟩
  exact
    { agreement := hagree
      requests_nodup := by
        have hops := (QueuedRequest.map_op_eq m.same).nodup_iff.mpr hnodup
        rw [List.map_append] at hops
        exact hops.of_append_right
      fresh := m.fresh h.fresh
      ledger := by
        classical
        rw [List.perm_iff_count]
        intro x
        have hbefore := h.ledger.count_eq x
        have hsame := m.same.count_eq x
        simp only [left, m.accepted, m.returned, m.retired, List.map_append, List.count_append]
          at hbefore hsame ⊢
        omega
      ended := fun r hr => by
        rw [m.retired] at hr
        exact (List.mem_append.mp hr).elim (m.finished h.agreement h.fresh r)
          fun hold => QueuedRequest.isSome_of_progress hprogress (h.ended r hold)
      timed := m.timed h.timed }

def new (source : OpId → TaskSource) (random : OpId → UInt64) (now : OpId → Nat) : QueueRun where
  session := .new source random now

theorem inv_run (source : OpId → TaskSource) (random : OpId → UInt64) (now : OpId → Nat)
    (acts : List QueueAction) : Inv E ((new source random now).run E acts) := by
  refine Machine.run_invariant (fun s a h => ?_) acts ?_
  · obtain ⟨_, _, _, m⟩ := step_moves E s a
    exact m.inv h
  exact
    { agreement := Session.agreement_new source random now
      requests_nodup := List.nodup_nil
      fresh := by simp [new, WriteQueue.requests, IndexedHeap.empty, KeyedMap.empty]
      ledger := .refl _
      ended := by simp [new]
      timed := ⟨IndexedHeap.ordered_empty, fun r hr => by cases hr⟩ }

/-- **The queue owns each request once.**  For every interleaving of the operations of a queue
with everything that happens to the session around it:

* a token is in at most one of heap, prepared and delayed;
* a request that was accepted has left exactly once, or is still there;
* one that was retired has a terminated control;
* a push that is refused returns the same request and changes nothing;
* a disconnect keeps exactly the unfinished requests that may wait for the next connection,
  each in its container and free of its lease, and rejects the others. -/
theorem queue_ownership (source : OpId → TaskSource) (random : OpId → UInt64) (now : OpId → Nat)
    (acts : List QueueAction) :
    let s := (new source random now).run E acts
    (s.queue.requests.map QueuedRequest.op).Nodup ∧
    (s.accepted.map QueuedRequest.core).Perm
      ((s.returned ++ s.retired ++ s.queue.requests).map QueuedRequest.core) ∧
    (∀ r ∈ s.retired, (s.session.ops r.op).isFinished = true) ∧
    (∀ v allocated prepared r r' error,
      (s.queue.push E s.session v allocated prepared r).1 = .error (r', error) →
        r' = r ∧ (s.queue.push E s.session v allocated prepared r).2 = (s.session, s.queue)) ∧
    ∀ v error,
      let out := s.queue.drainRejectedOnDisconnectWithError E s.session v (fun _ => true) error
      let keep := fun r : QueuedRequest =>
        r.canWaitForReconnect E && !(s.session.ops r.op).isFinished
      out.2.2.heap.items.Perm ((s.queue.heap.items.filter keep).map QueuedRequest.released) ∧
      out.2.2.prepared.values = (s.queue.prepared.values.filter keep).map QueuedRequest.released ∧
      out.2.2.delayed.values = (s.queue.delayed.values.filter keep).map QueuedRequest.released ∧
      out.1.map QueuedRequest.core =
        (s.queue.requests.filter fun r => !keep r).map QueuedRequest.core := by
  intro s
  have h : Inv E s := inv_run source random now acts
  refine ⟨h.requests_nodup, h.ledger, h.ended, ?_, ?_⟩
  · intro v allocated prepared r r' error heq
    obtain ⟨error', hrefused⟩ | ⟨session, queue, haccepted, -⟩ :=
      WriteQueue.push_cases E s.session s.queue v allocated prepared r
    · rw [hrefused] at heq ⊢
      cases heq
      exact ⟨rfl, rfl⟩
    · rw [haccepted] at heq
      cases heq
  · intro v error out keep
    obtain ⟨hheap, hprepared, hdelayed, hrejected⟩ :=
      WriteQueue.splitOnDisconnect_kept E s.session s.queue
    refine ⟨hheap, hprepared, hdelayed, ?_⟩
    exact (QueuedRequest.retireAll_core v error s.session _).trans
      (congrArg (List.map QueuedRequest.core) hrejected)

end QueueRun

end OpenNet.Ws
