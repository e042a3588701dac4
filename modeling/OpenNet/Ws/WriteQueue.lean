import OpenNet.Foundation.IndexedHeap
import OpenNet.Foundation.KeyedMap
import OpenNet.Ws.NativePending

/-!
# The write queue

Model of `src/module/ws_client/write/priority_write_queue.rs` and `queued_request.rs`, over
the indexed heap of `indexed_heap.rs`.  A queue owns the requests that wait for the writer: a
request is prepared, then committed to the heap, and one that is to be sent again later waits
among the delayed ones.

Every critical section of the queue's lock is one function of the session and the queue; the
sections of the pending table and of the controls that it enters are nested inside.  What is
dispatched after the lock has been released is returned with the requests.  Poisoned locks
are not modelled, and an allocation that may fail is an argument.
-/

namespace OpenNet.Ws

/-! ## Requests -/

inductive Priority where
  | low | normal | high
  deriving DecidableEq, Repr

def Priority.rank : Priority → Nat
  | .low => 0
  | .normal => 1
  | .high => 2

inductive DisconnectedPolicy where
  | reject | waitForReconnect
  deriving DecidableEq, Repr

structure SendOptions where
  priority : Priority := .normal
  writeTimeout : Nat
  disconnected : DisconnectedPolicy := .reject
  deriving DecidableEq, Repr

/-- What a termination prepared under a lock leaves to dispatch. -/
structure DeferredTermination where
  outcome : TerminationOutcome
  publication : Option OperationPublication
  completion : Option Completion

/-- What a section of the session has put on its way. -/
def Session.deferred (w w' : Session) (outcome : TerminationOutcome) : DeferredTermination where
  outcome
  publication := (w'.publications[w.publications.length]?).map (·.2)
  completion := w'.completions[w.completions.length]?

/-- A request under its sequence. -/
structure QueuedRequest where
  registration : Option RequestRegistration := none
  message : Message
  config : SendOptions
  attempt : Nat := 0
  readyAt : Option Nat := none
  /-- The request's control; its own token is the dispatch token. -/
  op : OpId
  /-- The lease of the connection or session that the request was admitted under. -/
  admissionCancel : Option Nat := none
  sequence : Nat
  slotPermit : Option Nat := none
  bytePermit : Option Nat := none
  completed : Bool := false
  retirement : Option DeferredTermination := none

namespace QueuedRequest

variable (E : SessionConfig) (w : Session) (r : QueuedRequest)

/-- `cmp`: by priority, then the earlier sequence. -/
def cmp (left right : QueuedRequest) : Ordering :=
  (compare left.config.priority.rank right.config.priority.rank).then
    (compare right.sequence left.sequence)

def gt (left right : QueuedRequest) : Bool := left.cmp right = .gt

def retirementCause : ErrorKind → TaskEndCause
  | .cancelled => .cancelled
  | .timedOut => .expired
  | .closed | .notConnected => .disconnected
  | .engineDropped => .shutdown
  | _ => .failed

/-- `prepare_retirement`. -/
def prepareRetirement (v : View) (error : NetError) : QueuedRequest × Session :=
  if r.retirement.isNone && !r.completed then
    let (outcome, w') := w.prepareControlTermination E v r.op error (retirementCause error.kind)
    ({ r with retirement := some (w.deferred w' outcome) }, w')
  else (r, w)

/-- `can_wait_for_reconnect`. -/
def canWaitForReconnect : Bool :=
  r.config.disconnected = .waitForReconnect ||
    (0 < r.attempt && (E.control r.op).rawReplayAllowed)

/-- `wake_at`. -/
def wakeAt : Option Nat := earliest r.readyAt ((w.ops r.op).deadline (E.control r.op))

def released : QueuedRequest := { r with admissionCancel := none }

def retireAll (v : View) (error : NetError) :
    Session → List QueuedRequest → List QueuedRequest × Session
  | w, [] => ([], w)
  | w, r :: rs =>
    let (r, w) := r.prepareRetirement E w v error
    let (rs, w) := retireAll v error w rs
    (r :: rs, w)

end QueuedRequest

/-! ## The queue -/

/-- `QueueState` behind the queue's lock. -/
structure WriteQueue where
  heap : IndexedHeap QueuedRequest.op := .empty
  prepared : KeyedMap QueuedRequest.op := .empty
  delayed : KeyedMap QueuedRequest.op := .empty
  closed : Bool := false

/-- What a section reads about a request that asks for admission. -/
structure AdmissionView extends View where
  /-- The lease of the request has been cancelled. -/
  leaseCancelled : Bool := false

namespace WriteQueue

variable (E : SessionConfig) (w : Session) (q : WriteQueue)

/-- All requests of the queue. -/
def requests : List QueuedRequest := q.heap.items ++ q.prepared.values ++ q.delayed.values

def contains (op : OpId) : Bool :=
  q.heap.contains op || q.prepared.contains op || q.delayed.contains op

/-- `can_admit`. -/
def canAdmit (v : AdmissionView) (r : QueuedRequest) : Except NetError Unit :=
  if q.closed then .error (NetError.new .queueClosed)
  else if (w.ops r.op).isFinished || v.tokenCancelled then
    .error (Session.selectedError (w.ops r.op) (NetError.new .cancelled))
  else if r.admissionCancel.isSome && v.leaseCancelled then .error (NetError.new .closed)
  else if due ((w.ops r.op).deadline (E.control r.op)) v.now then
    .error (NetError.new .timedOut)
  else .ok ()

/-- The checks before a request enters. -/
def pushable (v : AdmissionView) (r : QueuedRequest) : Except NetError Unit := do
  Fallible.ensure ((E.control r.op).groupCancelled v.toView = false) (NetError.new .cancelled)
  q.canAdmit E w v r
  Fallible.ensure (q.contains r.op = false) (NetError.new .internal)

/-- `push`: entered, or returned with an error. -/
def push (v : AdmissionView) (allocated prepared : Bool) (r : QueuedRequest) :
    Except (QueuedRequest × NetError) Unit × Session × WriteQueue :=
  match q.pushable E w v r with
  | .error error => (.error (r, error), w, q)
  | .ok () =>
    if prepared then
      if allocated = false then (.error (r, NetError.new .resourceExhausted), w, q)
      else match (w.ops r.op).prepare (E.control r.op) v.toView with
        | .error error => (.error (r, error), w, q)
        | .ok s => (.ok (), w.setOp r.op s, { q with prepared := q.prepared.insert r })
    else if r.readyAt.any (v.now < ·) then
      if allocated = false then (.error (r, NetError.new .resourceExhausted), w, q)
      else (.ok (), w, { q with delayed := q.delayed.insert r })
    else match q.heap.push QueuedRequest.gt r allocated with
      | none => (.error (r, NetError.new .resourceExhausted), w, q)
      | some heap => (.ok (), w, { q with heap })

/-- `prepare`. -/
def prepare (v : AdmissionView) (allocated : Bool) (r : QueuedRequest) :=
  q.push E w v allocated true r

/-- `push_existing`. -/
def pushExisting (v : AdmissionView) (allocated : Bool) (r : QueuedRequest) :=
  q.push E w v allocated false r

/-- The checks of a commit. -/
def enqueued (v : AdmissionView) (r : QueuedRequest) : Except NetError OperationState := do
  Fallible.ensure ((E.control r.op).groupCancelled v.toView = false) (NetError.new .cancelled)
  q.canAdmit E w v r
  (w.ops r.op).enqueue (E.control r.op) v.toView

/-- A commit fails: the request leaves, its retirement prepared, with the error. -/
def failCommit (v : View) (r : QueuedRequest) (error : NetError) :
    Except (Option QueuedRequest × NetError) Unit × Session × WriteQueue :=
  let (r, w) := r.prepareRetirement E w v error
  (.error (some r, error), w, q)

/-- `commit_prepared`. -/
def commitPrepared (v : AdmissionView) (allocated : Bool) (op : OpId) :
    Except (Option QueuedRequest × NetError) Unit × Session × WriteQueue :=
  match q.prepared.remove op with
  | none => (.error (none, NetError.new .cancelled), w, q)
  | some (r, prepared) =>
    let q := { q with prepared }
    match q.enqueued E w v r with
    | .error error => q.failCommit E w v.toView r error
    | .ok s =>
      let w := w.setOp r.op s
      match q.heap.push QueuedRequest.gt r allocated with
      | none => q.failCommit E w v.toView r (NetError.new .resourceExhausted)
      | some heap => (.ok (), w, { q with heap })

/-- Take the request with a token from either container. -/
def take (op : OpId) : Option (QueuedRequest × WriteQueue) :=
  match q.prepared.remove op with
  | some (r, prepared) => some (r, { q with prepared })
  | none => match q.heap.remove QueuedRequest.gt op with
    | some (r, heap) => some (r, { q with heap })
    | none => (q.delayed.remove op).map fun (r, delayed) => (r, { q with delayed })

/-- `cancel_queued_with_error`. -/
def cancelQueuedWithError (v : View) (op : OpId) (error : NetError) :
    Option QueuedRequest × Session × WriteQueue :=
  match q.take op with
  | none => (none, w, q)
  | some (r, q) =>
    let (r, w) := r.prepareRetirement E w v error
    (some r, w, q)

/-- The last one of the greatest requests of a list. -/
def greatest (rs : List QueuedRequest) : Option QueuedRequest :=
  rs.foldl (fun best r => match best with
    | none => some r
    | some b => if b.gt r then some b else some r) none

/-- The next delayed request, if ready and greater than the heap's. -/
def readyDelayed (now : Nat) : Option QueuedRequest :=
  let ready := q.delayed.values.filter fun r => (r.wakeAt E w).all (· ≤ now)
  (greatest ready).filter fun r => q.heap.peek.all r.gt

/-- `pop_ready`, the locked part of `next` and `try_next`. -/
def popReady (now : Nat) : Option QueuedRequest × WriteQueue :=
  match q.readyDelayed E w now with
  | some r => match q.delayed.remove r.op with
    | some (r, delayed) => (some r, { q with delayed })
    | none => (none, q)
  | none => match q.heap.pop QueuedRequest.gt with
    | some (r, heap) => (some r, { q with heap })
    | none => (none, q)

/-- `drain_with_error`. -/
def drainWithError (v : View) (error : NetError) : List QueuedRequest × Session × WriteQueue :=
  let (requests, w) := QueuedRequest.retireAll E v error w q.requests
  (requests, w, { q with heap := .empty, prepared := .empty, delayed := .empty })

/-- The request outlives the connection. -/
def keeps (r : QueuedRequest) : Bool := r.canWaitForReconnect E && !(w.ops r.op).isFinished

/-- Drained requests that wait for a connection go back; the others, and those without memory, are
rejected. -/
def refill (allocated : OpId → Bool) :
    IndexedHeap QueuedRequest.op → List QueuedRequest →
      IndexedHeap QueuedRequest.op × List QueuedRequest
  | heap, [] => (heap, [])
  | heap, r :: rs =>
    if keeps E w r then
      match heap.push QueuedRequest.gt r.released (allocated r.op) with
      | some heap => refill allocated heap rs
      | none =>
        let (heap, rejected) := refill allocated heap rs
        (heap, r.released :: rejected)
    else
      let (heap, rejected) := refill allocated heap rs
      (heap, r :: rejected)

/-- What the end of a connection rejects, and what it keeps. -/
def splitOnDisconnect (allocated : OpId → Bool) : List QueuedRequest × WriteQueue :=
  let (heap, rejected) := refill E w allocated .empty q.heap.items
  let kept := fun r => keeps E w r && allocated r.op
  (rejected ++ q.prepared.values.filter (fun r => !kept r) ++
      q.delayed.values.filter (fun r => !kept r),
    { q with
      heap
      prepared := q.prepared.retain kept QueuedRequest.released fun _ => rfl
      delayed := q.delayed.retain kept QueuedRequest.released fun _ => rfl })

/-- `drain_rejected_on_disconnect_with_error`. -/
def drainRejectedOnDisconnectWithError (v : View) (allocated : OpId → Bool) (error : NetError) :
    List QueuedRequest × Session × WriteQueue :=
  let (rejected, q) := q.splitOnDisconnect E w allocated
  let (rejected, w) := QueuedRequest.retireAll E v error w rejected
  (rejected, w, q)

/-- `close`. -/
def close : WriteQueue := { q with closed := true }

end WriteQueue

end OpenNet.Ws
