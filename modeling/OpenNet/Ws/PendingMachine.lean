import OpenNet.Foundation.Machine
import OpenNet.Ws.NativePending
import OpenNet.Ws.OperationSections

/-!
# The machine of the pending table

The table and the controls of its requests are locked separately, and either side can end a
request: a response, a timeout, the end of a connection or of the session, `Drop`, a queue
that retires the request, a handle or a cancellation.  Here all of them act on one session in
any order, one critical section at a time.
-/

namespace OpenNet.Ws

/-- A section of the table or of a control, or a completion. -/
inductive PendingAction where
  | register (v : View) (op : OpId) (id : RequestId) (options : RequestOptions)
      (allocated : Bool)
  | activateConnection (connection : Nat)
  | bindConnection (v : View) (registration : RequestRegistration) (connection : Nat)
  | markWritten (v : View) (registration : RequestRegistration) (writtenAt : Nat)
  | refreshResponseDeadline (v : View) (id : RequestId) (token : Nat)
  | requeue (v : View) (registration : RequestRegistration)
  | terminate (v : View) (id : RequestId) (token : Nat) (error : NetError)
      (cause : TaskEndCause)
  | completeResponse (v : View) (id : RequestId) (incoming : IncomingMessage)
  | registerDispatch (v : View) (incoming : IncomingMessage) (allocated : Bool)
  | resolve (v : View) (registration : RequestRegistration) (incoming : IncomingMessage)
  | discardDispatch (incoming : IncomingMessage)
  | failConnection (v : View) (connection : Nat) (error : NetError) (allocated : Bool)
  | close (v : View) (error : NetError) (cause : TaskEndCause)
  | closeDisconnected (v : View) (error : NetError) (allocated : Bool)
  | nextDeadline
  | expireDue (v : View) (allocated : Bool)
  | dropBegin
  | dropEntry (v : View)
  | dispatch (i : Nat)
  /-- `OperationControl::terminate`, `cancel` and `expire`. -/
  | terminateControl (v : View) (op : OpId) (error : NetError) (cause : TaskEndCause)
  /-- `OperationControl::prepare_termination`. -/
  | prepareControlTermination (v : View) (op : OpId) (error : NetError) (cause : TaskEndCause)
  /-- A section of a control that selects no result. -/
  | control (op : OpId) (sec : OperationState.Section)
  /-- `select_written` of a message that is not a request. -/
  | selectWritten (v : View) (op : OpId)

/-- The action enters the table, which it has to reach for that. -/
def PendingAction.entersTable : PendingAction → Bool
  | .dropEntry _ | .dispatch _ | .terminateControl .. | .prepareControlTermination ..
  | .control .. | .selectWritten .. => false
  | _ => true

namespace Session

variable (E : SessionConfig)

/-- `new`. -/
def new (source : OpId → TaskSource) (random : OpId → UInt64) (now : OpId → Nat) : Session where
  ops op := .new (source op) (random op) (now op)

/-- A section of the table or a control. -/
def perform (w : Session) : PendingAction → Session
  -- The callers of `register` create the control with `tracked`.
  | .register v op id options allocated =>
    if (E.control op).tracked then (w.register E v op id options allocated).2 else w
  | .activateConnection connection => (w.activateConnection connection).2
  | .bindConnection v registration connection => (w.bindConnection v registration connection).2
  | .markWritten v registration writtenAt => (w.markWritten E v registration writtenAt).2
  | .refreshResponseDeadline v id token => w.refreshResponseDeadline E v id token
  | .requeue v registration => (w.requeue E v registration).2
  | .terminate v id token error cause => (w.terminate E v id token error cause).2
  | .completeResponse v id incoming => (w.completeResponse E v id incoming).2
  | .registerDispatch v incoming allocated => (w.registerDispatch E v incoming allocated).2
  | .resolve v registration incoming => (w.resolve E v registration incoming).2
  | .discardDispatch incoming => (w.discardDispatch E incoming).2
  | .failConnection v connection error allocated =>
    (w.failConnection E v connection error allocated).2
  | .close v error cause => w.close E v error cause
  | .closeDisconnected v error allocated => (w.closeDisconnected E v error allocated).2
  | .nextDeadline => (w.nextDeadline E).2
  | .expireDue v allocated => (w.expireDue E v allocated).2
  | .dropBegin => w.dropBegin
  | .dropEntry v => w.dropEntry E v
  | .dispatch i => w.dispatch i
  | .terminateControl v op error cause => (w.terminateControl E v op error cause).2
  | .prepareControlTermination v op error cause =>
    (w.prepareControlTermination E v op error cause).2
  | .control op sec => w.setOp op ((w.ops op).perform (E.control op) sec)
  -- The writer marks requests written through the table.
  | .selectWritten v op =>
    if (w.ops op).pending.isSome then w
    else
      let (_, publication, s) := (w.ops op).complete (E.control op) v
        ((w.ops op).selectWritten (E.control op) v)
      (w.setOp op s).publish op publication

/-- A section, while the table is there. -/
def step (w : Session) (a : PendingAction) : Session :=
  if a.entersTable && !w.alive then w else w.perform E a

def run (w : Session) (acts : List PendingAction) : Session := Machine.run (step E) w acts

end Session

/-- The sections that only an operation's writer enters. -/
def PendingAction.writes (o : OpId) (w : Session) : PendingAction → Bool
  | .bindConnection _ registration _ | .markWritten _ registration _ | .requeue _ registration =>
    (w.matchingEntry registration.requestId registration.token).any (·.op = o)
  | .control op _ | .selectWritten _ op => op = o
  | _ => false

namespace Session

/-- The registration named, or that of the terminated control. -/
def names (w : Session) : PendingAction → Option (RequestId × Nat)
  | .bindConnection _ registration _ | .markWritten _ registration _ | .requeue _ registration
  | .resolve _ registration _ => some (registration.requestId, registration.token)
  | .refreshResponseDeadline _ id token | .terminate _ id token _ _ => some (id, token)
  | .terminateControl _ op _ _ | .prepareControlTermination _ op _ _ =>
    (w.ops op).pending.map fun identity => (identity.id, identity.token)
  | _ => none

end Session

end OpenNet.Ws
