import OpenNet.Ws.Interference
import OpenNet.Ws.WireFrames

/-!
# The writer

Model of `src/module/ws_client/ws_write.rs`: `send_data_frame_with_phase`,
`send_request_message_with_phase`, `handle_queued_request` and `run_write_loop`.

The writer is a sequential program over a `Net` that everybody shares.  Whenever it enters a
critical section, reads shared state or waits, it first asks its environment.  The `Answer`
says what everybody else has done since, what the clock shows, which tokens are cancelled and
what the sink, the control channel and the heartbeat come to.  A sequence of answers is one
way in which a run can go; statements about the writer are about every such sequence.

The sections that only the writer of a request enters are not open to others while it has the
request.  A request's token is cancelled by the publication of a failure, so it is taken to be
cancelled only after a failure was selected.  The heartbeat writes control frames only; what
it does to its own state is not modelled.
-/

namespace OpenNet.Ws

/-! ## What is shared -/

/-- What everybody shares. -/
structure Net where
  session : Session
  queues : MessageLane → WriteQueue

namespace Net

variable (E : SessionConfig)

def queueRun (n : Net) (lane : MessageLane) : QueueRun :=
  { session := n.session, queue := n.queues lane }

def act (n : Net) (lane : MessageLane) (a : QueueAction) : Net :=
  let s := (n.queueRun lane).step E a
  { session := s.session, queues := Function.update n.queues lane s.queue }

/-- What others may enter while the writer has an operation. -/
def other (o : Option OpId) (n : Net) (a : MessageLane × QueueAction) : Net :=
  if o.any fun o => a.2.concerns E o (n.queueRun a.1) then n else n.act E a.1 a.2

end Net

/-- How a wait for the sink ends. -/
inductive Await where
  | done
  | failed (error : SinkError)
  | dispatchCancelled
  | timedOut
  | connectionCancelled
  deriving DecidableEq, Repr

/-- What the control channel has when it is asked without waiting. -/
inductive TryRecv where
  | message (control : ControlMessage) | empty | disconnected
  deriving DecidableEq, Repr

/-- What the writer's loop selects. -/
inductive WriteLoopEvent where
  | cancelled
  | control (control : Option ControlMessage)
  /-- One of the four heartbeat events; a tick of the schedule is one of them. -/
  | heartbeat (tick : Bool)
  | request (lane : MessageLane)
  deriving DecidableEq, Repr

/-- What the environment answers. -/
structure Answer where
  others : List (MessageLane × QueueAction) := []
  now : Nat := 0
  groupCancelled : Bool := false
  tokenCancelled : Bool := false
  leaseCancelled : Bool := false
  connectionCancelled : Bool := false
  allocated : Bool := true
  await : Await := .done
  startSend : Except SinkError Unit := .ok ()
  recv : TryRecv := .empty
  /-- The control channel is closed and empty. -/
  controlsClosed : Bool := false
  control : Except NetError Unit := .ok ()
  /-- What the heartbeat work that is due comes to. -/
  heartbeat : Except NetError Unit := .ok ()
  /-- A tick of the heartbeat schedule is ready. -/
  tick : Bool := false
  /-- What the classifier of a retry policy answers, if it does not panic. -/
  classify : Option RetryDecision := none
  heartbeatDue : Bool := false
  event : WriteLoopEvent := .cancelled
  /-- The gate of a cancellation group refuses the request. -/
  gateClosed : Bool := false

structure Submission where
  op : OpId
  /-- The position of the frame in its message. -/
  index : Nat
  frame : WireFrame
  accepted : Bool
  deriving DecidableEq, Repr

/-- What never changes about a writer. -/
structure WriteConfig where
  /-- The generation of the connection. -/
  connection : Nat
  dataFramePayloadSize : Option Nat
  dataFrameWriteTimeout : Nat

/-- The shared state, the sink's input, and the questions asked. -/
structure Writer where
  net : Net
  wire : List Submission := []
  asked : Nat := 0

namespace Writer

variable (E : SessionConfig) (C : WriteConfig) (env : Nat → Answer)

def op (s : Writer) (o : OpId) : OperationState := s.net.session.ops o

def withSession (s : Writer) (session : Session) : Writer :=
  { s with net := { s.net with session } }

def setOp (s : Writer) (o : OpId) (state : OperationState) : Writer :=
  s.withSession (s.net.session.setOp o state)

def ask (o : Option OpId) (s : Writer) : Answer × Writer :=
  let a := env s.asked
  (a, { s with net := a.others.foldl (Net.other E o) s.net, asked := s.asked + 1 })

def token (s : Writer) (a : Answer) (o : OpId) : Bool :=
  a.tokenCancelled && (s.op o).selectedError.isSome

def view (s : Writer) (a : Answer) (o : OpId) : View where
  now := a.now
  groupCancelled := a.groupCancelled
  tokenCancelled := s.token a o

/-! ## One data frame -/

abbrev WriteResult := Except RequestWriteFailure Unit

/-- `OperationControl::data_write_started`. -/
def dataWriteStarted (o : OpId) (dataStarted : Bool) (s : Writer) : Bool × Writer :=
  if dataStarted then (true, s)
  else
    let (_, s) := s.ask E env (some o)
    ((s.op o).dataInFlight, s)

def fail (o : OpId) (dataStarted : Bool) (failure : Bool → RequestWriteFailure) (s : Writer) :
    WriteResult × Writer :=
  let (started, s) := s.dataWriteStarted E env o dataStarted
  (.error (failure started), s)

/-- The last section of `start_data_write`. -/
def startDataWriteLocked (o : OpId) (continuation : Bool) (s : Writer) :
    Except NetError Bool × Writer :=
  let (a, s) := s.ask E env (some o)
  let (result, _, state) := (s.op o).startDataWrite (E.control o) (s.view a o) continuation
  (result, s.setOp o state)

/-- `start_data_write`: an expired response deadline is the table's. -/
def startDataWrite (o : OpId) (continuation : Bool) (s : Writer) : Except NetError Bool × Writer :=
  let (a, s) := s.ask E env (some o)
  match (s.op o).startDataWritePeek (s.view a o) with
  | none => s.startDataWriteLocked E env o continuation
  | some identity =>
    let (a, s) := s.ask E env (some o)
    if s.net.session.alive then
      (s.withSession (s.net.session.refreshResponseDeadline E (s.view a o) identity.id
        identity.token)).startDataWriteLocked E env o continuation
    else (.error (NetError.new .engineDropped), s)

/-- The two budgets of one frame. -/
structure FrameBudget where
  /-- The earlier one of the request's budget and the frame's own. -/
  selected : TimeoutBudget
  requestDeadlineWins : Bool

def FrameBudget.timeout (b : FrameBudget) (dataStarted : Bool) : RequestWriteFailure :=
  if b.requestDeadlineWins || !dataStarted then .deadline dataStarted true b.selected
  else .connection (budgetDeliveryUnknown b.selected) true

/-- What ends the wait of `send_data_frame_with_phase` from outside. -/
def interruption (b : FrameBudget) (o : OpId) (a : Answer) (s : Writer) :
    Option (Bool → RequestWriteFailure) :=
  match a.await with
  | .dispatchCancelled => if (s.op o).selectedError.isSome then some .cancelled else none
  | .timedOut => some b.timeout
  | .connectionCancelled => some (.connection (NetError.new .cancelled))
  | _ => none

/-- `send_data_frame_with_phase` flushes. -/
def awaitFlush (b : FrameBudget) (o : OpId) (dataStarted : Bool) (s : Writer) :
    WriteResult × Writer :=
  let (a, s) := s.ask E env (some o)
  match s.interruption b o a with
  | some failure => s.fail E env o dataStarted failure
  | none => match a.await with
    | .failed error => (.error (.connection error.unknownDelivery true), s)
    | _ => (.ok (), s)

/-- The sink is given a frame. -/
def submit (a : Answer) (o : OpId) (index : Nat) (frame : WireFrame) (s : Writer) : Writer :=
  { s with wire := s.wire ++ [⟨o, index, frame, a.startSend.isOk⟩] }

/-- One poll of a ready sink: nothing is awaited before `start_send`. -/
def startSend (b : FrameBudget) (o : OpId) (index : Nat) (frame : WireFrame)
    (dataStarted : Bool) (s : Writer) : WriteResult × Writer :=
  let (a, s) := s.ask E env (some o)
  if a.connectionCancelled then
    s.fail E env o dataStarted (.connection (NetError.new .cancelled))
  else if b.selected.instant ≤ a.now then
    s.fail E env o dataStarted fun started => .deadline started true b.selected
  else match s.startDataWrite E env o dataStarted with
    | (.error error, s) => s.fail E env o dataStarted (.connection error)
    | (.ok mayWrite, s) =>
      let (a, s) := s.ask E env (some o)
      if s.token a o || !mayWrite then s.fail E env o dataStarted .cancelled
      else
        let s := s.submit a o index frame
        match a.startSend with
        | .error error => (.error (.connection error.unknownDelivery true), s)
        | .ok () => s.awaitFlush E env b o dataStarted

/-- `send_data_frame_with_phase` waits for the sink. -/
def awaitReady (b : FrameBudget) (o : OpId) (index : Nat) (frame : WireFrame)
    (dataStarted : Bool) (s : Writer) : WriteResult × Writer :=
  let (a, s) := s.ask E env (some o)
  match s.interruption b o a with
  | some failure => s.fail E env o dataStarted failure
  | none => match a.await with
    | .failed error => s.fail E env o dataStarted (.connection error.error)
    | _ => s.startSend E env b o index frame dataStarted

def frameBudget (budget : TimeoutBudget) (now : Nat) : FrameBudget :=
  let frameDeadline :=
    (Checked.checkedAdd E.instantMax now C.dataFrameWriteTimeout).getD budget.instant
  { selected := if budget.instant ≤ frameDeadline then budget else ⟨frameDeadline, .write⟩
    requestDeadlineWins := budget.instant ≤ frameDeadline }

def beginWriteAttempt (o : OpId) (s : Writer) : Except NetError (Option RetryEvent) × Writer :=
  let (a, s) := s.ask E env (some o)
  let (result, state) := (s.op o).beginWriteAttempt (E.control o) (s.view a o)
  (result, s.setOp o state)

/-- `send_data_frame_with_phase`. -/
def sendDataFrame (budget : TimeoutBudget) (o : OpId) (index : Nat) (frame : WireFrame)
    (dataStarted : Bool) (s : Writer) : WriteResult × Writer :=
  let (a, s) := s.ask E env (some o)
  if s.token a o then (.error (.cancelled dataStarted), s)
  else if budget.instant ≤ a.now then (.error (.deadline dataStarted dataStarted budget), s)
  else if a.connectionCancelled then
    (.error (.connection (NetError.new .cancelled) dataStarted), s)
  else match s.beginWriteAttempt E env o with
    | (.error error, s) => s.fail E env o dataStarted (.connection error)
    | (.ok _, s) => s.awaitReady E env (frameBudget E C budget a.now) o index frame dataStarted

/-! ## The frames of a message -/

def maxReadyControlsPerBoundary : Nat := 16

/-- Between two controls: the due heartbeat, and a ready tick. -/
def afterControl (budget : TimeoutBudget) (a : Answer) : Except NetError Unit :=
  if budget.instant ≤ a.now then .error budget.timeoutError else a.heartbeat

/-- `drain_ready_controls_with_recovery`, up to a number. -/
def drainReadyControls (budget : TimeoutBudget) (o : OpId) :
    Nat → Writer → Except NetError ControlAction × Nat × Writer
  | 0, s =>
    let (a, s) := s.ask E env (some o)
    match afterControl budget a with
    | .error error => (.error error, 0, s)
    | .ok () => (.ok (if a.controlsClosed then .stop .connectionClosed else .proceed), 0, s)
  | remaining + 1, s =>
    let (a, s) := s.ask E env (some o)
    match afterControl budget a with
    | .error error => (.error error, remaining + 1, s)
    | .ok () => match a.recv with
      | .empty => (.ok .proceed, remaining + 1, s)
      | .disconnected => (.ok (.stop .connectionClosed), remaining + 1, s)
      | .message control => match handleControlMessage a.control control with
        | .proceed =>
          -- The heartbeat that is due now, then a tick that is ready.
          let (a, s) := s.ask E env (some o)
          match afterControl budget a with
          | .error error => (.error error, remaining, s)
          | .ok () =>
            let (a, s) := s.ask E env (some o)
            match (if a.tick then afterControl budget a else .ok ()) with
            | .error error => (.error error, remaining, s)
            | .ok () => drainReadyControls budget o remaining s
        | action => (.ok action, remaining, s)

/-- Serve the controls that are ready before the next frame. -/
def serveControls (budget : TimeoutBudget) (o : OpId) (wroteFrame : Bool) (remaining : Nat)
    (s : Writer) : Except RequestWriteFailure Nat × Writer :=
  match s.drainReadyControls E env budget o remaining with
  | (.error error, _, s) => (.error (.classifyBoundary error wroteFrame budget), s)
  | (.ok action, remaining, s) => match action.failure wroteFrame budget with
    | some failure => (.error failure, s)
    | none => (.ok remaining, s)

/-- `within_request_budget` serves a tick. -/
def serveTick (budget : TimeoutBudget) (o : OpId) (wroteFrame : Bool) (s : Writer) :
    WriteResult × Writer :=
  let (a, s) := s.ask E env (some o)
  if a.tick then
    if budget.instant ≤ a.now then (.error (.deadline wroteFrame wroteFrame budget), s)
    else match a.heartbeat with
      | .error error => (.error (.classifyBoundary error wroteFrame budget), s)
      | .ok () => (.ok (), s)
  else (.ok (), s)

/-- What happens at the boundary before a frame. -/
def boundary (budget : TimeoutBudget) (o : OpId) (wroteFrame : Bool) (controls : Nat)
    (s : Writer) : WriteResult × Writer :=
  match s.serveControls E env budget o wroteFrame controls with
  | (.error failure, s) => (.error failure, s)
  | (.ok remaining, s) => match s.serveTick E env budget o wroteFrame with
    | (.error failure, s) => (.error failure, s)
    | (.ok (), s) =>
      if 0 < remaining then
        match s.serveControls E env budget o wroteFrame remaining with
        | (.error failure, s) => (.error failure, s)
        | (.ok _, s) => (.ok (), s)
      else (.ok (), s)

/-- The loop of `send_request_message_with_phase`. -/
def sendFrames (budget : TimeoutBudget) (o : OpId) :
    List WireFrame → Nat → Bool → Nat → Writer → WriteResult × Writer
  | [], _, _, _, s => (.ok (), s)
  | frame :: frames, index, wroteFrame, controls, s =>
    let (a, s) := s.ask E env (some o)
    if s.token a o then (.error (.cancelled wroteFrame), s)
    else if budget.instant ≤ a.now then (.error (.deadline wroteFrame wroteFrame budget), s)
    else if a.connectionCancelled then
      (.error (.connection (NetError.new .cancelled) wroteFrame), s)
    else match s.boundary E env budget o wroteFrame controls with
      | (.error failure, s) => (.error failure, s)
      | (.ok (), s) => match s.sendDataFrame E C env budget o index frame wroteFrame with
        | (.error failure, s) => (.error failure, s)
        | (.ok (), s) =>
          sendFrames budget o frames (index + 1) true maxReadyControlsPerBoundary s

/-- `send_request_message_with_phase`. -/
def sendRequestMessage (budget : TimeoutBudget) (o : OpId) (message : Message) (controls : Nat)
    (s : Writer) : WriteResult × Writer :=
  s.sendFrames E C env budget o (message.frames C.dataFramePayloadSize) 0 false
    (min controls maxReadyControlsPerBoundary)

/-! ## The end of a request -/

def completionCause : ErrorKind → TaskEndCause
  | .cancelled => .cancelled
  | .timedOut => .expired
  | .closed => .disconnected
  | .engineDropped => .shutdown
  | _ => .failed

def terminate (o : OpId) (error : NetError) (s : Writer) : Writer :=
  let (a, s) := s.ask E env (some o)
  s.withSession (s.net.session.terminateControl E (s.view a o) o error
    (completionCause error.kind)).2

/-- `complete`; a prepared retirement has selected its result. -/
def complete (r : QueuedRequest) (result : Except NetError Unit) (s : Writer) : Writer :=
  if r.completed || r.retirement.isSome then s
  else match result, r.registration with
    | .error error, _ => s.terminate E env r.op error
    | .ok (), some registration =>
      let (a, s) := s.ask E env (some r.op)
      if s.net.session.alive then
        match s.net.session.markWritten E (s.view a r.op) registration a.now with
        | (.ok _, session) => s.withSession session
        | (.error error, session) => (s.withSession session).terminate E env r.op error
      else if (s.op r.op).responseConfirmed then s
      else s.terminate E env r.op (NetError.new .engineDropped)
    | .ok (), none =>
      let (a, s) := s.ask E env (some r.op)
      let (_, publication, state) := (s.op r.op).complete (E.control r.op) (s.view a r.op)
        ((s.op r.op).selectWritten (E.control r.op) (s.view a r.op))
      s.withSession ((s.net.session.setOp r.op state).publish r.op publication)

/-- `NativePending::fail_connection`. -/
def failConnection (o : OpId) (action : RequestAction) (error : NetError) (s : Writer) :
    RequestAction × Writer :=
  let (a, s) := s.ask E env (some o)
  match s.net.session.failConnection E (s.view a o) C.connection error a.allocated with
  | (.error error, session) => (.stopWithError error, s.withSession session)
  | (.ok (), session) => (action, s.withSession session)

def endConnection (o : OpId) (failure : RequestWriteFailure) (s : Writer) :
    RequestAction × Writer :=
  if failure.connectionAction = .proceed then (.proceed, s)
  else s.failConnection E C env o failure.connectionAction failure.requestError

/-- `inactive_operation_error`. -/
def inactiveOperationError (a : Answer) (o : OpId) (s : Writer) : NetError :=
  (s.op o).selectedError.getD
    (if due ((s.op o).deadline (E.control o)) a.now then (s.op o).deadlineError (E.control o)
    else NetError.new .cancelled)

/-! ## A write that has failed -/

/-- `check_active` after the observer was told about a retry. -/
def checkActive (o : OpId) (s : Writer) : Except NetError Unit × Writer :=
  let (a, s) := s.ask E env (some o)
  ((s.op o).checkActive (E.control o) (s.view a o), s)

/-- The end of `raw_retry_after`: the observer hears of failure and retry, with a check after each.
-/
def announceRetry (o : OpId) (delay : Nat) (s : Writer) : Except NetError (Option Nat) × Writer :=
  match s.checkActive E env o with
  | (.error error, s) => (.error error, s)
  | (.ok (), s) => match s.checkActive E env o with
    | (.error error, s) => (.error error, s)
    | (.ok (), s) => (.ok (some delay), s)

/-- `OperationControl::raw_retry_after`. -/
def rawRetryAfter (o : OpId) (error : NetError) (s : Writer) :
    Except NetError (Option Nat) × Writer :=
  let (a, s) := s.ask E env (some o)
  match (s.op o).rawRetryBegin (E.control o) (s.view a o) error with
  | (.answer result, state) => (result, s.setOp o state)
  | (.classify policy, state) =>
    let (a, s) := (s.setOp o state).ask E env (some o)
    let (result, _, state) := (s.op o).rawRetryDecide (E.control o) (s.view a o) policy error
      (policy.classify a.classify)
    let s := s.setOp o state
    match result with
    | .ok (some delay) =>
      if policy.observer then s.announceRetry E env o delay else (.ok (some delay), s)
    | result => (result, s)

/-- `requeue` of `NativePending`, or of `OperationControl`. -/
def requeue (r : QueuedRequest) (s : Writer) : Except NetError Bool × Writer :=
  let (a, s) := s.ask E env (some r.op)
  match r.registration with
  | some registration =>
    let (result, session) := s.net.session.requeue E (s.view a r.op) registration
    (result, s.withSession session)
  | none =>
    let (requeued, state) := (s.op r.op).requeue (E.control r.op) (s.view a r.op)
    (.ok requeued, s.setOp r.op state)

def pushExisting (lane : MessageLane) (r : QueuedRequest) (s : Writer) : Writer :=
  let (a, s) := s.ask E env (some r.op)
  let v := { s.view a r.op with leaseCancelled := a.leaseCancelled }
  match (s.net.queues lane).pushExisting E s.net.session v a.allocated r with
  | (.ok (), session, queue) =>
    { s with net := { session, queues := Function.update s.net.queues lane queue } }
  | (.error (r, error), session, queue) =>
    ({ s with net := { session, queues := Function.update s.net.queues lane queue } }).complete
      E env r (.error error)

/-- When and as which attempt a request is sent again. -/
def nextAttempt (r : QueuedRequest) (now : Nat) : Option Nat → Except NetError QueuedRequest
  | none => .ok r
  | some delay => match Checked.checkedAdd E.instantMax now delay with
    | none => .error (NetError.new .invalidPolicy)
    | some readyAt => match Checked.checkedAdd Checked.u32Max r.attempt 1 with
      | none => .error (NetError.new .resourceExhausted)
      | some attempt => .ok { r with readyAt := some readyAt, attempt }

/-- A failed request goes back to its queue. -/
def pushBack (lane : MessageLane) (r : QueuedRequest) (failure : RequestWriteFailure)
    (delay : Option Nat) (s : Writer) : RequestAction × Writer :=
  let (a, s) := s.ask E env (some r.op)
  match nextAttempt E r a.now delay with
  | .error error => (failure.connectionAction, s.complete E env r (.error error))
  | .ok r => (s.pushExisting E env lane r).endConnection E C env r.op failure

/-- Whether a failed request goes back, given a retry's delay. -/
def requeueOrEnd (lane : MessageLane) (r : QueuedRequest) (failure : RequestWriteFailure)
    (cancelled : Bool) (delay : Option Nat) (s : Writer) : RequestAction × Writer :=
  let (_, s) := s.ask E env (some r.op)
  let wait := !cancelled && failure.requeue = .waitForReconnect &&
    (!(s.op r.op).retryAttemptOpen || r.registration.isSome) && r.canWaitForReconnect E
  match (if delay.isSome || wait then s.requeue E env r else (.ok false, s)) with
  | (.error error, s) => (.stopWithError error, s.complete E env r (.error error))
  | (.ok true, s) => s.pushBack E C env lane r failure delay
  | (.ok false, s) =>
    if failure.requeue ≠ .never && r.registration.isSome then
      -- The permits are released; the table may keep an accepted response for its grace.
      s.failConnection E C env r.op failure.connectionAction failure.requestError
    else (failure.connectionAction, s.complete E env r (.error failure.requestError))

/-- `handle_queued_request` after a failed write. -/
def handleFailure (lane : MessageLane) (r : QueuedRequest) (failure : RequestWriteFailure)
    (s : Writer) : RequestAction × Writer :=
  let (_, s) := s.ask E env (some r.op)
  if (s.op r.op).responseConfirmed then s.endConnection E C env r.op failure
  else
    let (a, s) := s.ask E env (some r.op)
    let cancelled := s.token a r.op || (s.op r.op).isFinished
    let (_, s) := s.ask E env (some r.op)
    if !cancelled && r.registration.isNone && (s.op r.op).retryAttemptOpen &&
        (failure.requeue ≠ .never || failure.requestError.kind = .timedOut) then
      match s.rawRetryAfter E env r.op failure.requestError with
      | (.error error, s) => (failure.connectionAction, s.complete E env r (.error error))
      | (.ok delay, s) => s.requeueOrEnd E C env lane r failure cancelled delay
    else s.requeueOrEnd E C env lane r failure cancelled none

/-! ## One request -/

/-- `handle_queued_request` after a write. -/
def handleWritten (r : QueuedRequest) (s : Writer) : RequestAction × Writer :=
  let s := s.complete E env r (.ok ())
  let (_, s) := s.ask E env (some r.op)
  let state := s.op r.op
  if state.delivery = .written || state.delivery = .responseConfirmed then (.proceed, s)
  else match state.result with
    | some (.error error) => (.stopWithError error, s)
    | _ => (.proceed, s)

/-- `handle_queued_request` writes. -/
def writeRequest (lane : MessageLane) (controls : Nat) (r : QueuedRequest) (s : Writer) :
    RequestAction × Writer :=
  let (a, s) := s.ask E env (some r.op)
  match Checked.checkedAdd E.instantMax a.now r.config.writeTimeout with
  | none =>
    (.proceed, s.complete E env r
      (.error (NetError.config "write_timeout" "exceeds monotonic clock range")))
  | some instant =>
    let budget := (TimeoutBudget.earlier (E.control r.op).absoluteBudget
      (some ⟨instant, .write⟩)).getD ⟨instant, .write⟩
    match s.sendRequestMessage E C env budget r.op r.message controls with
    | (.ok (), s) => s.handleWritten E env r
    | (.error failure, s) => s.handleFailure E C env lane r failure

/-- `handle_queued_request` binds the connection. -/
def bindRequest (lane : MessageLane) (controls : Nat) (r : QueuedRequest) (s : Writer) :
    RequestAction × Writer :=
  match r.registration with
  | none => s.writeRequest E C env lane controls r
  | some registration =>
    let (a, s) := s.ask E env (some r.op)
    match s.net.session.bindConnection (s.view a r.op) registration C.connection with
    | (.ok true, session) => (s.withSession session).writeRequest E C env lane controls r
    | (.ok false, session) =>
      let s := s.withSession session
      (.proceed, s.complete E env r (.error (s.inactiveOperationError E a r.op)))
    | (.error error, session) =>
      (.proceed, (s.withSession session).complete E env r (.error error))

/-- `handle_queued_request`. -/
def handleQueuedRequest (lane : MessageLane) (controls : Nat) (r : QueuedRequest) (s : Writer) :
    RequestAction × Writer :=
  let (a, s) := s.ask E env (some r.op)
  if r.admissionCancel.isSome && a.leaseCancelled then
    (.proceed, s.complete E env r (.error (NetError.new .closed)))
  else
    let r := r.released
    let (a, s) := s.ask E env (some r.op)
    let (marked, state) := (s.op r.op).markWriting (E.control r.op) (s.view a r.op) C.connection
    let s := s.setOp r.op state
    let (a, s) := s.ask E env (some r.op)
    if !marked || s.token a r.op then
      (.proceed, s.complete E env r (.error (s.inactiveOperationError E a r.op)))
    else s.bindRequest E C env lane controls r

end Writer

/-! ## The loop -/

/-- A writer with what its loop keeps between two turns. -/
structure WriteLoop where
  writer : Writer
  consecutiveControls : Nat := 0
  running : Bool := true
  /-- The requests that were taken from the queues, in order. -/
  dequeued : List QueuedRequest := []

namespace WriteLoop

variable (E : SessionConfig) (C : WriteConfig) (env : Nat → Answer)

def ask (l : WriteLoop) : Answer × WriteLoop :=
  let (a, writer) := l.writer.ask E env none
  (a, { l with writer })

def stop (l : WriteLoop) : WriteLoop := { l with running := false }

/-- The action of a control that was received by the loop. -/
def afterControl (l : WriteLoop) : ControlAction → WriteLoop
  | .proceed => { l with consecutiveControls := l.consecutiveControls + 1 }
  | _ => l.stop

/-- `try_handle_ready_control`. -/
def tryHandleReadyControl (l : WriteLoop) : WriteLoop :=
  let (a, l) := l.ask E env
  match a.recv with
  | .empty => l
  | .disconnected => l.stop
  | .message control => l.afterControl (handleControlMessage a.control control)

/-- The due heartbeat work. -/
def serveHeartbeat (l : WriteLoop) : WriteLoop :=
  let (a, l) := l.ask E env
  match a.heartbeat with
  | .ok () => l
  | .error _ => l.stop

/-- A request in a turn of the loop. -/
def handleRequest (lane : MessageLane) (controls : Nat) (r : QueuedRequest) (l : WriteLoop) :
    WriteLoop :=
  let (a, s) := l.writer.ask E env (some r.op)
  let s := s.setOp r.op ((s.op r.op).bindWriteRetirement C.connection).2
  let l := { l with consecutiveControls := 0, dequeued := l.dequeued ++ [r] }
  if (E.control r.op).group && a.gateClosed then
    { l with writer := s.complete E env r (.error (NetError.new .internal)), running := false }
  else match s.handleQueuedRequest E C env lane controls r with
    | (.proceed, writer) => { l with writer }
    | (_, writer) => { l with writer, running := false }

/-- `try_next`, also one poll of `next`. -/
def tryNext (lane : MessageLane) (l : WriteLoop) : Option QueuedRequest × WriteLoop :=
  let (a, l) := l.ask E env
  let net := l.writer.net
  let (r, queue) := (net.queues lane).popReady E net.session a.now
  (r, { l with writer := { l.writer with
    net := { net with queues := Function.update net.queues lane queue } } })

/-- After a burst of controls a ready request goes first, an urgent one before others. -/
def fairnessRequest (l : WriteLoop) : Option (QueuedRequest × MessageLane) × WriteLoop :=
  if Writer.maxReadyControlsPerBoundary ≤ l.consecutiveControls then
    match l.tryNext E env .urgent with
    | (some r, l) => (some (r, .urgent), l)
    | (none, l) => match l.tryNext E env .normal with
      | (some r, l) => (some (r, .normal), l)
      | (none, l) => (none, { l with consecutiveControls := 0 })
  else (none, l)

/-- What the loop waits for; an open empty queue keeps it waiting. -/
def selectEvent (l : WriteLoop) : WriteLoop :=
  let (a, l) := l.ask E env
  match a.event with
  | .cancelled => l.stop
  | .control none => l.stop
  | .control (some control) => l.afterControl (handleControlMessage a.control control)
  | .heartbeat tick =>
    ({ l with consecutiveControls := if tick then 0 else l.consecutiveControls }).serveHeartbeat
      E env
  | .request lane => match l.tryNext E env lane with
    | (some r, l) => l.handleRequest E C env lane
        (Writer.maxReadyControlsPerBoundary - l.consecutiveControls) r
    | (none, l) => if (l.writer.net.queues lane).closed then l.stop else l

/-- One turn of the loop of `run_write_loop`. -/
def turn (l : WriteLoop) : WriteLoop :=
  if l.running = false then l
  else
    let (a, l) := l.ask E env
    if a.connectionCancelled then l.stop
    else
      let l := if a.heartbeatDue then
          let l := l.tryHandleReadyControl E env
          if l.running then l.serveHeartbeat E env else l
        else l
      if l.running = false then l
      else
        let (a, l) := l.ask E env
        if a.tick then
          let l := l.tryHandleReadyControl E env
          if l.running then l.serveHeartbeat E env else l
        else match l.fairnessRequest E env with
          | (some (r, lane), l) => l.handleRequest E C env lane 0 r
          | (none, l) => l.selectEvent E C env

/-- `run_write_loop`. -/
def run : Nat → WriteLoop → WriteLoop
  | 0, l => l
  | turns + 1, l => run turns (l.turn E C env)

end WriteLoop

end OpenNet.Ws
