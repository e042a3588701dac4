import OpenNet.Ws.OperationControl

/-!
# Frames and failures of the writer

The parts of `src/module/ws_client/ws_write.rs` that compute without any shared state: the
data frames of a message, and how a failure that the writer runs into is split into the error
of the request, the end of the connection and the permission to send the request again.
-/

namespace OpenNet.Ws

/-! ## Data frames -/

inductive DataOpcode where
  | text | binary | continuation
  deriving DecidableEq, Repr

/-- What the sink is given: a whole message or one frame of it. -/
inductive WireFrame where
  | message (message : Message)
  | frame (payload : List UInt8) (opcode : DataOpcode) (final : Bool)
  deriving DecidableEq, Repr

/-- The frames of a message that are still to come. -/
inductive OutgoingMessageFrames where
  | single (message : Option Message)
  | fragmented (payload : List UInt8) (firstOpcode : DataOpcode) (frameSize offset : Nat)
  deriving DecidableEq, Repr

namespace OutgoingMessageFrames

/-- `new`. -/
def new (message : Message) (frameSize : Option Nat) : OutgoingMessageFrames :=
  match frameSize.filter (0 < ·) with
  | none => .single (some message)
  | some frameSize => match message with
    | .text payload =>
      if frameSize < payload.length then .fragmented payload .text frameSize 0
      else .single (some message)
    | .binary payload =>
      if frameSize < payload.length then .fragmented payload .binary frameSize 0
      else .single (some message)

/-- `next`. -/
def next : OutgoingMessageFrames → Option WireFrame × OutgoingMessageFrames
  | .single message => (message.map .message, .single none)
  | .fragmented payload firstOpcode frameSize offset =>
    if payload.length ≤ offset then (none, .fragmented payload firstOpcode frameSize offset)
    else
      let stop := min (offset + frameSize) payload.length
      (some (.frame ((payload.drop offset).take (stop - offset))
          (if offset = 0 then firstOpcode else .continuation) (stop = payload.length)),
        .fragmented payload firstOpcode frameSize stop)

def collect : Nat → OutgoingMessageFrames → List WireFrame
  | 0, _ => []
  | count + 1, frames => match frames.next with
    | (none, _) => []
    | (some frame, frames) => frame :: collect count frames

/-- How many frames can still come at most. -/
def remaining : OutgoingMessageFrames → Nat
  | .single message => if message.isSome then 1 else 0
  | .fragmented payload _ _ offset => payload.length - offset

def Productive : OutgoingMessageFrames → Prop
  | .single _ => True
  | .fragmented _ _ frameSize _ => 0 < frameSize

theorem next_productive {frames : OutgoingMessageFrames} (h : frames.Productive) :
    frames.next.2.Productive := by
  cases frames with
  | single message => trivial
  | fragmented payload first size offset =>
    rw [next]
    split <;> exact h

theorem next_remaining {frames : OutgoingMessageFrames} (h : frames.Productive)
    (hsome : frames.next.1 ≠ none) : frames.next.2.remaining < frames.remaining := by
  cases frames with
  | single message => cases message <;> simp_all [next, remaining]
  | fragmented payload first size offset =>
    have hpos : 0 < size := h
    rw [next] at hsome ⊢
    split
    · rename_i hend
      rw [if_pos hend] at hsome
      exact absurd rfl hsome
    · simp only [remaining]
      omega

theorem collect_eq : ∀ {count count' : Nat} {frames : OutgoingMessageFrames}, frames.Productive →
    frames.remaining < count → frames.remaining < count' →
      collect count frames = collect count' frames
  | count + 1, count' + 1, frames, h, hcount, hcount' => by
    unfold collect
    split
    · rfl
    rename_i frame rest heq
    have hless := next_remaining h (by simp [heq])
    have hrest := next_productive h
    rw [heq] at hless hrest
    simp only at hless hrest
    rw [collect_eq hrest (by omega : rest.remaining < count) (by omega : rest.remaining < count')]

end OutgoingMessageFrames

/-- All frames of a message. -/
def Message.frames (message : Message) (frameSize : Option Nat) : List WireFrame :=
  OutgoingMessageFrames.collect (message.len + 2) (.new message frameSize)

example : (Message.binary [1, 2, 3, 4, 5]).frames (some 2) =
    [.frame [1, 2] .binary false, .frame [3, 4] .continuation false,
      .frame [5] .continuation true] := by decide

/-! ## Failures -/

/-- What the end of a request means for the connection. -/
inductive RequestAction where
  | proceed | stop | stopWithError (error : NetError)
  deriving DecidableEq, Repr

/-- How a request whose write has failed may return to a queue. -/
inductive RequestRequeue where
  | never | waitForReconnect | idempotentRetry
  deriving DecidableEq, Repr

/-- What a failed write means for connection and request. -/
structure RequestWriteFailure where
  requestError : NetError
  connectionAction : RequestAction
  requeue : RequestRequeue
  deriving DecidableEq, Repr

namespace RequestWriteFailure

/-- `connection`. -/
def connection (error : NetError) (dataStarted : Bool) : RequestWriteFailure where
  requestError :=
    if dataStarted ∧ error.kind ≠ .deliveryUnknown then
      (NetError.withSource .deliveryUnknown error).withContext error.context
    else if ¬ dataStarted ∧ error.kind = .deliveryUnknown then
      (NetError.withSource .closed error).withContext error.context
    else error
  connectionAction :=
    if error.kind = .cancelled ∨ error.kind = .closed then .stop else .stopWithError error
  requeue := if dataStarted then .idempotentRetry else .waitForReconnect

/-- `cancelled`. -/
def cancelled (dataStarted : Bool) : RequestWriteFailure where
  requestError := NetError.new .cancelled
  connectionAction :=
    if dataStarted then .stopWithError (NetError.new .deliveryUnknown) else .proceed
  requeue := .never

/-- `local_close`. -/
def localClose (error : Option NetError) : RequestWriteFailure where
  requestError := NetError.new .cancelled
  connectionAction := match error with
    | none => .stop
    | some error => if error.kind = .cancelled then .stop else .stopWithError error
  requeue := .never

/-- `deadline`. -/
def deadline (dataStarted connectionUncertain : Bool) (budget : TimeoutBudget) :
    RequestWriteFailure where
  requestError := budget.timeoutError.withStage .write
  connectionAction :=
    if dataStarted || connectionUncertain then .stopWithError (NetError.new .deliveryUnknown)
    else .proceed
  requeue := .never

/-- `classify_boundary_failure`. -/
def classifyBoundary (error : NetError) (dataStarted : Bool) (budget : TimeoutBudget) :
    RequestWriteFailure :=
  if error.kind = .timedOut ∧ error.context.stage ≠ some .heartbeat then
    deadline dataStarted dataStarted budget
  else if error.kind = .deliveryUnknown ∧ error.context.wsTimeoutPhase.isSome then
    deadline dataStarted true budget
  else connection error dataStarted

end RequestWriteFailure

/-- `budget_delivery_unknown`. -/
def budgetDeliveryUnknown (budget : TimeoutBudget) : NetError :=
  let error := budget.timeoutError.withStage .write
  (NetError.withSource .deliveryUnknown error).withContext error.context

structure SinkError where
  error : NetError
  stage : ErrorStage := .write
  deriving DecidableEq, Repr

/-- `unknown_delivery_error`. -/
def SinkError.unknownDelivery (e : SinkError) : NetError :=
  (NetError.withSource .deliveryUnknown e.error).withStage e.stage

/-! ## Controls -/

/-- What the writer is told. -/
inductive ControlMessage where
  | flushAutomatic | peerClose | closeWith
  deriving DecidableEq, Repr

/-- Why a control ends the loop. -/
inductive ControlStop where
  | connectionClosed | localClose
  deriving DecidableEq, Repr

/-- Who asks for a control frame. -/
inductive ControlOrigin where
  | automatic | peerClose | localClose
  deriving DecidableEq, Repr

/-- What a control comes to. -/
inductive ControlAction where
  | proceed
  | stop (stop : ControlStop)
  | failed (error : NetError) (origin : ControlOrigin)
  deriving DecidableEq, Repr

/-- `handle_control_message`, given how the sink's flush or close ends. -/
def handleControlMessage (result : Except NetError Unit) : ControlMessage → ControlAction
  | .flushAutomatic => match result with
    | .ok () => .proceed
    | .error error => .failed error .automatic
  | .peerClose => match result with
    | .ok () => .stop .connectionClosed
    | .error error => .failed error .peerClose
  | .closeWith => match result with
    | .ok () => .stop .localClose
    | .error error => .failed error .localClose

/-- What a control action between frames means for the request. -/
def ControlAction.failure (dataStarted : Bool) (budget : TimeoutBudget) :
    ControlAction → Option RequestWriteFailure
  | .proceed => none
  | .stop .connectionClosed => some (.connection (NetError.new .closed) dataStarted)
  | .stop .localClose => some (.localClose none)
  -- `classify_control_failure`
  | .failed error .localClose => some (.localClose (some error))
  | .failed error _ => some (.classifyBoundary error dataStarted budget)

end OpenNet.Ws
