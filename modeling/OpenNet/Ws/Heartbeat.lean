import OpenNet.Ws.WireFrames

/-!
# Heartbeat probes of a connection

Model of `module/ws_client/heartbeat_state.rs` and of the heartbeat part of
`module/ws_client/ws_write.rs`.  The writer keeps at most one Ping outstanding.  A normal probe
whose write was refused with the same Ping handed back (`WriteBufferFull`) is written again after
a delay; a probe whose Pong is late starts a bounded recovery with probes of its own.

A payload is its sequence number, the generation being that of the connection; `probe` numbers the
probes of the connection, which the wrapping sequence does not, and is not part of the bytes.
`written` is the history of the calls of `send_control_frame_outcome` for normal probes.
-/

namespace OpenNet.Ws

open Checked

structure HeartbeatRetryConfig where
  pongRecoveryAttempts : Nat := 0
  pongRetryInterval : Nat := 1500
  pingWriteRetries : Nat := 0
  pingWriteRetryInterval : Nat := 1500
  deriving DecidableEq, Repr

structure ProbePayload where
  sequence : Nat
  probe : Nat
  deriving DecidableEq, Repr

/-- Being sent, or waiting for its Pong. -/
inductive ProbePhase where
  | sending
  | awaitingPong (sentAt : Nat)
  deriving DecidableEq, Repr

/-- The probe that waits for its Pong. -/
structure OutstandingProbe where
  payload : ProbePayload
  pongTimeout : Nat
  phase : ProbePhase
  deriving DecidableEq, Repr

/-- What a tick asks for. -/
inductive HeartbeatTick where
  | sendProbe (payload : ProbePayload)
  | waiting
  | timedOut
  deriving DecidableEq, Repr

/-- `HeartbeatStateInner` behind its lock. -/
structure HeartbeatState where
  nextSequence : Nat := 1
  outstanding : Option OutstandingProbe := none
  created : Nat := 0
  deriving DecidableEq, Repr

namespace HeartbeatState

def create (pongTimeout : Nat) (h : HeartbeatState) : ProbePayload × HeartbeatState :=
  let payload := { sequence := h.nextSequence, probe := h.created }
  (payload, {
    nextSequence := max ((h.nextSequence + 1) % 2 ^ 64) 1
    outstanding := some { payload, pongTimeout, phase := .sending }
    created := h.created + 1 })

/-- `on_tick`. -/
def onTick (now pongTimeout : Nat) (h : HeartbeatState) : HeartbeatTick × HeartbeatState :=
  match h.outstanding with
  | some { phase := .sending, .. } => (.waiting, h)
  | some { phase := .awaitingPong sentAt, pongTimeout, .. } =>
    if pongTimeout ≤ now - sentAt then (.timedOut, h) else (.waiting, h)
  | none =>
    let (payload, h) := h.create pongTimeout
    (.sendProbe payload, h)

/-- `start_recovery_probe`. -/
def startRecoveryProbe (instantMax now pongTimeout : Nat) (h : HeartbeatState) :
    Option (ProbePayload × HeartbeatState) :=
  let canStart :=
    match h.outstanding with
    | none => true
    | some { phase := .sending, .. } => false
    | some { phase := .awaitingPong sentAt, pongTimeout, .. } =>
      (checkedAdd instantMax sentAt pongTimeout).any (· ≤ now)
  if canStart then some (h.create pongTimeout) else none

/-- `has_outstanding_probe`. -/
def hasOutstandingProbe (h : HeartbeatState) : Bool := h.outstanding.isSome

/-- `mark_sent`. -/
def markSent (payload : ProbePayload) (sentAt : Nat) (h : HeartbeatState) : HeartbeatState :=
  match h.outstanding with
  | some probe =>
    if probe.payload.sequence = payload.sequence ∧ probe.phase = .sending then
      { h with outstanding := some { probe with phase := .awaitingPong sentAt } }
    else h
  | none => h

/-- `acknowledge_pong`. -/
def acknowledgePong (instantMax sequence now : Nat) (h : HeartbeatState) : HeartbeatState :=
  match h.outstanding with
  | some probe =>
    let inTime : Bool :=
      match probe.phase with
      | .sending => true
      | .awaitingPong sentAt => (checkedAdd instantMax sentAt probe.pongTimeout).any (now < ·)
    if probe.payload.sequence = sequence ∧ inTime then { h with outstanding := none } else h
  | none => h

/-- `abandon_probe`. -/
def abandonProbe (payload : ProbePayload) (h : HeartbeatState) : HeartbeatState :=
  match h.outstanding with
  | some probe =>
    if probe.payload.sequence = payload.sequence then { h with outstanding := none } else h
  | none => h

/-- `pong_deadline`. -/
def pongDeadline (instantMax : Nat) (h : HeartbeatState) : Option Nat :=
  match h.outstanding with
  | some { phase := .awaitingPong sentAt, pongTimeout, .. } =>
    some ((checkedAdd instantMax sentAt pongTimeout).getD sentAt)
  | _ => none

/-- `is_timed_out`. -/
def isTimedOut (instantMax now : Nat) (h : HeartbeatState) : Bool :=
  (h.pongDeadline instantMax).any (· ≤ now)

end HeartbeatState

/-- The recovery rounds, and normal retries. -/
structure HeartbeatRecovery where
  config : HeartbeatRetryConfig
  active : Bool := false
  roundsStarted : Nat := 0
  nextDeadline : Option Nat := none
  awaitingPong : Bool := false
  normalRetryPayload : Option ProbePayload := none
  normalRetryAttempts : Nat := 0
  normalRetryDeadline : Option Nat := none
  recoveryFlushPending : Bool := false
  deriving DecidableEq, Repr

namespace HeartbeatRecovery

/-- `clear_normal_retry`. -/
def clearNormalRetry (r : HeartbeatRecovery) : HeartbeatRecovery :=
  { r with normalRetryPayload := none, normalRetryAttempts := 0, normalRetryDeadline := none }

def reset (active : Bool) (r : HeartbeatRecovery) : HeartbeatRecovery :=
  { r with
    active
    roundsStarted := 0
    nextDeadline := none
    awaitingPong := false
    recoveryFlushPending := false }.clearNormalRetry

/-- `start`. -/
def start (r : HeartbeatRecovery) : HeartbeatRecovery := r.reset true

/-- `finish`. -/
def finish (r : HeartbeatRecovery) : HeartbeatRecovery := r.reset false

/-- `due`. -/
def due (now : Nat) (r : HeartbeatRecovery) : Bool := r.active && r.nextDeadline.any (· ≤ now)

/-- `normal_retry_due`. -/
def normalRetryDue (now : Nat) (r : HeartbeatRecovery) : Bool :=
  r.normalRetryDeadline.any (· ≤ now)

def retryIntervalError : NetError :=
  .config "heartbeat.retry.ping_write_retry_interval" "cannot represent the retry deadline"

/-- `schedule_normal_retry`. -/
def scheduleNormalRetry (instantMax : Nat) (payload : ProbePayload) (now : Nat)
    (r : HeartbeatRecovery) : Except NetError Unit × HeartbeatRecovery :=
  match checkedAdd instantMax now r.config.pingWriteRetryInterval with
  | none => (.error retryIntervalError, r)
  | some deadline =>
    (.ok (), { r with
      normalRetryPayload := some payload
      normalRetryAttempts := 1
      normalRetryDeadline := some deadline })

/-- The attempt is counted before the deadline is computed. -/
def advanceNormalRetry (instantMax now : Nat) (r : HeartbeatRecovery) :
    Except NetError Unit × HeartbeatRecovery :=
  let r := { r with normalRetryAttempts := saturatingAdd u64Max r.normalRetryAttempts 1 }
  match checkedAdd instantMax now r.config.pingWriteRetryInterval with
  | none => (.error retryIntervalError, r)
  | some deadline => (.ok (), { r with normalRetryDeadline := some deadline })

/-- `begin_round`. -/
def beginRound (r : HeartbeatRecovery) : Bool × HeartbeatRecovery :=
  if r.config.pongRecoveryAttempts ≤ r.roundsStarted then (false, r)
  else
    (true, { r with
      roundsStarted := saturatingAdd u64Max r.roundsStarted 1, nextDeadline := none })

/-- `arm_wait`. -/
def armWait (instantMax now : Nat) (r : HeartbeatRecovery) :
    Except NetError Unit × HeartbeatRecovery :=
  match checkedAdd instantMax now r.config.pongRetryInterval with
  | none =>
    (.error (.config "heartbeat.retry.pong_retry_interval"
      "cannot represent the recovery deadline"), r)
  | some deadline => (.ok (), { r with nextDeadline := some deadline })

end HeartbeatRecovery

/-! ## Control writes -/

/-- A refused frame is handed back, `none` if it is not a Ping. -/
inductive SinkResult where
  | sent
  | writeBufferFull (rejected : Option Nat)
  | error (error : NetError)
  | elapsed
  | cancelled
  deriving DecidableEq, Repr

/-- How a control frame was written. -/
inductive ControlWriteOutcome where
  | complete
  | retryable (error : NetError)
  | failed (error : NetError)
  deriving DecidableEq, Repr

/-- `send_control_frame_outcome` for a Ping. -/
def sendControlFrameOutcome (instantMax now timeout : Nat) (budget : Option TimeoutBudget)
    (payload : ProbePayload) (result : SinkResult) : ControlWriteOutcome :=
  match checkedAdd instantMax now timeout with
  | none => .failed (.new .invalidConfig)
  | some deadline =>
    match result with
    | .cancelled => .failed (.new .cancelled)
    | .sent => .complete
    | .writeBufferFull rejected =>
      if rejected = some payload.sequence then
        .retryable ((NetError.new .queueFull).withStage .write)
      else .failed ((NetError.new .deliveryUnknown).withStage .write)
    | .error error => .failed error
    | .elapsed =>
      match budget.filter (·.instant ≤ deadline) with
      | none => .failed (.new .deliveryUnknown)
      | some budget => .failed (budgetDeliveryUnknown budget)

/-! ## The heartbeat work of the writer -/

/-- The answers of clock and sink. -/
structure HeartbeatEnv where
  /-- The clock at each place of the call that reads it. -/
  clock : Nat → Nat
  controlWriteTimeout : Nat
  budget : Option TimeoutBudget := none
  flush : Except NetError Unit := .ok ()
  /-- Sequences and times of the Pongs acknowledged during the flush. -/
  flushPongs : List (Nat × Nat) := []
  write : SinkResult
  writePongs : List (Nat × Nat) := []

/-- The heartbeat of a writer, with its writes. -/
structure HeartbeatWriter where
  instantMax : Nat
  heartbeat : HeartbeatState := {}
  recovery : HeartbeatRecovery
  written : List (Nat × ControlWriteOutcome) := []

abbrev HeartbeatCall := Except NetError Unit × HeartbeatWriter

namespace HeartbeatWriter

variable (E : HeartbeatEnv) (w : HeartbeatWriter)

def timedOutError : NetError := (NetError.new .timedOut).withStage .heartbeat

def acknowledge (pongs : List (Nat × Nat)) : HeartbeatWriter :=
  let acknowledged := pongs.foldl
    (fun h pong => h.acknowledgePong w.instantMax pong.1 pong.2) w.heartbeat
  { w with heartbeat := acknowledged }

def markSent (payload : ProbePayload) (now : Nat) : HeartbeatWriter :=
  { w with heartbeat := w.heartbeat.markSent payload now }

def abandon (payload : ProbePayload) : HeartbeatWriter :=
  { w with heartbeat := w.heartbeat.abandonProbe payload }

def setRecovery (r : HeartbeatRecovery) : HeartbeatWriter := { w with recovery := r }

/-- `send_control_frame_outcome` with a Ping of the connection. -/
def sendPing (payload : ProbePayload) (now : Nat) : ControlWriteOutcome × HeartbeatWriter :=
  (sendControlFrameOutcome w.instantMax now E.controlWriteTimeout E.budget payload E.write,
    w.acknowledge E.writePongs)

/-- The same for a normal probe, which the history records. -/
def sendNormalPing (payload : ProbePayload) (now : Nat) : ControlWriteOutcome × HeartbeatWriter :=
  let (outcome, w) := w.sendPing E payload now
  (outcome, { w with written := w.written ++ [(payload.probe, outcome)] })

/-- `flush_sink_with_budget`. -/
def flushSink : HeartbeatCall := (E.flush, w.acknowledge E.flushPongs)

/-- `drive_heartbeat_recovery_with_budget` after its flush. -/
def sendRecoveryProbe : HeartbeatCall :=
  match w.heartbeat.startRecoveryProbe w.instantMax (E.clock 4)
      w.recovery.config.pongRetryInterval with
  | none => (.error ((NetError.new .internal).withStage .heartbeat), w)
  | some (payload, heartbeat) =>
    match { w with heartbeat }.sendPing E payload (E.clock 5) with
    | (.complete, w) =>
      let w := w.markSent payload (E.clock 6)
      if !w.heartbeat.hasOutstandingProbe then (.ok (), w.setRecovery w.recovery.finish)
      else
        let (result, recovery) :=
          { w.recovery with awaitingPong := true }.armWait w.instantMax (E.clock 7)
        (result, w.setRecovery recovery)
    | (.retryable _, w) =>
      let w := w.abandon payload
      let (result, recovery) := { w.recovery with
        awaitingPong := false, recoveryFlushPending := true }.armWait w.instantMax (E.clock 7)
      (result, w.setRecovery recovery)
    | (.failed error, w) => (.error error, w.abandon payload)

def recoveryRound : HeartbeatCall :=
  let (begun, recovery) := w.recovery.beginRound
  let w := w.setRecovery recovery
  if !begun then (.error timedOutError, w)
  else if w.recovery.recoveryFlushPending then
    let (result, w) := w.flushSink E
    let w := w.setRecovery { w.recovery with recoveryFlushPending := false }
    match result with
    | .error error => (.error error, w)
    | .ok () => w.sendRecoveryProbe E
  else w.sendRecoveryProbe E

/-- A round of recovery, if one is due. -/
def continueRecovery : HeartbeatCall :=
  if w.heartbeat.hasOutstandingProbe && !w.heartbeat.isTimedOut w.instantMax (E.clock 1) then
    (.ok (), w)
  else if w.heartbeat.isTimedOut w.instantMax (E.clock 2) || w.recovery.due (E.clock 3) ||
      w.recovery.nextDeadline.isNone then
    w.recoveryRound E
  else (.ok (), w)

/-- `drive_heartbeat_recovery_with_budget`. -/
def driveHeartbeatRecovery : HeartbeatCall :=
  if w.recovery.active && !w.heartbeat.hasOutstandingProbe && w.recovery.awaitingPong then
    (.ok (), w.setRecovery w.recovery.finish)
  else if !w.recovery.active then
    if !w.heartbeat.isTimedOut w.instantMax (E.clock 0) then (.ok (), w)
    else if w.recovery.config.pongRecoveryAttempts = 0 then (.error timedOutError, w)
    else (w.setRecovery w.recovery.start).continueRecovery E
  else w.continueRecovery E

/-- The first write of a normal probe. -/
def sendProbe (payload : ProbePayload) : HeartbeatCall :=
  match w.sendNormalPing E payload (E.clock 11) with
  | (.complete, w) => (.ok (), w.markSent payload (E.clock 12))
  | (.retryable error, w) =>
    if 0 < w.recovery.config.pingWriteRetries then
      let (result, recovery) :=
        w.recovery.scheduleNormalRetry w.instantMax payload (E.clock 12)
      (result, w.setRecovery recovery)
    else (.error error, w.abandon payload)
  | (.failed error, w) => (.error error, w.abandon payload)

/-- `handle_heartbeat_tick_with_budget`. -/
def handleHeartbeatTick (pongTimeout : Nat) : HeartbeatCall :=
  if w.recovery.active then
    if !w.heartbeat.hasOutstandingProbe && w.recovery.awaitingPong then
      (.ok (), w.setRecovery w.recovery.finish)
    else if w.heartbeat.isTimedOut w.instantMax (E.clock 8) || w.recovery.due (E.clock 9) then
      w.driveHeartbeatRecovery E
    else (.ok (), w)
  else
    match w.heartbeat.onTick (E.clock 10) pongTimeout with
    | (.waiting, heartbeat) => (.ok (), { w with heartbeat })
    | (.timedOut, heartbeat) => { w with heartbeat }.driveHeartbeatRecovery E
    | (.sendProbe payload, heartbeat) => { w with heartbeat }.sendProbe E payload

/-- The write of `drive_normal_ping_retry`; its bound has one more than the retries, though the
count starts at one. -/
def retryPing (payload : ProbePayload) : HeartbeatCall :=
  match w.sendNormalPing E payload (E.clock 14) with
  | (.complete, w) =>
    (.ok (), (w.markSent payload (E.clock 15)).setRecovery w.recovery.clearNormalRetry)
  | (.retryable error, w) =>
    if w.recovery.normalRetryAttempts <
        saturatingAdd u64Max w.recovery.config.pingWriteRetries 1 then
      let (result, recovery) := w.recovery.advanceNormalRetry w.instantMax (E.clock 15)
      (result, w.setRecovery recovery)
    else (.error error, (w.abandon payload).setRecovery w.recovery.clearNormalRetry)
  | (.failed error, w) =>
    (.error error, (w.abandon payload).setRecovery w.recovery.clearNormalRetry)

/-- `drive_normal_ping_retry`. -/
def driveNormalPingRetry : HeartbeatCall :=
  match w.recovery.normalRetryPayload with
  | none => (.ok (), w)
  | some payload =>
    if !w.heartbeat.hasOutstandingProbe then
      (.ok (), w.setRecovery w.recovery.clearNormalRetry)
    else
      match E.budget.filter (·.instant ≤ E.clock 13) with
      | some budget =>
        (.error budget.timeoutError,
          (w.abandon payload).setRecovery w.recovery.clearNormalRetry)
      | none =>
        match w.flushSink E with
        | (.error error, w) =>
          (.error error, (w.abandon payload).setRecovery w.recovery.clearNormalRetry)
        | (.ok (), w) => w.retryPing E payload

/-- `service_due_heartbeat_work`: the recovery. -/
def serviceRecovery : HeartbeatCall :=
  if w.heartbeat.isTimedOut w.instantMax (E.clock 17) || w.recovery.due (E.clock 18) then
    w.driveHeartbeatRecovery E
  else (.ok (), w)

/-- `service_due_heartbeat_work`; its two calls await separately. -/
def serviceDueHeartbeatWork (E' : HeartbeatEnv) : HeartbeatCall :=
  if w.recovery.normalRetryDue (E.clock 16) then
    match w.driveNormalPingRetry E with
    | (.error error, w) => (.error error, w)
    | (.ok (), w) => w.serviceRecovery E'
  else w.serviceRecovery E'

/-! ## The system -/

inductive Action where
  | tick (pongTimeout : Nat) (E : HeartbeatEnv)
  | service (E E' : HeartbeatEnv)
  | retry (E : HeartbeatEnv)
  | recover (E : HeartbeatEnv)
  | pong (sequence now : Nat)

/-- One call of the writer. -/
def step (w : HeartbeatWriter) : Action → HeartbeatWriter
  | .tick pongTimeout E => (w.handleHeartbeatTick E pongTimeout).2
  | .service E E' => (w.serviceDueHeartbeatWork E E').2
  | .retry E => (w.driveNormalPingRetry E).2
  | .recover E => (w.driveHeartbeatRecovery E).2
  | .pong sequence now => w.acknowledge [(sequence, now)]

def new (instantMax : Nat) (config : HeartbeatRetryConfig) : HeartbeatWriter :=
  { instantMax, recovery := { config } }

end HeartbeatWriter

end OpenNet.Ws
