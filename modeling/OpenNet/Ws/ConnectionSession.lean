import Mathlib.Data.Prod.Lex
import OpenNet.Error
import OpenNet.Foundation.Checked
import OpenNet.Foundation.Fallible
import OpenNet.Foundation.Machine

/-!
# The lifecycle of one connection session

Model of `module/ws_client/connection_session.rs`: the calls of the worker, each one transaction
on the state of the session, the events they publish and the snapshots.

The sizes of events, the answers of the journal and of the state publisher, and the clock are
arguments (`Answers`).  The observed history never changes the outcome of a call.
-/

namespace OpenNet.Ws

/-- Why a session ends. -/
inductive TerminationReason where
  | cancelled | localClose | clientShutdown | engineDropped | peerClose | connectFailed
  | retryExhausted | ioFailure | networkUnavailable
  deriving DecidableEq, Repr

/-- `RetryDecision` of `api/ws/connection.rs`. -/
inductive AttemptRetry where
  | stop
  | scheduled (after : Nat)
  deriving DecidableEq, Repr

structure HandshakeAttempt where
  clientId : Nat
  sessionId : Nat
  cycleId : Nat
  attemptId : Nat
  /-- The identity of the shared metadata. -/
  metadata : Nat
  deriving DecidableEq, Repr

/-- Attempts are ordered by cycle, then by their number in it. -/
def HandshakeAttempt.key (a : HandshakeAttempt) : Nat × Nat := (a.cycleId, a.attemptId)

/-- An established connection. -/
structure ConnectionInfo where
  clientId : Nat
  sessionId : Nat
  connectionId : Nat
  cycleId : Nat
  attemptId : Nat
  connectedAt : Nat
  credentialVersion : Option String
  deriving DecidableEq, Repr

def ConnectionInfo.key (c : ConnectionInfo) : Nat × Nat := (c.cycleId, c.attemptId)

/-- How a connection ended. -/
structure ConnectionEnd where
  reason : TerminationReason
  error : Option NetError
  peerClose : Option PeerClose
  ioEnd : Option IoEndKind
  deriving DecidableEq, Repr

/-- How a session ended. -/
structure SessionEnd where
  reason : TerminationReason
  lastConnection : Option ConnectionEnd
  deriving DecidableEq, Repr

/-- The state that is shown. -/
inductive ConnectionState where
  | connecting
  | connected (info : ConnectionInfo)
  | waitingForNetwork
  | reconnecting (cycleId : Nat) (nextAttemptAt : Option Nat)
  | closing
  | closed (result : Except NetError SessionEnd)

/-- A state under its revision. -/
structure ConnectionSnapshot where
  revision : Nat := 0
  state : ConnectionState := .connecting
  lastError : Option NetError := none

/-- What an event reports. -/
inductive ConnectionEventKind where
  | attemptStarted (attempt : HandshakeAttempt)
  | established (connection : ConnectionInfo)
  | attemptFailed (attempt : HandshakeAttempt) (credentialVersion : Option String)
      (error : NetError) (retry : AttemptRetry)
  | disconnected (connection : ConnectionInfo) (ended : ConnectionEnd)
  | closed (result : Except NetError SessionEnd)

/-- A numbered event of the journal. -/
structure ConnectionEvent where
  sequence : Nat
  clientId : Nat
  sessionId : Nat
  occurredAt : Nat
  kind : ConnectionEventKind

structure ConnectionFailure where
  error : NetError
  deriving DecidableEq, Repr

structure ConnectionTerminationDetails where
  peerClose : Option PeerClose := none
  ioEndKind : Option IoEndKind := none
  deriving DecidableEq, Repr

/-- Room in the journal; `observed` holds permits. -/
inductive EventLease where
  | observed (slot bytes : Nat)
  | unobserved
  deriving DecidableEq, Repr

/-- Room for an attempt's events. -/
structure AttemptReservation where
  /-- The session that made the reservation. -/
  owner : Nat
  resources : EventLease
  deriving DecidableEq, Repr

/-- An attempt and its credentials. -/
structure AttemptContext where
  attempt : HandshakeAttempt
  credentialVersion : Option String
  prepared : Bool
  deriving DecidableEq, Repr

/-- An attempt and the room for its events. -/
structure ActiveAttempt where
  context : AttemptContext
  resultSlot : Option EventLease
  connectionSlot : Option EventLease
  successDecided : Bool
  deriving DecidableEq, Repr

/-- A connection and the room for its end. -/
structure ActiveConnection where
  info : ConnectionInfo
  terminalSlot : Option EventLease
  deriving DecidableEq, Repr

/-- The fields behind the session's lock. -/
structure SessionState where
  snapshot : ConnectionSnapshot := {}
  cycle : Option Nat := none
  reconnecting : Bool := false
  closing : Bool := false
  stateFailed : Bool := false
  sessionTerminalSlot : Option EventLease
  attempt : Option ActiveAttempt := none
  connection : Option ActiveConnection := none
  lastAttempt : Option AttemptContext := none
  lastConnectionEnd : Option ConnectionEnd := none
  lastConnectionInfo : Option ConnectionInfo := none
  lastAttemptError : Option NetError := none
  terminalResult : Option (Except NetError SessionEnd) := none
  lastSequence : Nat := 0
  terminated : Bool := false
  deliveryError : Option NetError := none

/-- What a transaction leaves to dispatch. -/
structure Publication where
  events : List ConnectionEvent := []
  nextState : Option ConnectionState := none
  nextError : Option NetError := none
  attempt : Option ActiveAttempt := none
  connection : Option ActiveConnection := none
  close : Bool := false
  failed : Bool := false

/-- The state of a call, and what it publishes. -/
structure Transaction where
  state : SessionState
  publication : Publication := {}

namespace Transaction

variable (t : Transaction)

/-- The active attempt leaves; it is dropped after the lock. -/
def takeAttempt : Transaction where
  state := { t.state with attempt := none }
  publication := { t.publication with attempt := t.state.attempt }

def takeConnection : Transaction where
  state := { t.state with connection := none }
  publication := { t.publication with connection := t.state.connection }

def showState (state : ConnectionState) : Transaction :=
  { t with publication := { t.publication with nextState := some state } }

def showError (error : Option NetError) : Transaction :=
  { t with publication := { t.publication with nextError := error } }

end Transaction

/-- What a call learns from outside; its events count from 0. -/
structure Answers where
  now : Nat
  size : Nat → Except NetError Nat
  journal : Nat → Except NetError Unit
  /-- The journal has a receiver. -/
  journalActive : Nat → Bool
  /-- The result of the effect of the state publisher. -/
  statePublisher : Except NetError Unit

/-- What never changes about a session. -/
structure ConnectionSession where
  clientInstanceId : Nat
  sessionId : Nat
  metadata : Nat
  identity : Nat
  journal : Bool
  deriving DecidableEq, Repr

def maxConnectionEventBytes : Nat := 32 * 1024

variable (env : Answers)

namespace ConnectionSession

variable (c : ConnectionSession)

/-- `internal`. -/
def internal : NetError := (NetError.new .internal).withStage .dispatch

/-- `reason_error`. -/
def reasonError (reason : TerminationReason) : NetError :=
  (NetError.new (match reason with
    | .cancelled | .localClose | .clientShutdown | .peerClose => .cancelled
    | .engineDropped => .engineDropped
    | .retryExhausted => .retryExhausted
    | .connectFailed => .notConnected
    | .ioFailure | .networkUnavailable => .io)).withStage .close

/-- The error with what the session knows about its circumstances. -/
def annotate (error : NetError) (attempt : Option HandshakeAttempt)
    (connection : Option ConnectionInfo) (diagnostic : Option HandshakeDiagnostic)
    (details : Option ConnectionTerminationDetails) : NetError :=
  let context := { error.context with
    clientId := some c.clientInstanceId, sessionId := some c.sessionId }
  let context := match attempt with
    | some attempt => { context with attemptId := some attempt.attemptId }
    | none => context
  let context := match connection with
    | some connection => { context with
        connectionId := some connection.connectionId, attemptId := some connection.attemptId }
    | none => context
  let context := { context with diagnostic := diagnostic.or context.diagnostic }
  let context := match details with
    | some details => { context with
        peerClose := details.peerClose.or context.peerClose
        ioEnd := details.ioEndKind.or context.ioEnd }
    | none => context
  error.withContext context

/-! ## Publishing an event -/

/-- `split_lease`: one slot and room for one event. -/
def splitLease : EventLease → Except NetError (EventLease × EventLease)
  | .observed slot bytes =>
    if 1 ≤ slot ∧ maxConnectionEventBytes ≤ bytes then
      .ok (.observed 1 maxConnectionEventBytes,
        .observed (slot - 1) (bytes - maxConnectionEventBytes))
    else .error internal
  | .unobserved => .ok (.unobserved, .unobserved)

/-- The permits left over; no event may need more than there are. -/
def EventLease.refund (size : Nat) : EventLease → Option Nat
  | .observed _ bytes => if size ≤ bytes then some (bytes - size) else none
  | .unobserved => some 0

/-- The receiver of the journal has gone, which is no failure. -/
def detachedJournalError (n : Nat) (error : NetError) : Bool :=
  error.kind = .closed && c.journal && !env.journalActive n

/-- The journal refuses the `n`th event of a call. -/
def journalError (n : Nat) : Option NetError :=
  match env.journal n with
  | .ok () => none
  | .error error => if c.journal && !c.detachedJournalError env n error then some error else none

/-- `publish`. -/
def publish (kind : ConnectionEventKind) (lease : EventLease) (t : Transaction) :
    Except NetError Unit × Transaction :=
  let n := t.publication.events.length
  let pending := { t with publication := { t.publication with failed := true } }
  match Checked.checkedAdd Checked.u64Max t.state.lastSequence 1 with
  | none => (.error ((NetError.new .resourceExhausted).withStage .dispatch), pending)
  | some sequence =>
    match env.size n with
    | .error error => (.error error, pending)
    | .ok size =>
      match EventLease.refund size lease with
      | none => (.error internal, pending)
      | some _ =>
        let numbered := { pending with state := { t.state with lastSequence := sequence } }
        match c.journalError env n with
        | some error => (.error error, numbered)
        | none =>
          let event := {
            sequence, kind, clientId := c.clientInstanceId, sessionId := c.sessionId
            occurredAt := env.now }
          (.ok (), { numbered with
            publication := { t.publication with
              events := t.publication.events ++ [event], failed := false } })

/-- Go on with a call, or end it with the error that occurred. -/
def andThen (r : Except NetError Unit × Transaction)
    (next : Transaction → Except NetError Unit × Transaction) :
    Except NetError Unit × Transaction :=
  match r with
  | (.ok (), t) => next t
  | (.error error, t) => (.error error, t)

def refuse (kind : ErrorKind) (t : Transaction) : Except NetError Unit × Transaction :=
  (.error (NetError.new kind), t)

/-! ## Progress -/

/-- `preparing_state`. -/
def preparingState (state : SessionState) (nextAttemptAt : Option Nat) :
    Except NetError ConnectionState :=
  if state.reconnecting then
    match state.cycle with
    | some cycle => .ok (.reconnecting cycle nextAttemptAt)
    | none => .error internal
  else .ok .connecting

/-- Show the preparing state. -/
def announce (nextAttemptAt : Option Nat) (t : Transaction) : Except NetError Unit × Transaction :=
  match preparingState t.state nextAttemptAt with
  | .ok state => (.ok (), t.showState state)
  | .error error => (.error error, t)

/-- `check_progress`. -/
def Progresses (state : SessionState) (cycle : Nat) : Prop :=
  state.terminated = false ∧ state.closing = false ∧ state.connection = none ∧
    state.cycle = some cycle

instance (state : SessionState) (cycle : Nat) : Decidable (Progresses state cycle) :=
  inferInstanceAs (Decidable (_ ∧ _))

/-- `check_attempt`. -/
def Attempting (state : SessionState) (cycleId attemptId : Nat) : Prop :=
  state.terminated = false ∧ state.closing = false ∧
    state.attempt.map (·.context.attempt.key) = some (cycleId, attemptId)

instance (state : SessionState) (cycleId attemptId : Nat) :
    Decidable (Attempting state cycleId attemptId) := inferInstanceAs (Decidable (_ ∧ _))

/-- `begin_cycle`. -/
def beginCycle (cycle : Nat) (reconnecting : Bool) (t : Transaction) :
    Except NetError Unit × Transaction :=
  if t.state.terminated || t.state.closing || t.state.connection.isSome ||
      t.state.attempt.isSome || t.state.cycle.any fun current => cycle < current then
    refuse .cancelled t
  else announce none { t with state := { t.state with cycle := some cycle, reconnecting } }

/-- `waiting_for_network`. -/
def waitingForNetwork (cycle : Nat) (t : Transaction) : Except NetError Unit × Transaction :=
  if Progresses t.state cycle then
    (.ok (), t.showState .waitingForNetwork)
  else refuse .cancelled t

/-- `preparing_attempt`. -/
def preparingAttempt (cycle : Nat) (nextAttemptAt : Option Nat) (t : Transaction) :
    Except NetError Unit × Transaction :=
  if Progresses t.state cycle then
    announce nextAttemptAt { t with
      state := { t.state with reconnecting := t.state.reconnecting || nextAttemptAt.isSome } }
  else refuse .cancelled t

/-- `begin_closing`. -/
def beginClosing (t : Transaction) : Except NetError Unit × Transaction :=
  if t.state.terminated || t.state.closing then (.ok (), t)
  else (.ok (), { t.showState .closing with state := { t.state with closing := true } })

/-! ## Attempts -/

/-- `begin_attempt` with the leases it has split off the reservation. -/
def beginAttempt (cancelRequested : Bool) (attempt : HandshakeAttempt) (owner : Nat)
    (started resultSlot connectionSlot : EventLease) (t : Transaction) :
    Except NetError Unit × Transaction :=
  if t.state.terminated || t.state.closing || cancelRequested then refuse .cancelled t
  else if owner ≠ c.identity ∨ attempt.clientId ≠ c.clientInstanceId ∨
      attempt.sessionId ≠ c.sessionId ∨ attempt.metadata ≠ c.metadata then
    refuse .invalidConfig t
  else if t.state.attempt.isSome || t.state.connection.isSome then refuse .sessionAlreadyExists t
  else if t.state.lastAttempt.any fun previous =>
      decide (toLex attempt.key ≤ toLex previous.attempt.key) then refuse .cancelled t
  else if Progresses t.state attempt.cycleId then
    andThen (announce none t) fun t =>
    let context : AttemptContext := { attempt, credentialVersion := none, prepared := false }
    c.publish env (.attemptStarted attempt) started { t with
      state := { t.state with
        lastAttemptError := none
        lastAttempt := some context
        attempt := some { context, resultSlot, connectionSlot, successDecided := false } } }
  else refuse .cancelled t

/-- `set_attempt_credential_version`. -/
def setAttemptCredentialVersion (cycleId attemptId : Nat) (credentialVersion : Option String)
    (state : SessionState) : Except NetError SessionState :=
  if Attempting state cycleId attemptId then
    match state.attempt with
    | none => .error internal
    | some active =>
      if active.context.prepared then .error (NetError.new .invalidConfig)
      else
        let context := { active.context with credentialVersion, prepared := true }
        .ok { state with attempt := some { active with context }, lastAttempt := some context }
  else .error (NetError.new .cancelled)

/-- `attempt_failed_with_diagnostic`. -/
def attemptFailedWithDiagnostic (cycleId attemptId : Nat) (failure : ConnectionFailure)
    (retry : AttemptRetry) (diagnostic : Option HandshakeDiagnostic) (t : Transaction) :
    Except NetError Unit × Transaction :=
  if Attempting t.state cycleId attemptId then
    match t.state.attempt with
    | none => (.error internal, t)
    | some active =>
      if active.successDecided then refuse .invalidConfig t
      else
        let error := c.annotate failure.error (some active.context.attempt) none diagnostic none
        match active.resultSlot with
        | none => (.error internal, t.takeAttempt)
        | some lease =>
          andThen (c.publish env (.attemptFailed active.context.attempt
            active.context.credentialVersion error retry) lease t.takeAttempt) fun t =>
          let t := { t.showError (some error) with
            state := { t.state with lastAttemptError := some error } }
          match retry with
          | .stop => (.ok (), t)
          | .scheduled _ => announce none { t with state := { t.state with reconnecting := true } }
  else refuse .cancelled t

/-- `prepare_established`. -/
def prepareEstablished (cancelRequested : Bool) (cycleId attemptId : Nat) (state : SessionState) :
    Except NetError SessionState :=
  if Attempting state cycleId attemptId then
    if cancelRequested then .error (NetError.new .cancelled)
    else match state.attempt with
      | none => .error internal
      | some active =>
        if !active.context.prepared || active.successDecided then
          .error (NetError.new .invalidConfig)
        else .ok { state with attempt := some { active with successDecided := true } }
  else .error (NetError.new .cancelled)

/-- `commit_established`. -/
def commitEstablished (cycleId attemptId : Nat) (t : Transaction) :
    Except NetError Unit × Transaction :=
  if Attempting t.state cycleId attemptId then
    match t.state.attempt with
    | none => (.error internal, t)
    | some active =>
      if active.successDecided then
        let attempt := active.context.attempt
        let info : ConnectionInfo := {
          clientId := attempt.clientId, sessionId := attempt.sessionId
          connectionId := attempt.cycleId, cycleId := attempt.cycleId
          attemptId := attempt.attemptId, connectedAt := env.now
          credentialVersion := active.context.credentialVersion }
        match active.resultSlot with
        | none => (.error internal, t.takeAttempt)
        | some lease =>
          andThen (c.publish env (.established info) lease t.takeAttempt) fun t =>
          (.ok (), { t.showState (.connected info) with
            state := { t.state with
              connection := some { info, terminalSlot := active.connectionSlot } } })
      else refuse .invalidConfig t
  else refuse .cancelled t

/-! ## The end of a connection -/

/-- `disconnect`. -/
def disconnect (reason : TerminationReason) (failure : Option ConnectionFailure)
    (details : ConnectionTerminationDetails) (nextCycle : Option Nat) (t : Transaction) :
    Except NetError Unit × Transaction :=
  match t.state.connection with
  | none => refuse .closed t
  | some active =>
    if nextCycle.any fun next => decide (next ≤ active.info.cycleId) then refuse .invalidInput t
    else
      let error := failure.map fun failure =>
        c.annotate failure.error none (some active.info) none (some details)
      let ended : ConnectionEnd := {
        reason, error, peerClose := details.peerClose, ioEnd := details.ioEndKind }
      match active.terminalSlot with
      | none => (.error internal, t.takeConnection)
      | some lease =>
        andThen (c.publish env (.disconnected active.info ended) lease t.takeConnection) fun t =>
        let t := { t.showError ended.error with
          state := { t.state with
            lastConnectionEnd := some ended, lastConnectionInfo := some active.info } }
        match nextCycle with
        | some next =>
          announce none
            { t with state := { t.state with cycle := some next, reconnecting := true } }
        | none => (.ok (), { t.showState .closing with state := { t.state with closing := true } })

/-- `connection_terminated_with_details`. -/
def connectionTerminatedWithDetails (reason : TerminationReason)
    (failure : Option ConnectionFailure) (details : ConnectionTerminationDetails)
    (nextCycle : Option Nat) (t : Transaction) : Except NetError Unit × Transaction :=
  if t.state.terminated then refuse .cancelled t
  else c.disconnect env reason failure details nextCycle t

/-- The error of the failure, or the one that stands for the reason. -/
def causeError (reason : TerminationReason) : Option ConnectionFailure → NetError
  | some failure => failure.error
  | none => reasonError reason

/-- The last connection, if no attempt was started after it. -/
def currentConnection (state : SessionState) : Option ConnectionInfo :=
  state.lastConnectionInfo.filter fun connection =>
    state.lastAttempt.any fun last => decide (last.attempt.key = connection.key)

/-- What the session has observed of the end it is in. -/
def observedError (reason : TerminationReason) (state : SessionState) : Option NetError :=
  if (currentConnection state).isSome then
    (state.lastConnectionEnd.filter fun ended => decide (ended.reason = reason)).bind (·.error)
  else if reason = .connectFailed ∨ reason = .retryExhausted then state.lastAttemptError
  else none

/-- The error with which a session ends. -/
def terminalError (reason : TerminationReason) (failure : Option ConnectionFailure)
    (details : ConnectionTerminationDetails) (state : SessionState) : NetError :=
  let error := causeError reason failure
  let error := match observedError reason state with
    | none => error
    | some observed =>
      if failure.isNone then observed
      else error.withContext { error.context with
        diagnostic := error.context.diagnostic.or observed.context.diagnostic
        peerClose := error.context.peerClose.or observed.context.peerClose
        ioEnd := error.context.ioEnd.or observed.context.ioEnd }
  let error :=
    if reason = .retryExhausted ∧ error.kind ≠ .retryExhausted then
      (NetError.withSource .retryExhausted error).withContext error.context
    else error
  c.annotate error (state.lastAttempt.map (·.attempt)) (currentConnection state) none (some details)

/-- `terminal_result`. -/
def terminalResult (reason : TerminationReason) (failure : Option ConnectionFailure)
    (details : ConnectionTerminationDetails) (state : SessionState) : Except NetError SessionEnd :=
  match reason with
  | .localClose | .clientShutdown | .peerClose =>
    .ok { reason, lastConnection := state.lastConnectionEnd }
  | _ => .error (c.terminalError reason failure details state)

/-- The attempt that `terminate_with_details` finds fails. -/
def endAttempt (reason : TerminationReason) (failure : Option ConnectionFailure)
    (details : ConnectionTerminationDetails) (t : Transaction) :
    Except NetError Unit × Transaction :=
  match t.state.attempt with
  | none => (.ok (), t)
  | some active =>
    let error := c.annotate (causeError reason failure) (some active.context.attempt) none none
      (some details)
    match active.resultSlot with
    | none => (.error internal, t.takeAttempt)
    | some lease =>
      c.publish env (.attemptFailed active.context.attempt active.context.credentialVersion error
        .stop) lease t.takeAttempt

/-- `terminate_with_details`: the connection. -/
def endConnection (reason : TerminationReason) (failure : Option ConnectionFailure)
    (details : ConnectionTerminationDetails) (t : Transaction) :
    Except NetError Unit × Transaction :=
  if t.state.connection.isSome then c.disconnect env reason failure details none t
  else (.ok (), t)

/-- `terminate_with_details`: the session. -/
def closeSession (reason : TerminationReason) (failure : Option ConnectionFailure)
    (details : ConnectionTerminationDetails) (t : Transaction) :
    Except NetError Unit × Transaction :=
  let terminal := c.terminalResult reason failure details t.state
  match t.state.sessionTerminalSlot with
  | none => (.error internal, t)
  | some lease =>
    let t := { t with state := { t.state with sessionTerminalSlot := none } }
    andThen (c.publish env (.closed terminal) lease t) fun t =>
    (.ok (), {
      state := { t.state with
        terminalResult := some terminal, terminated := true, closing := true }
      publication := { t.publication with
        nextError := match terminal with
          | .error error => some error
          | .ok _ => t.publication.nextError
        nextState := some (.closed terminal)
        close := true } })

/-- `terminate_with_details`. -/
def terminateWithDetails (reason : TerminationReason) (failure : Option ConnectionFailure)
    (details : ConnectionTerminationDetails) (t : Transaction) :
    Except NetError Unit × Transaction :=
  if t.state.terminated then
    match t.state.deliveryError with
    | some error => (.error error, t)
    | none => (.ok (), t)
  else
    andThen (c.endAttempt env reason failure details t) fun t =>
    andThen (c.endConnection env reason failure details t) fun t =>
    c.closeSession env reason failure details t

/-! ## The transaction -/

/-- `fail_observation_sources`. -/
def failPublication (result : Except NetError Unit) (t : Transaction) : Transaction :=
  let reported := match result with
    | .error error => some error
    | .ok () => none
  let state := { t.state with
    deliveryError := reported.or t.state.deliveryError
    terminalResult := t.state.terminalResult.or (reported.map .error)
    terminated := true
    attempt := if t.publication.attempt.isNone then none else t.state.attempt
    connection := if t.publication.connection.isNone then none else t.state.connection
    sessionTerminalSlot := none
    closing := true }
  let publication := { t.publication with close := true }
  match state.terminalResult with
  | none => { state, publication }
  | some terminal => {
      state
      publication := { publication with
        nextState := some (.closed terminal)
        nextError := match terminal with
          | .error error => some error
          | .ok _ => none } }

/-- `prepare_snapshot`: the state, and the snapshot if one is shown. -/
def prepareSnapshot (t : Transaction) : SessionState × Option ConnectionSnapshot :=
  if t.publication.nextState.isNone && t.publication.nextError.isNone then (t.state, none)
  else match Checked.checkedAdd Checked.u64Max t.state.snapshot.revision 1 with
    | none => ({ t.state with stateFailed := true }, none)
    | some revision =>
      let snapshot := {
        revision
        state := t.publication.nextState.getD t.state.snapshot.state
        lastError := t.publication.nextError.or t.state.snapshot.lastError }
      let state := { t.state with snapshot }
      if state.stateFailed then (state, none)
      else match env.statePublisher with
        | .ok () => (state, some snapshot)
        | .error _ => ({ state with stateFailed := true }, none)

end ConnectionSession

/-- A session and what it has shown. -/
structure SessionRun where
  state : SessionState
  cancelRequested : Bool := false
  log : List ConnectionEvent := []
  /-- The snapshots that the state publisher took, the first one included. -/
  snapshots : List ConnectionSnapshot := [{}]

/-- A call of the worker. -/
inductive SessionAction where
  | beginCycle (cycle : Nat) (reconnecting : Bool)
  | waitingForNetwork (cycle : Nat)
  | preparingAttempt (cycle : Nat) (nextAttemptAt : Option Nat)
  | beginClosing
  | beginAttempt (attempt : HandshakeAttempt) (reservation : AttemptReservation)
  | setAttemptCredentialVersion (cycleId attemptId : Nat) (credentialVersion : Option String)
  | attemptFailedWithDiagnostic (cycleId attemptId : Nat) (failure : ConnectionFailure)
      (retry : AttemptRetry) (diagnostic : Option HandshakeDiagnostic)
  | prepareEstablished (cycleId attemptId : Nat)
  | commitEstablished (cycleId attemptId : Nat)
  | connectionTerminatedWithDetails (reason : TerminationReason)
      (failure : Option ConnectionFailure) (details : ConnectionTerminationDetails)
      (nextCycle : Option Nat)
  | terminateWithDetails (reason : TerminationReason) (failure : Option ConnectionFailure)
      (details : ConnectionTerminationDetails)
  | requestCancel

namespace ConnectionSession

variable (c : ConnectionSession)

/-- `new_with_observers`; one slot is kept for the last event. -/
def new : SessionRun where
  state := {
    sessionTerminalSlot :=
      some (if c.journal then .observed 1 maxConnectionEventBytes else .unobserved) }

/-- `mutate`. -/
def mutate (operation : Transaction → Except NetError Unit × Transaction) (s : SessionRun) :
    SessionRun :=
  let (result, t) := operation { state := s.state }
  let t := if t.publication.failed then failPublication result t else t
  let (state, snapshot) := prepareSnapshot env t
  { state
    cancelRequested := s.cancelRequested || t.publication.close
    log := s.log ++ t.publication.events
    snapshots := s.snapshots ++ snapshot.toList }

def update (operation : SessionState → Except NetError SessionState) (s : SessionRun) :
    SessionRun :=
  match operation s.state with
  | .ok state => { s with state }
  | .error _ => s

/-- The three leases that `begin_attempt` takes from its reservation. -/
def splitReservation (resources : EventLease) :
    Except NetError (EventLease × EventLease × EventLease) := do
  let (started, rest) ← splitLease resources
  let (resultSlot, rest) ← splitLease rest
  let (connectionSlot, _) ← splitLease rest
  return (started, resultSlot, connectionSlot)

/-- One call, with its answers. -/
def step (s : SessionRun) : Answers × SessionAction → SessionRun
  | (env, .beginCycle cycle reconnecting) => mutate env (beginCycle cycle reconnecting) s
  | (env, .waitingForNetwork cycle) => mutate env (waitingForNetwork cycle) s
  | (env, .preparingAttempt cycle nextAttemptAt) =>
    mutate env (preparingAttempt cycle nextAttemptAt) s
  | (env, .beginClosing) => mutate env beginClosing s
  | (env, .beginAttempt attempt reservation) =>
    match splitReservation reservation.resources with
    | .error _ => s
    | .ok (started, resultSlot, connectionSlot) =>
      mutate env (c.beginAttempt env s.cancelRequested attempt reservation.owner started resultSlot
        connectionSlot) s
  | (_, .setAttemptCredentialVersion cycleId attemptId credentialVersion) =>
    update (setAttemptCredentialVersion cycleId attemptId credentialVersion) s
  | (env, .attemptFailedWithDiagnostic cycleId attemptId failure retry diagnostic) =>
    mutate env (c.attemptFailedWithDiagnostic env cycleId attemptId failure retry diagnostic) s
  | (_, .prepareEstablished cycleId attemptId) =>
    update (prepareEstablished s.cancelRequested cycleId attemptId) s
  | (env, .commitEstablished cycleId attemptId) =>
    mutate env (c.commitEstablished env cycleId attemptId) s
  | (env, .connectionTerminatedWithDetails reason failure details nextCycle) =>
    mutate env (c.connectionTerminatedWithDetails env reason failure details nextCycle) s
  | (env, .terminateWithDetails reason failure details) =>
    mutate env (c.terminateWithDetails env reason failure details)
      { s with cancelRequested := true }
  | (_, .requestCancel) => { s with cancelRequested := true }

def run (calls : List (Answers × SessionAction)) : SessionRun := Machine.run c.step c.new calls

end ConnectionSession

end OpenNet.Ws
