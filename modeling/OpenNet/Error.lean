/-!
# Structured failures

Model of `src/api/error/mod.rs` and of the retry report of `libs/retry/src/observation.rs`.
Sources are retained behind a shared pointer; here `sources` lists the chain that `source()`
walks, the outermost cause first.
-/

namespace OpenNet

/-- The category of a failure. -/
inductive ErrorKind where
  | invalidInput | invalidConfig | io | dns | tls | protocol | handshakeRejected
  | providerFailed | callbackPanicked | runtimeUnavailable | resourceExhausted | queueFull
  | queueClosed | itemTooLarge | pendingLimitReached | subscriptionLimitReached
  | callbackOverflow | controlOverflow | observationLagged | notConnected | notRunning
  | unsupported | sessionAlreadyExists | connectionClosing | closed | engineDropped
  | cancelled | timedOut | deadlineExceeded | deliveryUnknown | retryExhausted
  | invalidPolicy | bodyNotReplayable | duplicateRequestId | routingDisabled
  | routingModeMismatch | clientAlreadyExists | clientNotFound | internal | httpStatus
  deriving DecidableEq, Repr

/-- Where an operation failed. -/
inductive ErrorStage where
  | configuration | provider | requestBuild | dns | tcp | proxy | proxyTls | tls | upgrade
  | admission | queue | write | response | receive | heartbeat | close | dispatch
  | networkMonitor | runtime
  deriving DecidableEq, Repr

/-- The budget of a WebSocket timeout. -/
inductive WsTimeoutPhase where
  | admission | write | response | attempt | total
  deriving DecidableEq, Repr

/-- The budget of an HTTP timeout. -/
inductive TimeoutPhase where
  | admission | connect | headers | idleRead | attempt | total
  deriving DecidableEq, Repr

instance : LawfulBEq (Option TimeoutPhase) := inferInstance

structure HandshakeDiagnostic where
  bodySummary : Option String := none
  deriving DecidableEq, Repr

structure PeerClose where
  code : Option Nat
  reason : String
  deriving DecidableEq, Repr

inductive IoEndKind where
  | peerClose | unexpectedEof | connectionReset | protocolError | other
  deriving DecidableEq, Repr

/-- Where and for whom an operation failed. -/
structure ErrorContext where
  stage : Option ErrorStage := none
  clientId : Option Nat := none
  sessionId : Option Nat := none
  connectionId : Option Nat := none
  attemptId : Option Nat := none
  requestId : Option String := none
  wsTimeoutPhase : Option WsTimeoutPhase := none
  httpStatus : Option Nat := none
  httpRequestId : Option Nat := none
  httpTimeoutPhase : Option TimeoutPhase := none
  httpAttempt : Option Nat := none
  diagnostic : Option HandshakeDiagnostic := none
  peerClose : Option PeerClose := none
  ioEnd : Option IoEndKind := none
  deriving DecidableEq, Repr

/-- The rejected field and the reason. -/
structure ConfigError where
  field : String
  reason : String
  deriving DecidableEq, Repr

/-- How a transport failed. -/
inductive TransportErrorKind where
  | dns | connect | tls | timeoutBeforeSend | write | readReset | bodyRead | protocol
  | deliveryUnknown
  deriving DecidableEq, Repr

/-- Why a retry is made. -/
inductive RetryReason where
  | httpStatus (status : Nat)
  | transport (kind : TransportErrorKind)
  | bodyRead | application | retryAfter
  deriving DecidableEq, Repr

/-- A link of the source chain; an HTTP failure has the retry reason established with it. -/
inductive Cause where
  | net (kind : ErrorKind) (context : ErrorContext) (configError : Option ConfigError)
  | config (detail : ConfigError)
  | budgetExpired (deadline : Nat) (phase : TimeoutPhase)
  | classified (reason : RetryReason)
  | foreign (description : String)
  deriving DecidableEq, Repr

/-- Why no retry follows. -/
inductive RetryStopReason where
  | completed | notRetryable | classifierStopped | attemptsExhausted | disabled
  | unsafeToReplay | cancelled | timedOut | shutdown | policyFailed
  deriving DecidableEq, Repr

/-- What a retry loop has done. -/
structure RetryReport where
  attempts : Nat := 0
  retryCount : Nat := 0
  transportSends : Nat := 0
  elapsed : Nat := 0
  stopReason : Option RetryStopReason := none
  deriving DecidableEq, Repr

/-- The error of every public operation. -/
structure NetError where
  kind : ErrorKind
  context : ErrorContext := {}
  configError : Option ConfigError := none
  sources : List Cause := []
  retryReport : Option RetryReport := none
  deriving DecidableEq, Repr

namespace NetError

/-- `NetError::new` and the conversion from `ErrorKind`. -/
def new (kind : ErrorKind) : NetError := { kind }

variable (e : NetError)

/-- The link this error becomes as the source of another. -/
def asCause : Cause := .net e.kind e.context e.configError

/-- `protocol` and `provider`. -/
def withForeign (kind : ErrorKind) (description : String) : NetError :=
  { kind, sources := [.foreign description] }

/-- `NetError::with_source` for a source that is itself a `NetError`. -/
def withSource (kind : ErrorKind) (source : NetError) : NetError :=
  { kind, sources := source.asCause :: source.sources }

/-- `with_context`. -/
def withContext (context : ErrorContext) : NetError := { e with context }

/-- `with_stage`. -/
def withStage (stage : ErrorStage) : NetError :=
  { e with context := { e.context with stage := some stage } }

/-- `with_ws_timeout_phase`. -/
def withWsTimeoutPhase (phase : WsTimeoutPhase) : NetError :=
  { e with context := { e.context with wsTimeoutPhase := some phase } }

/-- `with_timeout_phase`. -/
def withTimeoutPhase (phase : TimeoutPhase) : NetError :=
  { e with context := { e.context with httpTimeoutPhase := some phase } }

/-- `with_http_request_id`. -/
def withHttpRequestId (id : Nat) : NetError :=
  { e with context := { e.context with httpRequestId := some id } }

/-- `with_http_attempt`. -/
def withHttpAttempt (attempt : Nat) : NetError :=
  { e with context := { e.context with httpAttempt := some attempt } }

/-- `with_retry_report`. -/
def withRetryReport (report : RetryReport) : NetError :=
  { e with retryReport := some report }

/-- `input`: a rejected argument. -/
def input (field reason : String) : NetError :=
  { (new .invalidInput).withStage .requestBuild with configError := some ⟨field, reason⟩ }

/-- `NetError::config`: the rejected field is the source as well. -/
def config (field reason : String) : NetError :=
  { (new .invalidConfig).withStage .configuration with
    configError := some ⟨field, reason⟩, sources := [.config ⟨field, reason⟩] }

@[simp] theorem withRetryReport_kind (r : RetryReport) :
    (e.withRetryReport r).kind = e.kind := rfl

end NetError

end OpenNet
