import OpenNet.Http.ResponseHops
import OpenNet.Ws.Retry

/-!
# HTTP retry policies

Model of `src/api/http/retry.rs` and of the retry reasons of `src/module/http/http_failure.rs`.
A policy composes a schedule with rules of the protocol: which outcomes may be repeated, whether
the server's `Retry-After` is a lower bound of the delay, and which requests may be sent twice.

What the typed errors of the HTTP stack say about a failure that carries no established reason
is `Causes`, the answer of `inspect_causes`; a retained `HttpRedirectError` is known by its text.
-/

namespace OpenNet.Http

open OpenNet.Ws (RetrySchedule RetryState RetryStateError RetryDecision)

/-! ## Rules -/

/-- How delays take up a lower bound given by the server. -/
inductive RetryAfterMode where
  | ignore | respect
  deriving DecidableEq, Repr

/-- `RetryAfterMode::select`: the hint is applied after the jitter. -/
def RetryAfterMode.select (mode : RetryAfterMode) (server : Option Nat) (backoff : Nat) : Nat :=
  match mode, server with
  | .respect, some delay => max delay backoff
  | _, _ => backoff

/-- Whether a request may be replayed. -/
inductive RequestSafety where
  | never | automatic | idempotentByContract | idempotencyKey
  deriving DecidableEq, Repr

/-- `is_idempotent`. -/
def isIdempotent (method : Method) : Bool :=
  method ∈ [Method.get, .head, .options, .put, .delete]

/-- What a policy retries. -/
structure RetryOn where
  statuses : List Nat := []
  transport : List TransportErrorKind := []
  bodyRead : Bool := false
  timeoutPhases : List TimeoutPhase := []
  deriving DecidableEq, Repr

/-- `allows`. -/
def RetryOn.allows (on : RetryOn) : RetryReason → Bool
  | .httpStatus status => status ∈ on.statuses
  | .transport kind => kind ∈ on.transport
  | .bodyRead => on.bodyRead
  | .application => false
  | .retryAfter => false

/-- A policy with bounds its builder checked. -/
structure HttpRetryPolicy where
  schedule : RetrySchedule
  retryOn : RetryOn := {}
  retryAfter : RetryAfterMode := .ignore
  safety : RequestSafety := .automatic
  /-- A classifier is installed. -/
  classifier : Bool := false
  attempts_pos : 0 < schedule.maxAttempts
  attempts_fit : schedule.maxAttempts ≤ Checked.u32Max

/-! ## Failures -/

/-- The boundary a failure of the HTTP stack was observed at. -/
inductive Boundary where
  | unknown | dns | proxyAuth
  deriving DecidableEq, Repr

/-- The evidence in the typed causes of a failure. -/
structure Causes where
  boundary : Boundary := .unknown
  tls : Bool := false
  protocol : Bool := false
  deriving DecidableEq, Repr

def Causes.retryReason (causes : Causes) : Option RetryReason :=
  match causes.boundary with
  | .dns => some (.transport .dns)
  | .proxyAuth => some (.httpStatus 407)
  | .unknown =>
    if causes.tls then some (.transport .tls)
    else if causes.protocol then some (.transport .protocol)
    else none

def isRedirect : Cause → Bool
  | .foreign description =>
    description ∈ [HttpRedirectError.insecureTarget, .originNotAllowed, .tooManyRedirects,
      .invalidLocation].map HttpRedirectError.message
  | _ => false

def savedReason : Cause → Option RetryReason
  | .classified reason => some reason
  | _ => none

/-- The reason of a budget that expired. -/
def timeoutReason (e : NetError) : Option RetryReason :=
  match e.context.httpTimeoutPhase with
  | some .idleRead => some .bodyRead
  | some .attempt =>
    if e.context.stage = some .receive then some .bodyRead else some (.transport .readReset)
  | some .admission | some .total => some .application
  | some .headers => some (.transport .readReset)
  | some .connect => some (.transport .connect)
  | none => none

/-- `trusted_retry_reason`: the reason that evidence establishes. -/
def trustedRetryReason (inspect : NetError → Causes) (e : NetError) : Option RetryReason :=
  -- Sending the first request again cannot change a local redirect decision.
  if e.sources.head?.any isRedirect then some .application
  else if e.kind ∉ [.io, .protocol, .tls, .dns, .timedOut, .httpStatus] then none
  else
    match if e.kind = .timedOut then timeoutReason e else none with
    | some reason => some reason
    | none =>
      match e.sources.head?.bind savedReason with
      | some reason => some reason
      | none =>
        if e.kind ∈ [.io, .protocol, .tls, .dns] then (inspect e).retryReason else none

/-- `fallback_retry_reason`: a failure without evidence. -/
def fallbackRetryReason (e : NetError) : Option RetryReason :=
  match e.kind with
  | .dns => some (.transport .dns)
  | .tls => some (.transport .tls)
  | .deliveryUnknown | .timedOut => some (.transport .deliveryUnknown)
  | .io =>
    match e.context.stage with
    | some .dns => some (.transport .dns)
    | some .tcp | some .proxy => some (.transport .connect)
    | some .write => some (.transport .write)
    | some .receive | some .response => some (.transport .bodyRead)
    | _ => some (.transport .readReset)
  | .protocol => some (.transport .protocol)
  | _ => none

/-- `retry_error_is_eligible`: some failures nobody may repeat. -/
def retryErrorIsEligible (e : NetError) : Bool :=
  e.context.httpTimeoutPhase ∉ [some .admission, some .total] &&
    e.kind ∉ [.cancelled, .deadlineExceeded, .invalidInput, .invalidConfig, .invalidPolicy,
      .bodyNotReplayable, .providerFailed, .internal, .queueClosed] &&
    !(e.sources.take 32).any isRedirect

/-- `stop_for_error`. -/
def stopForError (e : NetError) : RetryStopReason :=
  match e.kind with
  | .cancelled => .cancelled
  | .timedOut | .deadlineExceeded => .timedOut
  | .queueClosed => .shutdown
  | .providerFailed | .internal => .policyFailed
  | _ => .notRetryable

/-- `retry_state_error`. -/
def retryStateError (e : RetryStateError) : NetError :=
  (NetError.withForeign .internal e.message).withStage .dispatch

namespace HttpRetryPolicy

variable (policy : HttpRetryPolicy)

/-- `classify`; `answer` is the classifier's, `none` a panic. -/
def classify (answer : Option RetryDecision) : Except NetError RetryDecision :=
  if policy.classifier = false then .ok .default
  else match answer with
    | some decision => .ok decision
    | none => .error ((NetError.new .providerFailed).withStage .provider)

/-- `allows_method`. -/
def allowsMethod (method : Method) (replayableBody : Bool) : Bool :=
  replayableBody &&
    match policy.safety with
    | .never => false
    | .automatic => isIdempotent method
    | .idempotentByContract | .idempotencyKey => true

/-- `should_retry_status`. -/
def shouldRetryStatus (status : Nat) : Bool :=
  status ∈ policy.retryOn.statuses

/-- `should_retry_error`. -/
def shouldRetryError (inspect : NetError → Causes) (e : NetError) : Bool :=
  match e.context.httpTimeoutPhase with
  | some phase =>
    if phase ∈ [.admission, .total] then false else phase ∈ policy.retryOn.timeoutPhases
  | none =>
    match (trustedRetryReason inspect e).or (fallbackRetryReason e) with
    | none => false
    | some reason =>
      policy.retryOn.allows reason ||
        (reason = .bodyRead && TransportErrorKind.bodyRead ∈ policy.retryOn.transport)

end HttpRetryPolicy

end OpenNet.Http
