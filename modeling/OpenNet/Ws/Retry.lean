import OpenNet.Error
import OpenNet.Foundation.Checked

/-!
# Retry budgets of WebSocket sends

Model of `libs/retry/src/state.rs` and of the send policies of `src/api/ws/retry.rs`.
`RetryState` is the mutable budget of one operation; a `WsSendRetryPolicy` says whether a
failed send may be replayed at all.

Backoff and jitter only choose how long a delay is: a schedule carries them as one function
from the ordinal of a retry and a random word to a delay in nanoseconds.  A classifier is
code of the caller: its decision is an argument of the operation that asks for it.
-/

namespace OpenNet.Ws

/-! ## Schedules and budgets -/

/-- The validated bounds of a policy. -/
structure RetrySchedule where
  maxAttempts : Nat
  /-- The delay before the given retry, sampled with 53 random bits. -/
  sampledDelay : Nat → UInt64 → Except ConfigError Nat

/-- `RetrySchedule::no_retry`: no ordinal is a retry. -/
def RetrySchedule.noRetry : RetrySchedule where
  maxAttempts := 1
  sampledDelay _ _ := .error ⟨"retry_ordinal", "must be between one and max_attempts - 1"⟩

/-- Why no attempt may begin. -/
inductive RetryStateError where
  | finished | attemptsExhausted | attemptNotStarted | transportCountOverflow
  | schedule (detail : ConfigError)
  deriving DecidableEq, Repr

/-- The text of `RetryStateError`. -/
def RetryStateError.message : RetryStateError → String
  | .finished => "retry operation has already finished"
  | .attemptsExhausted => "retry attempt budget is exhausted"
  | .attemptNotStarted => "no retry attempt has started"
  | .transportCountOverflow => "transport send counter overflowed"
  | .schedule detail => detail.reason

/-- A budget; its schedule never changes and is passed along. -/
structure RetryState where
  attempts : Nat := 0
  transportSends : Nat := 0
  random : UInt64
  pendingDelay : Option Nat := none
  stopReason : Option RetryStopReason := none
  deriving DecidableEq, Repr

namespace RetryState

/-- `begin_attempt`: reserve one, the first included. -/
def beginAttempt (schedule : RetrySchedule) (s : RetryState) :
    Except RetryStateError (Nat × RetryState) :=
  if s.stopReason.isSome then .error .finished
  else if s.attempts ≥ schedule.maxAttempts then .error .attemptsExhausted
  else match Checked.checkedAdd Checked.u32Max s.attempts 1 with
    | none => .error .attemptsExhausted
    | some attempts => .ok (attempts, { s with attempts, pendingDelay := none })

/-- `can_retry`. -/
def canRetry (schedule : RetrySchedule) (s : RetryState) : Bool :=
  s.stopReason.isNone && 0 < s.attempts && s.attempts < schedule.maxAttempts

/-- SplitMix64: the next state and 53 random bits. -/
def nextUnit (random : UInt64) : UInt64 × UInt64 :=
  let random := random + 0x9E3779B97F4A7C15
  let value := (random ^^^ (random >>> 30)) * 0xBF58476D1CE4E5B9
  let value := (value ^^^ (value >>> 27)) * 0x94D049BB133111EB
  let value := value ^^^ (value >>> 31)
  (random, value >>> 11)

/-- `RetryState::next_delay`: a delay is sampled once per attempt. -/
def nextDelay (schedule : RetrySchedule) (s : RetryState) :
    Except RetryStateError (Option Nat) × RetryState :=
  if s.attempts = 0 then (.error .attemptNotStarted, s)
  else if s.canRetry schedule = false then (.ok none, s)
  else match s.pendingDelay with
    | some delay => (.ok (some delay), s)
    | none =>
      let (random, sample) := nextUnit s.random
      match schedule.sampledDelay s.attempts sample with
      | .error detail => (.error (.schedule detail), { s with random })
      | .ok delay => (.ok (some delay), { s with random, pendingDelay := some delay })

/-- `record_transport_send`. -/
def recordTransportSend (s : RetryState) : Except RetryStateError RetryState :=
  if s.stopReason.isSome then .error .finished
  else if s.attempts = 0 then .error .attemptNotStarted
  else match Checked.checkedAdd Checked.u64Max s.transportSends 1 with
    | none => .error .transportCountOverflow
    | some transportSends => .ok { s with transportSends }

/-- `RetryState::finish`: the first reason stays. -/
def finish (s : RetryState) (reason : RetryStopReason) : RetryState :=
  if s.stopReason.isSome then s else { s with stopReason := some reason, pendingDelay := none }

/-- `report`. -/
def report (s : RetryState) (elapsed : Nat) : RetryReport where
  attempts := s.attempts
  retryCount := s.attempts - 1
  transportSends := s.transportSends
  elapsed := elapsed
  stopReason := s.stopReason

end RetryState

/-! ## Classification of failed sends -/

/-- What a link names: a budget, or the stage of a timeout. -/
def causeTimeoutPhase : Cause → Option WsTimeoutPhase
  | .net kind context _ =>
    match context.wsTimeoutPhase with
    | some phase => some phase
    | none =>
      if kind = .timedOut then
        match context.stage with
        | some .write => some .write
        | some .response => some .response
        | some .admission => some .admission
        | _ => none
      else none
  | _ => none

/-- `timeout_phase`: of the error or its first 31 sources. -/
def timeoutPhase (e : NetError) : Option WsTimeoutPhase :=
  ((e.asCause :: e.sources).take 32).findSome? causeTimeoutPhase

/-- `terminal_error`: failures that no policy may replay. -/
def terminalError (e : NetError) : Bool :=
  timeoutPhase e ∈ [some .admission, some .total] ||
    e.kind ∈ [.cancelled, .closed, .engineDropped, .invalidConfig, .invalidInput,
      .invalidPolicy, .callbackPanicked, .runtimeUnavailable, .internal] ||
    e.context.stage ∈ [some .requestBuild, some .configuration] ||
    (e.context.stage = some .admission && timeoutPhase e ≠ some .attempt)

/-- Whether a message may be replayed. -/
inductive WsReplaySafety where
  | never | idempotentByContract | idempotencyKey
  deriving DecidableEq, Repr

/-- What a policy retries. -/
structure WsSendRetryOn where
  errors : List ErrorKind := []
  writeTimeout : Bool := false
  deriving DecidableEq, Repr

/-- `allows`. -/
def WsSendRetryOn.allows (on : WsSendRetryOn) (e : NetError) : Bool :=
  if terminalError e then false
  else match timeoutPhase e with
    | some .write => on.writeTimeout
    | some _ => false
    | none => e.kind ∈ on.errors

/-- What a classifier decides about one failure. -/
inductive RetryDecision where
  | default | retry | stop
  deriving DecidableEq, Repr

/-- A schedule and what it is for. -/
structure WsSendRetryPolicy where
  schedule : RetrySchedule := .noRetry
  retryOn : WsSendRetryOn := {}
  safety : WsReplaySafety := .never
  classifier : Bool := false
  observer : Bool := false

namespace WsSendRetryPolicy

/-- `allows_replay`. -/
def allowsReplay (policy : WsSendRetryPolicy) : Bool := policy.safety ≠ .never

/-- `should_retry_error`. -/
def shouldRetryError (policy : WsSendRetryPolicy) (e : NetError) : Bool := policy.retryOn.allows e

/-- `classify`; `answer` is the classifier's, `none` a panic. -/
def classify (policy : WsSendRetryPolicy) (answer : Option RetryDecision) :
    Except NetError RetryDecision :=
  if policy.classifier = false then .ok .default
  else match answer with
    | some decision => .ok decision
    | none => .error ((NetError.new .callbackPanicked).withStage .provider)

end WsSendRetryPolicy

end OpenNet.Ws
