import OpenNet.Ws.Retry

/-!
# The control of one operation

Model of `src/module/ws_client/operation_control.rs`, with `timeout_budget.rs` and the types
of `src/api/ws/operation.rs` and `task.rs`.  One `OperationControl` is the single state and
completion authority that the writer, the reader, timers and callers share.

Every critical section of the control's lock is one function from the state before to the
state after; one clock reading stands for all those of a section.  Side effects selected under the
lock are returned as an `OperationPublication`, to be dispatched after every lock was released.
-/

namespace OpenNet.Ws

/-! ## Vocabulary -/

/-- How far an operation has come. -/
inductive OperationPhase where
  | waitingForCapacity | prepared | queued | writing | awaitingResponse | finished
  deriving DecidableEq, Repr

/-- How far the data of an operation is known to have come. -/
inductive DeliveryEvidence where
  | notStarted | unknown | written | responseConfirmed
  deriving DecidableEq, Repr

/-- What an operation succeeds with. -/
inductive TaskSuccess where
  | written | responseReceived
  deriving DecidableEq, Repr

/-- What a termination finds. -/
inductive TerminationOutcome where
  | terminatedBeforeWrite | terminatedAfterWrite | deliveryUnknown | alreadyFinished
  deriving DecidableEq, Repr

/-- Why an operation ended. -/
inductive TaskEndCause where
  | completed | cancelled | expired | disconnected | shutdown | failed
  deriving DecidableEq, Repr

inductive MessageLane where
  | normal | urgent
  deriving DecidableEq, Repr

/-- A message of the application; text is its UTF-8 encoding. -/
inductive Message where
  | text (payload : List UInt8)
  | binary (payload : List UInt8)
  deriving DecidableEq, Repr

def Message.len : Message → Nat
  | .text payload => payload.length
  | .binary payload => payload.length

abbrev RequestId := String

/-- What an operation is. -/
inductive TaskSource where
  | requestOperation (metadata : List (String × String))
  | message (message : Message)
  | request (id : RequestId) (message : Message) (metadata : List (String × String))
  deriving DecidableEq, Repr

/-- What the observer of retries hears. -/
inductive RetryEvent where
  | attemptStarted (attempt : Nat)
  | attemptFinished (attempt : Nat) (final : Bool)
  | retryScheduled (attempt delay : Nat)
  | completed (report : RetryReport)
  deriving DecidableEq, Repr

abbrev OperationResult := Except NetError TaskSuccess

/-- The published end of an operation. -/
structure TaskEvent where
  clientId : Nat
  sessionId : Nat
  operationId : Nat
  connectionId : Option Nat
  source : TaskSource
  lane : MessageLane
  phase : OperationPhase
  delivery : DeliveryEvidence
  cause : TaskEndCause
  result : OperationResult

/-! ## Deadlines -/

/-- A deadline and its phase. -/
structure TimeoutBudget where
  instant : Nat
  phase : WsTimeoutPhase
  deriving DecidableEq, Repr

namespace TimeoutBudget

/-- `TimeoutBudget::earlier`: the left one wins equal deadlines. -/
def earlier : Option TimeoutBudget → Option TimeoutBudget → Option TimeoutBudget
  | some left, some right => some (if left.instant ≤ right.instant then left else right)
  | some left, none => some left
  | none, right => right

/-- `timeout_error`. -/
def timeoutError (budget : TimeoutBudget) : NetError :=
  (NetError.new .timedOut).withWsTimeoutPhase budget.phase

end TimeoutBudget

/-- `earliest`. -/
def earliest : Option Nat → Option Nat → Option Nat
  | some left, some right => some (min left right)
  | some left, none => some left
  | none, right => right

def due (deadline : Option Nat) (now : Nat) : Bool := deadline.any (· ≤ now)

/-! ## Configuration and state -/

/-- What never changes. A tracked operation has no send retry policy: `new_with_deadline_phase`
drops it. -/
structure OperationConfig where
  clientId : Nat
  sessionId : Nat
  id : Nat
  lane : MessageLane
  tracked : Bool
  retryPolicy : Option WsSendRetryPolicy
  deadline : Option Nat
  deadlinePhase : WsTimeoutPhase
  /-- The operation belongs to a cancellation group. -/
  group : Bool
  tracked_noRetry : tracked → retryPolicy = none

/-- The entry of the pending table an operation is bound to. -/
structure PendingIdentity where
  id : RequestId
  token : Nat
  deriving DecidableEq, Repr

/-- The fields behind the control's lock. -/
structure OperationState where
  phase : OperationPhase := .waitingForCapacity
  delivery : DeliveryEvidence := .notStarted
  result : Option OperationResult := none
  connection : Option Nat := none
  responseDeadline : Option Nat := none
  /-- The source of the task event that is still reserved. -/
  observation : Option TaskSource
  queue : Option MessageLane := none
  pending : Option PendingIdentity := none
  /-- The connection whose write retirement is bound. -/
  retirement : Option Nat := none
  hook : Bool := false
  dataInFlight : Bool := false
  retry : RetryState
  retryStarted : Nat
  retryReport : Option RetryReport := none
  retryStop : Option RetryStopReason := none
  retryAttemptOpen : Bool := false

/-- What a critical section reads from outside. -/
structure View where
  now : Nat
  groupCancelled : Bool := false
  tokenCancelled : Bool := false

/-- The side effects a section has selected. -/
structure OperationPublication where
  task : Option TaskEvent := none
  cancelled : Bool := false
  written : Bool := false
  retirement : Option Nat := none
  /-- Remove the operation from this queue, with this error. -/
  queue : Option (Option MessageLane × NetError) := none
  hook : Bool := false
  retiredError : Option NetError := none
  retry : Option (Option RetryEvent × RetryEvent) := none

variable (cfg : OperationConfig) (v : View)

namespace OperationConfig

def schedule : RetrySchedule :=
  match cfg.retryPolicy with
  | some policy => policy.schedule
  | none => .noRetry

/-- `RetryObserverHandle::notify` has somebody to tell. -/
def observed : Bool := cfg.retryPolicy.any (·.observer)

/-- `raw_replay_allowed`. -/
def rawReplayAllowed : Bool :=
  !cfg.tracked && cfg.retryPolicy.any (·.allowsReplay)

/-- `absolute_budget`. -/
def absoluteBudget : Option TimeoutBudget :=
  cfg.deadline.map fun instant => ⟨instant, cfg.deadlinePhase⟩

/-- What `lock_if_active` refuses. -/
def groupCancelled : Bool := cfg.group && v.groupCancelled

end OperationConfig

namespace OperationState

/-- `new_with_deadline_phase`. -/
def new (source : TaskSource) (random : UInt64) (now : Nat) : OperationState where
  observation := some source
  retry := { random }
  retryStarted := now

/-! ## Reads -/

variable (s : OperationState)

/-- `is_finished`. -/
def isFinished : Bool := s.result.isSome

/-- `response_confirmed`. -/
def responseConfirmed : Bool := s.delivery = .responseConfirmed

/-- `selected_error`. -/
def selectedError : Option NetError :=
  match s.result with
  | some (.error e) => some e
  | _ => none

/-- `deadline`. -/
def deadline : Option Nat :=
  earliest cfg.deadline s.responseDeadline

/-- `budget`. -/
def budget : Option TimeoutBudget :=
  TimeoutBudget.earlier cfg.absoluteBudget
    (s.responseDeadline.map fun instant => ⟨instant, .response⟩)

/-- `timeout_error_until`: the response budget is named only if it ended first. -/
def timeoutErrorUntil (deadline : Option Nat) : NetError :=
  let phase := match deadline, s.responseDeadline with
    | some deadline, some response =>
      if deadline = response ∧ (cfg.deadline.all fun absolute => response < absolute) then
        .response
      else cfg.deadlinePhase
    | _, _ => cfg.deadlinePhase
  (NetError.new .timedOut).withWsTimeoutPhase phase

/-- `deadline_error`. -/
def deadlineError : NetError :=
  s.timeoutErrorUntil cfg (s.deadline cfg)

/-- `check_active_until`. -/
def checkActiveUntil (deadline : Option Nat) : Except NetError Unit :=
  match s.result with
  | some (.error e) => .error e
  | some (.ok _) => .error (NetError.new .closed)
  | none =>
    if cfg.groupCancelled v || v.tokenCancelled then .error (NetError.new .cancelled)
    else if due deadline v.now then .error (s.timeoutErrorUntil cfg deadline)
    else .ok ()

/-- `check_active`. -/
def checkActive : Except NetError Unit :=
  s.checkActiveUntil cfg v (s.deadline cfg)

/-! ## Admission and writing -/

/-- `set_retry_started`. -/
def setRetryStarted (started : Nat) : OperationState :=
  if s.retry.attempts = 0 ∧ s.retryReport.isNone then { s with retryStarted := started } else s

/-- `set_response_deadline`. -/
def setResponseDeadline (deadline : Option Nat) : OperationState :=
  { s with responseDeadline := deadline }

/-- `bind_queue`. -/
def bindQueue (queue : MessageLane) : OperationState :=
  { s with queue := some queue }

/-- `bind_cancellation`. -/
def bindHook : OperationState :=
  if s.result.isNone then { s with hook := true } else s

/-- `bind_request`. -/
def bindRequest (identity : PendingIdentity) : Except NetError OperationState :=
  match s.checkActive cfg v with
  | .error e => .error e
  | .ok () =>
    if s.pending.isSome then .error (NetError.new .internal)
    else .ok { s with pending := some identity }

/-- `prepare`. -/
def prepare : Except NetError OperationState :=
  match s.checkActive cfg v with
  | .error e => .error e
  | .ok () =>
    if s.phase = .waitingForCapacity then .ok { s with phase := .prepared }
    else .error (NetError.new .internal)

/-- `enqueue`. -/
def enqueue : Except NetError OperationState :=
  match s.checkActive cfg v with
  | .error e => .error e
  | .ok () =>
    if s.phase = .prepared ∨ s.phase = .waitingForCapacity then .ok { s with phase := .queued }
    else .error (NetError.new .invalidInput)

/-- `mark_writing`. -/
def markWriting (connection : Nat) : Bool × OperationState :=
  if (s.checkActive cfg v).isOk && s.phase = .queued then
    (true, { s with phase := .writing, connection := some connection })
  else (false, s)

def policyError (e : RetryStateError) : NetError := NetError.withForeign .invalidPolicy e.message

/-- `begin_write_attempt`, with the observer's event. -/
def beginWriteAttempt : Except NetError (Option RetryEvent) × OperationState :=
  if cfg.tracked || s.retryAttemptOpen || s.result.isSome then (.ok none, s)
  else match s.checkActiveUntil cfg v cfg.deadline with
    | .error e => (.error e, s)
    | .ok () => match s.retry.beginAttempt cfg.schedule with
      | .error e => (.error (policyError e), s)
      | .ok (attempt, retry) =>
        (.ok (if cfg.observed then some (.attemptStarted attempt) else none),
          { s with retry, retryAttemptOpen := true })

/-- `start_data_write`, first section: the pending table refreshes an expired response deadline. -/
def startDataWritePeek : Option PendingIdentity :=
  if s.result.isNone && due s.responseDeadline v.now then s.pending else none

/-- A response settled the request; its message may be finished. -/
def confirmedContinuation (continuation : Bool) : Bool :=
  continuation && s.delivery = .responseConfirmed &&
    match s.result with
    | some (.ok .responseReceived) => true
    | _ => false

/-- `start_data_write`: the first data of an attempt. -/
def recordFirstData : Except NetError (Option RetryEvent) × OperationState :=
  let opened : Except NetError (Option Nat) × OperationState :=
    if s.retryAttemptOpen then (.ok none, s)
    else match s.retry.beginAttempt cfg.schedule with
      | .error e => (.error (policyError e), s)
      | .ok (attempt, retry) => (.ok (some attempt), { s with retry, retryAttemptOpen := true })
  match opened with
  | (.error e, s) => (.error e, s)
  | (.ok started, s) => match s.retry.recordTransportSend with
    | .error e => (.error (policyError e), s)
    | .ok retry =>
      (.ok (if cfg.observed then started.map .attemptStarted else none), { s with retry })

def markInFlight : OperationState :=
  { s with
    dataInFlight := true
    delivery := if s.delivery = .notStarted then .unknown else s.delivery }

/-- `start_data_write`, last section: whether the frame may enter the sink, and the event. -/
def startDataWrite (continuation : Bool) :
    Except NetError Bool × Option RetryEvent × OperationState :=
  -- A cancelled group is refused before the control's lock is taken.
  if cfg.groupCancelled v then (.ok false, none, s)
  else
    let confirmed := s.confirmedContinuation continuation
    if confirmed || ((s.checkActiveUntil cfg v cfg.deadline).isOk && s.phase = .writing) then
      if s.dataInFlight || confirmed then (.ok true, none, s.markInFlight)
      else match s.recordFirstData cfg with
        | (.error e, s) => (.error e, none, s)
        | (.ok event, s) => (.ok true, event, s.markInFlight)
    else (.ok false, none, s)

/-- `bind_write_retirement`, and whether the connection has to go at once. -/
def bindWriteRetirement (connection : Nat) : Bool × OperationState :=
  (s.dataInFlight && s.selectedError.isSome, { s with retirement := some connection })

/-- `requeue`. -/
def requeue : Bool × OperationState :=
  if (s.checkActive cfg v).isOk && s.phase = .writing then
    (true, { s with phase := .queued, dataInFlight := false, retirement := none })
  else (false, s)

/-! ## Replaying a failed send -/

/-- `raw_retry_after`: an answer, or a question to the classifier. -/
inductive RawRetry where
  | answer (result : Except NetError (Option Nat))
  | classify (policy : WsSendRetryPolicy)

/-- `raw_retry_after`, first section. -/
def rawRetryBegin (error : NetError) : RawRetry × OperationState :=
  match s.checkActive cfg v with
  | .error e => (.answer (.error e), s)
  | .ok () =>
    if cfg.tracked || s.retry.attempts = 0 then (.answer (.ok none), s)
    else match cfg.retryPolicy with
      | none => (.answer (.ok none), { s with retryStop := some .disabled })
      | some policy =>
        if terminalError error then
          (.answer (.ok none), { s with retryStop := some .notRetryable })
        else (.classify policy, s)

/-- Why a classified failure is not replayed. -/
def rawRetryStop (policy : WsSendRetryPolicy) (error : NetError)
    (decision : Except NetError RetryDecision) : Option RetryStopReason :=
  match decision with
  | .error _ => some .policyFailed
  | .ok .stop => some .classifierStopped
  | .ok d =>
    if d = .default ∧ policy.shouldRetryError error = false then some .notRetryable
    else if s.retry.canRetry cfg.schedule = false then some .attemptsExhausted
    else if policy.allowsReplay = false then some .unsafeToReplay
    else none

/-- `raw_retry_after`, second section, with the events. -/
def rawRetryDecide (policy : WsSendRetryPolicy) (error : NetError)
    (decision : Except NetError RetryDecision) :
    Except NetError (Option Nat) × List RetryEvent × OperationState :=
  match s.checkActive cfg v with
  | .error e => (.error e, [], s)
  | .ok () => match s.rawRetryStop cfg policy error decision with
    | some stop => (.ok none, [], { s with retryStop := some stop })
    | none => match s.retry.nextDelay cfg.schedule with
      | (.error e, retry) => (.error (policyError e), [], { s with retry })
      | (.ok delay, retry) =>
        let events := match delay with
          | some delay =>
            if policy.observer then
              (if s.retryAttemptOpen then [.attemptFinished retry.attempts false] else []) ++
                [.retryScheduled retry.attempts delay]
            else []
          | none => []
        (.ok delay, events, { s with retry, retryAttemptOpen := false })

/-! ## Terminal selection -/

/-- Why the retry budget stops when the operation ends with a cause. -/
def stopReason :
    TaskEndCause → RetryStopReason
  | .completed => .completed
  | .cancelled => .cancelled
  | .expired => if due cfg.deadline v.now then .timedOut else s.retryStop.getD .timedOut
  | .shutdown => .shutdown
  | _ => s.retryStop.getD .notRetryable

/-- `finish_locked`: the only place that sets the result. -/
def finishLocked (result : OperationResult) (cause : TaskEndCause) (p : OperationPublication) :
    OperationPublication × OperationState :=
  let retry := s.retry.finish (s.stopReason cfg v cause)
  let report := retry.report (v.now - s.retryStarted)
  let result := result.mapError (·.withRetryReport report)
  let attempt := if s.retryAttemptOpen then some (.attemptFinished report.attempts true) else none
  let event := s.observation.map fun source =>
    { clientId := cfg.clientId, sessionId := cfg.sessionId, operationId := cfg.id,
      connectionId := s.connection, source, lane := cfg.lane, phase := s.phase,
      delivery := s.delivery, cause, result : TaskEvent }
  ({ p with
      task := event
      hook := s.hook
      retry := if cfg.observed then some (attempt, .completed report) else none },
    { s with
      retry
      retryAttemptOpen := if cfg.observed then false else s.retryAttemptOpen
      retryReport := some report
      result := some result
      phase := .finished
      observation := none
      hook := false })

/-- The stage a failure is attributed to when it names none. -/
def phaseStage : OperationPhase → ErrorStage
  | .waitingForCapacity => .admission
  | .prepared | .queued => .queue
  | .writing => .write
  | .awaitingResponse => .response
  | .finished => .dispatch

/-- The selected error: identified, and `DeliveryUnknown` where it is. -/
def failureError (error : NetError) : NetError :=
  let context := { error.context with
    clientId := some cfg.clientId
    sessionId := some cfg.sessionId
    connectionId := s.connection.or error.context.connectionId
    requestId := (s.pending.map (·.id)).or error.context.requestId
    stage := error.context.stage.or (some (phaseStage s.phase)) }
  let error := error.withContext context
  if s.delivery = .unknown ∧ error.kind ≠ .deliveryUnknown then
    (NetError.withSource .deliveryUnknown error).withContext context
  else error

def terminationOutcome : DeliveryEvidence → TerminationOutcome
  | .notStarted => .terminatedBeforeWrite
  | .unknown => .deliveryUnknown
  | .written | .responseConfirmed => .terminatedAfterWrite

/-- `select_failure_locked`. -/
def selectFailure (error : NetError) (cause : TaskEndCause) :
    TerminationOutcome × OperationPublication × OperationState :=
  if s.result.isSome then (.alreadyFinished, { retiredError := some error }, s)
  else
    let selected := s.failureError cfg error
    let (p, finished) := s.finishLocked cfg v (.error selected) cause
      { retiredError := some error
        retirement := if s.dataInFlight then s.retirement else none
        cancelled := true
        queue := some (s.queue, selected)
        written := true }
    (terminationOutcome s.delivery, p, finished)

/-- A decision, or a failure selected after the lock. -/
inductive Selection where
  | decided (won : Bool) (p : OperationPublication) (s : OperationState)
  | failing (error : NetError) (cause : TaskEndCause)

/-- What `select_written` and `select_response` check first. -/
def selectSuccess (settled : Bool) (win : OperationPublication × OperationState) : Selection :=
  if cfg.groupCancelled v then .failing (NetError.new .cancelled) .cancelled
  else if s.result.isSome then .decided settled {} s
  else match s.checkActive cfg v with
    | .error e => .failing e .expired
    | .ok () => .decided true win.1 win.2

/-- `select_written`. -/
def selectWritten : Selection :=
  let written := { s with delivery := .written, dataInFlight := false }
  s.selectSuccess cfg v s.responseConfirmed
    (if cfg.tracked then ({ written := true }, { written with phase := .awaitingResponse })
    else written.finishLocked cfg v (.ok .written) .completed { written := true })

/-- `select_response`. -/
def selectResponse : Selection :=
  let confirmed := { s with delivery := .responseConfirmed, dataInFlight := false }
  s.selectSuccess cfg v false
    (confirmed.finishLocked cfg v (.ok .responseReceived) .completed { written := true })

def complete :
    Selection → Bool × OperationPublication × OperationState
  | .decided won p s' => (won, p, s')
  | .failing error cause => (false, (s.selectFailure cfg v error cause).2)

end OperationState

end OpenNet.Ws
