import OpenNet.Foundation.Machine
import OpenNet.Http.RetryPolicy

/-!
# The retry loops of HTTP requests

Model of `run_request` and of `open_stream_after_admission` with its caller
(`src/module/http/http_client_inner.rs`), of the `RetryObserverLifecycle` both loops drive and
of `StreamOwner::complete` (`src/module/http/http_stream_body.rs`).

A loop suspends while an attempt is in flight, while it waits for a retry and, in streaming
mode, while the caller reads the body.  Each stretch between two suspensions is one step.  What the
stretch asks of the rest of the program is its argument: the answers of budgets and cancellation,
the outcome of the exchange, the classifier's decision, the authentication provider's action.

The two loops are written out separately, as in the source.  `calls` lists the calls of the
lifecycle; `escape` is a `?` that leaves the loop without ending the lifecycle, whose destructor
then ends it.  A failure before the loop is one of the loop's first check.
-/

namespace OpenNet.Http

open OpenNet.Ws (RetrySchedule RetryState RetryDecision)

/-! ## What a loop reads -/

/-- A logical request; `auth`: a provider is installed. -/
structure RetryRequest where
  policy : HttpRetryPolicy
  method : Method
  replayable : Bool := true
  auth : Bool := false
  inspect : NetError → Causes := fun _ => {}

structure ResponseHead where
  status : Nat
  /-- `parse_retry_after` of its headers. -/
  retryAfter : Option Nat := none
  /-- The provider may be asked: no redirect left the origin it was applied at. -/
  authAllowed : Bool := false
  deriving DecidableEq, Repr

inductive AuthAction where
  | retryWithFreshCredentials | doNotRetry
  deriving DecidableEq, Repr

/-- The statistics a report samples besides the state of the loop. -/
structure Reading where
  elapsed : Nat := 0
  transportSends : Nat := 0
  deriving DecidableEq, Repr

/-- The answers at the top: the total and the attempt's budget, and when streaming the total again.
-/
structure Begin where
  total : Option NetError := none
  attempt : Option NetError := none
  started : Option NetError := none
  reading : Reading := {}
  deriving DecidableEq, Repr

/-- One attempt. `headers` and `body` are failures of the headers budget and the buffered body,
`classified` the budget after the classifier, `opening` and `delivering` failures before and after
the stream owns the lifecycle. -/
structure Exchange where
  headers : Option NetError := none
  outcome : Except NetError ResponseHead
  body : Option NetError := none
  decision : Option RetryDecision := some .default
  classified : Option NetError := none
  unauthorized : Except NetError AuthAction := .ok .doNotRetry
  opening : Option NetError := none
  delivering : Option NetError := none
  reading : Reading := {}

/-- `scheduled` and `check` are the total budget before and after a wait. -/
structure Wait where
  scheduled : Option NetError := none
  waited : Bool := true
  cancelled : Bool := false
  check : Option NetError := none
  reading : Reading := {}
  deriving DecidableEq, Repr

/-! ## The lifecycle -/

/-- A call of the lifecycle, as far as anyone can observe it. -/
inductive LifecycleCall where
  | attemptStarted (attempt : Nat)
  | retryScheduled (attempt delay : Nat)
  | emitTerminal (attempt : Option Nat) (report : RetryReport)
  deriving DecidableEq, Repr

/-- `reported`: an error carries the lifecycle's report. -/
inductive LoopStage where
  | ready | running
  | waiting (auth : Bool)
  | body (status : Nat) (exhausted : Bool)
  | done (result : Except NetError Nat) (reported : Bool)
  | dropped

/-- A loop: lifecycle, flags, where it is and what it did. -/
structure RetryLoop where
  state : RetryState
  currentAttempt : Option Nat := none
  completed : Bool := false
  authRetryUsed : Bool := false
  authDoNotRetry : Bool := false
  statusStopReason : Option RetryStopReason := none
  stage : LoopStage := .ready
  /-- The attempts after which the provider's fresh credentials were tried. -/
  authRetries : List Nat := []
  calls : List LifecycleCall := []

namespace RetryLoop

def call (s : RetryLoop) (c : LifecycleCall) : RetryLoop := { s with calls := s.calls ++ [c] }

/-- `attempt_started`. -/
def attemptStarted (policy : HttpRetryPolicy) (s : RetryLoop) : Except NetError RetryLoop :=
  match s.state.beginAttempt policy.schedule with
  | .error e => .error (retryStateError e)
  | .ok (attempt, state) =>
    .ok ({ s with state, currentAttempt := some attempt }.call (.attemptStarted attempt))

/-- `retry_scheduled`. -/
def retryScheduled (s : RetryLoop) (attempt delay : Nat) : RetryLoop :=
  { s with currentAttempt := none }.call (.retryScheduled attempt delay)

/-- `report`. -/
def report (s : RetryLoop) (reading : Reading) : RetryReport :=
  { s.state.report reading.elapsed with transportSends := reading.transportSends }

/-- `stop`. -/
def stop (s : RetryLoop) (reason : RetryStopReason) : RetryLoop :=
  { s with state := s.state.finish reason }

/-- `emit_terminal` after the first reason was chosen. -/
def emitTerminal (s : RetryLoop) (reading : Reading) (reason : RetryStopReason) : RetryLoop :=
  if s.completed then s
  else
    let s := { s with completed := true }.stop reason
    { s with currentAttempt := none }.call (.emitTerminal s.currentAttempt (s.report reading))

/-- `complete_summary`. -/
def completeSummary (s : RetryLoop) (reading : Reading) (result : Except NetError Nat)
    (exhausted : Bool) : RetryLoop :=
  s.emitTerminal reading <| match result with
    | .error e => stopForError e
    | .ok status =>
      if 200 ≤ status ∧ status < 300 then .completed
      else if exhausted then .attemptsExhausted
      else .notRetryable

/-- A `?` out of `run_request`: the lifecycle's `Drop` ends it. -/
def escape (s : RetryLoop) (reading : Reading) (e : NetError) : RetryLoop :=
  { s.emitTerminal reading .cancelled with stage := .done (.error e) false }

/-! ## Buffered requests -/

/-- `finish_http_result`. -/
def finishHttpResult (s : RetryLoop) (reading : Reading) (result : Except NetError Nat)
    (reason : RetryStopReason) : RetryLoop :=
  { (s.stop reason).completeSummary reading result false with stage := .done result true }

/-- `terminal_error`. -/
def terminalError (s : RetryLoop) (reading : Reading) (e : NetError) : RetryLoop :=
  s.finishHttpResult reading (.error e) (stopForError e)

namespace Buffered

variable (req : RetryRequest)

def retryAllowed : Bool := req.policy.allowsMethod req.method req.replayable

/-- `run_request` up to the attempt. -/
def begin (s : RetryLoop) (b : Begin) : RetryLoop :=
  match b.total with
  | some e => s.terminalError b.reading e
  | none =>
    if 0 < s.state.attempts && !req.replayable then
      s.terminalError b.reading ((NetError.new .bodyNotReplayable).withStage .requestBuild)
    else match s.attemptStarted req.policy with
      | .error e => s.escape b.reading e
      | .ok s =>
        match b.attempt with
        | some e => s.escape b.reading e
        | none => { s with stage := .running }

/-- Whether the provider asks for a retry after a 401. -/
def authorize (s : RetryLoop) (result : Except NetError ResponseHead)
    (unauthorized : Except NetError AuthAction) : Except NetError (RetryLoop × Bool) :=
  match result with
  | .error _ => .ok (s, false)
  | .ok head =>
    if head.status = 401 && !s.authRetryUsed && head.authAllowed && retryAllowed req &&
        s.state.canRetry req.policy.schedule && req.auth then
      match unauthorized with
      | .error e => .error e
      | .ok .retryWithFreshCredentials => .ok ({ s with authRetryUsed := true }, true)
      | .ok .doNotRetry => .ok ({ s with authDoNotRetry := true }, false)
    else .ok (s, false)

/-- Whether another attempt is asked for. -/
def requested (s : RetryLoop) (result : Except NetError ResponseHead) (decision : RetryDecision)
    (authRetry : Bool) : Bool :=
  let blockedAuth := !authRetry && (s.authRetryUsed || s.authDoNotRetry) &&
    match result with
    | .ok head => head.status = 401
    | .error _ => false
  authRetry || (!blockedAuth &&
    match decision with
    | .retry => true
    | .stop => false
    | .default =>
      match result with
      | .ok head => req.policy.shouldRetryStatus head.status
      | .error e => req.policy.shouldRetryError req.inspect e)

/-- `run_request` after the classifier. -/
def decide (s : RetryLoop) (reading : Reading) (result : Except NetError ResponseHead)
    (serverDelay : Option Nat) (decision : RetryDecision) (authRetry : Bool) : RetryLoop :=
  let final := result.map ResponseHead.status
  if requested req s result decision authRetry = false then
    s.finishHttpResult reading final <| match final with
      | .ok status => if 200 ≤ status ∧ status < 300 then .completed else .notRetryable
      | .error e => stopForError e
  else if retryAllowed req = false then s.finishHttpResult reading final .unsafeToReplay
  else if s.state.canRetry req.policy.schedule = false then
    s.finishHttpResult reading final .attemptsExhausted
  else
    match s.state.nextDelay req.policy.schedule with
    | (.error e, state) => { s with state }.escape reading (retryStateError e)
    | (.ok none, state) => { s with state }.finishHttpResult reading final .attemptsExhausted
    | (.ok (some base), state) =>
      let delay := req.policy.retryAfter.select serverDelay base
      { { s with state }.retryScheduled state.attempts delay with
        stage := .waiting authRetry
        authRetries := if authRetry then s.authRetries ++ [state.attempts] else s.authRetries }

/-- `read_response`. -/
def readResponse (x : Exchange) : Except NetError ResponseHead :=
  match x.outcome, x.body with
  | .ok _, some e => .error e
  | outcome, _ => outcome

/-- `Retry-After`, which is read before the body. -/
def serverDelay (x : Exchange) : Option Nat :=
  match x.outcome with
  | .ok head => head.retryAfter
  | .error _ => none

def ineligible (result : Except NetError ResponseHead) : Option NetError :=
  match result with
  | .error e => if retryErrorIsEligible e then none else some e
  | .ok _ => none

/-- `run_request` after the attempt. -/
def settle (s : RetryLoop) (x : Exchange) : RetryLoop :=
  match x.headers with
  | some e => s.escape x.reading e
  | none =>
    let result := readResponse x
    match ineligible result with
    | some e => s.terminalError x.reading e
    | none =>
      match req.policy.classify x.decision with
      | .error e => s.terminalError x.reading e
      | .ok decision =>
        match x.classified with
        | some e => s.terminalError x.reading e
        | none =>
          if decision = .stop then
            s.finishHttpResult x.reading (result.map ResponseHead.status) .classifierStopped
          else match authorize req s result x.unauthorized with
            | .error e => s.terminalError x.reading e
            | .ok (s, authRetry) =>
              decide req s x.reading result (serverDelay x) decision authRetry

/-- `run_request` after a wait. -/
def resume (s : RetryLoop) (w : Wait) : RetryLoop :=
  if w.waited then { s with stage := .ready }
  else s.terminalError w.reading <|
    if w.cancelled then (NetError.new .cancelled).withStage .receive
    else ((NetError.new .deadlineExceeded).withTimeoutPhase .total).withStage .receive

end Buffered

/-! ## Streaming requests -/

namespace Streaming

variable (req : RetryRequest)

/-- An error reaches the caller, who completes the owner. -/
def fail (s : RetryLoop) (reading : Reading) (e : NetError) : RetryLoop :=
  { s.completeSummary reading (.error e) false with stage := .done (.error e) true }

def allowed : Bool := req.policy.allowsMethod req.method true

def retryAllowed : Bool := decide (1 < req.policy.schedule.maxAttempts) && allowed req

/-- `open_stream_after_admission` up to the attempt. -/
def begin (s : RetryLoop) (b : Begin) : RetryLoop :=
  match b.total with
  | some e => fail s b.reading e
  | none =>
    match s.attemptStarted req.policy with
    | .error e => fail s b.reading e
    | .ok s =>
      match b.attempt with
      | some e => fail s b.reading e
      | none =>
        match b.started with
        | some e => fail s b.reading e
        | none => { s with stage := .running }

/-- `stream_retry_delay`, then `retry_scheduled`. -/
def schedule (s : RetryLoop) (reading : Reading) (server : Option Nat) (auth : Bool) : RetryLoop :=
  match s.state.nextDelay req.policy.schedule with
  | (.error e, state) => fail { s with state } reading (retryStateError e)
  | (.ok none, state) => fail { s with state } reading (NetError.new .internal)
  | (.ok (some base), state) =>
    let delay := req.policy.retryAfter.select server base
    { { s with state }.retryScheduled state.attempts delay with
      stage := .waiting auth
      authRetries := if auth then s.authRetries ++ [state.attempts] else s.authRetries }

/-- The head of a response whose body goes to the caller. -/
def deliver (s : RetryLoop) (x : Exchange) (status : Nat) (blocked : Bool) : RetryLoop :=
  let last := s.state.attempts == req.policy.schedule.maxAttempts
  let statusStopReason :=
    if req.policy.shouldRetryStatus status && !blocked then
      some <| if allowed req = false then .unsafeToReplay
        else if last then .attemptsExhausted
        else .notRetryable
    else s.statusStopReason
  let s := { s with statusStopReason }
  match x.opening with
  | some e => fail s x.reading e
  | none =>
    match x.delivering with
    | some e =>
      -- The stream that is dropped owns the lifecycle already.
      { s.emitTerminal x.reading .cancelled with stage := .done (.error e) true }
    | none => { s with stage := .body status (last && req.policy.shouldRetryStatus status) }

/-- The verdict on a streaming attempt. -/
def decide (s : RetryLoop) (x : Exchange) : RetryLoop :=
  let before := s.state.attempts < req.policy.schedule.maxAttempts
  match x.outcome with
  | .ok head =>
    let blocked := (s.authRetryUsed || s.authDoNotRetry) && head.status == 401
    if retryAllowed req && before && req.policy.shouldRetryStatus head.status && !blocked then
      schedule req s x.reading head.retryAfter false
    else deliver req s x head.status blocked
  | .error e =>
    let retryable := retryErrorIsEligible e && req.policy.shouldRetryError req.inspect e
    if retryAllowed req && before && retryable &&
        e.context.httpTimeoutPhase ∉ [some .admission, some .total] then
      schedule req s x.reading none false
    else
      let s := if retryable then
          s.stop (if allowed req = false then .unsafeToReplay else .attemptsExhausted)
        else s
      fail s x.reading e

/-- `open_stream_after_admission` after the attempt. -/
def settle (s : RetryLoop) (x : Exchange) : RetryLoop :=
  match x.headers with
  | some e => fail s x.reading e
  | none =>
    match x.outcome with
    | .error _ => decide req s x
    | .ok head =>
      if head.status = 401 && !s.authRetryUsed && head.authAllowed && allowed req &&
          s.state.attempts < req.policy.schedule.maxAttempts && req.auth then
        match x.unauthorized with
        | .error e => fail s x.reading e
        | .ok .retryWithFreshCredentials =>
          schedule req { s with authRetryUsed := true } x.reading head.retryAfter true
        | .ok .doNotRetry => decide req { s with authDoNotRetry := true } x
      else decide req s x

/-- `open_stream_after_admission` after a wait. -/
def resume (s : RetryLoop) (auth : Bool) (w : Wait) : RetryLoop :=
  match if auth then none else w.scheduled with
  | some e => fail s w.reading e
  | none =>
    if w.waited then { s with stage := .ready }
    else match w.check with
      | some e => fail s w.reading e
      | none =>
        -- The branch of the provider's retry goes on without a second look at the deadline.
        if auth then { s with stage := .ready }
        else fail s w.reading
          (((NetError.new .deadlineExceeded).withTimeoutPhase .total).withStage .receive)

/-- `StreamOwner::complete`: the head's reason is only for a read body. -/
def finishBody (s : RetryLoop) (reading : Reading) (status : Nat) (exhausted : Bool)
    (error : Option NetError) : RetryLoop :=
  let result : Except NetError Nat := match error with
    | some e => .error e
    | none => .ok status
  let s := match error, s.statusStopReason with
    | none, some reason => { s with statusStopReason := none }.stop reason
    | _, _ => s
  { s.completeSummary reading result exhausted with stage := .done result true }

end Streaming

/-! ## Steps -/

inductive Mode where
  | buffered | streaming
  deriving DecidableEq, Repr

/-- A stretch of a loop, or its drop. -/
inductive LoopAction where
  | begin (b : Begin)
  | settle (x : Exchange)
  | resume (w : Wait)
  | finishBody (error : Option NetError) (reading : Reading)
  | drop (reading : Reading)

/-- A loop goes on where it is suspended; other actions do nothing. -/
def step (req : RetryRequest) (mode : Mode) (s : RetryLoop) (a : LoopAction) : RetryLoop :=
  match s.stage, a with
  | .ready, .begin b =>
    match mode with
    | .buffered => Buffered.begin req s b
    | .streaming => Streaming.begin req s b
  | .running, .settle x =>
    match mode with
    | .buffered => Buffered.settle req s x
    | .streaming => Streaming.settle req s x
  | .waiting auth, .resume w =>
    match mode with
    | .buffered => Buffered.resume s w
    | .streaming => Streaming.resume s auth w
  | .body status exhausted, .finishBody error reading =>
    Streaming.finishBody s reading status exhausted error
  | .done _ _, .drop _ => s
  | .dropped, .drop _ => s
  | _, .drop reading => { s.emitTerminal reading .cancelled with stage := .dropped }
  | _, _ => s

/-- `new`. -/
def new (random : UInt64) : RetryLoop := { state := { random } }

def delays (s : RetryLoop) : List Nat :=
  s.calls.filterMap fun
    | .retryScheduled _ delay => some delay
    | _ => none

/-- The reported reason; `process_job` takes the kind of an unreported error. -/
def stopReason (s : RetryLoop) : Option RetryStopReason :=
  match s.stage with
  | .done (.error e) false => some (stopForError e)
  | _ => s.state.stopReason

end RetryLoop

end OpenNet.Http
