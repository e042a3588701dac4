import OpenNet.Foundation.Machine
import OpenNet.Http.TimeoutBudget

/-!
# The body of a streaming HTTP response

Model of `src/module/http/http_stream_body.rs`.  The transport body and the owner of the
request's resources live in a state that the consumer, the supervisor and every canceller
share behind a mutex.  A poll takes the body out, polls the transport outside the lock and
hands the body back; whoever commits the terminal outcome takes the resources, unless a poll
has the body checked out: then the poll's guard finds the cleanup after it destroyed the body.

A critical section is one step.  What a thread does between two sections is a step as well:
the transport's answer, the destruction of a body and each stage of a cleanup.

The retry lifecycle of the owner is the function `completeSummary` from the result of the
request to its report.  Wakers and the progress notification only decide when the consumer and
the supervisor run next, and every schedule is a run.
-/

namespace OpenNet.Http

inductive Item where
  | chunk (bytes : List UInt8)
  | failed (error : NetError)
  | ended
  deriving DecidableEq, Repr

/-- The lease, the supervisor's reservation and the observer lifecycle. -/
structure StreamOwner where
  lease : Bool := true
  supervisorSlot : Bool := true
  lifecycle : Bool := true
  report : Option RetryReport := none
  deriving DecidableEq, Repr

/-- What the winner of the terminal transition takes along. -/
structure Cleanup where
  body : Bool
  owner : Option StreamOwner
  error : Option NetError
  deriving DecidableEq, Repr

/-- The shared state; `body` says that the transport body is in it. -/
structure BodyState where
  body : Bool
  owner : Option StreamOwner
  baseBudget : TimeoutBudget
  budget : TimeoutBudget
  idleTimeout : Option Nat
  polling : Bool
  finished : Bool
  terminalReady : Bool
  terminalError : Option NetError
  pendingCleanup : Option Cleanup
  deriving DecidableEq, Repr

/-- What is fixed when the response is handed to the caller. -/
structure SharedBody where
  requestId : Nat
  attempt : Nat
  status : Nat
  exhausted : Bool
  clockRange : Nat
  completeSummary : Except NetError Nat → Bool → RetryReport

/-- The stages of `clean_and_wake`, in their order. -/
inductive CleanupStage where
  | body | slot | permit | registry | observer | publish
  deriving DecidableEq, Repr

/-- A cleanup and how far it has come. -/
structure Job where
  cleanup : Cleanup
  stage : CleanupStage := .body
  report : Option RetryReport := none
  deriving DecidableEq, Repr

/-- What a poll does without its guard: clean up, then return the answer or the terminal item; no
item is `Poll::Pending`. -/
structure Answer where
  cleanup : Option Cleanup := none
  finished : Bool
  result : Option Item
  deriving DecidableEq, Repr

/-- Where the consumer is.  A poll that unwinds has no answer. -/
inductive Consumer where
  | idle
  | pollTransport
  | dropBody (checkedOut : Bool) (answer : Option Answer)
  | lockBody (checkedOut : Bool) (answer : Option Answer)
  | clean (job : Job) (answer : Option Answer)
  | answer (answer : Answer)
  deriving DecidableEq, Repr

/-- `accepted` is the section that lets a chunk through. -/
inductive BodyEvent where
  | committed (error : Option NetError)
  | accepted (bytes : List UInt8)
  | cleaned (stage : CleanupStage)
  | delivered (item : Item)
  deriving DecidableEq, Repr

/-- The shared state, the signal with its report, the consumer, other threads' cleanups and the
trace. -/
structure System where
  state : BodyState
  cancelled : Bool := false
  retryReport : Option RetryReport := none
  handle : Bool := true
  consumer : Consumer := .idle
  others : List Job := []
  trace : List BodyEvent := []
  deriving DecidableEq, Repr

/-- The next thing to happen; clock readings are the environment's. -/
inductive BodyAction where
  | pollNext (now : Nat)
  | transport (result : Option Item) (now later : Nat)
  | unwind
  | proceed
  | supervise (now : Nat)
  | cancel
  | dropHandle
  | cleanup (job : Nat)
  | signal
  | publishSupervisor
  deriving DecidableEq, Repr

namespace System

variable (shared : SharedBody)

variable (s : System)

def log (e : BodyEvent) : System := { s with trace := s.trace ++ [e] }

/-- `annotate`. -/
def annotate (error : NetError) : NetError :=
  let error := (error.withHttpRequestId shared.requestId).withHttpAttempt shared.attempt
  match s.retryReport with
  | some report => error.withRetryReport report
  | none => error

/-- `cancelled`. -/
def cancelledError : NetError :=
  s.annotate shared ((NetError.new .cancelled).withStage .receive)

/-- A visible cancellation wins every deadline. -/
def boundaryError (now : Nat) : Option NetError :=
  if s.cancelled then some (s.cancelledError shared)
  else (s.state.budget.expired now .receive).map (s.annotate shared)

/-- `finish_locked`. -/
def finishLocked (error : Option NetError) : System × Option Cleanup :=
  if s.state.finished then (s, none)
  else
    let cleanup : Cleanup := { body := s.state.body, owner := s.state.owner, error }
    let state :=
      { s.state with finished := true, terminalError := error, body := false, owner := none }
    let s := s.log (.committed error)
    -- The poll that has the body checked out is responsible for the cleanup.
    if state.polling then ({ s with state := { state with pendingCleanup := some cleanup } }, none)
    else ({ s with state }, some cleanup)

/-- The check at the start of a poll and of a supervisor's round. -/
def arbitrate (now : Nat) : System × Option Cleanup :=
  if s.state.finished then (s, none)
  else
    match s.boundaryError shared now with
    | some error => s.finishLocked (some error)
    | none => (s, none)

def resume (answer : Option Answer) : Consumer :=
  match answer with
  | none => .idle
  | some answer =>
    match answer.cleanup with
    | some cleanup => .clean { cleanup } (some { answer with cleanup := none })
    | none => .answer answer

/-- `clean_and_wake` by the consumer. -/
def consumerCleans (cleanup : Option Cleanup) (answer : Option Answer) : System :=
  match cleanup with
  | some cleanup => { s with consumer := .clean { cleanup } answer }
  | none => { s with consumer := resume answer }

/-- `clean_and_wake` by another thread. -/
def otherCleans (cleanup : Option Cleanup) : System :=
  match cleanup with
  | some cleanup => { s with others := s.others ++ [{ cleanup }] }
  | none => s

def terminal : Answer := { finished := true, result := none }

/-- `poll_next`, up to the transport's poll. -/
def pollNext (now : Nat) : System :=
  let (s, cleanup) := s.arbitrate shared now
  if s.state.finished then s.consumerCleans cleanup (some terminal)
  else if s.state.body then
    { s with state := { s.state with body := false, polling := true }, consumer := .pollTransport }
  else { s with state := { s.state with polling := false } }.consumerCleans cleanup (some terminal)

/-- What the section after the transport's answer decides. -/
def resolve (result : Option Item) (now later : Nat) : System × Option Cleanup :=
  if s.state.finished then (s, none)
  else
    match s.boundaryError shared now with
    | some error => s.finishLocked (some error)
    | none =>
      match result with
      | some (.failed error) => s.finishLocked (some (s.annotate shared error))
      | some .ended => s.finishLocked none
      | some (.chunk bytes) =>
        if bytes.isEmpty then (s, none)
        else
          let idle := s.state.idleTimeout
          match s.state.baseBudget.withPhase shared.clockRange later idle .idleRead with
          | .ok budget => ({ s with state := { s.state with budget } }, none)
          | .error error => s.finishLocked (some (s.annotate shared error))
      | none => (s, none)

def accept (result : Option Item) : System :=
  match result with
  | some (.chunk bytes) => s.log (.accepted bytes)
  | _ => s

/-- The section after the transport's answer: an open stream gets its body back. -/
def settle (result : Option Item) (now later : Nat) : System :=
  let (s, cleanup) := s.resolve shared result now later
  let answer : Answer := { cleanup, finished := s.state.finished, result }
  if s.state.finished then { s with consumer := .dropBody true (some answer) }
  else
    { s.accept result with
      state := { s.state with body := true }, consumer := .dropBody false (some answer) }

/-- `BodyPoll::drop`: the guard's section. -/
def lockBody (checkedOut : Bool) (answer : Option Answer) : System :=
  let s := { s with state := { s.state with polling := false } }
  if checkedOut && !s.state.finished then
    let (s, cleanup) := s.finishLocked (some (s.cancelledError shared))
    s.consumerCleans cleanup answer
  else
    { s with state := { s.state with pendingCleanup := none } }.consumerCleans
      s.state.pendingCleanup answer

/-- The item that ends the stream: an error not yet returned. -/
def terminalItem : Item :=
  match s.state.terminalError with
  | some error => .failed (s.annotate shared error)
  | none => .ended

/-- `poll_terminal`. -/
def pollTerminal : System × Option Item :=
  if s.state.terminalReady then
    ({ s with state := { s.state with terminalError := none } }, some (s.terminalItem shared))
  else (s, none)

/-- The poll returns. -/
def deliver (answer : Answer) : System :=
  let (s, item) := if answer.finished then s.pollTerminal shared else (s, answer.result)
  match item with
  | some item => ({ s with consumer := .idle }).log (.delivered item)
  | none => { s with consumer := .idle }

/-- `clean_and_wake`, last section: the item is ready. -/
def publish (report : Option RetryReport) : System :=
  let terminalError :=
    match report with
    | some report => s.state.terminalError.map (·.withRetryReport report)
    | none => s.state.terminalError
  { s with state := { s.state with terminalError, terminalReady := true } }

/-- One stage of `Cleanup::run`, with `StreamOwner::complete` and the lease's `Drop` inside; the
owner's `Drop` finds nothing. -/
def advance (job : Job) : System × Option Job :=
  match job.stage with
  | .body =>
    let s := if job.cleanup.body then s.log (.cleaned .body) else s
    match job.cleanup.owner with
    | some _ => (s, some { job with stage := .slot })
    | none => (s, some { job with stage := .publish })
  -- The slot of a published supervisor has left the owner already.
  | .slot => (s.log (.cleaned .slot), some { job with stage := .permit })
  | .permit =>
    if job.cleanup.owner.any (·.lease) then
      (s.log (.cleaned .permit), some { job with stage := .registry })
    else (s, some { job with stage := .observer })
  | .registry => (s.log (.cleaned .registry), some { job with stage := .observer })
  | .observer =>
    if job.cleanup.owner.any (·.lifecycle) then
      let result := match job.cleanup.error with
        | some error => .error error
        | none => .ok shared.status
      let report := shared.completeSummary result shared.exhausted
      ({ s with retryReport := some report }.log (.cleaned .observer),
       some { job with stage := .publish, report := some report })
    else
      let report := (job.cleanup.owner.bind (·.report)).getD {}
      (s, some { job with stage := .publish, report := some report })
  | .publish => (s.publish job.report, none)

/-- The next stage of the consumer. -/
def proceed : System :=
  match s.consumer with
  | .idle | .pollTransport => s
  | .dropBody checkedOut answer =>
    let s := if checkedOut then s.log (.cleaned .body) else s
    { s with consumer := .lockBody checkedOut answer }
  | .lockBody checkedOut answer => s.lockBody shared checkedOut answer
  | .clean job answer =>
    match s.advance shared job with
    | (s, some job) => { s with consumer := .clean job answer }
    | (s, none) => { s with consumer := resume answer }
  | .answer answer => s.deliver shared answer

/-- One section of a thread. -/
def step : BodyAction → System
  | .pollNext now =>
    if s.handle && s.consumer == .idle then s.pollNext shared now else s
  | .transport result now later =>
    if s.consumer = .pollTransport then s.settle shared result now later else s
  | .unwind =>
    if s.consumer = .pollTransport then { s with consumer := .dropBody true none } else s
  | .proceed => s.proceed shared
  | .supervise now =>
    let (s, cleanup) := s.arbitrate shared now
    s.otherCleans cleanup
  | .cancel =>
    let (s, cleanup) := s.finishLocked (some (s.cancelledError shared))
    s.otherCleans cleanup
  | .dropHandle =>
    if s.handle && s.consumer == .idle then
      let (s, cleanup) := { s with handle := false }.finishLocked (some (s.cancelledError shared))
      s.otherCleans cleanup
    else s
  | .cleanup i =>
    match s.others[i]? with
    | none => s
    | some job =>
      match s.advance shared job with
      | (s, some job) => { s with others := s.others.set i job }
      | (s, none) => { s with others := s.others.eraseIdx i }
  | .signal => { s with cancelled := true }
  | .publishSupervisor =>
    { s with state := { s.state with
        owner := s.state.owner.map fun owner => { owner with supervisorSlot := false } } }

/-- `FusedHttpBody::new`. -/
def new (budget : TimeoutBudget) (owner : StreamOwner) (bodyStart : Nat)
    (idleTimeout : Option Nat) : Except NetError System :=
  match budget.withPhase shared.clockRange bodyStart idleTimeout .idleRead with
  | .error error => .error error
  | .ok active =>
    .ok
      { state :=
          { body := true, owner := some owner, baseBudget := budget, budget := active, idleTimeout,
            polling := false, finished := false, terminalReady := false, terminalError := none,
            pendingCleanup := none } }

end System

end OpenNet.Http
