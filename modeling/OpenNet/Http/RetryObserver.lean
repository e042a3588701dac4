import OpenNet.Http.ReplaySafety

/-!
# Observers of HTTP retries

Model of how the calls of a `RetryObserverLifecycle` reach the observer of a retry policy
(`src/module/http/http_client_inner.rs`, `src/module/http/middleware_lifecycle.rs`,
`src/module/http/request_completion.rs`).  Attempts and retries are notified at once.  The
terminal observation is notified at once for a plain stream; for a buffered request it waits in
the request's control until the callback, or the lease that is dropped instead of it, takes it;
under middleware it waits in the `MiddlewareCompletion` until the middleware lease has ended.

The retry loop and the middleware run on different threads.  A thread is the list of operations
it has still to do, with its local variables; one operation is one step.  A loop goes on, and
can be dropped, when its thread has nothing left to do.  A cancelled request passes no further
check of its budget, so it starts no attempt.

The observer of the policy is installed and middleware keeps the policy.  A buffered request
starts here when it was admitted, without middleware when its job is picked up.
-/

namespace OpenNet.Http

open RetryLoop (Mode LoopAction)

/-- The observations of a retry lifecycle. -/
inductive RetryEvent where
  | attemptStarted (attempt : Nat)
  | attemptFinished (attempt : Nat) (finalAttempt : Bool)
  | retryScheduled (attempt delay : Nat)
  | completed (report : RetryReport)
  deriving DecidableEq, Repr

/-- The end of a request, to be notified later. -/
structure TerminalObservation where
  attempt : Option Nat
  report : RetryReport
  deriving DecidableEq, Repr

def TerminalObservation.events (t : TerminalObservation) : List RetryEvent :=
  (t.attempt.toList.map fun attempt => .attemptFinished attempt true) ++ [.completed t.report]

/-! ## The completion of middleware -/

/-- The fields behind `MiddlewareCompletion`. -/
structure CompletionState where
  finished : Bool := false
  emitted : Bool := false
  outcome : Option (Except NetError Nat) := none
  elapsed : Nat := 0
  finalReport : Option RetryReport := none
  pending : Option TerminalObservation := none

def statusReason (status : Nat) : RetryStopReason :=
  if 200 ≤ status ∧ status < 300 then .completed else .notRetryable

namespace CompletionState

variable (s : CompletionState)

def settle (report : RetryReport) : RetryReport :=
  let report := s.finalReport.getD report
  let report := { report with elapsed := max report.elapsed s.elapsed }
  match s.outcome with
  | some (.ok status) =>
    if report.stopReason.isNone then { report with stopReason := some (statusReason status) }
    else report
  | some (.error e) =>
    if e.retryReport.isNone then { report with stopReason := some (stopForError e) } else report
  | none => report

/-- `MiddlewareCompletion::take_ready`. -/
def takeReady : Option TerminalObservation × CompletionState :=
  if !s.finished || s.emitted then (none, s)
  else match s.pending with
    | none => (none, s)
    | some t =>
      (some { t with report := s.settle t.report }, { s with pending := none, emitted := true })

/-- `MiddlewareCompletion::queue`: the first one waits. -/
def queue (t : TerminalObservation) : Option TerminalObservation × CompletionState :=
  (if !s.emitted && s.pending.isNone then { s with pending := some t } else s).takeReady

/-- `MiddlewareCompletion::finish` completes a request without attempts. -/
def finish (outcome : Option (Except NetError Nat)) (attempts : Nat) (report : RetryReport) :
    Option TerminalObservation × CompletionState :=
  let s := { s with
    finished := true
    outcome
    elapsed := report.elapsed
    finalReport := if outcome.isSome then some report else s.finalReport }
  (if attempts = 0 && s.pending.isNone then { s with pending := some ⟨none, {}⟩ }
    else s).takeReady

end CompletionState

/-! ## Threads -/

/-- A change of a report that a thread has loaded. -/
inductive Amendment where
  | stopped (reason : RetryStopReason)
  | orStopped (reason : RetryStopReason)
  | atLeast (elapsed : Nat)
  | sampled (elapsed : Nat)
  | recounted (reading : Reading)

/-- `attempts` is the attempt number the thread has loaded. -/
def Amendment.apply (attempts : Nat) (report : RetryReport) : Amendment → RetryReport
  | .stopped reason => { report with stopReason := some reason }
  | .orStopped reason =>
    if report.stopReason.isNone then { report with stopReason := some reason } else report
  | .atLeast elapsed => { report with elapsed := max report.elapsed elapsed }
  | .sampled elapsed => { report with elapsed }
  | .recounted reading =>
    { report with attempts, retryCount := attempts - 1,
                  transportSends := reading.transportSends, elapsed := reading.elapsed }

/-- One operation of a thread. -/
inductive Op where
  | notify (event : RetryEvent)
  | storeAttempt (attempt : Nat)
  | setReport (report : RetryReport)
  | handOver (t : TerminalObservation)
  | loadReport
  | loadAttempt
  | amend (amendment : Amendment)
  | publishReport
  | finish (outcome : Option (Except NetError Nat))
  | emitPending

/-- What a thread has still to do, and what it has loaded. -/
structure Thread where
  todo : List Op := []
  report : Option RetryReport := none
  attempts : Nat := 0

/-- What observations depend on in a `CancellationSignal`. -/
structure RequestControl where
  cancelled : Bool := false
  attempt : Nat := 0
  retryReport : Option RetryReport := none
  pendingObservation : Option TerminalObservation := none

/-- Which loop a request runs and who notifies its end. -/
inductive Route where
  | stream | buffered
  | middleware (mode : Mode)
  deriving DecidableEq, Repr

def Route.mode : Route → Mode
  | .stream => .streaming
  | .buffered => .buffered
  | .middleware mode => mode

/-- `entered`: the loop exists; `gone`: given up before; `caught`: the loop panicked and its job
went on; `released`: the callback owner is done; `leaseEnding`: the lease is at its end. `events`
and `terminals` were notified. -/
structure Observation where
  loop : RetryLoop
  control : RequestControl := {}
  completion : CompletionState := {}
  transport : Thread := {}
  lease : Thread := {}
  entered : Bool
  gone : Bool := false
  caught : Bool := false
  released : Bool := false
  leaseEnding : Bool := false
  events : List RetryEvent := []
  terminals : List TerminalObservation := []

namespace Observation

/-! ## Operations -/

variable (s : Observation)

/-- `TerminalObservation::emit`. -/
def emit (th : Thread) (t : Option TerminalObservation) : Observation × Thread :=
  match t with
  | none => (s, th)
  | some t =>
    ({ s with terminals := s.terminals ++ [t] },
      { th with todo := t.events.map Op.notify ++ th.todo })

/-- A thread does an operation. -/
def exec (route : Route) (s : Observation) (th : Thread) : Op → Observation × Thread
  | .notify event => ({ s with events := s.events ++ [event] }, th)
  | .storeAttempt attempt => ({ s with control := { s.control with attempt } }, th)
  | .setReport report =>
    ({ s with control := { s.control with retryReport := some report } }, th)
  | .handOver t =>
    match route with
    | .stream => s.emit th (some t)
    | .buffered => ({ s with control := { s.control with pendingObservation := some t } }, th)
    | .middleware _ =>
      let (ready, completion) := s.completion.queue t
      { s with completion }.emit th ready
  | .loadReport => (s, { th with report := some (s.control.retryReport.getD {}) })
  | .loadAttempt => (s, { th with attempts := s.control.attempt })
  | .amend amendment =>
    (s, { th with report := th.report.map (amendment.apply th.attempts) })
  | .publishReport =>
    match th.report with
    | none => (s, th)
    | some report => ({ s with control := { s.control with retryReport := some report } }, th)
  | .finish outcome =>
    let (ready, completion) := s.completion.finish outcome th.attempts (th.report.getD {})
    { s with completion }.emit th ready
  | .emitPending =>
    match s.control.pendingObservation with
    | none => (s, th)
    | some t =>
      { s with control := { s.control with pendingObservation := none } }.emit th
        (some { t with report := th.report.getD {} })

/-! ## Programs -/

/-- What a lifecycle call does; an attempt is recorded once started. -/
def callOps : LifecycleCall → List Op
  | .attemptStarted attempt => [.notify (.attemptStarted attempt), .storeAttempt attempt]
  | .retryScheduled attempt delay =>
    [.notify (.retryScheduled attempt delay), .notify (.attemptFinished attempt false)]
  | .emitTerminal attempt report => [.setReport report, .handOver ⟨attempt, report⟩]

/-- `process_job` reports an error that carries no report. -/
def failureOps (reading : Reading) (e : NetError) : List Op :=
  [.loadReport, .loadAttempt, .amend (.recounted reading), .amend (.stopped (stopForError e)),
    .publishReport]

/-- `process_job` after a failed loop. -/
def jobOps (route : Route) (reading : Reading) (stage : LoopStage) : List Op :=
  match route.mode, stage with
  | .buffered, .done (.error e) false => failureOps reading e
  | _, _ => []

/-- `run_callback`; a cancelled request's error has no report. -/
def callbackOps (cancelled : Bool) : List Op :=
  .loadReport :: (if cancelled then [.amend (.stopped .cancelled)] else []) ++
    [.publishReport, .emitPending]

/-- `CompletionLease::drop` of a request whose callback did not run. -/
def releaseOps : List Op := [.loadReport, .amend (.orStopped .policyFailed), .emitPending]

/-- `MiddlewareLease::finish`; a body owns its own result. -/
def leaseFinishOps (outcome : Option (Except NetError Nat)) (elapsed : Nat) : List Op :=
  let reason := match outcome with
    | some (.error e) => if e.retryReport.isNone then [Op.amend (.stopped (stopForError e))] else []
    | some (.ok status) => [.amend (.orStopped (statusReason status))]
    | none => []
  [.loadReport, .amend (.atLeast elapsed)] ++ reason ++
    (if outcome.isSome then [.publishReport] else []) ++ [.loadAttempt, .finish outcome]

/-- `MiddlewareLease::drop` after it cancelled the request. -/
def leaseDropOps (elapsed : Nat) : List Op :=
  [.loadAttempt, .loadReport, .amend (.sampled elapsed), .amend (.stopped .cancelled),
    .publishReport, .finish (some (.error ((NetError.new .cancelled).withStage .dispatch)))]

/-! ## Steps -/

/-- A step of a thread, or a drop. -/
inductive ObserverAction where
  | enter
  | giveUp
  | cancel
  | loop (a : LoopAction) (reading : Reading)
  | unwind (reading : Reading)
  | transport
  | callback (cancelled : Bool)
  | release
  | leaseFinish (outcome : Option (Except NetError Nat)) (elapsed : Nat)
  | leaseDrop (elapsed : Nat)
  | lease

/-- The loop is suspended or over, its calls are done. -/
def idle : Bool := s.transport.todo.isEmpty

/-- A cancelled request stops at the top of its loop. -/
def passes : LoopAction → Bool
  | .begin b => !(s.control.cancelled && b.total.isNone)
  | _ => true

/-- The loop takes a step; `tail` follows its last one. -/
def advance (req : RetryRequest) (route : Route) (s : Observation) (a : LoopAction)
    (tail : LoopStage → List Op) : Observation :=
  let loop := s.loop.step req route.mode a
  let calls := loop.calls.drop s.loop.calls.length
  let tail := if calls.isEmpty then [] else tail loop.stage
  { s with loop, transport := { todo := calls.flatMap callOps ++ tail } }

def answered : Bool :=
  match s.loop.stage with
  | .done _ _ => true
  | .dropped => s.caught
  | _ => false

def settleWith (todo : List Op) : Observation :=
  { s with released := true, transport := { todo } }

def endLease (todo : List Op) : Observation :=
  { s with leaseEnding := true, lease := { todo } }

/-- One step of a request. -/
def step (req : RetryRequest) (route : Route) (s : Observation) (a : ObserverAction) :
    Observation :=
  match a with
  | .enter => if s.gone then s else { s with entered := true }
  | .giveUp => if s.entered then s else { s with gone := true }
  | .cancel => { s with control := { s.control with cancelled := true } }
  | .loop a reading =>
    if s.entered && s.idle && !s.released && s.passes a then
      s.advance req route a (jobOps route reading)
    else s
  | .unwind reading =>
    -- `process_job` catches a panic of `run_request`, whose lifecycle is dropped by then.
    if route.mode = .buffered ∧ s.entered ∧ s.idle ∧ RetryLoop.isOver s.loop.stage = false then
      { s with caught := true }.advance req route (.drop reading) fun _ =>
        failureOps reading ((NetError.new .internal).withStage .dispatch)
    else s
  | .transport =>
    match s.transport.todo with
    | [] => s
    | op :: rest =>
      let (s, transport) := s.exec route { s.transport with todo := rest } op
      { s with transport }
  | .callback cancelled =>
    if route.mode = .buffered ∧ s.idle ∧ s.answered ∧ s.released = false then
      s.settleWith (callbackOps cancelled)
    else s
  | .release =>
    if route = .buffered ∧ s.idle ∧ RetryLoop.isOver s.loop.stage ∧ s.released = false then
      s.settleWith releaseOps
    else s
  | .leaseFinish outcome elapsed =>
    match route with
    | .middleware _ => if s.leaseEnding then s else s.endLease (leaseFinishOps outcome elapsed)
    | _ => s
  | .leaseDrop elapsed =>
    match route with
    | .middleware _ =>
      if s.leaseEnding then s
      else { s with control := { s.control with cancelled := true } }.endLease
        (leaseDropOps elapsed)
    | _ => s
  | .lease =>
    match s.lease.todo with
    | [] => s
    | op :: rest =>
      let (s, lease) := s.exec route { s.lease with todo := rest } op
      { s with lease }

/-- A new request; middleware hands a buffered one over later. -/
def new (route : Route) (random : UInt64) : Observation where
  loop := .new random
  entered := route ≠ .middleware .buffered

end Observation

end OpenNet.Http
