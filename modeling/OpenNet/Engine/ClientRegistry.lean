import OpenNet.Foundation.Machine
import Mathlib.Logic.Function.Basic

/-!
# The names of the clients of an engine

Model of the three registries of `OpenNetInner` in `src/inner/net_impl.rs`, of `CleanupTask` in
`ws_cleanup.rs` and of `net_status_clients.rs`, on an engine that stays open.  A call reserves
the name in one section of the registry's lock and leaves the rest to a job: a future given to
`CommonEngine::post` (creation, HTTP destruction), one spawned on the runtime (network status), or
the payload of a `CleanupTask` that an executor and its fallbacks compete for (WebSocket
destruction).  Names do not interfere, so the engine is a family of machines, one for each name.

The environment chooses whether a job is run, panics or is dropped, whether creation succeeds and
whether threads can be spawned.  A worker thread counts as live until it has been joined.
-/

namespace OpenNet.Engine

inductive Registry where
  | ws
  | http
  | netStatus
  deriving DecidableEq, Repr

/-- The workers of a client; those of a network-status client last until a `destroy` without error.
-/
def Registry.workers : Registry → Nat
  | .ws => 1
  | .http => 3
  | .netStatus => 1

abbrev ClientId := Nat

/-- `ClientSlot`, `HttpClientSlot` and `NetStatusClientSlot`. -/
inductive Slot where
  | creating
  | ready (client : ClientId)
  | closing (client : ClientId)
  /-- A `ManagedHttpClient`, with the client it has created. -/
  | managed (client : Option ClientId)
  deriving DecidableEq, Repr

/-- Who will run the cleanup payload. -/
inductive Runner where
  /-- The task that `spawn_blocking` was given. -/
  | task
  /-- `CleanupTask::fallback`, before it looks for the payload. -/
  | fallback
  /-- The thread that `fallback` has spawned. -/
  | thread
  /-- `fallback` itself, as no thread could be spawned. -/
  | caller
  | gone
  deriving DecidableEq, Repr

/-- Where a creation or destruction is. -/
inductive Stage where
  /-- The future was given to `post`. -/
  | posted
  | running
  /-- WebSocket destruction: `DestroyClientGuard` lives in the caller's future. -/
  | guarded
  /-- WebSocket destruction: the payload waits in its `CleanupTask`. -/
  | cleaning
  /-- The worker threads are being joined. -/
  | waiting
  /-- The job goes on although not all worker threads have been joined. -/
  | failed
  deriving DecidableEq, Repr

/-- A creation, or the destruction of a client. -/
structure Job where
  client : Option ClientId
  stage : Stage
  payload : Bool := false
  runners : List Runner := []
  /-- How often the payload was run. -/
  runs : Nat := 0
  deriving DecidableEq

/-- The reservation that the job owns. -/
def Job.slot (j : Job) : Slot :=
  match j.client with
  | none => .creating
  | some c => .closing c

/-- `ClientEntry` of a name, its clients and its job. -/
structure Entry where
  slot : Option Slot := none
  /-- The clients created under the name, each with its live workers. -/
  clients : List Nat := []
  job : Option Job := none
  /-- How often each cleanup payload was run whose destruction has ended. -/
  payloads : List Nat := []
  deriving DecidableEq

/-- What happens to a job. -/
inductive JobAction where
  | start
  /-- The job panics, or is dropped before it is run to its end. -/
  | abandon
  | built (ok : Bool)
  /-- `HttpClient::shutdown` of a destruction launches the thread that joins the workers, or
  returns an error without having joined them. -/
  | shutdown (launched : Bool)
  | destroyed (ok : Bool)
  | dropGuard
  /-- `CleanupTask::submit`; a refused task may nevertheless be queued. -/
  | submit (accepted queued : Bool)
  | discard (runner : Nat)
  | fallback (runner : Nat) (spawned : Bool)
  /-- `run_pending` by the executor or by the thread of the fallback. -/
  | runPending (runner : Nat)
  /-- `run_pending` by the fallback itself, maybe on the client's own worker thread. -/
  | runHere (runner : Nat) (onWorker : Bool)
  /-- The section that gives the name back once the threads were joined. -/
  | release
  deriving DecidableEq

inductive Action where
  | create
  | destroy
  | managedHttp
  | managedCreated
  | managedFinished
  | joinWorker (client : ClientId)
  | job (a : JobAction)
  deriving DecidableEq

namespace Entry

def put (s : Entry) (j : Job) : Entry := { s with job := some j }

/-- The payload is taken by whoever comes first. -/
def runPayload (s : Entry) (j : Job) (runner : Nat) (next : Stage) : Entry :=
  let j := { j with runners := j.runners.set runner .gone }
  s.put (if j.payload then { j with payload := false, runs := j.runs + 1, stage := next } else j)

/-- The next section of the job. -/
def stepJob (r : Registry) (s : Entry) (j : Job) : JobAction → Entry
  | .start => if j.stage = .posted then s.put { j with stage := .running } else s
  | .abandon =>
    -- The guard and the payload of a WebSocket destruction survive their holders.
    if r = .ws ∧ j.client.isSome then s else { s with job := none }
  | .built ok =>
    if j.stage = .running ∧ j.client = none then
      if ok then
        { s with slot := some (.ready s.clients.length), clients := s.clients ++ [r.workers],
                 job := none }
      else { s with slot := none, job := none }
    else s
  | .shutdown launched =>
    if r = .http ∧ j.stage = .running ∧ j.client.isSome then
      s.put { j with stage := if launched then .waiting else .failed }
    else s
  | .destroyed ok => match j.client with
    | none => s
    | some c =>
      if r = .netStatus ∧ j.stage = .running then
        -- An error keeps the reservation.
        if ok then { s with slot := none, clients := s.clients.set c 0, job := none }
        else { s with job := none }
      else s
  | .dropGuard =>
    if j.stage = .guarded then
      s.put { j with stage := .cleaning, payload := true, runners := [.fallback] }
    else s
  | .submit accepted queued =>
    if j.stage = .guarded then
      let runners :=
        if accepted then [.task] else [if queued then .task else .fallback, .fallback]
      s.put { j with stage := .cleaning, payload := true, runners }
    else s
  | .discard k =>
    if j.runners[k]? = some .task then s.put { j with runners := j.runners.set k .fallback } else s
  | .fallback k spawned =>
    if j.runners[k]? = some .fallback then
      let next := if j.payload then (if spawned then .thread else .caller) else .gone
      s.put { j with runners := j.runners.set k next }
    else s
  | .runPending k =>
    if j.runners[k]? = some .task ∨ j.runners[k]? = some .thread then s.runPayload j k .waiting
    else s
  | .runHere k onWorker =>
    -- A thread does not join itself: `ThreadHandle::join` returns an error at once.
    if j.runners[k]? = some .caller then
      s.runPayload j k (if onWorker then .failed else .waiting)
    else s
  | .release => match j.client with
    | none => s
    | some c =>
      if j.stage = .failed ∨ j.stage = .waiting ∧ s.clients[c]? = some 0 then
        let slot := match s.slot with
          | some (.closing _) => none
          | slot => slot
        { s with slot, job := none,
                 payloads := if r = .ws then s.payloads ++ [j.runs] else s.payloads }
      else s

/-- One step under a name. -/
def step (r : Registry) (s : Entry) : Action → Entry
  | .create => match s.slot, r with
    | some _, _ => s
    | none, .netStatus =>
      { s with slot := some (.ready s.clients.length), clients := s.clients ++ [r.workers] }
    | none, _ =>
      { s with slot := some .creating, job := some { client := none, stage := .posted } }
  | .destroy => match s.slot with
    | some (.ready c) =>
      let stage := match r with
        | .ws => .guarded
        | .http => .posted
        | .netStatus => .running
      { s with slot := some (.closing c), job := some { client := some c, stage } }
    | _ => s
  | .managedHttp =>
    if r = .http ∧ s.slot = none then { s with slot := some (.managed none) } else s
  | .managedCreated =>
    if s.slot = some (.managed none) then
      { s with slot := some (.managed (some s.clients.length)),
               clients := s.clients ++ [r.workers] }
    else s
  | .managedFinished => match s.slot with
    | some (.managed none) => { s with slot := none }
    | some (.managed (some c)) => if s.clients[c]? = some 0 then { s with slot := none } else s
    | _ => s
  | .joinWorker c => match s.clients[c]? with
    | some n => if r = .netStatus then s else { s with clients := s.clients.set c (n - 1) }
    | none => s
  | .job a => match s.job with
    | none => s
    | some j => s.stepJob r j a

end Entry

def step (s : Registry × String → Entry) (a : (Registry × String) × Action) :
    Registry × String → Entry :=
  Function.update s a.1 (Entry.step a.1.1 (s a.1) a.2)

end OpenNet.Engine
