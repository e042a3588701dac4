import OpenNet.Foundation.Checked
import OpenNet.Foundation.Machine

/-!
# Retirement of the threads an engine owns

Model of `ThreadHandle` and `ThreadRegistry` in `libs/common/src/retirement.rs`.  A thread is
joined once, by whoever takes its `JoinHandle` first; everybody else waits for the result.

Any number of calls run at the same time.  A step is one section of the registry's or a thread's
lock, one spawn of an OS thread or one notification.  A call that waits for a condition variable
remembers how many notifications there were when it began; it may wake for no reason.

`is_finished` is read at some moment of a sweep, so a thread that exits meanwhile may be missed.
A thread that runs is not finished, so a call never joins the thread it runs on, and
`seal_and_join` is called from outside of the registry.
-/

namespace OpenNet.Common

inductive CommonError where
  | runtimeError
  deriving DecidableEq, Repr

/-- The errors of `ThreadRegistry::spawn_inner`. -/
inductive SpawnError where
  /-- SDK thread name contains NUL. -/
  | invalidInput
  /-- SDK thread registry is closed. -/
  | brokenPipe
  /-- An allocation failed, or the count of starting threads overflowed. -/
  | other
  /-- The error of the operating system. -/
  | spawn
  deriving DecidableEq, Repr

abbrev ThreadId := Nat

abbrev JoinResult := Except CommonError Unit

/-! ## Joining a thread -/

/-- A spawned OS thread and its `ThreadHandle`. -/
structure ThreadState where
  /-- Whether the thread has panicked, once it has exited. -/
  exit : Option Bool := none
  /-- The `JoinHandle` is still there. -/
  handle : Bool := true
  result : Option JoinResult := none
  notifications : Nat := 0
  deriving DecidableEq

/-- Where `ThreadHandle::join` is. -/
inductive JoinPc where
  /-- It enters the lock, for the first time or after a wait. -/
  | enter
  /-- It has taken the `JoinHandle`. -/
  | joining
  | waiting (seen : Nat)
  deriving DecidableEq, Repr

inductive JoinStep where
  | again (pc : JoinPc)
  | done (result : JoinResult)
  deriving DecidableEq

namespace ThreadState

/-- `is_finished`. -/
def isFinished (thread : ThreadState) : Bool :=
  thread.result.isSome || thread.handle && thread.exit.isSome

/-- `join`, from one section to the next. -/
def join (thread : ThreadState) : JoinPc → JoinStep × ThreadState
  | .enter => match thread.result with
    | some result => (.done result, thread)
    | none =>
      if thread.handle then (.again .joining, { thread with handle := false })
      else (.again (.waiting thread.notifications), thread)
  | .joining => match thread.exit with
    -- `JoinHandle::join` blocks until the thread has exited.
    | none => (.again .joining, thread)
    | some panicked =>
      let result := if panicked then .error .runtimeError else .ok ()
      (.done result,
        { thread with result := some result, notifications := thread.notifications + 1 })
  | .waiting seen =>
    (.again (if seen < thread.notifications then .enter else .waiting seen), thread)

end ThreadState

/-- A loop that joins one thread after the other. -/
structure Joins where
  pc : JoinPc := .enter
  threads : List ThreadId
  failed : Bool
  deriving DecidableEq

/-- The next section of a loop of joins. -/
def Joins.step (os : List ThreadState) (j : Joins) : List ThreadState × Joins :=
  match j.threads with
  | [] => (os, j)
  | t :: rest => match os[t]? with
    | none => (os, j)
    | some thread => match thread.join j.pc with
      | (.again pc, thread) => (os.set t thread, { j with pc })
      | (.done result, thread) =>
        (os.set t thread, { threads := rest, failed := j.failed || !result.isOk })

/-! ## The registry -/

/-- The fields behind the lock, and the notifications. -/
structure RegistryState where
  threads : List ThreadId := []
  sealed : Bool := false
  joining : Bool := false
  reaping : Nat := 0
  starting : Nat := 0
  failed : Bool := false
  result : Option JoinResult := none
  notifications : Nat := 0
  deriving DecidableEq

/-- A call of the registry; `starting` to `started` is `StartingThread`. -/
inductive Call where
  | spawn (name : String) (reap : Bool)
  /-- The call joins the threads it has taken out of the registry. -/
  | reaping (joins : Joins)
  /-- A start is reserved, and no OS thread spawned yet. -/
  | starting
  /-- The thread runs, and its handle is not in the registry yet. -/
  | spawned (thread : ThreadId)
  /-- `StartingThread` is still to be dropped. -/
  | started (answer : Except SpawnError ThreadId)
  /-- The start is over, and `StartingThread` is still to notify. -/
  | notifying (answer : Except SpawnError ThreadId)
  | spawnReturned (answer : Except SpawnError ThreadId)
  | sealCall
  | sealWaiting (seen : Nat)
  | sealWoken
  /-- The call joins the threads of the registry. -/
  | retiring (joins : Joins)
  | sealReturned (result : JoinResult)
  /-- `ThreadHandle::join` of another holder of the handle. -/
  | join (thread : ThreadId) (pc : JoinPc)
  | joinReturned (result : JoinResult)
  deriving DecidableEq

/-- `ThreadRegistry` with its threads and calls. -/
structure Retirement where
  registry : RegistryState := {}
  os : List ThreadState := []
  calls : List Call := []
  deriving DecidableEq

/-! ### The sweep of a spawn -/

def swapRemove {α : Type} (xs : List α) (index : Nat) : List α :=
  match xs.getLast? with
  | none => xs
  | some last => (xs.set index last).dropLast

/-- The loop over the threads: those that stay and those that are joined. -/
def sweepFrom (finished : ThreadId → Bool) :
    Nat → Nat → List ThreadId → List ThreadId → List ThreadId × List ThreadId
  | 0, _, threads, retired => (threads, retired)
  | fuel + 1, index, threads, retired =>
    match threads[index]? with
    | none => (threads, retired)
    | some t =>
      if finished t then
        sweepFrom finished fuel index (swapRemove threads index) (retired ++ [t])
      else sweepFrom finished fuel (index + 1) threads retired

/-- Every step of the loop leaves one thread less to look at. -/
def sweep (finished : ThreadId → Bool) (threads : List ThreadId) : List ThreadId × List ThreadId :=
  sweepFrom finished threads.length 0 threads []

/-! ### The steps of a call -/

/-- What the allocator and the OS answer. -/
structure Answers where
  /-- The threads whose exit a sweep gets to see. -/
  seen : ThreadId → Bool := fun _ => true
  retiredAllocated : Bool := true
  threadsAllocated : Bool := true
  spawned : Bool := true

namespace Retirement

variable (limit : Nat) (s : Retirement)

def move (i : Nat) (call : Call) : Retirement := { s with calls := s.calls.set i call }

def updateRegistry (f : RegistryState → RegistryState) : Retirement :=
  { s with registry := f s.registry }

def notifyAll : Retirement :=
  s.updateRegistry fun r => { r with notifications := r.notifications + 1 }

/-- The end of the section of `spawn_inner` that reserves a start. -/
def reserve (i : Nat) (allocated : Bool) : Retirement :=
  match Checked.checkedAdd limit s.registry.starting 1 with
  | none => s.move i (.spawnReturned (.error .other))
  | some reserved =>
    if allocated then
      (s.updateRegistry fun r => { r with starting := reserved }).move i .starting
    else s.move i (.spawnReturned (.error .other))

def finished (seen : ThreadId → Bool) (t : ThreadId) : Bool :=
  seen t && (s.os[t]?).any (·.isFinished)

/-- `spawn_inner`, first section. -/
def spawnEnter (i : Nat) (name : String) (reap : Bool) (answers : Answers) : Retirement :=
  if name.toList.contains '\x00' then s.move i (.spawnReturned (.error .invalidInput))
  else if s.registry.sealed then s.move i (.spawnReturned (.error .brokenPipe))
  else if reap then
    if answers.retiredAllocated = false then s.move i (.spawnReturned (.error .other))
    else
      let (threads, retired) := sweep (s.finished answers.seen) s.registry.threads
      let s := s.updateRegistry fun r => { r with threads }
      if retired = [] then s.reserve limit i answers.threadsAllocated
      else (s.updateRegistry fun r => { r with reaping := r.reaping + 1 }).move i
        (.reaping { threads := retired, failed := false })
  else s.reserve limit i answers.threadsAllocated

/-- `spawn_inner` after the join of the retired threads. -/
def reaped (i : Nat) (failed : Bool) (answers : Answers) : Retirement :=
  let s := (s.updateRegistry fun r =>
    { r with failed := r.failed || failed, reaping := r.reaping - 1 }).notifyAll
  if s.registry.sealed then s.move i (.spawnReturned (.error .brokenPipe))
  else s.reserve limit i answers.threadsAllocated

/-- The loop of `seal_and_join`, from the lock to the lock's release. -/
def sealLoop (i : Nat) : Retirement :=
  match s.registry.result with
  | some result => s.move i (.sealReturned result)
  | none =>
    if s.registry.joining = false ∧ s.registry.reaping = 0 ∧ s.registry.starting = 0 then
      (s.updateRegistry fun r => { r with joining := true, threads := [] }).move i
        (.retiring { threads := s.registry.threads, failed := s.registry.failed })
    else s.move i (.sealWaiting s.registry.notifications)

/-- `seal_and_join`: the result is published. -/
def publish (i : Nat) (failed : Bool) : Retirement :=
  let result := if failed then .error .runtimeError else .ok ()
  ((s.updateRegistry fun r => { r with result := some result }).notifyAll).move i
    (.sealReturned result)

/-- The next section of a call. -/
def stepCall (i : Nat) (answers : Answers) : Call → Retirement
  | .spawn name reap => s.spawnEnter limit i name reap answers
  | .reaping joins =>
    if joins.threads = [] then s.reaped limit i joins.failed answers
    else
      let (os, joins) := joins.step s.os
      { s with os }.move i (.reaping joins)
  | .starting =>
    if answers.spawned then
      { s with os := s.os ++ [({} : ThreadState)] }.move i (.spawned s.os.length)
    else s.move i (.started (.error .spawn))
  | .spawned t =>
    (s.updateRegistry fun r => { r with threads := r.threads ++ [t] }).move i (.started (.ok t))
  | .started answer =>
    (s.updateRegistry fun r => { r with starting := r.starting - 1 }).move i (.notifying answer)
  | .notifying answer => s.notifyAll.move i (.spawnReturned answer)
  | .sealCall => (s.updateRegistry fun r => { r with sealed := true }).sealLoop i
  | .sealWaiting seen => if seen < s.registry.notifications then s.move i .sealWoken else s
  | .sealWoken => s.sealLoop i
  | .retiring joins =>
    if joins.threads = [] then s.publish i joins.failed
    else
      let (os, joins) := joins.step s.os
      { s with os }.move i (.retiring joins)
  | .join t pc => match s.os[t]? with
    | none => s
    | some thread => match thread.join pc with
      | (.again pc, thread) => { s with os := s.os.set t thread }.move i (.join t pc)
      | (.done result, thread) => { s with os := s.os.set t thread }.move i (.joinReturned result)
  | .spawnReturned _ | .sealReturned _ | .joinReturned _ => s

def Call.wake : Call → Call
  | .sealWaiting _ => .sealWoken
  | .reaping { pc := .waiting _, threads, failed } => .reaping { threads, failed }
  | .retiring { pc := .waiting _, threads, failed } => .retiring { threads, failed }
  | .join t (.waiting _) => .join t .enter
  | call => call

inductive Action where
  | callSpawn (name : String) (reap : Bool)
  | callSeal
  /-- `ThreadHandle::join`, from the thread itself or from another one. -/
  | callJoin (thread : ThreadId) (own : Bool)
  | step (i : Nat) (answers : Answers)
  | wake (i : Nat)
  | exit (thread : ThreadId) (panicked : Bool)

def call (c : Call) : Retirement := { s with calls := s.calls ++ [c] }

/-- One section of a call, or an exit. -/
def step : Action → Retirement
  | .callSpawn name reap => s.call (.spawn name reap)
  | .callSeal => s.call .sealCall
  | .callJoin t own =>
    s.call (if own then .joinReturned (.error .runtimeError) else .join t .enter)
  | .step i answers => match s.calls[i]? with
    | none => s
    | some c => s.stepCall limit i answers c
  | .wake i => match s.calls[i]? with
    | none => s
    | some c => s.move i (Call.wake c)
  | .exit t panicked => match s.os[t]? with
    | none => s
    | some thread =>
      if thread.exit.isSome then s
      else { s with os := s.os.set t { thread with exit := some panicked } }

def run (s : Retirement) (acts : List Action) : Retirement := Machine.run (step limit) s acts

end Retirement

end OpenNet.Common
