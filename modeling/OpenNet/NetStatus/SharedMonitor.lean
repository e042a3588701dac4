import Mathlib.Data.Finset.Basic
import OpenNet.Foundation.Machine
import OpenNet.NetStatus.NetworkView

/-!
# The shared network monitor and its demand leases

Model of `module/net_status/inner/shared.rs`.  Consumers take *leases* on the monitor of an
engine.  Who holds one is kept twice: under the admission lock, where `acquire`, `ensure`,
`release` and `request_close` decide, and in the task `coordinate`, which owns the platform start
and learns of every decision through an unbounded command channel.

One action is one section of the admission lock (the lock of a lease is held around it), the
sending of `Close`, which happens after the section of `request_close`, or one turn of the
coordinator's loop: a command, or the end of the start in flight.  The turns are taken in any
order, although the source prefers commands.

What `inner.snapshot()` returns and how a start ends are arguments of the actions.  What a cleanup
ticket reports, the retirement of the platform monitor and the name service are left out.  Waiters
and starts are numbered in the order in which they are accepted.
-/

namespace OpenNet.NetStatus

open Checked

abbrev SnapshotResult := Except NetError NetworkSnapshot

/-- The leases admitted, until the close. -/
structure Admission where
  closed : Bool := false
  nextId : Nat := 0
  active : Finset Nat := ∅
  deriving DecidableEq

/-- What is sent to the coordinator. -/
inductive Command where
  | acquire (id : Nat)
  | ensure (id : Nat) (waiter : Option Nat)
  | release (id : Nat)
  | close
  deriving DecidableEq, Repr

/-- The service's ticket, or that of a lease's `Release`. -/
inductive CleanupTicket where
  | closed
  | pending (id : Nat)
  deriving DecidableEq, Repr

/-- A lease, and whether it was released. -/
structure LeaseState where
  id : Nat
  released : Option CleanupTicket := none
  deriving DecidableEq, Repr

/-- The locals of `coordinate`; `returned` after its loop. -/
structure Coordinator where
  active : Finset Nat := ∅
  start : Option Nat := none
  startRevision : Nat := 0
  waiters : List Nat := []
  retryWaiters : List Nat := []
  retryRequested : Bool := false
  returned : Bool := false
  deriving DecidableEq

/-- The service with its channel and coordinator. -/
structure SharedService where
  /-- A strong reference to the service exists; leases and contexts hold weak ones. -/
  alive : Bool := true
  admission : Admission := {}
  commands : List Command := []
  coordinator : Coordinator := {}
  leases : List LeaseState := []
  /-- The section of `request_close` has run and its `Close` has not been sent. -/
  closeUnsent : Bool := false
  issued : Nat := 0
  starts : Nat := 0
  answered : List (Nat × SnapshotResult) := []

def MonitorState.isFailed : MonitorState → Bool
  | .failed _ => true
  | _ => false

def revisionOf : SnapshotResult → Nat
  | .ok snapshot => snapshot.revision
  | .error _ => 0

namespace SharedService

/-! ## Sections of the admission lock -/

variable (s : SharedService)

/-- `acquire`; `snapshot` was read before the lock. -/
def acquire (snapshot : SnapshotResult) (s : SharedService) : Except NetError SharedService :=
  if !s.alive then .error (.new .closed)
  else
    match snapshot with
    | .error error => .error error
    | .ok _ =>
      if s.admission.closed then .error (.new .closed)
      else
        match checkedAdd u64Max s.admission.nextId 1 with
        | none => .error (.new .internal)
        | some id =>
          -- the channel refuses a command once the coordinator has dropped its receiver
          if s.coordinator.returned then .error (.new .runtimeUnavailable)
          else
            .ok { s with
              commands := s.commands ++ [.acquire id]
              admission := { s.admission with
                nextId := id, active := insert id s.admission.active }
              leases := s.leases ++ [{ id }] }

/-- `ensure`; a waiting caller passes the next waiter. -/
def ensure (lease : LeaseState) (wait : Bool) (s : SharedService) : Except NetError SharedService :=
  if lease.released.isSome || !s.alive then .error (.new .closed)
  else if s.admission.closed || lease.id ∉ s.admission.active then .error (.new .closed)
  else if s.coordinator.returned then .error (.new .runtimeUnavailable)
  else if wait then
    .ok { s with
      commands := s.commands ++ [.ensure lease.id (some s.issued)]
      issued := s.issued + 1 }
  else .ok { s with commands := s.commands ++ [.ensure lease.id none] }

def markReleased (n : Nat) (lease : LeaseState) (ticket : CleanupTicket) (s : SharedService) :
    SharedService :=
  { s with leases := s.leases.set n { lease with released := some ticket } }

def withdraw (id : Nat) (s : SharedService) : SharedService :=
  let admission := { s.admission with active := s.admission.active.erase id }
  if s.admission.closed || s.coordinator.returned then { s with admission }
  else { s with admission, commands := s.commands ++ [.release id] }

/-- `release` of the `n`-th lease: the service and the ticket. -/
def release (n : Nat) (lease : LeaseState) (s : SharedService) : SharedService × CleanupTicket :=
  match lease.released with
  | some ticket => (s, ticket)
  | none =>
    if !s.alive then (s.markReleased n lease .closed, .closed)
    else
      let ticket := if s.admission.closed then .closed else .pending lease.id
      ((s.withdraw lease.id).markReleased n lease ticket, ticket)

/-- `request_close`, under the lock. -/
def requestClose : SharedService :=
  if s.admission.closed then s
  else
    { s with
      admission := { s.admission with closed := true, active := ∅ }
      closeUnsent := true }

/-- `request_close` sends `Close`. -/
def sendClose : SharedService :=
  if !s.closeUnsent then s
  else if s.coordinator.returned then { s with closeUnsent := false }
  else { s with commands := s.commands ++ [.close], closeUnsent := false }

/-! ## The coordinator -/

/-- `notify_waiters`. -/
def notifyWaiters (waiters : List Nat) (result : SnapshotResult) (s : SharedService) :
    SharedService :=
  { s with answered := s.answered ++ waiters.map fun waiter => (waiter, result) }

/-- A platform start begins. -/
def beginStart (snapshot : SnapshotResult) (s : SharedService) : SharedService :=
  { s with
    coordinator := { s.coordinator with
      start := some s.starts, startRevision := revisionOf snapshot }
    starts := s.starts + 1 }

def failedDuringStart (snapshot : SnapshotResult) (c : Coordinator) : Bool :=
  c.start.isSome &&
    match snapshot with
    | .ok snapshot => c.startRevision < snapshot.revision && snapshot.state.isFailed
    | .error _ => false

/-- `Ensure` joins the start in flight, or the one to follow if its facts have failed, or begins
one. -/
def handleEnsure (snapshot : SnapshotResult) (waiter : Option Nat) (s : SharedService) :
    SharedService :=
  if failedDuringStart snapshot s.coordinator then
    { s with coordinator := { s.coordinator with
        retryRequested := true
        retryWaiters := s.coordinator.retryWaiters ++ waiter.toList } }
  else
    let s := { s with coordinator := { s.coordinator with
        waiters := s.coordinator.waiters ++ waiter.toList } }
    if s.coordinator.start.isNone then s.beginStart snapshot else s

/-- The start is dropped, and who waits is answered. -/
def abandon (result : SnapshotResult) (s : SharedService) : SharedService :=
  { s with coordinator := { s.coordinator with
      start := none, retryRequested := false, waiters := [], retryWaiters := [] } }.notifyWaiters
    (s.coordinator.waiters ++ s.coordinator.retryWaiters) result

/-- `Release` of a lease. -/
def handleRelease (snapshot : SnapshotResult) (id : Nat) (s : SharedService) : SharedService :=
  let active := s.coordinator.active.erase id
  let s := { s with coordinator := { s.coordinator with active } }
  if active = ∅ then s.abandon snapshot else s

/-- `Close` ends the loop. -/
def stop : SharedService :=
  let s := s.abandon (.error (.new .closed))
  { s with coordinator := { s.coordinator with returned := true } }

/-- A command in the loop of `coordinate`. -/
def handle (snapshot : SnapshotResult) (s : SharedService) : Command → SharedService
  | .acquire id =>
    { s with coordinator := { s.coordinator with active := insert id s.coordinator.active } }
  | .ensure id waiter =>
    if id ∈ s.coordinator.active then s.handleEnsure snapshot waiter
    else s.notifyWaiters waiter.toList (.error (.new .closed))
  | .release id => s.handleRelease snapshot id
  | .close => s.stop

/-- One command; `snapshot` is the reading it needs. -/
def receive (snapshot : SnapshotResult) (s : SharedService) : SharedService :=
  if s.coordinator.returned then s
  else
    match s.commands with
    | [] => s
    | command :: rest => { s with commands := rest }.handle snapshot command

/-- The start ends: waiters are answered, those who asked for another get it. -/
def finishStart (result snapshot : SnapshotResult) (s : SharedService) : SharedService :=
  if s.coordinator.start.isNone then s
  else
    let answered := { s with coordinator := { s.coordinator with
        start := none, waiters := [] } }.notifyWaiters s.coordinator.waiters result
    if s.coordinator.retryRequested && s.coordinator.active ≠ ∅ then
      { answered with coordinator := { answered.coordinator with
          retryRequested := false
          waiters := s.coordinator.retryWaiters
          retryWaiters := [] } }.beginStart snapshot
    else answered

/-! ## The system -/

inductive Action where
  | acquire (snapshot : SnapshotResult)
  | ensure (lease : Nat) (wait : Bool)
  | release (lease : Nat)
  | requestClose
  | sendClose
  | dropService
  | command (snapshot : SnapshotResult)
  | startFinished (result snapshot : SnapshotResult)

def settle : Except NetError SharedService → SharedService
  | .ok s' => s'
  | .error _ => s

/-- One section, or one turn. -/
def step : Action → SharedService
  | .acquire snapshot => s.settle (s.acquire snapshot)
  | .ensure n wait =>
    match s.leases[n]? with
    | some lease => s.settle (s.ensure lease wait)
    | none => s
  | .release n =>
    match s.leases[n]? with
    | some lease => (s.release n lease).1
    | none => s
  | .requestClose => s.requestClose
  | .sendClose => s.sendClose
  -- the last strong reference goes first; `drop` then calls `request_close`
  | .dropService => { s with alive := false }
  | .command snapshot => s.receive snapshot
  | .startFinished result snapshot => s.finishStart result snapshot

end SharedService

end OpenNet.NetStatus
