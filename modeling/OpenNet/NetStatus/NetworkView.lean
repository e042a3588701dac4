import OpenNet.Error
import OpenNet.Foundation.Checked

/-!
# Network snapshots and their named views

Model of `module/net_status/inner/network_view.rs` and of the snapshot part of
`coordinated_view.rs`.  A view imports the snapshots of the shared source under revisions of its
own, as long as it is active, and never goes back to an older one.

What a view sends to its observers is not kept here: `ViewAnswers` says whether the room for it
could be reserved and whether the state publisher took the snapshot.  A failed view is closed.
-/

namespace OpenNet.NetStatus

open Checked

inductive NetworkStatus where
  | unavailable | available
  deriving DecidableEq, Repr

inductive IpStack where
  | none | v4Only | v6Only | dualStack
  deriving DecidableEq, Repr

inductive MonitorState where
  | stopped | starting | running
  | failed (error : NetError)
  | closed
  deriving DecidableEq, Repr

structure NetworkSnapshot where
  revision : Nat := 0
  lossEpoch : Nat := 0
  state : MonitorState := .stopped
  reachability : Option NetworkStatus := none
  ipStack : Option IpStack := none
  observedAt : Option Nat := none
  networkName : Option String := none
  deriving DecidableEq, Repr

/-- A client's view of the source. -/
structure NetworkView where
  snapshot : NetworkSnapshot := {}
  generation : Nat := 0
  active : Bool := false
  sourceRevision : Option Nat := none
  projectedSourceRevision : Option Nat := none
  deriving DecidableEq, Repr

variable (source : NetworkSnapshot)

namespace NetworkView

/-- `closed`. -/
def closed (v : NetworkView) : Bool := v.snapshot.state = .closed

/-- `stop`. -/
def stop (permanent : Bool) (v : NetworkView) : Except NetError (NetworkView × Bool) :=
  if v.closed || (!permanent && !v.active && v.snapshot.state = .stopped) then .ok (v, false)
  else
    match checkedAdd u64Max v.snapshot.revision 1 with
    | none => .error (.new .resourceExhausted)
    | some revision =>
      .ok ({ v with
        active := false
        projectedSourceRevision := none
        snapshot := { revision, lossEpoch := v.snapshot.lossEpoch
                      state := if permanent then .closed else .stopped } }, true)

/-- `import`: only newer snapshots, with `force` equal ones too. -/
def importSource (force : Bool) (v : NetworkView) : Except NetError (NetworkView × Bool) :=
  if v.closed then .ok (v, false)
  else if source.state = .closed then v.stop true
  else if !force && (!v.active || v.sourceRevision.any (source.revision ≤ ·)) then .ok (v, false)
  else if v.sourceRevision.any (source.revision < ·) then .ok (v, false)
  else
    match checkedAdd u64Max v.snapshot.revision 1 with
    | none => .error (.new .resourceExhausted)
    | some revision =>
      .ok ({ v with
        sourceRevision := some source.revision
        projectedSourceRevision := some source.revision
        snapshot := { source with revision } }, true)

/-- `activate`. -/
def activate (v : NetworkView) : Except NetError (NetworkView × Bool) :=
  if v.closed || source.state = .closed then .error (.new .closed)
  else
    match checkedAdd u64Max v.generation 1 with
    | none => .error (.new .resourceExhausted)
    | some generation => { v with generation, active := true }.importSource source true

/-- `refresh`. -/
def refresh (v : NetworkView) : Except NetError (NetworkView × Bool) :=
  if v.projectedSourceRevision = some source.revision ∧ source.state ≠ .closed then .ok (v, false)
  else v.importSource source true

end NetworkView

/-- How `reserve` and the publication end. -/
structure ViewAnswers where
  reserve : Option NetError := none
  published : Option NetError := none

/-- A view, what it has imported and its failure. -/
structure CoordinatedView where
  view : NetworkView := {}
  sourceRevision : Nat := 0
  sequence : Nat := 0
  failure : Option NetError := none
  deriving DecidableEq, Repr

namespace CoordinatedView

/-- `fail`: the first failure closes the view. -/
def fail (error : NetError) (v : CoordinatedView) : CoordinatedView :=
  if v.failure.isSome then v
  else
    { v with
      failure := some error
      view := { v.view with
        active := false
        snapshot := { v.view.snapshot with
          state := .closed, reachability := none, ipStack := none, networkName := none,
          observedAt := none } } }

/-- Whether `prepare` numbers an event for the change. -/
def announces (previous current : NetworkSnapshot) (activated : Bool) : Bool :=
  if current.state = .running then
    match previous.reachability, current.reachability with
    | _, none => false
    | before, some after =>
      activated || previous.state ≠ .running || before.any (· ≠ after)
  else
    activated ||
      match previous.state, current.state with
      | .stopped, .stopped | .starting, .starting | .failed _, .failed _ | .closed, .closed => false
      | _, _ => true

/-- `prepare`: publish the snapshot and number the event it makes. -/
def prepare (previous : NetworkSnapshot) (activated : Bool) (published : Option NetError)
    (v : CoordinatedView) : CoordinatedView :=
  match published with
  | some error => v.fail error
  | none =>
    if announces previous v.view.snapshot activated then
      match checkedAdd u64Max v.sequence 1 with
      | none => v.fail (.new .resourceExhausted)
      | some sequence => { v with sequence }
    else v

/-- A view follows the source. -/
def project (revision : Nat) (failure : Option NetError) (answers : ViewAnswers)
    (v : CoordinatedView) : CoordinatedView :=
  if v.view.closed then v
  else
    let result : Except NetError (NetworkView × Bool) := match answers.reserve, failure with
      | some error, _ => .error error
      | none, some error => .error error
      | none, none => v.view.importSource source false
    match result with
    | .error error => v.fail error
    | .ok (_, false) => v
    | .ok (view, true) =>
      { v with view, sourceRevision := revision }.prepare v.view.snapshot false answers.published

end CoordinatedView

end OpenNet.NetStatus
