import OpenNet.NetStatus.NetworkView

/-!
# The network status source

Model of `module/net_status/inner/network_status_snapshot.rs`: one versioned snapshot of the
network with the projection that gates WebSocket connections, the publishers of its generations
and the handles of its named views.  Every function is one section of the lock of the source.

A publisher is known by its generation, a handle by the index of its view; a dropped view is one
whose handle is no longer used.  `validate` and the times are arguments.  `commits` records every
committed snapshot, from the initial one on, and `accepted` the identities of the accepted samples.
-/

namespace OpenNet.NetStatus

open Checked

/-- The projection that gates WebSocket connections. -/
structure NetworkStatusSnapshot where
  revision : Nat := 0
  lossEpoch : Nat := 0
  status : Option NetworkStatus := none
  deriving DecidableEq, Repr

/-- The source, its views and what it published. -/
structure SourceState where
  generation : Nat := 0
  active : Bool := false
  revision : Nat := 0
  lossEpoch : Nat := 0
  snapshot : NetworkSnapshot := {}
  gating : NetworkStatusSnapshot := {}
  publicationError : Option NetError := none
  views : List CoordinatedView := []
  lastSampleId : Nat := 0
  commits : List NetworkSnapshot := [{}]
  accepted : List Nat := []

/-- What the observers answer during one operation. -/
structure Answers where
  published : Option NetError := none
  views : Nat → ViewAnswers := fun _ => {}

/-- The result of a commit. -/
structure NetworkPublication where
  result : Option NetError := none
  deriving DecidableEq, Repr

/-- Captured before a platform query, validated at the commit. -/
structure NetworkRefreshTarget where
  ownerGeneration : Nat
  sourceGeneration : Nat
  deriving DecidableEq, Repr

/-- `increment`: checked. -/
def increment (value : Nat) : Except NetError Nat :=
  match checkedAdd u64Max value 1 with
  | none => .error (.new .internal)
  | some next => .ok next

/-- `same_observation`. -/
def sameObservation (snapshot : NetworkSnapshot) (reachability : NetworkStatus)
    (ipStack : Option IpStack) : Bool :=
  snapshot.state = .running && snapshot.reachability = some reachability &&
    snapshot.ipStack = ipStack && snapshot.networkName.isNone

variable (s : SourceState)

namespace SourceState

/-- A loss raises the epoch. -/
def nextLossEpoch (reachability : Option NetworkStatus) : Except NetError Nat :=
  if reachability = some .unavailable ∧ s.snapshot.reachability ≠ reachability then
    increment s.lossEpoch
  else .ok s.lossEpoch

/-- `next_snapshot`. -/
def nextSnapshot (target : MonitorState) (reachability : Option NetworkStatus)
    (ipStack : Option IpStack) (observedAt : Option Nat) : Except NetError NetworkSnapshot := do
  let revision ← increment s.revision
  let lossEpoch ← s.nextLossEpoch reachability
  return { revision, lossEpoch, state := target, reachability, ipStack, observedAt }

variable (answers : Answers)

/-- `project_views`. -/
def projectViews (failure : Option NetError) (s : SourceState) : SourceState :=
  { s with views := s.views.mapIdx fun i v =>
      v.project s.snapshot s.revision failure (answers.views i) }

/-- `fail_publication`: source given up, gating fact revoked. -/
def failPublication (error : NetError) (s : SourceState) : SourceState × NetworkPublication :=
  let gating : NetworkStatusSnapshot :=
    if s.gating.status.isSome then
      { revision := (checkedAdd u64Max s.gating.revision 1).getD s.gating.revision
        lossEpoch := s.lossEpoch, status := none }
    else s.gating
  ({ s with active := false, publicationError := some error, gating }.projectViews answers
    (some error), { result := some error })

/-- `commit`. -/
def commit (next : NetworkSnapshot) (s : SourceState) : SourceState × NetworkPublication :=
  let gating : Except NetError NetworkStatusSnapshot :=
    if s.gating.status ≠ next.reachability then
      (increment s.gating.revision).map fun revision =>
        { revision, lossEpoch := next.lossEpoch, status := next.reachability }
    else .ok s.gating
  match gating, answers.published with
  | .error error, _ => s.failPublication answers error
  | .ok _, some error => s.failPublication answers error
  | .ok gating, none =>
    ({ s with revision := next.revision, lossEpoch := next.lossEpoch, snapshot := next, gating,
              commits := s.commits ++ [next] }.projectViews answers none, {})

/-! ## The owner of the source -/

/-- A permanent close wins over a late failure. -/
def fail (error : NetError) (s : SourceState) : SourceState × NetworkPublication :=
  if s.snapshot.state = .closed then (s, {}) else s.failPublication answers error

/-- `begin_generation`. -/
def beginGeneration (s : SourceState) : SourceState × Except NetError (Nat × NetworkPublication) :=
  match s.publicationError with
  | some error => (s, .error error)
  | none =>
    if s.snapshot.state = .closed then (s, .error (.new .closed))
    else
      match increment s.generation with
      | .error error => (s, .error error)
      | .ok generation =>
        match s.nextSnapshot .starting none none none with
        | .error error => (s, .error error)
        | .ok next =>
          let (committed, publication) := { s with generation }.commit answers next
          if publication.result.isNone then
            ({ committed with active := true }, .ok (generation, publication))
          else ({ committed with generation := s.generation }, .ok (generation, publication))

/-- `prepare_terminal`. -/
def prepareTerminal (permanent : Bool) (s : SourceState) : SourceState × NetworkPublication :=
  match s.publicationError with
  | some error => (s, { result := some error })
  | none =>
    if s.snapshot.state = .closed || (!permanent && s.snapshot.state = .stopped) then (s, {})
    else
      match s.nextSnapshot (if permanent then .closed else .stopped) none none none with
      | .error error => s.failPublication answers error
      | .ok next =>
        let (committed, publication) := s.commit answers next
        ({ committed with active := false }, publication)

/-! ## The publisher of a generation -/

/-- `NetworkViewHandle::current`. -/
def current (generation : Nat) : Bool :=
  s.generation = generation && s.active && s.snapshot.state ≠ .closed

/-- `NetworkStatusPublisher::prepare_observation`. -/
def prepareObservation (generation : Nat) (reachability : NetworkStatus) (ipStack : Option IpStack)
    (now : Nat) (s : SourceState) : SourceState × NetworkPublication :=
  if !s.current generation then (s, {})
  else if s.snapshot.state = .running ∧ s.snapshot.reachability = some reachability ∧
      s.snapshot.ipStack = ipStack then (s, {})
  else
    match s.nextSnapshot .running (some reachability) ipStack (some now) with
    | .error error => s.failPublication answers error
    | .ok next => s.commit answers next

def accept (sampleId : Nat) (s : SourceState) : SourceState :=
  { s with lastSampleId := sampleId, accepted := s.accepted ++ [sampleId] }

/-- `prepare_sampled_observation`: samples in order. -/
def prepareSampledObservation (generation sampleId : Nat) (reachability : NetworkStatus)
    (ipStack : Option IpStack) (observedAt : Nat) (validate : Except NetError Bool)
    (s : SourceState) : SourceState × Except NetError (Option NetworkPublication) :=
  if !s.current generation || sampleId ≤ s.lastSampleId then (s, .ok none)
  else
    match validate with
    | .error error => (s, .error error)
    | .ok false => (s, .ok none)
    | .ok true =>
      let s := s.accept sampleId
      if sameObservation s.snapshot reachability ipStack then (s, .ok (some {}))
      else
        match s.nextSnapshot .running (some reachability) ipStack (some observedAt) with
        | .error error => (s, .error error)
        | .ok next =>
          let (committed, publication) := s.commit answers next
          (committed, .ok (some publication))

def endGeneration (generation : Nat) (target : MonitorState) (s : SourceState) :
    SourceState × NetworkPublication :=
  if !s.current generation then (s, {})
  else
    match s.nextSnapshot target none none none with
    | .error error => s.failPublication answers error
    | .ok next =>
      let (committed, publication) := s.commit answers next
      ({ committed with active := false }, publication)

/-- `prepare_finish`: a generation ends, stopped or failed. -/
def prepareFinish (generation : Nat) (target : MonitorState) (s : SourceState) :
    SourceState × NetworkPublication :=
  match target with
  | .starting | .running | .closed => (s, { result := some (.new .invalidInput) })
  | .stopped | .failed _ => s.endGeneration answers generation target

/-! ## The handle of a view -/

/-- `new_view`. -/
def newView (reserved : Bool) (s : SourceState) : SourceState × Except NetError Nat :=
  if s.snapshot.state = .closed then (s, .error (.new .closed))
  else
    match s.publicationError with
    | some error => (s, .error error)
    | none =>
      if !reserved then (s, .error (.withForeign .resourceExhausted "try_reserve"))
      else ({ s with views := s.views ++ [{}] }, .ok s.views.length)

/-- `NetworkViewHandle::activate`. -/
def activate (answers : ViewAnswers) (i : Nat) (s : SourceState) :
    SourceState × Except NetError Nat :=
  match s.views[i]? with
  | none => (s, .error (.new .internal))
  | some v =>
    let failure : Option NetError := (s.publicationError.or v.failure).or answers.reserve
    match failure, v.view.activate s.snapshot with
    | some error, _ => (s, .error error)
    | none, .error error => (s, .error error)
    | none, .ok (view, _) =>
      let v' := { v with view, sourceRevision := s.revision }.prepare v.view.snapshot true
        answers.published
      ({ s with views := s.views.set i v' }, .ok v'.view.generation)

/-- `NetworkViewHandle::retire`. -/
def retire (answers : ViewAnswers) (i : Nat) (permanent : Bool) (failure : Option NetError)
    (s : SourceState) : SourceState :=
  match s.views[i]? with
  | none => s
  | some v =>
    if v.view.closed then s
    else
      let failure : Option NetError := answers.reserve.or failure
      match failure, v.view.stop permanent with
      | some error, _ => { s with views := s.views.set i (v.fail error) }
      | none, .error error => { s with views := s.views.set i (v.fail error) }
      | none, .ok (_, false) => s
      | none, .ok (view, true) =>
        let v' := { v with view }.prepare v.view.snapshot false answers.published
        { s with views := s.views.set i v' }

/-- `NetworkViewHandle::refresh_latest`. -/
def refreshLatest (answers : ViewAnswers) (i : Nat) (s : SourceState) :
    SourceState × Option NetError :=
  match s.views[i]? with
  | none => (s, some (.new .internal))
  | some v =>
    if v.failure.isSome then (s, v.failure)
    else if v.view.closed then (s, none)
    else
      match s.publicationError, v.view.refresh s.snapshot with
      | some error, _ => (s, some error)
      | none, .error error => (s, some error)
      | none, .ok (_, false) => (s, none)
      | none, .ok (view, true) =>
        let v := { v with view, sourceRevision := s.revision }
        let v := match answers.published with
          | some error => v.fail error
          | none => v
        ({ s with views := s.views.set i v }, none)

/-- What stands in the way of a refresh at its commit. -/
def refreshAllowed (i : Nat) (target : NetworkRefreshTarget) (sampleId : Nat) (s : SourceState) :
    Option NetError :=
  match s.views[i]? with
  | none => some (.new .internal)
  | some v =>
    match v.failure with
    | some error => some error
    | none =>
      if v.view.closed || s.snapshot.state = .closed then some (.new .closed)
      else if target.ownerGeneration ≠ v.view.generation ||
          target.sourceGeneration ≠ s.generation || !v.view.active || !s.active ||
          v.view.snapshot.state ≠ .running || s.snapshot.state ≠ .running ||
          sampleId ≤ s.lastSampleId then some (.new .cancelled)
      else none

/-- `commit_refresh`: the sample keeps the IP stack that is known. -/
def commitRefresh (i : Nat) (target : NetworkRefreshTarget) (sampleId : Nat)
    (reachability : NetworkStatus) (observedAt : Nat) (validate : Option NetError)
    (s : SourceState) :
    SourceState × Except NetError (Except NetError NetworkSnapshot × NetworkPublication) :=
  match s.refreshAllowed i target sampleId, validate with
  | some error, _ => (s, .error error)
  | none, some error => (s, .error error)
  | none, none =>
    let s := s.accept sampleId
    let ipStack := s.snapshot.ipStack
    let committed : SourceState × Except NetError NetworkPublication :=
      if sameObservation s.snapshot reachability ipStack then (s, .ok {})
      else
        match s.nextSnapshot .running (some reachability) ipStack (some observedAt) with
        | .error error => (s, .error error)
        | .ok next => ((s.commit answers next).1, .ok (s.commit answers next).2)
    match committed with
    | (s, .error error) => (s, .error error)
    | (s, .ok publication) =>
      let snapshot : Except NetError NetworkSnapshot := match s.views[i]? with
        | none => .error (.new .internal)
        | some v => match v.failure with
          | some error => .error error
          | none => .ok v.view.snapshot
      (s, .ok (snapshot, publication))

end SourceState

/-! ## The system -/

/-- A call of a publisher or of a view's handle. -/
inductive SourceAction where
  | fail (answers : Answers) (error : NetError)
  | beginGeneration (answers : Answers)
  | terminal (answers : Answers) (permanent : Bool)
  | observation (answers : Answers) (generation : Nat) (reachability : NetworkStatus)
      (ipStack : Option IpStack) (now : Nat)
  | sampled (answers : Answers) (generation sampleId : Nat) (reachability : NetworkStatus)
      (ipStack : Option IpStack) (observedAt : Nat) (validate : Except NetError Bool)
  | finish (answers : Answers) (generation : Nat) (target : MonitorState)
  | newView (reserved : Bool)
  | activate (answers : ViewAnswers) (view : Nat)
  | retire (answers : ViewAnswers) (view : Nat) (permanent : Bool) (failure : Option NetError)
  | refreshLatest (answers : ViewAnswers) (view : Nat)
  | refresh (answers : Answers) (view : Nat) (target : NetworkRefreshTarget) (sampleId : Nat)
      (reachability : NetworkStatus) (observedAt : Nat) (validate : Option NetError)

/-- A call, with its answers. -/
def SourceState.step : SourceAction → SourceState
  | .fail answers error => (s.fail answers error).1
  | .beginGeneration answers => (s.beginGeneration answers).1
  | .terminal answers permanent => (s.prepareTerminal answers permanent).1
  | .observation answers generation reachability ipStack now =>
    (s.prepareObservation answers generation reachability ipStack now).1
  | .sampled answers generation sampleId reachability ipStack observedAt validate =>
    (s.prepareSampledObservation answers generation sampleId reachability ipStack observedAt
      validate).1
  | .finish answers generation target => (s.prepareFinish answers generation target).1
  | .newView reserved => (s.newView reserved).1
  | .activate answers view => (s.activate answers view).1
  | .retire answers view permanent failure => s.retire answers view permanent failure
  | .refreshLatest answers view => (s.refreshLatest answers view).1
  | .refresh answers view target sampleId reachability observedAt validate =>
    (s.commitRefresh answers view target sampleId reachability observedAt validate).1

end OpenNet.NetStatus
