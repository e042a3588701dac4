import OpenNet.Subscription.EventState

/-!
# The state source and its registrations

Model of `src/api/subscription/source.rs` and of the state part of
`src/api/subscription/registration.rs`.  A commit (`prepare`) happens under the source lock and
leaves a `StatePublication`, which is dispatched to the registrations later, one `update` at a time
and possibly after a younger publication.  A registration created with `read_committed` may import
the committed state directly, too: `refresh_committed` reads the source in one section and applies
what it read in another.
-/

namespace OpenNet.Subscription

open Checked

variable {α : Type}

abbrev SubscriptionId := Nat

/-- What a publication or a committed read carries to a registration. -/
structure Snapshot (α : Type) where
  value : α
  revision : Nat
  closed : Bool
  failure : Option NetError

/-- The fields behind a registration's lock. -/
structure RegistrationState (α : Type) where
  active : Bool := true
  initial : Option α
  initialRevision : Nat
  latest : α
  revision : Nat
  seen : Nat
  sourceClosed : Bool
  pendingError : Option NetError
  finalError : Option NetError
  executor : Bool := true
  callback : Bool := false
  driver : Bool := false
  scheduled : Bool := false
  running : Bool := false
  receiveWaker : Option WakerId := none
  closeWaker : Option WakerId := none
  lifetime : Bool := false

/-- What a receiver gets. -/
inductive StateDelivery (α : Type) where
  | value (value : α)
  | error (error : NetError)
  | done
  | pending

namespace RegistrationState

/-- `new`. -/
def new (snapshot : Snapshot α) : RegistrationState α where
  initial := some snapshot.value
  initialRevision := snapshot.revision
  latest := snapshot.value
  revision := snapshot.revision
  seen := snapshot.revision
  sourceClosed := snapshot.closed
  pendingError := snapshot.failure
  finalError := snapshot.failure

variable (s : RegistrationState α)

/-- `next`. -/
def next : RegistrationState α × StateDelivery α :=
  if !s.active then (s, .done)
  else match s.initial with
    | some initial => ({ s with initial := none, seen := s.initialRevision }, .value initial)
    | none =>
      if s.seen ≠ s.revision then ({ s with seen := s.revision }, .value s.latest)
      else match s.pendingError with
        | some error => ({ s with pendingError := none }, .error error)
        | none => (s, if s.sourceClosed then .done else .pending)

/-- `pending`. -/
def pending : Bool :=
  s.initial.isSome || s.seen ≠ s.revision || s.pendingError.isSome || s.sourceClosed

/-- `bind_lifetime`. -/
def bindLifetime : RegistrationState α × Except NetError Unit :=
  if !s.active || s.sourceClosed then (s, .error (.new .closed))
  else if s.lifetime then (s, .error (.new .invalidInput))
  else ({ s with lifetime := true }, .ok ())

/-- A newer snapshot; a closing one takes the lifetime token. -/
def install (snapshot : Snapshot α) (s : RegistrationState α) : RegistrationState α :=
  { s with latest := snapshot.value, revision := snapshot.revision,
           sourceClosed := snapshot.closed, pendingError := snapshot.failure,
           finalError := snapshot.failure,
           lifetime := if snapshot.closed then false else s.lifetime }

/-- The section of `update`, and whether to wake and schedule. After an import of the terminal value
its deferred notification is kept, and the error not reinstalled. -/
def update (readCommitted : Bool) (snapshot : Snapshot α) (s : RegistrationState α) :
    RegistrationState α × Bool :=
  if !s.active || snapshot.revision < s.revision then (s, false)
  else if s.sourceClosed then
    if !readCommitted || !snapshot.closed || snapshot.revision ≠ s.revision then (s, false)
    else ({ s with receiveWaker := none }, true)
  else ({ s.install snapshot with receiveWaker := none }, true)

/-- The second section of `refresh_committed`, after the first one's read. -/
def refreshCommitted (snapshot : Snapshot α) (s : RegistrationState α) : RegistrationState α :=
  if !s.active || s.sourceClosed || snapshot.revision < s.revision ||
      (snapshot.revision = s.revision && !snapshot.closed) then s
  else s.install snapshot

/-- `unsubscribe`, first section. -/
def unsubscribe : RegistrationState α × Bool :=
  if !s.active then (s, false)
  else
    ({ s with active := false, initial := none, pendingError := none, callback := false,
              driver := false, executor := false, receiveWaker := none,
              closeWaker := if s.running then s.closeWaker else none, lifetime := false }, true)

/-- `poll_next`. -/
def pollNext (waker : WakerId) (s : RegistrationState α) : RegistrationState α × StateDelivery α :=
  match s.next with
  | (s, .pending) => ({ s with receiveWaker := some waker }, .pending)
  | (s, delivery) => (s, delivery)

end RegistrationState

/-! ## The source -/

/-- The state behind the source's lock. -/
structure SourceState (α : Type) where
  current : α
  revision : Nat := 0
  closed : Bool := false
  failure : Option NetError := none
  registrations : List SubscriptionId := []

/-- A committed update whose user-facing effects are deferred. -/
structure StatePublication (α : Type) where
  current : Option α := none
  revision : Nat := 0
  closed : Bool := false
  failure : Option NetError := none
  registrations : List SubscriptionId := []
  terminalRegistrations : Option (List SubscriptionId) := none
  result : Except NetError Unit := .ok ()

/-- The registrations the publication will be dispatched to. -/
def StatePublication.recipients (p : StatePublication α) : List SubscriptionId :=
  p.registrations ++ p.terminalRegistrations.getD []

/-- What the publication's dispatch hands to each registration. -/
def StatePublication.snapshot? (p : StatePublication α) : Option (Snapshot α) :=
  p.current.map fun value => ⟨value, p.revision, p.closed, p.failure⟩

namespace SourceState

/-- What one section reads of the committed state. -/
def snapshot (source : SourceState α) : Snapshot α :=
  ⟨source.current, source.revision, source.closed, source.failure⟩

/-- `SourceCore::prepare`. With no revision left, the source closes with the overflow and keeps its
value. -/
def prepare (value : Option α) (closing : Bool) (failure : Option NetError) (reserved : Bool)
    (source : SourceState α) : SourceState α × StatePublication α :=
  if source.closed then (source, { result := .error (.new .closed) })
  else
    let next := if value.isSome then checkedAdd u64Max source.revision 1
      else some source.revision
    let overflow := if next.isNone then some (NetError.new .resourceExhausted) else none
    if !closing && overflow.isNone && !reserved then
      (source, { result := .error (.withForeign .resourceExhausted "try_reserve") })
    else
      let current := if next.isSome then value.getD source.current else source.current
      let revision := next.getD source.revision
      let closed := closing || overflow.isSome
      let failure := failure.or overflow
      ({ current, revision, closed, failure,
         registrations := if closed then [] else source.registrations },
       { current := some current, revision, closed, failure,
         registrations := if closed then [] else source.registrations,
         terminalRegistrations := if closed then some source.registrations else none,
         result := match overflow with | some error => .error error | none => .ok () })

/-- The registry entry `subscribe_with_cache` makes. -/
def subscribe (id : SubscriptionId) (source : SourceState α) :
    SourceState α × RegistrationState α :=
  ({ source with registrations := id :: source.registrations },
   RegistrationState.new source.snapshot)

/-- `SourceCore::remove`. -/
def remove (id : SubscriptionId) (source : SourceState α) : SourceState α :=
  { source with registrations := source.registrations.filter (· ≠ id) }

end SourceState

end OpenNet.Subscription
