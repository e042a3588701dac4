import OpenNet.Error
import OpenNet.Foundation.Checked
import OpenNet.Foundation.Latch
import OpenNet.Foundation.Machine

/-!
# Bearer authentication

Model of `BearerAuth` (`api/http/auth.rs`).  Each lock section of the state, each access to a gate
and each spawn is one step; `apply` stands for `current_token`, after which it only writes a
header.  A fetch and its `RefreshGate` are one entry of `fetches`, and a gate is known by its
index.  The answers of the token source and the clock are arguments.

`stored` records every stored token with its generation, `returned` what `current_token` returned
and `refreshes` the generations `refresh` was called for.  A rejected response carries a generation
that `current_token` returned, as the client passes the one its request was built with.
-/

namespace OpenNet.Http.Auth

open Checked

/-- A token and its expiry. -/
structure AccessToken where
  value : String
  expiresAt : Option Nat
  deriving DecidableEq, Repr

/-- `is_expired`. -/
def AccessToken.isExpired (token : AccessToken) (now : Nat) : Bool := token.expiresAt.any (· ≤ now)

/-- What a provider makes of a 401. -/
inductive AuthAction where
  | retryWithFreshCredentials | doNotRetry
  deriving DecidableEq, Repr

/-- `provider_failure`. -/
def providerFailure : NetError := (NetError.new .providerFailed).withStage .provider

/-- `sanitize_provider_error`: only the kind stays. -/
def sanitizeProviderError (error : NetError) : NetError :=
  (NetError.new error.kind).withStage .provider

/-- How a call of the token source ended. -/
inductive SourceAnswer where
  | timedOut
  | panicked
  | answered (result : Except NetError AccessToken)

/-- `guarded_source_load`, `guarded_source_refresh`. -/
def SourceAnswer.guarded : SourceAnswer → Except NetError AccessToken
  | timedOut => .error ((NetError.new .timedOut).withStage .provider)
  | panicked => .error providerFailure
  | answered result => result.mapError sanitizeProviderError

/-- The fields behind the lock. -/
structure BearerState where
  token : Option AccessToken := none
  generation : Nat := 0
  inFlight : Option Nat := none
  lastRefreshFailureGeneration : Option Nat := none
  deriving DecidableEq, Repr

/-- Where a fetch is. -/
inductive FetchStage where
  /-- Its gate is in flight and the call has not spawned it. -/
  | claimed
  | spawned
  /-- The source is working on it. -/
  | calling
  | returned (outcome : Except NetError AccessToken)
  | stored (result : Except ErrorKind Unit)
  | written
  | finished

/-- A fetch behind its `RefreshGate`. -/
structure Fetch where
  isRefresh : Bool
  refreshGeneration : Nat
  owner : Nat
  /-- The spawn failed and the owner completes it. -/
  inline : Bool := false
  stage : FetchStage := .claimed
  gate : Latch.Gate (Except ErrorKind Unit) := {}

def FetchStage.pending : FetchStage → Bool
  | claimed | spawned | calling | returned _ => true
  | stored _ | written | finished => false

def FetchStage.called : FetchStage → Bool
  | calling | returned _ => true
  | _ => false

def FetchStage.outstanding : FetchStage → Bool
  | calling => true
  | _ => false

/-- `apply` or `on_unauthorized`. -/
inductive Request where
  | apply
  | unauthorized (status generation : Nat)
  deriving DecidableEq, Repr

inductive Answer where
  | token (result : Except NetError (AccessToken × Nat))
  | action (result : Except NetError AuthAction)

/-- Where a call is. -/
inductive CallStage where
  | enter
  | starting (gate : Nat)
  | completing (gate : Nat)
  | waiting (gate : Nat) (waiter : Latch.Waiter)
  | passed
  | answered (answer : Answer)

structure Call where
  request : Request
  stage : CallStage := .enter

/-- `BearerInner` with fetches, calls and what they did. -/
structure Bearer where
  state : BearerState := {}
  fetches : List Fetch := []
  calls : List Call := []
  stored : List (AccessToken × Nat) := []
  returned : List (AccessToken × Nat) := []
  refreshes : List Nat := []

namespace Bearer

/-! ## A fetch -/

/-- A token that has expired on arrival is a failure. -/
def checkFresh (now : Nat) : Except NetError AccessToken → Except NetError AccessToken
  | .ok token => if token.isExpired now then .error providerFailure else .ok token
  | .error error => .error error

/-- The section of `complete_token_fetch` for the fetch behind `gate`. -/
def completeTokenFetch (gate : Nat) (f : Fetch) (outcome : Except NetError AccessToken)
    (s : BearerState) : BearerState × Except ErrorKind Unit :=
  let next : BearerState × Except ErrorKind Unit := match outcome with
    | .error error => (s, .error error.kind)
    | .ok token => match checkedAdd u64Max s.generation 1 with
      | none => (s, .error providerFailure.kind)
      | some generation =>
        ({ s with token := some token, generation, lastRefreshFailureGeneration := none }, .ok ())
  let state := match f.isRefresh, next.2 with
    | true, .error _ => { next.1 with lastRefreshFailureGeneration := some f.refreshGeneration }
    | _, _ => next.1
  ({ state with inFlight := if state.inFlight = some gate then none else state.inFlight }, next.2)

/-- What a completion adds to the record of stored tokens. -/
def storedTokens (outcome : Except NetError AccessToken) (result : Except ErrorKind Unit)
    (generation : Nat) : List (AccessToken × Nat) :=
  match outcome, result with
  | .ok token, .ok _ => [(token, generation)]
  | _, _ => []

def setFetch (gate : Nat) (f : Fetch) (s : Bearer) : Bearer :=
  { s with fetches := s.fetches.set gate f }

/-- The next section of a fetch. -/
def advance (gate : Nat) (answer : SourceAnswer) (now : Nat) (s : Bearer) : Bearer :=
  match s.fetches[gate]? with
  | none => s
  | some f =>
    match f.stage with
    | .claimed | .finished => s
    | .spawned =>
      let s := s.setFetch gate { f with stage := .calling }
      if f.isRefresh then { s with refreshes := s.refreshes ++ [f.refreshGeneration] } else s
    | .calling => s.setFetch gate { f with stage := .returned (checkFresh now answer.guarded) }
    | .returned outcome =>
      let completed := completeTokenFetch gate f outcome s.state
      let s := s.setFetch gate { f with stage := .stored completed.2 }
      { s with state := completed.1
               stored := s.stored ++ storedTokens outcome completed.2 completed.1.generation }
    | .stored result =>
      s.setFetch gate { f with stage := .written, gate := { f.gate with result := some result } }
    | .written =>
      s.setFetch gate { f with
        stage := .finished, gate := { f.gate with notifications := f.gate.notifications + 1 } }

/-! ## A call -/

def moveCall (i : Nat) (c : Call) (stage : CallStage) (s : Bearer) : Bearer :=
  { s with calls := s.calls.set i { c with stage } }

/-- Join the fetch in flight or claim a new one. -/
def joinOrClaim (i : Nat) (c : Call) (isRefresh : Bool) (refreshGeneration : Nat) (s : Bearer) :
    Bearer :=
  match s.state.inFlight with
  | some gate => s.moveCall i c (.waiting gate .fresh)
  | none =>
    { s with state := { s.state with inFlight := some s.fetches.length }
             fetches := s.fetches ++ [{ isRefresh, refreshGeneration, owner := i }]
             calls := s.calls.set i { c with stage := .starting s.fetches.length } }

/-- `apply` returns the stored token. -/
def returnToken (i : Nat) (c : Call) (token : AccessToken) (s : Bearer) : Bearer :=
  { s.moveCall i c (.answered (.token (.ok (token, s.state.generation)))) with
    returned := s.returned ++ [(token, s.state.generation)] }

/-- The first section of `current_token` and `refresh_if_needed`. -/
def enter (allowRefresh : Bool) (now i : Nat) (c : Call) (s : Bearer) : Bearer :=
  match c.request with
  | .apply =>
    match s.state.token with
    | some token =>
      if !token.isExpired now then s.returnToken i c token else s.joinOrClaim i c false 0
    | none => s.joinOrClaim i c false 0
  | .unauthorized status generation =>
    if status ≠ 401 || !allowRefresh then
      s.moveCall i c (.answered (.action (.ok .doNotRetry)))
    else if generation < s.state.generation && s.state.token.isSome then
      s.moveCall i c (.answered (.action (.ok .retryWithFreshCredentials)))
    else if s.state.lastRefreshFailureGeneration = some generation then
      s.moveCall i c (.answered (.action (.error providerFailure)))
    else s.joinOrClaim i c true generation

/-- The section after the gate has let a call pass. -/
def pass (i : Nat) (c : Call) (s : Bearer) : Bearer :=
  match c.request with
  | .apply =>
    match s.state.token with
    | some token => s.returnToken i c token
    | none => s.moveCall i c (.answered (.token (.error providerFailure)))
  | .unauthorized _ generation =>
    if generation < s.state.generation && s.state.token.isSome then
      s.moveCall i c (.answered (.action (.ok .retryWithFreshCredentials)))
    else s.moveCall i c .enter

def fail (i : Nat) (c : Call) (error : NetError) (s : Bearer) : Bearer :=
  match c.request with
  | .apply => s.moveCall i c (.answered (.token (.error error)))
  | .unauthorized _ _ => s.moveCall i c (.answered (.action (.error error)))

/-- What `wait_for_gate` has read: an error, or the call goes on. -/
def release (i : Nat) (c : Call) : Option (Except ErrorKind Unit) → Bearer → Bearer
  | none, s => s.fail i c providerFailure
  | some (.error kind), s => s.fail i c ((NetError.new kind).withStage .provider)
  | some (.ok _), s => s.moveCall i c .passed

/-- The next section of a call. -/
def runCall (allowRefresh : Bool) (now : Nat) (spawned : Bool) (i : Nat) (s : Bearer) : Bearer :=
  match s.calls[i]? with
  | none => s
  | some c =>
    match c.stage with
    | .enter => s.enter allowRefresh now i c
    | .starting gate =>
      match s.fetches[gate]? with
      | none => s
      | some f =>
        if spawned then
          (s.setFetch gate { f with stage := .spawned }).moveCall i c (.waiting gate .fresh)
        else
          let failed := { f with stage := .returned (.error providerFailure), inline := true }
          (s.setFetch gate failed).moveCall i c (.completing gate)
    | .completing gate =>
      match s.fetches[gate]? with
      | none => s
      | some f =>
        match f.stage with
        | .finished => s.moveCall i c (.waiting gate .fresh)
        | _ => s.advance gate .panicked now
    | .waiting gate waiter =>
      match s.fetches[gate]? with
      | none => s
      | some f =>
        match waiter.step f.gate with
        | .waiting waiter => s.moveCall i c (.waiting gate waiter)
        | .read result => s.release i c result
    | .passed => s.pass i c
    | .answered _ => s

end Bearer

inductive BearerAction where
  | call (request : Request)
  | run (call : Nat) (now : Nat) (spawned : Bool)
  | fetch (gate : Nat) (answer : SourceAnswer) (now : Nat)

/-- A rejected response carries a generation that was returned. -/
def Bearer.credible (s : Bearer) : Request → Bool
  | .apply => true
  | .unauthorized _ generation => s.returned.any (·.2 = generation)

/-- One step; a provider made by `from_static` may not refresh. -/
def Bearer.step (allowRefresh : Bool) (s : Bearer) : BearerAction → Bearer
  | .call request => if s.credible request then { s with calls := s.calls ++ [{ request }] } else s
  | .run i now spawned => s.runCall allowRefresh now spawned i
  | .fetch gate answer now =>
    if s.fetches[gate]?.any (·.inline) then s else s.advance gate answer now

end OpenNet.Http.Auth
