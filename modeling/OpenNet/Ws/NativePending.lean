import Mathlib.Data.List.AList
import Mathlib.Logic.Function.Basic
import OpenNet.Foundation.Fallible
import OpenNet.Ws.OperationControl

/-!
# The table of pending requests

Model of `src/module/ws_client/native_pending.rs`, with the registrations of
`src/api/ws/request_control.rs`.  The table correlates responses with requests; its lock owns
the terminal arbitration of every request, and what it selects is published after the lock
has been released.

Every critical section of the table's lock is one function from the session before to the session
after, with the sections of the controls it enters nested inside.  A `HashMap` is an association
list with distinct keys; its order stands for the unspecified order of iteration.  Poisoned locks
are not modelled, and an allocation that may fail is an argument of the section that asks for it.
-/

namespace OpenNet.Ws

/-! ## Vocabulary -/

/-- `OperationControl::id`. -/
abbrev OpId := Nat

structure SessionConfig where
  clientId : Nat
  sessionId : Nat
  /-- The one grace window of a response that was dispatched for manual resolution. -/
  grace : Nat
  maxDispatches : Nat
  /-- The last instant the clock can represent. -/
  instantMax : Nat
  /-- The configuration of every operation. -/
  control : OpId → OperationConfig

inductive ResponseTimeoutOrigin where
  | registered | written
  deriving DecidableEq, Repr

structure RequestOptions where
  sendDeadline : Option Nat := none
  responseTimeout : Nat
  responseTimeoutOrigin : ResponseTimeoutOrigin := .written
  registrationDeadline : Option Nat := none
  deriving DecidableEq, Repr

/-- A registration's credentials; `own`: of this table. -/
structure RequestRegistration where
  requestId : RequestId
  token : Nat
  own : Bool := true
  deriving DecidableEq, Repr

/-- The identity of a message dispatched for manual resolution. -/
structure IncomingDispatch where
  id : Nat
  own : Bool := true
  deriving DecidableEq, Repr

/-- An inbound item; a control frame has no message. -/
structure IncomingMessage where
  clientId : Nat
  sessionId : Nat
  connectionId : Nat
  message : Option Message
  dispatch : Option IncomingDispatch := none
  deriving DecidableEq, Repr

/-- A message that answers a request. -/
structure Response where
  requestId : RequestId
  message : Message
  connectionId : Nat
  deriving DecidableEq, Repr

def Response.fromIncoming (requestId : RequestId) (incoming : IncomingMessage) :
    Except NetError Response :=
  match incoming.message with
  | none => .error (NetError.new .invalidInput)
  | some message => .ok { requestId, message, connectionId := incoming.connectionId }

inductive ResolveOutcome where
  | resolved | staleOrFinished | foreignOrigin
  deriving DecidableEq, Repr

/-! ## Entries -/

/-- A request that waits for its response. -/
structure PendingEntry where
  op : OpId
  token : Nat
  /-- The original response deadline, once it is established. -/
  timing : Option Nat
  connectionId : Option Nat := none
  boundAt : Option Nat := none
  responseTimeout : Nat
  timeoutOrigin : ResponseTimeoutOrigin
  absoluteDeadline : Option Nat
  graceDeadline : Option Nat := none
  graceUsed : Bool := false
  deferredError : Option NetError := none
  deferredCause : Option TaskEndCause := none

/-- A message given out for manual resolution. -/
structure DispatchRecord where
  connectionId : Nat
  tokenWatermark : Nat
  receivedAt : Nat
  expiresAt : Nat
  deriving DecidableEq, Repr

abbrev Dispatches := AList fun _ : Nat => DispatchRecord

/-- `timeout`. -/
def timeout : NetError :=
  ((NetError.new .timedOut).withStage .response).withWsTimeoutPhase .response

/-- `add`: checked by the clock. -/
def SessionConfig.add (E : SessionConfig) (instant duration : Nat) : Except NetError Nat :=
  match Checked.checkedAdd E.instantMax instant duration with
  | some sum => .ok sum
  | none => .error (NetError.config "response_timeout" "exceeds monotonic clock range")

namespace PendingEntry

variable (E : SessionConfig) (entry : PendingEntry)

/-- `response_deadline`. -/
def responseDeadline : Option Nat := entry.graceDeadline.or entry.timing

/-- `budget`. -/
def budget : Option TimeoutBudget :=
  TimeoutBudget.earlier (E.control entry.op).absoluteBudget
    (entry.responseDeadline.map fun instant => ⟨instant, .response⟩)

/-- `deadline`. -/
def deadline : Option Nat := (entry.budget E).map (·.instant)

/-- `timeout_error`. -/
def timeoutError : NetError :=
  match (entry.budget E).filter (·.phase ≠ .response) with
  | some budget => budget.timeoutError
  | none => entry.deferredError.getD timeout

/-- The live records accepted for this entry in time. -/
def accepted (dispatches : Dispatches) (now : Nat) : List DispatchRecord :=
  (dispatches.entries.map (·.2)).filter fun record =>
    entry.connectionId = some record.connectionId &&
      entry.boundAt.any (· ≤ record.receivedAt) &&
      entry.token ≤ record.tokenWatermark &&
      now < record.expiresAt &&
      entry.timing.all (record.receivedAt ≤ ·)

/-- `grace_deadline`: how long a response may be resolved, once. -/
def graceUntil (dispatches : Dispatches) (now : Nat) (disconnected : Bool) : Option Nat :=
  if entry.graceUsed || due entry.absoluteDeadline now then none
  else match ((entry.accepted dispatches now).map (·.expiresAt)).max? with
    | none => none
    | some deadline =>
      let base := if disconnected then now else entry.timing.getD now
      match Checked.checkedAdd E.instantMax base E.grace with
      | none => none
      | some bound =>
        (earliest (some (min deadline bound)) entry.absoluteDeadline).filter (now < ·)

def deferred (deadline : Nat) (error : NetError) (cause : TaskEndCause) : PendingEntry :=
  { entry with
    graceUsed := true
    graceDeadline := some deadline
    deferredError := some error
    deferredCause := some cause }

end PendingEntry

/-! ## The session -/

/-- The fields behind the table's lock. -/
structure PendingState where
  entries : AList fun _ : RequestId => PendingEntry := ∅
  dispatches : Dispatches := ∅
  nextToken : Nat := 0
  nextDispatch : Nat := 0
  active : Option Nat := none
  closed : Bool := false

/-- A registration that was accepted. -/
structure Registered where
  id : RequestId
  token : Nat
  op : OpId
  deriving DecidableEq, Repr

/-- A retired entry, with what is to be published for it. -/
structure Completion where
  registered : Registered
  publication : OperationPublication
  response : Except NetError Response

/-- `NativePending` with its controls and oneshots. -/
structure Session where
  ops : OpId → OperationState
  table : PendingState := {}
  /-- The table can still be reached: its `Drop` has not begun. -/
  alive : Bool := true
  /-- The entries `Drop` has taken and not yet retired. -/
  dropping : List (Registered × PendingEntry) := []
  /-- Completions that were selected and not yet dispatched. -/
  completions : List Completion := []
  /-- Publications that were selected without a completion and not yet dispatched. -/
  publications : List (OpId × OperationPublication) := []
  sent : List (Registered × Except NetError Response) := []
  registered : List Registered := []

namespace Session

variable (E : SessionConfig) (w : Session)

def entryAt (id : RequestId) : Option PendingEntry := w.table.entries.lookup id

/-- `matching_entry`. -/
def matchingEntry (id : RequestId) (token : Nat) : Option PendingEntry :=
  (w.entryAt id).filter (·.token = token)

def setOp (op : OpId) (s : OperationState) : Session := { w with ops := Function.update w.ops op s }

def setEntry (id : RequestId) (entry : PendingEntry) : Session :=
  { w with table := { w.table with entries := w.table.entries.insert id entry } }

def eraseEntry (id : RequestId) : Session :=
  { w with table := { w.table with entries := w.table.entries.erase id } }

def complete (c : Completion) : Session := { w with completions := w.completions ++ [c] }

/-- `OperationPublication::dispatch`. -/
def publish (op : OpId) (p : OperationPublication) : Session :=
  { w with publications := w.publications ++ [(op, p)] }

/-- `selected_error`. -/
def selectedError (s : OperationState) (fallback : NetError) : NetError :=
  s.selectedError.getD fallback

variable (v : View)

/-- Select a failure, remove the entry and complete it with the selected error. -/
def retire (id : RequestId) (entry : PendingEntry) (error : NetError) (cause : TaskEndCause) :
    Session :=
  let (_, publication, s) := (w.ops entry.op).selectFailure (E.control entry.op) v error cause
  ((w.setOp entry.op s).eraseEntry id).complete
    { registered := ⟨id, entry.token, entry.op⟩, publication
      response := .error (selectedError s error) }

/-- The entry enters its grace window. -/
def deferEntry (id : RequestId) (entry : PendingEntry) (deadline : Nat) (error : NetError)
    (cause : TaskEndCause) : Session :=
  (w.setEntry id (entry.deferred deadline error cause)).setOp entry.op
    ((w.ops entry.op).setResponseDeadline (some deadline))

/-- Select a response, remove the entry and complete it with that, or the selected error. -/
def settle (id : RequestId) (entry : PendingEntry) (response : Response) : Bool × Session :=
  let s := w.ops entry.op
  let (won, publication, s) :=
    s.complete (E.control entry.op) v (s.selectResponse (E.control entry.op) v)
  (won, ((w.setOp entry.op s).eraseEntry id).complete
    { registered := ⟨id, entry.token, entry.op⟩, publication
      response := if won then .ok response
        else .error (selectedError s (NetError.new .closed)) })

/-! ## Registration and writing -/

def registeredDeadline (options : RequestOptions) : Except NetError (Option Nat) :=
  match options.responseTimeoutOrigin with
  | .registered => (E.add v.now options.responseTimeout).map some
  | .written => .ok none

/-- The checks of `register`: token, response deadline and bound control. Options were validated
before. -/
def registration (op : OpId) (id : RequestId) (options : RequestOptions) (allocated : Bool) :
    Except NetError (Nat × Option Nat × OperationState) := do
  Fallible.ensure ((E.control op).sessionId = E.sessionId) (NetError.new .closed)
  Fallible.ensure (w.table.closed = false) (NetError.new .closed)
  Fallible.ensure (w.entryAt id).isNone (NetError.new .duplicateRequestId)
  Fallible.report ((w.ops op).result.map fun
    | .ok _ => NetError.new .closed
    | .error error => error)
  Fallible.ensure (allocated) (NetError.new .resourceExhausted)
  let token ← Fallible.required (Checked.checkedAdd Checked.u64Max w.table.nextToken 1)
    (NetError.new .resourceExhausted)
  let budget := TimeoutBudget.earlier (E.control op).absoluteBudget
    (options.registrationDeadline.map fun instant => ⟨instant, .admission⟩)
  Fallible.report ((budget.filter (·.instant ≤ v.now)).map (·.timeoutError))
  let deadline ← registeredDeadline E v options
  let bound ← (w.ops op).bindRequest (E.control op) v ⟨id, token⟩
  return (token, deadline, bound)

/-- `register`. -/
def register (op : OpId) (id : RequestId) (options : RequestOptions) (allocated : Bool) :
    Except NetError RequestRegistration × Session :=
  match w.registration E v op id options allocated with
  | .error error => (.error error, w)
  | .ok (token, deadline, bound) =>
    let entry : PendingEntry :=
      { op, token
        timing := deadline
        responseTimeout := options.responseTimeout
        timeoutOrigin := options.responseTimeoutOrigin
        absoluteDeadline := options.sendDeadline }
    (.ok { requestId := id, token },
      { (w.setOp op (bound.setResponseDeadline deadline)) with
        table := { w.table with
          nextToken := token
          entries := w.table.entries.insert id entry }
        registered := w.registered ++ [⟨id, token, op⟩] })

/-- `activate_connection`. -/
def activateConnection (connection : Nat) : Except NetError Unit × Session :=
  if w.table.closed then (.error (NetError.new .closed), w)
  else (.ok (), { w with table := { w.table with active := some connection } })

/-- `bind_connection`. -/
def bindConnection (registration : RequestRegistration) (connection : Nat) :
    Except NetError Bool × Session :=
  if registration.own = false then (.error (NetError.new .invalidInput), w)
  else if w.table.active ≠ some connection then (.error (NetError.new .notConnected), w)
  else match w.matchingEntry registration.requestId registration.token with
    | none => (.ok false, w)
    | some entry =>
      if entry.connectionId = some connection then (.ok true, w)
      else (.ok true, w.setEntry registration.requestId
        { entry with boundAt := some v.now, connectionId := some connection })

/-- A deadline counted from the write is established once. -/
def establish (entry : PendingEntry) (writtenAt : Nat) : Except NetError PendingEntry :=
  match entry.timeoutOrigin with
  | .registered => .ok entry
  | .written => (E.add writtenAt entry.responseTimeout).map fun deadline =>
      { entry with timing := entry.timing.or (some deadline) }

/-- A response due at its write enters its grace window. -/
def graced (entry : PendingEntry) : PendingEntry :=
  if due (entry.deadline E) v.now then
    match entry.graceUntil E w.table.dispatches v.now false with
    | some deadline => entry.deferred deadline timeout .expired
    | none => entry
  else entry

/-- The locked half of `mark_written`, its timing settled. -/
def selectEntryWritten (id : RequestId) (entry : PendingEntry) : Bool × Session :=
  let s := (w.ops entry.op).setResponseDeadline entry.responseDeadline
  let (written, publication, s) :=
    s.complete (E.control entry.op) v (s.selectWritten (E.control entry.op) v)
  let selected := (w.setEntry id entry).setOp entry.op s
  match (if written then none else s.selectedError) with
  | some error =>
    (written, (selected.eraseEntry id).complete
      { registered := ⟨id, entry.token, entry.op⟩, publication, response := .error error })
  | none => (written, selected.publish entry.op publication)

/-- `mark_written`. -/
def markWritten (registration : RequestRegistration) (writtenAt : Nat) :
    Except NetError Bool × Session :=
  if registration.own = false then (.error (NetError.new .invalidInput), w)
  else match w.matchingEntry registration.requestId registration.token with
    | none => (.ok false, w)
    | some entry => match establish E entry writtenAt with
      | .error error => (.error error, w)
      | .ok entry =>
        let (written, w) := w.selectEntryWritten E v registration.requestId (w.graced E v entry)
        (.ok written, w)

/-- `refresh_response_deadline`. -/
def refreshResponseDeadline (id : RequestId) (token : Nat) : Session :=
  match w.matchingEntry id token with
  | none => w
  | some entry =>
    if due (entry.deadline E) v.now = false then w
    else match entry.graceUntil E w.table.dispatches v.now false with
      | some deadline => w.deferEntry id entry deadline timeout .expired
      | none => w.retire E v id entry (entry.timeoutError E) (entry.deferredCause.getD .expired)

/-- `requeue`. -/
def requeue (registration : RequestRegistration) : Except NetError Bool × Session :=
  if registration.own = false then (.error (NetError.new .invalidInput), w)
  else match w.matchingEntry registration.requestId registration.token with
    | none => (.ok false, w)
    | some entry =>
      if (entry.graceUntil E w.table.dispatches v.now true).isSome || entry.deferredError.isSome
      then (.ok false, w)
      else match (w.ops entry.op).requeue (E.control entry.op) v with
        | (false, _) => (.ok false, w)
        | (true, s) =>
          (.ok true, (w.setEntry registration.requestId
            { entry with connectionId := none, boundAt := none }).setOp entry.op s)

/-! ## Termination -/

def failOp (op : OpId) (error : NetError) (cause : TaskEndCause) : TerminationOutcome × Session :=
  let (outcome, publication, s) := (w.ops op).selectFailure (E.control op) v error cause
  (outcome, (w.setOp op s).publish op publication)

/-- `prepare_termination`; what it selects is dispatched after the locks. -/
def prepareTermination (id : RequestId) (token : Nat) (error : NetError) (cause : TaskEndCause)
    (original : Option OpId) : TerminationOutcome × Session :=
  match w.matchingEntry id token with
  | some entry =>
    (((w.ops entry.op).selectFailure (E.control entry.op) v error cause).1,
      w.retire E v id entry error cause)
  | none => match original with
    | some op => w.failOp E v op (NetError.new .engineDropped) .shutdown
    | none => (.alreadyFinished, w)

/-- `terminate`. -/
def terminate (id : RequestId) (token : Nat) (error : NetError) (cause : TaskEndCause) :
    TerminationOutcome × Session :=
  w.prepareTermination E v id token error cause none

/-- `OperationControl::terminate`: by its table while that can be reached. A binding never changes,
so reading it and entering are one step. -/
def terminateControl (op : OpId) (error : NetError) (cause : TaskEndCause) :
    TerminationOutcome × Session :=
  match (w.ops op).pending with
  | none => w.failOp E v op error cause
  | some identity =>
    if w.alive then w.terminate E v identity.id identity.token error cause
    else w.failOp E v op error cause

/-- `OperationControl::prepare_termination`. -/
def prepareControlTermination (op : OpId) (error : NetError) (cause : TaskEndCause) :
    TerminationOutcome × Session :=
  match (w.ops op).pending with
  | none => w.failOp E v op error cause
  | some identity =>
    if w.alive then
      w.prepareTermination E v identity.id identity.token error cause (some op)
    else w.failOp E v op (NetError.new .engineDropped) .shutdown

/-! ## Responses -/

/-- `matches_origin`. -/
def matchesOrigin (incoming : IncomingMessage) : Bool :=
  incoming.clientId = E.clientId && incoming.sessionId = E.sessionId

/-- `complete_response`. -/
def completeResponse (id : RequestId) (incoming : IncomingMessage) :
    Except NetError Bool × Session :=
  if matchesOrigin E incoming = false then (.ok false, w)
  else match Response.fromIncoming id incoming with
    | .error error => (.error error, w)
    | .ok response =>
      if w.table.active ≠ some incoming.connectionId then (.ok false, w)
      else match w.entryAt id with
        | none => (.ok false, w)
        | some entry =>
          if entry.connectionId ≠ some incoming.connectionId then (.ok false, w)
          else if due (entry.deadline E) v.now then
            (.ok false, w.retire E v id entry (entry.timeoutError E) .expired)
          else
            let (won, w) := w.settle E v id entry response
            (.ok won, w)

def liveDispatches (dispatches : Dispatches) (now : Nat) : Dispatches where
  entries := dispatches.entries.filter fun record => now < record.2.expiresAt
  nodupKeys := dispatches.nodupKeys.sublist List.filter_sublist

/-- How long the latest entry may use a response received now. -/
def dispatchExpiry (now : Nat) : List PendingEntry → Except NetError (Option Nat)
  | [] => .ok none
  | entry :: rest => do
    let base ← match entry.timing with
      | some deadline => .ok deadline
      | none => E.add now entry.responseTimeout
    let extended ← E.add base E.grace
    let last ← dispatchExpiry now rest
    return match (earliest (some extended) entry.absoluteDeadline).filter (now < ·) with
      | some expiry => some (last.elim expiry (max expiry))
      | none => last

/-- `register_dispatch`; the answer is the message's identity. -/
def registerDispatch (incoming : IncomingMessage) (allocated : Bool) :
    Except NetError (Option Nat) × Session :=
  if incoming.message.isNone then (.ok none, w)
  else match incoming.dispatch with
  | some identity =>
    (if identity.own then .ok none else .error (NetError.new .invalidInput), w)
  | none =>
    if matchesOrigin E incoming = false then (.error (NetError.new .invalidInput), w)
    else if w.table.closed || w.table.active ≠ some incoming.connectionId then
      (.error (NetError.new .closed), w)
    else
      let live := liveDispatches w.table.dispatches v.now
      let kept := { w with table := { w.table with dispatches := live } }
      let bound := (w.table.entries.entries.map (·.2)).filter
        (·.connectionId = some incoming.connectionId)
      match dispatchExpiry E v.now bound with
      | .error error => (.error error, kept)
      | .ok none => (.ok none, kept)
      | .ok (some expiresAt) =>
        if live.entries.length ≥ E.maxDispatches then
          (.error ((NetError.new .callbackOverflow).withStage .dispatch), kept)
        else if allocated = false then (.error (NetError.new .resourceExhausted), kept)
        else match Checked.checkedAdd Checked.u64Max w.table.nextDispatch 1 with
          | none => (.error (NetError.new .resourceExhausted), kept)
          | some id =>
            (.ok (some id), { w with table := { w.table with
              dispatches := live.insert id
                { connectionId := incoming.connectionId
                  tokenWatermark := w.table.nextToken
                  receivedAt := v.now
                  expiresAt }
              nextDispatch := id } })

/-- A due response may use the grace of a message accepted in time. -/
def graceBound (entry : PendingEntry) (record : DispatchRecord) : Option (Option Nat) :=
  let eligible := entry.timing.any (record.receivedAt ≤ ·)
  let responseBound := entry.timing.bind fun deadline =>
    Checked.checkedAdd E.instantMax deadline E.grace
  let bounded :=
    earliest (earliest (some record.expiresAt) responseBound) entry.absoluteDeadline
  if !eligible || entry.graceUsed || bounded.all (· ≤ v.now) then none
  else some (earliest (some record.expiresAt) responseBound)

/-- The checks of `resolve` under the lock. -/
def resolvable (registration : RequestRegistration) (incoming : IncomingMessage) (dispatch : Nat) :
    Except ResolveOutcome (PendingEntry × DispatchRecord) := do
  let record ← Fallible.required (w.table.dispatches.lookup dispatch) .staleOrFinished
  Fallible.ensure (v.now < record.expiresAt) .staleOrFinished
  Fallible.ensure (record.connectionId = incoming.connectionId) .foreignOrigin
  Fallible.ensure (registration.token ≤ record.tokenWatermark) .foreignOrigin
  let entry ← Fallible.required (w.entryAt registration.requestId) .staleOrFinished
  Fallible.ensure (entry.token = registration.token) .staleOrFinished
  Fallible.ensure (entry.connectionId = some incoming.connectionId) .foreignOrigin
  Fallible.ensure (entry.boundAt.any (· ≤ record.receivedAt)) .foreignOrigin
  Fallible.ensure (due entry.absoluteDeadline v.now = false) .staleOrFinished
  Fallible.ensure (w.table.active = entry.connectionId ∨ entry.deferredError.isSome)
    .staleOrFinished
  return (entry, record)

/-- `resolve` selects the response. -/
def resolveEntry (id : RequestId) (dispatch : Nat) (entry : PendingEntry) (response : Response) :
    ResolveOutcome × Session :=
  let (won, w) := w.settle E v id entry response
  (if won then .resolved else .staleOrFinished,
    { w with table := { w.table with dispatches := w.table.dispatches.erase dispatch } })

/-- `resolve`. -/
def resolve (registration : RequestRegistration) (incoming : IncomingMessage) :
    Except NetError ResolveOutcome × Session :=
  if incoming.message.isNone then
    (.error (NetError.input "incoming" "control frames cannot complete a request"), w)
  else if registration.own = false || matchesOrigin E incoming = false then
    (.ok .foreignOrigin, w)
  else match incoming.dispatch.filter (·.own) with
  | none => (.ok .foreignOrigin, w)
  | some identity => match Response.fromIncoming registration.requestId incoming with
    | .error error => (.error error, w)
    | .ok response => match w.resolvable v registration incoming identity.id with
      | .error outcome => (.ok outcome, w)
      | .ok (entry, record) =>
        if due (entry.deadline E) v.now then
          match graceBound E v entry record with
          | none => (.ok .staleOrFinished, w)
          | some deadline =>
            let (outcome, w) := (w.setOp entry.op
                ((w.ops entry.op).setResponseDeadline deadline)).resolveEntry E v
              registration.requestId identity.id entry response
            (.ok outcome, w)
        else
          let (outcome, w) :=
            w.resolveEntry E v registration.requestId identity.id entry response
          (.ok outcome, w)

/-- `discard_dispatch`. -/
def discardDispatch (incoming : IncomingMessage) : Except NetError Unit × Session :=
  if matchesOrigin E incoming = false then (.error (NetError.new .invalidInput), w)
  else match incoming.dispatch with
  | none => (.ok (), w)
  | some identity =>
    if identity.own = false then (.error (NetError.new .invalidInput), w)
    else if (w.table.dispatches.lookup identity.id).any
        (·.connectionId ≠ incoming.connectionId) then
      (.error (NetError.new .invalidInput), w)
    else (.ok (), { w with
      table := { w.table with dispatches := w.table.dispatches.erase identity.id } })

/-! ## The ends of connections, of the session and of the table -/

def idsOf (p : PendingEntry → Bool) : List RequestId :=
  (w.table.entries.entries.filter fun entry => p entry.2).map (·.1)

/-- A loop over entries by id. -/
def forEntries (part : Session → RequestId → PendingEntry → Session) (ids : List RequestId) :
    Session :=
  ids.foldl (fun w id => match w.entryAt id with
    | some entry => part w id entry
    | none => w) w

/-- `fail_connection`, one entry. -/
def failEntry (error : NetError) (w : Session) (id : RequestId) (entry : PendingEntry) : Session :=
  if entry.graceDeadline.any (v.now < ·) && entry.deferredError.isSome then w
  else match (if entry.graceUsed then none
      else entry.graceUntil E w.table.dispatches v.now true) with
    | some deadline => w.deferEntry id entry deadline error .disconnected
    | none => w.retire E v id entry (entry.deferredError.getD error)
        (entry.deferredCause.getD .disconnected)

/-- `fail_connection`. -/
def failConnection (connection : Nat) (error : NetError) (allocated : Bool) :
    Except NetError Unit × Session :=
  let w := { w with table := { w.table with
    active := if w.table.active = some connection then none else w.table.active } }
  if allocated = false then (.error (NetError.new .resourceExhausted), w)
  else (.ok (), w.forEntries (failEntry E v error) (w.idsOf (·.connectionId = some connection)))

/-- `close`, one entry. -/
def closeEntry (error : NetError) (cause : TaskEndCause) (w : Session) (id : RequestId)
    (entry : PendingEntry) : Session :=
  w.retire E v id entry (entry.deferredError.getD error) (entry.deferredCause.getD cause)

def closing : Session := { w with table := { w.table with closed := true, active := none } }

/-- `close`. -/
def close (error : NetError) (cause : TaskEndCause) : Session :=
  let w := w.closing.forEntries (closeEntry E v error cause) (w.idsOf fun _ => true)
  { w with table := { w.table with dispatches := ∅ } }

def retained (entry : PendingEntry) : Bool :=
  entry.deferredError.isSome && entry.graceDeadline.any (v.now < ·) &&
    entry.absoluteDeadline.all (v.now < ·)

/-- `close_disconnected`. -/
def closeDisconnected (error : NetError) (allocated : Bool) : Except NetError Unit × Session :=
  if allocated = false then (.error (NetError.new .resourceExhausted), w)
  else
    let w := w.closing.forEntries (closeEntry E v error .disconnected)
      (w.idsOf fun entry => !retained v entry)
    (.ok (), { w with table := { w.table with
      dispatches := if w.table.entries.entries = [] then ∅ else w.table.dispatches } })

/-- `next_deadline`. -/
def nextDeadline : (Bool × Option Nat) × Session :=
  if w.table.closed && w.table.entries.entries.isEmpty then
    ((true, none), { w with table := { w.table with dispatches := ∅ } })
  else
    let first := (w.table.dispatches.entries.map (·.2.expiresAt)).min?
    ((false, (w.table.entries.entries.map (·.2.deadline E)).foldl earliest first), w)

/-- `expire_due`, one entry. -/
def expireEntry (w : Session) (id : RequestId) (entry : PendingEntry) : Session :=
  match (if entry.graceUsed then none
      else entry.graceUntil E w.table.dispatches v.now false) with
  | some deadline => w.deferEntry id entry deadline timeout .expired
  | none => w.retire E v id entry (entry.timeoutError E) (entry.deferredCause.getD .expired)

/-- `expire_due`. -/
def expireDue (allocated : Bool) : Except NetError Unit × Session :=
  let w := { w with table := { w.table with
    dispatches := liveDispatches w.table.dispatches v.now } }
  if allocated = false then (.error (NetError.new .resourceExhausted), w)
  else (.ok (), w.forEntries (expireEntry E v) (w.idsOf fun entry => due (entry.deadline E) v.now))

/-- `Drop` takes the entries; the table is out of reach then. -/
def dropBegin : Session :=
  { w with
    alive := false
    dropping := w.table.entries.entries.map fun entry =>
      (⟨entry.1, entry.2.token, entry.2.op⟩, entry.2)
    table := { w.table with entries := ∅ } }

/-- `drop`, one entry. -/
def dropEntry : Session :=
  match w.dropping with
  | [] => w
  | (registered, entry) :: rest =>
    let error := NetError.new .engineDropped
    let (_, publication, s) :=
      (w.ops entry.op).selectFailure (E.control entry.op) v error .shutdown
    ({ (w.setOp entry.op s) with dropping := rest }).complete
      { registered, publication, response := .error (selectedError s error) }

/-- `Completion::dispatch`: the oneshot is sent its value. -/
def dispatch (i : Nat) : Session :=
  match w.completions[i]? with
  | none => w
  | some c =>
    { w with
      completions := w.completions.eraseIdx i
      sent := w.sent ++ [(c.registered, c.response)] }

end Session

end OpenNet.Ws
