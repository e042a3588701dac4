import OpenNet.Foundation.KeyedMap
import OpenNet.Foundation.Machine
import OpenNet.Http.TimeoutBudget

/-!
# Request registry and admission

Model of `RequestRegistry`, `RegistrationGuard` and `request_shutdown` of
`src/module/http/http_client_inner.rs`, of the admission transaction of
`src/module/http/admission.rs`, of the leases of `request_completion.rs` and
`http_client_inner.rs` that retire a published request, and of the part of
`middleware_lifecycle.rs` that keeps a request registered while its middleware runs.

A request is a ticket: the signal that `reserve` creates for it, the id it is registered under
and what it holds.  Its number stands for the identity of the signal, which is what `activate`
and `finish` compare.  Every lock section, every change of a semaphore or lane and every access
to the signal's flags is a step.

Waiting for a permit or a slot, an expired budget, a full queue and a dropped future all end in
`rollback`, which may happen at any time before the ticket is published.
-/

namespace OpenNet.Http

abbrev HttpRequestId := Nat

abbrev ControlId := Nat

/-- `RegisteredRequest` under its id. -/
structure Registration where
  id : HttpRequestId
  control : ControlId
  deriving DecidableEq, Repr

/-- The fields behind the registry's lock. -/
structure RegistryState where
  entries : KeyedMap Registration.id := KeyedMap.empty
  reserved : KeyedMap Registration.id := KeyedMap.empty
  nextId : Option Nat := some 1

namespace RegistryState

variable (r : RegistryState)

/-- The ids that cannot be given out. -/
def live : List HttpRequestId :=
  (r.entries.values ++ r.reserved.values).map Registration.id

def taken (id : HttpRequestId) : Bool :=
  r.entries.contains id || r.reserved.contains id

def remaining : Option Nat → Nat
  | none => 0
  | some value => Checked.u64Max - value + 1

/-- The loop skips taken ids and stops when the counter overflows. -/
def allocate (taken : HttpRequestId → Bool) (nextId : Option Nat) :
    Except NetError HttpRequestId × Option Nat :=
  match nextId with
  | none => (.error ((NetError.new .resourceExhausted).withStage .queue), none)
  | some value =>
    if taken value then allocate taken (Checked.checkedAdd Checked.u64Max value 1)
    else (.ok value, Checked.checkedAdd Checked.u64Max value 1)
termination_by remaining nextId
decreasing_by
  cases hnext : Checked.checkedAdd Checked.u64Max value 1 with
  | none => simp [remaining]
  | some next =>
    obtain ⟨rfl, hle⟩ := Checked.checkedAdd_eq_some.mp hnext
    simp only [remaining]
    omega

/-- The id of a new registration and the counter after it. -/
def chooseId : Option HttpRequestId → Except NetError HttpRequestId × Option Nat
  | some id =>
    if r.taken id then (.error ((NetError.new .duplicateRequestId).withStage .queue), r.nextId)
    else (.ok id, r.nextId)
  | none => allocate r.taken r.nextId

/-- `reserve` for the signal `control`; `memory`: the table can grow. -/
def reserve (requested : Option HttpRequestId) (control : ControlId) (memory : Bool) :
    Except NetError HttpRequestId × RegistryState :=
  match r.chooseId requested with
  | (.error error, nextId) => (.error error, { r with nextId })
  | (.ok id, nextId) =>
    if memory then (.ok id, { r with nextId, reserved := r.reserved.insert ⟨id, control⟩ })
    else (.error ((NetError.new .resourceExhausted).withStage .queue), { r with nextId })

def registered (m : KeyedMap Registration.id) (id : HttpRequestId) (control : ControlId) : Bool :=
  (m.get id).any fun registration => registration.control == control

/-- `activate`. -/
def activate (id : HttpRequestId) (control : ControlId) (memory : Bool) :
    Except NetError Unit × RegistryState :=
  if registered r.entries id control then (.ok (), r)
  else if !registered r.reserved id control then
    (.error ((NetError.new .internal).withStage .admission), r)
  else if !memory then (.error ((NetError.new .resourceExhausted).withStage .admission), r)
  else
    (.ok (), { r with reserved := r.reserved.erase id, entries := r.entries.insert ⟨id, control⟩ })

/-- `finish`. -/
def finish (id : HttpRequestId) (control : ControlId) : RegistryState :=
  if registered r.entries id control then { r with entries := r.entries.erase id }
  else if registered r.reserved id control then { r with reserved := r.reserved.erase id }
  else r

/-- `is_empty`. -/
def isEmpty : Bool := r.entries.values.isEmpty && r.reserved.values.isEmpty

end RegistryState

/-- From `dropSlot` on a request gives back its slot, its permit and, by `finish`, its registration;
`finish` first stores and loads the signal's flags. -/
inductive TicketStage where
  | pending | accepted | published
  | dropSlot | dropPermit | storeFinished | loadActive | lockRegistry | retired
  deriving DecidableEq, Repr

/-- The middleware lease of a request and the program of its release. -/
inductive LeaseStage where
  | absent | active | dropPermit | clearActive | loadFinished | lockRegistry | released
  deriving DecidableEq, Repr

def LeaseStage.holdsPermit : LeaseStage → Bool
  | .active | .dropPermit => true
  | _ => false

/-- A request. `permit` is its own handle; a live lease has another, a published request may hand
out more. -/
structure Ticket where
  id : HttpRequestId
  streaming : Bool
  budget : TimeoutBudget
  stage : TicketStage := .pending
  committed : Bool := false
  slot : Bool := false
  permit : Bool := false
  shared : Nat := 0
  lease : LeaseStage := .absent
  cancelled : Bool := false
  complete : Bool := false
  middlewareActive : Bool := false
  transportFinished : Bool := false
  deriving DecidableEq, Repr

namespace Ticket

/-- The handles of the permit. -/
def handles (t : Ticket) : Nat :=
  t.permit.toNat + t.lease.holdsPermit.toNat + t.shared

/-- `CancellationSignal::cancel`. -/
def requestCancel (t : Ticket) : Ticket := if t.complete then t else { t with cancelled := true }

end Ticket

/-- A bounded channel: its free capacity. -/
structure Lane where
  free : Nat
  closed : Bool := false
  deriving DecidableEq, Repr

/-- The client; `drains` records what was live at each drain's end. -/
structure HttpClientInner where
  clockRange : Nat
  registry : RegistryState := {}
  shutdownSent : Bool := false
  inFlight : Nat
  inFlightClosed : Bool := false
  requestTx : Lane
  supervisorTx : Lane
  tickets : List Ticket := []
  signals : List ControlId := []
  drains : List (List HttpRequestId) := []

/-- Waiting, memory and clock are the environment's. -/
inductive ClientAction where
  | begin (requested : Option HttpRequestId) (streaming : Bool) (start : Nat)
      (total admission : Option Nat) (memory : Bool)
  | acquirePermit (control : ControlId)
  | reserveSlot (control : ControlId)
  | accept (control : ControlId) (now : Nat) (memory : Bool)
  | rollback (control : ControlId)
  | lease (control : ControlId)
  | publish (control : ControlId)
  | receive (control : ControlId)
  | share (control : ControlId)
  | unshare (control : ControlId)
  | retire (control : ControlId)
  | proceed (control : ControlId)
  | release (control : ControlId)
  | leaseProceed (control : ControlId)
  | complete (control : ControlId)
  | cancel (id : HttpRequestId)
  | cancelAll
  | signal (control : ControlId)
  | shutdown
  | closeInFlight
  | closeLane (streaming : Bool)
  | drain
  deriving DecidableEq, Repr

def ClientAction.ticket : ClientAction → Option ControlId
  | .acquirePermit c | .reserveSlot c | .accept c _ _ | .rollback c | .lease c | .publish c
  | .receive c | .share c | .unshare c | .retire c | .proceed c | .release c | .leaseProceed c
  | .complete c | .signal c => some c
  | _ => none

namespace HttpClientInner

variable (s : HttpClientInner)

def lane (streaming : Bool) : Lane :=
  if streaming then s.supervisorTx else s.requestTx

def setLane (streaming : Bool) (lane : Lane) : HttpClientInner :=
  if streaming then { s with supervisorTx := lane } else { s with requestTx := lane }

variable (control : ControlId) (t : Ticket)

def setTicket : HttpClientInner :=
  { s with tickets := s.tickets.set control t }

/-- A ticket loses handles: the last one returns the permit. -/
def releaseHandle (t' : Ticket) : HttpClientInner :=
  { s.setTicket control t' with
    inFlight := if 0 < t.handles ∧ t'.handles = 0 then s.inFlight + 1 else s.inFlight }

/-- Give the slot back to its lane. -/
def releaseSlot : HttpClientInner :=
  let lane := s.lane t.streaming
  if t.slot then s.setLane t.streaming { lane with free := lane.free + 1 } else s

/-- `begin_admission`: the budget, then the registration under the gate. -/
def beginAdmission (requested : Option HttpRequestId) (streaming : Bool) (start : Nat)
    (total admission : Option Nat) (memory : Bool) :
    Except NetError HttpRequestId × HttpClientInner :=
  match (TimeoutBudget.total s.clockRange start total).bind fun budget =>
      budget.withPhase s.clockRange start admission .admission with
  | .error error => (.error error, s)
  | .ok budget =>
    if s.shutdownSent then (.error ((NetError.new .queueClosed).withStage .admission), s)
    else
      match s.registry.reserve requested s.tickets.length memory with
      | (.error error, registry) => (.error error, { s with registry })
      | (.ok id, registry) =>
        (.ok id, { s with registry, tickets := s.tickets ++ [{ id, streaming, budget }] })

/-- `check_budget`. -/
def checkBudget (now : Nat) : Except NetError Unit :=
  if t.cancelled then .error ((NetError.new .cancelled).withStage .admission)
  else
    match t.budget.expired now .admission with
    | some error => .error error
    | none => .ok ()

/-- The section of `accept_admission`: the only acceptance point. -/
def acceptAdmission (now : Nat) (memory : Bool) : Except NetError Unit × HttpClientInner :=
  match checkBudget t now with
  | .error error => (.error error, s)
  | .ok () =>
    if s.shutdownSent || (s.lane t.streaming).closed then (.error (NetError.new .queueClosed), s)
    else
      match s.registry.activate t.id control memory with
      | (.error error, registry) => (.error error, { s with registry })
      | (.ok (), registry) => (.ok (), { s with registry })

/-- The next step of a ticket that gives back; a live middleware keeps the registration. -/
def proceed : HttpClientInner :=
  match t.stage with
  | .pending | .accepted | .published | .retired => s
  | .dropSlot => (s.releaseSlot t).setTicket control { t with stage := .dropPermit, slot := false }
  | .dropPermit =>
    s.releaseHandle control t { t with stage := .storeFinished, permit := false }
  | .storeFinished => s.setTicket control { t with stage := .loadActive, transportFinished := true }
  | .loadActive =>
    s.setTicket control
      { t with stage := if t.middlewareActive then .retired else .lockRegistry }
  | .lockRegistry =>
    { s with registry := s.registry.finish t.id control }.setTicket control
      { t with stage := .retired }

/-- `MiddlewareLease::release`, the next section. -/
def leaseProceed : HttpClientInner :=
  match t.lease with
  | .absent | .active | .released => s
  | .dropPermit => s.releaseHandle control t { t with lease := .clearActive }
  | .clearActive => s.setTicket control { t with lease := .loadFinished, middlewareActive := false }
  | .loadFinished =>
    s.setTicket control { t with lease := if t.transportFinished then .lockRegistry else .released }
  | .lockRegistry =>
    { s with registry := s.registry.finish t.id control }.setTicket control
      { t with lease := .released }

/-- The next section of an admission. -/
def ticketStep :
    ClientAction → HttpClientInner
  | .acquirePermit _ =>
    if t.stage = .pending ∧ t.permit = false ∧ 0 < s.inFlight ∧ s.inFlightClosed = false then
      { s.setTicket control { t with permit := true } with inFlight := s.inFlight - 1 }
    else s
  | .reserveSlot _ =>
    let lane := s.lane t.streaming
    if t.stage = .pending ∧ t.permit ∧ t.slot = false ∧ 0 < lane.free ∧
        lane.closed = false then
      (s.setLane t.streaming { lane with free := lane.free - 1 }).setTicket control
        { t with slot := true }
    else s
  | .accept _ now memory =>
    if t.stage = .pending ∧ t.permit ∧ t.slot then
      match s.acceptAdmission control t now memory with
      | (.ok (), s) => s.setTicket control { t with stage := .accepted }
      | (.error _, s) => s.setTicket control { t with stage := .dropSlot }
    else s
  | .rollback _ =>
    if t.stage = .pending ∨ t.stage = .accepted then
      s.setTicket control { t with stage := .dropSlot }
    else s
  | .lease _ =>
    if (t.stage = .accepted ∨ t.stage = .published) ∧ t.lease = .absent then
      s.setTicket control { t with lease := .active, middlewareActive := true }
    else s
  | .publish _ =>
    if t.stage = .accepted then
      s.setTicket control { t with stage := .published, committed := true }
    else s
  | .receive _ =>
    if t.stage = .published then (s.releaseSlot t).setTicket control { t with slot := false } else s
  | .share _ =>
    if t.committed ∧ 0 < t.handles then s.setTicket control { t with shared := t.shared + 1 } else s
  | .unshare _ =>
    if 0 < t.shared then s.releaseHandle control t { t with shared := t.shared - 1 } else s
  | .retire _ =>
    if t.stage = .published then s.setTicket control { t with stage := .dropSlot } else s
  | .proceed _ => s.proceed control t
  | .release _ =>
    if t.lease = .active then s.setTicket control { t with lease := .dropPermit } else s
  | .leaseProceed _ => s.leaseProceed control t
  | .complete _ => s.setTicket control { t with complete := true }
  | .signal _ => { s.setTicket control t.requestCancel with signals := s.signals.erase control }
  | _ => s

/-- One step; an action that is not enabled changes nothing. -/
def step (a : ClientAction) : HttpClientInner :=
  match a with
  | .begin requested streaming start total admission memory =>
    (s.beginAdmission requested streaming start total admission memory).2
  | .cancel id =>
    { s with signals := s.signals ++ ((s.registry.entries.get id).map Registration.control).toList }
  | .cancelAll =>
    let all := s.registry.entries.values ++ s.registry.reserved.values
    { s with signals := s.signals ++ all.map Registration.control }
  | .shutdown =>
    -- Under the gate; a second call finds the flag set.
    if s.shutdownSent then s else { s with shutdownSent := true }
  | .closeInFlight => if s.shutdownSent then { s with inFlightClosed := true } else s
  | .closeLane streaming => s.setLane streaming { s.lane streaming with closed := true }
  | .drain =>
    if s.registry.isEmpty then { s with drains := s.drains ++ [s.registry.live] } else s
  | a =>
    match a.ticket with
    | none => s
    | some control =>
      match s.tickets[control]? with
      | none => s
      | some t => s.ticketStep control t a

/-- `new`. -/
def new (clockRange inFlight requests supervisors : Nat) : HttpClientInner :=
  { clockRange, inFlight, requestTx := { free := requests },
    supervisorTx := { free := supervisors } }

end HttpClientInner

end OpenNet.Http
