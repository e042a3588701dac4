import OpenNet.Foundation.Machine
import OpenNet.NetStatus.NetworkSource

/-!
# Isolation of connections from network losses

Model of what `ws_client_worker.rs`, `network_gate.rs` and `network_io.rs` do with the loss epoch
of the watched network status.  An attempt reads the epoch under the gate and carries it to the
worker, which gives it to both halves of the connection; `reconcile_network_status` retires the
connection once it reads a later one.  The watch keeps the last publication only.

Publications fall between any two reads: `handle_io_event` is two steps, the
`reconcile_network_status` it begins with and the rest, in which a `ConnectSucceeded` is checked.
-/

namespace OpenNet.Ws.NetworkLoss

open NetStatus

inductive ConnectionStatus where
  | idle | connecting | connected | reconnecting | closing | disconnected | closed
  deriving DecidableEq, Repr

/-- `losses` counts those published before its `wait_available`. -/
structure Attempt where
  generation : Nat
  epoch : Option Nat
  losses : Nat
  deriving DecidableEq, Repr

/-- What `NetworkAwareSink` and `NetworkAwareStream` get. -/
structure NetworkEpoch where
  network : Bool
  lossEpoch : Nat
  deriving DecidableEq, Repr

/-- The connection, with the epoch of each half. -/
structure ActiveIo where
  generation : Nat
  sink : NetworkEpoch
  stream : NetworkEpoch
  deriving DecidableEq, Repr

/-- `context`: those of the session only; `ended`: `ReadEnded`, `WriteEnded`. -/
inductive IoEvent where
  | context
  | connectSucceeded (attempt : Attempt)
  | connectFailed (generation : Nat)
  | callbackDispatchFailed (current : Bool)
  | ended (generation : Nat)
  deriving DecidableEq, Repr

def IoEvent.brings : IoEvent → List Attempt
  | .connectSucceeded attempt => [attempt]
  | _ => []

/-- `watching`: created with a receiver; `networkStatus`: the worker still has it; `losses`:
publications that raised the epoch; `accepted`: attempts with that count at the check. -/
structure Client where
  snapshot : NetworkStatusSnapshot
  watching : Bool
  networkStatus : Bool
  networkLossEpoch : Nat
  generation : Nat := 0
  status : ConnectionStatus := .idle
  activeIo : Option ActiveIo := none
  handling : Option IoEvent := none
  attempts : List Attempt := []
  events : List Attempt := []
  dropped : Bool := false
  losses : Nat := 0
  accepted : List (Attempt × Nat) := []
  deriving DecidableEq, Repr

def Client.new (snapshot : NetworkStatusSnapshot) (watching : Bool) : Client where
  snapshot := snapshot
  watching := watching
  networkStatus := watching
  networkLossEpoch := if watching then snapshot.lossEpoch else 0

/-- `invalid` of `network_io.rs`, and of `NetworkGate::interrupted`. -/
def invalid (snapshot : NetworkStatusSnapshot) (lossEpoch : Nat) : Bool :=
  snapshot.lossEpoch != lossEpoch || snapshot.status == some .unavailable

/-- One look of `wait_available`; no answer waits for a change. -/
def waitAvailable (receiver : Bool) (snapshot : NetworkStatusSnapshot) : Option (Option Nat) :=
  if !receiver then some none
  else if snapshot.status != some .unavailable then some (some snapshot.lossEpoch)
  else none

inductive Start where
  | cancelled | failed | started
  deriving DecidableEq, Repr

/-- `lost`: the session ends, or `start_connection` is called. `admitted`: session, handshake and
runtime together. -/
inductive Action where
  | publish (next : NetworkStatusSnapshot)
  | dropSender
  | noticeDropped
  | waitAvailable (generation : Nat) (receiver : Bool)
  | dialed (attempt : Attempt) (receiver : Bool)
  | changed (lost : Option Start)
  | event (event : IoEvent) (shutdown : Bool) (lost : Option Start)
  | handle (shutdown admitted : Bool) (lost : Option Start)
  | connect (start : Start)
  | closeSession
  | shutdown
  deriving DecidableEq, Repr

namespace Client

variable (s : Client)

/-- `network_epoch_is_current`. -/
def networkEpochIsCurrent (epoch : Option Nat) : Bool :=
  match epoch, s.networkStatus with
  | some epoch, true => s.snapshot.lossEpoch == epoch && s.snapshot.status != some .unavailable
  | _, _ => true

def isConnecting : Bool := s.status == .connecting || s.status == .reconnecting

/-- `start_connection`. -/
def startConnection (reconnecting : Bool) : Start → Client
  | .cancelled => s
  | .failed => { s with status := .disconnected }
  | .started =>
    { s with generation := s.generation + 1
             status := if reconnecting then .reconnecting else .connecting }

/-- `connection_lost_at_stage`, which first stops it. -/
def connectionLost : Option Start → Client
  | some start => { s with activeIo := none }.startConnection true start
  | none => { s with activeIo := none, status := .disconnected }

/-- `reconcile_network_status`. -/
def reconcileNetworkStatus (lost : Option Start) : Client :=
  if s.networkStatus ∧ s.networkLossEpoch < s.snapshot.lossEpoch then
    let s := { s with networkLossEpoch := s.snapshot.lossEpoch }
    if s.status = .connected then s.connectionLost lost else s
  else s

/-- The worker starts the connection of a `ConnectSucceeded`. -/
def establish (attempt : Attempt) : Client :=
  let established := attempt.epoch.getD s.networkLossEpoch
  { s with
    networkLossEpoch := established
    activeIo := some
      { generation := attempt.generation
        sink := { network := s.networkStatus, lossEpoch := established }
        stream := { network := s.networkStatus, lossEpoch := established } }
    status := .connected
    accepted := (attempt, s.losses) :: s.accepted }

/-- `handle_io_event`. -/
def handleIoEvent (shutdown admitted : Bool) (lost : Option Start) : IoEvent → Client
  | .context => s
  | .connectSucceeded attempt =>
    if shutdown || attempt.generation != s.generation || !s.isConnecting then s
    else if !s.networkEpochIsCurrent attempt.epoch then s
    else if !admitted then s
    else s.establish attempt
  | .connectFailed generation =>
    if generation != s.generation || !s.isConnecting then s
    else { s with status := .disconnected }
  | .callbackDispatchFailed current =>
    if !current || s.status != .connected then s else s.connectionLost lost
  | .ended generation =>
    if generation != s.generation || s.status != .connected then s else s.connectionLost lost

/-- One step of watch, worker or attempt. -/
def step (s : Client) : Action → Client
  | .publish next =>
    if s.dropped = false ∧ s.snapshot.lossEpoch ≤ next.lossEpoch then
      { s with snapshot := next
               losses := s.losses + if s.snapshot.lossEpoch < next.lossEpoch then 1 else 0 }
    else s
  | .dropSender => { s with dropped := true }
  | .noticeDropped =>
    if s.handling = none ∧ s.dropped then { s with networkStatus := false } else s
  | .waitAvailable generation receiver =>
    match NetworkLoss.waitAvailable (receiver && s.watching) s.snapshot with
    | some epoch => { s with attempts := ⟨generation, epoch, s.losses⟩ :: s.attempts }
    | none => s
  | .dialed attempt receiver =>
    if attempt ∈ s.attempts then
      let s := { s with attempts := s.attempts.erase attempt }
      if receiver && attempt.epoch.any (invalid s.snapshot) then s
      else { s with events := attempt :: s.events }
    else s
  | .changed lost => if s.handling = none then s.reconcileNetworkStatus lost else s
  | .event event shutdown lost =>
    if s.handling = none ∧ event.brings ⊆ s.events then
      let s := { s with events := s.events.diff event.brings }
      if shutdown then s else { s with handling := some event }.reconcileNetworkStatus lost
    else s
  | .handle shutdown admitted lost =>
    match s.handling with
    | some event => { s with handling := none }.handleIoEvent shutdown admitted lost event
    | none => s
  | .connect start =>
    if s.handling = none ∧ (s.status = .idle ∨ s.status = .disconnected) then
      s.startConnection false start
    else s
  | .closeSession =>
    if s.handling = none then { s with activeIo := none, status := .idle } else s
  | .shutdown =>
    if s.handling = none then { s with activeIo := none, status := .closed } else s

/-- If the watch still has the epoch, no loss came in between. -/
def Carried (attempt : Attempt) : Prop :=
  ∀ epoch, attempt.epoch = some epoch → s.watching ∧ epoch ≤ s.snapshot.lossEpoch ∧
    (epoch = s.snapshot.lossEpoch → attempt.losses = s.losses)

structure Isolated : Prop where
  current : ∀ io, s.activeIo = some io → s.status = .connected ∧
    io.sink.lossEpoch = s.networkLossEpoch ∧ io.stream.lossEpoch = s.networkLossEpoch
  watched : s.dropped = false → s.networkStatus = s.watching
  dialing : ∀ attempt ∈ s.attempts, s.Carried attempt
  sent : ∀ attempt ∈ s.events, s.Carried attempt
  handled : ∀ event ∈ s.handling, ∀ attempt ∈ event.brings, s.Carried attempt
  accepted : s.dropped = false → ∀ entry ∈ s.accepted, entry.1.epoch.isSome →
    entry.1.losses = entry.2

variable {s}

theorem Isolated.start (h : s.Isolated) (hidle : s.status = .connected → s.activeIo = none)
    (reconnecting : Bool) (start : Start) : (s.startConnection reconnecting start).Isolated := by
  have hnone io (hio : s.activeIo = some io) : False := by
    have := hidle (h.current io hio).1
    simp [hio] at this
  cases start with
  | cancelled => exact h
  | failed | started => exact { h with current := fun io hio => (hnone io hio).elim }

theorem lost_activeIo (lost : Option Start) : (s.connectionLost lost).activeIo = none := by
  rcases lost with _ | _ | _ | _ <;> rfl

theorem Isolated.lost (h : s.Isolated) (epoch : Nat) (lost : Option Start) :
    ({ s with networkLossEpoch := epoch }.connectionLost lost).Isolated := by
  cases lost with
  | none => exact { h with current := nofun }
  | some start =>
    have hstopped : { s with networkLossEpoch := epoch, activeIo := none }.Isolated :=
      { h with current := nofun }
    exact hstopped.start (fun _ => rfl) true start

theorem Isolated.reconcile (h : s.Isolated) (lost : Option Start) :
    (s.reconcileNetworkStatus lost).Isolated :=
  Machine.guarded h fun _ => iteInduction (fun _ => h.lost _ lost) fun hstatus =>
    { h with current := fun io hio => absurd (h.current io hio).1 hstatus }

theorem eq_of_current {epoch : Nat} (hstatus : s.networkStatus)
    (h : s.networkEpochIsCurrent (some epoch)) : epoch = s.snapshot.lossEpoch := by
  simp only [networkEpochIsCurrent, hstatus, Bool.and_eq_true, beq_iff_eq] at h
  exact h.1.symm

theorem Isolated.established (h : s.Isolated) {attempt : Attempt} (hcarried : s.Carried attempt)
    (hcheck : s.networkEpochIsCurrent attempt.epoch) : (s.establish attempt).Isolated :=
  { h with
    current := by
      rintro io ⟨⟩
      exact ⟨rfl, rfl, rfl⟩
    accepted := by
      intro hopen entry hmem hsome
      obtain rfl | hmem := List.mem_cons.mp hmem
      · obtain ⟨epoch, hepoch⟩ := Option.isSome_iff_exists.mp hsome
        obtain ⟨hwatching, -, hsame⟩ := hcarried epoch hepoch
        rw [hepoch] at hcheck
        exact hsame (eq_of_current ((h.watched hopen).trans hwatching) hcheck)
      · exact h.accepted hopen entry hmem hsome }

theorem Isolated.handle (h : s.Isolated) {event : IoEvent} (shutdown admitted : Bool)
    (lost : Option Start) (hcarried : ∀ attempt ∈ event.brings, s.Carried attempt) :
    (s.handleIoEvent shutdown admitted lost event).Isolated := by
  cases event with
  | context => exact h
  | connectSucceeded attempt =>
    refine iteInduction (fun _ => h) fun _ => iteInduction (fun _ => h) fun hcheck =>
      iteInduction (fun _ => h) fun _ => h.established ?_ (by simpa using hcheck)
    exact hcarried attempt List.mem_cons_self
  | connectFailed generation =>
    refine iteInduction (fun _ => h) fun hstatus => { h with current := fun io hio => ?_ }
    simp [isConnecting, (h.current io hio).1] at hstatus
  | callbackDispatchFailed | ended => exact iteInduction (fun _ => h) fun _ => h.lost _ lost

theorem Isolated.publish (h : s.Isolated) {next : NetworkStatusSnapshot}
    (hle : s.snapshot.lossEpoch ≤ next.lossEpoch) :
    { s with
      snapshot := next
      losses := s.losses + if s.snapshot.lossEpoch < next.lossEpoch then 1 else 0 }.Isolated := by
  have hcarried {attempt : Attempt} (h : s.Carried attempt) epoch
      (hepoch : attempt.epoch = some epoch) : s.watching ∧ epoch ≤ next.lossEpoch ∧
        (epoch = next.lossEpoch →
          attempt.losses = s.losses + if s.snapshot.lossEpoch < next.lossEpoch then 1 else 0) := by
    obtain ⟨hwatching, hbound, hsame⟩ := h epoch hepoch
    refine ⟨hwatching, by omega, fun heq => ?_⟩
    rw [if_neg (by omega), hsame (by omega)]
    rfl
  exact { h with
    dialing := fun attempt hmem => hcarried (h.dialing attempt hmem)
    sent := fun attempt hmem => hcarried (h.sent attempt hmem)
    handled := fun event hevent attempt hmem => hcarried (h.handled event hevent attempt hmem) }

theorem carried_waitAvailable {receiver : Bool} {epoch : Option Nat}
    (hwait : waitAvailable (receiver && s.watching) s.snapshot = some epoch) (generation : Nat) :
    s.Carried ⟨generation, epoch, s.losses⟩ := by
  unfold waitAvailable at hwait
  split at hwait
  · obtain rfl : none = epoch := Option.some.inj hwait
    nofun
  · next hreceiver =>
    split at hwait
    · obtain rfl : some s.snapshot.lossEpoch = epoch := Option.some.inj hwait
      rintro read ⟨⟩
      exact ⟨by simp_all, Nat.le_refl _, fun _ => rfl⟩
    · cases hwait

theorem step_isolated (s : Client) (a : Action) (h : s.Isolated) : (s.step a).Isolated := by
  cases a with
  | publish next => exact Machine.guarded h fun hnext => h.publish hnext.2
  | dropSender => exact { h with watched := nofun, accepted := nofun }
  | noticeDropped =>
    exact Machine.guarded h fun hdropped => { h with
      watched := fun hopen => absurd (hdropped.2.symm.trans hopen) (by simp) }
  | waitAvailable generation receiver =>
    simp only [step]
    split
    · next epoch hwait =>
      have hcarried := carried_waitAvailable hwait generation
      exact { h with dialing := List.forall_mem_cons.mpr ⟨hcarried, h.dialing⟩ }
    · exact h
  | dialed attempt receiver =>
    refine Machine.guarded h fun hmem => ?_
    have hdialing a (ha : a ∈ s.attempts.erase attempt) := h.dialing a (List.mem_of_mem_erase ha)
    refine iteInduction (fun _ => { h with dialing := hdialing }) fun _ => ?_
    have hsent := List.forall_mem_cons.mpr ⟨h.dialing attempt hmem, h.sent⟩
    exact { h with dialing := hdialing, sent := hsent }
  | changed lost => exact Machine.guarded h fun _ => h.reconcile lost
  | event event shutdown lost =>
    refine Machine.guarded h fun hevent => ?_
    have hsent a (ha : a ∈ s.events.diff event.brings) := h.sent a (List.diff_subset _ _ ha)
    refine iteInduction (fun _ => { h with sent := hsent }) fun _ => Isolated.reconcile ?_ lost
    exact { h with
      sent := hsent
      handled := by
        rintro _ ⟨⟩ attempt hmem
        exact h.sent attempt (hevent.2 hmem) }
  | handle shutdown admitted lost =>
    simp only [step]
    split
    · next event hhandling =>
      have hready : { s with handling := none }.Isolated := { h with handled := nofun }
      exact hready.handle shutdown admitted lost (h.handled event hhandling)
    · exact h
  | connect start =>
    refine Machine.guarded h fun hstatus => h.start (fun hconnected => ?_) false start
    simp [hconnected] at hstatus
  | closeSession | shutdown => exact Machine.guarded h fun _ => { h with current := nofun }

theorem new_isolated (snapshot : NetworkStatusSnapshot) (watching : Bool) :
    (new snapshot watching).Isolated where
  current := nofun
  watched _ := rfl
  dialing := nofun
  sent := nofun
  handled := nofun
  accepted _ := nofun

end Client

/-- In every run: while connected, both halves of the active connection have its epoch; unless the
sender was dropped, no loss was published between the `wait_available` of an accepted attempt and
the check of its `ConnectSucceeded`; a `reconcile_network_status` that reads a later epoch retires
the active connection, whatever the status. -/
theorem network_loss_isolated (snapshot : NetworkStatusSnapshot) (watching : Bool)
    (actions : List Action) :
    let s := Machine.run Client.step (.new snapshot watching) actions
    (s.status = .connected → ∀ io, s.activeIo = some io →
      io.sink.lossEpoch = s.networkLossEpoch ∧ io.stream.lossEpoch = s.networkLossEpoch) ∧
    (s.dropped = false → ∀ entry ∈ s.accepted, entry.1.epoch.isSome = true →
      entry.1.losses = entry.2) ∧
    (s.networkStatus = true → ∀ io, s.activeIo = some io →
      io.sink.lossEpoch < s.snapshot.lossEpoch → ∀ lost,
        (s.reconcileNetworkStatus lost).activeIo = none) := by
  intro s
  have h : s.Isolated :=
    Machine.run_invariant Client.step_isolated actions (Client.new_isolated snapshot watching)
  refine ⟨fun _ io hio => (h.current io hio).2, h.accepted, ?_⟩
  intro hstatus io hio hlt lost
  obtain ⟨hconnected, hepoch, -⟩ := h.current io hio
  unfold Client.reconcileNetworkStatus
  rw [if_pos ⟨hstatus, by omega⟩]
  exact (if_pos hconnected ▸ Client.lost_activeIo lost)

end OpenNet.Ws.NetworkLoss
