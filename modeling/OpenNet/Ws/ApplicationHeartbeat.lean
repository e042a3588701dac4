import OpenNet.Error
import OpenNet.Foundation.Checked
import OpenNet.Foundation.Machine

/-!
# The application heartbeat

Model of `src/api/ws/application_heartbeat.rs`: `run_heartbeat` with `wait_for_response`, next to
the physical connections of its session.  The send completes on the connection that wrote the
payload; the connection whose messages may answer it is looked up afterwards, in a step of its
own, and may by then be another one.
-/

namespace OpenNet.Ws.ApplicationHeartbeat

open Checked

structure IncomingMessage where
  connectionId : Nat
  receivedAt : Nat
  body : Nat
  deriving DecidableEq, Repr

/-- What the loop does after a failure. -/
inductive FailureAction where
  | «continue» | stop
  deriving DecidableEq, Repr

/-- What the loop reads; the matcher answers `none` on a panic. -/
structure Config where
  matcher : Option (IncomingMessage → Option Bool)
  responseTimeout : Option Nat
  maxMissedResponses : Nat
  failureAction : FailureAction

/-- What the loop does. -/
inductive LoopState where
  | running | waitingForResponse | stopped
  deriving DecidableEq, Repr

/-- What the handle shows. -/
structure Snapshot where
  state : LoopState := .running
  sent : Nat := 0
  matchedResponses : Nat := 0
  missedResponses : Nat := 0
  failures : Nat := 0
  lastError : Option ErrorKind := none
  deriving DecidableEq, Repr

/-- `sentAt`: the clock before the send; `written`: the connection written on; `scope`: the one
waited for. -/
inductive Stage where
  | ticking
  | sending (sentAt : Nat)
  | sent (sentAt written : Nat)
  | waiting (sentAt written scope : Nat)
  | stopped
  deriving DecidableEq, Repr

/-- A wait was counted for a miss, or for a match. -/
structure Counted where
  sentAt : Nat
  written : Nat
  scope : Nat
  matched : Option IncomingMessage
  deriving DecidableEq, Repr

/-- The loop, its connection and receiver; `counted` is history. -/
structure Heartbeat where
  connection : Option Nat := none
  connections : Nat := 0
  queue : List IncomingMessage := []
  stage : Stage := .ticking
  consecutiveMissed : Nat := 0
  snapshot : Snapshot := {}
  counted : List Counted := []
  deriving DecidableEq, Repr

inductive Lookup where
  | failed (kind : ErrorKind)
  | absent
  | current
  deriving DecidableEq, Repr

/-- `cancel`: the loop is cancelled or its session ends; `lagged`: the queue dropped its oldest. -/
inductive Action where
  | activate
  | retire
  | arrive (receivedAt body : Nat)
  | lagged (count : Nat)
  | tick (now : Nat) (options : Option ErrorKind)
  | send (failure : Option ErrorKind)
  | lookup (answer : Lookup)
  | recv
  | recvEnded (failure : Option ErrorKind)
  | deadline
  | cancel
  deriving DecidableEq, Repr

/-- `increment`: saturating. -/
def increment (value : Nat) : Nat := (checkedAdd u64Max value 1).getD value

namespace Heartbeat

/-- `ApplicationHeartbeatHandle::stop`. -/
def stop (s : Heartbeat) : Heartbeat :=
  { s with stage := .stopped, snapshot := { s.snapshot with state := .stopped } }

/-- `record_failure_kind`, and what callers do with it. -/
def recordFailureKind (cfg : Config) (kind : ErrorKind) (s : Heartbeat) : Heartbeat :=
  let s := { s with
    consecutiveMissed := 0, stage := .ticking
    snapshot := { s.snapshot with
      failures := increment s.snapshot.failures, lastError := some kind, state := .running } }
  if cfg.failureAction = .stop then s.stop else s

/-- A completed send; without a matcher writes are observed only. -/
def completeSend (cfg : Config) (sentAt written : Nat) (s : Heartbeat) : Heartbeat :=
  { s with
    snapshot := { s.snapshot with sent := increment s.snapshot.sent }
    stage := if cfg.matcher.isNone then .ticking else .sent sentAt written }

/-- `run_heartbeat` looks for its connection. -/
def lookup (cfg : Config) (sentAt written : Nat) (s : Heartbeat) : Lookup → Heartbeat
  | .failed kind => s.recordFailureKind cfg kind
  | .absent => s.recordFailureKind cfg .notConnected
  | .current => match s.connection with
    | none => s.recordFailureKind cfg .notConnected
    | some scope =>
      { s with
        snapshot := { s.snapshot with state := .waitingForResponse }
        stage := if cfg.responseTimeout.isNone then .ticking else .waiting sentAt written scope }

/-- `wait_for_response`: of the connection, not before the send. -/
def receive (cfg : Config) (sentAt written scope : Nat) (s : Heartbeat) : Heartbeat :=
  match s.queue, cfg.matcher with
  | message :: rest, some matcher =>
    let s := { s with queue := rest }
    if scope ≠ message.connectionId then s
    else if message.receivedAt < sentAt then s
    else match matcher message with
      | none => s.recordFailureKind cfg .callbackPanicked
      | some false => s
      | some true =>
        { s with
          consecutiveMissed := 0, stage := .ticking
          snapshot := { s.snapshot with
            matchedResponses := increment s.snapshot.matchedResponses, state := .running }
          counted := s.counted ++ [⟨sentAt, written, scope, some message⟩] }
  | _, _ => s

/-- `wait_for_response` times out. -/
def timedOut (cfg : Config) (sentAt written scope : Nat) (s : Heartbeat) : Heartbeat :=
  let s := { s with
    consecutiveMissed := min (s.consecutiveMissed + 1) u32Max, stage := .ticking
    snapshot := { s.snapshot with
      missedResponses := increment s.snapshot.missedResponses, lastError := some .timedOut
      failures := increment s.snapshot.failures, state := .running }
    counted := s.counted ++ [⟨sentAt, written, scope, none⟩] }
  if cfg.failureAction = .stop ∧ cfg.maxMissedResponses ≤ s.consecutiveMissed then s.stop else s

/-- One step of `run_heartbeat` or its session. -/
def step (cfg : Config) (s : Heartbeat) : Action → Heartbeat
  | .activate =>
    { s with connection := some s.connections, connections := s.connections + 1 }
  | .retire => { s with connection := none }
  | .arrive receivedAt body => match s.connection with
    | some id => { s with queue := s.queue ++ [⟨id, receivedAt, body⟩] }
    | none => s
  | .lagged count => { s with queue := s.queue.drop count }
  | action => match action, s.stage with
    | .tick _ (some kind), .ticking => s.recordFailureKind cfg kind
    | .tick now none, .ticking =>
      { s with stage := .sending now, snapshot := { s.snapshot with state := .running } }
    | .send (some kind), .sending _ => s.recordFailureKind cfg kind
    -- The payload waits for a connection to be written on.
    | .send none, .sending sentAt => match s.connection with
      | some written => s.completeSend cfg sentAt written
      | none => s
    | .lookup answer, .sent sentAt written => s.lookup cfg sentAt written answer
    | .recv, .waiting sentAt written scope => s.receive cfg sentAt written scope
    | .recvEnded (some kind), .waiting _ _ _ => s.recordFailureKind cfg kind
    | .recvEnded none, .waiting _ _ _ => s.stop
    | .deadline, .waiting sentAt written scope => s.timedOut cfg sentAt written scope
    | .cancel, .ticking | .cancel, .sending _ | .cancel, .waiting _ _ _ => s.stop
    | _, _ => s

/-- Waits are scoped to the connection written on, and counted for it. -/
structure Attributed (s : Heartbeat) : Prop where
  waiting : ∀ {sentAt written scope}, s.stage = .waiting sentAt written scope → scope = written
  counted : ∀ x ∈ s.counted, x.scope = x.written
  matched : ∀ x ∈ s.counted, ∀ message ∈ x.matched,
    message.connectionId = x.written ∧ x.sentAt ≤ message.receivedAt

/-- A lookup finds no connection, or the one written on. -/
def Unreplaced (s : Heartbeat) : Action → Prop
  | .lookup .current => match s.stage with
    | .sent _ written => s.connection = none ∨ s.connection = some written
    | _ => True
  | _ => True

variable {cfg : Config} {s s' : Heartbeat}

theorem Attributed.of_stage (h : s.Attributed) (hcounted : s'.counted = s.counted)
    (hstage : ∀ sentAt written scope, s'.stage ≠ .waiting sentAt written scope) :
    s'.Attributed where
  waiting hwaiting := absurd hwaiting (hstage _ _ _)
  counted := hcounted ▸ h.counted
  matched := hcounted ▸ h.matched

theorem Attributed.recordFailureKind (h : s.Attributed) (kind : ErrorKind) :
    (s.recordFailureKind cfg kind).Attributed := by
  unfold Heartbeat.recordFailureKind
  split
  · exact h.of_stage rfl nofun
  · exact h.of_stage rfl nofun

/-- A wait for `written` is counted for a message of it not older than the send, if for any. -/
theorem Attributed.count {sentAt written : Nat} {matched : Option IncomingMessage}
    (h : s.Attributed) (hcounted : s'.counted = s.counted ++ [⟨sentAt, written, written, matched⟩])
    (hmatched : ∀ message ∈ matched, message.connectionId = written ∧ sentAt ≤ message.receivedAt)
    (hstage : ∀ sentAt written scope, s'.stage ≠ .waiting sentAt written scope) :
    s'.Attributed where
  waiting hwaiting := absurd hwaiting (hstage _ _ _)
  counted x hx := by
    rw [hcounted, List.mem_append, List.mem_singleton] at hx
    obtain hx | rfl := hx
    · exact h.counted x hx
    · rfl
  matched x hx := by
    rw [hcounted, List.mem_append, List.mem_singleton] at hx
    obtain hx | rfl := hx
    · exact h.matched x hx
    · exact hmatched

theorem lookup_attributed {sentAt written : Nat} (h : s.Attributed) (answer : Lookup)
    (hfound : answer = .current → s.connection = none ∨ s.connection = some written) :
    (s.lookup cfg sentAt written answer).Attributed := by
  unfold Heartbeat.lookup
  split
  · exact h.recordFailureKind _
  · exact h.recordFailureKind _
  split
  · exact h.recordFailureKind _
  rename_i scope hscope
  have hsame : scope = written := by simpa [hscope] using hfound rfl
  refine { h with waiting := fun hwaiting => ?_ }
  dsimp only at hwaiting
  split at hwaiting
  · cases hwaiting
  · cases hwaiting
    exact hsame

theorem receive_attributed {sentAt written : Nat} (h : s.Attributed) :
    (s.receive cfg sentAt written written).Attributed := by
  have hrest : ∀ queue, Attributed { s with queue } := fun _ => { h with }
  unfold receive
  split
  · dsimp only
    split
    · exact hrest _
    split
    · exact hrest _
    rename_i message rest matcher hqueue hmatcher hscope hold
    split
    · exact (hrest rest).recordFailureKind _
    · exact hrest _
    · refine h.count rfl ?_ nofun
      rintro _ ⟨⟩
      exact ⟨(not_not.mp hscope).symm, Nat.not_lt.mp hold⟩
  · exact h

theorem timedOut_attributed {sentAt written : Nat} (h : s.Attributed) :
    (s.timedOut cfg sentAt written written).Attributed := by
  unfold timedOut
  dsimp only
  split
  · exact h.count rfl nofun nofun
  · exact h.count rfl nofun nofun

theorem step_attributed (action : Action) (hfound : s.Unreplaced action) (h : s.Attributed) :
    (s.step cfg action).Attributed := by
  unfold step
  split
  · exact { h with }
  · exact { h with }
  · split
    · exact { h with }
    · exact h
  · exact { h with }
  split
  · exact h.recordFailureKind _
  · exact h.of_stage rfl nofun
  · exact h.recordFailureKind _
  · split
    · refine h.of_stage rfl fun _ _ _ => ?_
      dsimp only [completeSend]
      split <;> nofun
    · exact h
  · rename_i answer sentAt written hstage _ _ _ _
    refine lookup_attributed h answer fun hcurrent => ?_
    subst hcurrent
    simpa [Unreplaced, hstage] using hfound
  · rename_i sentAt written scope hstage _ _ _ _
    obtain rfl := h.waiting hstage
    exact receive_attributed h
  · exact h.recordFailureKind _
  · exact h.of_stage rfl nofun
  · rename_i sentAt written scope hstage _ _ _ _
    obtain rfl := h.waiting hstage
    exact timedOut_attributed h
  · exact h.of_stage rfl nofun
  · exact h.of_stage rfl nofun
  · exact h.of_stage rfl nofun
  · exact h

/-- **Response waits of the application heartbeat**: while no lookup finds another connection than
the one written on, every wait is scoped to that one, and what is counted is counted for it. -/
theorem response_wait_attributed (cfg : Config) (acts : List Action)
    (hacts : Machine.Along (step cfg) Unreplaced {} acts) :
    (Machine.run (step cfg) {} acts).Attributed :=
  Machine.run_invariant_along (fun _ action => step_attributed action) acts hacts
    { waiting := nofun, counted := nofun, matched := nofun }

/-- Stops at its first miss; every message answers. -/
def strict : Config where
  matcher := some fun _ => some true
  responseTimeout := some 10
  maxMissedResponses := 1
  failureAction := .stop

theorem response_wait_attributed_answered :
    (Machine.run (step strict) {} [.activate, .tick 5 none, .send none, .lookup .current,
      .arrive 6 0, .recv]).Attributed :=
  response_wait_attributed strict _
    ⟨trivial, trivial, trivial, .inr rfl, trivial, trivial, trivial⟩

/-- Connection 0 is replaced before the lookup: the loop waits for messages of connection 1, counts
a missed response and stops, although only connection 0 was sent anything. -/
theorem missed_on_replacement :
    let s := Machine.run (step strict) {} [.activate, .tick 5 none, .send none, .retire,
      .activate, .lookup .current, .deadline]
    s.counted = [⟨5, 0, 1, none⟩] ∧ s.snapshot.missedResponses = 1 ∧ s.stage = .stopped ∧
      ¬s.Attributed := by
  refine ⟨rfl, rfl, rfl, fun h => ?_⟩
  exact absurd (h.counted ⟨5, 0, 1, none⟩ (by decide)) (by decide)

end Heartbeat

end OpenNet.Ws.ApplicationHeartbeat
