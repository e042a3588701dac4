import OpenNet.Subscription.EventState
import OpenNet.Ws.ConnectionSession

/-!
# The connection history

Model of `ConnectionHistory` (`src/module/ws_client/connection_history.rs`), the part behind its
lock: a bounded suffix of the events of one session, kept for later subscribers, and the list of
the publishers of those that are subscribed.  A publisher is known by the number of its
subscription.

`measured_size` is the function `measure`; `allocated` says whether the reservations of a call
succeeded, and `active` answers `is_active` for each publisher.
-/

namespace OpenNet.Ws

open Checked Subscription

/-- Limits that passed `EventOptions::validate`. -/
structure EventOptions where
  maxEvents : Nat
  maxBytes : Nat
  events_pos : 0 < maxEvents
  events_le : maxEvents ≤ maxPermits
  bytes_pos : 0 < maxBytes
  bytes_le : maxBytes ≤ u32Max

namespace EventOptions

/-- `EventOptions::validate`, with `validate_fields` in order. -/
def validate (maxEvents maxBytes : Nat) : Except NetError EventOptions :=
  if hevents : maxEvents = 0 then .error (.config "events.max_events" "must be greater than zero")
  else if hpermits : maxPermits < maxEvents then
    .error (.config "events.max_events" "must not exceed Tokio Semaphore::MAX_PERMITS")
  else if hbytes : maxBytes = 0 then
    .error (.config "events.max_bytes" "must be greater than zero")
  else if maxPermits < maxBytes then
    .error (.config "events.max_bytes" "must not exceed Tokio Semaphore::MAX_PERMITS")
  else if hfits : u32Max < maxBytes then
    .error (.config "events.max_bytes" "must fit a u32 byte allowance")
  else
    .ok { maxEvents, maxBytes, events_pos := by omega, events_le := by omega,
          bytes_pos := by omega, bytes_le := by omega }

/-- A subscriber's channel has the history's limits, and drops its oldest. -/
def registration (options : EventOptions) : EventRegistration where
  limit := ⟨options.maxEvents, options.maxBytes⟩
  overflow := .dropOldest
  items_pos := options.events_pos
  items_le := options.events_le
  bytes_pos := options.bytes_pos
  bytes_le := options.bytes_le

end EventOptions

def ConnectionEvent.isClosed (event : ConnectionEvent) : Bool :=
  match event.kind with
  | .closed _ => true
  | _ => false

abbrev Retained := ConnectionEvent × Nat

/-- The fields behind the history's lock. -/
structure HistoryState where
  scope : Option (Nat × Nat) := none
  lastSequence : Nat := 0
  entries : List Retained := []
  bytes : Nat := 0
  closed : Bool := false
  failure : Option NetError := none
  publishers : List Nat := []

/-! ## Recording -/

/-- `reserve_record`: how many of `length` entries have to go. -/
def evictionCount (options : EventOptions) (size length : Nat) :
    List Retained → Nat → Nat → Nat
  | [], _, count => count
  | entry :: rest, bytes, count =>
    if length - count < options.maxEvents && bytes ≤ options.maxBytes - size then count
    else evictionCount options size length rest (bytes - entry.2) (count + 1)

/-- The loop of `prepare_record`: what it leaves and retires; empty and too full is an internal
error. -/
def evict (options : EventOptions) (size : Nat) :
    List Retained → Nat → Option (List Retained × Nat × List Retained)
  | [], bytes =>
    if options.maxEvents ≤ 0 || options.maxBytes - size < bytes then none else some ([], bytes, [])
  | entry :: rest, bytes =>
    if options.maxEvents ≤ rest.length + 1 || options.maxBytes - size < bytes then
      (evict options size rest (bytes - entry.2)).map fun (left, bytes, retired) =>
        (left, bytes, entry :: retired)
    else some (entry :: rest, bytes, [])

/-- `reserve_record`: how many retired entries get room. -/
def reserveRecord (options : EventOptions) (size : Nat) (oversized allocated : Bool)
    (h : HistoryState) : Except NetError Nat :=
  if !allocated then .error (.withForeign .resourceExhausted "try_reserve")
  else if oversized then .ok 0
  else .ok (evictionCount options size h.entries.length h.entries h.bytes 0)

/-- What `prepare_record` leaves for after its change. -/
inductive Recording where
  /-- The event is rejected and nothing changes. -/
  | refused (error : NetError)
  /-- The history fails; these publishers are to be failed. -/
  | failed (error : NetError) (publishers : List Nat)
  /-- The event is recorded, to be sent to these publishers; an oversized event is skipped. -/
  | recorded (reserved : Nat) (retiredEntries : List Retained)
      (retiredHistory : Option (List Retained)) (item : Option (Entry ConnectionEvent))
      (publishers : List Nat)

/-- `fail_history`. -/
def HistoryState.fail (h : HistoryState) (error : NetError) : HistoryState :=
  { h with closed := true, failure := some error, publishers := [] }

/-- `prune`: publishers that are gone. -/
def prune (active : Nat → Bool) (publishers : List Nat) : List Nat := publishers.filter active

/-- The recorded event takes its place. -/
def HistoryState.advance (h : HistoryState) (active : Nat → Bool) (event : ConnectionEvent)
    (entries : List Retained) (bytes : Nat) : HistoryState :=
  { h with entries, bytes, lastSequence := event.sequence,
           scope := some (event.clientId, event.sessionId), closed := event.isClosed,
           publishers := if event.isClosed then [] else prune active h.publishers }

/-- `prepare_record` up to the fan-out. -/
def prepareRecord (options : EventOptions) (measure : ConnectionEvent → Except NetError Nat)
    (active : Nat → Bool) (allocated : Bool) (event : ConnectionEvent) (h : HistoryState) :
    HistoryState × Recording :=
  if h.closed then (h, .refused (.new .closed))
  else if checkedAdd u64Max h.lastSequence 1 ≠ some event.sequence ∨
      (∃ expected ∈ h.scope, expected ≠ (event.clientId, event.sessionId)) then
    (h, .refused (.new .invalidInput))
  else
    match measure event with
    | .error error =>
      if error.kind = .itemTooLarge then (h, .refused error)
      else (h.fail error, .failed error h.publishers)
    | .ok size =>
      let oversized : Bool := options.maxBytes < size
      match reserveRecord options size oversized allocated h with
      | .error error => (h.fail error, .failed error h.publishers)
      | .ok reserved =>
        if oversized then
          (h.advance active event [] 0,
            .recorded reserved [] (some h.entries) none (prune active h.publishers))
        else
          match evict options size h.entries h.bytes with
          | none =>
            (h.fail (.new .internal), .failed (.new .internal) (prune active h.publishers))
          | some (left, bytes, retired) =>
            (h.advance active event (left ++ [(event, size)]) (bytes + size),
              .recorded reserved retired none (some ⟨event, size⟩) (prune active h.publishers))

/-- `prepare_fail`. -/
def prepareFail (error : NetError) (h : HistoryState) : HistoryState × List Nat :=
  if h.closed then (h, []) else (h.fail error, h.publishers)

/-- What a new subscriber starts with. -/
def HistoryState.seed (h : HistoryState) : Option (EventSeed ConnectionEvent) :=
  match h.entries with
  | [] => some ⟨[], Fin.ofNat _ h.lastSequence, h.closed, h.failure⟩
  | (event, size) :: rest =>
    if event.sequence = 0 then none
    else some ⟨(event, size) :: rest, Fin.ofNat _ (event.sequence - 1), h.closed, h.failure⟩

/-! ## The retained suffix -/

def retainedBytes (entries : List Retained) : Nat := (entries.map Prod.snd).sum

@[simp] theorem retainedBytes_nil : retainedBytes [] = 0 := rfl

@[simp] theorem retainedBytes_cons (entry : Retained) (entries : List Retained) :
    retainedBytes (entry :: entries) = entry.2 + retainedBytes entries := rfl

@[simp] theorem retainedBytes_append (front back : List Retained) :
    retainedBytes (front ++ back) = retainedBytes front + retainedBytes back := by
  simp [retainedBytes]

variable {options : EventOptions}

theorem evict_spec {size : Nat} (hsize : size ≤ options.maxBytes) :
    ∀ (entries : List Retained) (length count : Nat), length = count + entries.length →
      ∃ front back, entries = front ++ back ∧
        evict options size entries (retainedBytes entries) =
          some (back, retainedBytes back, front) ∧
        evictionCount options size length entries (retainedBytes entries) count =
          count + front.length ∧
        back.length < options.maxEvents ∧ retainedBytes back + size ≤ options.maxBytes
  | [], length, count, _ => by
    have hpos := options.events_pos
    refine ⟨[], [], rfl, ?_, rfl, hpos, by simpa using hsize⟩
    simp [evict]
    omega
  | entry :: rest, length, count, hlength => by
    rw [List.length_cons] at hlength
    by_cases hfull : options.maxEvents ≤ rest.length + 1 ∨
        options.maxBytes - size < retainedBytes (entry :: rest)
    · obtain ⟨front, back, rfl, hevict, hcount, hback, hbytes⟩ :=
        evict_spec hsize rest length (count + 1) (by omega)
      have hpop : retainedBytes (entry :: (front ++ back)) - entry.2 =
          retainedBytes (front ++ back) := by
        rw [retainedBytes_cons]; omega
      refine ⟨entry :: front, back, rfl, ?_, ?_, hback, hbytes⟩
      · rw [evict, if_pos (by simpa using hfull), hpop, hevict]
        rfl
      · have hnot : ¬ (length - count < options.maxEvents ∧
            retainedBytes (entry :: (front ++ back)) ≤ options.maxBytes - size) := by
          omega
        rw [evictionCount, if_neg (by simpa using hnot), hpop, hcount, List.length_cons]
        omega
    · refine ⟨[], entry :: rest, rfl, ?_, ?_, by rw [List.length_cons]; omega, by omega⟩
      · rw [evict, if_neg]
        rwa [Bool.or_eq_true, decide_eq_true_eq, decide_eq_true_eq]
      · have hroom : length - count < options.maxEvents ∧
            retainedBytes (entry :: rest) ≤ options.maxBytes - size := by
          omega
        rw [evictionCount, if_pos]
        · rfl
        · rwa [Bool.and_eq_true, decide_eq_true_eq, decide_eq_true_eq]

/-- A recorded event has the next number; those retired were counted. -/
inductive RecordEffect (options : EventOptions) (active : Nat → Bool) (event : ConnectionEvent)
    (h : HistoryState) : HistoryState → Recording → Prop where
  | refused (error : NetError) : RecordEffect options active event h h (.refused error)
  | failed (error : NetError) (publishers : List Nat) (hopen : h.closed = false) :
    RecordEffect options active event h (h.fail error) (.failed error publishers)
  | skipped (hopen : h.closed = false) (hnext : event.sequence = h.lastSequence + 1)
    (hle : event.sequence ≤ u64Max) :
    RecordEffect options active event h (h.advance active event [] 0)
      (.recorded 0 [] (some h.entries) none (prune active h.publishers))
  | kept (size : Nat) (front back : List Retained) (hopen : h.closed = false)
    (hnext : event.sequence = h.lastSequence + 1) (hle : event.sequence ≤ u64Max)
    (hentries : h.entries = front ++ back) (hlength : back.length < options.maxEvents)
    (hbytes : retainedBytes back + size ≤ options.maxBytes) :
    RecordEffect options active event h
      (h.advance active event (back ++ [(event, size)]) (retainedBytes back + size))
      (.recorded front.length front none (some ⟨event, size⟩) (prune active h.publishers))

theorem prepareRecord_effect (measure : ConnectionEvent → Except NetError Nat) (active : Nat → Bool)
    (allocated : Bool) (event : ConnectionEvent) {h : HistoryState}
    (hbytes : h.bytes = retainedBytes h.entries) : RecordEffect options active event h
      (prepareRecord options measure active allocated event h).1
      (prepareRecord options measure active allocated event h).2 := by
  unfold prepareRecord
  split
  · exact .refused _
  rename_i hclosed
  have hopen : h.closed = false := by simpa using hclosed
  split
  · exact .refused _
  rename_i hlegal
  obtain ⟨hnext, hle⟩ : event.sequence = h.lastSequence + 1 ∧ event.sequence ≤ u64Max := by
    have hadd : checkedAdd u64Max h.lastSequence 1 = some event.sequence := by
      by_contra hne
      exact hlegal (.inl hne)
    obtain ⟨heq, hle⟩ := checkedAdd_eq_some.mp hadd
    exact ⟨heq, heq ▸ hle⟩
  split
  · split
    · exact .refused _
    · exact .failed _ _ hopen
  rename_i size hmeasure
  simp only []
  split
  · exact .failed _ _ hopen
  rename_i reserved hreserved
  by_cases hover : options.maxBytes < size
  · -- An oversized event empties the history and stands for the missing end.
    rw [if_pos (by simpa using hover)]
    obtain rfl : reserved = 0 := by
      unfold reserveRecord at hreserved
      split at hreserved
      · cases hreserved
      · simpa [hover] using hreserved.symm
    exact .skipped hopen hnext hle
  · have hsize : size ≤ options.maxBytes := Nat.not_lt.mp hover
    obtain ⟨front, back, hentries, hevict, hcount, hlength, hroom⟩ :=
      evict_spec hsize h.entries h.entries.length 0 (Nat.zero_add _).symm
    obtain rfl : reserved = front.length := by
      unfold reserveRecord at hreserved
      rw [hbytes] at hreserved
      split at hreserved
      · cases hreserved
      · simpa [hover, hcount] using hreserved.symm
    rw [if_neg (by simpa using hover), hbytes, hevict]
    exact .kept size front back hopen hnext hle hentries hlength hroom

/-- An event out of turn or of another session is refused. -/
theorem prepareRecord_illegal {measure : ConnectionEvent → Except NetError Nat}
    {active : Nat → Bool} {allocated : Bool} {event : ConnectionEvent} {h : HistoryState}
    (hillegal : event.sequence ≠ h.lastSequence + 1 ∨
      ∃ expected, h.scope = some expected ∧ expected ≠ (event.clientId, event.sessionId)) :
    ∃ error, prepareRecord options measure active allocated event h = (h, .refused error) := by
  unfold prepareRecord
  split
  · exact ⟨_, rfl⟩
  rw [if_pos]
  · exact ⟨_, rfl⟩
  · rcases hillegal with hsequence | ⟨expected, hscope, hne⟩
    · left
      intro hadd
      exact hsequence (checkedAdd_eq_some.mp hadd).1
    · exact .inr ⟨expected, hscope, hne⟩

end OpenNet.Ws
