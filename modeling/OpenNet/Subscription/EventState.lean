import OpenNet.Error
import OpenNet.Foundation.Checked

/-!
# The event registration

Model of `src/api/subscription/event_registration.rs` and of the constructor of
`src/api/subscription/event.rs`.  A registration owns one bounded queue, measured by item
count and by byte cost, behind one lock.  Every function below is one critical section of
that lock: it maps the `EventState` before it to the one after it, and returns what the
source keeps for the time after the lock is released.

The allocation of the vector that takes evicted entries out of the lock can fail; the
argument `reserved` says whether it succeeded.  Wakers are identified by a number.  The
semaphore permits and retained boxes of an entry or a registration are read by no function here.
-/

namespace OpenNet.Subscription

open Checked

abbrev WakerId := Nat

/-- A queued item and its size. -/
structure Entry (α : Type) where
  value : α
  bytes : Nat
  deriving DecidableEq, Repr

/-- The two limits of a queue. -/
structure EventQueueLimit where
  maxItems : Nat
  maxBytes : Nat
  deriving DecidableEq, Repr

/-- What a full queue does. -/
inductive EventOverflow where
  | disconnect | dropOldest | wait
  deriving DecidableEq, Repr

/-- The backlog a registration starts with. -/
structure EventSeed (α : Type) where
  entries : List (α × Nat)
  lagged : Fin (u64Max + 1)
  sourceClosed : Bool
  failure : Option NetError

def maxPermits : Nat := u64Max / 8

/-- What never changes; the limits passed the constructor. -/
structure EventRegistration where
  limit : EventQueueLimit
  overflow : EventOverflow
  items_pos : 0 < limit.maxItems
  items_le : limit.maxItems ≤ maxPermits
  bytes_pos : 0 < limit.maxBytes
  bytes_le : limit.maxBytes ≤ u32Max

/-- The state behind the registration's lock. -/
structure EventState (α : Type) where
  queue : List (Entry α) := []
  bytes : Nat := 0
  lagged : Nat := 0
  active : Bool := true
  sourceClosed : Bool := false
  pristine : Bool := true
  pendingError : Option NetError := none
  finalError : Option NetError := none
  executor : Bool := true
  callback : Bool := false
  driver : Bool := false
  scheduled : Bool := false
  running : Bool := false
  receiveWaker : Option WakerId := none
  closeWaker : Option WakerId := none
  detachHook : Bool := false
  callbackInstalling : Bool := false
  callbackInstallError : Option NetError := none

/-- `event_channel`: the limits are checked first. -/
def eventChannel (limit : EventQueueLimit) (overflow : EventOverflow) (reserved : Bool) :
    Except NetError EventRegistration :=
  if hi : limit.maxItems = 0 ∨ maxPermits < limit.maxItems then
    .error (.config "subscription.max_items" "must be a positive supported capacity")
  else if hb : limit.maxBytes = 0 ∨ maxPermits < limit.maxBytes ∨ u32Max < limit.maxBytes then
    .error (.config "subscription.max_bytes" "must be a positive supported byte allowance")
  else if !reserved then
    .error (.withForeign .resourceExhausted "try_reserve")
  else
    .ok { limit, overflow, items_pos := by omega, items_le := by omega,
          bytes_pos := by omega, bytes_le := by omega }

/-- What a receiver gets. -/
inductive Delivery (α : Type) where
  | item (entry : Entry α)
  | lagged (skipped : Nat)
  | failed (error : NetError)
  | done
  | pending

/-- What a committed queue change leaves for the time after the lock. -/
structure EventPublication (α : Type) where
  result : Except NetError Bool := .ok true
  input : Option (Entry α) := none
  seed : Option (EventSeed α) := none
  failure : Option NetError := none
  retired : List (Entry α) := []
  wake : Option WakerId := none
  notifyCapacity : Bool := false
  schedule : Bool := false

variable {α : Type}

namespace EventState

/-- `next`; even an empty poll ends the pristine phase. -/
def next (s : EventState α) : EventState α × Delivery α :=
  let s := { s with pristine := false }
  if !s.active then (s, .done)
  else if s.lagged ≠ 0 then ({ s with lagged := 0 }, .lagged s.lagged)
  else match s.queue with
    | entry :: rest => ({ s with queue := rest, bytes := s.bytes - entry.bytes }, .item entry)
    | [] => match s.pendingError with
      | some error => ({ s with pendingError := none }, .failed error)
      | none => (s, if s.sourceClosed then .done else .pending)

/-- `pending`. -/
def pending (s : EventState α) : Bool :=
  s.lagged ≠ 0 || !s.queue.isEmpty || s.pendingError.isSome || s.sourceClosed

end EventState

namespace EventRegistration

/-- Evict the shortest prefix after which `bytes` fit. -/
def evictionScan (limit : EventQueueLimit) (length bytes : Nat) :
    List (Entry α) → Nat → Nat → Nat × Nat
  | [], remaining, count => (remaining, count)
  | entry :: rest, remaining, count =>
    let remaining := remaining - entry.bytes
    let count := count + 1
    if length - count < limit.maxItems && remaining + bytes ≤ limit.maxBytes then
      (remaining, count)
    else evictionScan limit length bytes rest remaining count

/-- The publication of a rejected entry, which the caller gets back. -/
def rejected (entry : Entry α) (error : NetError) : EventPublication α :=
  { result := .error error, input := some entry }

/-- The entry is queued. -/
def pushEntry (entry : Entry α) (retired : List (Entry α)) (s : EventState α) :
    EventState α × EventPublication α :=
  ({ s with bytes := s.bytes + entry.bytes, queue := s.queue ++ [entry], pristine := false,
            receiveWaker := none },
   { retired, wake := s.receiveWaker, schedule := true })

def overflowError : NetError := (NetError.new .callbackOverflow).withStage .dispatch

variable (r : EventRegistration)

/-- `prepare_publish` with `commit_publish`. -/
def preparePublish (reserved : Bool) (entry : Entry α) (s : EventState α) :
    EventState α × EventPublication α :=
  if r.limit.maxBytes < entry.bytes then (s, rejected entry (.new .itemTooLarge))
  else if !s.active || s.sourceClosed then (s, rejected entry (.new .closed))
  else match checkedAdd u64Max s.bytes entry.bytes with
    | none => (s, rejected entry (.new .resourceExhausted))
    | some total =>
      let full := s.queue.length = r.limit.maxItems || r.limit.maxBytes < total
      if full && r.overflow == .wait then (s, { result := .ok false, input := some entry })
      else if full && r.overflow == .disconnect then
        ({ s with pendingError := some overflowError, finalError := some overflowError,
                  sourceClosed := true, pristine := false, receiveWaker := none },
         { result := .error overflowError, input := some entry, wake := s.receiveWaker,
           notifyCapacity := true, schedule := true })
      else if full then
        let (remaining, count) :=
          evictionScan r.limit s.queue.length entry.bytes s.queue s.bytes 0
        match checkedAdd u64Max s.lagged count with
        | none => (s, rejected entry (.new .resourceExhausted))
        | some lagged =>
          if !reserved then (s, rejected entry (.withForeign .resourceExhausted "try_reserve"))
          else pushEntry entry (s.queue.take count)
            { s with queue := s.queue.drop count, bytes := remaining, lagged }
      else pushEntry entry [] s

/-- `prepare_skip`, `commit_skip`: the queue is skipped too. -/
def prepareSkip (reserved : Bool) (skipped : Nat) (s : EventState α) :
    EventState α × EventPublication α :=
  if r.overflow ≠ .dropOldest then
    let error := .input "subscription.overflow" "skipping requires DropOldest overflow"
    (s, { result := .error error })
  else if !s.active || s.sourceClosed then (s, { result := .error (.new .closed) })
  else match (checkedAdd u64Max s.lagged s.queue.length).bind (checkedAdd u64Max · skipped) with
    | none => (s, { result := .error (.new .resourceExhausted) })
    | some lagged =>
      if !reserved then
        (s, { result := .error (.withForeign .resourceExhausted "try_reserve") })
      else
        ({ s with queue := [], bytes := 0, lagged, pristine := false, receiveWaker := none },
         { retired := s.queue, wake := s.receiveWaker, notifyCapacity := true,
           schedule := true })

/-- `prepare_evict_oldest`: the allowance's owner takes an entry back. -/
def prepareEvictOldest (reserved : Bool) (s : EventState α) :
    EventState α × Option (EventPublication α) :=
  if !s.active || s.sourceClosed || r.overflow ≠ .dropOldest then (s, none)
  else match s.queue with
    | [] => (s, none)
    | entry :: rest => match checkedAdd u64Max s.lagged 1 with
      | none => (s, some { result := .error (.new .resourceExhausted) })
      | some lagged =>
        if !reserved then
          (s, some { result := .error (.withForeign .resourceExhausted "try_reserve") })
        else
          ({ s with queue := rest, bytes := s.bytes - entry.bytes, lagged, pristine := false,
                    receiveWaker := none },
           some { retired := [entry], wake := s.receiveWaker, notifyCapacity := true,
                  schedule := true })

/-- `prepare_finish`: the first close decides the failure. -/
def prepareFinish (failure : Option NetError) (s : EventState α) :
    EventState α × EventPublication α :=
  if s.active && !s.sourceClosed then
    ({ s with pristine := false, sourceClosed := true, pendingError := failure,
              finalError := failure, receiveWaker := none },
     { failure, wake := s.receiveWaker, notifyCapacity := true, schedule := true })
  else (s, { failure })

/-- The byte total of a seed, checked entry by entry. -/
def seedTotal (limit : EventQueueLimit) : List (α × Nat) → Nat → Except NetError Nat
  | [], total => .ok total
  | (_, bytes) :: rest, total =>
    if limit.maxBytes < bytes then .error (.new .itemTooLarge)
    else match checkedAdd u64Max total bytes with
      | none => .error (.new .resourceExhausted)
      | some total =>
        if limit.maxBytes < total then .error (.new .queueFull)
        else seedTotal limit rest total

/-- `prepare_seed`, `commit_seed`: all checks come first. -/
def prepareSeed (seed : EventSeed α) (s : EventState α) : EventState α × EventPublication α :=
  if seed.failure.isSome && !seed.sourceClosed then
    (s, { seed, result := .error (.input "subscription.seed" "a failed seed must be closed") })
  else if r.limit.maxItems < seed.entries.length then
    (s, { seed, result := .error (.new .queueFull) })
  else match seedTotal r.limit seed.entries 0 with
    | .error error => (s, { seed, result := .error error })
    | .ok total =>
      if !s.active then (s, { seed, result := .error (.new .closed) })
      else if !s.pristine then
        let error := .input "subscription.seed" "seed requires an unused receiver"
        (s, { seed, result := .error error })
      else
        ({ s with queue := s.queue ++ seed.entries.map fun entry => ⟨entry.1, entry.2⟩,
                  bytes := total, lagged := seed.lagged, sourceClosed := seed.sourceClosed,
                  pendingError := seed.failure, finalError := seed.failure, pristine := false,
                  receiveWaker := none },
         { seed := some { seed with entries := [] }, wake := s.receiveWaker,
           notifyCapacity := seed.sourceClosed, schedule := true })

/-- `unsubscribe` discards the queue; a closing waker stays while a runner executes. -/
def unsubscribe (s : EventState α) : EventState α × Bool :=
  if !s.active then (s, false)
  else
    ({ s with active := false, bytes := 0, lagged := 0, queue := [], pendingError := none,
              callback := false, driver := false, executor := false, receiveWaker := none,
              closeWaker := if s.running then s.closeWaker else none, detachHook := false },
     true)

/-- `poll_next`. -/
def pollNext (waker : WakerId) (s : EventState α) : EventState α × Delivery α :=
  match s.next with
  | (s, .pending) => ({ s with receiveWaker := some waker }, .pending)
  | (s, delivery) => (s, delivery)

/-- `try_recv`. -/
def tryRecv (s : EventState α) : EventState α × Delivery α := s.next

end EventRegistration

/-! ## What each section can do -/

def totalBytes (queue : List (Entry α)) : Nat := (queue.map Entry.bytes).sum

@[simp] theorem totalBytes_nil : totalBytes ([] : List (Entry α)) = 0 := rfl

@[simp] theorem totalBytes_cons (entry : Entry α) (queue : List (Entry α)) :
    totalBytes (entry :: queue) = entry.bytes + totalBytes queue := rfl

@[simp] theorem totalBytes_append (front back : List (Entry α)) :
    totalBytes (front ++ back) = totalBytes front + totalBytes back := by
  simp [totalBytes]

/-- Both limits hold, and the byte total is exact. -/
structure EventState.WellFormed (r : EventRegistration) (s : EventState α) : Prop where
  length_le : s.queue.length ≤ r.limit.maxItems
  bytes_eq : s.bytes = totalBytes s.queue
  bytes_le : s.bytes ≤ r.limit.maxBytes
  lagged_le : s.lagged ≤ u64Max

def EventState.Open (s : EventState α) : Prop := s.active ∧ s.sourceClosed = false

def EventPublication.accepted (p : EventPublication α) : Bool :=
  match p.result with
  | .ok accepted => accepted
  | .error _ => false

namespace EventRegistration

variable {r : EventRegistration} {s : EventState α}

theorem evictionScan_spec {limit : EventQueueLimit} {length bytes : Nat}
    (hitems : 0 < limit.maxItems) (hbytes : bytes ≤ limit.maxBytes) :
    ∀ (rest : List (Entry α)) {remaining count : Nat}, length = count + rest.length →
      remaining = totalBytes rest →
      ∃ front back, rest = front ++ back ∧
        evictionScan limit length bytes rest remaining count =
          (totalBytes back, count + front.length) ∧
        back.length < limit.maxItems ∧ totalBytes back + bytes ≤ limit.maxBytes
  | [], remaining, count, _, hrem => by
    refine ⟨[], [], rfl, ?_, hitems, by simpa using hbytes⟩
    simp [evictionScan, hrem]
  | entry :: rest, remaining, count, hlen, hrem => by
    have hrest : remaining - entry.bytes = totalBytes rest := by
      rw [hrem, totalBytes_cons]; omega
    have hcount : length = count + 1 + rest.length := by
      rw [hlen, List.length_cons]; omega
    simp only [evictionScan, Bool.and_eq_true, decide_eq_true_eq]
    by_cases hfits : length - (count + 1) < limit.maxItems ∧
        remaining - entry.bytes + bytes ≤ limit.maxBytes
    · rw [if_pos hfits, hrest]
      rw [hrest] at hfits
      exact ⟨[entry], rest, rfl, rfl, by omega, hfits.2⟩
    · obtain ⟨front, back, rfl, hscan, hback, hfit⟩ :=
        evictionScan_spec hitems hbytes rest hcount hrest
      refine ⟨entry :: front, back, rfl, ?_, hback, hfit⟩
      rw [if_neg hfits, hscan, List.length_cons]
      congr 1; omega

/-- What a publish does, and whether the entry was accepted. -/
inductive PublishEffect (r : EventRegistration) (entry : Entry α) (s : EventState α) :
    EventState α → Bool → Prop
  | refused : PublishEffect r entry s s false
  | disconnected (hopen : s.Open) :
    PublishEffect r entry s
      { s with pendingError := some overflowError, finalError := some overflowError,
               sourceClosed := true, pristine := false, receiveWaker := none } false
  | accepted (front back : List (Entry α)) (hopen : s.Open) (hqueue : s.queue = front ++ back)
    (hlength : back.length < r.limit.maxItems)
    (hbytes : totalBytes back + entry.bytes ≤ r.limit.maxBytes)
    (hlagged : s.lagged + front.length ≤ u64Max) :
    PublishEffect r entry s
      { s with queue := back ++ [entry], bytes := totalBytes back + entry.bytes,
               lagged := s.lagged + front.length, pristine := false, receiveWaker := none } true

theorem preparePublish_effect (h : s.WellFormed r) (reserved : Bool) (entry : Entry α) :
    PublishEffect r entry s (r.preparePublish reserved entry s).1
      (r.preparePublish reserved entry s).2.accepted := by
  unfold preparePublish
  split
  · exact .refused
  rename_i hsize
  split
  · exact .refused
  rename_i hclosed
  have hopen : s.Open := by simpa [EventState.Open] using hclosed
  split
  · exact .refused
  rename_i total htotal
  obtain ⟨rfl, -⟩ := checkedAdd_eq_some.mp htotal
  simp only
  split
  · exact .refused
  split
  · exact .disconnected hopen
  split
  · -- the queue is full and drops its oldest entries
    have hlen : s.queue.length = 0 + s.queue.length := (Nat.zero_add _).symm
    obtain ⟨front, back, hqueue, hscan, hlength, hbytes⟩ :=
      evictionScan_spec r.items_pos (Nat.not_lt.mp hsize) s.queue hlen h.bytes_eq
    rw [hscan, Nat.zero_add]
    split
    · exact .refused
    rename_i lagged hlagged
    obtain ⟨rfl, hle⟩ := checkedAdd_eq_some.mp hlagged
    split
    · exact .refused
    have heff := PublishEffect.accepted front back hopen hqueue hlength hbytes hle
    simpa [pushEntry, EventPublication.accepted, hqueue] using heff
  · rename_i hwait hdisc hfull
    simp only [Bool.or_eq_true, decide_eq_true_eq, not_or, Nat.not_lt] at hfull
    have hlength : s.queue.length < r.limit.maxItems := by
      have := h.length_le; omega
    have hbytes : totalBytes s.queue + entry.bytes ≤ r.limit.maxBytes := by
      rw [← h.bytes_eq]; exact hfull.2
    have heff := PublishEffect.accepted [] s.queue hopen rfl hlength hbytes h.lagged_le
    simpa [pushEntry, EventPublication.accepted, ← h.bytes_eq] using heff

theorem PublishEffect.opens {entry : Entry α} {s' : EventState α} {ok : Bool}
    (h : PublishEffect r entry s s' ok) (hok : ok) : s.Open ∧ s'.Open := by
  cases h with
  | refused | disconnected => cases hok
  | accepted front back hopen hqueue hlength hbytes hlagged => exact ⟨hopen, hopen⟩

/-- A queue that drops its oldest entries refuses without a change, and never while it is open, has
memory and can count its lag. -/
theorem preparePublish_dropOldest (h : s.WellFormed r) (hpolicy : r.overflow = .dropOldest)
    (reserved : Bool) {entry : Entry α} (hsize : entry.bytes ≤ r.limit.maxBytes) :
    (r.preparePublish reserved entry s).2.accepted ∨ ((r.preparePublish reserved entry s).1 = s ∧
        (r.preparePublish reserved entry s).2.accepted = false ∧
        (s.Open → reserved → u64Max < s.lagged + s.queue.length)) := by
  unfold preparePublish
  rw [if_neg (Nat.not_lt.mpr hsize)]
  split
  next hclosed =>
    refine .inr ⟨rfl, rfl, fun hopen => ?_⟩
    simp [hopen.1, hopen.2] at hclosed
  have hfits : s.bytes + entry.bytes ≤ u64Max := by
    have hbytes := h.bytes_le
    have hlimit := r.bytes_le
    have hmax : u32Max + u32Max ≤ u64Max := by decide
    omega
  rw [checkedAdd_eq_some.mpr ⟨rfl, hfits⟩]
  simp only [hpolicy]
  rw [if_neg (by simp), if_neg (by simp)]
  split
  · have hlen : s.queue.length = 0 + s.queue.length := (Nat.zero_add _).symm
    obtain ⟨front, back, hqueue, hscan, -⟩ :=
      evictionScan_spec r.items_pos hsize s.queue hlen h.bytes_eq
    rw [hscan, Nat.zero_add]
    split
    next hlagged =>
      refine .inr ⟨rfl, rfl, fun _ _ => ?_⟩
      have hover := checkedAdd_eq_none.mp hlagged
      rw [hqueue, List.length_append]
      omega
    next =>
      split
      next hmemory => exact .inr ⟨rfl, rfl, fun _ hreserved => by simp [hreserved] at hmemory⟩
      next => exact .inl rfl
  · exact .inl rfl

/-- A skip either changes nothing or turns the whole queue and the skipped items into lag. -/
theorem prepareSkip_effect (reserved : Bool) (skipped : Nat) (s : EventState α) :
    ((r.prepareSkip reserved skipped s).1 = s ∧
      (r.prepareSkip reserved skipped s).2.accepted = false) ∨
    (s.Open ∧ s.lagged + s.queue.length + skipped ≤ u64Max ∧
      (r.prepareSkip reserved skipped s).1 =
        { s with queue := [], bytes := 0, lagged := s.lagged + s.queue.length + skipped,
                 pristine := false, receiveWaker := none } ∧
      (r.prepareSkip reserved skipped s).2.accepted) := by
  unfold prepareSkip
  split
  · exact .inl ⟨rfl, rfl⟩
  split
  · exact .inl ⟨rfl, rfl⟩
  rename_i hclosed
  have hopen : s.Open := by simpa [EventState.Open] using hclosed
  split
  · exact .inl ⟨rfl, rfl⟩
  rename_i lagged hlagged
  obtain ⟨queued, hqueued, hlagged⟩ := Option.bind_eq_some_iff.mp hlagged
  obtain ⟨rfl, -⟩ := checkedAdd_eq_some.mp hqueued
  obtain ⟨rfl, hle⟩ := checkedAdd_eq_some.mp hlagged
  split
  · exact .inl ⟨rfl, rfl⟩
  · exact .inr ⟨hopen, hle, rfl, rfl⟩

theorem prepareSkip_dropOldest (hpolicy : r.overflow = .dropOldest) {reserved : Bool}
    {skipped : Nat} (hopen : s.Open) (hreserved : reserved)
    (hlag : s.lagged + s.queue.length + skipped ≤ u64Max) :
    (r.prepareSkip reserved skipped s).2.accepted := by
  have hqueued : checkedAdd u64Max s.lagged s.queue.length =
      some (s.lagged + s.queue.length) := checkedAdd_eq_some.mpr ⟨rfl, by omega⟩
  unfold prepareSkip
  rw [if_neg (by simp [hpolicy]), if_neg (by simp [hopen.1, hopen.2]), hqueued, Option.bind_some,
    checkedAdd_eq_some.mpr ⟨rfl, hlag⟩]
  simp only [hreserved]
  rfl

/-- An eviction either changes nothing or turns the oldest entry into lag. -/
theorem prepareEvictOldest_effect (reserved : Bool) (s : EventState α) :
    (r.prepareEvictOldest reserved s).1 = s ∨
    ∃ entry rest, s.Open ∧ s.queue = entry :: rest ∧ s.lagged + 1 ≤ u64Max ∧
      (r.prepareEvictOldest reserved s).1 =
        { s with queue := rest, bytes := s.bytes - entry.bytes, lagged := s.lagged + 1,
                 pristine := false, receiveWaker := none } := by
  unfold prepareEvictOldest
  split
  · exact .inl rfl
  rename_i hclosed
  have hopen : s.Open := by
    simp only [Bool.or_eq_true, not_or] at hclosed
    simpa [EventState.Open] using hclosed.1
  split
  · exact .inl rfl
  rename_i entry rest hqueue
  split
  · exact .inl rfl
  rename_i lagged hlagged
  obtain ⟨rfl, hle⟩ := checkedAdd_eq_some.mp hlagged
  split
  · exact .inl rfl
  · exact .inr ⟨entry, rest, hopen, hqueue, hle, rfl⟩

/-- Closing either changes nothing or closes an open registration with this failure. -/
theorem prepareFinish_effect (failure : Option NetError) (s : EventState α) :
    (prepareFinish failure s).1 = s ∨
    (s.Open ∧ (prepareFinish failure s).1 =
      { s with pristine := false, sourceClosed := true, pendingError := failure,
               finalError := failure, receiveWaker := none }) := by
  unfold prepareFinish
  split
  · rename_i hopen
    exact .inr ⟨by simpa [EventState.Open] using hopen, rfl⟩
  · exact .inl rfl

theorem seedTotal_spec {limit : EventQueueLimit} :
    ∀ (entries : List (α × Nat)) {total sum : Nat}, total ≤ limit.maxBytes →
      seedTotal limit entries total = .ok sum →
      sum = total + (entries.map Prod.snd).sum ∧ sum ≤ limit.maxBytes
  | [], total, sum, hle, h => by
    simp only [seedTotal, Except.ok.injEq] at h
    subst h
    exact ⟨by simp, hle⟩
  | (value, bytes) :: rest, total, sum, hle, h => by
    unfold seedTotal at h
    split at h
    · cases h
    split at h
    · cases h
    rename_i total' htotal
    obtain ⟨rfl, -⟩ := checkedAdd_eq_some.mp htotal
    split at h
    · cases h
    rename_i hfits
    obtain ⟨hsum, hsumle⟩ := seedTotal_spec rest (Nat.not_lt.mp hfits) h
    refine ⟨?_, hsumle⟩
    rw [hsum, List.map_cons, List.sum_cons]
    omega

def seedQueue (seed : EventSeed α) : List (Entry α) :=
  seed.entries.map fun entry => ⟨entry.1, entry.2⟩

theorem totalBytes_seedQueue (seed : EventSeed α) :
    totalBytes (seedQueue seed) = (seed.entries.map Prod.snd).sum := by
  simp [totalBytes, seedQueue, Function.comp_def]

/-- Seeding either changes nothing or installs the whole cursor into an unused receiver. -/
theorem prepareSeed_effect (seed : EventSeed α) (s : EventState α) :
    ((r.prepareSeed seed s).1 = s ∧ (r.prepareSeed seed s).2.accepted = false) ∨
    (s.active ∧ s.pristine ∧ seed.entries.length ≤ r.limit.maxItems ∧
      totalBytes (seedQueue seed) ≤ r.limit.maxBytes ∧
      (seed.failure.isSome → seed.sourceClosed) ∧
      (r.prepareSeed seed s).1 =
        { s with queue := s.queue ++ seedQueue seed, bytes := totalBytes (seedQueue seed),
                 lagged := seed.lagged, sourceClosed := seed.sourceClosed,
                 pendingError := seed.failure, finalError := seed.failure, pristine := false,
                 receiveWaker := none } ∧
      (r.prepareSeed seed s).2.accepted) := by
  unfold prepareSeed
  split
  · exact .inl ⟨rfl, rfl⟩
  rename_i hfailed
  split
  · exact .inl ⟨rfl, rfl⟩
  rename_i hitems
  split
  · exact .inl ⟨rfl, rfl⟩
  rename_i total htotal
  obtain ⟨hsum, hle⟩ := seedTotal_spec seed.entries (Nat.zero_le _) htotal
  rw [Nat.zero_add, ← totalBytes_seedQueue] at hsum
  subst hsum
  split
  · exact .inl ⟨rfl, rfl⟩
  rename_i hactive
  split
  · exact .inl ⟨rfl, rfl⟩
  rename_i hpristine
  refine .inr ⟨by simpa using hactive, by simpa using hpristine, Nat.not_lt.mp hitems, hle, ?_,
    rfl, rfl⟩
  intro hsome
  simpa [hsome] using hfailed

end EventRegistration

theorem EventRegistration.pollNext_eq (waker : WakerId) (s : EventState α) :
    ∃ left, pollNext waker s = ({ s.next.1 with receiveWaker := left }, s.next.2) := by
  unfold pollNext
  split
  · rename_i s' hnext
    exact ⟨some waker, by rw [hnext]⟩
  · rename_i s' delivery _ hnext
    exact ⟨s'.receiveWaker, by rw [hnext]⟩

end OpenNet.Subscription
