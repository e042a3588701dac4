import OpenNet.Foundation.Machine
import OpenNet.Foundation.LossyStream
import OpenNet.Subscription.EventState

/-!
# Delivery accounting of the event channel

The producer side of `src/api/subscription/event.rs` and its receiver run in an arbitrary
interleaving on one registration.  After a receive has found the end of the stream, `deliver` calls
`unsubscribe` in a section of its own; it is the separate operation `closeEnded`.
-/

namespace OpenNet.Subscription

open Checked LossyStream EventRegistration

variable {α : Type}

/-- What a receive obtained. -/
inductive Receipt (α : Type) where
  | item (value : α)
  | lagged (skipped : Nat)
  | failed (error : NetError)
  | ended
  deriving DecidableEq, Repr

def Receipt.isData : Receipt α → Bool
  | .item _ | .lagged _ => true
  | .failed _ | .ended => false

def Receipt.positions : Receipt α → List (Option α)
  | .item value => [some value]
  | .lagged skipped => List.replicate skipped none
  | .failed _ | .ended => []

def expand (receipts : List (Receipt α)) : List (Option α) := receipts.flatMap Receipt.positions

/-- A registration, its stream and receipts. -/
structure Channel (α : Type) where
  state : EventState α := {}
  history : List (Option α) := []
  received : List (Receipt α) := []
  unsubscribed : Bool := false
  ending : Bool := false

inductive ChannelOp (α : Type) where
  | publish (reserved : Bool) (entry : Entry α)
  | skip (reserved : Bool) (skipped : Nat)
  | evictOldest (reserved : Bool)
  | seed (seed : EventSeed α)
  | finish (failure : Option NetError)
  | recv (waker : WakerId)
  | tryRecv
  | closeEnded
  | unsubscribe

def Channel.obtain (c : Channel α) (result : EventState α × Delivery α) : Channel α :=
  match result with
  | (state, .item entry) => { c with state, received := c.received ++ [.item entry.value] }
  | (state, .lagged skipped) => { c with state, received := c.received ++ [.lagged skipped] }
  | (state, .failed error) => { c with state, received := c.received ++ [.failed error] }
  | (state, .done) => { c with state, received := c.received ++ [.ended], ending := true }
  | (state, .pending) => { c with state }

def Channel.commit (c : Channel α) (result : EventState α × EventPublication α)
    (items : List (Option α)) : Channel α :=
  { c with state := result.1,
           history := if result.2.accepted then c.history ++ items else c.history }

/-- One section of the channel. -/
def channelStep (r : EventRegistration) (c : Channel α) : ChannelOp α → Channel α
  | .publish reserved entry => c.commit (r.preparePublish reserved entry c.state)
      [some entry.value]
  | .skip reserved skipped => c.commit (r.prepareSkip reserved skipped c.state)
      (List.replicate skipped none)
  | .evictOldest reserved => { c with state := (r.prepareEvictOldest reserved c.state).1 }
  | .seed seed => c.commit (r.prepareSeed seed c.state)
      (List.replicate seed.lagged none ++ seed.entries.map fun entry => some entry.1)
  | .finish failure => { c with state := (prepareFinish failure c.state).1 }
  | .recv waker => c.obtain (pollNext waker c.state)
  | .tryRecv => c.obtain (EventRegistration.tryRecv c.state)
  | .closeEnded =>
    if c.ending then { c with state := (unsubscribe c.state).1, ending := false } else c
  | .unsubscribe =>
    { c with state := (unsubscribe c.state).1,
             unsubscribed := c.unsubscribed || (unsubscribe c.state).2 }

/-- Data first, then at most one failure, then only ends. -/
def Ordered (receipts : List (Receipt α)) : Prop :=
  ∃ data failures ends, receipts = data ++ failures ++ ends ∧
    (∀ x ∈ data, x.isData) ∧ (∀ x ∈ failures, ∃ error, x = Receipt.failed error) ∧
    failures.length ≤ 1 ∧ ∀ x ∈ ends, x = Receipt.ended

/-- Nothing is left to deliver and nothing can be added. -/
structure EventState.Settled (s : EventState α) : Prop where
  queue : s.queue = []
  lagged : s.lagged = 0
  pendingError : s.pendingError = none
  shut : s.active = false ∨ s.sourceClosed

/-- **The channel invariant.** -/
structure ChannelInv (r : EventRegistration) (c : Channel α) : Prop where
  wf : c.state.WellFormed r
  accounted : ∃ lost, Accounted c.history (expand c.received) c.state.lagged
    (c.state.queue.map Entry.value) lost ∧ (c.unsubscribed = false → lost = [])
  inactive : c.state.active = false → c.state.Settled
  gone : c.unsubscribed → c.state.active = false
  fresh : c.state.pristine →
    c.state.queue = [] ∧ c.state.lagged = 0 ∧ c.history = [] ∧ c.received = []
  failure_final : ∀ e, c.state.pendingError = some e → c.state.finalError = some e
  open_clean : c.state.sourceClosed = false →
    c.state.pendingError = none ∧ c.state.finalError = none
  ordered : Ordered c.received
  settled : (∃ x ∈ c.received, x.isData = false) → c.state.Settled
  failed : ∀ e, Receipt.failed e ∈ c.received →
    c.state.finalError = some e ∧ Covered (expand c.received) c.history
  outstanding : c.unsubscribed = false → ∀ e, c.state.finalError = some e →
    c.state.pendingError = some e ∨ Receipt.failed e ∈ c.received
  ended : Receipt.ended ∈ c.received → c.unsubscribed = false →
    Covered (expand c.received) c.history ∧
      ∀ e, c.state.finalError = some e → Receipt.failed e ∈ c.received
  ending : c.ending → Receipt.ended ∈ c.received
  silent : c.unsubscribed = false → c.state.active = false → Receipt.ended ∈ c.received

/-! ## Receipts -/

@[simp] theorem expand_append (xs ys : List (Receipt α)) :
    expand (xs ++ ys) = expand xs ++ expand ys := by
  simp [expand]

@[simp] theorem expand_item (value : α) : expand [Receipt.item value] = [some value] := rfl

@[simp] theorem expand_lagged (skipped : Nat) :
    expand [(Receipt.lagged skipped : Receipt α)] = List.replicate skipped none := by
  simp [expand, Receipt.positions]

@[simp] theorem expand_failed (error : NetError) :
    expand [(Receipt.failed error : Receipt α)] = [] := rfl

@[simp] theorem expand_ended : expand [(Receipt.ended : Receipt α)] = [] := rfl

variable {xs : List (Receipt α)}

theorem ordered_of_data (h : ∀ x ∈ xs, x.isData) : Ordered xs :=
  ⟨xs, [], [], by simp, h, by simp, by simp, by simp⟩

theorem Ordered.snoc_ended (h : Ordered xs) : Ordered (xs ++ [.ended]) := by
  obtain ⟨data, failures, ends, rfl, hdata, hfail, hlen, hends⟩ := h
  refine ⟨data, failures, ends ++ [.ended], by simp, hdata, hfail, hlen, ?_⟩
  intro x hx
  rcases List.mem_append.mp hx with hx | hx
  · exact hends x hx
  · exact List.mem_singleton.mp hx

section Invariant

variable {r : EventRegistration} {c : Channel α}

theorem ChannelInv.all_data (h : ChannelInv r c) (hns : ¬c.state.Settled) :
    ∀ x ∈ c.received, x.isData := by
  intro x hx
  by_contra hdata
  exact hns (h.settled ⟨x, hx, by simpa using hdata⟩)

theorem EventState.Open.not_settled {s : EventState α} (h : s.Open) : ¬s.Settled := by
  intro hs
  rcases hs.shut with hshut | hshut
  · simp [h.1] at hshut
  · simp [h.2] at hshut

theorem ChannelInv.subscribed (h : ChannelInv r c) (hactive : c.state.active) :
    c.unsubscribed = false := by
  by_contra hu
  simpa [hactive] using h.gone (by simpa using hu)

theorem ChannelInv.accounted_active (h : ChannelInv r c) (hactive : c.state.active) :
    Accounted c.history (expand c.received) c.state.lagged (c.state.queue.map Entry.value) [] := by
  obtain ⟨lost, hacc, hlost⟩ := h.accounted
  rw [hlost (h.subscribed hactive)] at hacc
  exact hacc

theorem channelInv_init : ChannelInv r ({} : Channel α) where
  wf := ⟨Nat.zero_le _, rfl, Nat.zero_le _, Nat.zero_le _⟩
  accounted := ⟨[], ⟨[], [], rfl, List.Forall₂.nil, rfl⟩, fun _ => rfl⟩
  inactive h := by cases h
  gone h := by cases h
  fresh _ := ⟨rfl, rfl, rfl, rfl⟩
  failure_final _ h := by cases h
  open_clean _ := ⟨rfl, rfl⟩
  ordered := ordered_of_data (by simp)
  settled h := by simp at h
  failed _ h := by cases h
  outstanding _ _ h := by cases h
  ended h := by cases h
  ending h := by cases h
  silent _ h := by cases h

/-- The registration is active, and nothing but data was received. -/
structure Live (r : EventRegistration) (c : Channel α) : Prop where
  wf : c.state.WellFormed r
  accounted : Accounted c.history (expand c.received) c.state.lagged
    (c.state.queue.map Entry.value) []
  active : c.state.active
  subscribed : c.unsubscribed = false
  going : c.ending = false
  data : ∀ x ∈ c.received, x.isData
  fresh : c.state.pristine →
    c.state.queue = [] ∧ c.state.lagged = 0 ∧ c.history = [] ∧ c.received = []
  errors : c.state.pendingError = c.state.finalError
  clean : c.state.sourceClosed = false → c.state.finalError = none

theorem Live.channelInv (h : Live r c) : ChannelInv r c where
  wf := h.wf
  accounted := ⟨[], h.accounted, fun _ => rfl⟩
  inactive hin := by simp [h.active] at hin
  gone hu := by simp [h.subscribed] at hu
  fresh := h.fresh
  failure_final _ he := h.errors ▸ he
  open_clean hc := ⟨h.errors.trans (h.clean hc), h.clean hc⟩
  ordered := ordered_of_data h.data
  settled := fun ⟨x, hx, hterm⟩ => by simp [h.data x hx] at hterm
  failed e he := by simpa [Receipt.isData] using h.data _ he
  outstanding _ e he := .inl (h.errors.trans he)
  ended he := by simpa [Receipt.isData] using h.data _ he
  ending he := by simp [h.going] at he
  silent _ hin := by simp [h.active] at hin

theorem Live.data_snoc (h : Live r c) {x : Receipt α} (hx : x.isData) :
    ∀ y ∈ c.received ++ [x], y.isData :=
  List.forall_mem_append.mpr ⟨h.data, List.forall_mem_singleton.mpr hx⟩

variable {s' : EventState α} {left : Option WakerId}

section

variable (h : ChannelInv r c)
include h

theorem ChannelInv.live (hactive : c.state.active)
    (hdata : ∀ x ∈ c.received, x.isData) : Live r c where
  wf := h.wf
  accounted := h.accounted_active hactive
  active := hactive
  subscribed := h.subscribed hactive
  going := by
    refine eq_false_of_ne_true fun hending => ?_
    simpa [Receipt.isData] using hdata _ (h.ending hending)
  data := hdata
  fresh := h.fresh
  errors := by
    cases hfinal : c.state.finalError with
    | none =>
      refine Option.eq_none_iff_forall_ne_some.mpr fun e he => ?_
      cases hfinal.symm.trans (h.failure_final e he)
    | some e =>
      refine (h.outstanding (h.subscribed hactive) e hfinal).resolve_right fun hr => ?_
      simpa [Receipt.isData] using hdata _ hr
  clean hc := (h.open_clean hc).2

theorem ChannelInv.live_open (hopen : c.state.Open) : Live r c :=
  h.live hopen.1 (h.all_data hopen.not_settled)

theorem ChannelInv.close (hopen : c.state.Open) (failure : Option NetError) :
    ChannelInv r { c with state := { c.state with
      pendingError := failure, finalError := failure, sourceClosed := true, pristine := false,
      receiveWaker := none } } :=
  Live.channelInv { h.live_open hopen with
    wf := { h.wf with }
    fresh := nofun
    errors := rfl
    clean := nofun }

theorem ChannelInv.obtain_failed {error : NetError} (hactive : c.state.active)
    (hlagged : c.state.lagged = 0) (hqueue : c.state.queue = [])
    (herror : c.state.pendingError = some error) :
    ChannelInv r { c with
      state := { c.state with pristine := false, receiveWaker := left, pendingError := none }
      received := c.received ++ [.failed error] } := by
  have hdata := h.all_data fun hs => by simp [hs.pendingError] at herror
  have hl := h.live hactive hdata
  have hfinal : c.state.finalError = some error := hl.errors ▸ herror
  have hclosed : c.state.sourceClosed := by
    by_contra hc
    simp [hl.clean (by simpa using hc)] at hfinal
  have hacc := hl.accounted
  rw [hlagged, hqueue] at hacc
  have hmem : ∀ x ∈ c.received ++ [.failed error], x.isData ∨ x = .failed error := by
    intro x hx
    exact (List.mem_append.mp hx).imp (hdata x) List.mem_singleton.mp
  exact { h with
    wf := { h.wf with }
    accounted := ⟨[], by simpa [hlagged, hqueue] using hacc, fun _ => rfl⟩
    inactive := fun hin => by simp [hactive] at hin
    fresh := fun hp => by cases hp
    failure_final := fun e he => by cases he
    open_clean := fun hc => by simp [hclosed] at hc
    ordered := ⟨_, [.failed error], [], by simp, hdata, by simp, by simp, by simp⟩
    settled := fun _ => ⟨hqueue, hlagged, rfl, .inr hclosed⟩
    failed := fun e he => by
      obtain rfl : e = error := by simpa [Receipt.isData] using hmem _ he
      exact ⟨hfinal, by simpa using hacc.covers_all⟩
    outstanding := fun _ e he => by
      rw [hfinal, Option.some.injEq] at he
      exact .inr (by simp [he])
    ended := fun he => by simpa [Receipt.isData] using hmem _ he
    ending := fun he => List.mem_append_left _ (h.ending he)
    silent := fun _ hin => by simp [hactive] at hin }

theorem ChannelInv.obtain_ended (hs : c.state.Settled) :
    ChannelInv r { c with
      state := { c.state with pristine := false, receiveWaker := left }
      received := c.received ++ [.ended], ending := true } := by
  have hexpand : expand (c.received ++ [.ended]) = expand c.received := by simp
  have hfailed : ∀ e, Receipt.failed e ∈ c.received ++ [.ended] →
      Receipt.failed e ∈ c.received := by
    intro e he
    simpa using he
  exact { h with
    wf := { h.wf with }
    accounted := by rw [hexpand]; exact h.accounted
    inactive := fun _ => { hs with }
    fresh := fun hp => by simp at hp
    ordered := h.ordered.snoc_ended
    settled := fun _ => { hs with }
    failed := fun e he => by rw [hexpand]; exact h.failed e (hfailed e he)
    outstanding := fun hu e he => (h.outstanding hu e he).imp_right (List.mem_append_left _)
    ended := fun _ hu => by
      rw [hexpand]
      cases hactive : c.state.active with
      | false =>
        obtain ⟨hcov, hall⟩ := h.ended (h.silent hu hactive) hu
        exact ⟨hcov, fun e he => List.mem_append_left _ (hall e he)⟩
      | true =>
        have hacc := h.accounted_active hactive
        rw [hs.lagged, hs.queue] at hacc
        refine ⟨hacc.covers_all, fun e he => List.mem_append_left _ ?_⟩
        rcases h.outstanding hu e he with hp | hr
        · simp [hs.pendingError] at hp
        · exact hr
    ending := fun _ => by simp
    silent := fun _ _ => by simp }

theorem ChannelInv.obtain (left : Option WakerId) :
    ChannelInv r (c.obtain ({ c.state.next.1 with receiveWaker := left }, c.state.next.2)) := by
  fun_cases EventState.next c.state with
  | case1 s' hactive => exact h.obtain_ended (h.inactive (by simpa [s'] using hactive))
  | case2 s' hactive hlagged =>
    have hactive : c.state.active := by simpa [s'] using hactive
    have hl := h.live hactive (h.all_data fun hs => hlagged hs.lagged)
    dsimp only [Channel.obtain]
    exact Live.channelInv { hl with
      wf := { h.wf with lagged_le := Nat.zero_le _ }
      accounted := by simpa using hl.accounted.report
      data := hl.data_snoc rfl
      fresh := nofun }
  | case3 s' hactive hlagged entry rest hqueue =>
    have hactive : c.state.active := by simpa [s'] using hactive
    have hlagged : c.state.lagged = 0 := by simpa [s'] using hlagged
    have hqueue : c.state.queue = entry :: rest := hqueue
    have hl := h.live hactive (h.all_data fun hs => by simp [hs.queue] at hqueue)
    have hbytes : c.state.bytes - entry.bytes = totalBytes rest := by
      rw [h.wf.bytes_eq, hqueue, totalBytes_cons]; omega
    have hlen := h.wf.length_le
    rw [hqueue, List.length_cons] at hlen
    have hle := h.wf.bytes_le
    have hacc := hl.accounted
    rw [hlagged, hqueue, List.map_cons] at hacc
    dsimp only [Channel.obtain]
    exact Live.channelInv { hl with
      wf := ⟨Nat.le_of_succ_le hlen, hbytes, by simp only [s']; omega, h.wf.lagged_le⟩
      accounted := by simpa [s', hlagged] using hacc.take
      data := hl.data_snoc rfl
      fresh := nofun }
  | case4 s' hactive hlagged hqueue error herror =>
    exact h.obtain_failed (by simpa [s'] using hactive) (by simpa [s'] using hlagged) hqueue herror
  | case5 s' hactive hlagged hqueue herror =>
    have hactive : c.state.active := by simpa [s'] using hactive
    split
    · rename_i hclosed
      exact h.obtain_ended ⟨hqueue, by simpa [s'] using hlagged, herror, .inr hclosed⟩
    · rename_i hopen
      exact Live.channelInv { h.live_open ⟨hactive, by simpa [s'] using hopen⟩ with
        wf := { h.wf with }, fresh := nofun }

/-- Leaving the registration.  Only a settled registration may be left unrecorded. -/
theorem ChannelInv.leave (hactive : c.state.active) (left : Bool)
    (hleft : left = false → Receipt.ended ∈ c.received) (ending : Bool)
    (hending : ending → c.ending) :
    ChannelInv r { c with state := (unsubscribe c.state).1, unsubscribed := left, ending } := by
  have hu := h.subscribed hactive
  have hleave : unsubscribe c.state = ({ c.state with
      active := false, bytes := 0, lagged := 0, queue := [], pendingError := none,
      callback := false, driver := false, executor := false, receiveWaker := none,
      closeWaker := if c.state.running then c.state.closeWaker else none,
      detachHook := false }, true) := by
    simp [unsubscribe, hactive]
  rw [hleave]
  have hsettled : left = false → c.state.Settled := fun hl =>
    h.settled ⟨.ended, hleft hl, rfl⟩
  exact { h with
    wf := ⟨Nat.zero_le _, rfl, Nat.zero_le _, Nat.zero_le _⟩
    accounted := by
      have hacc := h.accounted_active hactive
      cases left with
      | true =>
        obtain ⟨lost, hlost⟩ := hacc.discard
        exact ⟨lost, hlost, nofun⟩
      | false =>
        rw [(hsettled rfl).lagged, (hsettled rfl).queue] at hacc
        exact ⟨[], hacc, fun _ => rfl⟩
    inactive := fun _ => ⟨rfl, rfl, rfl, .inl rfl⟩
    gone := fun _ => rfl
    fresh := fun hp => by
      obtain ⟨-, -, hhist, hrec⟩ := h.fresh hp
      exact ⟨rfl, rfl, hhist, hrec⟩
    failure_final := fun e he => by simp at he
    open_clean := fun hc => ⟨rfl, (h.open_clean hc).2⟩
    settled := fun _ => ⟨rfl, rfl, rfl, .inl rfl⟩
    outstanding := fun hl e he => by
      rcases h.outstanding hu e he with hp | hr
      · simp [(hsettled hl).pendingError] at hp
      · exact .inr hr
    ended := fun he _ => h.ended he hu
    ending := fun he => h.ending (hending he)
    silent := fun hl _ => hleft hl }

theorem ChannelInv.install (seed : EventSeed α) (hactive : c.state.active)
    (hpristine : c.state.pristine) (hitems : seed.entries.length ≤ r.limit.maxItems)
    (hbytes : totalBytes (seedQueue seed) ≤ r.limit.maxBytes)
    (hclosed : seed.failure.isSome → seed.sourceClosed) :
    ChannelInv r { c with
      state := { c.state with
        queue := c.state.queue ++ seedQueue seed, bytes := totalBytes (seedQueue seed),
        lagged := seed.lagged, sourceClosed := seed.sourceClosed, pendingError := seed.failure,
        finalError := seed.failure, pristine := false, receiveWaker := none }
      history := c.history ++ (List.replicate seed.lagged none ++
        seed.entries.map fun entry => some entry.1) } := by
  obtain ⟨hqueue, hlagged, hhistory, hreceived⟩ := h.fresh hpristine
  have hl := h.live hactive (by simp [hreceived])
  have hacc : Accounted (List.replicate (seed.lagged : Nat) none ++
      seed.entries.map fun entry => some entry.1) [] seed.lagged
      ((seedQueue seed).map Entry.value) [] :=
    ⟨[], List.replicate seed.lagged none, by simp [seedQueue, Function.comp_def],
      List.Forall₂.nil, by simp⟩
  exact Live.channelInv { hl with
    wf := ⟨by simpa [hqueue, seedQueue] using hitems, by simp [hqueue], hbytes,
      Nat.le_of_lt_succ seed.lagged.isLt⟩
    accounted := by simpa [hqueue, hhistory, hreceived, expand] using hacc
    fresh := fun hp => by cases hp
    errors := rfl
    clean := fun hc => by
      by_contra hne
      simp [show seed.sourceClosed = false from hc] at hclosed
      exact hne hclosed }

theorem ChannelInv.publish {entry : Entry α} {ok : Bool}
    (heff : PublishEffect r entry c.state s' ok) :
    ChannelInv r { c with
      state := s', history := if ok then c.history ++ [some entry.value] else c.history } := by
  cases heff with
  | refused => exact h
  | disconnected hopen => exact h.close hopen (some overflowError)
  | accepted front back hopen hqueue hlength hbytes hlagged =>
    have hl := h.live_open hopen
    have hlen : (back ++ [entry]).length ≤ r.limit.maxItems := by
      rw [List.length_append, List.length_singleton]; omega
    have hacc := hl.accounted
    rw [hqueue, List.map_append] at hacc
    exact Live.channelInv { hl with
      wf := ⟨hlen, by simp, hbytes, hlagged⟩
      accounted := by simpa using hacc.evict.publish entry.value
      fresh := nofun }

end

/-- **One operation keeps the channel invariant.** -/
theorem channelInv_step (r : EventRegistration) (c : Channel α) (op : ChannelOp α)
    (h : ChannelInv r c) : ChannelInv r (channelStep r c op) := by
  cases op with
  | publish reserved entry => exact h.publish (preparePublish_effect h.wf reserved entry)
  | skip reserved skipped =>
    simp only [channelStep, Channel.commit]
    rcases prepareSkip_effect (r := r) reserved skipped c.state with
      ⟨hs, hacc⟩ | ⟨hopen, hle, hs, hacc⟩
    · rw [hs, hacc]; exact h
    rw [hs, hacc]
    have hl := h.live_open hopen
    have hbooks := hl.accounted
    rw [← List.append_nil (List.map _ _)] at hbooks
    exact Live.channelInv { hl with
      wf := ⟨Nat.zero_le _, rfl, Nat.zero_le _, hle⟩
      accounted := by simpa using hbooks.evict.skip skipped
      fresh := nofun }
  | evictOldest reserved =>
    simp only [channelStep]
    rcases prepareEvictOldest_effect (r := r) reserved c.state with
      hs | ⟨entry, rest, hopen, hqueue, hle, hs⟩
    · rw [hs]; exact h
    rw [hs]
    have hwf := h.wf
    have hlen := hwf.length_le
    have hsum := hwf.bytes_eq
    have hbytes := hwf.bytes_le
    rw [hqueue, List.length_cons] at hlen
    rw [hqueue, totalBytes_cons] at hsum
    have hl := h.live_open hopen
    have hacc := hl.accounted
    rw [hqueue, List.map_cons, ← List.singleton_append] at hacc
    exact Live.channelInv { hl with
      wf := ⟨Nat.le_of_succ_le hlen, by simp only; omega, by simp only; omega, hle⟩
      accounted := by simpa using hacc.evict
      fresh := nofun }
  | seed seed =>
    simp only [channelStep, Channel.commit]
    rcases prepareSeed_effect (r := r) seed c.state with
      ⟨hs, hacc⟩ | ⟨hactive, hpristine, hitems, hbytes, hclosed, hs, hacc⟩
    · rw [hs, hacc]; exact h
    · rw [hs, hacc]; exact h.install seed hactive hpristine hitems hbytes hclosed
  | finish failure =>
    simp only [channelStep]
    rcases prepareFinish_effect failure c.state with hs | ⟨hopen, hs⟩
    · rw [hs]; exact h
    · rw [hs]; exact h.close hopen failure
  | recv waker =>
    obtain ⟨left, hpoll⟩ := pollNext_eq waker c.state
    rw [channelStep, hpoll]
    exact h.obtain left
  | tryRecv => exact h.obtain c.state.next.1.receiveWaker
  | closeEnded =>
    simp only [channelStep]
    split
    · rename_i hending
      cases hactive : c.state.active with
      | true => exact h.leave hactive c.unsubscribed (fun _ => h.ending hending) false (by simp)
      | false =>
        have hs : (unsubscribe c.state).1 = c.state := by simp [unsubscribe, hactive]
        rw [hs]
        exact { h with ending := fun he => by simp at he }
    · exact h
  | unsubscribe =>
    simp only [channelStep]
    cases hactive : c.state.active with
    | true =>
      have hleft : (c.unsubscribed || (unsubscribe c.state).2) := by
        simp [unsubscribe, hactive]
      rw [hleft]
      exact h.leave hactive true (by simp) c.ending id
    | false =>
      have hs : unsubscribe c.state = (c.state, false) := by simp [unsubscribe, hactive]
      rw [hs, Bool.or_false]
      exact h

end Invariant

/-- **Delivery accounting of the event channel**, for every interleaving of its operations. -/
theorem event_channel_accounting (r : EventRegistration) (ops : List (ChannelOp α)) :
    let c := Machine.run (channelStep r) {} ops
    (c.state.queue.length ≤ r.limit.maxItems ∧ c.state.bytes = totalBytes c.state.queue ∧
      totalBytes c.state.queue ≤ r.limit.maxBytes) ∧
    (∃ seen, seen <+: c.history ∧ Covered (expand c.received) seen) ∧
    Ordered c.received ∧
    (∀ e, .failed e ∈ c.received →
      c.state.finalError = some e ∧ Covered (expand c.received) c.history) ∧
    (.ended ∈ c.received → c.unsubscribed = false →
      Covered (expand c.received) c.history ∧
        ∀ e, c.state.finalError = some e → .failed e ∈ c.received) := by
  intro c
  have h : ChannelInv r c := Machine.run_invariant (channelInv_step r) ops channelInv_init
  obtain ⟨lost, hacc, -⟩ := h.accounted
  refine ⟨⟨h.wf.length_le, h.wf.bytes_eq, ?_⟩, hacc.covers_prefix, h.ordered, h.failed, h.ended⟩
  rw [← h.wf.bytes_eq]
  exact h.wf.bytes_le

/-- One item of one byte at a time, oldest dropped first. -/
def unitRegistration : EventRegistration where
  limit := ⟨1, 1⟩
  overflow := .dropOldest
  items_pos := by decide
  items_le := by decide
  bytes_pos := by decide
  bytes_le := by decide

/-- A receiver that unsubscribes with an item queued sees the end although the item was neither
delivered nor counted. -/
theorem unsubscribed_end_loses_items :
    let c := Machine.run (channelStep unitRegistration) ({} : Channel Nat)
      [.publish true ⟨7, 1⟩, .unsubscribe, .tryRecv]
    c.received = [.ended] ∧ c.history = [some 7] ∧ ¬Covered (expand c.received) c.history := by
  refine ⟨rfl, rfl, ?_⟩
  intro hcov
  cases hcov

end OpenNet.Subscription
