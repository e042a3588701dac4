import Mathlib.Logic.Function.Basic
import OpenNet.Foundation.Machine
import OpenNet.Subscription.StateRegistration

/-!
# Convergence of state subscriptions

One source, its publisher and any number of registrations run in an arbitrary interleaving.
A commit addresses its snapshot to every registration in the registry; the snapshots wait in
the registrations' inboxes and are dispatched in any order.  A committed read takes a
snapshot of the source and is applied to the registration later.
-/

namespace OpenNet.Subscription

open Checked

variable {α : Type}

/-- What a receiver obtained from one successful receive. -/
inductive StateReceipt (α : Type) where
  | value (revision : Nat) (value : α)
  | error (error : NetError)
  | done
  deriving DecidableEq, Repr

namespace StateReceipt

def revision? : StateReceipt α → Option Nat
  | value revision _ => some revision
  | error _ | done => none

def isError : StateReceipt α → Bool
  | error _ => true
  | value _ _ | done => false

def rank : StateReceipt α → Nat
  | value _ _ => 0
  | error _ => 1
  | done => 2

end StateReceipt

def revisions (receipts : List (StateReceipt α)) : List Nat :=
  receipts.filterMap StateReceipt.revision?

/-- A registration, the snapshots under way to it, what it delivered. -/
structure Tracked (α : Type) where
  readCommitted : Bool
  state : RegistrationState α
  inbox : List (Snapshot α) := []
  reads : List (Snapshot α) := []
  received : List (StateReceipt α) := []
  closeDispatched : Bool := false
  ending : Bool := false

/-- A source, its committed values and its registrations. -/
structure SourceSystem (α : Type) where
  source : SourceState α
  committed : List α
  registrations : SubscriptionId → Option (Tracked α) := fun _ => none

/-- `StateSource::new`. -/
def SourceSystem.new (initial : α) : SourceSystem α where
  source := { current := initial }
  committed := [initial]

/-- What a publisher may publish. -/
inductive Proposal (α : Type) where
  | value (value : α)
  | finish (value : α)
  | failure (error : NetError)
  | dropPublisher

/-- `prepare_arc`, `prepare_finish_arc`, `prepare_failure` and `drop`. -/
def Proposal.prepare (reserved : Bool) (source : SourceState α) :
    Proposal α → SourceState α × StatePublication α
  | .value v => source.prepare (some v) false none reserved
  | .finish v => source.prepare (some v) true none reserved
  | .failure error => source.prepare none true (some error) reserved
  | .dropPublisher => source.prepare none true none reserved

inductive SourceAction (α : Type) where
  | prepare (proposal : Proposal α) (reserved : Bool)
  | subscribe (id : SubscriptionId) (readCommitted : Bool)
  | dispatch (id : SubscriptionId) (index : Nat)
  | refreshRead (id : SubscriptionId)
  | refreshApply (id : SubscriptionId) (index : Nat)
  | recv (id : SubscriptionId) (waker : WakerId)
  | closeEnded (id : SubscriptionId)
  | unsubscribe (id : SubscriptionId)
  | remove (id : SubscriptionId)

namespace Tracked

def post (snapshot : Snapshot α) (t : Tracked α) : Tracked α :=
  { t with inbox := t.inbox ++ [snapshot] }

/-- `StatePublication::dispatch` to one registration. -/
def dispatch (index : Nat) (t : Tracked α) : Tracked α :=
  match t.inbox[index]? with
  | none => t
  | some snapshot =>
    { t with state := (t.state.update t.readCommitted snapshot).1,
             inbox := t.inbox.eraseIdx index,
             closeDispatched := t.closeDispatched || snapshot.closed }

def refreshRead (source : SourceState α) (t : Tracked α) : Tracked α :=
  if t.readCommitted then { t with reads := t.reads ++ [source.snapshot] } else t

def refreshApply (index : Nat) (t : Tracked α) : Tracked α :=
  match t.reads[index]? with
  | none => t
  | some snapshot =>
    { t with state := t.state.refreshCommitted snapshot, reads := t.reads.eraseIdx index }

/-- Record a receipt; after `next`, `seen` is its revision. -/
def recv (waker : WakerId) (t : Tracked α) : Tracked α :=
  match t.state.pollNext waker with
  | (state, .value value) => { t with state, received := t.received ++ [.value state.seen value] }
  | (state, .error error) => { t with state, received := t.received ++ [.error error] }
  | (state, .done) => { t with state, received := t.received ++ [.done], ending := true }
  | (state, .pending) => { t with state }

def closeEnded (t : Tracked α) : Tracked α :=
  if t.ending then { t with state := t.state.unsubscribe.1, ending := false } else t

/-- The first section of `unsubscribe`; the second is `remove`. -/
def unsubscribe (t : Tracked α) : Tracked α := { t with state := t.state.unsubscribe.1 }

end Tracked

namespace SourceSystem

variable (w : SourceSystem α)

def modify (id : SubscriptionId) (f : Tracked α → Tracked α) : SourceSystem α :=
  { w with registrations := Function.update w.registrations id ((w.registrations id).map f) }

def address (recipients : List SubscriptionId) (snapshot : Snapshot α)
    (registrations : SubscriptionId → Option (Tracked α)) : SubscriptionId → Option (Tracked α) :=
  fun id => if id ∈ recipients then (registrations id).map (Tracked.post snapshot)
    else registrations id

/-- A commit, recorded under its new revision. -/
def commit (result : SourceState α × StatePublication α) : SourceSystem α where
  source := result.1
  committed := if result.1.revision = w.source.revision then w.committed
    else w.committed ++ [result.1.current]
  registrations := match result.2.snapshot? with
    | none => w.registrations
    | some snapshot => address result.2.recipients snapshot w.registrations

/-- A registration of the committed state; ids are not reused. -/
def subscribe (id : SubscriptionId) (readCommitted : Bool) : SourceSystem α :=
  match w.registrations id with
  | some _ => w
  | none =>
    { w with
      source := (w.source.subscribe id).1
      registrations := Function.update w.registrations id (some
        { readCommitted, state := (w.source.subscribe id).2,
          closeDispatched := w.source.closed }) }

/-- One section of source or registration. -/
def step : SourceAction α → SourceSystem α
  | .prepare proposal reserved => w.commit (proposal.prepare reserved w.source)
  | .subscribe id readCommitted => w.subscribe id readCommitted
  | .dispatch id index => w.modify id (Tracked.dispatch index)
  | .refreshRead id => w.modify id (Tracked.refreshRead w.source)
  | .refreshApply id index => w.modify id (Tracked.refreshApply index)
  | .recv id waker => w.modify id (Tracked.recv waker)
  | .closeEnded id => w.modify id Tracked.closeEnded
  | .unsubscribe id => w.modify id Tracked.unsubscribe
  | .remove id =>
    if (w.registrations id).any (!·.state.active) then { w with source := w.source.remove id }
    else w

end SourceSystem

/-! ## The invariant -/

/-- A snapshot under way is committed; a closing one is final. -/
structure SnapshotOk (w : SourceSystem α) (x : Snapshot α) : Prop where
  value : w.committed[x.revision]? = some x.value
  closed : x.closed → x = w.source.snapshot
  opened : x.closed = false → x.failure = none

/-- Nothing but ends is left to deliver. -/
def RegistrationState.Exhausted (s : RegistrationState α) : Prop :=
  s.pendingError = none ∧ s.initial = none ∧
    (s.active = false ∨ (s.sourceClosed ∧ s.seen = s.revision))

/-- Values by revision, then one terminal error, then ends. -/
def StateReceipt.Before : StateReceipt α → StateReceipt α → Prop
  | value r _, value q _ => r < q
  | value _ _, _ | _, done => True
  | _, _ => False

/-- What every registration keeps with respect to its source. -/
structure TrackedInv (w : SourceSystem α) (t : Tracked α) : Prop where
  inbox : ∀ x ∈ t.inbox, SnapshotOk w x
  reads : ∀ x ∈ t.reads, SnapshotOk w x
  latest : w.committed[t.state.revision]? = some t.state.latest
  initial : ∀ v, t.state.initial = some v →
    w.committed[t.state.initialRevision]? = some v ∧ t.state.seen = t.state.initialRevision ∧
      t.received = []
  seen_le : t.state.seen ≤ t.state.revision
  inactive : t.state.active = false → t.state.Exhausted
  closed : t.state.sourceClosed →
    w.source.closed ∧ t.state.revision = w.source.revision ∧
      (t.state.active →
        t.state.pendingError = if t.received.any StateReceipt.isError then none
          else w.source.failure)
  opened : t.state.sourceClosed = false → t.state.pendingError = none
  ordered : t.received.Pairwise StateReceipt.Before
  values : ∀ r v, .value r v ∈ t.received → r ≤ t.state.seen ∧ w.committed[r]? = some v
  first : ∀ r, (revisions t.received).head? = some r → r = t.state.initialRevision
  last : t.state.active → t.state.initial = none →
    (revisions t.received).getLast? = some t.state.seen
  exhausted : (∃ x ∈ t.received, x.rank ≠ 0) → t.state.Exhausted
  dispatched : t.closeDispatched → t.state.active → t.state.sourceClosed
  ending : t.ending → StateReceipt.done ∈ t.received

/-- **The system invariant.** -/
structure SourceInv (w : SourceSystem α) : Prop where
  length : w.committed.length = w.source.revision + 1
  current : w.committed[w.source.revision]? = some w.source.current
  opened : w.source.closed = false → w.source.failure = none
  tracked : ∀ id t, w.registrations id = some t → TrackedInv w t

/-! ### The closing sequence -/

/-- The first `n` receipts when `xs` are left, then ends. -/
def upcoming : List (StateReceipt α) → Nat → List (StateReceipt α)
  | _, 0 => []
  | [], n + 1 => .done :: upcoming [] n
  | x :: xs, n + 1 => x :: upcoming xs n

def receives (id : SubscriptionId) : List (SourceAction α) → Nat
  | [] => 0
  | .recv id' _ :: acts => (if id' = id then 1 else 0) + receives id acts
  | _ :: acts => receives id acts

/-- The revision after the initial snapshot was taken. -/
def Tracked.lastRevision (t : Tracked α) : Nat :=
  (revisions t.received).getLast?.getD t.state.initialRevision

/-- What is left after the close: the initial snapshot, the final value if newer, the failure, as
far as not taken. -/
def closingReceipts (source : SourceState α) (t : Tracked α) : List (StateReceipt α) :=
  t.state.initial.toList.map (.value t.state.initialRevision) ++
  (if t.lastRevision < source.revision then [.value source.revision source.current] else []) ++
  (if t.received.any StateReceipt.isError then [] else source.failure.toList.map .error)

/-- The source can send nothing new to the registration. -/
def RegistrationState.Shut (s : RegistrationState α) : Prop :=
  s.active = false ∨ s.sourceClosed

/-- What a shut registration still has to deliver. -/
def RegistrationState.remaining (s : RegistrationState α) : List (StateReceipt α) :=
  if s.active then
    s.initial.toList.map (.value s.initialRevision) ++
    (if (if s.initial.isSome then s.initialRevision else s.seen) ≠ s.revision
      then [.value s.revision s.latest] else []) ++
    s.pendingError.toList.map .error
  else []

/-- `t'` delivers exactly what `t` would have delivered. -/
structure Quiet (t t' : Tracked α) : Prop where
  shut : t'.state.Shut
  received : t'.received = t.received
  remaining : t'.state.remaining = t.state.remaining

/-- The invariant stays; a shut one keeps what it has to deliver. -/
structure Steady (w : SourceSystem α) (t t' : Tracked α) : Prop where
  inv : TrackedInv w t'
  quiet : t.state.Shut → Quiet t t'

/-! ## What a commit does -/

/-- What a commit can do to the source. -/
inductive CommitEffect (source : SourceState α) : SourceState α × StatePublication α → Prop
  | refused {p : StatePublication α} (hnone : p.snapshot? = none) : CommitEffect source (source, p)
  | committed {source' : SourceState α} {p : StatePublication α} (hopen : source.closed = false)
    (hsnap : p.snapshot? = some source'.snapshot)
    (hrev : source'.revision = source.revision ∧ source'.current = source.current ∨
      source'.revision = source.revision + 1)
    (hclean : source'.closed = false → source'.failure = none) : CommitEffect source (source', p)

theorem Proposal.prepare_effect (p : Proposal α) (reserved : Bool) (source : SourceState α) :
    CommitEffect source (p.prepare reserved source) := by
  cases p <;> simp only [Proposal.prepare, SourceState.prepare]
  all_goals
    split
    · exact .refused rfl
    rename_i hopen
    have hopen : source.closed = false := by simpa using hopen
  case value v =>
    cases hnext : checkedAdd u64Max source.revision 1 with
    | none => exact .committed hopen rfl (.inl ⟨rfl, rfl⟩) nofun
    | some next =>
      obtain ⟨rfl, -⟩ := checkedAdd_eq_some.mp hnext
      cases reserved with
      | false => exact .refused rfl
      | true => exact .committed hopen rfl (.inr rfl) fun _ => rfl
  case finish v =>
    cases hnext : checkedAdd u64Max source.revision 1 with
    | none => exact .committed hopen rfl (.inl ⟨rfl, rfl⟩) nofun
    | some next =>
      obtain ⟨rfl, -⟩ := checkedAdd_eq_some.mp hnext
      exact .committed hopen rfl (.inr rfl) nofun
  case failure e => exact .committed hopen rfl (.inl ⟨rfl, rfl⟩) nofun
  case dropPublisher => exact .committed hopen rfl (.inl ⟨rfl, rfl⟩) nofun

/-- The source of `w'` continues the history of the source of `w`. -/
structure Extends (w w' : SourceSystem α) : Prop where
  committed : w.committed <+: w'.committed
  final : w.source.closed → w'.source.snapshot = w.source.snapshot

section Invariant

variable {w w' : SourceSystem α} {t : Tracked α} {x : Snapshot α}

theorem Extends.lookup (h : Extends w w') {r : Nat} {v : α} (hv : w.committed[r]? = some v) :
    w'.committed[r]? = some v := by
  obtain ⟨more, hmore⟩ := h.committed
  obtain ⟨hlt, -⟩ := List.getElem?_eq_some_iff.mp hv
  rw [← hmore, List.getElem?_append_left hlt]
  exact hv

theorem SnapshotOk.mono (h : Extends w w') (hx : SnapshotOk w x) : SnapshotOk w' x where
  value := h.lookup hx.value
  closed hc := by
    have hsnap := hx.closed hc
    have hclosed : w.source.closed := by rw [hsnap] at hc; exact hc
    rw [h.final hclosed]; exact hsnap
  opened := hx.opened

theorem TrackedInv.mono (h : Extends w w') (ht : TrackedInv w t) : TrackedInv w' t :=
  { ht with
    inbox := fun x hx => (ht.inbox x hx).mono h
    reads := fun x hx => (ht.reads x hx).mono h
    latest := h.lookup ht.latest
    initial := fun v hv => ⟨h.lookup (ht.initial v hv).1, (ht.initial v hv).2⟩
    values := fun r v hv => ⟨(ht.values r v hv).1, h.lookup (ht.values r v hv).2⟩
    closed := fun hc => by
      obtain ⟨hclosed, hrev, hpend⟩ := ht.closed hc
      have hsnap := h.final hclosed
      have hclosed' : w'.source.closed = w.source.closed := congrArg Snapshot.closed hsnap
      have hrev' : w'.source.revision = w.source.revision := congrArg Snapshot.revision hsnap
      have hfail' : w'.source.failure = w.source.failure := congrArg Snapshot.failure hsnap
      rw [hclosed', hrev', hfail']
      exact ⟨hclosed, hrev, hpend⟩ }

theorem TrackedInv.sameHistory (ht : TrackedInv w t) (hcommitted : w'.committed = w.committed)
    (hsource : w'.source.snapshot = w.source.snapshot) : TrackedInv w' t :=
  ht.mono ⟨hcommitted ▸ List.prefix_refl _, fun _ => hsource⟩

/-! ## What the sections of a registration do -/

namespace RegistrationState

variable {s : RegistrationState α}

theorem Shut.absurd (h : s.Shut) (hactive : s.active) (hopen : s.sourceClosed = false) : False := by
  rcases h with hin | hclosed
  · simp [hactive] at hin
  · simp [hopen] at hclosed

theorem Exhausted.shut (h : s.Exhausted) : s.Shut := h.2.2.imp_right And.left

theorem Exhausted.remaining_nil (h : s.Exhausted) : s.remaining = [] := by
  obtain ⟨herror, hinitial, hshut | ⟨-, hseen⟩⟩ := h
  · simp [remaining, hshut]
  · simp [remaining, herror, hinitial, hseen]

end RegistrationState

theorem Steady.refl (h : TrackedInv w t) : Steady w t t := ⟨h, fun hs => ⟨hs, rfl, rfl⟩⟩

theorem TrackedInv.only_values (h : TrackedInv w t) (hx : ¬t.state.Exhausted) :
    ∀ y ∈ t.received, y.rank = 0 := by
  intro y hy
  by_contra hrank
  exact hx (h.exhausted ⟨y, hy, hrank⟩)

theorem StateReceipt.eq_value {y : StateReceipt α} (h : y.rank = 0) : ∃ r v, y = .value r v := by
  cases y with
  | value r v => exact ⟨r, v, rfl⟩
  | _ => cases h

theorem any_isError_of_values {receipts : List (StateReceipt α)}
    (h : ∀ y ∈ receipts, y.rank = 0) : receipts.any StateReceipt.isError = false := by
  rw [List.any_eq_false]
  intro y hy
  obtain ⟨r, v, rfl⟩ := StateReceipt.eq_value (h y hy)
  exact Bool.false_ne_true

theorem TrackedInv.install (h : TrackedInv w t) (hx : SnapshotOk w x)
    (hactive : t.state.active) (hopen : t.state.sourceClosed = false)
    (hle : t.state.revision ≤ x.revision) : TrackedInv w { t with state := t.state.install x } := by
  have hvalues := h.only_values fun hex => hex.shut.absurd hactive hopen
  have hinactive : ∀ {p : Prop}, t.state.active = false → p := fun hf => by
    simp [hactive] at hf
  exact { h with
    latest := hx.value
    seen_le := Nat.le_trans h.seen_le hle
    inactive := hinactive
    closed := fun hc => by
      have hsnap := hx.closed hc
      refine ⟨by rw [hsnap] at hc; exact hc, congrArg Snapshot.revision hsnap, fun _ => ?_⟩
      rw [any_isError_of_values hvalues]
      exact congrArg Snapshot.failure hsnap
    opened := hx.opened
    exhausted := fun ⟨y, hy, hrank⟩ => (hrank (hvalues y hy)).elim
    dispatched := fun hd ha => by
      have := h.dispatched hd ha
      simp [hopen] at this }

theorem TrackedInv.waker (h : TrackedInv w t) (waker : Option WakerId) :
    TrackedInv w { t with state := { t.state with receiveWaker := waker } } :=
  { h with }

theorem TrackedInv.post (h : TrackedInv w t) (hx : SnapshotOk w x) : TrackedInv w (t.post x) :=
  { h with
    inbox := fun y hy => by
      rcases List.mem_append.mp hy with hy | hy
      · exact h.inbox y hy
      · rw [List.mem_singleton.mp hy]; exact hx }

theorem RegistrationState.update_effect (readCommitted : Bool) (x : Snapshot α)
    (s : RegistrationState α) :
    (∃ waker, (s.update readCommitted x).1 = { s with receiveWaker := waker } ∧
      (s.active = false ∨ x.revision < s.revision ∨ s.sourceClosed)) ∨
    (s.active ∧ s.sourceClosed = false ∧ s.revision ≤ x.revision ∧
      (s.update readCommitted x).1 = { s.install x with receiveWaker := none }) := by
  unfold RegistrationState.update
  split
  · rename_i hskip
    simp only [Bool.or_eq_true, Bool.not_eq_eq_eq_not, Bool.not_true, decide_eq_true_eq] at hskip
    exact .inl ⟨s.receiveWaker, rfl, hskip.imp_right .inl⟩
  rename_i hlive
  simp only [Bool.or_eq_true, Bool.not_eq_eq_eq_not, Bool.not_true, decide_eq_true_eq,
    not_or, Bool.not_eq_false, Nat.not_lt] at hlive
  split
  · rename_i hclosed
    split
    · exact .inl ⟨s.receiveWaker, rfl, .inr (.inr hclosed)⟩
    · exact .inl ⟨none, rfl, .inr (.inr hclosed)⟩
  · rename_i hopen
    exact .inr ⟨hlive.1, by simpa using hopen, hlive.2, rfl⟩

theorem TrackedInv.dispatch (hw : SourceInv w) (h : TrackedInv w t) (index : Nat) :
    Steady w t (t.dispatch index) := by
  unfold Tracked.dispatch
  split
  · exact .refl h
  rename_i x hget
  have hx : SnapshotOk w x := h.inbox x (List.mem_of_getElem? hget)
  have hinbox : ∀ y ∈ t.inbox.eraseIdx index, SnapshotOk w y :=
    fun y hy => h.inbox y (List.mem_of_mem_eraseIdx hy)
  rcases t.state.update_effect t.readCommitted x with
    ⟨waker, heq, hwhy⟩ | ⟨hactive, hopen, hle, heq⟩
  · rw [heq]
    refine ⟨{ h.waker waker with inbox := hinbox, dispatched := fun hd ha => ?_ },
      fun hs => ⟨hs, rfl, rfl⟩⟩
    rcases Bool.or_eq_true_iff.mp hd with hd | hc
    · exact h.dispatched hd ha
    rcases hwhy with hin | hlt | hclosed
    · exact absurd ha (by simp [hin])
    · -- a closing snapshot carries the final revision, so it is never older
      have hrev : x.revision = w.source.revision := congrArg Snapshot.revision (hx.closed hc)
      obtain ⟨hlen, -⟩ := List.getElem?_eq_some_iff.mp h.latest
      rw [hw.length] at hlen
      omega
    · exact hclosed
  · rw [heq]
    refine ⟨{ (h.install hx hactive hopen hle).waker none with
      inbox := hinbox, dispatched := fun hd _ => ?_ }, fun hs => (hs.absurd hactive hopen).elim⟩
    rcases Bool.or_eq_true_iff.mp hd with hd | hc
    · exact absurd (h.dispatched hd hactive) (by simp [hopen])
    · exact hc

theorem TrackedInv.refreshRead (hw : SourceInv w) (h : TrackedInv w t) :
    Steady w t (t.refreshRead w.source) := by
  unfold Tracked.refreshRead
  split
  · refine ⟨{ h with reads := fun y hy => ?_ }, fun hs => ⟨hs, rfl, rfl⟩⟩
    rcases List.mem_append.mp hy with hy | hy
    · exact h.reads y hy
    · rw [List.mem_singleton.mp hy]; exact ⟨hw.current, fun _ => rfl, hw.opened⟩
  · exact .refl h

theorem TrackedInv.refreshApply (h : TrackedInv w t) (index : Nat) :
    Steady w t (t.refreshApply index) := by
  unfold Tracked.refreshApply
  split
  · exact .refl h
  rename_i x hget
  have hx : SnapshotOk w x := h.reads x (List.mem_of_getElem? hget)
  have hreads : ∀ y ∈ t.reads.eraseIdx index, SnapshotOk w y :=
    fun y hy => h.reads y (List.mem_of_mem_eraseIdx hy)
  unfold RegistrationState.refreshCommitted
  split
  · exact ⟨{ h with reads := hreads }, fun hs => ⟨hs, rfl, rfl⟩⟩
  rename_i happly
  simp only [Bool.or_eq_true, Bool.not_eq_eq_eq_not, Bool.not_true, decide_eq_true_eq,
    not_or, Bool.not_eq_false, Bool.not_eq_true, Nat.not_lt] at happly
  obtain ⟨⟨⟨hactive, hopen⟩, hle⟩, -⟩ := happly
  exact ⟨{ h.install hx hactive hopen hle with reads := hreads },
    fun hs => (hs.absurd hactive hopen).elim⟩

theorem TrackedInv.unsubscribe (h : TrackedInv w t) : TrackedInv w t.unsubscribe := by
  unfold Tracked.unsubscribe RegistrationState.unsubscribe
  split
  · exact h
  exact { h with
    initial := nofun
    inactive := fun _ => ⟨rfl, rfl, .inl rfl⟩
    closed := fun hc => ⟨(h.closed hc).1, (h.closed hc).2.1, nofun⟩
    opened := fun _ => rfl
    last := nofun
    exhausted := fun _ => ⟨rfl, rfl, .inl rfl⟩
    dispatched := nofun }

theorem TrackedInv.closeEnded (h : TrackedInv w t) : Steady w t t.closeEnded := by
  unfold Tracked.closeEnded
  split
  · rename_i hending
    have hdone : ∃ x ∈ t.received, x.rank ≠ 0 := ⟨.done, h.ending hending, Nat.succ_ne_zero 1⟩
    have hx : t.state.Exhausted := h.exhausted hdone
    have hx' : t.state.unsubscribe.1.Exhausted := h.unsubscribe.exhausted hdone
    exact ⟨{ h.unsubscribe with ending := nofun },
      fun _ => ⟨hx'.shut, rfl, by rw [hx'.remaining_nil, hx.remaining_nil]⟩⟩
  · exact .refl h

theorem SourceInv.newTracked (hw : SourceInv w) (readCommitted : Bool) :
    TrackedInv w { readCommitted, state := RegistrationState.new w.source.snapshot,
                   closeDispatched := w.source.closed } where
  inbox x hx := by cases hx
  reads x hx := by cases hx
  latest := hw.current
  initial v hv := by
    obtain rfl : w.source.current = v := Option.some.inj hv
    exact ⟨hw.current, rfl, rfl⟩
  seen_le := Nat.le_refl _
  inactive ha := by cases ha
  closed hc := ⟨hc, rfl, fun _ => rfl⟩
  opened hc := hw.opened hc
  ordered := List.Pairwise.nil
  values r v hv := by cases hv
  first r hr := by cases hr
  last _ hi := by cases hi
  exhausted := fun ⟨x, hx, _⟩ => by cases hx
  dispatched hd _ := hd
  ending he := by cases he

/-! ## Receiving -/

@[simp] theorem revisions_append (xs ys : List (StateReceipt α)) :
    revisions (xs ++ ys) = revisions xs ++ revisions ys := by
  simp [revisions]

@[simp] theorem revisions_value (r : Nat) (v : α) : revisions [StateReceipt.value r v] = [r] := rfl

@[simp] theorem revisions_error (e : NetError) : revisions [(.error e : StateReceipt α)] = [] := rfl

@[simp] theorem revisions_done : revisions [(.done : StateReceipt α)] = [] := rfl

theorem ordered_concat {receipts : List (StateReceipt α)} {y : StateReceipt α}
    (h : receipts.Pairwise StateReceipt.Before) (hy : ∀ x ∈ receipts, x.Before y) :
    (receipts ++ [y]).Pairwise StateReceipt.Before :=
  List.pairwise_append.mpr ⟨h, List.pairwise_singleton _ _, fun x hx z hz => by
    rw [List.mem_singleton.mp hz]
    exact hy x hx⟩

theorem TrackedInv.obtain_value (h : TrackedInv w t) (hactive : t.state.active)
    (hne : ¬t.state.Exhausted) {r : Nat} {v : α} (hv : w.committed[r]? = some v)
    (hr : r ≤ t.state.revision) (hnew : ∀ q u, .value q u ∈ t.received → q < r)
    (hfirst : revisions t.received = [] → r = t.state.initialRevision) :
    TrackedInv w { t with
      state := { t.state with initial := none, seen := r }
      received := t.received ++ [.value r v] } := by
  have hvalues := h.only_values hne
  have hranks : ∀ y ∈ t.received ++ [StateReceipt.value r v], y.rank = 0 := by
    intro y hy
    rcases List.mem_append.mp hy with hy | hy
    · exact hvalues y hy
    · rw [List.mem_singleton.mp hy]; rfl
  exact { h with
    initial := nofun
    seen_le := hr
    inactive := fun hin => by simp [hactive] at hin
    closed := fun hc => by
      obtain ⟨hclosed, hrev, hpend⟩ := h.closed hc
      refine ⟨hclosed, hrev, fun ha => ?_⟩
      rw [any_isError_of_values hranks]
      have := hpend ha
      rwa [any_isError_of_values hvalues] at this
    ordered := ordered_concat h.ordered fun y hy => by
      obtain ⟨q, u, rfl⟩ := StateReceipt.eq_value (hvalues y hy)
      exact hnew q u hy
    values := fun q u hq => by
      rcases List.mem_append.mp hq with hq | hq
      · exact ⟨Nat.le_of_lt (hnew q u hq), (h.values q u hq).2⟩
      · obtain ⟨rfl, rfl⟩ := StateReceipt.value.inj (List.mem_singleton.mp hq)
        exact ⟨Nat.le_refl _, hv⟩
    first := fun q hq => by
      rw [revisions_append, revisions_value] at hq
      cases hrev : revisions t.received with
      | nil =>
        simp only [hrev, List.nil_append, List.head?_cons, Option.some.injEq] at hq
        rw [← hq]; exact hfirst hrev
      | cons q' qs =>
        apply h.first
        simpa [hrev] using hq
    last := fun _ _ => by simp
    exhausted := fun ⟨y, hy, hrank⟩ => (hrank (hranks y hy)).elim
    ending := fun he => List.mem_append_left _ (h.ending he) }

theorem TrackedInv.obtain_error (h : TrackedInv w t) {e : NetError}
    (hactive : t.state.active) (hinitial : t.state.initial = none)
    (hseen : t.state.seen = t.state.revision) (herror : t.state.pendingError = some e) :
    TrackedInv w { t with
      state := { t.state with pendingError := none }, received := t.received ++ [.error e] } := by
  have hvalues := h.only_values fun hx => by simp [hx.1] at herror
  have hclosed : t.state.sourceClosed := by
    by_contra hopen
    have := h.opened (by simpa using hopen)
    simp [herror] at this
  exact { h with
    initial := fun v hi => by simp [hinitial] at hi
    inactive := fun hin => by simp [hactive] at hin
    closed := fun hc => by
      obtain ⟨hsrc, hrev, -⟩ := h.closed hc
      exact ⟨hsrc, hrev, fun _ => by simp [StateReceipt.isError]⟩
    opened := fun hc => by simp [hclosed] at hc
    ordered := ordered_concat h.ordered fun y hy => by
      obtain ⟨q, u, rfl⟩ := StateReceipt.eq_value (hvalues y hy)
      trivial
    values := fun q u hq => h.values q u (by simpa using hq)
    first := fun q hq => h.first q (by simpa using hq)
    last := fun ha hi => by simpa using h.last ha hi
    exhausted := fun _ => ⟨rfl, hinitial, .inr ⟨hclosed, hseen⟩⟩
    ending := fun he => List.mem_append_left _ (h.ending he) }

theorem TrackedInv.obtain_done (h : TrackedInv w t) (hx : t.state.Exhausted) (ending : Bool) :
    TrackedInv w { t with received := t.received ++ [.done], ending } :=
  { h with
    initial v hi := by simp [hx.2.1] at hi
    closed hc := by
      obtain ⟨hsrc, hrev, hpend⟩ := h.closed hc
      exact ⟨hsrc, hrev, fun ha => by simpa [StateReceipt.isError] using hpend ha⟩
    ordered := ordered_concat h.ordered fun y _ => by cases y <;> trivial
    values q u hq := h.values q u (by simpa using hq)
    first q hq := h.first q (by simpa using hq)
    last ha hi := by simpa using h.last ha hi
    exhausted _ := hx
    ending _ := by simp }

end Invariant

theorem RegistrationState.pollNext_eq (waker : WakerId) (s : RegistrationState α) :
    ∃ left, s.pollNext waker = ({ s.next.1 with receiveWaker := left }, s.next.2) := by
  unfold RegistrationState.pollNext
  split
  · rename_i s' hnext
    exact ⟨some waker, by rw [hnext]⟩
  · rename_i s' delivery _ hnext
    exact ⟨s'.receiveWaker, by rw [hnext]⟩

section Invariant

variable {w w' : SourceSystem α} {t : Tracked α}

/-- The invariant stays; a shut one delivers the next receipt. -/
structure Obtained (w : SourceSystem α) (t t' : Tracked α) : Prop where
  inv : TrackedInv w t'
  shut : t.state.Shut → t'.state.Shut ∧ ∃ x, t'.received = t.received ++ [x] ∧
    ∀ n, upcoming t.state.remaining (n + 1) = x :: upcoming t'.state.remaining n

theorem TrackedInv.recv (h : TrackedInv w t) (waker : WakerId) : Obtained w t (t.recv waker) := by
  obtain ⟨left, hpoll⟩ := t.state.pollNext_eq waker
  have hend (hx : t.state.Exhausted) : Obtained w t { t with
      state := { t.state with receiveWaker := left }
      received := t.received ++ [.done]
      ending := true } := by
    refine ⟨(h.obtain_done hx true).waker left, fun hs => ⟨hs, _, rfl, fun n => ?_⟩⟩
    change upcoming t.state.remaining (n + 1) = .done :: upcoming t.state.remaining n
    rw [hx.remaining_nil]
    rfl
  unfold Tracked.recv
  rw [hpoll]
  fun_cases RegistrationState.next t.state with
  | case1 hactive => exact hend (h.inactive (by simpa using hactive))
  | case2 hactive v hinitial =>
    have hactive : t.state.active := by simpa using hactive
    obtain ⟨hv, hseen, hempty⟩ := h.initial v hinitial
    have hne : ¬t.state.Exhausted := fun hx => by simp [hx.2.1] at hinitial
    have hle : t.state.initialRevision ≤ t.state.revision := hseen ▸ h.seen_le
    refine ⟨(h.obtain_value hactive hne hv hle ?_ fun _ => rfl).waker left,
      fun hs => ⟨hs, _, rfl, fun n => ?_⟩⟩
    · simp [hempty]
    · simp [RegistrationState.remaining, hactive, hinitial, upcoming]
  | case3 hactive hinitial hseen =>
    have hactive : t.state.active := by simpa using hactive
    have hlast := h.last hactive hinitial
    have hne : ¬t.state.Exhausted := by
      rintro ⟨-, -, hshut | ⟨-, heq⟩⟩
      · simp [hactive] at hshut
      · exact hseen heq
    rw [hinitial]
    refine ⟨(h.obtain_value hactive hne h.latest (Nat.le_refl _) ?_ ?_).waker left,
      fun hs => ⟨hs, _, rfl, fun n => ?_⟩⟩
    · intro q u hq
      have hq' := (h.values q u hq).1
      have hle := h.seen_le
      omega
    · intro hnil
      simp [hnil] at hlast
    · simp [RegistrationState.remaining, hactive, hinitial, hseen, upcoming]
  | case4 hactive hinitial hseen e herror =>
    have hactive : t.state.active := by simpa using hactive
    have hseen : t.state.seen = t.state.revision := by simpa using hseen
    refine ⟨(h.obtain_error hactive hinitial hseen herror).waker left,
      fun hs => ⟨hs, _, rfl, fun n => ?_⟩⟩
    simp [RegistrationState.remaining, hactive, hinitial, hseen, herror, upcoming]
  | case5 hactive hinitial hseen herror =>
    have hactive : t.state.active := by simpa using hactive
    cases hclosed : t.state.sourceClosed with
    | true => exact hend ⟨herror, hinitial, .inr ⟨hclosed, by simpa using hseen⟩⟩
    | false => exact ⟨h.waker left, fun hs => (hs.absurd hactive hclosed).elim⟩

/-! ## One action -/

/-- An action is a receive, a removal, or nothing a shut registration delivers. -/
inductive Follows (id : SubscriptionId) (a : SourceAction α) (t : Tracked α) : Tracked α → Prop
  | quiet {t' : Tracked α} (hquiet : t.state.Shut → Quiet t t')
    (hcount : ∀ more, receives id (a :: more) = receives id more) : Follows id a t t'
  | received (waker : WakerId) (hcount : ∀ more, receives id (a :: more) = receives id more + 1) :
    Follows id a t (t.recv waker)
  | unsubscribed {t' : Tracked α} (ha : a = .unsubscribe id) : Follows id a t t'

/-- The invariant, and what became of each registration. -/
structure Settled (w : SourceSystem α) (a : SourceAction α) (w' : SourceSystem α) : Prop where
  inv : SourceInv w'
  follows : ∀ id t, w.registrations id = some t →
    ∃ t', w'.registrations id = some t' ∧ Follows id a t t'

variable {a : SourceAction α}

theorem Follows.refl {id : SubscriptionId}
    (hcount : ∀ more, receives id (a :: more) = receives id more) : Follows id a t t :=
  .quiet (fun hs => ⟨hs, rfl, rfl⟩) hcount

theorem Settled.refl (hw : SourceInv w)
    (hcount : ∀ id more, receives id (a :: more) = receives id more) : Settled w a w :=
  ⟨hw, fun id t ht => ⟨t, ht, .refl (hcount id)⟩⟩

theorem SourceInv.modify (hw : SourceInv w) (id : SubscriptionId) {f : Tracked α → Tracked α}
    (hf : ∀ t, TrackedInv w t → TrackedInv w (f t) ∧ Follows id a t (f t))
    (hcount : ∀ id' more, id' ≠ id → receives id' (a :: more) = receives id' more) :
    Settled w a (w.modify id f) := by
  refine ⟨⟨hw.length, hw.current, hw.opened, fun id' t' h => ?_⟩, fun id' t h => ?_⟩
  · simp only [SourceSystem.modify, Function.update_apply] at h
    split at h
    · obtain ⟨t, ht, rfl⟩ := Option.map_eq_some_iff.mp h
      exact (hf t (hw.tracked id t ht)).1.sameHistory rfl rfl
    · exact (hw.tracked id' t' h).sameHistory rfl rfl
  · simp only [SourceSystem.modify, Function.update_apply]
    split
    · rename_i heq
      subst heq
      exact ⟨f t, by rw [h]; rfl, (hf t (hw.tracked id' t h)).2⟩
    · rename_i hne
      exact ⟨t, h, .refl fun more => hcount id' more hne⟩

theorem SourceInv.modify_steady (hw : SourceInv w) (id : SubscriptionId)
    {f : Tracked α → Tracked α} (hf : ∀ t, TrackedInv w t → Steady w t (f t))
    (hcount : ∀ id' more, receives id' (a :: more) = receives id' more) :
    Settled w a (w.modify id f) :=
  hw.modify id (fun t ht => ⟨(hf t ht).inv, .quiet (hf t ht).quiet (hcount id)⟩)
    fun id' more _ => hcount id' more

theorem SourceInv.commit (hw : SourceInv w) (proposal : Proposal α) (reserved : Bool) :
    Settled w (.prepare proposal reserved) (w.commit (proposal.prepare reserved w.source)) := by
  have heff := proposal.prepare_effect reserved w.source
  generalize proposal.prepare reserved w.source = result at heff
  cases heff with
  | @refused p hnone =>
    have heq : w.commit (w.source, p) = w := by
      simp [SourceSystem.commit, hnone]
    rw [heq]
    exact .refl hw fun _ _ => rfl
  | @committed source p hopen hsnap hrev hclean =>
    have hext : Extends w (w.commit (source, p)) := by
      refine ⟨?_, fun hc => by simp [hopen] at hc⟩
      simp only [SourceSystem.commit]
      split
      · exact List.prefix_refl _
      · exact List.prefix_append _ _
    have hlength : (w.commit (source, p)).committed.length = source.revision + 1 := by
      simp only [SourceSystem.commit]
      rcases hrev with ⟨hrev, -⟩ | hrev
      · rw [if_pos hrev, hrev, hw.length]
      · rw [if_neg (by omega), hrev, List.length_append, List.length_singleton, hw.length]
    have hcurrent : (w.commit (source, p)).committed[source.revision]? = some source.current := by
      simp only [SourceSystem.commit]
      rcases hrev with ⟨hrev, hcur⟩ | hrev
      · rw [if_pos hrev, hrev, hcur, hw.current]
      · rw [if_neg (by omega), hrev, ← hw.length, List.getElem?_concat_length]
    have hok : SnapshotOk (w.commit (source, p)) source.snapshot :=
      ⟨hcurrent, fun _ => rfl, hclean⟩
    refine ⟨⟨hlength, hcurrent, hclean, fun id t h => ?_⟩, fun id t h => ?_⟩
    · simp only [SourceSystem.commit, hsnap, SourceSystem.address] at h
      split at h
      · obtain ⟨t₀, ht₀, rfl⟩ := Option.map_eq_some_iff.mp h
        exact ((hw.tracked id t₀ ht₀).mono hext).post hok
      · exact (hw.tracked id t h).mono hext
    · simp only [SourceSystem.commit, hsnap, SourceSystem.address]
      split
      · exact ⟨t.post source.snapshot, by rw [h]; rfl,
          .quiet (fun hs => ⟨hs, rfl, rfl⟩) fun _ => rfl⟩
      · exact ⟨t, h, .refl fun _ => rfl⟩

/-- **One action keeps the system invariant**, and a shut registration obtains by it at most what
it had to deliver. -/
theorem SourceSystem.step_settled (hw : SourceInv w) (a : SourceAction α) :
    Settled w a (w.step a) := by
  cases a with
  | prepare proposal reserved => exact hw.commit proposal reserved
  | subscribe id readCommitted =>
    simp only [step, subscribe]
    split
    · exact .refl hw fun _ _ => rfl
    rename_i hfree
    refine ⟨⟨hw.length, hw.current, hw.opened, fun id' t h => ?_⟩, fun id' t h => ?_⟩
    · simp only [Function.update_apply] at h
      split at h
      · obtain rfl := Option.some.inj h
        exact (hw.newTracked readCommitted).sameHistory rfl rfl
      · exact (hw.tracked id' t h).sameHistory rfl rfl
    · have hne : id' ≠ id := fun heq => by rw [← heq, h] at hfree; cases hfree
      exact ⟨t, by simp [hne, h], .refl fun _ => rfl⟩
  | dispatch id index => exact hw.modify_steady id (fun _ ht => ht.dispatch hw index) fun _ _ => rfl
  | refreshRead id => exact hw.modify_steady id (fun _ ht => ht.refreshRead hw) fun _ _ => rfl
  | refreshApply id index =>
    exact hw.modify_steady id (fun _ ht => ht.refreshApply index) fun _ _ => rfl
  | recv id waker =>
    refine hw.modify id (fun t ht => ⟨(ht.recv waker).inv, .received waker fun more => ?_⟩)
      fun id' more hne => ?_
    · simp [receives, Nat.add_comm]
    · simp [receives, Ne.symm hne]
  | closeEnded id => exact hw.modify_steady id (fun _ ht => ht.closeEnded) fun _ _ => rfl
  | unsubscribe id =>
    exact hw.modify id (fun t ht => ⟨ht.unsubscribe, .unsubscribed rfl⟩) fun _ _ _ => rfl
  | remove id =>
    simp only [step]
    split
    · exact ⟨⟨hw.length, hw.current, hw.opened, fun id' t h =>
        (hw.tracked id' t h).sameHistory rfl rfl⟩, fun id' t h => ⟨t, h, .refl fun _ => rfl⟩⟩
    · exact .refl hw fun _ _ => rfl

/-- The invariant turns the registration's own books into the closing sequence. -/
theorem TrackedInv.remaining_eq (hw : SourceInv w) (h : TrackedInv w t)
    (hactive : t.state.active) (hclosed : t.state.sourceClosed) :
    t.state.remaining = closingReceipts w.source t := by
  obtain ⟨-, hrev, hpend⟩ := h.closed hclosed
  have hcurrent : t.state.latest = w.source.current := by
    have hlatest := h.latest
    rw [hrev, hw.current] at hlatest
    exact (Option.some.inj hlatest).symm
  have hlast : (if t.state.initial.isSome then t.state.initialRevision else t.state.seen) =
      t.lastRevision ∧ t.lastRevision ≤ t.state.revision := by
    unfold Tracked.lastRevision
    cases hinitial : t.state.initial with
    | some v =>
      obtain ⟨-, hseen, hempty⟩ := h.initial v hinitial
      have hle := h.seen_le
      rw [hseen] at hle
      simpa [hempty, revisions] using hle
    | none => simpa [h.last hactive hinitial] using h.seen_le
  have hnewer : t.lastRevision ≠ t.state.revision ↔ t.lastRevision < w.source.revision := by
    rw [← hrev]
    have := hlast.2
    omega
  unfold RegistrationState.remaining closingReceipts
  rw [if_pos hactive, hlast.1, hpend hactive, hcurrent, hrev]
  rw [hrev] at hnewer
  simp only [hnewer]
  congr 1
  split <;> rfl

/-- From a shut registration on, every run delivers what remains and then only ends. -/
theorem closing_run {id : SubscriptionId} :
    ∀ (more : List (SourceAction α)) {w : SourceSystem α} {t : Tracked α}, SourceInv w →
      w.registrations id = some t → t.state.Shut → (∀ a ∈ more, a ≠ .unsubscribe id) →
      ∃ t', (Machine.run SourceSystem.step w more).registrations id = some t' ∧
        t'.received = t.received ++ upcoming t.state.remaining (receives id more)
  | [], w, t, _, ht, _, _ => ⟨t, ht, by simp [receives, upcoming]⟩
  | a :: more, w, t, hw, ht, hshut, hmore => by
    have hrest : ∀ b ∈ more, b ≠ .unsubscribe id := fun b hb => hmore b (List.mem_cons_of_mem _ hb)
    have hset := w.step_settled hw a
    obtain ⟨t₁, ht₁, hfollows⟩ := hset.follows id t ht
    cases hfollows with
    | quiet hquiet hcount =>
      obtain ⟨t', ht', hrec⟩ := closing_run more hset.inv ht₁ (hquiet hshut).shut hrest
      refine ⟨t', ht', ?_⟩
      rw [hrec, (hquiet hshut).received, (hquiet hshut).remaining, hcount]
    | received waker hcount =>
      obtain ⟨hshut₁, x, hrec₁, hnext⟩ := ((hw.tracked id t ht).recv waker).shut hshut
      obtain ⟨t', ht', hrec⟩ := closing_run more hset.inv ht₁ hshut₁ hrest
      refine ⟨t', ht', ?_⟩
      rw [hrec, hrec₁, hcount, hnext, List.append_assoc]
      rfl
    | unsubscribed ha => exact absurd ha (hmore a List.mem_cons_self)

/-! ## The order of the receipts -/

variable {receipts : List (StateReceipt α)} (h : receipts.Pairwise StateReceipt.Before)
include h

theorem revisions_increasing : (revisions receipts).Pairwise (· < ·) := by
  refine List.Pairwise.filterMap _ (fun x y hxy r hr q hq => ?_) h
  cases x <;> cases y <;> cases hr <;> cases hq
  exact hxy

theorem receipts_ranked : receipts.Pairwise fun x y => x.rank ≤ y.rank := by
  refine h.imp fun {x y} hxy => ?_
  cases x <;> cases y <;> first | exact hxy.elim | simp [StateReceipt.rank]

theorem error_once : (receipts.filter StateReceipt.isError).length ≤ 1 := by
  have hpair := h.filter StateReceipt.isError
  cases hf : receipts.filter StateReceipt.isError with
  | nil => exact Nat.zero_le 1
  | cons x xs =>
    cases xs with
    | nil => exact Nat.le_refl 1
    | cons y ys =>
      have hmem : ∀ z ∈ x :: y :: ys, z.isError := fun z hz =>
        (List.mem_filter.mp (hf ▸ hz)).2
      rw [hf, List.pairwise_cons] at hpair
      have hxy := hpair.1 y List.mem_cons_self
      have hx := hmem x List.mem_cons_self
      have hy := hmem y (List.mem_cons_of_mem _ List.mem_cons_self)
      cases x <;> cases hx
      cases y <;> cases hy
      exact hxy.elim

end Invariant

/-- **Convergence of state subscriptions**, for every interleaving of commits, dispatches,
committed reads and receives. -/
theorem state_subscription_convergence (initial : α) (acts : List (SourceAction α))
    (id : SubscriptionId) (t : Tracked α)
    (ht : (Machine.run SourceSystem.step (SourceSystem.new initial) acts).registrations id =
      some t) :
    let w := Machine.run SourceSystem.step (SourceSystem.new initial) acts
    (revisions t.received).Pairwise (· < ·) ∧
    (∀ r, (revisions t.received).head? = some r → r = t.state.initialRevision) ∧
    (∀ r v, .value r v ∈ t.received → w.committed[r]? = some v) ∧
    (t.received.Pairwise fun x y => x.rank ≤ y.rank) ∧
    (t.received.filter StateReceipt.isError).length ≤ 1 ∧
    (t.closeDispatched = true → t.state.active = true →
      w.source.closed = true ∧
      ∀ more, (∀ a ∈ more, a ≠ .unsubscribe id) →
        ∃ t', (Machine.run SourceSystem.step w more).registrations id = some t' ∧
          t'.received =
            t.received ++ upcoming (closingReceipts w.source t) (receives id more)) := by
  intro w
  have hw : SourceInv w := Machine.run_invariant (I := SourceInv)
    (fun s a hs => (s.step_settled hs a).inv) acts ⟨rfl, rfl, fun _ => rfl, fun _ _ h => by cases h⟩
  have h := hw.tracked id t ht
  refine ⟨revisions_increasing h.ordered, h.first, fun r v hv => (h.values r v hv).2,
    receipts_ranked h.ordered, error_once h.ordered, fun hd hactive => ?_⟩
  have hclosed := h.dispatched hd hactive
  refine ⟨(h.closed hclosed).1, fun more hmore => ?_⟩
  obtain ⟨t', ht', hrec⟩ := closing_run more hw ht (.inr hclosed) hmore
  exact ⟨t', ht', by rw [hrec, h.remaining_eq hw hactive hclosed]⟩

/-- Two commits, dispatched youngest first, and a final failure: the receiver skips the older
value and ends with the failure. -/
theorem state_subscription_convergence_reordered :
    let acts : List (SourceAction Nat) :=
      [.subscribe 1 false, .prepare (.value 5) true, .prepare (.value 6) true, .recv 1 0,
        .dispatch 1 1, .dispatch 1 0, .prepare (.failure (.new .closed)) true, .dispatch 1 0]
    ∃ t, (Machine.run SourceSystem.step (SourceSystem.new 4) acts).registrations 1 = some t ∧
      t.received = [.value 0 4] ∧
      closingReceipts (Machine.run SourceSystem.step (SourceSystem.new 4) acts).source t =
        [.value 2 6, .error (.new .closed)] ∧
      (Machine.run SourceSystem.step (SourceSystem.new 4) acts).source.closed = true := by
  refine ⟨_, rfl, rfl, rfl, ?_⟩
  exact ((state_subscription_convergence 4 _ 1 _ rfl).2.2.2.2.2 rfl rfl).1

end OpenNet.Subscription
