import OpenNet.Http.RequestRegistry

/-!
# Steps of the registry and of a request's ticket

What `reserve`, `activate` and `finish` do to the registry, and what a step does for one ticket: to
the ticket, to the registry, to the semaphore and to the lanes.
-/

namespace OpenNet.Http

namespace RegistryState

/-! ## The sections of the registry -/

variable {r : RegistryState} {id : HttpRequestId} {control : ControlId}

theorem taken_iff : r.taken id ↔ id ∈ r.live := by
  simp [taken, live, KeyedMap.contains_iff]

theorem allocate_fresh {taken : HttpRequestId → Bool} {next next' : Option Nat}
    (h : allocate taken next = (.ok id, next')) : taken id = false := by
  induction next using allocate.induct taken with
  | case1 =>
    rw [allocate] at h
    cases h
  | case2 value htaken ih =>
    rw [allocate, if_pos htaken] at h
    exact ih h
  | case3 value htaken =>
    rw [allocate, if_neg htaken] at h
    cases h
    simpa using htaken

def ahead (live : List Nat) (value : Nat) : Nat := (live.filter (value ≤ ·)).length

variable {live : List Nat} {r' : RegistryState} {requested : Option HttpRequestId} {memory : Bool}

theorem ahead_succ_lt {value : Nat} (h : value ∈ live) :
    ahead live (value + 1) < ahead live value := by
  unfold ahead
  have hsub : (live.filter (value + 1 ≤ ·)).Sublist (live.filter (value ≤ ·)) := by
    refine List.monotone_filter_right live ?_
    intro id hid
    simp only [decide_eq_true_eq] at hid ⊢
    omega
  refine Nat.lt_of_le_of_ne hsub.length_le ?_
  intro heq
  -- A sublist of full length is the list, but `value` is only in the longer one.
  have hmem : value ∈ live.filter (value ≤ ·) := List.mem_filter.mpr ⟨h, by simp⟩
  rw [← hsub.eq_of_length heq, List.mem_filter, decide_eq_true_eq] at hmem
  omega

/-- Each round passes a live id: the result is at most as far away as there are live ids, and a
failure means that all left are live. -/
theorem allocate_bound {taken : Nat → Bool} (htaken : ∀ id, taken id → id ∈ live) (value : Nat) :
    (∃ (id : Nat) (next : Option Nat), allocate taken (some value) = (.ok id, next) ∧
        value ≤ id ∧ id ≤ value + ahead live value) ∨
      ((∃ error, allocate taken (some value) = (.error error, none)) ∧
        ∀ id : Nat, value ≤ id → id ≤ Checked.u64Max → id ∈ live) := by
  induction hn : ahead live value using Nat.strongRecOn generalizing value with
  | ind n ih =>
    subst hn
    rw [allocate]
    by_cases hvalue : taken value
    · rw [if_pos hvalue]
      have hlive := htaken value hvalue
      have hlt := ahead_succ_lt hlive
      cases hnext : Checked.checkedAdd Checked.u64Max value 1 with
      | none =>
        right
        have hlast : Checked.u64Max < value + 1 := Checked.checkedAdd_eq_none.mp hnext
        refine ⟨⟨_, by rw [allocate]⟩, ?_⟩
        intro id hle hmax
        obtain rfl : id = value := by omega
        exact hlive
      | some next =>
        obtain ⟨rfl, -⟩ := Checked.checkedAdd_eq_some.mp hnext
        rcases ih _ hlt (value + 1) rfl with ⟨id, next, heq, hle, hbound⟩ | ⟨herror, hall⟩
        · exact .inl ⟨id, next, heq, by omega, by omega⟩
        refine .inr ⟨herror, ?_⟩
        intro id hle hmax
        rcases Nat.eq_or_lt_of_le hle with rfl | hlt'
        · exact hlive
        · exact hall id hlt' hmax
    · rw [if_neg hvalue]
      exact .inl ⟨value, _, rfl, Nat.le_refl _, by omega⟩

theorem registered_iff {m : KeyedMap Registration.id} :
    registered m id control ↔ (⟨id, control⟩ : Registration) ∈ m.values := by
  unfold registered
  constructor
  · intro h
    cases hget : m.get id with
    | none => simp [hget] at h
    | some e =>
      obtain ⟨hmem, hid⟩ := m.get_eq_some.mp hget
      have hcontrol : e.control = control := by simpa [hget] using h
      obtain ⟨id', control'⟩ := e
      cases hid
      cases hcontrol
      exact hmem
  · intro h
    have hget : m.get id = some ⟨id, control⟩ := m.get_eq_some.mpr ⟨h, rfl⟩
    simp [hget]

/-- A requested id that is not live, or an allocated one, enters the reservations. -/
theorem reserve_ok (h : r.reserve requested control memory = (.ok id, r')) :
    id ∉ r.live ∧
      ∃ nextId, r' = { r with nextId, reserved := r.reserved.insert ⟨id, control⟩ } := by
  have hchosen : ∀ nextId, r.chooseId requested = (.ok id, nextId) → id ∉ r.live := by
    intro nextId hchoose hlive
    have htaken := taken_iff.mpr hlive
    cases requested with
    | none =>
      rw [allocate_fresh hchoose] at htaken
      cases htaken
    | some id' =>
      simp only [chooseId] at hchoose
      split at hchoose
      · cases hchoose
      rename_i hfree
      cases hchoose
      exact hfree htaken
  unfold reserve at h
  split at h
  · cases h
  rename_i id' nextId hchoose
  split at h
  · cases h
    exact ⟨hchosen nextId hchoose, nextId, rfl⟩
  · cases h

theorem reserve_error {error : NetError}
    (h : r.reserve requested control memory = (.error error, r')) :
    ∃ nextId, r' = { r with nextId } := by
  unfold reserve at h
  split at h
  · cases h
    exact ⟨_, rfl⟩
  split at h
  · cases h
  · cases h
    exact ⟨_, rfl⟩

/-- `activate` moves the reservation of its own signal to the entries, or changes nothing. -/
theorem activate_cases (r : RegistryState) (id : HttpRequestId) (control : ControlId)
    (memory : Bool) :
    (∃ result, r.activate id control memory = (result, r)) ∨
      ((⟨id, control⟩ : Registration) ∈ r.reserved.values ∧
        r.activate id control memory =
          (.ok (), { r with reserved := r.reserved.erase id,
                            entries := r.entries.insert ⟨id, control⟩ })) := by
  unfold activate
  split
  · exact .inl ⟨_, rfl⟩
  split
  · exact .inl ⟨_, rfl⟩
  rename_i hreserved
  split
  · exact .inl ⟨_, rfl⟩
  · exact .inr ⟨registered_iff.mp (by simpa using hreserved), rfl⟩

/-- `finish` removes the registration of its own signal and no other. -/
theorem finish_cases (r : RegistryState) (id : HttpRequestId) (control : ControlId) :
    ((⟨id, control⟩ : Registration) ∈ r.entries.values ∧
        r.finish id control = { r with entries := r.entries.erase id }) ∨
      ((⟨id, control⟩ : Registration) ∈ r.reserved.values ∧
        r.finish id control = { r with reserved := r.reserved.erase id }) ∨
      ((⟨id, control⟩ : Registration) ∉ r.entries.values ∧
        (⟨id, control⟩ : Registration) ∉ r.reserved.values ∧ r.finish id control = r) := by
  unfold finish
  split
  · rename_i hentries
    exact .inl ⟨registered_iff.mp hentries, rfl⟩
  rename_i hentries
  split
  · rename_i hreserved
    exact .inr (.inl ⟨registered_iff.mp hreserved, rfl⟩)
  rename_i hreserved
  exact .inr (.inr ⟨fun h => hentries (registered_iff.mpr h),
    fun h => hreserved (registered_iff.mpr h), rfl⟩)

theorem finish_other {e : Registration} (hne : e.control ≠ control) :
    (e ∈ r.entries.values → e ∈ (r.finish id control).entries.values) ∧
      (e ∈ r.reserved.values → e ∈ (r.finish id control).reserved.values) := by
  have hkept : ∀ {m : KeyedMap Registration.id}, (⟨id, control⟩ : Registration) ∈ m.values →
      e ∈ m.values → e ∈ (m.erase id).values := by
    intro m hmine he
    refine m.mem_erase.mpr ⟨he, ?_⟩
    intro hid
    have heq := m.eq_of_key he hmine hid
    rw [heq] at hne
    exact hne rfl
  rcases r.finish_cases id control with ⟨hmem, heq⟩ | ⟨hmem, heq⟩ | ⟨-, -, heq⟩
  · rw [heq]
    exact ⟨hkept hmem, fun h => h⟩
  · rw [heq]
    exact ⟨fun h => h, hkept hmem⟩
  · rw [heq]
    exact ⟨fun h => h, fun h => h⟩

end RegistryState

/-! ## Tickets -/

def LeaseStage.marks : LeaseStage → Bool
  | .active | .dropPermit | .clearActive => true
  | _ => false

namespace TicketStage

def stored : TicketStage → Bool
  | .loadActive | .lockRegistry | .retired => true
  | _ => false

def admitted : TicketStage → Bool
  | .accepted | .published => true
  | _ => false

def mayHoldPermit : TicketStage → Bool
  | .pending | .accepted | .published | .dropSlot | .dropPermit => true
  | _ => false

def mayHoldSlot : TicketStage → Bool
  | .pending | .accepted | .published | .dropSlot => true
  | _ => false

end TicketStage

variable {t : Ticket}

namespace Ticket

/-- Nothing is left of the request. -/
def Gone (t : Ticket) : Prop :=
  t.stage = .retired ∧ (t.lease = .absent ∨ t.lease = .released)

/-- Given up before it was published, with nothing left to do. -/
def Failed (t : Ticket) : Prop := t.Gone ∧ t.committed = false

/-- What a ticket holds follows its stage. -/
structure Sound (t : Ticket) : Prop where
  active : t.middlewareActive = t.lease.marks
  finished : t.transportFinished = t.stage.stored
  admitted : t.stage.admitted → t.permit
  permit : t.permit → t.stage.mayHoldPermit
  slot : t.slot → t.stage.mayHoldSlot
  shared : 0 < t.shared → t.committed
  pending : t.stage = .pending → t.lease = .absent ∧ t.shared = 0 ∧ t.committed = false

/-- One permit of the semaphore as long as a handle is alive. -/
def permits (t : Ticket) : Nat := if 0 < t.handles then 1 else 0

def slots (t : Ticket) (streaming : Bool) : Nat := (t.slot && t.streaming == streaming).toNat

section Sound

variable {t t' : Ticket}

theorem Sound.no_permit (h : t.Sound) (hstage : t.stage.mayHoldPermit = false) :
    t.permit = false := by
  by_contra hpermit
  cases hstage.symm.trans (h.permit (Bool.not_eq_false _ ▸ hpermit))

theorem Sound.no_slot (h : t.Sound) (hstage : t.stage.mayHoldSlot = false) : t.slot = false := by
  by_contra hslot
  cases hstage.symm.trans (h.slot (Bool.not_eq_false _ ▸ hslot))

theorem Sound.leaves (h : t.Sound) {stage : TicketStage} {permit slot finished : Bool}
    (hfinished : finished = stage.stored) (hadmitted : stage.admitted = false)
    (hpermit : permit → stage.mayHoldPermit)
    (hslot : slot → stage.mayHoldSlot) (hpending : stage ≠ .pending) :
    ({ t with stage, permit, slot, transportFinished := finished } : Ticket).Sound :=
  ⟨h.active, hfinished, fun hnot => (by cases hadmitted.symm.trans hnot), hpermit, hslot, h.shared,
    fun hnot => absurd hnot hpending⟩

theorem Sound.withLease (h : t.Sound) (hstage : t.stage ≠ .pending) {lease : LeaseStage}
    {active : Bool} (hactive : active = lease.marks) :
    ({ t with lease, middlewareActive := active } : Ticket).Sound :=
  { h with active := hactive, pending := fun hp => absurd hp hstage }

theorem not_gone (hstage : t'.stage ≠ .retired) : t'.Gone → t.Gone :=
  fun hgone => absurd hgone.1 hstage

theorem not_gone_leased (habsent : t'.lease ≠ .absent) (hreleased : t'.lease ≠ .released) :
    t'.Gone → t.Gone :=
  fun hgone => (hgone.2.elim habsent hreleased).elim

end Sound

theorem requestCancel_eq (t : Ticket) : ∃ cancelled, t.requestCancel = { t with cancelled } := by
  unfold requestCancel
  split
  · exact ⟨t.cancelled, rfl⟩
  · exact ⟨true, rfl⟩

theorem permits_congr {t t' : Ticket} (h : t'.handles = t.handles) : t'.permits = t.permits := by
  rw [permits, permits, h]

theorem permits_of_permit (h : t.permit) : t.permits = 1 := by
  have hpos : 0 < t.handles := by
    simp only [handles, h, Bool.toNat_true]
    omega
  rw [permits, if_pos hpos]

end Ticket

namespace HttpClientInner

open RegistryState

@[simp] theorem lane_setLane (s : HttpClientInner) (b b' : Bool) (lane : Lane) :
    (s.setLane b lane).lane b' = if b' = b then lane else s.lane b' := by
  cases b <;> cases b' <;> rfl

section

variable (s : HttpClientInner) (b : Bool) (lane : Lane)

@[simp] theorem setLane_registry :
    (s.setLane b lane).registry = s.registry := by cases b <;> rfl

@[simp] theorem setLane_tickets :
    (s.setLane b lane).tickets = s.tickets := by cases b <;> rfl

@[simp] theorem setLane_shutdownSent :
    (s.setLane b lane).shutdownSent = s.shutdownSent := by cases b <;> rfl

@[simp] theorem setLane_drains :
    (s.setLane b lane).drains = s.drains := by cases b <;> rfl

@[simp] theorem setLane_inFlight :
    (s.setLane b lane).inFlight = s.inFlight := by cases b <;> rfl

end

/-- What a ticket's step makes of the registry. -/
inductive RegistryEffect (s : HttpClientInner) (r : RegistryState) (control : ControlId)
    (t t' : Ticket) : Prop
  | kept (hregistry : r = s.registry) (hgone : t'.Gone → t.Gone)
  | activated (memory : Bool) (hopen : s.shutdownSent = false)
      (hregistry : r = (s.registry.activate t.id control memory).2) (hgone : ¬t'.Gone)
  | finished (hregistry : r = s.registry.finish t.id control)

/-- `t` becomes `t'`; semaphore and lanes have what it gave back or took. -/
structure TicketEffect (s s' : HttpClientInner) (control : ControlId) (t t' : Ticket) : Prop where
  registry : RegistryEffect s s'.registry control t t'
  sound : t'.Sound
  tickets : s'.tickets = s.tickets.set control t' := by rfl
  id : t'.id = t.id := by rfl
  shutdownSent : s'.shutdownSent = s.shutdownSent := by rfl
  drains : s'.drains = s.drains := by rfl
  inFlight : s'.inFlight + t'.permits = s.inFlight + t.permits := by rfl
  slots : ∀ b, (s'.lane b).free + t'.slots b = (s.lane b).free + t.slots b := by intro b; rfl

/-- A step to `s'` changes nothing, or has an effect on the ticket. -/
def Affects (s : HttpClientInner) (control : ControlId) (t : Ticket) (s' : HttpClientInner) :
    Prop :=
  s' = s ∨ ∃ t', TicketEffect s s' control t t'

variable {s : HttpClientInner} {control : ControlId}

section

variable {t t' : Ticket}

theorem affects_set {r : RegistryState} (hregistry : RegistryEffect s r control t t')
    (hsound : t'.Sound) (hpermits : t'.permits = t.permits := by rfl)
    (hid : t'.id = t.id := by rfl) (hslots : ∀ b, t'.slots b = t.slots b := by intro b; rfl) :
    Affects s control t (({ s with registry := r } : HttpClientInner).setTicket control t') := by
  refine .inr ⟨t', { registry := hregistry, sound := hsound, id := hid, inFlight := ?_,
                     slots := fun b => ?_ }⟩
  · rw [hpermits]
    rfl
  · rw [hslots]
    rfl

theorem affects_releaseHandle (hle : t'.handles ≤ t.handles) (hgone : t'.Gone → t.Gone)
    (hsound : t'.Sound) (hid : t'.id = t.id := by rfl)
    (hslots : ∀ b, t'.slots b = t.slots b := by intro b; rfl) :
    Affects s control t (s.releaseHandle control t t') := by
  refine .inr ⟨t', { registry := .kept rfl hgone, sound := hsound, id := hid, inFlight := ?_,
                     slots := fun b => ?_ }⟩
  · simp only [releaseHandle, Ticket.permits]
    split <;> split <;> split <;> omega
  · rw [hslots]
    rfl

theorem affects_setLane {lane : Lane} (hgone : t'.Gone → t.Gone) (hsound : t'.Sound)
    (hfree : lane.free + t'.slots t.streaming = (s.lane t.streaming).free + t.slots t.streaming)
    (hstreaming : t'.streaming = t.streaming := by rfl)
    (hpermits : t'.permits = t.permits := by rfl) (hid : t'.id = t.id := by rfl) :
    Affects s control t ((s.setLane t.streaming lane).setTicket control t') := by
  refine .inr ⟨t', .kept (by simp [setTicket]) hgone, hsound, by simp [setTicket], hid,
    by simp [setTicket], by simp [setTicket], by simp [setTicket, hpermits], fun b => ?_⟩
  show ((s.setLane _ _).lane b).free + _ = _
  rw [lane_setLane]
  by_cases hb : b = t.streaming
  · rw [if_pos hb, hb, hfree]
  · have hb' : (t.streaming == b) = false := by simpa using fun h => hb h.symm
    simp [hb, Ticket.slots, hstreaming, hb']

theorem affects_releaseSlot (hslot : t'.slot = false) (hgone : t'.Gone → t.Gone)
    (hsound : t'.Sound) (hstreaming : t'.streaming = t.streaming := by rfl)
    (hpermits : t'.permits = t.permits := by rfl) (hid : t'.id = t.id := by rfl) :
    Affects s control t ((s.releaseSlot t).setTicket control t') := by
  cases hheld : t.slot with
  | false =>
    have heq : s.releaseSlot t = s := by simp [releaseSlot, hheld]
    rw [heq]
    refine affects_set (.kept rfl hgone) hsound hpermits hid fun b => ?_
    simp [Ticket.slots, hslot, hheld]
  | true =>
    have heq : s.releaseSlot t = s.setLane t.streaming
        { s.lane t.streaming with free := (s.lane t.streaming).free + 1 } := by
      simp [releaseSlot, hheld]
    rw [heq]
    refine affects_setLane hgone hsound ?_ hstreaming hpermits hid
    simp [Ticket.slots, hslot, hheld]

theorem affects_dropSlot (h : t.Sound) (hstored : t.stage.stored = false) :
    Affects s control t (s.setTicket control { t with stage := .dropSlot }) :=
  affects_set (.kept rfl (Ticket.not_gone nofun))
    (h.leaves (h.finished.trans hstored) rfl (fun _ => rfl) (fun _ => rfl) nofun)

end

theorem proceed_affects (h : t.Sound) : Affects s control t (s.proceed control t) := by
  have hfinished := h.finished
  have hpermit := h.no_permit
  have hslot := h.no_slot
  cases hstage : t.stage with
  | pending | accepted | published | retired => exact .inl (by simp only [proceed, hstage])
  | dropSlot =>
    simp only [proceed, hstage] at hfinished ⊢
    exact affects_releaseSlot rfl (Ticket.not_gone nofun)
      (h.leaves hfinished rfl (fun _ => rfl) nofun nofun)
  | dropPermit =>
    simp only [proceed, hstage] at hfinished hslot ⊢
    refine affects_releaseHandle ?_ (Ticket.not_gone nofun)
      (h.leaves hfinished rfl nofun (by simp [hslot rfl]) nofun)
    simp only [Ticket.handles, Bool.toNat_false]
    omega
  | storeFinished =>
    simp only [proceed, hstage] at hpermit hslot ⊢
    exact affects_set (.kept rfl (Ticket.not_gone nofun))
      (h.leaves rfl rfl (by simp [hpermit rfl]) (by simp [hslot rfl]) nofun)
  | loadActive =>
    simp only [proceed, hstage] at hfinished hpermit hslot ⊢
    have hsound : ∀ {stage : TicketStage}, stage = .retired ∨ stage = .lockRegistry →
        ({ t with stage } : Ticket).Sound := by
      rintro _ (rfl | rfl) <;>
        exact h.leaves hfinished rfl (by simp [hpermit rfl]) (by simp [hslot rfl]) nofun
    split
    · -- The lease is still there, so the ticket is not gone.
      rename_i hmarks
      have hactive : t.lease.marks := h.active.symm.trans hmarks
      refine affects_set (.kept rfl (Ticket.not_gone_leased ?_ ?_)) (hsound (.inl rfl))
      all_goals
        intro hlease
        cases hactive.symm.trans (congrArg LeaseStage.marks hlease)
    · exact affects_set (.kept rfl (Ticket.not_gone nofun)) (hsound (.inr rfl))
  | lockRegistry =>
    simp only [proceed, hstage] at hfinished hpermit hslot ⊢
    exact affects_set (.finished rfl)
      (h.leaves hfinished rfl (by simp [hpermit rfl]) (by simp [hslot rfl]) nofun)

theorem leaseProceed_affects (h : t.Sound) : Affects s control t (s.leaseProceed control t) := by
  have hstage : t.lease ≠ .absent → t.stage ≠ .pending :=
    fun hlease hpending => hlease (h.pending hpending).1
  have hactive := h.active
  have hpermits : ∀ {lease : LeaseStage} {active : Bool},
      lease.holdsPermit = t.lease.holdsPermit →
      ({ t with lease, middlewareActive := active } : Ticket).permits = t.permits :=
    fun hlease => Ticket.permits_congr (by simp only [Ticket.handles, hlease])
  cases hlease : t.lease with
  | absent | active | released => exact .inl (by simp only [leaseProceed, hlease])
  | dropPermit =>
    simp only [leaseProceed, hlease] at hstage hactive ⊢
    refine affects_releaseHandle ?_ (Ticket.not_gone_leased nofun nofun)
      (h.withLease (hstage nofun) hactive)
    simp only [Ticket.handles, LeaseStage.holdsPermit, Bool.toNat_false]
    omega
  | clearActive =>
    simp only [leaseProceed, hlease] at hstage hpermits ⊢
    exact affects_set (.kept rfl (Ticket.not_gone_leased nofun nofun))
      (h.withLease (hstage nofun) rfl) (hpermits rfl)
  | loadFinished =>
    simp only [leaseProceed, hlease] at hstage hactive hpermits ⊢
    split
    · exact affects_set (.kept rfl (Ticket.not_gone_leased nofun nofun))
        (h.withLease (hstage nofun) hactive) (hpermits rfl)
    -- `finish` comes after this load, so the ticket is not gone.
    rename_i hfinished
    refine affects_set (.kept rfl (Ticket.not_gone fun hretired => hfinished ?_))
      (h.withLease (hstage nofun) hactive) (hpermits rfl)
    exact h.finished.trans (congrArg TicketStage.stored hretired)
  | lockRegistry =>
    simp only [leaseProceed, hlease] at hstage hactive hpermits ⊢
    exact affects_set (.finished rfl) (h.withLease (hstage nofun) hactive) (hpermits rfl)

theorem acceptAdmission_cases (s : HttpClientInner) (control : ControlId) (t : Ticket) (now : Nat)
    (memory : Bool) :
    (∃ error, s.acceptAdmission control t now memory = (.error error, s)) ∨
      (s.shutdownSent = false ∧ s.acceptAdmission control t now memory =
        (.ok (), { s with registry := (s.registry.activate t.id control memory).2 })) := by
  unfold acceptAdmission
  split
  · exact .inl ⟨_, rfl⟩
  split
  · exact .inl ⟨_, rfl⟩
  rename_i hopen
  have hopen' : s.shutdownSent = false := by
    simp only [Bool.or_eq_true, not_or, Bool.not_eq_true] at hopen
    exact hopen.1
  rcases s.registry.activate_cases t.id control memory with ⟨result, heq⟩ | ⟨-, heq⟩
  · rw [heq]
    cases result with
    | error error => exact .inl ⟨error, rfl⟩
    | ok _ => exact .inr ⟨hopen', rfl⟩
  · rw [heq]
    exact .inr ⟨hopen', rfl⟩

theorem ticketStep_affects (h : t.Sound) (a : ClientAction) (ha : a.ticket = some control) :
    Affects s control t (s.ticketStep control t a) := by
  cases a with
  | acquirePermit c =>
    refine Machine.guarded (.inl rfl) fun ⟨hstage, hpermit, hfree, _⟩ => ?_
    obtain ⟨hlease, hshared, -⟩ := h.pending hstage
    refine .inr ⟨{ t with permit := true }, {
      registry := .kept rfl id
      sound := { h with admitted := fun _ => rfl, permit := fun _ => ?_ }
      inFlight := ?_ }⟩
    · show t.stage.mayHoldPermit
      rw [hstage]
      rfl
    · have hnone : t.permits = 0 := by
        simp [Ticket.permits, Ticket.handles, hpermit, hlease, hshared, LeaseStage.holdsPermit]
      rw [hnone, Ticket.permits_of_permit rfl]
      show s.inFlight - 1 + 1 = s.inFlight + 0
      omega
  | reserveSlot c =>
    refine Machine.guarded (.inl rfl) fun ⟨hstage, hpermit, hslot, hfree, _⟩ => ?_
    refine affects_setLane id { h with slot := fun _ => ?_ } ?_
    · show t.stage.mayHoldSlot
      rw [hstage]
      rfl
    · simp only [Ticket.slots, hslot, beq_self_eq_true, Bool.and_self, Bool.toNat_true,
        Bool.false_and, Bool.toNat_false]
      omega
  | accept c now memory =>
    cases ha
    refine Machine.guarded (.inl rfl) fun ⟨hstage, hpermit, hslot⟩ => ?_
    have hstored : t.stage.stored = false := by rw [hstage]; rfl
    rcases acceptAdmission_cases s control t now memory with ⟨error, heq⟩ | ⟨hopen, heq⟩
    · rw [heq]
      exact affects_dropSlot h hstored
    · rw [heq]
      refine affects_set (.activated memory hopen rfl fun hgone => by cases hgone.1) ?_
      exact ⟨h.active, h.finished.trans hstored, fun _ => hpermit, fun _ => rfl, fun _ => rfl,
        h.shared, nofun⟩
  | proceed c => exact proceed_affects h
  | leaseProceed c => exact leaseProceed_affects h
  | rollback c =>
    refine Machine.guarded (.inl rfl) fun hstage => affects_dropSlot h ?_
    rcases hstage with hstage | hstage <;> rw [hstage] <;> rfl
  | lease c =>
    refine Machine.guarded (.inl rfl) fun ⟨hstage, hlease⟩ => ?_
    have hadmitted : t.permit := by
      refine h.admitted ?_
      rcases hstage with hstage | hstage <;> rw [hstage] <;> rfl
    refine affects_set (.kept rfl (Ticket.not_gone_leased nofun nofun)) (h.withLease ?_ rfl) ?_
    · rintro hpending
      rw [hpending] at hstage
      rcases hstage with hnot | hnot <;> cases hnot
    · rw [Ticket.permits_of_permit hadmitted]
      exact Ticket.permits_of_permit hadmitted
  | publish c =>
    refine Machine.guarded (.inl rfl) fun hstage => ?_
    refine affects_set (.kept rfl (Ticket.not_gone nofun)) ?_
    refine ⟨h.active, ?_, fun _ => h.admitted (by rw [hstage]; rfl), fun _ => rfl, fun _ => rfl,
      fun _ => rfl, nofun⟩
    rw [h.finished, hstage]
    rfl
  | receive c =>
    refine Machine.guarded (.inl rfl) fun _ => affects_releaseSlot rfl id ?_
    exact { h with slot := nofun }
  | share c =>
    refine Machine.guarded (.inl rfl) fun ⟨hcommitted, hheld⟩ => affects_set (.kept rfl id) ?_ ?_
    · refine { h with shared := fun _ => hcommitted, pending := fun hpending => ?_ }
      rw [(h.pending hpending).2.2] at hcommitted
      cases hcommitted
    · have hmore : 0 < ({ t with shared := t.shared + 1 } : Ticket).handles := by
        simp only [Ticket.handles]
        omega
      rw [Ticket.permits, Ticket.permits, if_pos hmore, if_pos hheld]
  | unshare c =>
    refine Machine.guarded (.inl rfl) fun hshared => affects_releaseHandle ?_ id ?_
    · simp only [Ticket.handles]
      omega
    · refine { h with shared := fun _ => h.shared hshared, pending := fun hpending => ?_ }
      rw [(h.pending hpending).2.1] at hshared
      cases hshared
  | retire c =>
    exact Machine.guarded (.inl rfl) fun hstage => affects_dropSlot h (by rw [hstage]; rfl)
  | release c =>
    refine Machine.guarded (.inl rfl) fun hlease => ?_
    have hactive : t.middlewareActive := by rw [h.active, hlease]; rfl
    refine affects_set (.kept rfl (Ticket.not_gone_leased nofun nofun))
      (h.withLease (fun hpending => ?_) hactive) ?_
    · rw [(h.pending hpending).1] at hlease
      cases hlease
    · exact Ticket.permits_congr (by simp [Ticket.handles, hlease, LeaseStage.holdsPermit])
  | complete c => exact affects_set (.kept rfl id) { h with }
  | signal c =>
    obtain ⟨cancelled, hcancel⟩ := t.requestCancel_eq
    simp only [ticketStep, hcancel]
    exact .inr ⟨{ t with cancelled }, { registry := .kept rfl id, sound := { h with } }⟩
  | begin | cancel | cancelAll | shutdown | closeInFlight | closeLane | drain => cases ha

end HttpClientInner

end OpenNet.Http
