import OpenNet.Foundation.Pool
import OpenNet.Http.TicketSteps

/-!
# What the registry keeps across every interleaving

Every registration belongs to a ticket for which something is left to be done, and a ticket's own
steps change nothing but what the ticket holds.
-/

namespace OpenNet.Http

/-- The steps by which a request and its lease give back what they hold. -/
def ClientAction.GivesBack (control : ControlId) : ClientAction → Prop
  | .rollback c | .proceed c | .release c | .leaseProceed c => c = control
  | _ => False

/-- The steps left of the program that gives everything back. -/
@[simp] def TicketStage.left : TicketStage → Nat
  | .pending | .accepted | .published => 6
  | .dropSlot => 5
  | .dropPermit => 4
  | .storeFinished => 3
  | .loadActive => 2
  | .lockRegistry => 1
  | .retired => 0

/-- The steps that are left of the release of a lease. -/
@[simp] def LeaseStage.left : LeaseStage → Nat
  | .active => 5
  | .dropPermit => 4
  | .clearActive => 3
  | .loadFinished => 2
  | .lockRegistry => 1
  | .absent | .released => 0

/-- The steps that are left of a request and of its lease. -/
@[simp] def Ticket.left (t : Ticket) : Nat := t.stage.left + t.lease.left

namespace HttpClientInner

open RegistryState

/-! ## The invariant -/

def registrations (s : HttpClientInner) : List Registration :=
  s.registry.entries.values ++ s.registry.reserved.values

/-- A registration belongs to an unfinished ticket of its id; a drain completes with none. -/
structure Sound (s : HttpClientInner) : Prop where
  tickets : ∀ (control : ControlId) (t : Ticket), s.tickets[control]? = some t → t.Sound
  disjoint : ∀ e ∈ s.registry.entries.values, ∀ e' ∈ s.registry.reserved.values, e.id ≠ e'.id
  owned : ∀ e ∈ s.registrations, ∃ t, s.tickets[e.control]? = some t ∧ t.id = e.id ∧ ¬t.Gone
  drained : ∀ live ∈ s.drains, live = []

variable {e : Registration}

namespace Sound

variable {s : HttpClientInner}

theorem eq_of_id (h : Sound s) {e e' : Registration} (he : e ∈ s.registrations)
    (he' : e' ∈ s.registrations) (hid : e.id = e'.id) : e = e' := by
  rcases List.mem_append.mp he with he | he <;> rcases List.mem_append.mp he' with he' | he'
  · exact s.registry.entries.eq_of_key he he' hid
  · exact absurd hid (h.disjoint e he e' he')
  · exact absurd hid.symm (h.disjoint e' he' e he)
  · exact s.registry.reserved.eq_of_key he he' hid

theorem id_of_control (h : Sound s) (he : e ∈ s.registrations) {t : Ticket}
    (hget : s.tickets[e.control]? = some t) : e.id = t.id := by
  obtain ⟨t', hget', hid, -⟩ := h.owned e he
  obtain rfl := Option.mem_unique hget hget'
  exact hid.symm

end Sound

def others (control : ControlId) (l : List Registration) : List Registration :=
  l.filter (·.control ≠ control)

variable {control : ControlId} {t : Ticket} {id : HttpRequestId} {a : ClientAction}

theorem others_eq_self {l : List Registration} (h : ∀ e ∈ l, e.control ≠ control) :
    others control l = l := by
  refine List.filter_eq_self.mpr ?_
  intro e he
  simpa using h e he

theorem others_others (l : List Registration) :
    others control (others control l) = others control l :=
  others_eq_self fun e he => by simpa using (List.mem_filter.mp he).2

variable {s : HttpClientInner}

section

variable (h : Sound s) (hget : s.tickets[control]? = some t)
include h hget

theorem erase_eq_others (hmine : (⟨t.id, control⟩ : Registration) ∈ s.registrations)
    {m : KeyedMap Registration.id} (hm : ∀ e ∈ m.values, e ∈ s.registrations) :
    (m.erase t.id).values = others control m.values := by
  refine List.filter_congr fun e he => ?_
  have hid : e.id = t.id ↔ e.control = control := by
    refine ⟨fun hid => by rw [h.eq_of_id (hm e he) hmine hid], fun hc => ?_⟩
    exact h.id_of_control (hm e he) (hc ▸ hget)
  simp [hid]

theorem finish_values :
    (s.registry.finish t.id control).entries.values = others control s.registry.entries.values ∧
      (s.registry.finish t.id control).reserved.values =
        others control s.registry.reserved.values := by
  have hmine : ∀ {e}, e ∈ s.registrations → e.control = control → e = ⟨t.id, control⟩ := by
    rintro ⟨id, control⟩ he rfl
    obtain rfl : id = t.id := h.id_of_control he hget
    rfl
  have hleft : ∀ e ∈ s.registry.entries.values, e ∈ s.registrations :=
    fun _ => List.mem_append_left _
  have hright : ∀ e ∈ s.registry.reserved.values, e ∈ s.registrations :=
    fun _ => List.mem_append_right _
  rcases s.registry.finish_cases t.id control with ⟨hin, heq⟩ | ⟨hin, heq⟩ | ⟨hno, hno', heq⟩
  · rw [heq]
    refine ⟨erase_eq_others h hget (hleft _ hin) hleft, (others_eq_self fun e he hc => ?_).symm⟩
    exact h.disjoint _ hin e he (by rw [hmine (hright e he) hc])
  · rw [heq]
    refine ⟨(others_eq_self fun e he hc => ?_).symm, erase_eq_others h hget (hright _ hin) hright⟩
    exact h.disjoint e he _ hin (by rw [hmine (hleft e he) hc])
  · rw [heq]
    exact ⟨(others_eq_self fun e he hc => hno (hmine (hleft e he) hc ▸ he)).symm,
      (others_eq_self fun e he hc => hno' (hmine (hright e he) hc ▸ he)).symm⟩

end

/-- The registrations of other signals stay, and no new ones come. -/
structure Rearranged (s : HttpClientInner) (control : ControlId) (r : RegistryState) : Prop where
  entries : others control r.entries.values = others control s.registry.entries.values
  reserved : others control r.reserved.values = others control s.registry.reserved.values
  kept : ∀ e ∈ r.entries.values ++ r.reserved.values, e ∈ s.registrations
  disjoint : ∀ e ∈ r.entries.values, ∀ e' ∈ r.reserved.values, e.id ≠ e'.id

theorem RegistryEffect.rearranged {r : RegistryState} {t' : Ticket}
    (heffect : RegistryEffect s r control t t') (h : Sound s)
    (hget : s.tickets[control]? = some t) : Rearranged s control r := by
  have hsame : Rearranged s control s.registry := ⟨rfl, rfl, fun _ => id, h.disjoint⟩
  have hleft : ∀ e ∈ others control s.registry.entries.values, e ∈ s.registry.entries.values :=
    fun _ he => (List.mem_filter.mp he).1
  have hright : ∀ e ∈ others control s.registry.reserved.values, e ∈ s.registry.reserved.values :=
    fun _ he => (List.mem_filter.mp he).1
  cases heffect with
  | kept hregistry =>
    rw [hregistry]
    exact hsame
  | activated memory _ hregistry =>
    rw [hregistry]
    rcases s.registry.activate_cases t.id control memory with ⟨result, heq⟩ | ⟨hmine, heq⟩
    · rw [heq]
      exact hsame
    rw [heq]
    have hentries : (s.registry.entries.insert ⟨t.id, control⟩).values =
        ⟨t.id, control⟩ :: others control s.registry.entries.values :=
      congrArg (List.cons _) (erase_eq_others h hget (List.mem_append_right _ hmine)
        fun _ => List.mem_append_left _)
    have hreserved : (s.registry.reserved.erase t.id).values =
        others control s.registry.reserved.values :=
      erase_eq_others h hget (List.mem_append_right _ hmine) fun _ => List.mem_append_right _
    refine ⟨?_, ?_, ?_, ?_⟩ <;> simp only [hentries, hreserved]
    · rw [← others_others s.registry.entries.values]
      simp [others]
    · exact others_others _
    · intro e he
      rcases List.mem_append.mp he with he | he
      · rcases List.mem_cons.mp he with rfl | he
        · exact List.mem_append_right _ hmine
        · exact List.mem_append_left _ (hleft e he)
      · exact List.mem_append_right _ (hright e he)
    · intro e he e' he'
      rcases List.mem_cons.mp he with rfl | he
      · intro hid
        have heq := s.registry.reserved.eq_of_key hmine (hright e' he') hid
        simp [others, ← heq] at he'
      · exact h.disjoint e (hleft e he) e' (hright e' he')
  | finished hregistry =>
    obtain ⟨hentries, hreserved⟩ := finish_values h hget
    rw [hregistry]
    refine ⟨?_, ?_, ?_, ?_⟩ <;> simp only [hentries, hreserved]
    · exact others_others _
    · exact others_others _
    · intro e he
      exact List.mem_append.mpr ((List.mem_append.mp he).imp (hleft e) (hright e))
    · exact fun e he e' he' => h.disjoint e (hleft e he) e' (hright e' he')

theorem TicketEffect.keeps {s s' : HttpClientInner} {t' : Ticket}
    (heffect : TicketEffect s s' control t t') (h : Sound s) (hget : s.tickets[control]? = some t) :
    Sound s' := by
  have hregistry := heffect.registry.rearranged h hget
  -- This ticket is gone only when nothing is registered for it.
  have hgone : ∀ e ∈ s'.registrations, e.control = control → ¬t'.Gone := by
    intro e he hc hnow
    cases heffect.registry with
    | kept _ hgone =>
      obtain ⟨u, hu, -, hnot⟩ := h.owned e (hregistry.kept e he)
      rw [hc] at hu
      obtain rfl := Option.mem_unique hget hu
      exact hnot (hgone hnow)
    | activated _ _ _ hgone => exact hgone hnow
    | finished heq =>
      rw [registrations, heq, (finish_values h hget).1, (finish_values h hget).2, others, others,
        ← List.filter_append] at he
      simp [hc] at he
  refine ⟨fun c u hu => ?_, hregistry.disjoint, fun e he => ?_, ?_⟩
  · rw [heffect.tickets] at hu
    rcases Pool.get_set hu with ⟨-, rfl⟩ | ⟨-, hold⟩
    · exact heffect.sound
    · exact h.tickets c u hold
  · obtain ⟨u, hu, hid, hnot⟩ := h.owned e (hregistry.kept e he)
    rw [heffect.tickets]
    by_cases hc : e.control = control
    · rw [hc] at hu ⊢
      obtain rfl := Option.mem_unique hget hu
      exact ⟨t', Pool.set_self hget t', heffect.id.trans hid, hgone e he hc⟩
    · exact ⟨u, by rw [List.getElem?_set_ne (Ne.symm hc), hu], hid, hnot⟩
  · rw [heffect.drains]
    exact h.drained

/-! ## Every step -/

/-- A new admission reserves an id that is not live for a new ticket, or only the counter of the
ids moves on. -/
theorem beginAdmission_cases (s : HttpClientInner) (requested : Option HttpRequestId)
    (streaming : Bool) (start : Nat) (total admission : Option Nat) (memory : Bool) :
    (∃ error nextId, s.beginAdmission requested streaming start total admission memory =
      (.error error, { s with registry := { s.registry with nextId } })) ∨
    (∃ id budget nextId, id ∉ s.registry.live ∧
      s.beginAdmission requested streaming start total admission memory =
        (.ok id,
         { s with
           registry := { s.registry with
             nextId, reserved := s.registry.reserved.insert ⟨id, s.tickets.length⟩ },
           tickets := s.tickets ++ [{ id, streaming, budget }] })) := by
  unfold beginAdmission
  split
  · exact .inl ⟨_, s.registry.nextId, rfl⟩
  rename_i budget _
  split
  · exact .inl ⟨_, s.registry.nextId, rfl⟩
  split
  · rename_i error registry hreserve
    obtain ⟨nextId, rfl⟩ := reserve_error hreserve
    exact .inl ⟨error, nextId, rfl⟩
  · rename_i id registry hreserve
    obtain ⟨hfresh, nextId, rfl⟩ := reserve_ok hreserve
    exact .inr ⟨id, budget, nextId, hfresh, rfl⟩

theorem sound_new_ticket (id : HttpRequestId) (streaming : Bool) (budget : TimeoutBudget) :
    ({ id, streaming, budget } : Ticket).Sound :=
  ⟨rfl, rfl, nofun, nofun,
    nofun, nofun, fun _ => ⟨rfl, rfl, rfl⟩⟩

theorem begin_keeps (h : Sound s) (requested : Option HttpRequestId)
    (streaming : Bool) (start : Nat) (total admission : Option Nat) (memory : Bool) :
    Sound (s.beginAdmission requested streaming start total admission memory).2 := by
  rcases s.beginAdmission_cases requested streaming start total admission memory with
    ⟨error, nextId, heq⟩ | ⟨id, budget, nextId, hfresh, heq⟩
  · rw [heq]
    exact { h with }
  rw [heq]
  refine ⟨?_, ?_, ?_, h.drained⟩
  · intro c t hget
    obtain ⟨-, rfl⟩ | hget := Pool.get_append hget
    · exact sound_new_ticket id streaming budget
    · exact h.tickets c t hget
  · intro e he e' he'
    rcases (KeyedMap.mem_insert _).mp he' with rfl | ⟨he', -⟩
    · intro hid
      refine hfresh ?_
      rw [← show e.id = id from hid]
      exact List.mem_map_of_mem (List.mem_append_left _ he)
    · exact h.disjoint e he e' he'
  · intro e he
    rcases List.mem_append.mp he with he | he
    · obtain ⟨t, hget, hid, hgone⟩ := h.owned e (List.mem_append_left _ he)
      exact ⟨t, Pool.get_append_left hget _, hid, hgone⟩
    rcases (KeyedMap.mem_insert _).mp he with rfl | ⟨he, -⟩
    · refine ⟨{ id, streaming, budget }, List.getElem?_concat_length .., rfl, ?_⟩
      rintro ⟨hnot, -⟩
      cases hnot
    · obtain ⟨t, hget, hid, hgone⟩ := h.owned e (List.mem_append_right _ he)
      exact ⟨t, Pool.get_append_left hget _, hid, hgone⟩

theorem step_ticket (ha : a.ticket = some control) :
    s.step a = match s.tickets[control]? with
      | none => s
      | some t => s.ticketStep control t a := by
  cases a <;> cases ha <;> rfl

/-- A step that is about a ticket changes nothing or has an effect on that ticket. -/
theorem step_ticket_cases (h : Sound s) (ha : a.ticket = some control) :
    s.step a = s ∨ ∃ t t', s.tickets[control]? = some t ∧
      TicketEffect s (s.step a) control t t' := by
  rw [step_ticket ha]
  cases hget : s.tickets[control]? with
  | none => exact .inl rfl
  | some t =>
    rcases ticketStep_affects (s := s) (h.tickets control t hget) a ha with heq | ⟨t', heffect⟩
    · exact .inl heq
    · exact .inr ⟨t, t', rfl, heffect⟩

theorem step_sound (s : HttpClientInner) (a : ClientAction) (h : Sound s) : Sound (s.step a) := by
  cases ha : a.ticket with
  | some control =>
    rcases step_ticket_cases h ha with heq | ⟨t, t', hget, heffect⟩
    · rw [heq]
      exact h
    · exact heffect.keeps h hget
  | none =>
    cases a with
    | begin requested streaming start total admission memory =>
      exact begin_keeps h requested streaming start total admission memory
    | cancel | cancelAll => exact { h with }
    | shutdown =>
      simp only [step]
      split
      · exact h
      · exact { h with }
    | closeInFlight =>
      simp only [step]
      split
      · exact { h with }
      · exact h
    | closeLane streaming =>
      simp only [step]
      refine ⟨?_, ?_, ?_, ?_⟩
      · rw [setLane_tickets]
        exact h.tickets
      · rw [setLane_registry]
        exact h.disjoint
      · rw [registrations, setLane_registry, setLane_tickets]
        exact h.owned
      · rw [setLane_drains]
        exact h.drained
    | drain =>
      simp only [step]
      split
      · rename_i hempty
        refine { h with drained := ?_ }
        intro live hmem
        rcases List.mem_append.mp hmem with hmem | hmem
        · exact h.drained live hmem
        · rw [List.mem_singleton.mp hmem]
          simp only [RegistryState.isEmpty, Bool.and_eq_true, List.isEmpty_iff] at hempty
          simp [RegistryState.live, hempty.1, hempty.2]
      · exact h
    | _ => cases ha

/-! ## What a failed admission leaves behind -/

/-- What the registry has, and what semaphore and lanes have left. -/
structure Contents where
  entries : List Registration
  reserved : List Registration
  inFlight : Nat
  requestSlots : Nat
  supervisorSlots : Nat
  deriving DecidableEq, Repr

def contents (s : HttpClientInner) : Contents where
  entries := s.registry.entries.values
  reserved := s.registry.reserved.values
  inFlight := s.inFlight
  requestSlots := (s.lane false).free
  supervisorSlots := (s.lane true).free

def heldPermits (s : HttpClientInner) (control : ControlId) : Nat :=
  s.tickets[control]?.elim 0 Ticket.permits

def heldSlots (s : HttpClientInner) (control : ControlId) (streaming : Bool) : Nat :=
  s.tickets[control]?.elim 0 (·.slots streaming)

/-- What there would be without the ticket of `control`. -/
def remainder (s : HttpClientInner) (control : ControlId) : Contents where
  entries := others control s.registry.entries.values
  reserved := others control s.registry.reserved.values
  inFlight := s.inFlight + s.heldPermits control
  requestSlots := (s.lane false).free + s.heldSlots control false
  supervisorSlots := (s.lane true).free + s.heldSlots control true

/-- The ticket that takes the step. -/
def actor (s : HttpClientInner) : ClientAction → Option ControlId
  | .begin _ _ _ _ _ _ => some s.tickets.length
  | a => a.ticket

theorem TicketEffect.remainder {s s' : HttpClientInner} {t' : Ticket}
    (heffect : TicketEffect s s' control t t') (h : Sound s) (hget : s.tickets[control]? = some t) :
    s'.remainder control = s.remainder control := by
  have hmine : s'.tickets[control]? = some t' := by
    rw [heffect.tickets]
    exact Pool.set_self hget t'
  have hpermits : s'.inFlight + s'.heldPermits control = s.inFlight + s.heldPermits control := by
    simp only [heldPermits, hmine, hget, Option.elim_some]
    exact heffect.inFlight
  have hslots : ∀ b, (s'.lane b).free + s'.heldSlots control b =
      (s.lane b).free + s.heldSlots control b := by
    intro b
    simp only [heldSlots, hmine, hget, Option.elim_some]
    exact heffect.slots b
  have hregistry := heffect.registry.rearranged h hget
  simp only [HttpClientInner.remainder, hregistry.entries, hregistry.reserved, hpermits, hslots]

theorem actor_of_givesBack (ha : a.GivesBack control) :
    a.ticket = some control ∧ s.actor a = some control := by
  cases a <;> first | exact ⟨congrArg some ha, congrArg some ha⟩ | cases ha

theorem begin_remainder (s : HttpClientInner) (requested : Option HttpRequestId)
    (streaming : Bool) (start : Nat) (total admission : Option Nat) (memory : Bool) :
    (s.beginAdmission requested streaming start total admission memory).2.remainder
        s.tickets.length = s.remainder s.tickets.length := by
  rcases s.beginAdmission_cases requested streaming start total admission memory with
    ⟨error, nextId, heq⟩ | ⟨id, budget, nextId, hfresh, heq⟩
  · rw [heq]
    rfl
  rw [heq]
  have hreserved : others s.tickets.length
      (s.registry.reserved.insert ⟨id, s.tickets.length⟩).values =
        others s.tickets.length s.registry.reserved.values := by
    have hnew : s.registry.reserved.contains id = false := by
      refine Bool.eq_false_iff.mpr fun hin => hfresh ?_
      rw [live, List.map_append]
      exact List.mem_append_right _ ((KeyedMap.contains_iff _ _).mp hin)
    rw [KeyedMap.insert_values _ hnew]
    simp [others]
  simp [remainder, heldPermits, heldSlots, hreserved, lane, Ticket.permits, Ticket.handles,
    Ticket.slots, LeaseStage.holdsPermit]

/-- A ticket's own steps change nothing but what the ticket holds. -/
theorem step_remainder (h : Sound s) (hactor : s.actor a = some control) :
    (s.step a).remainder control = s.remainder control := by
  cases ha : a.ticket with
  | some c =>
    have hc : c = control := by
      cases a <;> cases ha <;> cases hactor <;> rfl
    subst hc
    rcases step_ticket_cases h ha with heq | ⟨t, t', hget, heffect⟩
    · rw [heq]
    · exact heffect.remainder h hget
  | none =>
    cases a with
    | begin requested streaming start total admission memory =>
      cases hactor
      exact begin_remainder s requested streaming start total admission memory
    | _ => cases ha <;> cases hactor

theorem contents_eq_remainder
    (hnone : ∀ e ∈ s.registrations, e.control ≠ control) (hpermits : s.heldPermits control = 0)
    (hslots : ∀ b, s.heldSlots control b = 0) : s.contents = s.remainder control := by
  have hentries := others_eq_self fun e he => hnone e (List.mem_append_left _ he)
  have hreserved := others_eq_self fun e he => hnone e (List.mem_append_right _ he)
  simp [contents, remainder, hentries, hreserved, hpermits, hslots]

theorem failed_holds_nothing (h : t.Sound) (hfailed : t.Failed) :
    t.permits = 0 ∧ ∀ b, t.slots b = 0 := by
  obtain ⟨⟨hstage, hlease⟩, hcommitted⟩ := hfailed
  have hpermit : t.permit = false := h.no_permit (by rw [hstage]; rfl)
  have hslot : t.slot = false := h.no_slot (by rw [hstage]; rfl)
  have hshared : t.shared = 0 := by
    by_contra hnot
    rw [h.shared (Nat.pos_of_ne_zero hnot)] at hcommitted
    cases hcommitted
  have hholds : t.lease.holdsPermit = false := by
    rcases hlease with hlease | hlease <;> rw [hlease] <;> rfl
  refine ⟨?_, ?_⟩
  · simp [Ticket.permits, Ticket.handles, hpermit, hholds, hshared]
  · intro b
    simp [Ticket.slots, hslot]

/-- An own step brings an unpublished ticket closer to its end. -/
def Advances (s : HttpClientInner) (control : ControlId) (t : Ticket) : Prop :=
  ∃ (a : ClientAction) (t' : Ticket), a.GivesBack control ∧
    (s.step a).tickets[control]? = some t' ∧ t'.committed = false ∧ t'.stage ≠ .published ∧
    t'.left < t.left

theorem gives_back_next (hget : s.tickets[control]? = some t) (hcommitted : t.committed = false)
    (hpublished : t.stage ≠ .published) : t.Gone ∨ s.Advances control t := by
  have hnext (a : ClientAction) (t' : Ticket) (ha : a.GivesBack control)
      (htickets : (s.ticketStep control t a).tickets = s.tickets.set control t')
      (hcommitted : t'.committed = false) (hpublished : t'.stage ≠ .published)
      (hless : t'.left < t.left) : t.Gone ∨ s.Advances control t := by
    refine .inr ⟨a, t', ha, ?_, hcommitted, hpublished, hless⟩
    rw [step_ticket (actor_of_givesBack (s := s) ha).1, hget]
    exact htickets ▸ Pool.set_self hget t'
  have hslot : (s.releaseSlot t).tickets = s.tickets := by
    unfold releaseSlot
    split
    · exact setLane_tickets ..
    · rfl
  cases hstage : t.stage with
  | published => exact absurd hstage hpublished
  | pending | accepted =>
    refine hnext (.rollback control) { t with stage := .dropSlot } rfl ?_ hcommitted (by simp) ?_
    all_goals simp [ticketStep, hstage, setTicket]
  | dropSlot =>
    refine hnext (.proceed control) { t with stage := .dropPermit, slot := false } rfl ?_
      hcommitted (by simp) ?_
    all_goals simp [ticketStep, proceed, hstage, setTicket, hslot]
  | dropPermit =>
    refine hnext (.proceed control) { t with stage := .storeFinished, permit := false } rfl ?_
      hcommitted (by simp) ?_
    all_goals simp [ticketStep, proceed, hstage, releaseHandle, setTicket]
  | storeFinished =>
    refine hnext (.proceed control) { t with stage := .loadActive, transportFinished := true }
      rfl ?_ hcommitted (by simp) ?_
    all_goals simp [ticketStep, proceed, hstage, setTicket]
  | loadActive =>
    refine hnext (.proceed control)
      { t with stage := if t.middlewareActive then .retired else .lockRegistry } rfl ?_
      hcommitted ?_ ?_
    · simp [ticketStep, proceed, hstage, setTicket]
    all_goals cases t.middlewareActive <;> simp [hstage]
  | lockRegistry =>
    refine hnext (.proceed control) { t with stage := .retired } rfl ?_ hcommitted (by simp) ?_
    all_goals simp [ticketStep, proceed, hstage, setTicket]
  | retired =>
    cases hlease : t.lease with
    | absent => exact .inl ⟨hstage, .inl hlease⟩
    | released => exact .inl ⟨hstage, .inr hlease⟩
    | active =>
      refine hnext (.release control) { t with lease := .dropPermit } rfl ?_ hcommitted
        hpublished ?_
      all_goals simp [ticketStep, hlease, setTicket]
    | dropPermit =>
      refine hnext (.leaseProceed control) { t with lease := .clearActive } rfl ?_
        hcommitted hpublished ?_
      all_goals simp [ticketStep, leaseProceed, hlease, releaseHandle, setTicket]
    | clearActive =>
      refine hnext (.leaseProceed control)
        { t with lease := .loadFinished, middlewareActive := false } rfl ?_ hcommitted hpublished ?_
      all_goals simp [ticketStep, leaseProceed, hlease, setTicket]
    | loadFinished =>
      refine hnext (.leaseProceed control)
        { t with lease := if t.transportFinished then .lockRegistry else .released } rfl ?_
        hcommitted hpublished ?_
      · simp [ticketStep, leaseProceed, hlease, setTicket]
      · cases t.transportFinished <;> simp [hlease]
    | lockRegistry =>
      refine hnext (.leaseProceed control) { t with lease := .released } rfl ?_
        hcommitted hpublished ?_
      all_goals simp [ticketStep, leaseProceed, hlease, setTicket]

/-! ## Shutdown -/

theorem step_after_shutdown (s : HttpClientInner) (a : ClientAction) (h : Sound s)
    (hshutdown : s.shutdownSent) : (s.step a).shutdownSent ∧
      ∀ e ∈ (s.step a).registry.entries.values, e ∈ s.registry.entries.values := by
  cases ha : a.ticket with
  | some control =>
    rcases step_ticket_cases h ha with heq | ⟨t, t', hget, heffect⟩
    · rw [heq]
      exact ⟨hshutdown, fun _ he => he⟩
    refine ⟨heffect.shutdownSent.trans hshutdown, ?_⟩
    intro e he
    cases heffect.registry with
    | kept heq _ =>
      rw [heq] at he
      exact he
    | activated memory hopen heq _ =>
      rw [hshutdown] at hopen
      cases hopen
    | finished heq =>
      rw [heq, (finish_values h hget).1] at he
      exact (List.mem_filter.mp he).1
  | none =>
    cases a with
    | begin requested streaming start total admission memory =>
      rcases s.beginAdmission_cases requested streaming start total admission memory with
        ⟨error, nextId, heq⟩ | ⟨id, budget, nextId, -, heq⟩
      all_goals
        simp only [step, heq]
        exact ⟨hshutdown, fun _ he => he⟩
    | cancel | cancelAll => exact ⟨hshutdown, fun _ he => he⟩
    | shutdown | closeInFlight =>
      simp only [step, if_pos hshutdown]
      exact ⟨hshutdown, fun _ he => he⟩
    | closeLane streaming =>
      simp only [step, setLane_shutdownSent, setLane_registry]
      exact ⟨hshutdown, fun _ he => he⟩
    | drain =>
      simp only [step]
      split
      · exact ⟨hshutdown, fun _ he => he⟩
      · exact ⟨hshutdown, fun _ he => he⟩
    | _ => cases ha

theorem run_after_shutdown (h : Sound s) (hshutdown : s.shutdownSent) (acts : List ClientAction) :
    ∀ e ∈ (Machine.run step s acts).registry.entries.values, e ∈ s.registry.entries.values := by
  refine Machine.run_rel (I := fun s => Sound s ∧ s.shutdownSent)
    (R := fun s s' => ∀ e ∈ s'.registry.entries.values, e ∈ s.registry.entries.values)
    ?_ ?_ ?_ ?_ acts ⟨h, hshutdown⟩
  · intro s a hs
    exact ⟨step_sound s a hs.1, (step_after_shutdown s a hs.1 hs.2).1⟩
  · intro s e he
    exact he
  · intro s t u hst htu e he
    exact hst e (htu e he)
  · intro s a hs
    exact (step_after_shutdown s a hs.1 hs.2).2

/-! ## The protocol -/

/-- What holds of registry and admission in every reachable state. -/
structure AdmissionProtocol (s : HttpClientInner) : Prop where
  /-- Reserved ids and active entries are disjoint. -/
  disjoint : ∀ e ∈ s.registry.entries.values, ∀ e' ∈ s.registry.reserved.values, e.id ≠ e'.id
  /-- An id is live at most once. -/
  live_once : s.registry.live.Nodup
  /-- An allocated id is neither live nor reserved. -/
  allocated_fresh : ∀ (control : ControlId) (memory : Bool) (id : HttpRequestId)
    (r : RegistryState), s.registry.reserve none control memory = (.ok id, r) →
      id ∉ s.registry.live
  /-- The allocation loop passes over live ids only, so it ends after at most one round for each
  of them and a last one. -/
  allocation_ends : ∀ value : Nat, s.registry.nextId = some value →
    (∃ (id : Nat) (next : Option Nat),
      allocate s.registry.taken s.registry.nextId = (.ok id, next) ∧ value ≤ id ∧
        id ≤ value + s.registry.live.length) ∨
    ∃ error, allocate s.registry.taken s.registry.nextId = (.error error, none) ∧
      ∀ id : Nat, value ≤ id → id ≤ Checked.u64Max → id ∈ s.registry.live
  /-- `finish` with another signal removes nothing. -/
  finish_other : ∀ (id : HttpRequestId) (control : ControlId) (e : Registration),
    e.control ≠ control →
    (e ∈ s.registry.entries.values → e ∈ (s.registry.finish id control).entries.values) ∧
    (e ∈ s.registry.reserved.values → e ∈ (s.registry.finish id control).reserved.values)
  /-- After `request_shutdown` no request becomes active. -/
  shutdown_closes : ∀ acts : List ClientAction, s.shutdownSent →
    ∀ e ∈ (Machine.run step s acts).registry.entries.values, e ∈ s.registry.entries.values
  /-- The steps of an admission change nothing but what it holds itself. -/
  own_steps : ∀ (a : ClientAction) (control : ControlId), s.actor a = some control →
    (s.step a).remainder control = s.remainder control
  /-- An admission that is not published fails by its own steps once it is given up, and everything
  is then as without it. -/
  gives_back : ∀ (control : ControlId) (t : Ticket), s.tickets[control]? = some t →
    t.committed = false → t.stage ≠ .published →
    Machine.Reaches step (ClientAction.GivesBack control) (fun s' =>
      (∃ t', s'.tickets[control]? = some t' ∧ t'.Failed) ∧
        s'.contents = s.remainder control) s
  /-- Before it begins and after it has failed, an admission holds nothing. -/
  failed_restores : ∀ control : ControlId,
    (∀ t, s.tickets[control]? = some t → t.Failed) → s.contents = s.remainder control
  /-- A drain completes only when no entry or reservation remains. -/
  drained_empty : ∀ live ∈ s.drains, live = []

theorem Sound.live_nodup (h : Sound s) : s.registry.live.Nodup := by
  rw [live, List.map_append, List.nodup_append]
  refine ⟨s.registry.entries.nodup, s.registry.reserved.nodup, ?_⟩
  intro id hid id' hid'
  obtain ⟨e, he, rfl⟩ := List.mem_map.mp hid
  obtain ⟨e', he', rfl⟩ := List.mem_map.mp hid'
  exact h.disjoint e he e' he'

theorem Sound.failed_restores (h : Sound s)
    (hfailed : ∀ t, s.tickets[control]? = some t → t.Failed) :
    s.contents = s.remainder control := by
  have hnothing : s.heldPermits control = 0 ∧ ∀ b, s.heldSlots control b = 0 := by
    unfold heldPermits heldSlots
    cases hget : s.tickets[control]? with
    | none => exact ⟨rfl, fun _ => rfl⟩
    | some t => exact failed_holds_nothing (h.tickets control t hget) (hfailed t hget)
  refine contents_eq_remainder ?_ hnothing.1 hnothing.2
  rintro e he rfl
  obtain ⟨t, hget, -, hnot⟩ := h.owned e he
  exact hnot (hfailed t hget).1

/-- **A failed admission gives everything back by its own steps.** -/
theorem Sound.gives_back (h : Sound s) (hget : s.tickets[control]? = some t)
    (hcommitted : t.committed = false) (hpublished : t.stage ≠ .published) :
    Machine.Reaches step (ClientAction.GivesBack control) (fun s' =>
      (∃ t', s'.tickets[control]? = some t' ∧ t'.Failed) ∧
        s'.contents = s.remainder control) s := by
  refine Machine.reaches_of_rank (fun s' => s'.tickets[control]?.elim 0 Ticket.left)
    (I := fun s' => Sound s' ∧ s'.remainder control = s.remainder control ∧ ∃ t',
      s'.tickets[control]? = some t' ∧ t'.committed = false ∧ t'.stage ≠ .published)
    (fun s' hs' => ?_) ⟨h, rfl, t, hget, hcommitted, hpublished⟩
  obtain ⟨hsound, hremainder, t', hget', hcommitted', hpublished'⟩ := hs'
  rcases gives_back_next hget' hcommitted' hpublished' with
    hgone | ⟨a, u, ha, hu, hcommitted, hpublished, hless⟩
  · refine .inl ⟨⟨t', hget', hgone, hcommitted'⟩, ?_⟩
    rw [← hremainder]
    refine hsound.failed_restores fun v hv => ?_
    obtain rfl := Option.mem_unique hget' hv
    exact ⟨hgone, hcommitted'⟩
  · refine .inr ⟨a, ha, ⟨step_sound s' a hsound, ?_, u, hu, hcommitted, hpublished⟩, ?_⟩
    · exact (step_remainder hsound (actor_of_givesBack ha).2).trans hremainder
    · rw [hu, hget']
      exact hless

theorem sound_new (clockRange inFlight requests supervisors : Nat) :
    Sound (new clockRange inFlight requests supervisors) where
  tickets := by
    intro control t hget
    cases hget
  disjoint := by
    intro e he
    cases he
  owned := by
    intro e he
    cases he
  drained := by
    intro live hmem
    cases hmem

/-- Every interleaving of reservations, activations, completions, cancellations, shutdown,
admissions with rollback, and drains keeps the protocol. -/
theorem registry_admission_protocol (clockRange inFlight requests supervisors : Nat)
    (acts : List ClientAction) : AdmissionProtocol
      (Machine.run step (new clockRange inFlight requests supervisors) acts) := by
  have h : Sound (Machine.run step (new clockRange inFlight requests supervisors) acts) :=
    Machine.run_invariant step_sound acts (sound_new clockRange inFlight requests supervisors)
  generalize Machine.run step (new clockRange inFlight requests supervisors) acts = s at h
  exact
    { disjoint := h.disjoint
      live_once := h.live_nodup
      allocated_fresh := fun _ _ _ _ hreserve => (reserve_ok hreserve).1
      allocation_ends := by
        intro value hvalue
        rw [hvalue]
        have hahead : ahead s.registry.live value ≤ s.registry.live.length :=
          List.length_filter_le _ _
        rcases allocate_bound (fun id hid => taken_iff.mp hid) value with
          ⟨id, next, heq, hle, hbound⟩ | ⟨⟨error, heq⟩, hall⟩
        · exact .inl ⟨id, next, heq, hle, by omega⟩
        · exact .inr ⟨error, heq, hall⟩
      finish_other := fun _ _ _ hne => RegistryState.finish_other hne
      shutdown_closes := fun acts hshutdown => run_after_shutdown h hshutdown acts
      own_steps := fun _ _ hactor => step_remainder h hactor
      gives_back := fun _ _ hget hcommitted hpublished => h.gives_back hget hcommitted hpublished
      failed_restores := fun _ hfailed => h.failed_restores hfailed
      drained_empty := h.drained }

-- A request with an id of its own gets the last permit and finds no slot; its rollback gives the
-- permit back before the registration goes.
example :
    (Machine.run step (new 100 1 0 4)
      [.begin (some 7) false 0 (some 10) none true, .acquirePermit 0, .reserveSlot 0, .rollback 0,
       .proceed 0, .proceed 0, .proceed 0, .proceed 0, .proceed 0]).contents =
    (new 100 1 0 4).contents := by
  decide

end HttpClientInner

end OpenNet.Http
