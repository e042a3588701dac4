import OpenNet.Ws.PendingAgreement

/-!
# The one grace window of a response

Five sections of the table may open or use the grace window of a response, and the deadline that
is in force is written twice: in the entry and in the control of its request.
-/

namespace OpenNet.Ws.Session

variable {E : SessionConfig} {w w' w'' : Session}

/-! ## The window is opened once -/

/-- A window is used exactly when one is written down. -/
def WindowUsed (w : Session) : Prop :=
  ∀ id e, w.entryAt id = some e → e.graceUsed = e.graceDeadline.isSome

theorem windowUsed_step (w : Session) (a : PendingAction) (h : WindowUsed w) :
    WindowUsed (w.step E a) := by
  intro id e' here
  obtain ⟨e, hentry, hstep⟩ | ⟨-, hfresh⟩ := step_entry here
  · obtain ⟨hgrace, hused⟩ | ⟨-, hused, g, hgrace, -⟩ := hstep.grace
    · rw [hused, hgrace, h id e hentry]
    · rw [hused, hgrace]
      rfl
  · rw [hfresh.unused, hfresh.grace]
    rfl

/-- Entries given out in `w` stay, and an open window stays the same. -/
structure Keeps (w w' : Session) : Prop where
  nextToken : w.table.nextToken ≤ w'.table.nextToken
  entries : ∀ id e', w'.entryAt id = some e' → e'.token ≤ w.table.nextToken →
    ∃ e, w.entryAt id = some e ∧ e.token = e'.token ∧
      ∀ g, e.graceDeadline = some g → e'.graceDeadline = some g

theorem Keeps.refl (w : Session) : Keeps w w :=
  ⟨Nat.le_refl _, fun _ e here _ => ⟨e, here, rfl, fun _ => id⟩⟩

theorem Keeps.trans (h : Keeps w w') (h' : Keeps w' w'') : Keeps w w'' := by
  refine ⟨Nat.le_trans h.nextToken h'.nextToken, fun id e'' here hle => ?_⟩
  obtain ⟨e', hentry', htoken', hgrace'⟩ :=
    h'.entries id e'' here (Nat.le_trans hle h.nextToken)
  obtain ⟨e, hentry, htoken, hgrace⟩ := h.entries id e' hentry' (by rw [htoken']; exact hle)
  exact ⟨e, hentry, htoken.trans htoken', fun g hg => hgrace' g (hgrace g hg)⟩

theorem keeps_step (w : Session) (a : PendingAction) (h : WindowUsed w) : Keeps w (w.step E a) := by
  refine ⟨(step_does w a).nextToken, fun id e' here hle => ?_⟩
  obtain ⟨e, hentry, hstep⟩ | ⟨-, hfresh⟩ := step_entry here
  · refine ⟨e, hentry, hstep.token.symm, fun g hg => ?_⟩
    obtain ⟨hgrace, -⟩ | ⟨hunused, -⟩ := hstep.grace
    · rw [hgrace, hg]
    -- The window is used, so no section opens another one.
    rw [h id e hentry, hg] at hunused
    cases hunused
  · exact absurd hfresh.later (Nat.not_lt_of_le hle)

/-! ## Every history -/

abbrev TableAction := { a : PendingAction // a.setsDeadline = false }

def runTable (E : SessionConfig) (w : Session) (acts : List TableAction) : Session :=
  Machine.run (fun w (a : TableAction) => w.step E a.1) w acts

/-- What every state of every history satisfies. -/
structure GraceInvariant (E : SessionConfig) (w : Session) : Prop where
  agreement : Agreement E w
  used : WindowUsed w
  mirrored : Mirrored w

theorem graceInvariant_step (w : Session) (a : TableAction) (h : GraceInvariant E w) :
    GraceInvariant E (w.step E a.1) :=
  ⟨(step_safe w a.1 h.agreement).1, windowUsed_step w a.1 h.used,
    (step_does w a.1).mirrored a.2 h.agreement h.mirrored⟩

/-- **A response has one grace window**, in every history of the table.

* Once an entry has a grace deadline it keeps that very deadline.
* A grace deadline that a section leaves in the table was there before, or one of `mark_written`,
  `refresh_response_deadline`, `expire_due` and `fail_connection` has opened it: later than the
  clock it has read, at most at the absolute deadline, and at most `grace` after the end of the
  connection (`fail_connection`) or after the established response deadline (the others).
* The response deadline of a control is the grace deadline if there is one, and the deadline of the
  registration's timing otherwise. -/
theorem one_shot_grace (E : SessionConfig) (source : OpId → TaskSource) (random : OpId → UInt64)
    (now : OpId → Nat) (acts : List TableAction) :
    let w := runTable E (new source random now) acts
    (∀ more id e e' g, w.entryAt id = some e → (runTable E w more).entryAt id = some e' →
      e'.token = e.token → e.graceDeadline = some g → e'.graceDeadline = some g) ∧
    (∀ (a : TableAction) id e' g, (w.step E a.1).entryAt id = some e' →
      e'.graceDeadline = some g →
      ∃ e, w.entryAt id = some e ∧ e.token = e'.token ∧ (e.graceDeadline = some g ∨
        e.graceDeadline = none ∧ ∃ instant disconnected,
          a.1.opensGrace = some (instant, disconnected) ∧ instant < g ∧
          (∀ d, e'.absoluteDeadline = some d → g ≤ d) ∧
          g ≤ (if disconnected then instant else e'.timing.getD instant) + E.grace)) ∧
    ∀ id e, w.entryAt id = some e →
      (w.ops e.op).responseDeadline = e.graceDeadline.or e.timing := by
  intro w
  have h : GraceInvariant E w :=
    Machine.run_invariant graceInvariant_step acts ⟨agreement_new source random now,
      fun _ _ h => (by cases h), fun _ _ _ _ h => (by cases h), fun _ _ h => (by cases h)⟩
  have hb : Bounded w := Machine.run_invariant (fun w (a : TableAction) => bounded_step w a.1) acts
    ⟨fun _ _ h => (by cases h), fun _ _ h => (by cases h)⟩
  refine ⟨?_, ?_, h.mirrored.mirror⟩
  · intro more id e e' g here here' htoken hgrace
    have hkeeps : Keeps w (runTable E w more) :=
      Machine.run_rel graceInvariant_step Keeps.refl (fun _ _ _ => Keeps.trans)
        (fun w a hw => keeps_step w a.1 hw.used) more h
    obtain ⟨e₀, hentry, -, hkept⟩ := hkeeps.entries id e' here'
      (by rw [htoken]; exact hb.tokens id e here)
    obtain rfl := Option.some.inj (here.symm.trans hentry)
    exact hkept g hgrace
  · intro a id e' g here hgrace
    obtain ⟨e, hentry, hstep⟩ | ⟨-, hfresh⟩ := step_entry here
    · refine ⟨e, hentry, hstep.token.symm, ?_⟩
      obtain ⟨hsame, -⟩ | ⟨hunused, -, g', hset, instant, disconnected, hsection, hopened⟩ :=
        hstep.grace
      · exact .inl (hsame.symm.trans hgrace)
      obtain rfl := Option.some.inj (hset.symm.trans hgrace)
      have hnone := h.used id e hentry
      rw [hunused] at hnone
      exact .inr ⟨by simpa using hnone.symm, instant, disconnected, hsection, hopened.later,
        hopened.absolute, hopened.window⟩
    · rw [hfresh.grace] at hgrace
      cases hgrace

/-! ## The timer -/

/-- A loop over distinct entries changes each by its own part and nothing else. -/
theorem forEntries_each {part : Session → RequestId → PendingEntry → Session} {D : Dispatches}
    {Q : PendingEntry → Option PendingEntry → Prop}
    (hpart : ∀ w id e, w.table.dispatches = D → w.entryAt id = some e →
      (part w id e).table.dispatches = D ∧ Q e ((part w id e).entryAt id) ∧
      ∀ id', id' ≠ id → (part w id e).entryAt id' = w.entryAt id') :
    ∀ (ids : List RequestId) (w : Session), ids.Nodup → w.table.dispatches = D →
      (w.forEntries part ids).table.dispatches = D ∧
      (∀ id, id ∉ ids → (w.forEntries part ids).entryAt id = w.entryAt id) ∧
      ∀ id ∈ ids, ∀ e, w.entryAt id = some e → Q e ((w.forEntries part ids).entryAt id)
  | [], w, _, hD => ⟨hD, fun _ _ => rfl, nofun⟩
  | id :: ids, w, hnodup, hD => by
    obtain ⟨hnew, hnodup⟩ := List.nodup_cons.mp hnodup
    cases here : w.entryAt id with
    | none =>
      obtain ⟨hD', hothers, hown⟩ := forEntries_each hpart ids w hnodup hD
      simp only [forEntries, List.foldl_cons, here] at hD' hothers hown ⊢
      grind
    | some e =>
      obtain ⟨hD₁, hQ, hframe⟩ := hpart w id e hD here
      obtain ⟨hD', hothers, hown⟩ := forEntries_each hpart ids (part w id e) hnodup hD₁
      simp only [forEntries, List.foldl_cons, here] at hD' hothers hown ⊢
      grind

/-- What the timer does to an entry that is due. -/
def Expired (E : SessionConfig) (now : Nat) (e : PendingEntry) (out : Option PendingEntry) : Prop :=
  out = none ∨ e.graceUsed = false ∧
    ∃ g, out = some (e.deferred g timeout .expired) ∧ e.Opened E now false g

theorem expireEntry_expired (v : View) (w : Session) (id : RequestId) (e : PendingEntry) :
    (expireEntry E v w id e).table.dispatches = w.table.dispatches ∧
      Expired E v.now e ((expireEntry E v w id e).entryAt id) ∧
      ∀ id', id' ≠ id → (expireEntry E v w id e).entryAt id' = w.entryAt id' := by
  unfold expireEntry
  split
  · rename_i g huntil
    split at huntil
    · cases huntil
    obtain ⟨hunused, hopened⟩ := PendingEntry.graceUntil_opened huntil
    refine ⟨rfl, .inr ⟨hunused, g, ?_, hopened⟩, fun id' hid => ?_⟩
    · exact (entryAt_setEntry w id _ id).trans (if_pos rfl)
    · exact (entryAt_setEntry w id _ id').trans (if_neg hid)
  · refine ⟨rfl, .inl ?_, fun id' hid => ?_⟩
    · exact (entryAt_eraseEntry _ id id).trans (if_pos rfl)
    · exact (entryAt_eraseEntry _ id id').trans (if_neg hid)

theorem deferred_later {e : PendingEntry} {now g d : Nat} {error : NetError}
    {cause : TaskEndCause} (h : e.Opened E now false g)
    (hsame : (E.control e.op).deadline = e.absoluteDeadline)
    (hd : (e.deferred g error cause).deadline E = some d) : now < d := by
  have hlater := h.later
  have hbudget : (e.deferred g error cause).budget E = TimeoutBudget.earlier
      ((E.control e.op).deadline.map fun instant => ⟨instant, (E.control e.op).deadlinePhase⟩)
      (some ⟨g, .response⟩) := rfl
  rw [PendingEntry.deadline, hbudget, hsame] at hd
  cases habsolute : e.absoluteDeadline with
  | none => grind [TimeoutBudget.earlier]
  | some a => grind [TimeoutBudget.earlier, h.absolute a habsolute]

theorem mem_idsOf {p : PendingEntry → Bool} {id : RequestId} :
    id ∈ w.idsOf p ↔ ∃ e, w.entryAt id = some e ∧ p e := by
  simp only [idsOf, List.mem_map, List.mem_filter, entryAt]
  constructor
  · rintro ⟨⟨id', e⟩, ⟨hmem, hp⟩, rfl⟩
    exact ⟨e, AList.mem_lookup_iff.mpr hmem, hp⟩
  · rintro ⟨e, here, hp⟩
    exact ⟨⟨id, e⟩, ⟨AList.mem_lookup_iff.mp here, hp⟩, rfl⟩

theorem nextDeadline_later {now : Nat} : ∀ (ds : List (Option Nat)) (first : Option Nat),
    (∀ d, first = some d → now < d) → (∀ x ∈ ds, ∀ d, x = some d → now < d) →
    ∀ d, ds.foldl earliest first = some d → now < d
  | [], _, hfirst, _ => hfirst
  | x :: ds, first, hfirst, hds => by
    refine nextDeadline_later ds (earliest first x) (fun d hd => ?_)
      fun y hy => hds y (by simp [hy])
    have hx := hds x List.mem_cons_self
    cases first <;> cases x <;> simp only [earliest] at hd <;> grind

/-- **The timer makes progress.** Let every control have the absolute deadline of its entry. When
`expire_due` succeeds, all deadlines and records left lie in the future, as does the one the timer
then sleeps until; a due entry was retired or has opened its one window, the others are as they
were. -/
theorem timer_progress (E : SessionConfig) (w : Session) (v : View) (allocated : Bool)
    (hsame : ∀ id e, w.entryAt id = some e → (E.control e.op).deadline = e.absoluteDeadline)
    (hok : (w.expireDue E v allocated).1 = .ok ()) :
    let w' := (w.expireDue E v allocated).2
    (∀ id e', w'.entryAt id = some e' → ∀ d, e'.deadline E = some d → v.now < d) ∧
    (∀ k r, w'.table.dispatches.lookup k = some r → v.now < r.expiresAt) ∧
    (∀ d, (w'.nextDeadline E).1.2 = some d → v.now < d) ∧
    ∀ id e, w.entryAt id = some e →
      if due (e.deadline E) v.now then
        w'.entryAt id = none ∨
          e.graceUsed = false ∧ ∃ g, w'.entryAt id = some (e.deferred g timeout .expired)
      else w'.entryAt id = some e := by
  obtain rfl : allocated = true := by
    cases allocated
    · cases hok
    · rfl
  intro w'
  let live : Session := { w with
    table := { w.table with dispatches := liveDispatches w.table.dispatches v.now } }
  have hnodup : (live.idsOf fun e => due (e.deadline E) v.now).Nodup :=
    (List.filter_sublist.map _).nodup w.table.entries.nodupKeys
  obtain ⟨hrecords, hothers, hdue⟩ := forEntries_each (Q := Expired E v.now)
    (fun w id e hD _ => by
      obtain ⟨hD', hrest⟩ := expireEntry_expired v w id e
      exact ⟨hD'.trans hD, hrest⟩) _ live hnodup rfl
  change w'.table.dispatches = liveDispatches w.table.dispatches v.now at hrecords
  have hrecord : ∀ k r, w'.table.dispatches.lookup k = some r → v.now < r.expiresAt := by
    intro k r hr
    rw [hrecords] at hr
    simpa using (List.mem_filter.mp (AList.mem_lookup_iff.mp hr)).2
  have hentry : ∀ id e', w'.entryAt id = some e' → ∀ d, e'.deadline E = some d → v.now < d := by
    intro id e' here' d hd
    by_cases hmem : id ∈ live.idsOf fun e => due (e.deadline E) v.now
    · obtain ⟨e, here, -⟩ := mem_idsOf.mp hmem
      obtain hgone | ⟨-, g, hdeferred, hopened⟩ := hdue id hmem e here
      · cases here'.symm.trans hgone
      cases here'.symm.trans hdeferred
      exact deferred_later hopened (hsame id e here) hd
    · have here : w.entryAt id = some e' := (hothers id hmem).symm.trans here'
      by_contra hlate
      exact hmem (mem_idsOf.mpr ⟨e', here, by simpa [due, hd] using hlate⟩)
  refine ⟨hentry, hrecord, fun d hd => ?_, fun id e here => ?_⟩
  · unfold nextDeadline at hd
    split at hd
    · cases hd
    refine nextDeadline_later _ _ (fun d hd => ?_) (fun x hx d hd => ?_) d hd
    · obtain ⟨⟨k, r⟩, hmem, rfl⟩ := List.mem_map.mp (List.min?_mem hd)
      exact hrecord k r (AList.mem_lookup_iff.mpr hmem)
    · obtain ⟨⟨id, e⟩, hmem, rfl⟩ := List.mem_map.mp hx
      exact hentry id e (AList.mem_lookup_iff.mpr hmem) d hd
  · split
    · rename_i hd
      obtain hgone | ⟨hunused, g, hg, -⟩ := hdue id (mem_idsOf.mpr ⟨e, here, hd⟩) e here
      · exact .inl hgone
      · exact .inr ⟨hunused, g, hg⟩
    · rename_i hd
      refine (hothers id fun hmem => ?_).trans here
      obtain ⟨e', here', hd'⟩ := mem_idsOf.mp hmem
      cases here.symm.trans here'
      exact hd hd'

def oneDue : Session := (new (fun _ => .message (.text [])) (fun _ => 0) (fun _ => 0)).setEntry "r"
  { op := 0, token := 1, timing := some 41, responseTimeout := 30, timeoutOrigin := .written
    absoluteDeadline := none }

theorem timer_progress_oneDue :
    (oneDue.expireDue oneRequest { now := 42 } true).1 = .ok () ∧
      ∀ d, ((oneDue.expireDue oneRequest { now := 42 } true).2.nextDeadline oneRequest).1.2 =
        some d → 42 < d := by
  refine ⟨rfl,
    (timer_progress oneRequest oneDue { now := 42 } true (fun id e here => ?_) rfl).2.2.1⟩
  rw [oneDue, entryAt_setEntry] at here
  split at here <;> cases here
  rfl

end OpenNet.Ws.Session
