import Mathlib.Logic.Relation
import OpenNet.Ws.PendingMachine
import OpenNet.Ws.PendingOwnership

/-!
# How entries and dispatch records change

What one section does to an entry that it leaves in the table and to the records of the messages
that were dispatched for manual resolution.  Tokens and dispatch numbers only grow, so an entry or
a record that has left the table does not come back.
-/

namespace OpenNet.Ws

/-! ## Sections that matter here -/

/-- The clock of a section that may open a window, and whether the connection's end does. -/
def PendingAction.opensGrace : PendingAction → Option (Nat × Bool)
  | .markWritten v .. | .refreshResponseDeadline v .. | .expireDue v _ => some (v.now, false)
  | .failConnection v .. => some (v.now, true)
  | _ => none

/-- The one section of a control that writes its response deadline. -/
def PendingAction.setsDeadline : PendingAction → Bool
  | .control _ (.setResponseDeadline _) => true
  | _ => false

/-! ## The grace window -/

/-- A grace window that is opened at `now` and ends at `g`. -/
structure PendingEntry.Opened (E : SessionConfig) (now : Nat) (disconnected : Bool)
    (entry : PendingEntry) (g : Nat) : Prop where
  later : now < g
  absolute : ∀ d, entry.absoluteDeadline = some d → g ≤ d
  window : g ≤ (if disconnected then now else entry.timing.getD now) + E.grace

/-- The window was opened by this section. -/
def PendingEntry.OpenedBy (E : SessionConfig) (a : PendingAction) (entry : PendingEntry)
    (g : Nat) : Prop :=
  ∃ now disconnected, a.opensGrace = some (now, disconnected) ∧ entry.Opened E now disconnected g

variable {E : SessionConfig}

theorem PendingEntry.graceUntil_opened {entry : PendingEntry}
    {dispatches : Dispatches} {now g : Nat} {disconnected : Bool}
    (h : entry.graceUntil E dispatches now disconnected = some g) :
    entry.graceUsed = false ∧ entry.Opened E now disconnected g := by
  unfold graceUntil at h
  split at h
  · cases h
  rename_i hfree
  split at h
  · cases h
  rename_i deadline _
  dsimp only at h
  split at h
  · cases h
  rename_i bound hbound
  obtain ⟨rfl, -⟩ := Checked.checkedAdd_eq_some.mp hbound
  obtain ⟨hearliest, hlater⟩ := Option.filter_eq_some_iff.mp h
  refine ⟨by simp_all, by simpa using hlater, fun d hd => ?_, ?_⟩
  · rw [hd] at hearliest
    cases hearliest
    exact Nat.min_le_right _ _
  · cases habsolute : entry.absoluteDeadline with
    | none =>
      rw [habsolute] at hearliest
      cases hearliest
      exact Nat.min_le_right _ _
    | some d =>
      rw [habsolute] at hearliest
      cases hearliest
      exact Nat.le_trans (Nat.min_le_left _ _) (Nat.min_le_right _ _)

/-! ## Steps of an entry -/

/-- What a section may do to an entry that stays in the table. -/
structure EntryStep (E : SessionConfig) (a : PendingAction) (e e' : PendingEntry) : Prop where
  op : e'.op = e.op
  token : e'.token = e.token
  absolute : e'.absoluteDeadline = e.absoluteDeadline
  timing : ∀ d, e.timing = some d → e'.timing = some d
  grace : (e'.graceDeadline = e.graceDeadline ∧ e'.graceUsed = e.graceUsed) ∨
    (e.graceUsed = false ∧ e'.graceUsed ∧
      ∃ g, e'.graceDeadline = some g ∧ e'.OpenedBy E a g)
  binding : (e'.connectionId = e.connectionId ∧ e'.boundAt = e.boundAt) ∨
    e'.connectionId = none ∨
    ∃ v registration connection, a = .bindConnection v registration connection ∧
      registration.token = e.token ∧ e'.connectionId = some connection ∧ e'.boundAt = some v.now

theorem EntryStep.refl (E : SessionConfig) (a : PendingAction) (e : PendingEntry) :
    EntryStep E a e e :=
  ⟨rfl, rfl, rfl, fun _ => id, .inl ⟨rfl, rfl⟩, .inl ⟨rfl, rfl⟩⟩

variable {a : PendingAction}

theorem EntryStep.deferred {e : PendingEntry} {g : Nat}
    (hunused : e.graceUsed = false) (hopened : e.OpenedBy E a g)
    (error : NetError) (cause : TaskEndCause) : EntryStep E a e (e.deferred g error cause) :=
  have ⟨now, disconnected, hsection, hopened⟩ := hopened
  ⟨rfl, rfl, rfl, fun _ => id,
    .inr ⟨hunused, rfl, g, rfl, now, disconnected, hsection, hopened.later, hopened.absolute,
      hopened.window⟩, .inl ⟨rfl, rfl⟩⟩

/-- An entry stays as it is or enters its grace window. -/
def Deferred (E : SessionConfig) (a : PendingAction) (e e' : PendingEntry) : Prop :=
  e' = e ∨ e.graceUsed = false ∧ ∃ g error cause, e.OpenedBy E a g ∧
    e' = e.deferred g error cause

theorem Deferred.trans {e e' e'' : PendingEntry}
    (h : Deferred E a e e') (h' : Deferred E a e' e'') : Deferred E a e e'' := by
  obtain rfl | ⟨hunused, g, error, cause, hopened, rfl⟩ := h
  · exact h'
  obtain rfl | ⟨hused, -⟩ := h'
  · exact .inr ⟨hunused, g, error, cause, hopened, rfl⟩
  · cases hused

theorem Deferred.step {e e' : PendingEntry} (h : Deferred E a e e') : EntryStep E a e e' := by
  obtain rfl | ⟨hunused, g, error, cause, hopened, rfl⟩ := h
  · exact .refl E a e'
  · exact .deferred hunused hopened error cause

/-! ## What others do to a control -/

/-- A section entered by somebody other than the writer. -/
inductive Outside (cfg : OperationConfig) (s : OperationState) : OperationState → Prop
  | deadline (deadline : Option Nat) : Outside cfg s (s.setResponseDeadline deadline)
  | failure (v : View) (error : NetError) (cause : TaskEndCause) :
      Outside cfg s (s.selectFailure cfg v error cause).2.2
  | response (v : View) : Outside cfg s (s.complete cfg v (s.selectResponse cfg v)).2.2
  | bind (identity : PendingIdentity) (active : s.result = none) :
      Outside cfg s { s with pending := some identity }

/-- What others do to a control, in any number of sections. -/
def Others (cfg : OperationConfig) : OperationState → OperationState → Prop :=
  Relation.ReflTransGen (Outside cfg)

namespace Others

variable {cfg : OperationConfig} {s s' s'' : OperationState}

theorem refl (s : OperationState) : Others cfg s s := Relation.ReflTransGen.refl

theorem one (h : Outside cfg s s') : Others cfg s s' := Relation.ReflTransGen.single h

theorem trans (h : Others cfg s s') (h' : Others cfg s' s'') : Others cfg s s'' :=
  Relation.ReflTransGen.trans h h'

/-- What every single section of others preserves, they preserve. -/
theorem preserves {P : OperationState → Prop} (hstep : ∀ s s', Outside cfg s s' → P s → P s')
    (h : Others cfg s s') (hs : P s) : P s' := by
  induction h with
  | refl => exact hs
  | tail _ hmove ih => exact hstep _ _ hmove ih

end Others

/-! ## Effects of the sections -/

namespace Session

/-- The control's response deadline is the entry's. -/
structure Mirrored (w : Session) : Prop where
  distinct : ∀ id id' e e', w.entryAt id = some e → w.entryAt id' = some e' → e.op = e'.op →
    id = id'
  mirror : ∀ id e, w.entryAt id = some e → (w.ops e.op).responseDeadline = e.responseDeadline

variable {E : SessionConfig} {w w' w'' : Session} {R : PendingEntry → PendingEntry → Prop}
  {a : PendingAction} {o : OpId}

theorem Mirrored.mono (h : Mirrored w)
    (entries : ∀ id e, w'.entryAt id = some e → w.entryAt id = some e)
    (deadline : ∀ op, (w'.ops op).responseDeadline = (w.ops op).responseDeadline) :
    Mirrored w' where
  distinct id id' e e' here here' :=
    h.distinct id id' e e' (entries id e here) (entries id' e' here')
  mirror id e here := (deadline e.op).trans (h.mirror id e (entries id e here))

theorem Mirrored.op_ne (h : Mirrored w) {id id' : RequestId} {e e' : PendingEntry}
    (here : w.entryAt id = some e) (here' : w.entryAt id' = some e') (hid : id' ≠ id) :
    e'.op ≠ e.op := fun hop => hid (h.distinct id' id e' e here' here hop)

/-- An entry is written or erased with its control; other entries have other controls. -/
theorem Mirrored.set (h : Mirrored w) {id : RequestId} {op : OpId} {slot : Option PendingEntry}
    (hop : ∀ e ∈ slot, e.op = op)
    (hother : ∀ id' e', id' ≠ id → w.entryAt id' = some e' → e'.op ≠ op)
    (hentries : ∀ id', w'.entryAt id' = if id' = id then slot else w.entryAt id')
    (hops : ∀ op', op' ≠ op → (w'.ops op').responseDeadline = (w.ops op').responseDeadline)
    (hmirror : ∀ e ∈ slot, (w'.ops op).responseDeadline = e.responseDeadline) : Mirrored w' := by
  refine ⟨fun id₁ id₂ e₁ e₂ here₁ here₂ heq => ?_, fun id' e' here => ?_⟩
  · rw [hentries] at here₁ here₂
    split at here₁ <;> split at here₂
    · rename_i h₁ h₂
      rw [h₁, h₂]
    · rename_i h₁ h₂
      exact absurd (heq.symm.trans (hop e₁ here₁)) (hother id₂ e₂ h₂ here₂)
    · rename_i h₁ h₂
      exact absurd (heq.trans (hop e₂ here₂)) (hother id₁ e₁ h₁ here₁)
    · exact h.distinct id₁ id₂ e₁ e₂ here₁ here₂ heq
  · rw [hentries] at here
    split at here
    · rw [hop e' here]
      exact hmirror e' here
    rename_i hid
    rw [hops _ (hother id' e' hid here)]
    exact h.mirror id' e' here

variable (E o) in
/-- Others have acted on an operation between two states. -/
def Interferes (w w' : Session) : Prop := Others (E.control o) (w.ops o) (w'.ops o)

theorem Interferes.refl (w : Session) : Interferes E o w w := Others.refl _

theorem Interferes.trans (h : Interferes E o w w') (h' : Interferes E o w' w'') :
    Interferes E o w w'' := Others.trans h h'

theorem interferes_of_ops (h : w'.ops = w.ops) : Interferes E o w w' := by
  rw [Interferes, h]
  exact Others.refl _

variable {s : OperationState}

theorem interferes_setOp (op : OpId)
    (h : op = o → Others (E.control o) (w.ops o) s) : Interferes E o w (w.setOp op s) := by
  rw [Interferes, setOp_ops]
  split
  · rename_i hop
    exact h hop.symm
  · exact Others.refl _

variable {op : OpId} {id : RequestId} {entry entry' e e' : PendingEntry} {token d : Nat}
  {r : DispatchRecord}

theorem interferes_setOp_ne (hop : op ≠ o) (s : OperationState) : Interferes E o w (w.setOp op s) :=
  interferes_setOp _ fun heq => absurd heq hop

/-- Every other entry, and its control, is as it was. -/
def Spares (w w' : Session) (id : RequestId) (token : Nat) : Prop :=
  ∀ id' entry, w.entryAt id' = some entry → (id', entry.token) ≠ (id, token) →
    w'.entryAt id' = some entry ∧ w'.ops entry.op = w.ops entry.op

theorem Spares.refl (w : Session) (id : RequestId) (token : Nat) : Spares w w id token :=
  fun _ _ here _ => ⟨here, rfl⟩

theorem op_ne_of_entry (h : Agreement E w) {id' : RequestId} (here : w.entryAt id = some entry)
    (here' : w.entryAt id' = some entry') (hid : id' ≠ id) :
    entry'.op ≠ entry.op := fun hop => by
  have hmem := (h.live id entry.token entry.op (by simp [holder, here])).1
  have hmem' := (h.live id' entry'.token entry'.op (by simp [holder, here'])).1
  exact hid (congrArg Registered.id (h.op_inj hmem' hmem hop))

def Named (a : PendingAction) (w : Session) (id : RequestId) (token : Nat) : Prop :=
  ∀ named, w.names a = some named → named = (id, token)

/-- At most the entry that an action names, and the control of that entry, have changed. -/
theorem spares_of_named (h : Agreement E w) (here : w.entryAt id = some e)
    (hnamed : Named a w id e.token) {named : RequestId × Nat} (hnames : w.names a = some named)
    (entries : ∀ id', id' ≠ id → w'.entryAt id' = w.entryAt id')
    (ops : ∀ op', op' ≠ e.op → w'.ops op' = w.ops op') : Spares w w' named.1 named.2 := by
  obtain rfl := hnamed named hnames
  intro id' entry' here' hne
  have hid : id' ≠ id := by
    rintro rfl
    rw [here] at here'
    cases here'
    exact hne rfl
  exact ⟨(entries id' hid).trans here', ops _ (op_ne_of_entry h here here' hid)⟩

/-- Registers nobody, dispatches nothing, keeps the agreement, changes entries by `R`, controls as
others may, and spares what is not named. -/
structure TableStep (E : SessionConfig) (a : PendingAction)
    (R : PendingEntry → PendingEntry → Prop) (w w' : Session) : Prop where
  safe : Safe E w w'
  entries : ∀ id e', w'.entryAt id = some e' →
    ∃ e, w.entryAt id = some e ∧ (e' = e ∨ R e e') := by
    exact fun _ e' here => ⟨e', here, .inl rfl⟩
  mirrored : Mirrored w → Mirrored w' := by
    exact fun hm => hm.mono (fun _ _ here => here) fun _ => rfl
  records : ∀ d r, w'.table.dispatches.lookup d = some r →
    w.table.dispatches.lookup d = some r := by exact fun _ _ here => here
  nextToken : w'.table.nextToken = w.table.nextToken := by rfl
  nextDispatch : w'.table.nextDispatch = w.table.nextDispatch := by rfl
  others : ∀ o, a.writes o w = false → Interferes E o w w' := by
    exact fun _ _ => interferes_of_ops rfl
  spares : Agreement E w → ∀ named, w.names a = some named → Spares w w' named.1 named.2 := by
    exact fun _ _ _ _ _ here _ => ⟨here, rfl⟩

theorem TableStep.refl (w : Session) : TableStep E a R w w := { safe := .refl w }

theorem setOp_deadline (h : s.responseDeadline = (w.ops op).responseDeadline)
    (op' : OpId) : ((w.setOp op s).ops op').responseDeadline = (w.ops op').responseDeadline := by
  rw [setOp_ops]
  split
  · rename_i hop
    rw [hop, h]
  · rfl

theorem setOp_deadline_ne {op' : OpId} (s : OperationState) (h : op' ≠ op) :
    ((w.setOp op s).ops op').responseDeadline = (w.ops op').responseDeadline := by
  rw [setOp_ops, if_neg h]

theorem tableStep_frame (w : Session) (dispatches : Dispatches) (active : Option Nat)
    (closed : Bool)
    (h : ∀ d r, dispatches.lookup d = some r → w.table.dispatches.lookup d = some r) :
    TableStep E a R w { w with table := { w.table with dispatches, active, closed } } :=
  { safe := (frame_table w dispatches _ active closed).safe, records := h }

theorem tableStep_at (slot : Option PendingEntry) (here : w.entryAt id = some e)
    (named : Named a w id e.token) (rel : ∀ e' ∈ slot, R e e' ∧ e'.op = e.op ∧
      ((w.ops e.op).responseDeadline = e.responseDeadline →
        (w'.ops e.op).responseDeadline = e'.responseDeadline))
    (entries : ∀ id', w'.entryAt id' = if id' = id then slot else w.entryAt id')
    (ops : ∀ op, op ≠ e.op → w'.ops op = w.ops op)
    (records : ∀ d r, w'.table.dispatches.lookup d = some r → w.table.dispatches.lookup d = some r)
    (counters : w'.table.nextToken = w.table.nextToken ∧
      w'.table.nextDispatch = w.table.nextDispatch)
    (safe : Safe E w w') (outside : a.writes e.op w = false → Interferes E e.op w w') :
    TableStep E a R w w' where
  safe := safe
  entries id' e' here' := by
    rw [entries] at here'
    split at here'
    · rename_i hid
      exact ⟨e, hid ▸ here, .inr (rel e' here').1⟩
    · exact ⟨e', here', .inl rfl⟩
  mirrored hm := hm.set (fun e' he' => (rel e' he').2.1)
    (fun _ _ hid hother => hm.op_ne here hother hid) entries (fun op hop => by rw [ops op hop])
    fun e' he' => (rel e' he').2.2 (hm.mirror id e here)
  records := records
  nextToken := counters.1
  nextDispatch := counters.2
  others o hwrites := by
    by_cases hop : o = e.op
    · subst hop
      exact outside hwrites
    · rw [Interferes, ops o hop]
      exact .refl _
  spares h _ hnames := spares_of_named h here named hnames
    (fun id' hid => (entries id').trans (if_neg hid)) ops

/-- The entry leaves the table with what its control has selected. -/
theorem tableStep_erase (here : w.entryAt id = some e) (named : Named a w id e.token)
    {c : Completion} (safe : Safe E w (((w.setOp e.op s).eraseEntry id).complete c))
    (outside : Others (E.control e.op) (w.ops e.op) s) :
    TableStep E a R w (((w.setOp e.op s).eraseEntry id).complete c) :=
  tableStep_at none here named (fun _ h => by cases h) (entryAt_eraseEntry (w.setOp e.op s) id)
    (fun op hop => (setOp_ops w e.op s op).trans (if_neg hop)) (fun _ _ h => h)
    ⟨rfl, rfl⟩ safe fun _ => interferes_setOp e.op fun _ => outside

theorem tableStep_update (here : w.entryAt id = some e)
    (named : Named a w id e.token) (rel : R e e') (hop : e'.op = e.op)
    (htable : w'.table = (w.setEntry id e').table) (hops : w'.ops = (w.setOp e.op s).ops)
    (hmirror : (w.ops e.op).responseDeadline = e.responseDeadline →
      s.responseDeadline = e'.responseDeadline) (safe : Safe E w w')
    (outside : a.writes e.op w = false → Others (E.control e.op) (w.ops e.op) s) :
    TableStep E a R w w' := by
  have hentry : w'.ops e.op = s := by rw [hops, setOp_ops, if_pos rfl]
  refine tableStep_at (some e') here named (fun _ h => ?_) (fun id' => ?_) (fun op hop => ?_)
    (fun d r h => ?_) ?_ safe fun hwrites => ?_
  · rw [hentry, ← Option.mem_some.mp h]
    exact ⟨rel, hop, hmirror⟩
  · rw [entryAt, htable]
    exact entryAt_setEntry w id e' id'
  · rw [hops, setOp_ops, if_neg hop]
  · rw [htable] at h
    exact h
  · rw [htable]
    exact ⟨rfl, rfl⟩
  · rw [Interferes, hentry]
    exact outside hwrites

theorem retire_step (here : w.entryAt id = some e) (named : Named a w id e.token) (v : View)
    (error : NetError) (cause : TaskEndCause) : TableStep E a R w (w.retire E v id e error cause) :=
  tableStep_erase here named (retire_safe here v error cause) (.one (.failure v error cause))

theorem settle_step (here : w.entryAt id = some e) (named : Named a w id e.token) (v : View)
    (response : Response) : TableStep E a R w (w.settle E v id e response).2 :=
  tableStep_erase here named (settle_safe here v response) (.one (.response v))

variable {error : NetError} {cause : TaskEndCause} {v : View} {writtenAt now : Nat}
  {identity : PendingIdentity} {dispatches : Dispatches}

theorem deferEntry_step {deadline : Nat} (here : w.entryAt id = some e)
    (named : Named a w id e.token) (rel : R e (e.deferred deadline error cause)) :
    TableStep E a R w (w.deferEntry id e deadline error cause) :=
  tableStep_update here named rel rfl rfl rfl (fun _ => rfl)
    (deferEntry_safe here deadline error cause) fun _ => .one (.deadline (some deadline))

/-- A control without an entry fails; an entry it was bound to is the one that is named. -/
theorem failOp_step (safe : Safe E w (w.failOp E v op error cause).2)
    (named : ∀ id token, w.names a = some (id, token) → (w.ops op).pending = some ⟨id, token⟩) :
    TableStep E a R w (w.failOp E v op error cause).2 where
  safe := safe
  mirrored hm := hm.mono (fun _ _ here => here)
    (setOp_deadline (OperationState.selectFailure_frame _ v _ error cause).2)
  others o _ := by
    refine Interferes.trans (interferes_setOp op fun hop => ?_) (interferes_of_ops rfl)
    subst hop
    exact .one (.failure v error cause)
  spares h p hnames id' entry here hne := by
    obtain ⟨id, token⟩ := p
    refine ⟨here, (setOp_ops w op _ entry.op).trans (if_neg ?_)⟩
    rintro rfl
    have hmem := (h.live id' entry.token entry.op (by simp [holder, here])).1
    have hbound := (h.bound entry.op ⟨id', entry.token⟩).mpr hmem
    rw [named id token hnames] at hbound
    cases hbound
    exact hne rfl

/-! ### One entry -/

/-- A section that changes one entry at most. -/
abbrev Acts (E : SessionConfig) (a : PendingAction) (w w' : Session) : Prop :=
  TableStep E a (EntryStep E a) w w'

theorem named_of_names (hnames : w.names a = some (id, token)) (htoken : e.token = token) :
    Named a w id e.token := by
  intro named h
  rw [hnames] at h
  rw [htoken, ← Option.some.inj h]

theorem unnamed (hnames : w.names a = none) : Named a w id token := by
  intro named h
  rw [hnames] at h
  cases h

theorem pending_of_names
    (hnames : w.names a = (w.ops op).pending.map fun identity => (identity.id, identity.token))
    (h : w.names a = some (id, token)) : (w.ops op).pending = some ⟨id, token⟩ := by
  rw [hnames] at h
  obtain ⟨identity, hbound, heq⟩ := Option.map_eq_some_iff.mp h
  cases heq
  exact hbound

theorem matchingEntry_eq_some :
    w.matchingEntry id token = some entry ↔ w.entryAt id = some entry ∧ entry.token = token := by
  simp [matchingEntry, Option.filter_eq_some_iff]

theorem bindConnection_step (v : View) (registration : RequestRegistration) (connection : Nat) :
    Acts E (.bindConnection v registration connection) w
      (w.bindConnection v registration connection).2 := by
  unfold bindConnection
  split
  · exact .refl w
  split
  · exact .refl w
  split
  · exact .refl w
  rename_i entry hentry
  obtain ⟨here, htoken⟩ := matchingEntry_eq_some.mp hentry
  split
  · exact .refl w
  let bound := { entry with boundAt := some v.now, connectionId := some connection }
  have hbound : EntryStep E (.bindConnection v registration connection) entry bound :=
    ⟨rfl, rfl, rfl, fun _ => id, .inl ⟨rfl, rfl⟩,
      .inr (.inr ⟨v, registration, connection, rfl, htoken.symm, rfl, rfl⟩)⟩
  have hframe : Frame w (w.setEntry registration.requestId bound) := frame_setEntry here rfl rfl
  exact tableStep_update here (named_of_names rfl htoken) hbound rfl rfl
    (Function.update_eq_self entry.op w.ops).symm id hframe.safe fun _ => .refl _

theorem establish_step (h : establish E entry writtenAt = .ok entry') :
    EntryStep E a entry entry' ∧ entry'.graceDeadline = entry.graceDeadline ∧
      entry'.graceUsed = entry.graceUsed ∧ entry'.connectionId = entry.connectionId ∧
      entry'.boundAt = entry.boundAt := by
  unfold establish at h
  split at h
  · cases h
    exact ⟨.refl E a entry, rfl, rfl, rfl, rfl⟩
  cases hadd : E.add writtenAt entry.responseTimeout with
  | error e =>
    rw [hadd] at h
    cases h
  | ok deadline =>
    rw [hadd] at h
    cases h
    refine ⟨⟨rfl, rfl, rfl, fun d hd => ?_, .inl ⟨rfl, rfl⟩, .inl ⟨rfl, rfl⟩⟩, rfl, rfl, rfl, rfl⟩
    rw [hd]
    rfl

/-- A request that is written has its timing established and may enter its grace window. -/
theorem graced_step (w : Session) (v : View) (registration : RequestRegistration)
    (h : establish E entry writtenAt = .ok entry') :
    EntryStep E (.markWritten v registration writtenAt) entry (w.graced E v entry') := by
  obtain ⟨hstep, hgrace, hused, hconnection, hbound⟩ :=
    establish_step (a := .markWritten v registration writtenAt) h
  unfold graced
  split
  · split
    · rename_i deadline huntil
      obtain ⟨hunused, hopened⟩ := PendingEntry.graceUntil_opened huntil
      exact ⟨hstep.op, hstep.token, hstep.absolute, hstep.timing,
        .inr ⟨hused.symm.trans hunused, rfl, deadline, rfl, v.now, false, rfl, hopened.later,
          hopened.absolute, hopened.window⟩, .inl ⟨hconnection, hbound⟩⟩
    · exact hstep
  · exact hstep

/-- The write of a request leaves its entry where it is, or retires it. -/
theorem selectEntryWritten_cases (v : View) (id : RequestId) (entry : PendingEntry) :
    ∃ s : OperationState, s.responseDeadline = entry.responseDeadline ∧
      ((∃ c, (w.selectEntryWritten E v id entry).2 =
        (((w.setEntry id entry).setOp entry.op s).eraseEntry id).complete c) ∨
      ∃ p, (w.selectEntryWritten E v id entry).2 =
        ((w.setEntry id entry).setOp entry.op s).publish entry.op p) := by
  refine ⟨_, (OperationState.complete_selectWritten_frame (E.control entry.op) v
    ((w.ops entry.op).setResponseDeadline entry.responseDeadline)).2.1, ?_⟩
  unfold selectEntryWritten
  dsimp only
  split
  · exact .inl ⟨_, rfl⟩
  · exact .inr ⟨_, rfl⟩

theorem selectEntryWritten_step (here : w.entryAt id = some entry)
    (named : Named a w id entry.token) (hwrites : a.writes entry.op w) (rel : R entry entry')
    (htoken : entry'.token = entry.token) (hop : entry'.op = entry.op) (v : View) :
    TableStep E a R w (w.selectEntryWritten E v id entry').2 := by
  have hsafe := selectEntryWritten_safe (E := E) here htoken hop v
  have hnot : a.writes entry.op w ≠ false := by simp [hwrites]
  obtain ⟨s, hdeadline, ⟨c, heq⟩ | ⟨p, heq⟩⟩ :=
    selectEntryWritten_cases (E := E) (w := w) v id entry'
  · rw [heq, hop] at hsafe ⊢
    refine tableStep_at none here named (fun _ h => by cases h) (fun id' => ?_)
      (fun op hne => (setOp_ops w entry.op s op).trans (if_neg hne)) (fun _ _ h => h)
      ⟨rfl, rfl⟩ hsafe fun h => absurd h hnot
    refine (entryAt_eraseEntry _ id id').trans ?_
    split
    · rfl
    · rename_i hne
      exact (entryAt_setEntry w id entry' id').trans (if_neg hne)
  · rw [heq, hop] at hsafe ⊢
    exact tableStep_update here named rel hop rfl rfl (fun _ => hdeadline) hsafe
      fun h => absurd h hnot

theorem markWritten_step (v : View) (registration : RequestRegistration) (writtenAt : Nat) :
    Acts E (.markWritten v registration writtenAt) w
      (w.markWritten E v registration writtenAt).2 := by
  unfold markWritten
  split
  · exact .refl w
  split
  · exact .refl w
  split
  · exact .refl w
  rename_i entry hentry _ entry' hestablish
  obtain ⟨here, htoken⟩ := matchingEntry_eq_some.mp hentry
  have hstep := graced_step w v registration hestablish
  exact selectEntryWritten_step here (named_of_names rfl htoken)
    (by simp [PendingAction.writes, hentry]) hstep hstep.token hstep.op v

theorem refreshResponseDeadline_step (v : View) (id : RequestId) (token : Nat) :
    Acts E (.refreshResponseDeadline v id token) w (w.refreshResponseDeadline E v id token) := by
  unfold refreshResponseDeadline
  split
  · exact .refl w
  rename_i entry hentry
  obtain ⟨here, htoken⟩ := matchingEntry_eq_some.mp hentry
  split
  · exact .refl w
  split
  · rename_i deadline huntil
    obtain ⟨hunused, hopened⟩ := PendingEntry.graceUntil_opened huntil
    exact deferEntry_step here (named_of_names rfl htoken)
      (.deferred hunused ⟨v.now, false, rfl, hopened⟩ timeout .expired)
  · exact retire_step here (named_of_names rfl htoken) v _ _

theorem requeue_step (v : View) (registration : RequestRegistration) :
    Acts E (.requeue v registration) w (w.requeue E v registration).2 := by
  unfold requeue
  split
  · exact .refl w
  split
  · exact .refl w
  rename_i entry hentry
  obtain ⟨here, htoken⟩ := matchingEntry_eq_some.mp hentry
  split
  · exact .refl w
  split
  · exact .refl w
  rename_i s hrequeue
  obtain hfalse | ⟨-, -, htrue⟩ :=
    OperationState.requeue_effect (E.control entry.op) v (w.ops entry.op)
  · rw [hfalse] at hrequeue
    cases hrequeue
  rw [htrue] at hrequeue
  cases hrequeue
  let unbound := { entry with connectionId := none, boundAt := none }
  have hunbound : EntryStep E (.requeue v registration) entry unbound :=
    ⟨rfl, rfl, rfl, fun _ => id, .inl ⟨rfl, rfl⟩, .inr (.inl rfl)⟩
  have hframe : Frame w (w.setEntry registration.requestId unbound) :=
    frame_setEntry here rfl rfl
  refine tableStep_update here (named_of_names rfl htoken) hunbound rfl rfl rfl id
    (hframe.safe.trans (frame_setOp _ entry.op _ ?_ ?_).safe) fun hwrites => ?_
  · rfl
  · rfl
  · simp [PendingAction.writes, hentry] at hwrites

theorem prepareTermination_step (v : View) (id : RequestId) (token : Nat) (error : NetError)
    (cause : TaskEndCause) (original : Option OpId) (named : Named a w id token)
    (horiginal : ∀ op, original = some op → ∀ id token, w.names a = some (id, token) →
      (w.ops op).pending = some ⟨id, token⟩)
    (hlate : ∀ op, original = some op → w.matchingEntry id token = none →
      Agreement E w → (w.ops op).result.isSome) :
    TableStep E a R w (w.prepareTermination E v id token error cause original).2 := by
  unfold prepareTermination
  split
  · rename_i entry hentry
    obtain ⟨here, rfl⟩ := matchingEntry_eq_some.mp hentry
    exact retire_step here named v error cause
  · rename_i hnone
    split
    · rename_i op
      exact failOp_step (fun h => failOp_late (hlate op rfl hnone h) v _ _ h) (horiginal op rfl)
    · exact .refl w

theorem named_of_bound
    (hnames : w.names a = (w.ops op).pending.map fun identity => (identity.id, identity.token))
    (hbound : (w.ops op).pending = some identity) : Named a w identity.id identity.token := by
  intro named h
  rw [hnames, hbound] at h
  exact (Option.some.inj h).symm

theorem terminateControl_step (v : View) (op : OpId) (error : NetError) (cause : TaskEndCause) :
    Acts E (.terminateControl v op error cause) w (w.terminateControl E v op error cause).2 := by
  unfold terminateControl
  split
  · rename_i hunbound
    exact failOp_step (failOp_safe (.inl hunbound) v error cause) fun _ _ => pending_of_names rfl
  rename_i identity hbound
  split
  · exact prepareTermination_step v _ _ error cause none (named_of_bound rfl hbound) (by simp)
      (by simp)
  rename_i halive
  exact failOp_step (failOp_safe (.inr (by simpa using halive)) v error cause)
    fun _ _ => pending_of_names rfl

/-- A bound operation whose entry is gone has its result: this is why the queue may retire it
through its control. -/
theorem result_of_missing (h : Agreement E w) (halive : w.alive)
    (hbound : (w.ops op).pending = some identity)
    (hnone : w.matchingEntry identity.id identity.token = none) : (w.ops op).result.isSome := by
  cases hresult : (w.ops op).result with
  | some result => rfl
  | none =>
    have hmem := (h.bound op identity).mp hbound
    have hholder := (h.unfinished _ hmem hresult).resolve_right (by simp [h.reachable halive])
    obtain ⟨entry, hentry, heq⟩ := Option.map_eq_some_iff.mp hholder
    have := matchingEntry_eq_some.mpr ⟨hentry, congrArg Prod.fst heq⟩
    rw [hnone] at this
    cases this

theorem prepareControlTermination_step (v : View) (op : OpId) (error : NetError)
    (cause : TaskEndCause) : Acts E (.prepareControlTermination v op error cause) w
      (w.prepareControlTermination E v op error cause).2 := by
  unfold prepareControlTermination
  split
  · rename_i hunbound
    exact failOp_step (failOp_safe (.inl hunbound) v error cause) fun _ _ => pending_of_names rfl
  rename_i identity hbound
  split
  · rename_i halive
    refine prepareTermination_step v _ _ error cause (some op) (named_of_bound rfl hbound) ?_ ?_
    · rintro op' ⟨⟩ id token
      exact pending_of_names rfl
    · rintro op' ⟨⟩ hnone h
      exact result_of_missing h halive hbound hnone
  · rename_i halive
    exact failOp_step (failOp_safe (.inr (by simpa using halive)) v _ _)
      fun _ _ => pending_of_names rfl

theorem completeResponse_step (v : View) (id : RequestId) (incoming : IncomingMessage) :
    Acts E (.completeResponse v id incoming) w (w.completeResponse E v id incoming).2 := by
  unfold completeResponse
  split
  · exact .refl w
  split
  · exact .refl w
  split
  · exact .refl w
  split
  · exact .refl w
  rename_i entry here
  split
  · exact .refl w
  split
  · exact retire_step here (unnamed rfl) v _ _
  · exact settle_step here (unnamed rfl) v _

theorem lookup_of_erase {d' : Nat} (h : (dispatches.erase d').lookup d = some r) :
    d ≠ d' ∧ dispatches.lookup d = some r := by
  have hne : d ≠ d' := by
    rintro rfl
    rw [AList.lookup_erase] at h
    cases h
  rw [AList.lookup_erase_ne hne] at h
  exact ⟨hne, h⟩

theorem lookup_liveDispatches (h : (liveDispatches dispatches now).lookup d = some r) :
    dispatches.lookup d = some r := by
  have hmem := AList.mem_lookup_iff.mp h
  exact AList.mem_lookup_iff.mpr (List.mem_of_mem_filter hmem)

theorem resolvable_ok {registration : RequestRegistration} {incoming : IncomingMessage}
    {dispatch : Nat} {record : DispatchRecord}
    (h : w.resolvable v registration incoming dispatch = .ok (entry, record)) :
    w.entryAt registration.requestId = some entry ∧ entry.token = registration.token := by
  simp only [resolvable, Fallible.bind_eq_ok, Fallible.ensure_eq_ok, Fallible.required_eq_ok] at h
  obtain ⟨record', -, -, -, -, -, -, -, entry', here, -, htoken, -, -, -, -, -, -, -, -, h⟩ := h
  cases h
  exact ⟨here, htoken⟩

/-- A selected response takes the record of its message along; the deadline of its control may have
moved for it. -/
theorem resolveEntry_step (here : w.entryAt id = some entry) (named : Named a w id entry.token)
    (hframe : Frame w w') (htable : w'.table = w.table)
    (hops : ∀ op, op ≠ entry.op → w'.ops op = w.ops op) (hothers : Interferes E entry.op w w')
    (v : View) (dispatch : Nat) (response : Response) :
    TableStep E a R w (w'.resolveEntry E v id dispatch entry response).2 := by
  have here' : w'.entryAt id = some entry := by rw [entryAt, htable, ← entryAt, here]
  have hsettle : TableStep E .nextDeadline R w' (w'.settle E v id entry response).2 :=
    settle_step here' (unnamed rfl) v response
  refine tableStep_at none here named (fun _ h => by cases h) (fun id' => ?_)
    (fun op hop => ((setOp_ops w' entry.op _ op).trans (if_neg hop)).trans (hops op hop))
    (fun d r h => ?_) ?_ (hframe.safe.trans (hsettle.safe.trans (frame_table _ _ _ _ _).safe))
    fun _ => hothers.trans (hsettle.others entry.op rfl)
  · refine (entryAt_eraseEntry w' id id').trans ?_
    rw [entryAt, entryAt, htable]
  · rw [← htable]
    exact (lookup_of_erase h).2
  · rw [← htable]
    exact ⟨rfl, rfl⟩

theorem resolve_step (v : View) (registration : RequestRegistration) (incoming : IncomingMessage) :
    Acts E (.resolve v registration incoming) w (w.resolve E v registration incoming).2 := by
  unfold resolve
  split
  · exact .refl w
  split
  · exact .refl w
  split
  · exact .refl w
  split
  · exact .refl w
  split
  · exact .refl w
  rename_i entry record hresolvable
  obtain ⟨here, htoken⟩ := resolvable_ok hresolvable
  have hnamed := named_of_names (w := w) (a := .resolve v registration incoming) rfl htoken
  split
  · split
    · exact .refl w
    · rename_i deadline _
      have hframe : Frame w (w.setOp entry.op
          ((w.ops entry.op).setResponseDeadline deadline)) := frame_setOp _ _ _ rfl rfl
      refine resolveEntry_step here hnamed hframe rfl
        (fun op hop => (setOp_ops w entry.op _ op).trans (if_neg hop))
        (interferes_setOp entry.op fun _ => .one (.deadline deadline)) v _ _
  · exact resolveEntry_step here hnamed {} rfl (fun _ _ => rfl) (.refl w) v _ _

theorem discardDispatch_step (incoming : IncomingMessage) :
    Acts E (.discardDispatch incoming) w (w.discardDispatch E incoming).2 := by
  unfold discardDispatch
  repeat' split
  all_goals first
    | exact .refl w
    | exact tableStep_frame w _ _ _ fun _ _ h => (lookup_of_erase h).2

theorem selectWritten_step (v : View) (op : OpId) :
    Acts E (.selectWritten v op) w (w.perform E (.selectWritten v op)) := by
  rw [perform]
  split
  · exact .refl w
  rename_i hunbound
  obtain ⟨hpending, hkept, hresult⟩ :=
    OperationState.complete_selectWritten_frame (E.control op) v (w.ops op)
  refine {
    safe := (frame_publish _ hpending (.inr (.inl (by simpa using hunbound))) ?_).safe
    mirrored := fun hm => hm.mono (fun _ _ here => here) (setOp_deadline hkept)
    others := fun o hwrites => ?_
    spares := nofun }
  · intro result hset
    rcases hresult with hsame | hnone
    · rw [hsame, hset]
    · rw [hnone] at hset
      cases hset
  · exact (interferes_setOp_ne (by simpa [PendingAction.writes] using hwrites) _).trans
      (interferes_of_ops rfl)

/-! ### Loops over entries -/

abbrev Loop (E : SessionConfig) (a : PendingAction) : Session → Session → Prop :=
  Relation.ReflTransGen (TableStep E a (Deferred E a))

theorem Loop.acts (h : Loop E a w w') (hquiet : ∀ o w, a.writes o w = false)
    (hnames : ∀ w, names w a = none) : Acts E a w w' := by
  have hstep : TableStep E a (Deferred E a) w w' := by
    induction h with
    | refl => exact .refl w
    | tail _ hstep ih =>
      exact {
        safe := ih.safe.trans hstep.safe
        entries := fun id e'' here => by
          obtain ⟨e', hbetween, hlast⟩ := hstep.entries id e'' here
          obtain ⟨e, hentry, hfirst⟩ := ih.entries id e' hbetween
          have hlast : Deferred E a e' e'' := hlast.elim .inl fun h => h
          have hfirst : Deferred E a e e' := hfirst.elim .inl fun h => h
          exact ⟨e, hentry, .inr (hfirst.trans hlast)⟩
        mirrored := fun hm => hstep.mirrored (ih.mirrored hm)
        records := fun d r hr => ih.records d r (hstep.records d r hr)
        nextToken := hstep.nextToken.trans ih.nextToken
        nextDispatch := hstep.nextDispatch.trans ih.nextDispatch
        others := fun o _ => (ih.others o (hquiet o _)).trans (hstep.others o (hquiet o _))
        spares := fun _ _ hnamed => by simp [hnames] at hnamed }
  exact { hstep with
    entries := fun id e' here =>
      have ⟨e, hentry, hrel⟩ := hstep.entries id e' here
      ⟨e, hentry, hrel.imp_right Deferred.step⟩ }

theorem forEntries_loop {part : Session → RequestId → PendingEntry → Session}
    (hpart : ∀ (w : Session) (id : RequestId) (entry : PendingEntry),
      w.entryAt id = some entry → TableStep E a (Deferred E a) w (part w id entry)) :
    ∀ (ids : List RequestId) (w : Session), Loop E a w (w.forEntries part ids)
  | [], _ => .refl
  | id :: ids, w => by
    rw [forEntries, List.foldl_cons]
    cases here : w.entryAt id with
    | some entry => exact .head (hpart w id entry here) (forEntries_loop hpart ids _)
    | none => exact forEntries_loop hpart ids w

theorem failConnection_loop (v : View) (connection : Nat) (error : NetError) (allocated : Bool) :
    Loop E (.failConnection v connection error allocated) w
      (w.failConnection E v connection error allocated).2 := by
  unfold failConnection
  dsimp only
  split
  · exact .single (tableStep_frame w _ _ _ fun _ _ => id)
  refine .head (tableStep_frame w _ _ _ fun _ _ => id)
    (forEntries_loop (fun w id entry here => ?_) _ _)
  unfold failEntry
  split
  · exact .refl w
  split
  · rename_i deadline huntil
    split at huntil
    · cases huntil
    obtain ⟨hunused, hopened⟩ := PendingEntry.graceUntil_opened huntil
    exact deferEntry_step here (unnamed rfl) (.inr ⟨hunused, deadline, error, .disconnected,
      ⟨v.now, true, rfl, hopened⟩, rfl⟩)
  · exact retire_step here (unnamed rfl) v _ _

theorem close_loop (v : View) (error : NetError) (cause : TaskEndCause) :
    Loop E (.close v error cause) w (w.close E v error cause) :=
  .head (tableStep_frame w _ _ _ fun _ _ => id)
    (.tail (forEntries_loop (fun _ _ _ here => retire_step here (unnamed rfl) v _ _) _ _)
      (tableStep_frame _ ∅ _ _ nofun))

theorem closeDisconnected_loop (v : View) (error : NetError) (allocated : Bool) :
    Loop E (.closeDisconnected v error allocated) w
      (w.closeDisconnected E v error allocated).2 := by
  unfold closeDisconnected
  split
  · exact .refl
  refine .head (tableStep_frame w _ _ _ fun _ _ => id)
    (.tail (forEntries_loop (fun _ _ _ here => retire_step here (unnamed rfl) v _ _) _ _)
      (tableStep_frame _ _ _ _ fun d r h => ?_))
  split at h
  · cases h
  · exact h

theorem expireDue_loop (v : View) (allocated : Bool) :
    Loop E (.expireDue v allocated) w (w.expireDue E v allocated).2 := by
  unfold expireDue
  dsimp only
  split
  · exact .single (tableStep_frame w _ _ _ fun _ _ => lookup_liveDispatches)
  refine .head (tableStep_frame w _ _ _ fun _ _ => lookup_liveDispatches)
    (forEntries_loop (fun w id entry here => ?_) _ _)
  unfold expireEntry
  split
  · rename_i deadline huntil
    split at huntil
    · cases huntil
    obtain ⟨hunused, hopened⟩ := PendingEntry.graceUntil_opened huntil
    exact deferEntry_step here (unnamed rfl) (.inr ⟨hunused, deadline, timeout, .expired,
      ⟨v.now, false, rfl, hopened⟩, rfl⟩)
  · exact retire_step here (unnamed rfl) v _ _

/-! ### Any section -/

structure Fresh (w w' : Session) (e : PendingEntry) : Prop where
  later : w.table.nextToken < e.token
  last : e.token = w'.table.nextToken
  grace : e.graceDeadline = none
  unused : e.graceUsed = false
  connection : e.connectionId = none

/-- The record a `register_dispatch` of the state `w` has made. -/
structure Dispatched (E : SessionConfig) (w : Session) (a : PendingAction) (d : Nat)
    (r : DispatchRecord) (v : View) (incoming : IncomingMessage) (allocated : Bool) : Prop where
  act : a = .registerDispatch v incoming allocated
  answer : (w.registerDispatch E v incoming allocated).1 = .ok (some d)
  later : w.table.nextDispatch < d
  connection : r.connectionId = incoming.connectionId
  watermark : r.tokenWatermark = w.table.nextToken
  received : r.receivedAt = v.now
  expires : r.expiresAt ≤ E.instantMax

theorem add_le {instant duration sum : Nat} (h : E.add instant duration = .ok sum) :
    sum ≤ E.instantMax := by
  unfold SessionConfig.add at h
  split at h
  · rename_i hsum
    cases h
    obtain ⟨rfl, hle⟩ := Checked.checkedAdd_eq_some.mp hsum
    exact hle
  · cases h

theorem earliest_le {left b : Nat} {right : Option Nat} (h : earliest (some left) right = some b) :
    b ≤ left := by
  cases right with
  | none => exact Nat.le_of_eq (Option.some.inj h).symm
  | some right =>
    rw [← Option.some.inj h]
    exact Nat.min_le_left left right

theorem dispatchExpiry_le {expiry : Nat} :
    ∀ (entries : List PendingEntry), dispatchExpiry E now entries = .ok (some expiry) →
      expiry ≤ E.instantMax
  | [], h => by cases h
  | entry :: rest, h => by
    have hlast : ∃ base extended last, E.add base E.grace = .ok extended ∧
        dispatchExpiry E now rest = .ok last ∧
        ((earliest (some extended) entry.absoluteDeadline).filter (now < ·)).elim last
          (fun expiry => some (last.elim expiry (max expiry))) = some expiry := by
      rw [dispatchExpiry] at h
      split at h
      all_goals
        simp only [Fallible.bind_eq_ok] at h
        obtain ⟨base, -, extended, hextended, last, hlast, h⟩ := h
        refine ⟨base, extended, last, hextended, hlast, ?_⟩
        rw [← Except.ok.inj h]
        split <;> simp [*]
    obtain ⟨base, extended, last, hextended, hrest, h⟩ := hlast
    cases hown : (earliest (some extended) entry.absoluteDeadline).filter (now < ·) with
    | some own =>
      rw [hown] at h
      have howned := Nat.le_trans (earliest_le (Option.filter_eq_some_iff.mp hown).1)
        (add_le hextended)
      cases last with
      | none =>
        cases h
        exact howned
      | some last =>
        cases h
        exact Nat.max_le.mpr ⟨howned, dispatchExpiry_le rest hrest⟩
    | none =>
      rw [hown] at h
      exact dispatchExpiry_le rest (h ▸ hrest)

/-- A section keeps the agreement, says where entries and records come from, moves a control it does
not write as others may, and spares what it does not name. One section only writes a response
deadline from outside. -/
structure Does (E : SessionConfig) (a : PendingAction) (w w' : Session) : Prop where
  safe : Safe E w w'
  entries : ∀ id e', w'.entryAt id = some e' →
    (∃ e, w.entryAt id = some e ∧ EntryStep E a e e') ∨ w.entryAt id = none ∧ Fresh w w' e' := by
    exact fun _ e' here => .inl ⟨e', here, .refl _ _ e'⟩
  mirrored : a.setsDeadline = false → Agreement E w → Mirrored w → Mirrored w'
  records : ∀ d r, w'.table.dispatches.lookup d = some r →
    w.table.dispatches.lookup d = some r ∨ d = w'.table.nextDispatch ∧
      ∃ v incoming allocated, Dispatched E w a d r v incoming allocated := by
    exact fun _ _ here => .inl here
  nextToken : w.table.nextToken ≤ w'.table.nextToken := by exact Nat.le_refl _
  nextDispatch : w.table.nextDispatch ≤ w'.table.nextDispatch := by exact Nat.le_refl _
  others : ∀ o, a.writes o w = false → Interferes E o w w'
  spares : Agreement E w → ∀ named, w.names a = some named → Spares w w' named.1 named.2

theorem TableStep.does (h : Acts E a w w') : Does E a w w' where
  safe := h.safe
  entries id e' here := by
    obtain ⟨e, hentry, rfl | hstep⟩ := h.entries id e' here
    · exact .inl ⟨e', hentry, .refl E a e'⟩
    · exact .inl ⟨e, hentry, hstep⟩
  mirrored _ _ := h.mirrored
  records d r here := .inl (h.records d r here)
  nextToken := Nat.le_of_eq h.nextToken.symm
  nextDispatch := Nat.le_of_eq h.nextDispatch.symm
  others := h.others
  spares := h.spares

theorem registerDispatch_does (v : View) (incoming : IncomingMessage) (allocated : Bool) :
    Does E (.registerDispatch v incoming allocated) w
      (w.registerDispatch E v incoming allocated).2 := by
  have hkept : Does E (.registerDispatch v incoming allocated) w
      { w with table := { w.table with dispatches := liveDispatches w.table.dispatches v.now } } :=
    (tableStep_frame w _ _ _ fun _ _ => lookup_liveDispatches).does
  generalize hanswer : w.registerDispatch E v incoming allocated = answer
  have hcall := hanswer
  unfold registerDispatch at hanswer
  dsimp only at hanswer
  repeat' split at hanswer
  all_goals subst hanswer
  all_goals first
    | exact (TableStep.refl w).does
    | exact hkept
    | skip
  rename_i expiresAt hexpiry _ _ _ id hid
  obtain ⟨rfl, -⟩ := Checked.checkedAdd_eq_some.mp hid
  refine {
    safe := (frame_table w _ _ _ _).safe
    mirrored := fun _ _ hm => hm.mono (fun _ _ here => here) fun _ => rfl
    records := fun d' r' h => ?_
    nextDispatch := Nat.le_succ _
    others := fun _ _ => interferes_of_ops rfl
    spares := fun _ _ hnames => by cases hnames }
  by_cases hd : d' = w.table.nextDispatch + 1
  · subst hd
    obtain rfl := Option.some.inj ((AList.lookup_insert _).symm.trans h)
    exact .inr ⟨rfl, v, incoming, allocated, rfl, by rw [hcall], Nat.lt_succ_self _, rfl, rfl, rfl,
      dispatchExpiry_le _ hexpiry⟩
  · exact .inl (lookup_liveDispatches ((AList.lookup_insert_ne hd).symm.trans h))

theorem register_does (halive : w.alive) (v : View) (op : OpId) (id : RequestId)
    (options : RequestOptions)
    (allocated : Bool) (htracked : (E.control op).tracked) :
    Does E (.register v op id options allocated) w (w.register E v op id options allocated).2 := by
  have hsafe := register_safe halive htracked v id options allocated
  unfold register at hsafe ⊢
  cases hregistration : w.registration E v op id options allocated with
  | error e => exact (TableStep.refl w).does
  | ok registered =>
  obtain ⟨token, deadline, bound⟩ := registered
  rw [hregistration] at hsafe
  obtain ⟨hfree, hactive, hunbound, hlater, rfl⟩ := registration_ok hregistration
  let entry : PendingEntry :=
    { op, token
      timing := deadline
      responseTimeout := options.responseTimeout
      timeoutOrigin := options.responseTimeoutOrigin
      absoluteDeadline := options.sendDeadline }
  refine {
    safe := hsafe
    entries := fun id' e' here => ?_
    mirrored := fun _ h hm => ?_
    nextToken := Nat.le_of_lt hlater
    others := fun o _ => ?_
    spares := nofun }
  · replace here := (entryAt_setEntry w id entry id').symm.trans here
    split at here
    · rename_i hid
      cases here
      exact .inr ⟨by rw [hid, hfree], hlater, rfl, rfl, rfl, rfl⟩
    · exact .inl ⟨e', here, .refl _ _ e'⟩
  · refine hm.set (fun _ he => congrArg PendingEntry.op (Option.mem_some.mp he).symm)
      (fun id' other _ hother hop => ?_) (fun id' => entryAt_setEntry w id entry id')
      (fun _ hop => setOp_deadline_ne _ hop) fun _ he => ?_
    -- The control of a new entry was free; those of the others are bound.
    · have hmem := (h.live id' other.token other.op (by simp [holder, hother])).1
      have hbound := (h.bound other.op ⟨id', other.token⟩).mpr hmem
      rw [hop, hunbound] at hbound
      cases hbound
    · rw [← Option.mem_some.mp he]
      exact congrArg OperationState.responseDeadline ((setOp_ops w op _ op).trans (if_pos rfl))
  · refine Interferes.trans (interferes_setOp op fun hop => ?_) (interferes_of_ops rfl)
    subst hop
    exact (Others.one (.bind _ hactive)).trans (.one (.deadline deadline))

section

variable (w : Session) (a : PendingAction)

/-- Every section keeps the agreement and has one of these effects. -/
theorem step_does : Does E a w (w.step E a) := by
  unfold step
  split
  · exact (TableStep.refl w).does
  rename_i hreach
  cases a with
  | register v op id options allocated =>
    rw [perform]
    split
    · rename_i htracked
      exact register_does (by simpa [PendingAction.entersTable] using hreach) v op id options
        allocated htracked
    · exact (TableStep.refl w).does
  | activateConnection connection =>
    rw [perform, activateConnection]
    split
    · exact (TableStep.refl w).does
    · exact (tableStep_frame w _ _ _ fun _ _ => id).does
  | bindConnection v registration connection =>
    exact (bindConnection_step v registration connection).does
  | markWritten v registration writtenAt =>
    exact (markWritten_step v registration writtenAt).does
  | refreshResponseDeadline v id token => exact (refreshResponseDeadline_step v id token).does
  | requeue v registration => exact (requeue_step v registration).does
  | terminate v id token error cause =>
    have hnamed : Named (.terminate v id token error cause) w id token := fun _ h =>
      (Option.some.inj h).symm
    exact (prepareTermination_step v id token error cause none hnamed (by simp) (by simp)).does
  | completeResponse v id incoming => exact (completeResponse_step v id incoming).does
  | registerDispatch v incoming allocated => exact registerDispatch_does v incoming allocated
  | resolve v registration incoming => exact (resolve_step v registration incoming).does
  | discardDispatch incoming => exact (discardDispatch_step incoming).does
  | failConnection v connection error allocated =>
    exact ((failConnection_loop v connection error allocated).acts (fun _ _ => rfl)
      fun _ => rfl).does
  | close v error cause =>
    exact ((close_loop v error cause).acts (fun _ _ => rfl) fun _ => rfl).does
  | closeDisconnected v error allocated =>
    exact ((closeDisconnected_loop v error allocated).acts (fun _ _ => rfl) fun _ => rfl).does
  | nextDeadline =>
    rw [perform, nextDeadline]
    split
    · exact (tableStep_frame w ∅ _ _ nofun).does
    · exact (TableStep.refl w).does
  | expireDue v allocated =>
    exact ((expireDue_loop v allocated).acts (fun _ _ => rfl) fun _ => rfl).does
  | dropBegin =>
    exact TableStep.does {
      safe := dropBegin_safe (by simpa [PendingAction.entersTable] using hreach)
      entries := fun _ _ here => by cases here
      mirrored := fun hm => hm.mono (fun _ _ here => by cases here) fun _ => rfl
      spares := nofun }
  | dropEntry v =>
    have hsafe := dropEntry_safe (E := E) (w := w) v
    rw [perform]
    unfold dropEntry at hsafe ⊢
    cases hdropping : w.dropping with
    | nil => exact (TableStep.refl w).does
    | cons taken rest =>
      obtain ⟨registered, entry⟩ := taken
      rw [hdropping] at hsafe
      have hkept := (OperationState.selectFailure_frame (E.control entry.op) v (w.ops entry.op)
        (NetError.new .engineDropped) .shutdown).2
      refine TableStep.does {
        safe := hsafe
        mirrored := fun hm => hm.mono (fun _ _ here => here) (setOp_deadline hkept)
        others := fun o _ => ?_
        spares := nofun }
      refine Interferes.trans (interferes_setOp entry.op fun hop => ?_) (interferes_of_ops rfl)
      subst hop
      exact .one (.failure v _ .shutdown)
  | dispatch i =>
    have hsafe := dispatch_safe (E := E) (w := w) i
    rw [perform]
    unfold dispatch at hsafe ⊢
    cases hget : w.completions[i]? with
    | none => exact (TableStep.refl w).does
    | some c =>
      rw [hget] at hsafe
      exact TableStep.does { safe := hsafe }
  | terminateControl v op error cause => exact (terminateControl_step v op error cause).does
  | prepareControlTermination v op error cause =>
    exact (prepareControlTermination_step v op error cause).does
  | control op sec =>
    obtain ⟨hresult, hpending, hkept⟩ :=
      OperationState.perform_frame (E.control op) (w.ops op) sec
    have hsafe := (frame_setOp w op _ hresult hpending).safe (E := E)
    have hothers : ∀ o, (PendingAction.control op sec).writes o w = false →
        Interferes E o w (w.setOp op ((w.ops op).perform (E.control op) sec)) := fun o hwrites =>
      interferes_setOp_ne (by simpa [PendingAction.writes] using hwrites) _
    by_cases hsets : ∃ deadline, sec = .setResponseDeadline deadline
    · obtain ⟨deadline, rfl⟩ := hsets
      exact {
        safe := hsafe
        mirrored := nofun
        others := hothers
        spares := nofun }
    have hdeadline := hkept fun deadline h => hsets ⟨deadline, h⟩
    exact TableStep.does {
      safe := hsafe
      mirrored := fun hm => hm.mono (fun _ _ here => here) (setOp_deadline hdeadline)
      others := hothers
      spares := nofun }
  | selectWritten v op => exact (selectWritten_step v op).does

/-- **Every section keeps the agreement and every result.** -/
theorem step_safe : Safe E w (w.step E a) :=
  (step_does w a).safe

/-- **Nobody but its writer does anything else to an operation.** -/
theorem step_others (hwrites : a.writes o w = false) : Interferes E o w (w.step E a) :=
  (step_does w a).others o hwrites

end

/-! ## Entries and records through a run -/

theorem step_entry (here : (w.step E a).entryAt id = some e') :
    (∃ e, w.entryAt id = some e ∧ EntryStep E a e e') ∨
      w.entryAt id = none ∧ Fresh w (w.step E a) e' :=
  (step_does w a).entries id e' here

theorem step_record (here : (w.step E a).table.dispatches.lookup d = some r) :
    w.table.dispatches.lookup d = some r ∨ d = (w.step E a).table.nextDispatch ∧
      ∃ v incoming allocated, Dispatched E w a d r v incoming allocated :=
  (step_does w a).records d r here

/-- Tokens and numbers that are in use have been given out. -/
structure Bounded (w : Session) : Prop where
  tokens : ∀ id e, w.entryAt id = some e → e.token ≤ w.table.nextToken
  records : ∀ d r, w.table.dispatches.lookup d = some r → d ≤ w.table.nextDispatch

theorem bounded_step (w : Session) (a : PendingAction) (h : Bounded w) : Bounded (w.step E a) := by
  obtain ⟨htoken, hdispatch⟩ := And.intro (step_does (E := E) w a).nextToken
    (step_does (E := E) w a).nextDispatch
  refine ⟨fun id e' here => ?_, fun d r here => ?_⟩
  · obtain ⟨e, hentry, hstep⟩ | ⟨-, hfresh⟩ := step_entry here
    · rw [hstep.token]
      exact Nat.le_trans (h.tokens id e hentry) htoken
    · exact Nat.le_of_eq hfresh.last
  · obtain hold | ⟨hlast, -⟩ := step_record here
    · exact Nat.le_trans (h.records d r hold) hdispatch
    · exact Nat.le_of_eq hlast

def Gone (id : RequestId) (token : Nat) (w : Session) : Prop :=
  token ≤ w.table.nextToken ∧ ∀ e, w.entryAt id = some e → e.token ≠ token

theorem gone_step (w : Session) (a : PendingAction) (h : Gone id token w) :
    Gone id token (w.step E a) := by
  refine ⟨Nat.le_trans h.1 (step_does w a).nextToken, fun e' here => ?_⟩
  obtain ⟨e, hentry, hstep⟩ | ⟨-, hfresh⟩ := step_entry here
  · rw [hstep.token]
    exact h.2 e hentry
  · exact Nat.ne_of_gt (Nat.lt_of_le_of_lt h.1 hfresh.later)

/-- The number has been given out and has no record any more. -/
def Spent (d : Nat) (w : Session) : Prop :=
  d ≤ w.table.nextDispatch ∧ w.table.dispatches.lookup d = none

theorem spent_step (w : Session) (a : PendingAction) (h : Spent d w) : Spent d (w.step E a) := by
  refine ⟨Nat.le_trans h.1 (step_does w a).nextDispatch, ?_⟩
  cases hrecord : (w.step E a).table.dispatches.lookup d with
  | none => rfl
  | some r =>
    obtain hold | ⟨-, v, incoming, allocated, hnew⟩ := step_record hrecord
    · rw [h.2] at hold
      cases hold
    · exact absurd hnew.later (Nat.not_lt_of_le h.1)

end Session

end OpenNet.Ws
