import Mathlib.Data.List.Perm.Basic
import OpenNet.Ws.NativePending
import OpenNet.Ws.OperationSections

/-!
# Who owns a pending request

A registration is owned by the table, by the `Drop` of the table, by a completion on its way,
or by the oneshot that was sent: by exactly one of them, and by one of the first two exactly
while its control has no result.
-/

namespace OpenNet.Ws.Session

variable (E : SessionConfig)

/-! ## The invariant -/

def holder (w : Session) (id : RequestId) : Option (Nat × OpId) :=
  (w.entryAt id).map fun entry => (entry.token, entry.op)

/-- Owners: the table, `Drop`, a completion, the oneshot sent. -/
def owners (w : Session) (r : Registered) : Nat :=
  (if w.holder r.id = some (r.token, r.op) then 1 else 0) +
    (w.dropping.map Prod.fst).count r + (w.completions.map (·.registered)).count r +
    (w.sent.map Prod.fst).count r

/-- The value a oneshot is sent, against the result of the control. -/
def Answers (result : Option OperationResult) : Except NetError Response → Prop
  | .ok _ => result = some (.ok .responseReceived)
  | .error error => result = some (.error error)

/-- The table, the controls and the oneshots agree. -/
structure Agreement (w : Session) : Prop where
  tracked : ∀ r ∈ w.registered, (E.control r.op).tracked
  /-- A control is bound to the registration it was given, and only to that. -/
  bound : ∀ op identity, (w.ops op).pending = some identity ↔
    ⟨identity.id, identity.token, op⟩ ∈ w.registered
  token_le : ∀ r ∈ w.registered, r.token ≤ w.table.nextToken
  token_inj : ∀ r ∈ w.registered, ∀ r' ∈ w.registered, r.token = r'.token → r = r'
  /-- An entry belongs to a registration whose control has no result yet. -/
  live : ∀ id token op, w.holder id = some (token, op) →
    ⟨id, token, op⟩ ∈ w.registered ∧ (w.ops op).result = none
  /-- Nobody but the table selects a success for a request. -/
  taken : ∀ p ∈ w.dropping, p.1 ∈ w.registered ∧ p.1.op = p.2.op ∧
    ∀ success, (w.ops p.2.op).result ≠ some (.ok success)
  unfinished : ∀ r ∈ w.registered, (w.ops r.op).result = none →
    w.holder r.id = some (r.token, r.op) ∨ r ∈ w.dropping.map Prod.fst
  owned : ∀ r ∈ w.registered, w.owners r = 1
  completing : ∀ c ∈ w.completions, c.registered ∈ w.registered ∧
    Answers (w.ops c.registered.op).result c.response
  completed : ∀ p ∈ w.sent, p.1 ∈ w.registered ∧ Answers (w.ops p.1.op).result p.2
  /-- Either the table or `Drop` has the entries. -/
  reachable : w.alive → w.dropping = []
  unreachable : w.alive = false → ∀ id, w.holder id = none

/-- Results that are set stay. -/
def Progress (w w' : Session) : Prop :=
  ∀ op result, (w.ops op).result = some result → (w'.ops op).result = some result

/-- What a section has to do: keep the agreement, and every result. -/
def Safe (w w' : Session) : Prop := Agreement E w → Agreement E w' ∧ Progress w w'

variable {E} {w w' w'' : Session}

variable {op : OpId} {s : OperationState} {id : RequestId} {entry : PendingEntry}

variable {response : Except NetError Response} {entry' : PendingEntry} {error : NetError}

theorem Answers.mono (h : Progress w w') (ha : Answers (w.ops op).result response) :
    Answers (w'.ops op).result response := by
  cases response with
  | ok | error => exact h op _ ha

theorem Answers.isSome {result : Option OperationResult} (h : Answers result response) :
    result.isSome := by
  cases response <;> simp_all [Answers]

theorem Safe.refl (w : Session) : Safe E w w := fun h => ⟨h, fun _ _ => id⟩

theorem Safe.trans (h₁ : Safe E w w') (h₂ : Safe E w' w'') : Safe E w w'' := fun h =>
  have h' := h₁ h
  have h'' := h₂ h'.1
  ⟨h''.1, fun op result hr => h''.2 op result (h'.2 op result hr)⟩

namespace Agreement

theorem op_inj (h : Agreement E w) {r r' : Registered} (hr : r ∈ w.registered)
    (hr' : r' ∈ w.registered) (hop : r.op = r'.op) : r = r' := by
  have h₁ : (w.ops r.op).pending = some ⟨r.id, r.token⟩ := (h.bound r.op ⟨r.id, r.token⟩).mpr hr
  have h₂ : (w.ops r'.op).pending = some ⟨r'.id, r'.token⟩ :=
    (h.bound r'.op ⟨r'.id, r'.token⟩).mpr hr'
  rw [hop, h₂] at h₁
  cases r
  cases r'
  simp_all

theorem alive_of_holder (h : Agreement E w) {id : RequestId} {x : Nat × OpId}
    (hx : w.holder id = some x) : w.alive := by
  by_contra halive
  rw [Bool.not_eq_true] at halive
  rw [h.unreachable halive id] at hx
  cases hx

end Agreement

/-- Bindings, tokens, registrations and sent values stay. -/
structure Shares (w w' : Session) : Prop where
  progress : Progress w w' := by exact fun _ _ h => h
  pending : ∀ op, (w'.ops op).pending = (w.ops op).pending := by exact fun _ => rfl
  nextToken : w'.table.nextToken = w.table.nextToken := by rfl
  alive : w'.alive = w.alive := by rfl
  sent : w'.sent = w.sent := by rfl
  registered : w'.registered = w.registered := by rfl

namespace Shares

/-- The agreement after a section, from what the section does to entries and completions. -/
theorem agreement (m : Shares w w') (h : Agreement E w)
    (live : ∀ id token op, w'.holder id = some (token, op) →
      ⟨id, token, op⟩ ∈ w.registered ∧ (w'.ops op).result = none)
    (taken : ∀ p ∈ w'.dropping, p.1 ∈ w.registered ∧ p.1.op = p.2.op ∧
      ∀ success, (w'.ops p.2.op).result ≠ some (.ok success))
    (unfinished : ∀ r ∈ w.registered, (w'.ops r.op).result = none →
      w'.holder r.id = some (r.token, r.op) ∨ r ∈ w'.dropping.map Prod.fst)
    (owned : ∀ r ∈ w.registered, w'.owners r = 1)
    (completing : ∀ c ∈ w'.completions, c ∈ w.completions ∨
      c.registered ∈ w.registered ∧ Answers (w'.ops c.registered.op).result c.response)
    (reachable : w.alive → w'.dropping = [])
    (unreachable : w.alive = false → ∀ id, w'.holder id = none) : Agreement E w' where
  tracked := m.registered ▸ h.tracked
  bound op identity := by
    rw [m.pending, m.registered]
    exact h.bound op identity
  token_le := by
    rw [m.registered, m.nextToken]
    exact h.token_le
  token_inj := by
    rw [m.registered]
    exact h.token_inj
  live := by rwa [m.registered]
  taken := by rwa [m.registered]
  unfinished := by rwa [m.registered]
  owned := by rwa [m.registered]
  completing c hc := by
    rw [m.registered]
    rcases completing c hc with hold | hnew
    · exact ⟨(h.completing c hold).1, (h.completing c hold).2.mono m.progress⟩
    · exact hnew
  completed p hp := by
    rw [m.sent] at hp
    rw [m.registered]
    exact ⟨(h.completed p hp).1, (h.completed p hp).2.mono m.progress⟩
  reachable := by rwa [m.alive]
  unreachable := by rwa [m.alive]

end Shares

/-! ## Sections that change no ownership -/

/-- No ownership changes, and a result only without an entry: no request, or its table gone and no
success. -/
structure Frame (w w' : Session) : Prop extends Shares w w' where
  result : ∀ op, (w'.ops op).result = (w.ops op).result ∨ (w.ops op).pending = none ∨
    w.alive = false ∧ ∀ success, (w.ops op).result ≠ some (.ok success) →
      (w'.ops op).result ≠ some (.ok success) := by exact fun _ => .inl rfl
  holder : ∀ id, w'.holder id = w.holder id := by exact fun _ => rfl
  dropping : w'.dropping = w.dropping := by rfl
  completions : w'.completions = w.completions := by rfl

theorem Frame.result_of_holder (f : Frame w w') (h : Agreement E w) {id : RequestId} {token : Nat}
    (hholder : w.holder id = some (token, op)) : (w'.ops op).result = (w.ops op).result := by
  rcases f.result op with hsame | hunbound | ⟨hdead, -⟩
  · exact hsame
  · rw [(h.bound op ⟨id, token⟩).mpr (h.live id token op hholder).1] at hunbound
    cases hunbound
  · rw [h.unreachable hdead id] at hholder
    cases hholder

theorem Frame.safe (f : Frame w w') : Safe E w w' := by
  intro h
  refine ⟨?_, f.progress⟩
  refine f.agreement h (fun id token op hholder => ?_) (fun p hp => ?_) (fun r hr hresult => ?_)
    (fun r hr => ?_) (fun c hc => .inl (f.completions ▸ hc)) (f.dropping ▸ h.reachable)
    (fun halive id => (f.holder id).trans (h.unreachable halive id))
  · rw [f.holder] at hholder
    rw [f.result_of_holder h hholder]
    exact h.live id token op hholder
  · rw [f.dropping] at hp
    obtain ⟨hmem, hop, hsuccess⟩ := h.taken p hp
    refine ⟨hmem, hop, fun success => ?_⟩
    rcases f.result p.2.op with hsame | hunbound | ⟨-, hfailed⟩
    · rw [hsame]
      exact hsuccess success
    · have hbound := (h.bound p.1.op ⟨p.1.id, p.1.token⟩).mpr hmem
      rw [hop, hunbound] at hbound
      cases hbound
    · exact hfailed success (hsuccess success)
  · rw [f.holder, f.dropping]
    refine h.unfinished r hr ?_
    cases hold : (w.ops r.op).result with
    | none => rfl
    | some result =>
      rw [f.progress _ _ hold] at hresult
      cases hresult
  · rw [owners, f.holder, f.dropping, f.completions, f.sent]
    exact h.owned r hr

theorem setOp_ops (w : Session) (op : OpId) (s : OperationState) (op' : OpId) :
    (w.setOp op s).ops op' = if op' = op then s else w.ops op' := by
  by_cases hop : op' = op
  · subst hop
    simp [setOp]
  · simp [setOp, hop]

theorem setOp_pending (h : s.pending = (w.ops op).pending) (op' : OpId) :
    ((w.setOp op s).ops op').pending = (w.ops op').pending := by
  rw [setOp_ops]
  split
  · rename_i hop
    rw [hop, h]
  · rfl

theorem frame_publish (p : OperationPublication) (hpending : s.pending = (w.ops op).pending)
    (hresult : s.result = (w.ops op).result ∨ (w.ops op).pending = none ∨
      w.alive = false ∧ ∀ success, (w.ops op).result ≠ some (.ok success) →
        s.result ≠ some (.ok success))
    (hkept : ∀ result, (w.ops op).result = some result → s.result = some result) :
    Frame w ((w.setOp op s).publish op p) where
  progress op' result hset := by
    show ((w.setOp op s).ops op').result = _
    rw [setOp_ops]
    split
    · rename_i hop
      exact hkept result (hop ▸ hset)
    · exact hset
  pending := setOp_pending hpending
  result op' := by
    show ((w.setOp op s).ops op').result = _ ∨ _ ∨ _ ∧
      ∀ success, _ → ((w.setOp op s).ops op').result ≠ _
    rw [setOp_ops]
    split
    · rename_i hop
      rwa [hop]
    · exact .inl rfl

theorem frame_setOp (w : Session) (op : OpId) (s : OperationState)
    (hresult : s.result = (w.ops op).result) (hpending : s.pending = (w.ops op).pending) :
    Frame w (w.setOp op s) :=
  { frame_publish {} hpending (.inl hresult) fun _ => hresult.trans with }

theorem entryAt_setEntry (w : Session) (id : RequestId) (entry : PendingEntry) (id' : RequestId) :
    (w.setEntry id entry).entryAt id' = if id' = id then some entry else w.entryAt id' := by
  unfold entryAt setEntry
  by_cases hid : id' = id
  · subst hid
    simp
  · simp [hid, AList.lookup_insert_ne hid]

theorem entryAt_eraseEntry (w : Session) (id id' : RequestId) :
    (w.eraseEntry id).entryAt id' = if id' = id then none else w.entryAt id' := by
  unfold entryAt eraseEntry
  by_cases hid : id' = id
  · subst hid
    simp
  · simp [hid, AList.lookup_erase_ne hid]

theorem frame_setEntry (here : w.entryAt id = some entry) (htoken : entry'.token = entry.token)
    (hop : entry'.op = entry.op) : Frame w (w.setEntry id entry') := by
  refine { holder := fun id' => ?_ }
  unfold holder
  rw [entryAt_setEntry]
  split
  · rename_i hid
    rw [hid, here]
    simp [htoken, hop]
  · rfl

theorem frame_table (w : Session) (dispatches : Dispatches) (nextDispatch : Nat)
    (active : Option Nat) (closed : Bool) :
    Frame w { w with table := { w.table with dispatches, nextDispatch, active, closed } } where

/-! ## Sections that retire an entry -/

theorem registered_eq {r r' : Registered} (hid : r.id = r'.id)
    (hx : some (r.token, r.op) = some (r'.token, r'.op)) : r = r' := by
  cases r
  cases r'
  simp_all

/-- One control's result may change, with a completion under way. -/
structure Answered (w w' : Session) (r : Registered) (c : Completion) : Prop
    extends Shares w w' where
  registration : c.registered = r
  answers : Answers (w'.ops r.op).result c.response
  others : ∀ op, op ≠ r.op → (w'.ops op).result = (w.ops op).result
  completions : w'.completions = w.completions ++ [c]

structure Retires (w w' : Session) (r : Registered) (c : Completion) : Prop
    extends Answered w w' r c where
  here : w.holder r.id = some (r.token, r.op)
  holder : ∀ id, w'.holder id = if id = r.id then none else w.holder id
  dropping : w'.dropping = w.dropping

namespace Retires

variable {r : Registered} {c : Completion}

theorem owners_eq (m : Retires w w' r c) (r' : Registered) : w'.owners r' = w.owners r' := by
  unfold owners
  rw [m.holder, m.dropping, m.completions, m.sent, List.map_append, List.count_append,
    List.map_singleton, m.registration]
  by_cases hr : r = r'
  · subst hr
    rw [if_pos rfl, if_neg (by simp), if_pos m.here, List.count_singleton_self]
    omega
  · have hcount : [r].count r' = 0 := List.count_eq_zero.mpr (by simpa [eq_comm] using hr)
    rw [hcount]
    by_cases hid : r'.id = r.id
    · have hne : w.holder r'.id ≠ some (r'.token, r'.op) := by
        rw [hid, m.here]
        exact fun hx => hr (registered_eq hid.symm hx)
      rw [if_pos hid, if_neg (by simp), if_neg hne]
      omega
    · rw [if_neg hid]
      omega

theorem safe (m : Retires w w' r c) : Safe E w w' := by
  intro h
  obtain ⟨hmem, hresult⟩ := h.live r.id r.token r.op m.here
  have halive : w.alive := h.alive_of_holder m.here
  have hdropping : w'.dropping = [] := m.dropping.trans (h.reachable halive)
  -- The control of another registration is another control.
  have hother : ∀ r' ∈ w.registered, r' ≠ r → r'.op ≠ r.op := fun r' hr' hne hop =>
    hne (h.op_inj hr' hmem hop)
  refine ⟨?_, m.progress⟩
  refine m.agreement h (fun id token op hholder => ?_) (by simp [hdropping])
    (fun r' hr' hresult' => ?_) (fun r' hr' => (m.owners_eq r').trans (h.owned r' hr'))
    (fun c' hc' => ?_) (fun _ => hdropping) (fun hdead => by simp [halive] at hdead)
  · rw [m.holder] at hholder
    split at hholder
    · cases hholder
    rename_i hid
    obtain ⟨hmem', hresult'⟩ := h.live id token op hholder
    have hne : (⟨id, token, op⟩ : Registered) ≠ r := fun heq => hid (by rw [← heq])
    rw [m.others op (hother _ hmem' hne)]
    exact ⟨hmem', hresult'⟩
  · have hne : r' ≠ r := by
      rintro rfl
      simpa [hresult'] using m.answers.isSome
    rw [m.others _ (hother r' hr' hne)] at hresult'
    have hholder := (h.unfinished r' hr' hresult').resolve_right (by simp [h.reachable halive])
    have hid : r'.id ≠ r.id := by
      intro hid
      rw [hid, m.here] at hholder
      exact hne (registered_eq hid hholder.symm)
    rw [m.holder, if_neg hid]
    exact .inl hholder
  · rw [m.completions, List.mem_append, List.mem_singleton] at hc'
    rcases hc' with hc' | rfl
    · exact .inl hc'
    · rw [m.registration]
      exact .inr ⟨hmem, m.answers⟩

end Retires

variable {c : Completion}

theorem answered_complete (hop : c.registered.op = op) (hanswers : Answers s.result c.response)
    (hkept : ∀ result, (w.ops op).result = some result → s.result = some result)
    (hpending : s.pending = (w.ops op).pending) :
    Answered w ((w.setOp op s).complete c) c.registered c where
  progress op' result hset := by
    show ((w.setOp op s).ops op').result = _
    rw [setOp_ops]
    split
    · rename_i hop'
      exact hkept result (hop' ▸ hset)
    · exact hset
  pending := setOp_pending hpending
  registration := rfl
  answers := by
    show Answers ((w.setOp op s).ops c.registered.op).result c.response
    rw [setOp_ops, if_pos hop]
    exact hanswers
  others op' hne := by
    show ((w.setOp op s).ops op').result = _
    rw [setOp_ops, if_neg (hop ▸ hne)]
  completions := rfl

/-- The control of an entry is given a result, and the entry is completed with the answer. -/
theorem retire_complete_safe (here : w.entryAt id = some entry)
    (hregistered : c.registered = ⟨id, entry.token, entry.op⟩)
    (hanswers : Answers s.result c.response) (hpending : s.pending = (w.ops entry.op).pending) :
    Safe E w (((w.setOp entry.op s).eraseEntry id).complete c) := by
  intro h
  have hresult : (w.ops entry.op).result = none :=
    (h.live id entry.token entry.op (by simp [holder, here])).2
  have hm : Answered w ((w.setOp entry.op s).complete c) c.registered c :=
    answered_complete (by rw [hregistered]) hanswers (by simp [hresult]) hpending
  have hretires : Retires w (((w.setOp entry.op s).eraseEntry id).complete c) c.registered c :=
    { hm with
      here := by simp [hregistered, holder, here]
      holder := fun id' => by
        rw [hregistered]
        unfold holder
        show Option.map _ (((w.setOp entry.op s).eraseEntry id).entryAt id') = _
        rw [entryAt_eraseEntry]
        split <;> rfl
      dropping := rfl }
  exact hretires.safe h

theorem answers_selectedError {fallback : NetError} (h : s.result = some (.error error)) :
    Answers s.result (.error (selectedError s fallback)) := by
  simp [Answers, selectedError, OperationState.selectedError, h]

theorem result_of_entry (h : Agreement E w) {id : RequestId} {entry : PendingEntry}
    (here : w.entryAt id = some entry) : (w.ops entry.op).result = none :=
  (h.live id entry.token entry.op (by simp [holder, here])).2

section

variable (here : w.entryAt id = some entry)
include here

theorem retire_safe (v : View) (error : NetError) (cause : TaskEndCause) :
    Safe E w (w.retire E v id entry error cause) := by
  intro h
  obtain ⟨selected, -, hselected, -, -, -, hpending, -⟩ :=
    OperationState.selectFailure_active (E.control entry.op) v (result_of_entry h here) error cause
  exact retire_complete_safe here rfl (answers_selectedError hselected) hpending h

theorem settle_safe (v : View) (response : Response) :
    Safe E w (w.settle E v id entry response).2 := by
  intro h
  obtain ⟨hpending, hresult⟩ :=
    OperationState.complete_selectResponse (E.control entry.op) v (result_of_entry h here)
  unfold settle
  dsimp only
  generalize (w.ops entry.op).complete (E.control entry.op) v
    ((w.ops entry.op).selectResponse (E.control entry.op) v) = selected at hpending hresult ⊢
  obtain ⟨won, publication, s⟩ := selected
  dsimp only at hpending hresult ⊢
  refine retire_complete_safe here rfl ?_ hpending h
  rcases hresult with ⟨rfl, hselected⟩ | ⟨rfl, error, hselected⟩
  · exact hselected
  · exact answers_selectedError hselected

theorem deferEntry_safe (deadline : Nat) (error : NetError) (cause : TaskEndCause) :
    Safe E w (w.deferEntry id entry deadline error cause) := by
  have hentry : Frame w (w.setEntry id (entry.deferred deadline error cause)) :=
    frame_setEntry here rfl rfl
  exact hentry.safe.trans (frame_setOp (w.setEntry id _) entry.op
    ((w.ops entry.op).setResponseDeadline (some deadline)) rfl rfl).safe

/-- The write of a request leaves its entry where it is, or retires it. -/
theorem selectEntryWritten_safe (htoken : entry'.token = entry.token) (hop : entry'.op = entry.op)
    (v : View) : Safe E w (w.selectEntryWritten E v id entry').2 := by
  intro h
  have hframe : Frame w (w.setEntry id entry') := frame_setEntry here htoken hop
  have h' : Agreement E (w.setEntry id entry') := (hframe.safe h).1
  have here' : (w.setEntry id entry').entryAt id = some entry' := by
    rw [entryAt_setEntry, if_pos rfl]
  have htracked := h'.tracked _ (h'.live id entry'.token entry'.op (by simp [holder, here'])).1
  have hresult : (w.ops entry'.op).result = none := result_of_entry h' here'
  obtain ⟨hpending, hcases⟩ := OperationState.complete_selectWritten (E.control entry'.op) v
    (s := (w.ops entry'.op).setResponseDeadline entry'.responseDeadline) hresult htracked
  unfold selectEntryWritten
  dsimp only
  generalize ((w.ops entry'.op).setResponseDeadline entry'.responseDeadline).complete
    (E.control entry'.op) v _ = selected at hpending hcases ⊢
  obtain ⟨written, publication, s⟩ := selected
  dsimp only at hpending hcases ⊢
  rcases hcases with ⟨rfl, hopen⟩ | ⟨rfl, error, hselected⟩
  · have hsame : s.result = (w.ops entry'.op).result := hopen.trans hresult.symm
    have hwritten : Frame (w.setEntry id entry') (((w.setEntry id entry').setOp entry'.op s).publish
        entry'.op publication) := frame_publish _ hpending (.inl hsame) fun _ => hsame.trans
    exact hframe.safe.trans hwritten.safe h
  have herror : s.selectedError = some error := by
    simp [OperationState.selectedError, hselected]
  simp only [Bool.false_eq_true, if_false, herror]
  exact hframe.safe.trans (retire_complete_safe here' rfl hselected hpending) h

end

/-! ## Sections on operations that no entry stands for -/

/-- A control that has not succeeded ends up with an error, its own if it had one. -/
theorem selectFailure_error (cfg : OperationConfig) (v : View)
    (hsuccess : ∀ success, s.result ≠ some (.ok success)) (error : NetError)
    (cause : TaskEndCause) :
    ∃ selected, (s.selectFailure cfg v error cause).2.2.result = some (.error selected) := by
  cases hresult : s.result with
  | none =>
    obtain ⟨selected, -, hselected, -⟩ :=
      OperationState.selectFailure_active cfg v hresult error cause
    exact ⟨selected, hselected⟩
  | some result =>
    cases result with
    | ok success => exact absurd hresult (hsuccess success)
    | error selected =>
      rw [OperationState.selectFailure_finished (by simp [hresult])]
      exact ⟨selected, hresult⟩

theorem selectFailure_kept (cfg : OperationConfig) (v : View) (error : NetError)
    (cause : TaskEndCause) {result : OperationResult} (h : s.result = some result) :
    (s.selectFailure cfg v error cause).2.2.result = some result := by
  rw [OperationState.selectFailure_finished (by simp [h])]
  exact h

/-- A failure is selected for a control that is not a request, or whose table is gone. -/
theorem failOp_safe (hfree : (w.ops op).pending = none ∨ w.alive = false) (v : View)
    (error : NetError) (cause : TaskEndCause) : Safe E w (w.failOp E v op error cause).2 := by
  refine (frame_publish _ (OperationState.selectFailure_frame _ v _ error cause).1
    (.inr (hfree.imp_right fun hdead => ⟨hdead, ?_⟩))
    (fun result hset => selectFailure_kept _ v error cause hset)).safe
  intro success hsuccess
  cases hresult : (w.ops op).result with
  | none =>
    obtain ⟨selected, -, hselected, -⟩ :=
      OperationState.selectFailure_active (E.control op) v hresult error cause
    simp [hselected]
  | some result =>
    rw [selectFailure_kept _ v error cause hresult, ← hresult]
    exact hsuccess

theorem failOp_late (hresult : (w.ops op).result.isSome) (v : View) (error : NetError)
    (cause : TaskEndCause) : Safe E w (w.failOp E v op error cause).2 := by
  unfold failOp
  rw [OperationState.selectFailure_finished hresult]
  exact (frame_publish _ rfl (.inl rfl) fun _ => id).safe

/-! ## Registration -/

theorem registration_ok {v : View} {options : RequestOptions} {allocated : Bool} {token : Nat}
    {deadline : Option Nat} {bound : OperationState}
    (h : w.registration E v op id options allocated = .ok (token, deadline, bound)) :
    w.entryAt id = none ∧ (w.ops op).result = none ∧ (w.ops op).pending = none ∧
      w.table.nextToken < token ∧ bound = { w.ops op with pending := some ⟨id, token⟩ } := by
  simp only [registration, Fallible.bind_eq_ok, Fallible.ensure_eq_ok, Fallible.report_eq_ok,
    Fallible.required_eq_ok] at h
  obtain ⟨-, -, -, -, -, hfree, -, -, -, -, token', htoken, -, -, deadline', -, bound',
    hbind, h⟩ := h
  cases h
  obtain ⟨hresult, hpending, rfl⟩ := OperationState.bindRequest_ok hbind
  obtain ⟨rfl, -⟩ := Checked.checkedAdd_eq_some.mp htoken
  exact ⟨by simpa using hfree, hresult, hpending, by omega, rfl⟩

/-- A free control is bound to a new entry, under a new token. -/
structure Registers (E : SessionConfig) (w w' : Session) (r : Registered) : Prop where
  reachable : w.alive
  tracked : (E.control r.op).tracked
  free : w.holder r.id = none
  unfinished : (w.ops r.op).result = none
  unbound : (w.ops r.op).pending = none
  fresh : w.table.nextToken < r.token
  holder : ∀ id, w'.holder id = if id = r.id then some (r.token, r.op) else w.holder id
  result : ∀ op, (w'.ops op).result = (w.ops op).result
  pending : ∀ op, (w'.ops op).pending =
    if op = r.op then some ⟨r.id, r.token⟩ else (w.ops op).pending
  registered : w'.registered = w.registered ++ [r] := by rfl
  nextToken : w'.table.nextToken = r.token := by rfl
  alive : w'.alive = w.alive := by rfl
  dropping : w'.dropping = w.dropping := by rfl
  completions : w'.completions = w.completions := by rfl
  sent : w'.sent = w.sent := by rfl

namespace Registers

variable {r : Registered}

section

variable (m : Registers E w w' r)
include m

theorem mem_registered {r' : Registered} : r' ∈ w'.registered ↔ r' ∈ w.registered ∨ r' = r := by
  rw [m.registered, List.mem_append, List.mem_singleton]

variable (h : Agreement E w)
include h

theorem token_ne :
    ∀ r' ∈ w.registered, r'.token ≠ r.token := fun r' hr' heq => by
  have := h.token_le r' hr'
  have := m.fresh
  omega

theorem op_ne :
    ∀ r' ∈ w.registered, r'.op ≠ r.op := fun r' hr' heq => by
  have hbound := (h.bound r'.op ⟨r'.id, r'.token⟩).mpr hr'
  rw [heq, m.unbound] at hbound
  cases hbound

theorem owned : ∀ r' ∈ w'.registered, w'.owners r' = 1 := by
  intro r' hr'
  rw [m.mem_registered] at hr'
  unfold owners
  rw [m.holder, m.dropping, m.completions, m.sent]
  rcases hr' with hr' | rfl
  · have hne : (r.token, r.op) ≠ (r'.token, r'.op) := fun heq =>
      m.token_ne h r' hr' (congrArg Prod.fst heq).symm
    have howned := h.owned r' hr'
    unfold owners at howned
    by_cases hid : r'.id = r.id
    · rw [hid, m.free, if_neg (by simp)] at howned
      rw [if_pos hid, if_neg (by simpa using hne)]
      exact howned
    · rw [if_neg hid]
      exact howned
  · -- Nothing is on its way for a registration that has just been made.
    have hnew : r' ∉ w.registered := fun hmem => m.token_ne h r' hmem rfl
    have hcompletions : (w.completions.map (·.registered)).count r' = 0 :=
      List.count_eq_zero.mpr fun hmem => by
        obtain ⟨c, hc, rfl⟩ := List.mem_map.mp hmem
        exact hnew (h.completing c hc).1
    have hsent : (w.sent.map Prod.fst).count r' = 0 :=
      List.count_eq_zero.mpr fun hmem => by
        obtain ⟨p, hp, rfl⟩ := List.mem_map.mp hmem
        exact hnew (h.completed p hp).1
    rw [hcompletions, hsent, h.reachable m.reachable, if_pos rfl, if_pos rfl]
    rfl

theorem bound (op : OpId) (identity : PendingIdentity) : (w'.ops op).pending = some identity ↔
      ⟨identity.id, identity.token, op⟩ ∈ w'.registered := by
  rw [m.pending, m.mem_registered]
  by_cases hop : op = r.op
  · rw [if_pos hop]
    constructor
    · intro heq
      cases heq
      exact .inr (by rw [hop])
    · rintro (hmem | heq)
      · exact absurd hop (m.op_ne h _ hmem)
      · rw [← heq]
  · rw [if_neg hop]
    constructor
    · exact fun hpending => .inl ((h.bound op identity).mp hpending)
    · rintro (hmem | heq)
      · exact (h.bound op identity).mpr hmem
      · exact absurd (by rw [← heq]) hop

end

theorem safe (m : Registers E w w' r) : Safe E w w' := by
  intro h
  refine ⟨?_, fun op result hset => (m.result op).trans hset⟩
  exact
    { tracked := fun r' hr' => by
        rw [m.mem_registered] at hr'
        rcases hr' with hr' | rfl
        · exact h.tracked r' hr'
        · exact m.tracked
      bound := m.bound h
      token_le := fun r' hr' => by
        rw [m.mem_registered] at hr'
        rw [m.nextToken]
        rcases hr' with hr' | rfl
        · exact Nat.le_trans (h.token_le r' hr') (Nat.le_of_lt m.fresh)
        · exact Nat.le_refl _
      token_inj := fun r₁ hr₁ r₂ hr₂ htoken => by
        rw [m.mem_registered] at hr₁ hr₂
        rcases hr₁ with hr₁ | rfl <;> rcases hr₂ with hr₂ | rfl
        · exact h.token_inj r₁ hr₁ r₂ hr₂ htoken
        · exact absurd htoken (m.token_ne h r₁ hr₁)
        · exact absurd htoken.symm (m.token_ne h r₂ hr₂)
        · rfl
      live := fun id token op hholder => by
        rw [m.holder] at hholder
        rw [m.mem_registered, m.result]
        split at hholder
        · rename_i hid
          cases hholder
          exact ⟨.inr (by rw [hid]), m.unfinished⟩
        · obtain ⟨hmem, hresult⟩ := h.live id token op hholder
          exact ⟨.inl hmem, hresult⟩
      taken := by simp [m.dropping, h.reachable m.reachable]
      unfinished := fun r' hr' hresult => by
        rw [m.mem_registered] at hr'
        rw [m.result] at hresult
        rw [m.holder, m.dropping]
        rcases hr' with hr' | rfl
        · by_cases hid : r'.id = r.id
          · have hlost := h.unfinished r' hr' hresult
            rw [hid, m.free, h.reachable m.reachable] at hlost
            simp at hlost
          · rw [if_neg hid]
            exact h.unfinished r' hr' hresult
        · exact .inl (if_pos rfl)
      owned := m.owned h
      completing := fun c hc => by
        rw [m.completions] at hc
        rw [m.mem_registered, m.result]
        exact ⟨.inl (h.completing c hc).1, (h.completing c hc).2⟩
      completed := fun p hp => by
        rw [m.sent] at hp
        rw [m.mem_registered, m.result]
        exact ⟨.inl (h.completed p hp).1, (h.completed p hp).2⟩
      reachable := by rw [m.alive, m.dropping]; exact h.reachable
      unreachable := fun halive => by
        rw [m.alive, m.reachable] at halive
        cases halive }

end Registers

theorem register_safe (halive : w.alive) (htracked : (E.control op).tracked)
    (v : View) (id : RequestId) (options : RequestOptions) (allocated : Bool) :
    Safe E w (w.register E v op id options allocated).2 := by
  unfold register
  split
  · exact Safe.refl w
  rename_i token deadline bound hregistration
  obtain ⟨hfree, hresult, hpending, htoken, rfl⟩ := registration_ok hregistration
  have hops := setOp_ops w op
    (({ w.ops op with pending := some ⟨id, token⟩ } : OperationState).setResponseDeadline deadline)
  exact Registers.safe (r := ⟨id, token, op⟩)
    { reachable := halive
      tracked := htracked
      free := by simp [holder, hfree]
      unfinished := hresult
      unbound := hpending
      fresh := htoken
      holder := fun id' => by
        unfold holder
        show Option.map _ ((w.setEntry id _).entryAt id') = _
        rw [entryAt_setEntry]
        split <;> rfl
      result := fun op' => by
        show ((w.setOp op _).ops op').result = _
        rw [hops]
        split
        · rename_i hop
          rw [hop]
          rfl
        · rfl
      pending := fun op' => by
        show ((w.setOp op _).ops op').pending = _
        rw [hops]
        split <;> rfl }

/-! ## Drop, and the dispatch of completions -/

theorem mem_dropBegin {r : Registered} :
    r ∈ w.dropBegin.dropping.map Prod.fst ↔ w.holder r.id = some (r.token, r.op) := by
  unfold holder entryAt
  simp only [dropBegin, List.map_map, List.mem_map, Function.comp_apply, Option.map_eq_some_iff]
  constructor
  · rintro ⟨⟨id, entry⟩, hmem, rfl⟩
    exact ⟨entry, AList.mem_lookup_iff.mpr hmem, rfl⟩
  · rintro ⟨entry, hentry, heq⟩
    refine ⟨⟨r.id, entry⟩, AList.mem_lookup_iff.mp hentry, ?_⟩
    cases r
    simp_all

/-- The keys of the table are distinct, and so are the registrations `Drop` takes. -/
theorem dropBegin_nodup (w : Session) : (w.dropBegin.dropping.map Prod.fst).Nodup := by
  have hkeys : ((w.dropBegin.dropping.map Prod.fst).map (·.id)).Nodup := by
    have hnodup := w.table.entries.nodupKeys
    simpa [dropBegin, List.NodupKeys, List.keys, Function.comp_def] using hnodup
  exact List.Nodup.of_map _ hkeys

theorem dropBegin_safe (halive : w.alive) : Safe E w w.dropBegin := by
  intro h
  have hdropping : w.dropping = [] := h.reachable halive
  have hholder : ∀ id, w.dropBegin.holder id = none := fun id => by
    simp [holder, entryAt, dropBegin]
  refine ⟨?_, fun _ _ => id⟩
  exact
    { tracked := h.tracked
      bound := h.bound
      token_le := h.token_le
      token_inj := h.token_inj
      live := by simp [hholder]
      taken := fun p hp => by
        obtain ⟨hmem, hresult⟩ := h.live _ _ _ (mem_dropBegin.mp (List.mem_map_of_mem hp))
        obtain ⟨e, -, rfl⟩ := List.mem_map.mp hp
        exact ⟨hmem, rfl, fun success => by
          show (w.ops e.2.op).result ≠ _
          rw [hresult]
          simp⟩
      unfinished := fun r hr hresult => by
        refine .inr (mem_dropBegin.mpr ?_)
        exact (h.unfinished r hr hresult).resolve_right (by simp [hdropping])
      owned := fun r hr => by
        have howned := h.owned r hr
        unfold owners at howned ⊢
        rw [hholder, if_neg (by simp)]
        have hcount : (w.dropBegin.dropping.map Prod.fst).count r =
            if w.holder r.id = some (r.token, r.op) then 1 else 0 := by
          split
          · rename_i hmem
            exact List.count_eq_one_of_mem (dropBegin_nodup w) (mem_dropBegin.mpr hmem)
          · rename_i hmem
            exact List.count_eq_zero.mpr (mt mem_dropBegin.mp hmem)
        rw [hcount, show w.dropBegin.completions = w.completions from rfl,
          show w.dropBegin.sent = w.sent from rfl]
        rw [hdropping] at howned
        simpa using howned
      completing := h.completing
      completed := h.completed
      reachable := by simp [dropBegin]
      unreachable := fun _ => hholder }

/-- `Drop` answers an entry it has taken. -/
structure Releases (w w' : Session) (p : Registered × PendingEntry) (c : Completion) : Prop
    extends Answered w w' p.1 c where
  here : w.dropping = p :: w'.dropping
  failed : ∀ success, (w'.ops p.1.op).result ≠ some (.ok success)
  holder : ∀ id, w'.holder id = w.holder id

theorem Releases.safe {p : Registered × PendingEntry} (m : Releases w w' p c) : Safe E w w' := by
  intro h
  obtain ⟨hmem, hop, -⟩ := h.taken p (by simp [m.here])
  have halive : w.alive = false := by
    cases halive : w.alive with
    | false => rfl
    | true => simpa [m.here] using h.reachable halive
  have hholder : ∀ id, w'.holder id = none := fun id =>
    (m.holder id).trans (h.unreachable halive id)
  refine ⟨?_, m.progress⟩
  refine m.agreement h (by simp [hholder]) (fun q hq => ?_) (fun r hr hresult => ?_)
    (fun r hr => ?_) (fun c' hc' => ?_) (fun hreach => by simp [halive] at hreach)
    (fun _ => hholder)
  · obtain ⟨hqmem, hqop, hqsuccess⟩ := h.taken q (by rw [m.here]; exact .tail _ hq)
    refine ⟨hqmem, hqop, fun success => ?_⟩
    by_cases hsame : q.2.op = p.1.op
    · rw [hsame]
      exact m.failed success
    · rw [m.others _ hsame]
      exact hqsuccess success
  · have hne : r.op ≠ p.1.op := by
      intro hrop
      rw [hrop] at hresult
      simpa [hresult] using m.answers.isSome
    rw [m.others _ hne] at hresult
    have hold := (h.unfinished r hr hresult).resolve_left (by simp [h.unreachable halive r.id])
    rw [m.here, List.map_cons, List.mem_cons] at hold
    exact .inr (hold.resolve_left fun heq => hne (by rw [heq]))
  · have howned := h.owned r hr
    unfold owners at howned ⊢
    rw [m.here, List.map_cons, List.count_cons] at howned
    rw [m.holder, m.completions, m.sent, List.map_append, List.count_append, List.map_singleton,
      List.count_singleton, m.registration]
    omega
  · rw [m.completions, List.mem_append, List.mem_singleton] at hc'
    rcases hc' with hc' | rfl
    · exact .inl hc'
    · rw [m.registration]
      exact .inr ⟨hmem, m.answers⟩

/-- The control of an entry that `Drop` has taken has failed, and the entry is completed. -/
theorem release_complete_safe {r : Registered} {rest : List (Registered × PendingEntry)}
    (here : w.dropping = (r, entry) :: rest) (hregistered : c.registered = r)
    (herror : s.result = some (.error error)) (hanswers : Answers s.result c.response)
    (hkept : ∀ result, (w.ops entry.op).result = some result → s.result = some result)
    (hpending : s.pending = (w.ops entry.op).pending) :
    Safe E w (({ (w.setOp entry.op s) with dropping := rest }).complete c) := by
  intro h
  subst hregistered
  obtain ⟨-, hop, -⟩ := h.taken _ (by rw [here]; exact .head _)
  have hm : Answered w ((w.setOp entry.op s).complete c) c.registered c :=
    answered_complete hop hanswers hkept hpending
  have hreleases : Releases w (({ (w.setOp entry.op s) with dropping := rest }).complete c)
      (c.registered, entry) c :=
    { hm with
      here := here
      failed := fun success => by
        show ((w.setOp entry.op s).ops c.registered.op).result ≠ _
        rw [setOp_ops, if_pos hop, herror]
        simp
      holder := fun _ => rfl }
  exact hreleases.safe h

theorem dropEntry_safe (v : View) : Safe E w (w.dropEntry E v) := by
  unfold dropEntry
  split
  · exact Safe.refl w
  rename_i r entry rest hdropping
  intro h
  obtain ⟨-, -, hsuccess⟩ := h.taken (r, entry) (by simp [hdropping])
  obtain ⟨selected, hselected⟩ := selectFailure_error (E.control entry.op) v hsuccess
    (NetError.new .engineDropped) .shutdown
  exact release_complete_safe hdropping rfl hselected (answers_selectedError hselected)
    (fun result hset => selectFailure_kept _ v _ _ hset)
    (OperationState.selectFailure_frame _ v _ _ _).1 h

theorem dispatch_safe (i : Nat) : Safe E w (w.dispatch i) := by
  unfold dispatch
  split
  · exact Safe.refl w
  rename_i c hget
  intro h
  obtain ⟨hi, rfl⟩ := List.getElem?_eq_some_iff.mp hget
  refine ⟨?_, fun _ _ => id⟩
  exact
    { h with
      owned := fun r hr => by
        have howned := h.owned r hr
        have hperm := ((List.getElem_cons_eraseIdx_perm hi).map (·.registered)).count_eq r
        unfold owners at howned ⊢
        rw [List.map_cons, List.count_cons] at hperm
        show (if w.holder r.id = some (r.token, r.op) then 1 else 0) +
          (w.dropping.map Prod.fst).count r +
          ((w.completions.eraseIdx i).map (·.registered)).count r +
          ((w.sent ++ [_]).map Prod.fst).count r = 1
        rw [List.map_append, List.count_append, List.map_singleton, List.count_singleton]
        dsimp only at hperm ⊢
        omega
      completing := fun c hc => h.completing c (List.mem_of_mem_eraseIdx hc)
      completed := fun p hp => by
        rcases List.mem_append.mp hp with hp | hp
        · exact h.completed p hp
        · obtain rfl := List.mem_singleton.mp hp
          exact h.completing _ (List.getElem_mem hi) }

end OpenNet.Ws.Session
