import OpenNet.Ws.PendingHistory

/-!
# The pending table and the controls agree

Every section of the machine keeps the agreement and touches no entry that it does not name
(`step_safe`, `step_does`).  What `Drop` has taken and the completions on their way are finished by
their own steps (`Agreement.finishes`).  `pending_agreement` states it for every interleaving.
-/

namespace OpenNet.Ws

/-- The steps of a `Drop` that has begun, and of the completions. -/
def PendingAction.Finishes (v : View) : PendingAction → Prop
  | .dropEntry v' => v' = v
  | .dispatch _ => True
  | _ => False

namespace Session

variable {E : SessionConfig} {w w' : Session}

section

variable (source : OpId → TaskSource) (random : OpId → UInt64) (now : OpId → Nat)

theorem agreement_new : Agreement E (new source random now) where
  tracked := by simp [new]
  bound := by simp [new, OperationState.new]
  token_le := by simp [new]
  token_inj := by simp [new]
  live := by simp [new, holder, entryAt]
  taken := by simp [new]
  unfinished := by simp [new]
  owned := by simp [new]
  completing := by simp [new]
  completed := by simp [new]
  reachable := by simp [new]
  unreachable := by simp [new]

theorem agreement_run (acts : List PendingAction) :
    Agreement E (run E (new source random now) acts) :=
  Machine.run_invariant (fun w a h => (step_safe w a h).1) acts (agreement_new source random now)

end

section

variable {r : Registered}

theorem Agreement.sent_once (h : Agreement E w) (hr : r ∈ w.registered)
    (hentry : w.holder r.id ≠ some (r.token, r.op)) (hdropping : r ∉ w.dropping.map Prod.fst)
    (hcompletions : r ∉ w.completions.map (·.registered)) : (w.sent.map Prod.fst).count r = 1 := by
  have howned := h.owned r hr
  unfold owners at howned
  rw [if_neg hentry, List.count_eq_zero.mpr hdropping,
    List.count_eq_zero.mpr hcompletions] at howned
  simpa using howned

/-- **What has left the table is sent**: `Drop` turns what it has taken into completions, and these
are dispatched. -/
theorem Agreement.finishes (h : Agreement E w) (hr : r ∈ w.registered)
    (hentry : w.holder r.id ≠ some (r.token, r.op)) (v : View) :
    Machine.Reaches (step E) (PendingAction.Finishes v)
      (fun w => (w.sent.map Prod.fst).count r = 1) w := by
  refine Machine.reaches_of_rank (I := fun w => Agreement E w ∧ r ∈ w.registered ∧
      w.holder r.id ≠ some (r.token, r.op))
    (fun w => 2 * w.dropping.length + w.completions.length) (fun w hw => ?_) ⟨h, hr, hentry⟩
  obtain ⟨h, hr, hentry⟩ := hw
  cases hdropping : w.dropping with
  | cons taken rest =>
    have hstep : w.step E (.dropEntry v) = w.dropEntry E v := rfl
    refine .inr ⟨.dropEntry v, rfl, ⟨(step_safe w _ h).1, ?_⟩, ?_⟩
    · rw [hstep, dropEntry, hdropping]
      exact ⟨hr, hentry⟩
    · simp only [hstep, dropEntry, hdropping, complete, setOp, List.length_append,
        List.length_cons, List.length_nil]
      omega
  | nil =>
    cases hcompletions : w.completions with
    | cons c rest =>
      have hstep : w.step E (.dispatch 0) = w.dispatch 0 := rfl
      refine .inr ⟨.dispatch 0, trivial, ⟨(step_safe w _ h).1, ?_⟩, ?_⟩
      · rw [hstep, dispatch, hcompletions]
        exact ⟨hr, hentry⟩
      · simp [hstep, dispatch, hcompletions, hdropping]
    | nil => exact .inl (h.sent_once hr hentry (by simp [hdropping]) (by simp [hcompletions]))

end

/-- **The pending table and the controls agree**, after every interleaving.

* An entry belongs to a registration that succeeded; while no `Drop` is half done, a
  registration has its entry exactly as long as its control has no result.
* The tokens of live entries are pairwise distinct and at most `next_token`.
* A registration is in one place: in the table, with `Drop`, on its way as a completion, or sent.
  So its oneshot is sent at most one value, and exactly one once nothing is left to do for it, to
  which the steps of `Drop` and of the completions lead; it is a response exactly when the result
  is `Ok(ResponseReceived)`, and otherwise the error the control has selected.
* A section that names a registration changes no entry with another id or another token. -/
theorem pending_agreement (E : SessionConfig) (source : OpId → TaskSource)
    (random : OpId → UInt64) (now : OpId → Nat) (acts : List PendingAction) :
    let w := run E (new source random now) acts
    let entered := fun r : Registered =>
      ∃ entry, w.entryAt r.id = some entry ∧ entry.token = r.token ∧ entry.op = r.op
    ((∀ id entry, w.entryAt id = some entry → ⟨id, entry.token, entry.op⟩ ∈ w.registered) ∧
      (w.dropping = [] → ∀ r ∈ w.registered, entered r ↔ (w.ops r.op).result = none) ∧
      (∀ r ∈ w.registered, (w.ops r.op).result = none →
        entered r ∨ r ∈ w.dropping.map Prod.fst)) ∧
    ((∀ id id' entry entry', w.entryAt id = some entry → w.entryAt id' = some entry' →
        entry.token = entry'.token → id = id') ∧
      (∀ id entry, w.entryAt id = some entry → entry.token ≤ w.table.nextToken)) ∧
    (∀ r ∈ w.registered,
      (w.sent.map Prod.fst).count r ≤ 1 ∧
      (¬ entered r → r ∉ w.dropping.map Prod.fst → r ∉ w.completions.map (·.registered) →
        (w.sent.map Prod.fst).count r = 1) ∧
      (¬ entered r → ∀ v, Machine.Reaches (step E) (PendingAction.Finishes v)
        (fun w' => (w'.sent.map Prod.fst).count r = 1) w) ∧
      ∀ value, (r, value) ∈ w.sent →
        ((∃ response, value = .ok response) ↔
          (w.ops r.op).result = some (.ok .responseReceived)) ∧
        ∀ error, value = .error error → (w.ops r.op).result = some (.error error)) ∧
    (∀ a id token, w.names a = some (id, token) → Spares w (w.step E a) id token) := by
  intro w entered
  have h : Agreement E w := agreement_run source random now acts
  have hentered : ∀ r, entered r ↔ w.holder r.id = some (r.token, r.op) := by
    intro r
    simp [entered, holder]
  have hlive : ∀ id entry, w.entryAt id = some entry →
      (⟨id, entry.token, entry.op⟩ : Registered) ∈ w.registered ∧
        (w.ops entry.op).result = none := fun id entry here =>
    h.live id entry.token entry.op (by simp [holder, here])
  refine ⟨⟨fun id entry here => (hlive id entry here).1, ?_, ?_⟩, ⟨?_, ?_⟩, ?_,
    fun a id token hnames => (step_does w a).spares h (id, token) hnames⟩
  · intro hdropping r hr
    rw [hentered]
    constructor
    · exact fun hholder => (h.live r.id r.token r.op hholder).2
    · exact fun hresult => (h.unfinished r hr hresult).resolve_right (by simp [hdropping])
  · intro r hr hresult
    rw [hentered]
    exact h.unfinished r hr hresult
  · intro id id' entry entry' here here' htoken
    exact congrArg Registered.id
      (h.token_inj _ (hlive id entry here).1 _ (hlive id' entry' here').1 htoken)
  · exact fun id entry here => h.token_le _ (hlive id entry here).1
  · intro r hr
    have howned := h.owned r hr
    unfold owners at howned
    rw [hentered]
    refine ⟨by omega, h.sent_once hr, h.finishes hr, ?_⟩
    · intro value hsent
      have hanswers := (h.completed _ hsent).2
      cases value with
      | ok response => exact ⟨⟨fun _ => hanswers, fun _ => ⟨response, rfl⟩⟩, by simp⟩
      | error error =>
        refine ⟨⟨by simp, fun hok => ?_⟩, fun e he => by cases he; exact hanswers⟩
        rw [show (w.ops r.op).result = some (.error error) from hanswers] at hok
        cases hok

def oneRequest : SessionConfig where
  clientId := 1
  sessionId := 2
  grace := 5
  maxDispatches := 4
  instantMax := 1000
  control _ :=
    { clientId := 1, sessionId := 2, id := 0, lane := .normal, tracked := true,
      retryPolicy := none, deadline := none, deadlinePhase := .total, group := false,
      tracked_noRetry := fun _ => rfl }

end Session

end OpenNet.Ws
