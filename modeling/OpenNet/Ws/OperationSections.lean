import OpenNet.Ws.OperationControl

/-!
# What each section of a control can do

One lemma per critical section of an `OperationControl`: when it refuses it changes nothing
that matters, and when it acts, what it changes and what it found.
-/

namespace OpenNet.Ws.OperationState

/-! ## What each section can do -/

variable {deadline : Option Nat} {u : Unit} {policy : WsSendRetryPolicy} {delay : Nat}

section Effects

variable {cfg : OperationConfig} {v : View} {s : OperationState}

theorem checkActiveUntil_result (h : s.checkActiveUntil cfg v deadline = .ok u) :
    s.result = none := by
  unfold checkActiveUntil at h
  split at h
  · cases h
  · cases h
  · assumption

theorem checkActive_result (h : s.checkActive cfg v = .ok u) : s.result = none :=
  checkActiveUntil_result h

theorem isOk_checkActiveUntil (h : (s.checkActiveUntil cfg v deadline).isOk) : s.result = none := by
  cases hc : s.checkActiveUntil cfg v deadline with
  | error e =>
    rw [hc] at h
    cases h
  | ok u => exact checkActiveUntil_result hc

variable {s' : OperationState} {error : NetError}

theorem bindRequest_ok {identity : PendingIdentity} (h : s.bindRequest cfg v identity = .ok s') :
    s.result = none ∧ s.pending = none ∧ s' = { s with pending := some identity } := by
  unfold bindRequest at h
  split at h
  · cases h
  rename_i hactive
  split at h
  · cases h
  rename_i hpending
  cases h
  exact ⟨checkActive_result hactive, by simpa using hpending, rfl⟩

theorem prepare_ok (h : s.prepare cfg v = .ok s') :
    s.result = none ∧ s.phase = .waitingForCapacity ∧ s' = { s with phase := .prepared } := by
  unfold prepare at h
  split at h
  · cases h
  rename_i hactive
  split at h
  · rename_i hphase
    cases h
    exact ⟨checkActive_result hactive, hphase, rfl⟩
  · cases h

theorem enqueue_ok (h : s.enqueue cfg v = .ok s') :
    s.result = none ∧ s' = { s with phase := .queued } := by
  unfold enqueue at h
  split at h
  · cases h
  rename_i hactive
  split at h
  · cases h
    exact ⟨checkActive_result hactive, rfl⟩
  · cases h

section

variable (cfg : OperationConfig)

theorem requeue_effect (v : View) (s : OperationState) :
    s.requeue cfg v = (false, s) ∨
    (s.result = none ∧ s.phase = .writing ∧ s.requeue cfg v =
      (true, { s with phase := .queued, dataInFlight := false, retirement := none })) := by
  unfold requeue
  split
  · rename_i h
    rw [Bool.and_eq_true, decide_eq_true_eq] at h
    exact .inr ⟨isOk_checkActiveUntil h.1, h.2, rfl⟩
  · exact .inl rfl

/-- A write attempt is opened once, for untracked operations that have not ended. -/
theorem beginWriteAttempt_effect (v : View) (s : OperationState) :
    (s.beginWriteAttempt cfg v).2 = s ∨
    (s.result = none ∧ cfg.tracked = false ∧ ∃ retry,
      (s.beginWriteAttempt cfg v).2 = { s with retry, retryAttemptOpen := true }) := by
  unfold beginWriteAttempt
  split
  · exact .inl rfl
  rename_i hopen
  simp only [Bool.or_eq_true, not_or, Bool.not_eq_true] at hopen
  split
  · exact .inl rfl
  rename_i hactive
  split
  · exact .inl rfl
  · exact .inr ⟨checkActiveUntil_result hactive, hopen.1.1, _, rfl⟩

theorem recordFirstData_effect (s : OperationState) :
    ∃ retry attempt, (s.recordFirstData cfg).2 = { s with retry, retryAttemptOpen := attempt } := by
  unfold recordFirstData
  by_cases hopen : s.retryAttemptOpen
  · simp only [hopen, if_true]
    split <;> exact ⟨_, _, rfl⟩
  · simp only [hopen, Bool.false_eq_true, if_false]
    cases s.retry.beginAttempt cfg.schedule with
    | error e => exact ⟨_, _, rfl⟩
    | ok opened =>
      simp only
      split <;> exact ⟨_, _, rfl⟩

/-- The operation is being written, or a settled message is continued. -/
def Admissible (s : OperationState) : Prop :=
  (s.result = none ∧ s.phase = .writing) ∨
    (s.delivery = .responseConfirmed ∧ s.result = some (.ok .responseReceived))

theorem confirmedContinuation_admissible {continuation : Bool}
    (h : s.confirmedContinuation continuation) : s.Admissible := by
  unfold confirmedContinuation at h
  rw [Bool.and_eq_true, Bool.and_eq_true, decide_eq_true_eq] at h
  obtain ⟨⟨-, hdelivery⟩, hresult⟩ := h
  refine .inr ⟨hdelivery, ?_⟩
  split at hresult
  · assumption
  · cases hresult

/-- The last section of `start_data_write` refuses and changes at most the retry budget, or
admits the frame. -/
theorem startDataWrite_effect (v : View) (s : OperationState) (continuation : Bool) :
    ∃ retry attempt, ((s.startDataWrite cfg v continuation).1 ≠ .ok true ∧
      (s.startDataWrite cfg v continuation).2.2 = { s with retry, retryAttemptOpen := attempt }) ∨
    ((s.startDataWrite cfg v continuation).1 = .ok true ∧
      (s.startDataWrite cfg v continuation).2.2 =
        markInFlight { s with retry, retryAttemptOpen := attempt } ∧ s.Admissible) := by
  obtain ⟨retry, attempt, hstate⟩ := recordFirstData_effect cfg s
  have hreason (hactive : (s.confirmedContinuation continuation ||
      ((s.checkActiveUntil cfg v cfg.deadline).isOk && s.phase = .writing))) :
      s.Admissible := by
    rcases Bool.or_eq_true_iff.mp hactive with hconfirmed | hactive
    · exact confirmedContinuation_admissible hconfirmed
    · rw [Bool.and_eq_true, decide_eq_true_eq] at hactive
      exact .inl ⟨isOk_checkActiveUntil hactive.1, hactive.2⟩
  fun_cases startDataWrite cfg v s continuation with
  | case1 | case5 => exact ⟨s.retry, s.retryAttemptOpen, .inl ⟨by simp, rfl⟩⟩
  | case2 _ confirmed hactive =>
    exact ⟨s.retry, s.retryAttemptOpen, .inr ⟨rfl, rfl, hreason hactive⟩⟩
  | case3 _ confirmed _ _ error recorded hrecord =>
    rw [hrecord] at hstate
    exact ⟨retry, attempt, .inl ⟨by simp, hstate⟩⟩
  | case4 _ confirmed hactive _ event recorded hrecord =>
    rw [hrecord] at hstate
    exact ⟨retry, attempt, .inr ⟨rfl, congrArg markInFlight hstate, hreason hactive⟩⟩

end

/-- A replay is only ever granted to an untracked operation whose policy allows it. -/
theorem rawRetryBegin_classify (h : (s.rawRetryBegin cfg v error).1 = .classify policy) :
    cfg.tracked = false ∧ cfg.retryPolicy = some policy := by
  unfold rawRetryBegin at h
  split at h
  · cases h
  split at h
  · cases h
  rename_i htracked
  split at h
  · cases h
  split at h
  · cases h
  rename_i hpolicy _
  cases h
  refine ⟨?_, hpolicy⟩
  simp only [Bool.or_eq_true, not_or, Bool.not_eq_true] at htracked
  exact htracked.1

theorem rawRetryBegin_answer : (s.rawRetryBegin cfg v error).1 ≠ .answer (.ok (some delay)) := by
  unfold rawRetryBegin
  repeat' split
  all_goals simp

theorem rawRetryDecide_some {decision : Except NetError RetryDecision}
    (h : (s.rawRetryDecide cfg v policy error decision).1 = .ok (some delay)) :
    policy.allowsReplay := by
  unfold rawRetryDecide at h
  split at h
  · cases h
  split at h
  · cases h
  rename_i hstop
  unfold rawRetryStop at hstop
  split at hstop
  · cases hstop
  · cases hstop
  cases hsafe : policy.allowsReplay with
  | true => rfl
  | false =>
    rw [if_pos hsafe] at hstop
    split at hstop
    · cases hstop
    · split at hstop <;> cases hstop

/-! ## The sections that never end an operation -/

/-- The sections that neither select nor bind, with what they read. -/
inductive Section where
  | setRetryStarted (started : Nat)
  | setResponseDeadline (deadline : Option Nat)
  | bindQueue (queue : MessageLane)
  | bindHook
  | prepare (v : View)
  | enqueue (v : View)
  | markWriting (v : View) (connection : Nat)
  | bindWriteRetirement (connection : Nat)
  | beginWriteAttempt (v : View)
  | startDataWrite (v : View) (continuation : Bool)
  | requeue (v : View)
  | rawRetryBegin (v : View) (error : NetError)
  /-- The classifier of the policy has answered. -/
  | rawRetryDecide (v : View) (error : NetError) (answer : Option RetryDecision)

/-- A section that fails leaves the state it found. -/
def perform (cfg : OperationConfig) (s : OperationState) : Section → OperationState
  | .setRetryStarted started => s.setRetryStarted started
  | .setResponseDeadline deadline => s.setResponseDeadline deadline
  | .bindQueue queue => s.bindQueue queue
  | .bindHook => s.bindHook
  | .prepare v => (s.prepare cfg v).toOption.getD s
  | .enqueue v => (s.enqueue cfg v).toOption.getD s
  | .markWriting v connection => (s.markWriting cfg v connection).2
  | .bindWriteRetirement connection => (s.bindWriteRetirement connection).2
  | .beginWriteAttempt v => (s.beginWriteAttempt cfg v).2
  | .startDataWrite v continuation => (s.startDataWrite cfg v continuation).2.2
  | .requeue v => (s.requeue cfg v).2
  | .rawRetryBegin v error => (s.rawRetryBegin cfg v error).2
  | .rawRetryDecide v error answer =>
    match cfg.retryPolicy with
    | none => s
    | some policy => (s.rawRetryDecide cfg v policy error (policy.classify answer)).2.2

/-- The section is a `start_data_write` that returns `Ok(true)`. -/
def Section.admits (cfg : OperationConfig) (s : OperationState) : Section → Bool
  | .startDataWrite v continuation =>
    match (s.startDataWrite cfg v continuation).1 with
    | .ok admitted => admitted
    | .error _ => false
  | _ => false

/-- What every section but the admission of a frame leaves alone. -/
structure Quiet (s s' : OperationState) : Prop where
  result : s'.result = s.result := by rfl
  delivery : s'.delivery = s.delivery := by rfl
  observation : s'.observation = s.observation := by rfl
  phase : s'.phase = s.phase ∨ (s.result = none ∧ s'.phase ≠ .finished) := by exact .inl rfl

/-- What such a section leaves alone in a bound control. -/
structure Performed (sec : Section) (s s' : OperationState) : Prop extends Quiet s s' where
  pending : s'.pending = s.pending := by rfl
  deadline : (∀ deadline, sec ≠ .setResponseDeadline deadline) →
    s'.responseDeadline = s.responseDeadline := by intro; rfl

theorem perform_cases (cfg : OperationConfig) (s : OperationState) (sec : Section) :
    (Performed sec s (s.perform cfg sec) ∧ sec.admits cfg s = false) ∨
    (∃ retry attempt, s.perform cfg sec =
        markInFlight { s with retry, retryAttemptOpen := attempt } ∧
      sec.admits cfg s ∧ Admissible s) := by
  cases sec with
  | startDataWrite v continuation =>
    rw [perform, Section.admits]
    obtain ⟨retry, attempt, ⟨hrefused, hstate⟩ | ⟨hadmitted, hstate, hreason⟩⟩ :=
      startDataWrite_effect cfg v s continuation
    · rw [hstate]
      refine .inl ⟨{}, ?_⟩
      split
      · simp_all
      · rfl
    · exact .inr ⟨retry, attempt, hstate, by rw [hadmitted], hreason⟩
  | setRetryStarted started =>
    rw [perform, setRetryStarted]
    split <;> exact .inl ⟨{}, rfl⟩
  | setResponseDeadline deadline =>
    exact .inl ⟨{ deadline := fun h => absurd rfl (h deadline) }, rfl⟩
  | bindQueue queue => exact .inl ⟨{}, rfl⟩
  | bindHook =>
    rw [perform, bindHook]
    split <;> exact .inl ⟨{}, rfl⟩
  | prepare v =>
    rw [perform]
    cases h : s.prepare cfg v with
    | error e => exact .inl ⟨{}, rfl⟩
    | ok s' =>
      obtain ⟨hresult, -, rfl⟩ := prepare_ok h
      exact .inl ⟨{ phase := .inr ⟨hresult, by simp [Except.toOption]⟩ }, rfl⟩
  | enqueue v =>
    rw [perform]
    cases h : s.enqueue cfg v with
    | error e => exact .inl ⟨{}, rfl⟩
    | ok s' =>
      obtain ⟨hresult, rfl⟩ := enqueue_ok h
      exact .inl ⟨{ phase := .inr ⟨hresult, by simp [Except.toOption]⟩ }, rfl⟩
  | markWriting v connection =>
    rw [perform, markWriting]
    split
    · rename_i h
      rw [Bool.and_eq_true] at h
      exact .inl ⟨{ phase := .inr ⟨isOk_checkActiveUntil h.1, by simp⟩ }, rfl⟩
    · exact .inl ⟨{}, rfl⟩
  | bindWriteRetirement connection => exact .inl ⟨{}, rfl⟩
  | beginWriteAttempt v =>
    rw [perform]
    obtain h | ⟨-, -, retry, h⟩ := beginWriteAttempt_effect cfg v s
    · rw [h]
      exact .inl ⟨{}, rfl⟩
    · rw [h]
      exact .inl ⟨{}, rfl⟩
  | requeue v =>
    rw [perform]
    obtain h | ⟨hresult, -, h⟩ := requeue_effect cfg v s
    · rw [h]
      exact .inl ⟨{}, rfl⟩
    · rw [h]
      exact .inl ⟨{ phase := .inr ⟨hresult, by simp⟩ }, rfl⟩
  | rawRetryBegin v error =>
    rw [perform]
    fun_cases rawRetryBegin cfg v s error <;> exact .inl ⟨{}, rfl⟩
  | rawRetryDecide v error answer =>
    rw [perform]
    split
    · exact .inl ⟨{}, rfl⟩
    rename_i policy _
    fun_cases rawRetryDecide cfg v s policy error (policy.classify answer) <;>
      exact .inl ⟨{}, rfl⟩

theorem perform_frame (cfg : OperationConfig) (s : OperationState) (sec : Section) :
    (s.perform cfg sec).result = s.result ∧ (s.perform cfg sec).pending = s.pending ∧
      ((∀ deadline, sec ≠ .setResponseDeadline deadline) →
        (s.perform cfg sec).responseDeadline = s.responseDeadline) := by
  obtain ⟨h, -⟩ | ⟨retry, attempt, hstate, -, -⟩ := perform_cases cfg s sec
  · exact ⟨h.result, h.pending, h.deadline⟩
  · rw [hstate]
    exact ⟨rfl, rfl, fun _ => rfl⟩

/-! ## The terminal sections -/

theorem selectFailure_finished (h : s.result.isSome) (error : NetError)
    (cause : TaskEndCause) :
    s.selectFailure cfg v error cause = (.alreadyFinished, { retiredError := some error }, s) := by
  unfold selectFailure
  rw [if_pos h]

theorem failureError_kind (error : NetError) (h : s.delivery = .unknown) :
    (s.failureError cfg error).kind = .deliveryUnknown := by
  unfold failureError
  simp only [h, true_and]
  split
  · rfl
  · rename_i hkind
    simpa using hkind

/-- A selected failure: the result is an error, `DeliveryUnknown` when delivery is. -/
theorem selectFailure_active (cfg : OperationConfig) (v : View) {s : OperationState}
    (h : s.result = none) (error : NetError) (cause : TaskEndCause) :
    ∃ selected, (s.selectFailure cfg v error cause).1 = terminationOutcome s.delivery ∧
      (s.selectFailure cfg v error cause).2.2.result = some (.error selected) ∧
      (s.delivery = .unknown → selected.kind = .deliveryUnknown) ∧
      (s.selectFailure cfg v error cause).2.2.phase = .finished ∧
      (s.selectFailure cfg v error cause).2.2.delivery = s.delivery ∧
      (s.selectFailure cfg v error cause).2.2.pending = s.pending ∧
      (s.selectFailure cfg v error cause).2.2.dataInFlight = s.dataInFlight := by
  unfold selectFailure
  rw [if_neg (by simp [h])]
  refine ⟨_, rfl, rfl, ?_, rfl, rfl, rfl, rfl⟩
  intro hunknown
  rw [NetError.withRetryReport_kind]
  exact failureError_kind error hunknown

section

variable (cfg : OperationConfig) (v : View) (s : OperationState)

theorem selectFailure_frame (error : NetError) (cause : TaskEndCause) :
    (s.selectFailure cfg v error cause).2.2.pending = s.pending ∧
    (s.selectFailure cfg v error cause).2.2.responseDeadline = s.responseDeadline := by
  unfold selectFailure
  split <;> exact ⟨rfl, rfl⟩

theorem selectSuccess_cases (settled : Bool) (win : OperationPublication × OperationState) :
    (∃ error cause, s.selectSuccess cfg v settled win = .failing error cause) ∨
    (s.result.isSome ∧ s.selectSuccess cfg v settled win = .decided settled {} s) ∨
    (s.result = none ∧ s.selectSuccess cfg v settled win = .decided true win.1 win.2) := by
  unfold selectSuccess
  split
  · exact .inl ⟨_, _, rfl⟩
  split
  · rename_i hresult
    exact .inr (.inl ⟨hresult, rfl⟩)
  split
  · exact .inl ⟨_, _, rfl⟩
  · rename_i hactive
    exact .inr (.inr ⟨checkActive_result hactive, rfl⟩)

/-- Whatever comes of the write, the binding of the operation, its deadline and a result it has
stay. -/
theorem complete_selectWritten_frame :
    (s.complete cfg v (s.selectWritten cfg v)).2.2.pending = s.pending ∧
    (s.complete cfg v (s.selectWritten cfg v)).2.2.responseDeadline = s.responseDeadline ∧
    ((s.complete cfg v (s.selectWritten cfg v)).2.2.result = s.result ∨ s.result = none) := by
  unfold selectWritten
  dsimp only
  obtain ⟨error, cause, hfail⟩ | ⟨-, hlate⟩ | ⟨hresult, hwin⟩ :=
    selectSuccess_cases cfg v s s.responseConfirmed _
  · rw [hfail, complete]
    obtain ⟨hpending, hdeadline⟩ := selectFailure_frame cfg v s error cause
    refine ⟨hpending, hdeadline, ?_⟩
    cases hresult : s.result with
    | none => exact .inr rfl
    | some result =>
      rw [selectFailure_finished (by simp [hresult])]
      exact .inl hresult
  · rw [hlate, complete]
    exact ⟨rfl, rfl, .inl rfl⟩
  · rw [hwin, complete]
    split <;> exact ⟨rfl, rfl, .inr hresult⟩

end

section

variable (cfg : OperationConfig) (v : View) {s : OperationState} (h : s.result = none)
include h

theorem complete_selectSuccess (settled : Bool) (win : OperationPublication × OperationState) :
    s.complete cfg v (s.selectSuccess cfg v settled win) = (true, win.1, win.2) ∨
    ∃ error cause, s.complete cfg v (s.selectSuccess cfg v settled win) =
      (false, (s.selectFailure cfg v error cause).2) := by
  obtain ⟨error, cause, hfail⟩ | ⟨hresult, -⟩ | ⟨-, hwin⟩ :=
    selectSuccess_cases cfg v s settled win
  · exact .inr ⟨error, cause, by rw [hfail, complete]⟩
  · rw [h] at hresult
    cases hresult
  · exact .inl (by rw [hwin, complete])

/-- A response ends the operation, with the success if it has won and with a failure
otherwise. -/
theorem complete_selectResponse :
    (s.complete cfg v (s.selectResponse cfg v)).2.2.pending = s.pending ∧
    (((s.complete cfg v (s.selectResponse cfg v)).1 ∧
        (s.complete cfg v (s.selectResponse cfg v)).2.2.result = some (.ok .responseReceived)) ∨
      ((s.complete cfg v (s.selectResponse cfg v)).1 = false ∧ ∃ error,
        (s.complete cfg v (s.selectResponse cfg v)).2.2.result = some (.error error))) := by
  unfold selectResponse
  dsimp only
  obtain hwin | ⟨error, cause, hfail⟩ := complete_selectSuccess cfg v h false
    (finishLocked cfg v { s with delivery := .responseConfirmed, dataInFlight := false }
      (.ok .responseReceived) .completed { written := true })
  · rw [hwin]
    exact ⟨rfl, .inl ⟨rfl, rfl⟩⟩
  rw [hfail]
  obtain ⟨selected, -, hselected, -, -, -, hpending, -⟩ :=
    selectFailure_active cfg v h error cause
  exact ⟨hpending, .inr ⟨rfl, selected, hselected⟩⟩

/-- The write of a tracked operation leaves it open, or ends it with a failure. -/
theorem complete_selectWritten (htracked : cfg.tracked) :
    (s.complete cfg v (s.selectWritten cfg v)).2.2.pending = s.pending ∧
    (((s.complete cfg v (s.selectWritten cfg v)).1 ∧
        (s.complete cfg v (s.selectWritten cfg v)).2.2.result = none) ∨
      ((s.complete cfg v (s.selectWritten cfg v)).1 = false ∧ ∃ error,
        (s.complete cfg v (s.selectWritten cfg v)).2.2.result = some (.error error))) := by
  unfold selectWritten
  simp only [if_pos htracked]
  obtain hwin | ⟨error, cause, hfail⟩ := complete_selectSuccess cfg v h s.responseConfirmed
    ({ written := true },
      { s with delivery := .written, dataInFlight := false, phase := .awaitingResponse })
  · rw [hwin]
    exact ⟨rfl, .inl ⟨rfl, h⟩⟩
  rw [hfail]
  obtain ⟨selected, -, hselected, -, -, -, hpending, -⟩ :=
    selectFailure_active cfg v h error cause
  exact ⟨hpending, .inr ⟨rfl, selected, hselected⟩⟩

end

end Effects

end OpenNet.Ws.OperationState
