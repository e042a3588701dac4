import OpenNet.Http.RetryLoop

/-!
# Replay safety of HTTP retries

What one step of a retry loop can do is one of a few moves, the same for both loops.  A retry is
only scheduled when the policy lets the request be replayed and an attempt is left, whatever a
classifier or an authentication provider answered.
-/

namespace OpenNet.Ws.RetryState

variable {schedule : RetrySchedule} {s : RetryState}

theorem beginAttempt_eq_ok {attempt : Nat} {t : RetryState}
    (h : s.beginAttempt schedule = .ok (attempt, t)) :
    attempt = s.attempts + 1 ∧ attempt ≤ schedule.maxAttempts ∧
      t = { s with attempts := attempt, pendingDelay := none } := by
  revert h
  fun_cases beginAttempt schedule s with
  | case4 _ _ attempts hadd =>
    rintro ⟨⟩
    obtain ⟨rfl, -⟩ := Checked.checkedAdd_eq_some.mp hadd
    exact ⟨rfl, by omega, rfl⟩
  | _ => nofun

theorem nextDelay_keeps (schedule : RetrySchedule) (s : RetryState) :
    (s.nextDelay schedule).2.attempts = s.attempts ∧
      (s.nextDelay schedule).2.stopReason = s.stopReason := by
  fun_cases nextDelay schedule s <;> exact ⟨rfl, rfl⟩

theorem lt_of_nextDelay {t : RetryState} {delay : Nat}
    (h : s.nextDelay schedule = (.ok (some delay), t)) : s.attempts < schedule.maxAttempts := by
  unfold nextDelay at h
  split at h
  · cases h
  split at h
  · cases h
  rename_i hcan
  simp only [canRetry, Bool.not_eq_false, Bool.and_eq_true, decide_eq_true_eq] at hcan
  exact hcan.2

end OpenNet.Ws.RetryState

namespace OpenNet.Http

open OpenNet.Ws (RetryState)

namespace RetryLoop

/-! ## Moves -/

def isOver : LoopStage → Bool
  | .done _ _ | .dropped => true
  | _ => false

def allowed (req : RetryRequest) : Mode → Bool
  | .buffered => Buffered.retryAllowed req
  | .streaming => Streaming.allowed req

/-- The lifecycle of `s` ended, and the loop with it. -/
structure Ended (s t : RetryLoop) : Prop where
  isOver : isOver t.stage
  attempts : t.state.attempts = s.state.attempts
  authRetries : t.authRetries = s.authRetries
  calls : ∃ report : RetryReport, report.attempts = s.state.attempts ∧
    t.calls = s.calls ++ [.emitTerminal s.currentAttempt report]

structure Started (req : RetryRequest) (s t : RetryLoop) : Prop where
  attempts : t.state.attempts = s.state.attempts + 1
  bound : t.state.attempts ≤ req.policy.schedule.maxAttempts
  current : t.currentAttempt = some (s.state.attempts + 1)
  completed : t.completed = s.completed
  authRetryUsed : t.authRetryUsed = s.authRetryUsed
  authRetries : t.authRetries = s.authRetries
  calls : t.calls = s.calls ++ [.attemptStarted (s.state.attempts + 1)]

/-- A retry was scheduled; `auth`: for fresh credentials. -/
structure Scheduled (req : RetryRequest) (mode : Mode) (s t : RetryLoop) (auth : Bool) :
    Prop where
  allowed : allowed req mode
  bound : s.state.attempts < req.policy.schedule.maxAttempts
  stage : t.stage = .waiting auth
  attempts : t.state.attempts = s.state.attempts
  current : t.currentAttempt = none
  completed : t.completed = s.completed
  fresh : auth → s.authRetryUsed = false ∧ t.authRetryUsed ∧
    t.authRetries = s.authRetries ++ [s.state.attempts]
  other : auth = false → t.authRetryUsed = s.authRetryUsed ∧ t.authRetries = s.authRetries
  calls : ∃ delay, t.calls = s.calls ++ [.retryScheduled s.state.attempts delay]

inductive Moves (req : RetryRequest) (mode : Mode) (s : RetryLoop) : RetryLoop → Prop where
  | same : Moves req mode s s
  | started (t : RetryLoop) (hstage : s.stage = .ready) (h : Started req s t) :
    Moves req mode s { t with stage := .running }
  | startEnded (t u : RetryLoop) (hstage : s.stage = .ready) (h : Started req s t)
    (hend : Ended t u) : Moves req mode s u
  | scheduled (t : RetryLoop) (auth : Bool) (hstage : s.stage = .running)
    (h : Scheduled req mode s t auth) : Moves req mode s t
  | resumed (auth : Bool) (hstage : s.stage = .waiting auth) :
    Moves req mode s { s with stage := .ready }
  | delivered (doNotRetry : Bool) (reason : Option RetryStopReason) (status : Nat)
    (exhausted : Bool) (hstage : s.stage = .running) :
    Moves req mode s { s with
      authDoNotRetry := doNotRetry, statusStopReason := reason, stage := .body status exhausted }
  | ended (t : RetryLoop) (h : Ended s t) : Moves req mode s t

section Effects

variable {req : RetryRequest} {mode : Mode} {s : RetryLoop}

variable {t : RetryLoop}

theorem attemptStarted_started (h : s.attemptStarted req.policy = .ok t) : Started req s t := by
  unfold attemptStarted at h
  split at h
  · cases h
  rename_i attempt state hbegin
  obtain ⟨rfl, hbound, rfl⟩ := RetryState.beginAttempt_eq_ok hbegin
  cases h
  exact ⟨rfl, hbound, rfl, rfl, rfl, rfl, rfl⟩

theorem finish_attempts (state : RetryState) (reason : RetryStopReason) :
    (state.finish reason).attempts = state.attempts := by
  unfold RetryState.finish
  split <;> rfl

/-- Every end of a lifecycle that did not end before is the same call. -/
theorem emitTerminal_ended (h : s.completed = false) (reading : Reading)
    (reason : RetryStopReason) {stage : LoopStage} (hstage : isOver stage) :
    Ended s { s.emitTerminal reading reason with stage } := by
  unfold emitTerminal
  rw [if_neg (by rw [h]; exact Bool.false_ne_true)]
  exact {
    isOver := hstage
    attempts := finish_attempts _ _
    authRetries := rfl
    calls := ⟨_, finish_attempts _ _, rfl⟩ }

theorem Ended.of_eq {u : RetryLoop} {state authRetryUsed authDoNotRetry statusStopReason}
    (h : Ended { s with state, authRetryUsed, authDoNotRetry, statusStopReason } u)
    (ha : state.attempts = s.state.attempts) : Ended s u := by
  obtain ⟨report, hreport, hcalls⟩ := h.calls
  exact { h with attempts := h.attempts.trans ha, calls := ⟨report, hreport.trans ha, hcalls⟩ }

theorem stop_ended {reason : RetryStopReason} (h : Ended (s.stop reason) t) : Ended s t :=
  h.of_eq (finish_attempts _ _)

section

variable (h : s.completed = false) (reading : Reading)
include h

theorem finishHttpResult_ended (result : Except NetError Nat) (reason : RetryStopReason) :
    Ended s (s.finishHttpResult reading result reason) :=
  stop_ended (emitTerminal_ended (s := s.stop reason) h reading _ rfl)

theorem escape_ended (e : NetError) : Ended s (s.escape reading e) :=
  emitTerminal_ended h reading _ rfl

theorem terminalError_ended (e : NetError) : Ended s (s.terminalError reading e) :=
  finishHttpResult_ended h reading _ _

theorem fail_ended (e : NetError) : Ended s (Streaming.fail s reading e) :=
  emitTerminal_ended h reading _ rfl

end

/-! ## Buffered steps -/

theorem buffered_begin_moves (hstage : s.stage = .ready) (h : s.completed = false) (b : Begin) :
    Moves req mode s (Buffered.begin req s b) := by
  fun_cases Buffered.begin req s b with
  | case1 | case2 => exact .ended _ (terminalError_ended h _ _)
  | case3 => exact .ended _ (escape_ended h _ _)
  | case4 _ _ t hstart =>
    have hstarted := attemptStarted_started hstart
    exact .startEnded t _ hstage hstarted (escape_ended (hstarted.completed.trans h) _ _)
  | case5 _ _ t hstart => exact .started t hstage (attemptStarted_started hstart)

/-- The provider was asked or not; `auth`: it asks for a retry. -/
def Answered (s t : RetryLoop) (auth : Bool) : Prop :=
  (auth ∧ s.authRetryUsed = false ∧ t = { s with authRetryUsed := true }) ∨
    (auth = false ∧ ∃ doNotRetry, t = { s with authDoNotRetry := doNotRetry })

variable {auth : Bool}

theorem Answered.state (ht : Answered s t auth) : t.state = s.state := by
  obtain ⟨-, -, rfl⟩ | ⟨-, _, rfl⟩ := ht <;> rfl

theorem Answered.completed (ht : Answered s t auth) : t.completed = s.completed := by
  obtain ⟨-, -, rfl⟩ | ⟨-, _, rfl⟩ := ht <;> rfl

theorem Answered.ended {t u : RetryLoop} {state : RetryState} (ht : Answered s t auth)
    (hstate : state.attempts = t.state.attempts) (h : Ended { t with state } u) : Ended s u := by
  obtain ⟨-, -, rfl⟩ | ⟨-, _, rfl⟩ := ht
  · exact Ended.of_eq h hstate
  · exact Ended.of_eq h hstate

/-- Both loops schedule a retry in the same way. -/
theorem Answered.scheduled {base : Nat} {state : RetryState}
    (ht : Answered s t auth) (hallowed : allowed req mode)
    (hnext : t.state.nextDelay req.policy.schedule = (.ok (some base), state)) (delay : Nat) :
    Scheduled req mode s
      { { t with state }.retryScheduled state.attempts delay with
        stage := .waiting auth
        authRetries := if auth then t.authRetries ++ [state.attempts] else t.authRetries }
        auth := by
  have hbound := RetryState.lt_of_nextDelay hnext
  have hattempts : state.attempts = s.state.attempts := by
    have h := (RetryState.nextDelay_keeps req.policy.schedule t.state).1
    rw [hnext, ht.state] at h
    exact h
  rw [ht.state] at hbound
  refine {
    allowed := hallowed
    bound := hbound
    stage := rfl
    attempts := hattempts
    current := rfl
    completed := ht.completed
    fresh := fun hauth => ?_
    other := fun hauth => ?_
    calls := ⟨delay, ?_⟩ }
  · obtain ⟨rfl, hused, rfl⟩ | ⟨rfl, -⟩ := ht
    · exact ⟨hused, rfl, by rw [← hattempts]; rfl⟩
    · cases hauth
  · obtain ⟨rfl, -⟩ | ⟨rfl, _, rfl⟩ := ht
    · cases hauth
    · exact ⟨rfl, rfl⟩
  · rw [← hattempts]
    obtain ⟨-, -, rfl⟩ | ⟨-, _, rfl⟩ := ht <;> rfl

theorem authorize_eq_ok {result : Except NetError ResponseHead}
    {unauthorized : Except NetError AuthAction}
    (h : Buffered.authorize req s result unauthorized = .ok (t, auth)) : Answered s t auth := by
  revert h
  fun_cases Buffered.authorize req s result unauthorized with
  | case2 => nofun
  | case3 _ hasks =>
    rintro ⟨⟩
    simp only [Bool.and_eq_true, Bool.not_eq_true'] at hasks
    exact .inl ⟨rfl, hasks.1.1.1.1.2, rfl⟩
  | case1 | case4 | case5 =>
    rintro ⟨⟩
    exact .inr ⟨rfl, _, rfl⟩

theorem buffered_decide_moves (hstage : s.stage = .running) (h : s.completed = false)
    (ht : Answered s t auth) (reading : Reading)
    (result : Except NetError ResponseHead) (serverDelay : Option Nat)
    (decision : Ws.RetryDecision) :
    Moves req .buffered s (Buffered.decide req t reading result serverDelay decision auth) := by
  have hopen : t.completed = false := ht.completed.trans h
  have hfinish : ∀ reason, Moves req .buffered s
      (t.finishHttpResult reading (result.map ResponseHead.status) reason) := fun reason =>
    .ended _ (ht.ended rfl (finishHttpResult_ended hopen _ _ reason))
  have hkeeps := (RetryState.nextDelay_keeps req.policy.schedule t.state).1
  fun_cases Buffered.decide req t reading result serverDelay decision auth with
  | case1 | case2 | case3 => exact hfinish _
  | case4 _ _ _ _ _ hnext =>
    rw [hnext] at hkeeps
    exact .ended _ (ht.ended hkeeps (escape_ended (by exact hopen) _ _))
  | case5 _ _ _ _ _ hnext =>
    rw [hnext] at hkeeps
    exact .ended _ (ht.ended hkeeps (finishHttpResult_ended (by exact hopen) _ _ _))
  | case6 _ hallowed _ _ _ hnext =>
    exact .scheduled _ auth hstage
      (ht.scheduled (by simpa [RetryLoop.allowed] using hallowed) hnext _)

theorem buffered_settle_moves (hstage : s.stage = .running) (h : s.completed = false)
    (x : Exchange) : Moves req .buffered s (Buffered.settle req s x) := by
  have herror : ∀ e, Moves req .buffered s (s.terminalError x.reading e) := fun e =>
    .ended _ (terminalError_ended h _ e)
  fun_cases Buffered.settle req s x with
  | case1 => exact .ended _ (escape_ended h _ _)
  | case2 | case3 | case4 | case6 => exact herror _
  | case5 => exact .ended _ (finishHttpResult_ended h _ _ _)
  | case7 _ _ _ _ _ _ _ t authRetry hauth =>
    exact buffered_decide_moves hstage h (authorize_eq_ok hauth) _ _ _ _

theorem buffered_resume_moves (hstage : s.stage = .waiting auth) (h : s.completed = false)
    (w : Wait) : Moves req mode s (Buffered.resume s w) := by
  unfold Buffered.resume
  split
  · exact .resumed auth hstage
  · exact .ended _ (terminalError_ended h _ _)

/-! ## Streaming steps -/

theorem streaming_begin_moves (hstage : s.stage = .ready) (h : s.completed = false) (b : Begin) :
    Moves req mode s (Streaming.begin req s b) := by
  fun_cases Streaming.begin req s b with
  | case1 | case2 => exact .ended _ (fail_ended h _ _)
  | case3 _ t hstart | case4 _ t hstart =>
    have hstarted := attemptStarted_started hstart
    exact .startEnded t _ hstage hstarted (fail_ended (hstarted.completed.trans h) _ _)
  | case5 _ t hstart => exact .started t hstage (attemptStarted_started hstart)

section

variable (hstage : s.stage = .running) (h : s.completed = false)
include hstage h

theorem schedule_moves (ht : Answered s t auth)
    (hallowed : Streaming.allowed req) (reading : Reading) (server : Option Nat) :
    Moves req .streaming s (Streaming.schedule req t reading server auth) := by
  have hopen : t.completed = false := ht.completed.trans h
  have hkeeps := (RetryState.nextDelay_keeps req.policy.schedule t.state).1
  fun_cases Streaming.schedule req t reading server auth with
  | case1 _ _ hnext | case2 _ hnext =>
    rw [hnext] at hkeeps
    exact .ended _ (ht.ended hkeeps (fail_ended (by exact hopen) _ _))
  | case3 _ _ hnext => exact .scheduled _ auth hstage (ht.scheduled (by exact hallowed) hnext _)

theorem deliver_moves (ht : Answered s t false) (x : Exchange) (status : Nat)
    (blocked : Bool) : Moves req .streaming s (Streaming.deliver req t x status blocked) := by
  obtain ⟨hauth, -⟩ | ⟨-, doNotRetry, rfl⟩ := ht
  · cases hauth
  unfold Streaming.deliver
  dsimp only
  split
  · refine .ended _ (Ended.of_eq (fail_ended ?_ _ _) rfl)
    exact h
  split
  · refine .ended _ (Ended.of_eq (emitTerminal_ended ?_ _ _ rfl) rfl)
    exact h
  · exact .delivered doNotRetry _ _ _ hstage

theorem streaming_decide_moves (ht : Answered s t false) (x : Exchange) :
    Moves req .streaming s (Streaming.decide req t x) := by
  have hopen : t.completed = false := ht.completed.trans h
  unfold Streaming.decide
  dsimp only
  split
  · split
    · rename_i hretry
      simp only [Bool.and_eq_true, Streaming.retryAllowed] at hretry
      exact schedule_moves hstage h ht hretry.1.1.1.2 _ _
    · exact deliver_moves hstage h ht _ _ _
  · split
    · rename_i hretry
      simp only [Bool.and_eq_true, Streaming.retryAllowed] at hretry
      exact schedule_moves hstage h ht hretry.1.1.1.2 _ _
    · split
      · refine .ended _ (ht.ended rfl (stop_ended (fail_ended ?_ _ _)))
        exact hopen
      · exact .ended _ (ht.ended rfl (fail_ended hopen _ _))

theorem streaming_settle_moves (x : Exchange) :
    Moves req .streaming s (Streaming.settle req s x) := by
  have hplain : Answered s s false := .inr ⟨rfl, _, rfl⟩
  fun_cases Streaming.settle req s x with
  | case1 | case3 => exact .ended _ (fail_ended h _ _)
  | case2 | case6 => exact streaming_decide_moves hstage h hplain x
  | case4 _ _ _ hasks =>
    simp only [Bool.and_eq_true, Bool.not_eq_true'] at hasks
    exact schedule_moves hstage h (.inl ⟨rfl, hasks.1.1.1.1.2, rfl⟩) hasks.1.1.2 _ _
  | case5 => exact streaming_decide_moves hstage h (.inr ⟨rfl, _, rfl⟩) x

end

theorem streaming_resume_moves (hstage : s.stage = .waiting auth) (h : s.completed = false)
    (w : Wait) : Moves req mode s (Streaming.resume s auth w) := by
  fun_cases Streaming.resume s auth w with
  | case2 | case4 => exact .resumed _ hstage
  | _ => exact .ended _ (fail_ended h _ _)

theorem finishBody_moves (h : s.completed = false) (reading : Reading) (status : Nat)
    (exhausted : Bool) (error : Option NetError) :
    Moves req mode s (Streaming.finishBody s reading status exhausted error) := by
  unfold Streaming.finishBody
  dsimp only
  split
  · refine .ended _ (Ended.of_eq (emitTerminal_ended ?_ _ _ rfl) (finish_attempts _ _))
    exact h
  · exact .ended _ (emitTerminal_ended h _ _ rfl)

/-! ## Steps -/

theorem step_moves (h : isOver s.stage = false → s.completed = false) (a : LoopAction) :
    Moves req mode s (step req mode s a) := by
  unfold step
  split
  · rename_i hstage
    have hopen := h (by rw [hstage]; rfl)
    split
    · exact buffered_begin_moves hstage hopen _
    · exact streaming_begin_moves hstage hopen _
  · rename_i hstage
    have hopen := h (by rw [hstage]; rfl)
    split
    · exact buffered_settle_moves hstage hopen _
    · exact streaming_settle_moves hstage hopen _
  · rename_i hstage
    have hopen := h (by rw [hstage]; rfl)
    split
    · exact buffered_resume_moves hstage hopen _
    · exact streaming_resume_moves hstage hopen _
  · rename_i hstage
    exact finishBody_moves (h (by rw [hstage]; rfl)) _ _ _ _
  · exact .same
  · exact .same
  · rename_i hdone hdropped
    have hopen : s.completed = false := by
      apply h
      cases hstage : s.stage with
      | done result reported => exact absurd hstage (hdone result reported)
      | dropped => exact absurd hstage hdropped
      | ready | running | waiting | body => rfl
    exact .ended _ (emitTerminal_ended hopen _ _ rfl)
  · exact .same

theorem step_over (h : isOver s.stage) (mode : Mode) (a : LoopAction) : step req mode s a = s := by
  unfold step
  cases hstage : s.stage with
  | done | dropped => cases a <;> rfl
  | ready | running | waiting | body =>
    rw [hstage] at h
    cases h

theorem step_blocked (hready : s.stage = .ready) (h : s.completed = false) (mode : Mode)
    (a : LoopAction) (ha : ∀ b, a = .begin b → b.total ≠ none) :
    step req mode s a = s ∨ Ended s (step req mode s a) := by
  cases a with
  | begin b =>
    obtain ⟨e, htotal⟩ := Option.ne_none_iff_exists'.mp (ha b rfl)
    refine .inr ?_
    cases mode with
    | buffered =>
      simp only [step, hready, Buffered.begin, htotal]
      exact terminalError_ended h _ _
    | streaming =>
      simp only [step, hready, Streaming.begin, htotal]
      exact fail_ended h _ _
  | settle | resume | finishBody => exact .inl (by simp only [step, hready])
  | drop reading =>
    refine .inr ?_
    simp only [step, hready]
    exact emitTerminal_ended h _ _ rfl

end Effects

/-! ## Runs -/

def started (s : RetryLoop) : List Nat :=
  s.calls.filterMap fun
    | .attemptStarted attempt => some attempt
    | _ => none

/-- A request is sent again only as its policy allows. -/
structure ReplaySafe (req : RetryRequest) (mode : Mode) (s : RetryLoop) : Prop where
  bounded : s.started.length ≤ req.policy.schedule.maxAttempts
  authOnce : s.authRetries.length ≤ 1
  sentOnce : allowed req mode = false → s.started.length ≤ 1

structure Sound (req : RetryRequest) (mode : Mode) (s : RetryLoop) : Prop where
  live : isOver s.stage = false → s.completed = false
  started : s.started.length = s.state.attempts
  bounded : s.state.attempts ≤ req.policy.schedule.maxAttempts
  unused : isOver s.stage = false → s.authRetryUsed = false → s.authRetries = []
  authOnce : s.authRetries.length ≤ 1
  sentOnce : allowed req mode = false → s.state.attempts ≤ 1
  unsent : allowed req mode = false → s.stage = .ready → s.state.attempts = 0
  noRetry : allowed req mode = false → ∀ auth, s.stage ≠ .waiting auth

section Runs

variable {req : RetryRequest} {mode : Mode} {s t : RetryLoop}

theorem new_sound (random : UInt64) : Sound req mode (new random) where
  live _ := rfl
  started := rfl
  bounded := Nat.zero_le _
  unused _ _ := rfl
  authOnce := Nat.zero_le _
  sentOnce _ := Nat.zero_le _
  unsent _ _ := rfl
  noRetry _ _ h := by cases h

theorem Ended.started (h : Ended s t) : t.started = s.started := by
  obtain ⟨report, -, hcalls⟩ := h.calls
  rw [RetryLoop.started, RetryLoop.started, hcalls, List.filterMap_append]
  exact List.append_nil _

theorem Started.started (h : Started req s t) :
    t.started = s.started ++ [s.state.attempts + 1] := by
  rw [RetryLoop.started, RetryLoop.started, h.calls, List.filterMap_append]
  rfl

theorem Scheduled.started {auth : Bool} (h : Scheduled req mode s t auth) :
    t.started = s.started := by
  obtain ⟨delay, hcalls⟩ := h.calls
  rw [RetryLoop.started, RetryLoop.started, hcalls, List.filterMap_append]
  exact List.append_nil _

/-- An attempt only begins with what is left, and only the first one may not be a replay. -/
theorem Started.sound (h : Started req s t) (hs : Sound req mode s) (hstage : s.stage = .ready) :
    t.started.length = t.state.attempts ∧ (allowed req mode = false → t.state.attempts ≤ 1) ∧
      t.authRetries.length ≤ 1 := by
  refine ⟨?_, fun hnot => ?_, ?_⟩
  · rw [h.started, h.attempts, List.length_append, hs.started]
    rfl
  · have hfirst := hs.unsent hnot hstage
    rw [h.attempts]
    omega
  · rw [h.authRetries]
    exact hs.authOnce

theorem Ended.sound (h : Ended s t) (hstarted : s.started.length = s.state.attempts)
    (hbounded : s.state.attempts ≤ req.policy.schedule.maxAttempts)
    (hretries : s.authRetries.length ≤ 1)
    (hsent : allowed req mode = false → s.state.attempts ≤ 1) : Sound req mode t where
  live hnot := by rw [h.isOver] at hnot; cases hnot
  started := by rw [h.started, h.attempts, hstarted]
  bounded := h.attempts ▸ hbounded
  unused hnot := by rw [h.isOver] at hnot; cases hnot
  authOnce := h.authRetries ▸ hretries
  sentOnce hnot := h.attempts ▸ hsent hnot
  unsent _ hready := by
    have hover := h.isOver
    rw [hready] at hover
    cases hover
  noRetry _ auth hwaiting := by
    have hover := h.isOver
    rw [hwaiting] at hover
    cases hover

theorem Scheduled.sound {auth : Bool} (h : Scheduled req mode s t auth) (hs : Sound req mode s)
    (hstage : s.stage = .running) : Sound req mode t where
  live _ := h.completed.trans (hs.live (by rw [hstage]; rfl))
  started := by rw [h.started, h.attempts, hs.started]
  bounded := h.attempts ▸ hs.bounded
  unused _ hused := by
    cases auth with
    | true =>
      rw [(h.fresh rfl).2.1] at hused
      cases hused
    | false =>
      obtain ⟨hflag, hretries⟩ := h.other rfl
      rw [hretries]
      exact hs.unused (by rw [hstage]; rfl) (hflag ▸ hused)
  authOnce := by
    cases auth with
    | true =>
      obtain ⟨hunused, -, hretries⟩ := h.fresh rfl
      rw [hretries, hs.unused (by rw [hstage]; rfl) hunused]
      exact Nat.le_refl _
    | false =>
      rw [(h.other rfl).2]
      exact hs.authOnce
  sentOnce hnot := by rw [h.allowed] at hnot; cases hnot
  unsent hnot := by rw [h.allowed] at hnot; cases hnot
  noRetry hnot := by rw [h.allowed] at hnot; cases hnot

theorem Moves.sound (h : Moves req mode s t) (hs : Sound req mode s) : Sound req mode t := by
  cases h with
  | same => exact hs
  | started t hstage hstart =>
    obtain ⟨hstarted, hsent, honce⟩ := hstart.sound hs hstage
    have hlive : isOver s.stage = false := by rw [hstage]; rfl
    exact {
      live := fun _ => hstart.completed.trans (hs.live hlive)
      started := hstarted
      bounded := hstart.bound
      unused := fun _ hused =>
        hstart.authRetries.trans (hs.unused hlive (hstart.authRetryUsed ▸ hused))
      authOnce := honce
      sentOnce := hsent
      unsent := nofun
      noRetry := nofun }
  | startEnded u _ hstage hstart hend =>
    obtain ⟨hstarted, hsent, honce⟩ := hstart.sound hs hstage
    exact hend.sound hstarted hstart.bound honce hsent
  | scheduled _ auth hstage hscheduled => exact hscheduled.sound hs hstage
  | resumed auth hstage =>
    have hlive : isOver s.stage = false := by rw [hstage]; rfl
    exact { hs with
      live := fun _ => hs.live hlive
      unused := fun _ => hs.unused hlive
      unsent := fun hnot _ => absurd hstage (hs.noRetry hnot auth)
      noRetry := nofun }
  | delivered doNotRetry reason status exhausted hstage =>
    have hlive : isOver s.stage = false := by rw [hstage]; rfl
    exact { hs with
      live := fun _ => hs.live hlive
      unused := fun _ => hs.unused hlive
      unsent := nofun
      noRetry := nofun }
  | ended _ hend => exact hend.sound hs.started hs.bounded hs.authOnce hs.sentOnce

end Runs

/-- Whatever is answered, and wherever the future is dropped: both loops stay within the schedule,
try fresh credentials once, and send a request once that may not be replayed. -/
theorem replay_safety (req : RetryRequest) (mode : Mode) (random : UInt64)
    (acts : List LoopAction) :
    ReplaySafe req mode (Machine.run (step req mode) (new random) acts) := by
  have hs : Sound req mode (Machine.run (step req mode) (new random) acts) :=
    Machine.run_invariant (fun _ a hs => (step_moves hs.live a).sound hs) acts (new_sound random)
  exact {
    bounded := hs.started ▸ hs.bounded
    authOnce := hs.authOnce
    sentOnce := fun hnot => hs.started ▸ hs.sentOnce hnot }

end RetryLoop

end OpenNet.Http
