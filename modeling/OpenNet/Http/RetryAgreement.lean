import OpenNet.Http.ReplaySafety

/-!
# Buffered and streaming retries

`Buffered.settle` carries out what an iteration decides in every case, `Streaming.settle` in every
case but one: an unauthorized response after fresh credentials were tried is not retryable, but at
the last attempt of the schedule a streaming request reports it as exhaustion, because the flag the
body is created with looks at the status alone.

The outcomes of the attempts, the provider's answers and the random stream of the delays are
the same for both loops; budgets do not expire, nothing is cancelled and bodies are read to
their end.
-/

namespace OpenNet.Http

open OpenNet.Ws (RetryState)

/-- What the attempts meet, and what the provider answers; `none` is a failure. -/
structure Script where
  outcome : Nat → Except NetError ResponseHead
  unauthorized : Nat → Option AuthAction := fun _ => none

namespace Script

def providerFailed : NetError := (NetError.new .providerFailed).withStage .provider

def exchange (script : Script) (attempt : Nat) : Exchange where
  outcome := script.outcome attempt
  unauthorized := match script.unauthorized attempt with
    | some action => .ok action
    | none => .error providerFailed

variable (script : Script) (attempt : Nat)

@[simp] theorem exchange_headers : (script.exchange attempt).headers = none := rfl
@[simp] theorem exchange_outcome : (script.exchange attempt).outcome = script.outcome attempt := rfl
@[simp] theorem exchange_body : (script.exchange attempt).body = none := rfl
@[simp] theorem exchange_classified : (script.exchange attempt).classified = none := rfl
@[simp] theorem exchange_opening : (script.exchange attempt).opening = none := rfl
@[simp] theorem exchange_delivering : (script.exchange attempt).delivering = none := rfl
@[simp] theorem exchange_reading : (script.exchange attempt).reading = {} := rfl

def round (script : Script) (attempt : Nat) : List RetryLoop.LoopAction :=
  [.begin {}, .settle (script.exchange attempt), .resume {}]

/-- Iterations up to the schedule's limit, then the body's end. -/
def actions (script : Script) (first rounds : Nat) : List RetryLoop.LoopAction :=
  (List.range' first rounds).flatMap script.round ++ [.finishBody none {}]

end Script

namespace RetryLoop

/-- A request under a script. -/
def serve (req : RetryRequest) (mode : Mode) (random : UInt64) (script : Script) : RetryLoop :=
  Machine.run (step req mode) (new random) (script.actions 1 req.policy.schedule.maxAttempts)

/-- Both loops are over after the same attempts, delays and refreshes, for one reason. -/
structure Agree (b s : RetryLoop) : Prop where
  isOver : isOver b.stage ∧ isOver s.stage
  attempts : b.state.attempts = s.state.attempts
  delays : b.delays = s.delays
  authRetries : b.authRetries = s.authRetries
  stopReason : b.stopReason = s.stopReason

/-- Where the loops differ: the last attempt meets a retryable 401 after fresh credentials. -/
def BlockedLast (req : RetryRequest) (s : RetryLoop) (head : ResponseHead) : Prop :=
  s.state.attempts = req.policy.schedule.maxAttempts ∧ s.authRetryUsed ∧
    head.status = 401 ∧ req.policy.shouldRetryStatus 401

/-- The step settles the attempt in flight, and not such a last one. -/
def Permitted (req : RetryRequest) (s : RetryLoop) : LoopAction → Prop
  | .settle x => s.stage = .running → ∀ head, x.outcome = .ok head → ¬ BlockedLast req s head
  | _ => True

/-! ## What an iteration decides -/

/-- What an iteration decides. -/
inductive Verdict where
  | retry (auth : Bool) (server : Option Nat)
  | stop (reason : RetryStopReason)

def replay (req : RetryRequest) (s : RetryLoop) (server : Option Nat) : Verdict :=
  if Streaming.allowed req = false then .stop .unsafeToReplay
  else if s.state.attempts < req.policy.schedule.maxAttempts then .retry false server
  else .stop .attemptsExhausted

def delivered (status : Nat) : RetryStopReason :=
  if 200 ≤ status ∧ status < 300 then .completed else .notRetryable

def asks (req : RetryRequest) (s : RetryLoop) (head : ResponseHead) : Bool :=
  head.status = 401 && !s.authRetryUsed && head.authAllowed && Streaming.allowed req &&
    s.state.attempts < req.policy.schedule.maxAttempts && req.auth

/-- What an attempt's outcome leads to. -/
def judge (req : RetryRequest) (s : RetryLoop) (x : Exchange) : Verdict :=
  match x.outcome with
  | .error e =>
    if retryErrorIsEligible e && req.policy.shouldRetryError req.inspect e then replay req s none
    else .stop (stopForError e)
  | .ok head =>
    if asks req s head then
      match x.unauthorized with
      | .error e => .stop (stopForError e)
      | .ok .retryWithFreshCredentials => .retry true head.retryAfter
      | .ok .doNotRetry => .stop .notRetryable
    else if s.authRetryUsed && head.status = 401 then .stop .notRetryable
    else if req.policy.shouldRetryStatus head.status then replay req s head.retryAfter
    else .stop (delivered head.status)

/-- No attempt, delay or authentication retry was added to `s`. -/
structure Same (s t : RetryLoop) : Prop where
  attempts : t.state.attempts = s.state.attempts := by rfl
  delays : t.delays = s.delays := by rfl
  authRetries : t.authRetries = s.authRetries := by rfl

theorem Same.trans {s t u : RetryLoop} (h : Same s t) (h' : Same t u) : Same s u :=
  ⟨h'.attempts.trans h.attempts, h'.delays.trans h.delays, h'.authRetries.trans h.authRetries⟩

/-- `t` is over, and nothing but its reason was added to `s`. -/
structure Stops (s t : RetryLoop) (reason : RetryStopReason) : Prop extends Same s t where
  isOver : isOver t.stage
  stopReason : t.stopReason = some reason

structure Running (s : RetryLoop) : Prop where
  completed : s.completed = false
  stopReason : s.state.stopReason = none

variable {stage : LoopStage} {auth : Bool} {v : Verdict} {e : NetError} {b : RetryLoop}

section Ends

variable {req : RetryRequest} {s : RetryLoop}

variable {state : RetryState} {t u : RetryLoop} {reason : RetryStopReason}
  {result : Except NetError ResponseHead}

theorem finish_stopReason (h : state.stopReason = none) (reason : RetryStopReason) :
    (state.finish reason).stopReason = some reason := by
  rw [RetryState.finish, h]
  rfl

theorem finish_finish (state : RetryState) (first second : RetryStopReason) :
    (state.finish first).finish second = state.finish first := by
  cases h : state.stopReason <;> simp [RetryState.finish, h]

theorem delays_emitTerminal (s : RetryLoop) (reading : Reading) (reason : RetryStopReason) :
    (s.emitTerminal reading reason).delays = s.delays := by
  unfold emitTerminal
  split
  · rfl
  · rw [delays, delays, call, List.filterMap_append]
    exact List.append_nil _

theorem emitTerminal_state (h : s.completed = false) (reading : Reading)
    (reason : RetryStopReason) : (s.emitTerminal reading reason).state = s.state.finish reason := by
  rw [emitTerminal, h]
  rfl

theorem Stops.of_same (h : Stops t u reason) (hsame : Same s t) : Stops s u reason :=
  { h with toSame := hsame.trans h.toSame }

theorem Stops.same {last : RetryStopReason} (h : Stops s t reason) (h' : Stops s u last) :
    Same t u :=
  ⟨h'.attempts.trans h.attempts.symm, h'.delays.trans h.delays.symm,
    h'.authRetries.trans h.authRetries.symm⟩

theorem emitTerminal_stops (h : s.completed = false) (reading : Reading) {last : RetryStopReason}
    (hreason : (s.state.finish last).stopReason = some reason) (hstage : isOver stage)
    (hreported : ∀ e, stage ≠ .done (.error e) false) :
    Stops s { s.emitTerminal reading last with stage } reason where
  isOver := hstage
  attempts := by
    change (s.emitTerminal reading last).state.attempts = _
    rw [emitTerminal_state h, finish_attempts]
  delays := delays_emitTerminal s reading last
  authRetries := by rw [emitTerminal, h]; rfl
  stopReason := by
    rw [RetryLoop.stopReason]
    split
    · rename_i e heq
      exact absurd heq (hreported e)
    · change (s.emitTerminal reading last).state.stopReason = _
      rw [emitTerminal_state h, hreason]

section

variable (h : s.Running) (reading : Reading)
include h

theorem stop_emitTerminal_stops (reason last : RetryStopReason) (hstage : isOver stage)
    (hreported : ∀ e, stage ≠ .done (.error e) false) :
    Stops s { (s.stop reason).emitTerminal reading last with stage } reason := by
  refine Stops.of_same (emitTerminal_stops ?_ reading ?_ hstage hreported)
    { attempts := finish_attempts _ _ }
  · exact h.completed
  · change ((s.state.finish reason).finish last).stopReason = _
    rw [finish_finish, finish_stopReason h.stopReason]

theorem finishHttpResult_stops (result : Except NetError Nat) (reason : RetryStopReason) :
    Stops s (s.finishHttpResult reading result reason) reason :=
  stop_emitTerminal_stops h reading reason _ rfl (by intro e heq; cases heq)

theorem fail_stops (e : NetError) : Stops s (Streaming.fail s reading e) (stopForError e) :=
  emitTerminal_stops h.completed reading (finish_stopReason h.stopReason _) rfl
    (by intro e heq; cases heq)

theorem escape_stops (e : NetError) : Stops s (s.escape reading e) (stopForError e) where
  isOver := rfl
  attempts := by
    change (s.emitTerminal reading .cancelled).state.attempts = _
    rw [emitTerminal_state h.completed, finish_attempts]
  delays := delays_emitTerminal s reading .cancelled
  authRetries := by
    change (s.emitTerminal reading .cancelled).authRetries = _
    rw [emitTerminal, h.completed]
    rfl
  stopReason := rfl

end

/-! ## Carrying out a verdict -/

def flagged (s : RetryLoop) (auth : Bool) : RetryLoop :=
  if auth then { s with authRetryUsed := true } else s

def rescheduled (req : RetryRequest) (s : RetryLoop) (state : RetryState) (base : Nat)
    (server : Option Nat) (auth : Bool) : RetryLoop :=
  { { s with state }.retryScheduled state.attempts (req.policy.retryAfter.select server base) with
    stage := .waiting auth
    authRetries := if auth then s.authRetries ++ [state.attempts] else s.authRetries }

/-- The verdict was carried out; a schedule may fail to give a delay. -/
inductive Carries (req : RetryRequest) (s : RetryLoop) : Verdict → RetryLoop → Prop where
  | stop {t : RetryLoop} {reason : RetryStopReason} (h : Stops s t reason) :
    Carries req s (.stop reason) t
  | retry {auth : Bool} {server : Option Nat} {base : Nat} {state : RetryState}
    (hnext : s.state.nextDelay req.policy.schedule = (.ok (some base), state)) :
    Carries req s (.retry auth server) (rescheduled req (flagged s auth) state base server auth)
  | unscheduled {auth : Bool} {server : Option Nat} {e : Ws.RetryStateError} {state : RetryState}
    {t : RetryLoop} (hnext : s.state.nextDelay req.policy.schedule = (.error e, state))
    (h : Stops s t .policyFailed) : Carries req s (.retry auth server) t

theorem flagged_state (s : RetryLoop) (auth : Bool) : (flagged s auth).state = s.state := by
  cases auth <;> rfl

theorem flagged_running (h : s.Running) (auth : Bool)
    (hreason : state.stopReason = s.state.stopReason) : Running { flagged s auth with state } where
  completed := by cases auth <;> exact h.completed
  stopReason := hreason.trans h.stopReason

theorem Stops.of_flagged (h : Stops { flagged s auth with state } t reason)
    (ha : state.attempts = s.state.attempts) : Stops s t reason := by
  cases auth <;> exact h.of_same { attempts := ha }

theorem nextDelay_ne_none (h : s.state.canRetry req.policy.schedule) (state : RetryState) :
    s.state.nextDelay req.policy.schedule ≠ (.ok none, state) := by
  intro hnext
  unfold RetryState.nextDelay at hnext
  split at hnext
  · cases hnext
  split at hnext
  · rename_i hcan
    rw [h] at hcan
    cases hcan
  · split at hnext
    · cases hnext
    · obtain ⟨random, sample⟩ := RetryState.nextUnit s.state.random
      dsimp only at hnext
      split at hnext <;> cases hnext

theorem schedule_carries (h : s.Running) (hcan : s.state.canRetry req.policy.schedule)
    (reading : Reading) (server : Option Nat) (auth : Bool) : Carries req s (.retry auth server)
      (Streaming.schedule req (flagged s auth) reading server auth) := by
  obtain ⟨hattempts, hreason⟩ := RetryState.nextDelay_keeps req.policy.schedule s.state
  unfold Streaming.schedule
  rw [flagged_state]
  split
  · rename_i e state hnext
    rw [hnext] at hattempts hreason
    exact .unscheduled hnext
      (.of_flagged (fail_stops (flagged_running h auth hreason) _ _) hattempts)
  · rename_i state hnext
    exact absurd hnext (nextDelay_ne_none hcan state)
  · rename_i base state hnext
    exact .retry hnext

/-- Carrying out one verdict twice: an end for one reason, or the same retry. -/
theorem Carries.agree (ht : Carries req s v t) (hu : Carries req s v u) :
    (∃ reason, Stops s t reason ∧ Stops s u reason) ∨ ∃ auth server base state,
        s.state.nextDelay req.policy.schedule = (.ok (some base), state) ∧
        t = rescheduled req (flagged s auth) state base server auth ∧
        u = rescheduled req (flagged s auth) state base server auth := by
  cases ht with
  | stop ht =>
    cases hu with
    | stop hu => exact .inl ⟨_, ht, hu⟩
  | retry hnext =>
    cases hu with
    | retry hnext' =>
      rw [hnext] at hnext'
      cases hnext'
      exact .inr ⟨_, _, _, _, hnext, rfl, rfl⟩
    | unscheduled hnext' =>
      rw [hnext] at hnext'
      cases hnext'
  | unscheduled hnext ht =>
    cases hu with
    | retry hnext' =>
      rw [hnext] at hnext'
      cases hnext'
    | unscheduled _ hu => exact .inl ⟨_, ht, hu⟩

structure Attempting (req : RetryRequest) (s : RetryLoop) : Prop where
  running : s.Running
  noVeto : s.authDoNotRetry = false
  noReason : s.statusStopReason = none
  begun : 0 < s.state.attempts
  bounded : s.state.attempts ≤ req.policy.schedule.maxAttempts

theorem Attempting.canRetry (hs : Attempting req s) : s.state.canRetry req.policy.schedule =
      decide (s.state.attempts < req.policy.schedule.maxAttempts) := by
  simp [RetryState.canRetry, hs.running.stopReason, hs.begun]

theorem Attempting.canRetry_of_lt (hs : Attempting req s)
    (hlt : s.state.attempts < req.policy.schedule.maxAttempts) :
    s.state.canRetry req.policy.schedule :=
  hs.canRetry.trans (decide_eq_true hlt)

/-! ## The buffered loop -/

theorem retryAllowed_eq_allowed (h : req.replayable) :
    Buffered.retryAllowed req = Streaming.allowed req := by
  rw [Buffered.retryAllowed, h, Streaming.allowed]

/-- An iteration that asks for a retry and may have one. -/
theorem buffered_schedule_carries (hs : Attempting req s) (hreplayable : req.replayable)
    (hreplay : Streaming.allowed req)
    (hlt : s.state.attempts < req.policy.schedule.maxAttempts) (reading : Reading)
    (server : Option Nat) (auth : Bool)
    (hrequested : Buffered.requested req (flagged s auth) result .default auth) :
    Carries req s (.retry auth server)
      (Buffered.decide req (flagged s auth) reading result server .default auth) := by
  have hallowed : ¬ Buffered.retryAllowed req = false := by
    simp [retryAllowed_eq_allowed hreplayable, hreplay]
  have hasked : ¬ Buffered.requested req (flagged s auth) result .default auth = false := by
    simp [hrequested]
  have hcan := hs.canRetry_of_lt hlt
  have hleft : ¬ s.state.canRetry req.policy.schedule = false := by simp [hcan]
  obtain ⟨hattempts, hreason⟩ := RetryState.nextDelay_keeps req.policy.schedule s.state
  unfold Buffered.decide
  dsimp only
  rw [if_neg hasked, if_neg hallowed, flagged_state, if_neg hleft]
  split
  · rename_i e state hnext
    rw [hnext] at hattempts hreason
    exact .unscheduled hnext
      (.of_flagged (escape_stops (flagged_running hs.running auth hreason) _ _) hattempts)
  · rename_i state hnext
    exact absurd hnext (nextDelay_ne_none hcan state)
  · rename_i base state hnext
    exact .retry hnext

theorem buffered_replay_carries (hs : Attempting req s) (hreplayable : req.replayable)
    (reading : Reading) {server : Option Nat}
    (hrequested : Buffered.requested req s result .default false) :
    Carries req s (replay req s server)
      (Buffered.decide req s reading result server .default false) := by
  have hallowed := retryAllowed_eq_allowed hreplayable
  have hasked : ¬ Buffered.requested req s result .default false = false := by simp [hrequested]
  unfold replay
  by_cases hreplay : Streaming.allowed req = false
  · rw [if_pos hreplay, Buffered.decide, if_neg hasked, if_pos (hallowed.trans hreplay)]
    exact .stop (finishHttpResult_stops hs.running _ _ _)
  rw [if_neg hreplay]
  by_cases hlt : s.state.attempts < req.policy.schedule.maxAttempts
  · rw [if_pos hlt]
    exact buffered_schedule_carries hs hreplayable (by simpa using hreplay) hlt reading server
      false hrequested
  · have hleft : s.state.canRetry req.policy.schedule = false := by
      rw [hs.canRetry]
      exact decide_eq_false hlt
    rw [if_neg hlt, Buffered.decide, if_neg hasked, if_neg (hallowed ▸ hreplay), if_pos hleft]
    exact .stop (finishHttpResult_stops hs.running _ _ _)

theorem buffered_decide_stops (hs : u.Running) (reading : Reading) (server : Option Nat)
    (hrequested : Buffered.requested req u result .default false = false) :
    Stops u (Buffered.decide req u reading result server .default false)
      (match result with
        | .ok head => delivered head.status
        | .error e => stopForError e) := by
  unfold Buffered.decide
  dsimp only
  rw [if_pos hrequested]
  cases result with
  | ok | error => exact finishHttpResult_stops hs _ _ _

variable {script : Script}

theorem buffered_settle_error (hclassifier : req.policy.classifier = false)
    {attempt : Nat} (houtcome : script.outcome attempt = .error e) :
    Buffered.settle req s (script.exchange attempt) =
      if retryErrorIsEligible e then Buffered.decide req s {} (.error e) none .default false
      else s.terminalError {} e := by
  cases heligible : retryErrorIsEligible e <;>
    simp [Buffered.settle, Buffered.readResponse, Buffered.ineligible, Buffered.serverDelay,
      Buffered.authorize, HttpRetryPolicy.classify, houtcome, hclassifier, heligible]

theorem buffered_settle_ok (hclassifier : req.policy.classifier = false)
    {attempt : Nat} {head : ResponseHead} (houtcome : script.outcome attempt = .ok head) :
    Buffered.settle req s (script.exchange attempt) =
      match Buffered.authorize req s (.ok head) (script.exchange attempt).unauthorized with
      | .error e => s.terminalError {} e
      | .ok (t, auth) => Buffered.decide req t {} (.ok head) head.retryAfter .default auth := by
  cases hauth : Buffered.authorize req s (.ok head) (script.exchange attempt).unauthorized <;>
    simp [Buffered.settle, Buffered.readResponse, Buffered.ineligible, Buffered.serverDelay,
      HttpRetryPolicy.classify, houtcome, hclassifier, hauth]

theorem buffered_authorize (hs : Attempting req s) (hreplayable : req.replayable)
    (head : ResponseHead) (unauthorized : Except NetError AuthAction) :
    Buffered.authorize req s (.ok head) unauthorized =
      if asks req s head then
        match unauthorized with
        | .error e => .error e
        | .ok .retryWithFreshCredentials => .ok ({ s with authRetryUsed := true }, true)
        | .ok .doNotRetry => .ok ({ s with authDoNotRetry := true }, false)
      else .ok (s, false) := by
  simp only [Buffered.authorize, asks, retryAllowed_eq_allowed hreplayable, hs.canRetry]
  all_goals rfl

theorem buffered_settle_carries (hs : Attempting req s) (hreplayable : req.replayable)
    (hclassifier : req.policy.classifier = false) (script : Script) (attempt : Nat) :
    Carries req s (judge req s (script.exchange attempt))
      (Buffered.settle req s (script.exchange attempt)) := by
  unfold judge
  rw [Script.exchange_outcome]
  cases houtcome : script.outcome attempt with
  | error e =>
    rw [buffered_settle_error hclassifier houtcome]
    dsimp only
    cases heligible : retryErrorIsEligible e with
    | false => exact .stop (finishHttpResult_stops hs.running _ _ _)
    | true =>
      cases hshould : req.policy.shouldRetryError req.inspect e with
      | false =>
        have hnot : Buffered.requested req s (.error e) .default false = false := by
          simp [Buffered.requested, hshould]
        exact .stop (buffered_decide_stops hs.running _ _ hnot)
      | true =>
        have hasked : Buffered.requested req s (.error e) .default false := by
          simp [Buffered.requested, hshould]
        exact buffered_replay_carries hs hreplayable _ hasked
  | ok head =>
    rw [buffered_settle_ok hclassifier houtcome]
    dsimp only
    rw [buffered_authorize hs hreplayable]
    cases hask : asks req s head with
    | true =>
      have hstatus : head.status = 401 := by
        simp only [asks, Bool.and_eq_true, decide_eq_true_eq] at hask
        exact hask.1.1.1.1.1
      rw [if_pos rfl, if_pos rfl]
      cases (script.exchange attempt).unauthorized with
      | error e => exact .stop (finishHttpResult_stops hs.running _ _ _)
      | ok action =>
        cases action with
        | retryWithFreshCredentials =>
          simp only [asks, Bool.and_eq_true, decide_eq_true_eq] at hask
          exact buffered_schedule_carries hs hreplayable hask.1.1.2 hask.1.2 _ _ true rfl
        | doNotRetry =>
          have hveto : Buffered.requested req { s with authDoNotRetry := true } (.ok head) .default
              false = false := by
            simp [Buffered.requested, hstatus]
          have hstops := buffered_decide_stops (u := { s with authDoNotRetry := true })
            ⟨hs.running.completed, hs.running.stopReason⟩ {} head.retryAfter hveto
          dsimp only at hstops
          rw [hstatus] at hstops
          exact .stop (hstops.of_same {})
    | false =>
      rw [if_neg Bool.false_ne_true, if_neg Bool.false_ne_true]
      dsimp only
      by_cases hblocked : (s.authRetryUsed && head.status = 401)
      · have hnot : Buffered.requested req s (.ok head) .default false = false := by
          simp only [Bool.and_eq_true, decide_eq_true_eq] at hblocked
          simp [Buffered.requested, hblocked.1, hblocked.2]
        have hstops := buffered_decide_stops hs.running {} head.retryAfter hnot
        simp only [Bool.and_eq_true, decide_eq_true_eq] at hblocked
        dsimp only at hstops
        rw [hblocked.2] at hstops
        rw [if_pos (by simp [hblocked])]
        exact .stop hstops
      · rw [if_neg hblocked]
        have hrequested : Buffered.requested req s (.ok head) .default false =
            req.policy.shouldRetryStatus head.status := by
          simp only [Bool.and_eq_true, decide_eq_true_eq, not_and] at hblocked
          by_cases hused : s.authRetryUsed
          · simp [Buffered.requested, hblocked hused]
          · simp [Buffered.requested, hused, hs.noVeto]
        cases hshould : req.policy.shouldRetryStatus head.status with
        | false => exact .stop (buffered_decide_stops hs.running _ _ (hrequested.trans hshould))
        | true => exact buffered_replay_carries hs hreplayable _ (hrequested.trans hshould)

/-! ## The streaming loop -/

def closed (req : RetryRequest) (s : RetryLoop) : RetryLoop :=
  step req .streaming s (.finishBody none {})

/-- The provider was not asked, or had nothing against the response. -/
structure Delivering (s t : RetryLoop) : Prop extends Same s t where
  running : t.Running
  noReason : t.statusStopReason = none

/-- The reason of a response whose body goes to the caller. -/
def deliveryReason (req : RetryRequest) (s : RetryLoop) (status : Nat) (blocked : Bool) :
    RetryStopReason :=
  let last := s.state.attempts == req.policy.schedule.maxAttempts
  if req.policy.shouldRetryStatus status && !blocked then
    if Streaming.allowed req = false then .unsafeToReplay
    else if last then .attemptsExhausted
    else .notRetryable
  else if 200 ≤ status ∧ status < 300 then .completed
  else if last && req.policy.shouldRetryStatus status then .attemptsExhausted
  else .notRetryable

theorem deliver_stops (ht : Delivering s t) (script : Script) (attempt : Nat) (status : Nat)
    (blocked : Bool) :
    Stops s (closed req (Streaming.deliver req t (script.exchange attempt) status blocked))
      (deliveryReason req t status blocked) := by
  unfold Streaming.deliver closed deliveryReason
  simp only [Script.exchange_opening, Script.exchange_delivering, step]
  unfold Streaming.finishBody
  dsimp only
  by_cases hretry : (req.policy.shouldRetryStatus status && !blocked)
  · rw [if_pos hretry, if_pos hretry]
    refine Stops.of_same (stop_emitTerminal_stops ?_ {} _ _ rfl ?_) { ht.toSame with }
    · exact ⟨ht.running.completed, ht.running.stopReason⟩
    · intro e heq
      cases heq
  · rw [if_neg hretry, if_neg hretry, ht.noReason]
    refine Stops.of_same (emitTerminal_stops ?_ {} (finish_stopReason ?_ _) rfl ?_)
      { ht.toSame with }
    · exact ht.running.completed
    · exact ht.running.stopReason
    · intro e heq
      cases heq

theorem Carries.closed (h : Carries req s v t) : Carries req s v (closed req t) := by
  cases h with
  | stop hstops =>
    rw [RetryLoop.closed, step_over hstops.isOver]
    exact .stop hstops
  | retry hnext => exact .retry hnext
  | unscheduled hnext hstops =>
    rw [RetryLoop.closed, step_over hstops.isOver]
    exact .unscheduled hnext hstops

theorem retryAllowed_eq (hs : Attempting req s) :
    (Streaming.retryAllowed req && decide (s.state.attempts < req.policy.schedule.maxAttempts)) =
      (Streaming.allowed req && decide (s.state.attempts < req.policy.schedule.maxAttempts)) := by
  have hbegun := hs.begun
  by_cases hlt : s.state.attempts < req.policy.schedule.maxAttempts
  · have hmany : 1 < req.policy.schedule.maxAttempts := by omega
    simp [Streaming.retryAllowed, hmany]
  · simp [hlt]

theorem streaming_error_carries (hs : Attempting req s) {attempt : Nat}
    (houtcome : script.outcome attempt = .error e) :
    Carries req s (judge req s (script.exchange attempt))
      (Streaming.settle req s (script.exchange attempt)) := by
  have hphase : retryErrorIsEligible e →
      (e.context.httpTimeoutPhase ∉ [some .admission, some .total]) := by
    intro heligible
    simp only [retryErrorIsEligible, Bool.and_eq_true, decide_eq_true_eq] at heligible
    exact heligible.1.1
  unfold Streaming.settle judge Streaming.decide replay
  simp only [Script.exchange_headers, Script.exchange_outcome, Script.exchange_reading, houtcome,
    retryAllowed_eq hs]
  cases hretryable : retryErrorIsEligible e && req.policy.shouldRetryError req.inspect e with
  | false =>
    simp only [Bool.and_false, Bool.false_and, Bool.false_eq_true, if_false]
    exact .stop (fail_stops hs.running _ _)
  | true =>
    simp only [Bool.and_eq_true] at hretryable
    simp only [Bool.and_true, hphase hretryable.1, not_false_eq_true, decide_true, if_true]
    by_cases hreplay : Streaming.allowed req = false
    · simp only [hreplay, Bool.false_and, Bool.false_eq_true, if_false, if_true]
      exact .stop (stop_emitTerminal_stops hs.running _ _ _ rfl (by intro e heq; cases heq))
    by_cases hlt : s.state.attempts < req.policy.schedule.maxAttempts
    · simp only [Bool.not_eq_false] at hreplay
      simp only [hreplay, hlt, decide_true, Bool.and_true, if_true, Bool.true_eq_false, if_false]
      exact schedule_carries hs.running (hs.canRetry_of_lt hlt) _ _ false
    · simp only [hreplay, hlt, decide_false, Bool.and_false, Bool.false_eq_true, if_false]
      exact .stop (stop_emitTerminal_stops hs.running _ _ _ rfl (by intro e heq; cases heq))

theorem Attempting.delivering (hs : Attempting req s) : Delivering s s where
  running := hs.running
  noReason := hs.noReason

section

variable (hs : Attempting req s) {script : Script} {attempt : Nat} {head : ResponseHead}
  (houtcome : script.outcome attempt = .ok head)
include hs head houtcome

theorem streaming_decide_carries (hnot : ¬ BlockedLast req s head) : Carries req s
      (if s.authRetryUsed && head.status = 401 then .stop .notRetryable
        else if req.policy.shouldRetryStatus head.status then replay req s head.retryAfter
        else .stop (delivered head.status))
      (closed req (Streaming.decide req s (script.exchange attempt))) := by
  have hstops : ∀ blocked, Stops s
      (closed req (Streaming.deliver req s (script.exchange attempt) head.status blocked))
      (deliveryReason req s head.status blocked) :=
    deliver_stops hs.delivering script attempt head.status
  unfold Streaming.decide
  simp only [Script.exchange_outcome, Script.exchange_reading, houtcome, retryAllowed_eq hs,
    hs.noVeto, Bool.or_false, beq_eq_decide]
  cases hblocked : s.authRetryUsed && decide (head.status = 401) with
  | true =>
    simp only [Bool.not_true, Bool.and_false, Bool.false_eq_true, if_false, if_true]
    refine .stop ?_
    have hreason : deliveryReason req s head.status true = .notRetryable := by
      simp only [Bool.and_eq_true, decide_eq_true_eq] at hblocked
      have hlast : (s.state.attempts == req.policy.schedule.maxAttempts &&
          req.policy.shouldRetryStatus 401) = false := by
        by_contra hlast
        simp only [Bool.not_eq_false, Bool.and_eq_true, beq_iff_eq] at hlast
        exact hnot ⟨hlast.1, hblocked.1, hblocked.2, hlast.2⟩
      simp [deliveryReason, hblocked.2, hlast]
    exact hreason ▸ hstops true
  | false =>
    simp only [Bool.not_false, Bool.and_true, Bool.false_eq_true, if_false]
    cases hshould : req.policy.shouldRetryStatus head.status with
    | false =>
      simp only [Bool.and_false, Bool.false_eq_true, if_false]
      have hreason : deliveryReason req s head.status false = delivered head.status := by
        simp [deliveryReason, delivered, hshould]
      exact .stop (hreason ▸ hstops false)
    | true =>
      simp only [Bool.and_true, if_true]
      unfold replay
      by_cases hreplay : Streaming.allowed req = false
      · have hreason : deliveryReason req s head.status false = .unsafeToReplay := by
          simp [deliveryReason, hshould, hreplay]
        simp only [hreplay, Bool.false_and, Bool.false_eq_true, if_false, if_true]
        exact .stop (hreason ▸ hstops false)
      · simp only [Bool.not_eq_false] at hreplay
        by_cases hlt : s.state.attempts < req.policy.schedule.maxAttempts
        · simp only [hreplay, hlt, decide_true, Bool.and_true, if_true, Bool.true_eq_false,
            if_false]
          exact (schedule_carries hs.running (hs.canRetry_of_lt hlt) _ _ false).closed
        · have hlast : s.state.attempts = req.policy.schedule.maxAttempts :=
            Nat.le_antisymm hs.bounded (Nat.le_of_not_lt hlt)
          have hreason : deliveryReason req s head.status false = .attemptsExhausted := by
            simp [deliveryReason, hshould, hreplay, hlast]
          simp only [hreplay, hlt, decide_false, Bool.and_false, Bool.false_eq_true, if_false,
            Bool.true_eq_false]
          exact .stop (hreason ▸ hstops false)

/-- A veto of the provider before the last attempt. -/
theorem streaming_veto_stops (hstatus : head.status = 401)
    (hlt : s.state.attempts < req.policy.schedule.maxAttempts) :
    Stops s (closed req
      (Streaming.decide req { s with authDoNotRetry := true } (script.exchange attempt)))
      .notRetryable := by
  have ht : Delivering s { s with authDoNotRetry := true } :=
    { running := ⟨hs.running.completed, hs.running.stopReason⟩, noReason := hs.noReason }
  have hreason : deliveryReason req { s with authDoNotRetry := true } 401 true =
      .notRetryable := by
    simp [deliveryReason, Nat.ne_of_lt hlt]
  unfold Streaming.decide
  simp only [Script.exchange_outcome, houtcome, hstatus, Bool.or_true, Bool.true_and,
    beq_self_eq_true,
    Bool.not_true, Bool.and_false, Bool.false_eq_true, if_false]
  exact hreason ▸ deliver_stops ht script attempt 401 true

/-- The case the loops do not agree on: the flag of the body overrules the veto. -/
theorem streaming_blocked_stops (hlast : BlockedLast req s head) :
    Stops s (closed req (Streaming.settle req s (script.exchange attempt))) .attemptsExhausted := by
  obtain ⟨hattempts, hused, hstatus, hshould⟩ := hlast
  have hreason : deliveryReason req s 401 true = .attemptsExhausted := by
    simp [deliveryReason, hattempts, hshould]
  unfold Streaming.settle Streaming.decide
  simp only [Script.exchange_headers, Script.exchange_outcome, houtcome, hstatus, hused,
    Bool.not_true, Bool.and_false, Bool.false_and, Bool.false_eq_true, if_false, Bool.true_or,
    Bool.true_and, beq_self_eq_true]
  exact hreason ▸ deliver_stops hs.delivering script attempt 401 true

end

theorem streaming_settle_carries (hs : Attempting req s) (script : Script) (attempt : Nat)
    (hnot : ∀ head, script.outcome attempt = .ok head → ¬ BlockedLast req s head) :
    Carries req s (judge req s (script.exchange attempt))
      (closed req (Streaming.settle req s (script.exchange attempt))) := by
  cases houtcome : script.outcome attempt with
  | error e => exact (streaming_error_carries hs houtcome).closed
  | ok head =>
    unfold judge Streaming.settle
    simp only [Script.exchange_headers, Script.exchange_outcome, Script.exchange_reading, houtcome]
    cases hask : asks req s head with
    | false =>
      have hcond := hask
      unfold asks at hcond
      simp only [hcond, Bool.false_eq_true, if_false]
      exact streaming_decide_carries hs houtcome (hnot head houtcome)
    | true =>
      have hcond := hask
      unfold asks at hcond
      simp only [hcond, if_true]
      simp only [Bool.and_eq_true, decide_eq_true_eq] at hcond
      have hlt := hcond.1.2
      cases (script.exchange attempt).unauthorized with
      | error e => exact Carries.closed (.stop (fail_stops hs.running _ _))
      | ok action =>
        cases action with
        | retryWithFreshCredentials =>
          exact (schedule_carries hs.running (hs.canRetry_of_lt hlt) _ _ true).closed
        | doNotRetry => exact .stop (streaming_veto_stops hs houtcome hcond.1.1.1.1.1 hlt)

/-! ## Whole runs -/

structure Ready (req : RetryRequest) (s : RetryLoop) : Prop where
  stage : s.stage = .ready
  running : s.Running
  noVeto : s.authDoNotRetry = false
  noReason : s.statusStopReason = none
  left : s.state.attempts < req.policy.schedule.maxAttempts

def begun (s : RetryLoop) : RetryLoop where
  state := { s.state with attempts := s.state.attempts + 1, pendingDelay := none }
  currentAttempt := some (s.state.attempts + 1)
  completed := s.completed
  authRetryUsed := s.authRetryUsed
  authDoNotRetry := s.authDoNotRetry
  statusStopReason := s.statusStopReason
  stage := .running
  authRetries := s.authRetries
  calls := s.calls ++ [.attemptStarted (s.state.attempts + 1)]

theorem Ready.attempting (h : Ready req s) : Attempting req (begun s) :=
  { h with
    running := ⟨h.running.completed, h.running.stopReason⟩
    begun := Nat.succ_pos _
    bounded := h.left }

theorem Ready.attemptStarted (h : Ready req s) :
    ∃ t, s.attemptStarted req.policy = .ok t ∧ { t with stage := .running } = begun s := by
  have hfit : s.state.attempts + 1 ≤ Checked.u32Max :=
    Nat.le_trans h.left req.policy.attempts_fit
  have hadd : Checked.checkedAdd Checked.u32Max s.state.attempts 1 = some (s.state.attempts + 1) :=
    Checked.checkedAdd_eq_some.mpr ⟨rfl, hfit⟩
  have hbegin : s.state.beginAttempt req.policy.schedule =
      .ok (s.state.attempts + 1,
        { s.state with attempts := s.state.attempts + 1, pendingDelay := none }) := by
    simp [RetryState.beginAttempt, h.running.stopReason, Nat.not_le_of_lt h.left, hadd]
  refine ⟨_, by rw [RetryLoop.attemptStarted, hbegin], rfl⟩

theorem Ready.begin (h : Ready req s) (hreplayable : req.replayable) (mode : Mode) :
    step req mode s (.begin {}) = begun s := by
  obtain ⟨t, hstarted, hbegun⟩ := h.attemptStarted
  unfold step
  rw [h.stage]
  cases mode with
  | buffered => simp [Buffered.begin, hreplayable, hstarted, hbegun]
  | streaming => simp [Streaming.begin, hstarted, hbegun]

theorem rescheduled_ready (h : Ready req s) {base : Nat} (auth : Bool) (server : Option Nat)
    (hnext : (begun s).state.nextDelay req.policy.schedule = (.ok (some base), state)) :
    Ready req
      { rescheduled req (flagged (begun s) auth) state base server auth with stage := .ready } ∧
      state.attempts = s.state.attempts + 1 := by
  have hbound := RetryState.lt_of_nextDelay hnext
  obtain ⟨hattempts, hreason⟩ :=
    RetryState.nextDelay_keeps req.policy.schedule (begun s).state
  rw [hnext] at hattempts hreason
  refine ⟨?_, hattempts⟩
  have hleft : state.attempts < req.policy.schedule.maxAttempts := by
    rw [show state.attempts = (begun s).state.attempts from hattempts]
    exact hbound
  cases auth <;>
    exact ⟨rfl, ⟨h.running.completed, hreason.trans h.running.stopReason⟩, h.noVeto, h.noReason,
      hleft⟩

theorem resume_rescheduled (mode : Mode) (state : RetryState) (base : Nat)
    (server : Option Nat) (auth : Bool) :
    step req mode (rescheduled req s state base server auth) (.resume {}) =
      { rescheduled req s state base server auth with stage := .ready } := by
  cases mode <;> cases auth <;> rfl

/-- What both loops end with; the reason agrees if `permitted`. -/
structure Outcome (permitted : Prop) (b t : RetryLoop) : Prop extends Same t b where
  isOver : isOver b.stage ∧ isOver t.stage
  stopReason : b.stopReason = t.stopReason ↔ permitted

theorem actions_succ (script : Script) (first rounds : Nat) :
    script.actions first (rounds + 1) =
      script.round first ++ script.actions (first + 1) rounds := by
  rw [Script.actions, Script.actions, List.range'_succ, List.flatMap_cons, List.append_assoc]

theorem closed_eq (req : RetryRequest) (s : RetryLoop) :
    closed req s = s ∨ isOver (closed req s).stage ∧
      ∃ status exhausted, s.stage = .body status exhausted := by
  unfold closed step
  cases hstage : s.stage with
  | body status exhausted => exact .inr ⟨rfl, status, exhausted, rfl⟩
  | ready | running | waiting | done | dropped => exact .inl rfl

theorem stage_of_closed_over (h : isOver (closed req s).stage) :
    isOver s.stage ∨ ∃ status exhausted, s.stage = .body status exhausted := by
  obtain heq | ⟨-, hbody⟩ := closed_eq req s
  · exact .inl (heq ▸ h)
  · exact .inr hbody

theorem eq_of_closed_waiting (h : (closed req s).stage = .waiting auth) : closed req s = s := by
  obtain heq | ⟨hover, -⟩ := closed_eq req s
  · exact heq
  · rw [h] at hover
    cases hover

theorem run_closed (h : isOver (closed req s).stage) (script : Script) (first rounds : Nat) :
    Machine.run (step req .streaming) s (script.actions first rounds) = closed req s := by
  have hfixed : Machine.run (step req .streaming) s
      ((List.range' first rounds).flatMap script.round) = s := by
    apply Machine.run_fixed
    intro a ha
    obtain ⟨attempt, -, hround⟩ := List.mem_flatMap.mp ha
    simp only [Script.round, List.mem_cons, List.not_mem_nil, or_false] at hround
    obtain hover | ⟨status, exhausted, hstage⟩ := stage_of_closed_over h
    · exact step_over hover _ _
    · obtain rfl | rfl | rfl := hround <;> simp only [step, hstage]
  rw [Script.actions, Machine.run_append, hfixed]
  rfl

theorem run_over (h : isOver s.stage) (mode : Mode) (acts : List LoopAction) :
    Machine.run (step req mode) s acts = s :=
  Machine.run_fixed fun a _ => step_over h mode a

theorem run_settled (h : isOver (closed req s).stage) (script : Script) (first rounds : Nat) :
    Machine.run (step req .streaming) (step req .streaming s (.resume {}))
      (script.actions first rounds) = closed req s := by
  have hstays : step req .streaming s (.resume {}) = s := by
    obtain hover | ⟨status, exhausted, hstage⟩ := stage_of_closed_over h
    · exact step_over hover _ _
    · simp only [step, hstage]
  rw [hstays, run_closed h]

theorem along_over (h : isOver s.stage) (acts : List LoopAction) :
    Machine.Along (step req .buffered) (Permitted req) s acts := by
  induction acts with
  | nil => trivial
  | cons a acts ih =>
    refine ⟨?_, ?_⟩
    · cases a with
      | settle x =>
        intro hrunning
        rw [hrunning] at h
        cases h
      | begin | resume | finishBody | drop => trivial
    · rw [step_over h]
      exact ih

/-- Whether a round is permitted is decided where its attempt is settled. -/
theorem along_round (hs : Ready req s) (hreplayable : req.replayable) (script : Script)
    (rounds : Nat) : Machine.Along (step req .buffered) (Permitted req) s
        (script.actions (s.state.attempts + 1) (rounds + 1)) ↔
      (∀ head, script.outcome (s.state.attempts + 1) = .ok head →
        ¬ BlockedLast req (begun s) head) ∧ Machine.Along (step req .buffered) (Permitted req)
        (step req .buffered
          (Buffered.settle req (begun s) (script.exchange (s.state.attempts + 1))) (.resume {}))
        (script.actions (s.state.attempts + 1 + 1) rounds) := by
  rw [actions_succ, Script.round]
  simp only [List.cons_append, List.nil_append, Machine.Along, hs.begin hreplayable, Permitted,
    Script.exchange_outcome, true_and]
  constructor
  · rintro ⟨hsettle, hrest⟩
    exact ⟨hsettle rfl, hrest⟩
  · rintro ⟨hsettle, hrest⟩
    exact ⟨fun _ => hsettle, hrest⟩

/-- The two loops in lock step, from a state before any attempt. -/
theorem run_outcome (hreplayable : req.replayable)
    (hclassifier : req.policy.classifier = false) (script : Script) (rounds : Nat) :
    ∀ {s : RetryLoop}, Ready req s → s.state.attempts + rounds = req.policy.schedule.maxAttempts →
      Outcome (Machine.Along (step req .buffered) (Permitted req) s
          (script.actions (s.state.attempts + 1) rounds))
        (Machine.run (step req .buffered) s (script.actions (s.state.attempts + 1) rounds))
        (Machine.run (step req .streaming) s (script.actions (s.state.attempts + 1) rounds)) := by
  induction rounds with
  | zero =>
    intro s hs hsum
    have hleft := hs.left
    omega
  | succ rounds ih =>
    intro s hs hsum
    have hbuffered := buffered_settle_carries hs.attempting hreplayable hclassifier script
      (s.state.attempts + 1)
    have hbegin : ∀ mode, Machine.run (step req mode) s
        (script.actions (s.state.attempts + 1) (rounds + 1)) =
        Machine.run (step req mode)
          (step req mode (step req mode (begun s)
            (.settle (script.exchange (s.state.attempts + 1)))) (.resume {}))
          (script.actions (s.state.attempts + 1 + 1) rounds) := by
      intro mode
      rw [actions_succ, Machine.run_append, Script.round]
      simp only [Machine.run_cons, Machine.run_nil, hs.begin hreplayable]
    rw [hbegin, hbegin, along_round hs hreplayable]
    change Outcome _
      (Machine.run (step req .buffered) (step req .buffered (Buffered.settle req (begun s) _) _) _)
      (Machine.run (step req .streaming)
        (step req .streaming (Streaming.settle req (begun s) _) _) _)
    by_cases hblocked : ∃ head, script.outcome (s.state.attempts + 1) = .ok head ∧
        BlockedLast req (begun s) head
    · obtain ⟨head, houtcome, hlast⟩ := hblocked
      have ht := streaming_blocked_stops hs.attempting houtcome hlast
      have hjudged : judge req (begun s) (script.exchange (s.state.attempts + 1)) =
          .stop .notRetryable := by
        obtain ⟨-, hused, hstatus, -⟩ := hlast
        simp [judge, houtcome, asks, hused, hstatus]
      rw [hjudged] at hbuffered
      cases hbuffered with
      | stop hb =>
        rw [step_over hb.isOver, run_over hb.isOver, run_settled ht.isOver]
        refine ⟨ht.same hb, ⟨hb.isOver, ht.isOver⟩, iff_of_false ?_
          fun h => h.1 head houtcome hlast⟩
        rw [hb.stopReason, ht.stopReason]
        exact nofun
    · have hnot : ∀ head, script.outcome (s.state.attempts + 1) = .ok head →
          ¬ BlockedLast req (begun s) head := fun head houtcome hlast =>
        hblocked ⟨head, houtcome, hlast⟩
      have hstreaming := streaming_settle_carries hs.attempting script (s.state.attempts + 1) hnot
      obtain ⟨reason, hb, ht⟩ | ⟨auth, server, base, state, hnext, hb, ht⟩ :=
        hbuffered.agree hstreaming
      · rw [step_over hb.isOver, run_over hb.isOver, run_settled ht.isOver]
        exact ⟨ht.same hb, ⟨hb.isOver, ht.isOver⟩,
          iff_of_true (hb.stopReason.trans ht.stopReason.symm) ⟨hnot, along_over hb.isOver _⟩⟩
      -- Both loops wait for the same retry and meet in the next round.
      obtain ⟨hready, hattempts⟩ := rescheduled_ready hs auth server hnext
      have heq := eq_of_closed_waiting (s := Streaming.settle req (begun s) _)
        (congrArg RetryLoop.stage ht)
      rw [hb, ← heq, ht, resume_rescheduled, resume_rescheduled]
      have hrest := ih hready (by
        change state.attempts + rounds = _
        omega)
      change Outcome (Machine.Along _ _ _ (script.actions (state.attempts + 1) rounds))
        (Machine.run _ _ (script.actions (state.attempts + 1) rounds))
        (Machine.run _ _ (script.actions (state.attempts + 1) rounds)) at hrest
      rw [hattempts] at hrest
      exact { hrest with stopReason := hrest.stopReason.trans (and_iff_right hnot).symm }

end Ends

/-- Without a classifier, a replayable request makes the same attempts with the same delays, uses
fresh credentials after the same attempt and stops for the same reason in both loops, unless its
last attempt is unauthorized after fresh credentials were tried. -/
theorem retry_loops_agree_iff (req : RetryRequest) (random : UInt64) (script : Script)
    (hreplayable : req.replayable = true) (hclassifier : req.policy.classifier = false) :
    Agree (serve req .buffered random script) (serve req .streaming random script) ↔
      Machine.Along (step req .buffered) (Permitted req) (new random)
        (script.actions 1 req.policy.schedule.maxAttempts) := by
  have houtcome : Outcome _ (serve req .buffered random script)
      (serve req .streaming random script) :=
    run_outcome hreplayable hclassifier script _
      ⟨rfl, ⟨rfl, rfl⟩, rfl, rfl, req.policy.attempts_pos⟩ (Nat.zero_add _)
  constructor
  · intro hagree
    exact houtcome.stopReason.mp hagree.stopReason
  · intro hpermitted
    exact ⟨houtcome.isOver, houtcome.attempts, houtcome.delays, houtcome.authRetries,
      houtcome.stopReason.mpr hpermitted⟩

/-- Two attempts, immediate retries, 401 retryable. -/
def twiceOnUnauthorized : RetryRequest where
  policy := {
    schedule := { maxAttempts := 2, sampledDelay := fun _ _ => .ok 0 }
    retryOn := { statuses := [401] }
    attempts_pos := by decide
    attempts_fit := by decide }
  method := .get
  auth := true

/-- Fresh credentials, and a server that accepts none. -/
def unauthorizedTwice : Script where
  outcome _ := .ok { status := 401, authAllowed := true }
  unauthorized _ := some .retryWithFreshCredentials

/-- The last response is not retryable, and a streaming request reports exhaustion. -/
theorem streaming_reports_exhaustion :
    (serve twiceOnUnauthorized .buffered 0 unauthorizedTwice).stopReason = some .notRetryable ∧
    (serve twiceOnUnauthorized .streaming 0 unauthorizedTwice).stopReason =
      some .attemptsExhausted := by
  decide +kernel

/-- A server that accepts the fresh credentials. -/
def unauthorizedOnce : Script where
  outcome attempt := .ok { status := if attempt = 1 then 401 else 200, authAllowed := true }
  unauthorized _ := some .retryWithFreshCredentials

theorem retry_loops_agree_accepted : Agree (serve twiceOnUnauthorized .buffered 0 unauthorizedOnce)
      (serve twiceOnUnauthorized .streaming 0 unauthorizedOnce) := by
  refine (retry_loops_agree_iff twiceOnUnauthorized 0 unauthorizedOnce rfl rfl).mpr ?_
  refine ⟨trivial, ?_, trivial, trivial, ?_, trivial, trivial, trivial⟩
  -- The first attempt is not the last one of the schedule.
  · rintro - head - ⟨hlast, -⟩
    revert hlast
    decide +kernel
  -- The second one is not unauthorized.
  · rintro - head houtcome ⟨-, -, hstatus, -⟩
    cases houtcome
    cases hstatus

end RetryLoop

end OpenNet.Http
