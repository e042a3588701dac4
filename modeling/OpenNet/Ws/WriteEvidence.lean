import OpenNet.Ws.Writer

/-!
# What is known about data that was sent

While a message is written, the writer and the control of its operation keep evidence of their
own about its data.
-/

namespace OpenNet.Ws

/-! ## Evidence in a control -/

namespace OperationState

def Confirmed (s : OperationState) : Prop :=
  s.delivery = .responseConfirmed ∧ ∃ success, s.result = some (.ok success)

def Failed (s : OperationState) : Prop := ∃ error, s.result = some (.error error)

def Launched (s : OperationState) : Prop := s.dataInFlight ∨ s.Confirmed

/-- What is known about the data of an operation is not forgotten. -/
structure Evidence (s s' : OperationState) : Prop where
  confirmed : s.Confirmed → s'.Confirmed
  failed : s.Failed → s'.Failed
  launched : s.Launched → s'.Launched

variable {cfg : OperationConfig} {s s' s'' : OperationState}

theorem failed_of_selectedError (h : s.selectedError.isSome) : s.Failed := by
  unfold selectedError at h
  split at h
  · rename_i error hresult
    exact ⟨error, hresult⟩
  · cases h

theorem Launched.inFlight (h : s.Launched) (hfailed : s.Failed) : s.dataInFlight := by
  rcases h with h | ⟨-, success, hsuccess⟩
  · exact h
  obtain ⟨error, herror⟩ := hfailed
  rw [hsuccess] at herror
  cases herror

theorem Launched.confirmed (h : s.Launched) (hdata : s.dataInFlight = false) : s.Confirmed := by
  rcases h with h | h
  · rw [hdata] at h
    cases h
  · exact h

theorem Confirmed.responseConfirmed (h : s.Confirmed) : s.responseConfirmed :=
  decide_eq_true h.1

namespace Evidence

theorem refl (s : OperationState) : Evidence s s := ⟨id, id, id⟩

theorem trans (h : Evidence s s') (h' : Evidence s' s'') : Evidence s s'' :=
  ⟨h'.confirmed ∘ h.confirmed, h'.failed ∘ h.failed, h'.launched ∘ h.launched⟩

theorem of_active (hactive : s.result = none)
    (hdata : s.dataInFlight → s'.Launched) : Evidence s s' where
  confirmed h := by
    obtain ⟨-, success, hsuccess⟩ := h
    rw [hactive] at hsuccess
    cases hsuccess
  failed h := by
    obtain ⟨error, herror⟩ := h
    rw [hactive] at herror
    cases herror
  launched h := by
    rcases h with h | ⟨-, success, hsuccess⟩
    · exact hdata h
    · rw [hactive] at hsuccess
      cases hsuccess

theorem of_frame (hresult : s'.result = s.result)
    (hdelivery : s.delivery = .responseConfirmed → s'.delivery = .responseConfirmed)
    (hdata : s.dataInFlight → s'.dataInFlight) : Evidence s s' := by
  have hconfirmed : s.Confirmed → s'.Confirmed := fun ⟨hd, hr⟩ => ⟨hdelivery hd, hresult ▸ hr⟩
  exact ⟨hconfirmed, fun ⟨error, h⟩ => ⟨error, hresult.trans h⟩, Or.imp hdata hconfirmed⟩

end Evidence

theorem selectFailure_evidence (v : View) (error : NetError) (cause : TaskEndCause) :
    Evidence s (s.selectFailure cfg v error cause).2.2 := by
  cases hresult : s.result with
  | some result =>
    rw [selectFailure_finished (by simp [hresult])]
    exact .refl s
  | none =>
    obtain ⟨_, _, _, _, _, _, _, hdata⟩ := selectFailure_active cfg v hresult error cause
    exact .of_active hresult fun h => .inl (hdata.trans h)

/-- A response that comes before the end of the write confirms the data that was sent. -/
theorem selectResponse_evidence (v : View) :
    Evidence s (s.complete cfg v (s.selectResponse cfg v)).2.2 := by
  unfold selectResponse
  dsimp only
  obtain ⟨error, cause, hfail⟩ | ⟨-, hlate⟩ | ⟨hresult, hwin⟩ :=
    selectSuccess_cases cfg v s false
      (finishLocked cfg v { s with delivery := .responseConfirmed, dataInFlight := false }
        (.ok .responseReceived) .completed { written := true })
  · rw [hfail, complete]
    exact selectFailure_evidence v error cause
  · rw [hlate, complete]
    exact .refl s
  · rw [hwin, complete]
    exact .of_active hresult fun _ => .inr ⟨rfl, _, rfl⟩

theorem startDataWrite_evidence (v : View) (continuation : Bool) :
    Evidence s (s.startDataWrite cfg v continuation).2.2 := by
  obtain ⟨retry, attempt, ⟨-, hstate⟩ | ⟨-, hstate, -⟩⟩ :=
    startDataWrite_effect cfg v s continuation
  · rw [hstate]
    exact .of_frame rfl id id
  · rw [hstate]
    exact .of_frame rfl (fun h => by simp [markInFlight, h]) fun _ => rfl

theorem startDataWrite_launched {v : View} {continuation : Bool}
    (h : (s.startDataWrite cfg v continuation).1 = .ok true) :
    (s.startDataWrite cfg v continuation).2.2.Launched := by
  obtain ⟨retry, attempt, ⟨hrefused, -⟩ | ⟨-, hstate, -⟩⟩ :=
    startDataWrite_effect cfg v s continuation
  · exact absurd h hrefused
  · rw [hstate]
    exact .inl rfl

theorem beginWriteAttempt_evidence (v : View) : Evidence s (s.beginWriteAttempt cfg v).2 := by
  obtain h | ⟨-, -, retry, h⟩ := beginWriteAttempt_effect cfg v s
  · rw [h]
    exact .refl s
  · rw [h]
    exact .of_frame rfl id id

end OperationState

open OperationState

theorem Outside.evidence {cfg : OperationConfig} {s s' : OperationState}
    (h : Outside cfg s s') : Evidence s s' := by
  cases h with
  | deadline deadline => exact .of_frame rfl id id
  | failure v error cause => exact selectFailure_evidence v error cause
  | response v => exact selectResponse_evidence v
  | bind identity active => exact .of_frame rfl id id

/-- Others do not take back what is known about data. -/
theorem Others.evidence {cfg : OperationConfig} {s s' : OperationState}
    (h : Others cfg s s') : Evidence s s' :=
  h.preserves (P := Evidence s) (fun _ _ hmove hs => hs.trans hmove.evidence) (.refl s)

/-! ## Points of the writer -/

/-- The registrations queued for an operation. -/
def Net.tickets (o : OpId) (n : Net) : List (Option RequestRegistration) :=
  QueueRun.tickets o (n.queues .normal) ++ QueueRun.tickets o (n.queues .urgent)

theorem Net.tickets_split (o : OpId) (n : Net) (lane : MessageLane) :
    ∃ rest, (n.tickets o).Perm (QueueRun.tickets o (n.queues lane) ++ rest) ∧
      ∀ session q, (Net.tickets o { session, queues := Function.update n.queues lane q }).Perm
        (QueueRun.tickets o q ++ rest) := by
  cases lane with
  | normal =>
    exact ⟨QueueRun.tickets o (n.queues .urgent), .refl _, fun _ _ => by
      simp [Net.tickets, Function.update]⟩
  | urgent =>
    exact ⟨QueueRun.tickets o (n.queues .normal), List.perm_append_comm, fun _ q => by
      simpa [Net.tickets, Function.update] using List.perm_append_comm⟩

theorem Net.tickets_update {o : OpId} {n : Net} {lane : MessageLane} {q : WriteQueue}
    {session : Session} (brought : List (Option RequestRegistration))
    (h : (QueueRun.tickets o q).Subperm (brought ++ QueueRun.tickets o (n.queues lane))) :
    (Net.tickets o { session, queues := Function.update n.queues lane q }).Subperm
      (brought ++ n.tickets o) := by
  obtain ⟨rest, hbefore, hafter⟩ := n.tickets_split o lane
  refine (hafter session q).subperm.trans (((List.subperm_append_right rest).mpr h).trans ?_)
  rw [List.append_assoc]
  exact (hbefore.symm.append_left brought).subperm

theorem Net.act_tickets (E : SessionConfig) (o : OpId) (n : Net) (lane : MessageLane)
    (a : QueueAction) :
    ((n.act E lane a).tickets o).Subperm (QueueRun.brought o a ++ n.tickets o) :=
  Net.tickets_update _ (QueueRun.step_tickets (n.queueRun lane) a)

namespace Writer

/-- The sink got the frames of `sent`; no ticket entered a queue. -/
structure Silent (o : OpId) (sent : List Submission) (s s' : Writer) : Prop where
  wire : s'.wire = s.wire ++ sent
  tickets : (s'.net.tickets o).Subperm (s.net.tickets o)

/-- The same, and what is known about the operation's data is kept. -/
structure Sends (o : OpId) (sent : List Submission) (s s' : Writer) : Prop
    extends Silent o sent s s' where
  evidence : Evidence (s.op o) (s'.op o)

variable {o : OpId} {sent sent' : List Submission} {s s' s'' : Writer}

theorem Silent.refl (s : Writer) : Silent o [] s s := ⟨by simp, .refl _⟩

theorem Silent.trans (h : Silent o sent s s') (h' : Silent o sent' s' s'') :
    Silent o (sent ++ sent') s s'' :=
  ⟨by rw [h'.wire, h.wire, List.append_assoc], h'.tickets.trans h.tickets⟩

theorem Sends.refl (s : Writer) : Sends o [] s s := ⟨.refl s, .refl _⟩

theorem Sends.trans (h : Sends o sent s s') (h' : Sends o sent' s' s'') :
    Sends o (sent ++ sent') s s'' :=
  ⟨h.toSilent.trans h'.toSilent, h.evidence.trans h'.evidence⟩

theorem silent_withSession (s : Writer) (session : Session) :
    Silent o [] s (s.withSession session) := ⟨by simp [withSession], .refl _⟩

theorem sends_withSession {session : Session} (h : Evidence (s.op o) (session.ops o)) :
    Sends o [] s (s.withSession session) := ⟨silent_withSession s session, h⟩

theorem sends_setOp {state : OperationState} (h : Evidence (s.op o) state) :
    Sends o [] s (s.setOp o state) :=
  sends_withSession (by rwa [Session.setOp_ops, if_pos rfl])

/-! ## What others do -/

variable {E : SessionConfig} {C : WriteConfig} {env : Nat → Answer}

theorem net_other (n : Net) (a : MessageLane × QueueAction) :
    Evidence (n.session.ops o) ((n.other E (some o) a).session.ops o) ∧
      ((n.other E (some o) a).tickets o).Subperm (n.tickets o) := by
  unfold Net.other
  split
  · exact ⟨.refl _, .refl _⟩
  rename_i hconcerns
  rw [Option.any_some, Bool.not_eq_true] at hconcerns
  refine ⟨(QueueRun.step_others (n.queueRun a.1) a.2 hconcerns).evidence, ?_⟩
  have htickets := n.act_tickets E o a.1 a.2
  have hbrought : QueueRun.brought o a.2 = [] := by
    unfold QueueRun.brought
    split
    · rename_i r heq
      rw [if_neg (by simpa [heq, QueueAction.concerns] using hconcerns)]
    · rfl
  rwa [hbrought] at htickets

theorem net_others (n : Net) (as : List (MessageLane × QueueAction)) :
    Evidence (n.session.ops o) ((as.foldl (Net.other E (some o)) n).session.ops o) ∧
      ((as.foldl (Net.other E (some o)) n).tickets o).Subperm (n.tickets o) := by
  induction as generalizing n with
  | nil => exact ⟨.refl _, .refl _⟩
  | cons a as ih =>
    obtain ⟨hevidence, htickets⟩ := net_other (E := E) (o := o) n a
    obtain ⟨hevidence', htickets'⟩ := ih (n.other E (some o) a)
    exact ⟨hevidence.trans hevidence', htickets'.trans htickets⟩

section

variable (E : SessionConfig) (env : Nat → Answer) (o : OpId)

theorem ask_spec (s : Writer) : ∃ a s', s.ask E env (some o) = (a, s') ∧ Sends o [] s s' := by
  obtain ⟨hevidence, htickets⟩ := net_others (E := E) (o := o) s.net (env s.asked).others
  exact ⟨_, _, rfl, ⟨by simp, htickets⟩, hevidence⟩

/-! ## Sections of a write -/

theorem dataWriteStarted_spec (dataStarted : Bool) (s : Writer) :
    ∃ started s', s.dataWriteStarted E env o dataStarted = (started, s') ∧ Sends o [] s s' ∧
      (started = false → dataStarted = false ∧ (s'.op o).dataInFlight = false) := by
  unfold dataWriteStarted
  split
  · exact ⟨true, s, rfl, .refl s, by simp⟩
  rename_i hstarted
  obtain ⟨a, s', hask, hsends⟩ := s.ask_spec E env o
  simp only [hask]
  exact ⟨_, s', rfl, hsends, fun h => ⟨by simpa using hstarted, h⟩⟩

theorem fail_spec (dataStarted : Bool) (failure : Bool → RequestWriteFailure) (s : Writer) :
    ∃ started s', s.fail E env o dataStarted failure = (.error (failure started), s') ∧
      Sends o [] s s' ∧
      (started = false → dataStarted = false ∧ (s'.op o).dataInFlight = false) := by
  obtain ⟨started, s', heq, hspec⟩ := s.dataWriteStarted_spec E env o dataStarted
  simp only [fail, heq]
  exact ⟨started, s', rfl, hspec⟩

theorem startDataWriteLocked_spec (continuation : Bool) (s : Writer) :
    ∃ result s', s.startDataWriteLocked E env o continuation = (result, s') ∧ Sends o [] s s' ∧
      (result = .ok true → (s'.op o).Launched) := by
  obtain ⟨a, s₁, hask, hsends⟩ := s.ask_spec E env o
  simp only [startDataWriteLocked, hask]
  refine ⟨_, _, rfl, hsends.trans (sends_setOp (startDataWrite_evidence _ _)), fun h => ?_⟩
  have hlaunched := startDataWrite_launched h
  rwa [op, setOp, withSession, Session.setOp_ops, if_pos rfl]

theorem startDataWrite_spec (continuation : Bool) (s : Writer) :
    ∃ result s', s.startDataWrite E env o continuation = (result, s') ∧ Sends o [] s s' ∧
      (result = .ok true → (s'.op o).Launched) := by
  obtain ⟨a, s₁, hask, h₁⟩ := s.ask_spec E env o
  simp only [startDataWrite, hask]
  split
  · obtain ⟨result, s₂, heq, h₂, hlaunched⟩ := s₁.startDataWriteLocked_spec E env o continuation
    exact ⟨result, s₂, heq, h₁.trans h₂, hlaunched⟩
  rename_i identity _
  obtain ⟨a', s₂, hask', h₂⟩ := s₁.ask_spec E env o
  simp only [hask']
  split
  · have hrefresh : Sends o [] s₂ (s₂.withSession (s₂.net.session.refreshResponseDeadline E
        (s₂.view a' o) identity.id identity.token)) :=
      sends_withSession ((Session.refreshResponseDeadline_step _ _ _).others o rfl).evidence
    obtain ⟨result, s₃, heq, h₃, hlaunched⟩ :=
      startDataWriteLocked_spec E env o continuation _
    exact ⟨result, s₃, heq, ((h₁.trans h₂).trans hrefresh).trans h₃, hlaunched⟩
  · exact ⟨_, s₂, rfl, h₁.trans h₂, by simp⟩

theorem beginWriteAttempt_spec (s : Writer) :
    ∃ result s', s.beginWriteAttempt E env o = (result, s') ∧ Sends o [] s s' := by
  obtain ⟨a, s₁, hask, h₁⟩ := s.ask_spec E env o
  simp only [beginWriteAttempt, hask]
  exact ⟨_, _, rfl, h₁.trans (sends_setOp (beginWriteAttempt_evidence _))⟩

end

end Writer

/-! ## Failures after data -/

/-- Ends the connection without saying that nothing was sent. -/
structure RequestWriteFailure.Fatal (failure : RequestWriteFailure) : Prop where
  stops : failure.connectionAction ≠ .proceed
  spent : failure.requeue ≠ .waitForReconnect

namespace RequestWriteFailure

variable (error : NetError) (budget : TimeoutBudget) (uncertain : Bool)

theorem connection_stops (dataStarted : Bool) :
    (connection error dataStarted).connectionAction ≠ .proceed := by
  unfold connection
  dsimp only
  split <;> simp

theorem connection_fatal : (connection error true).Fatal :=
  ⟨connection_stops error true, by simp [connection]⟩

theorem cancelled_fatal : (cancelled true).Fatal := ⟨by simp [cancelled], by simp [cancelled]⟩

theorem localClose_fatal (error : Option NetError) : (localClose error).Fatal := by
  refine ⟨?_, by simp [localClose]⟩
  unfold localClose
  dsimp only
  repeat' split
  all_goals simp

theorem deadline_fatal : (deadline true uncertain budget).Fatal :=
  ⟨by simp [deadline], by simp [deadline]⟩

theorem classifyBoundary_fatal : (classifyBoundary error true budget).Fatal := by
  unfold classifyBoundary
  repeat' split
  · exact deadline_fatal budget true
  · exact deadline_fatal budget true
  · exact connection_fatal error

end RequestWriteFailure

open RequestWriteFailure

theorem ControlAction.failure_fatal {action : ControlAction} {budget : TimeoutBudget}
    {failure : RequestWriteFailure} (h : action.failure true budget = some failure) :
    failure.Fatal := by
  unfold ControlAction.failure at h
  split at h
  · cases h
  · cases h
    exact connection_fatal _
  · cases h
    exact localClose_fatal _
  · cases h
    exact localClose_fatal _
  · cases h
    exact classifyBoundary_fatal _ budget

namespace Writer

variable {o : OpId} {s s' : Writer} {E : SessionConfig} {C : WriteConfig} {env : Nat → Answer}

/-- Ends the connection; the request is not sent again unless settled. -/
structure Ends (o : OpId) (failure : RequestWriteFailure) (s : Writer) : Prop where
  stops : failure.connectionAction ≠ .proceed
  settled : failure.requeue = .waitForReconnect → (s.op o).Confirmed

variable {failure : RequestWriteFailure} {s₁ : Writer} {result : WriteResult}
  {frames : List WireFrame} {wroteFrame : Bool}

theorem Ends.of_fatal (h : failure.Fatal) : Ends o failure s :=
  ⟨h.stops, fun hrequeue => absurd hrequeue h.spent⟩

/-- A failure by others stops the connection unless it is the operation's. -/
structure Interrupts (o : OpId) (failure : Bool → RequestWriteFailure) (s : Writer) : Prop where
  fatal : (failure true).Fatal
  stops : (failure false).connectionAction ≠ .proceed ∨ (s.op o).Failed

theorem FrameBudget.timeout_fatal (b : FrameBudget) : (b.timeout true).Fatal := by
  unfold FrameBudget.timeout
  split
  · exact deadline_fatal _ _
  · exact connection_fatal _

theorem interruption_interrupts {b : FrameBudget} {a : Answer}
    {failure : Bool → RequestWriteFailure} (h : s.interruption b o a = some failure) :
    Interrupts o failure s := by
  unfold interruption at h
  split at h
  · split at h
    · rename_i hfailed
      cases h
      exact ⟨cancelled_fatal, .inr (failed_of_selectedError hfailed)⟩
    · cases h
  · cases h
    exact ⟨b.timeout_fatal, .inl (by simp [FrameBudget.timeout, RequestWriteFailure.deadline])⟩
  · cases h
    exact ⟨connection_fatal _, .inl (connection_stops _ false)⟩
  · cases h

/-- Once the sink has data, an interruption ends the connection: data not in flight any more was
confirmed by a response. -/
theorem fail_ends {failure : Bool → RequestWriteFailure} (hlaunched : (s.op o).Launched)
    (h : Interrupts o failure s) (E : SessionConfig) (env : Nat → Answer) (dataStarted : Bool) :
    ∃ failure' s', s.fail E env o dataStarted failure = (.error failure', s') ∧
      Sends o [] s s' ∧ Ends o failure' s' := by
  obtain ⟨started, s', heq, hsends, hstarted⟩ := s.fail_spec E env o dataStarted failure
  refine ⟨_, s', heq, hsends, ?_⟩
  cases started with
  | true => exact .of_fatal h.fatal
  | false =>
    have hdata := (hstarted rfl).2
    have hlaunched' := hsends.evidence.launched hlaunched
    refine ⟨?_, fun _ => hlaunched'.confirmed hdata⟩
    rcases h.stops with hstops | hfailed
    · exact hstops
    · rw [hlaunched'.inFlight (hsends.evidence.failed hfailed)] at hdata
      cases hdata

/-! ## One data frame -/

/-- Not given to the sink; given, and the write fails; or written. -/
inductive FrameSent (o : OpId) (index : Nat) (frame : WireFrame) (dataStarted : Bool)
    (s s' : Writer) : WriteResult → Prop
  | unsent {failure : RequestWriteFailure} (sends : Sends o [] s s')
      (fatal : dataStarted → failure.Fatal) :
      FrameSent o index frame dataStarted s s' (.error failure)
  | failed {failure : RequestWriteFailure} (accepted : Bool)
      (sends : Sends o [⟨o, index, frame, accepted⟩] s s') (ends : Ends o failure s') :
      FrameSent o index frame dataStarted s s' (.error failure)
  | written (sends : Sends o [⟨o, index, frame, true⟩] s s') :
      FrameSent o index frame dataStarted s s' (.ok ())

variable {index : Nat} {frame : WireFrame} {dataStarted : Bool}

theorem FrameSent.after (h : Sends o [] s s₁) {p : WriteResult × Writer}
    (h' : ∃ result s', p = (result, s') ∧ FrameSent o index frame dataStarted s₁ s' result) :
    ∃ result s', p = (result, s') ∧ FrameSent o index frame dataStarted s s' result := by
  obtain ⟨result, s', heq, hsent⟩ := h'
  refine ⟨result, s', heq, ?_⟩
  cases hsent with
  | unsent sends fatal => exact .unsent (h.trans sends) fatal
  | failed accepted sends ends => exact .failed accepted (h.trans sends) ends
  | written sends => exact .written (h.trans sends)

theorem fail_unsent (failure : Bool → RequestWriteFailure) (h : (failure true).Fatal)
    (E : SessionConfig) (env : Nat → Answer) (s : Writer) :
    ∃ result s', s.fail E env o dataStarted failure = (result, s') ∧
      FrameSent o index frame dataStarted s s' result := by
  obtain ⟨started, s', heq, hsends, hstarted⟩ := s.fail_spec E env o dataStarted failure
  refine ⟨_, s', heq, .unsent hsends fun hdata => ?_⟩
  cases started with
  | true => exact h
  | false =>
    rw [(hstarted rfl).1] at hdata
    cases hdata

theorem awaitFlush_spec (E : SessionConfig) (env : Nat → Answer) (b : FrameBudget)
    (dataStarted : Bool) (hlaunched : (s.op o).Launched) :
    ∃ result s', s.awaitFlush E env b o dataStarted = (result, s') ∧ Sends o [] s s' ∧
      ∀ failure, result = .error failure → Ends o failure s' := by
  obtain ⟨a, s₁, hask, h₁⟩ := s.ask_spec E env o
  simp only [awaitFlush, hask]
  split
  · rename_i failure hinterruption
    obtain ⟨failure', s', heq, hsends, hends⟩ := fail_ends (h₁.evidence.launched hlaunched)
      (interruption_interrupts hinterruption) E env dataStarted
    refine ⟨_, s', heq, h₁.trans hsends, ?_⟩
    rintro _ ⟨⟩
    exact hends
  · split
    · refine ⟨_, s₁, rfl, h₁, ?_⟩
      rintro _ ⟨⟩
      exact .of_fatal (connection_fatal _)
    · exact ⟨_, s₁, rfl, h₁, by simp⟩

theorem submit_sends (a : Answer) (o : OpId) (index : Nat) (frame : WireFrame) (s : Writer) :
    Sends o [⟨o, index, frame, a.startSend.isOk⟩] s (s.submit a o index frame) :=
  ⟨⟨rfl, .refl _⟩, .refl _⟩

section

variable (E : SessionConfig) (env : Nat → Answer) (b : FrameBudget) (o : OpId) (index : Nat)
  (frame : WireFrame) (dataStarted : Bool) (s : Writer)

/-- Nothing enters the sink before the control has admitted it. -/
theorem startSend_spec : ∃ result s', s.startSend E env b o index frame dataStarted = (result, s') ∧
      FrameSent o index frame dataStarted s s' result := by
  obtain ⟨a, s₁, hask, h₁⟩ := s.ask_spec E env o
  simp only [startSend, hask]
  split
  · exact FrameSent.after h₁ (fail_unsent _ (connection_fatal (NetError.new .cancelled)) E env s₁)
  split
  · exact FrameSent.after h₁ (fail_unsent (fun started => .deadline started true b.selected)
      (deadline_fatal b.selected true) E env s₁)
  obtain ⟨result, s₂, hstart, h₂, hlaunched⟩ := s₁.startDataWrite_spec E env o dataStarted
  rw [hstart]
  cases result with
  | error error =>
    exact FrameSent.after (h₁.trans h₂) (fail_unsent _ (connection_fatal error) E env s₂)
  | ok mayWrite =>
    obtain ⟨a', s₃, hask', h₃⟩ := s₂.ask_spec E env o
    simp only [hask']
    have hbefore := (h₁.trans h₂).trans h₃
    split
    · exact FrameSent.after hbefore (fail_unsent _ cancelled_fatal E env s₃)
    rename_i hmay
    obtain rfl : mayWrite := by
      rw [Bool.or_eq_true, not_or] at hmay
      simpa using hmay.2
    have hlaunched₃ := h₃.evidence.launched (hlaunched rfl)
    have hsubmit := hbefore.trans (submit_sends a' o index frame s₃)
    split
    · rename_i error herror
      rw [herror] at hsubmit
      exact ⟨_, _, rfl, .failed false hsubmit (.of_fatal (connection_fatal _))⟩
    · rename_i hok
      rw [hok] at hsubmit
      obtain ⟨result, s', heq, hsends, hends⟩ :=
        awaitFlush_spec (s := s₃.submit a' o index frame) E env b dataStarted hlaunched₃
      refine ⟨result, s', heq, ?_⟩
      cases result with
      | error failure => exact .failed true (hsubmit.trans hsends) (hends failure rfl)
      | ok _ => exact .written (hsubmit.trans hsends)

theorem awaitReady_spec :
    ∃ result s', s.awaitReady E env b o index frame dataStarted = (result, s') ∧
      FrameSent o index frame dataStarted s s' result := by
  obtain ⟨a, s₁, hask, h₁⟩ := s.ask_spec E env o
  simp only [awaitReady, hask]
  split
  · rename_i failure hinterruption
    exact FrameSent.after h₁ (fail_unsent _ (interruption_interrupts hinterruption).fatal E env s₁)
  · split
    · rename_i error _
      exact FrameSent.after h₁ (fail_unsent _ (connection_fatal error.error) E env s₁)
    · exact FrameSent.after h₁ (s₁.startSend_spec E env b o index frame dataStarted)

end

theorem sendDataFrame_spec (E : SessionConfig) (C : WriteConfig) (env : Nat → Answer)
    (budget : TimeoutBudget) (o : OpId) (index : Nat) (frame : WireFrame) (dataStarted : Bool)
    (s : Writer) :
    ∃ result s', s.sendDataFrame E C env budget o index frame dataStarted = (result, s') ∧
      FrameSent o index frame dataStarted s s' result := by
  obtain ⟨a, s₁, hask, h₁⟩ := s.ask_spec E env o
  simp only [sendDataFrame, hask]
  split
  · exact ⟨_, s₁, rfl, .unsent h₁ fun hdata => hdata ▸ cancelled_fatal⟩
  split
  · exact ⟨_, s₁, rfl, .unsent h₁ fun hdata => hdata ▸ deadline_fatal _ _⟩
  split
  · exact ⟨_, s₁, rfl, .unsent h₁ fun hdata => hdata ▸ connection_fatal _⟩
  obtain ⟨attempt, s₂, hattempt, h₂⟩ := s₁.beginWriteAttempt_spec E env o
  rw [hattempt]
  cases attempt with
  | error error =>
    exact FrameSent.after (h₁.trans h₂) (fail_unsent _ (connection_fatal error) E env s₂)
  | ok _ =>
    exact FrameSent.after (h₁.trans h₂) (s₂.awaitReady_spec E env _ o index frame dataStarted)

/-! ## Between two frames -/

section

variable (E : SessionConfig) (env : Nat → Answer) (budget : TimeoutBudget) (o : OpId)

theorem drainReadyControls_spec : ∀ (remaining : Nat) (s : Writer),
      ∃ result rest s', s.drainReadyControls E env budget o remaining = (result, rest, s') ∧
        Sends o [] s s'
  | 0, s => by
    obtain ⟨a, s₁, hask, h₁⟩ := s.ask_spec E env o
    simp only [drainReadyControls, hask]
    split <;> exact ⟨_, _, s₁, rfl, h₁⟩
  | remaining + 1, s => by
    obtain ⟨a, s₁, hask, h₁⟩ := s.ask_spec E env o
    simp only [drainReadyControls, hask]
    split
    · exact ⟨_, _, s₁, rfl, h₁⟩
    split
    · exact ⟨_, _, s₁, rfl, h₁⟩
    · exact ⟨_, _, s₁, rfl, h₁⟩
    split
    · obtain ⟨a₂, s₂, hask₂, h₂⟩ := s₁.ask_spec E env o
      simp only [hask₂]
      split
      · exact ⟨_, _, s₂, rfl, h₁.trans h₂⟩
      obtain ⟨a₃, s₃, hask₃, h₃⟩ := s₂.ask_spec E env o
      simp only [hask₃]
      split
      · exact ⟨_, _, s₃, rfl, (h₁.trans h₂).trans h₃⟩
      obtain ⟨result, rest, s', heq, h⟩ :=
        drainReadyControls_spec remaining s₃
      exact ⟨result, rest, s', heq, ((h₁.trans h₂).trans h₃).trans h⟩
    · exact ⟨_, _, s₁, rfl, h₁⟩

/-- A failure after a frame was written is fatal. -/
def FatalAfter {β : Type} (wroteFrame : Bool) : Except RequestWriteFailure β → Prop
  | .error failure => wroteFrame → failure.Fatal
  | .ok _ => True

theorem serveControls_spec (wroteFrame : Bool) (remaining : Nat) (s : Writer) :
    ∃ result s', s.serveControls E env budget o wroteFrame remaining = (result, s') ∧
      Sends o [] s s' ∧ FatalAfter wroteFrame result := by
  obtain ⟨result, rest, s', heq, hsends⟩ := drainReadyControls_spec E env budget o remaining s
  simp only [serveControls, heq]
  cases result with
  | error error =>
    exact ⟨_, s', rfl, hsends, fun hwrote => hwrote ▸ classifyBoundary_fatal error budget⟩
  | ok action =>
    dsimp only
    split
    · rename_i failure hfailure
      refine ⟨_, s', rfl, hsends, ?_⟩
      rintro rfl
      exact ControlAction.failure_fatal hfailure
    · exact ⟨_, s', rfl, hsends, trivial⟩

theorem serveTick_spec (wroteFrame : Bool) (s : Writer) :
    ∃ result s', s.serveTick E env budget o wroteFrame = (result, s') ∧ Sends o [] s s' ∧
      FatalAfter wroteFrame result := by
  obtain ⟨a, s₁, hask, h₁⟩ := s.ask_spec E env o
  simp only [serveTick, hask]
  split
  · split
    · exact ⟨_, s₁, rfl, h₁, fun hwrote => hwrote ▸ deadline_fatal budget true⟩
    · split
      · rename_i error _
        exact ⟨_, s₁, rfl, h₁, fun hwrote => hwrote ▸ classifyBoundary_fatal error budget⟩
      · exact ⟨_, s₁, rfl, h₁, trivial⟩
  · exact ⟨_, s₁, rfl, h₁, trivial⟩

theorem boundary_spec (wroteFrame : Bool) (controls : Nat) (s : Writer) :
    ∃ result s', s.boundary E env budget o wroteFrame controls = (result, s') ∧
      Sends o [] s s' ∧ FatalAfter wroteFrame result := by
  obtain ⟨served, s₁, hserved, h₁, hfatal₁⟩ :=
    s.serveControls_spec E env budget o wroteFrame controls
  simp only [boundary, hserved]
  cases served with
  | error failure => exact ⟨_, s₁, rfl, h₁, hfatal₁⟩
  | ok remaining =>
    obtain ⟨ticked, s₂, hticked, h₂, hfatal₂⟩ := s₁.serveTick_spec E env budget o wroteFrame
    simp only [hticked]
    cases ticked with
    | error failure => exact ⟨_, s₂, rfl, h₁.trans h₂, hfatal₂⟩
    | ok _ =>
      dsimp only
      split
      · obtain ⟨again, s₃, hagain, h₃, hfatal₃⟩ :=
          s₂.serveControls_spec E env budget o wroteFrame remaining
        simp only [hagain]
        cases again with
        | error failure => exact ⟨_, s₃, rfl, (h₁.trans h₂).trans h₃, hfatal₃⟩
        | ok _ => exact ⟨_, s₃, rfl, (h₁.trans h₂).trans h₃, trivial⟩
      · exact ⟨_, s₂, rfl, h₁.trans h₂, trivial⟩

end

/-! ## A message -/

/-- The sink has accepted every frame from a position on. -/
def allSent (o : OpId) : Nat → List WireFrame → List Submission
  | _, [] => []
  | index, frame :: frames => ⟨o, index, frame, true⟩ :: allSent o (index + 1) frames

/-- The sink has accepted the first frames, and may have rejected the next. -/
inductive Begun (o : OpId) : Nat → List WireFrame → List Submission → Prop
  | stopped (index : Nat) (frames : List WireFrame) : Begun o index frames []
  | rejected (index : Nat) (frame : WireFrame) (frames : List WireFrame) :
      Begun o index (frame :: frames) [⟨o, index, frame, false⟩]
  | accepted (index : Nat) (frame : WireFrame) {frames : List WireFrame}
      {sent : List Submission} (rest : Begun o (index + 1) frames sent) :
      Begun o index (frame :: frames) (⟨o, index, frame, true⟩ :: sent)

/-- All accepted, or the write fails, and after any frame ends the connection. -/
inductive MessageSent (o : OpId) (index : Nat) (frames : List WireFrame) (wroteFrame : Bool)
    (s s' : Writer) : WriteResult → Prop
  | written (sends : Sends o (allSent o index frames) s s') :
      MessageSent o index frames wroteFrame s s' (.ok ())
  | failed {failure : RequestWriteFailure} {sent : List Submission} (sends : Sends o sent s s')
      (begun : Begun o index frames sent)
      (ends : wroteFrame ∨ sent ≠ [] → Ends o failure s') :
      MessageSent o index frames wroteFrame s s' (.error failure)

theorem MessageSent.unsent (sends : Sends o [] s s') (fatal : wroteFrame → failure.Fatal) :
    MessageSent o index frames wroteFrame s s' (.error failure) := by
  refine .failed sends (.stopped index frames) ?_
  rintro (hwrote | hsent)
  · exact .of_fatal (fatal hwrote)
  · exact absurd rfl hsent

theorem MessageSent.cons (sends : Sends o [⟨o, index, frame, true⟩] s s₁)
    (h : MessageSent o (index + 1) frames true s₁ s' result) :
    MessageSent o index (frame :: frames) wroteFrame s s' result := by
  cases h with
  | written sends' => exact .written (sends.trans sends')
  | failed sends' begun ends =>
    exact .failed (sends.trans sends') (.accepted index frame begun) fun _ => ends (.inl rfl)

section

variable (E : SessionConfig) (C : WriteConfig) (env : Nat → Answer) (budget : TimeoutBudget)
  (o : OpId)

theorem sendFrames_spec : ∀ (frames : List WireFrame) (index : Nat)
      (wroteFrame : Bool) (controls : Nat) (s : Writer),
      ∃ result s', s.sendFrames E C env budget o frames index wroteFrame controls = (result, s') ∧
        MessageSent o index frames wroteFrame s s' result
  | [], index, wroteFrame, controls, s => ⟨_, s, rfl, .written (.refl s)⟩
  | frame :: frames, index, wroteFrame, controls, s => by
    obtain ⟨a, s₁, hask, h₁⟩ := s.ask_spec E env o
    simp only [sendFrames, hask]
    split
    · exact ⟨_, s₁, rfl, .unsent h₁ fun hwrote => hwrote ▸ cancelled_fatal⟩
    split
    · exact ⟨_, s₁, rfl, .unsent h₁ fun hwrote => hwrote ▸ deadline_fatal _ _⟩
    split
    · exact ⟨_, s₁, rfl, .unsent h₁ fun hwrote => hwrote ▸ connection_fatal _⟩
    obtain ⟨served, s₂, hserved, h₂, hfatal⟩ := s₁.boundary_spec E env budget o wroteFrame controls
    simp only [hserved]
    have hbefore := h₁.trans h₂
    cases served with
    | error failure => exact ⟨_, s₂, rfl, .unsent hbefore hfatal⟩
    | ok _ =>
      obtain ⟨result, s₃, hframe, hsent⟩ :=
        s₂.sendDataFrame_spec E C env budget o index frame wroteFrame
      simp only [hframe]
      cases hsent with
      | unsent sends fatal => exact ⟨_, s₃, rfl, .unsent (hbefore.trans sends) fatal⟩
      | failed accepted sends ends =>
        refine ⟨_, s₃, rfl, .failed (hbefore.trans sends) ?_ fun _ => ends⟩
        cases accepted with
        | false => exact .rejected index frame frames
        | true => exact .accepted index frame (.stopped _ _)
      | written sends =>
        obtain ⟨result, s', heq, hrest⟩ := sendFrames_spec frames (index + 1)
          true maxReadyControlsPerBoundary s₃
        exact ⟨result, s', heq, .cons (hbefore.trans sends) hrest⟩

/-- **A write that fails after the sink was given anything ends the connection**; the request is not
sent again unless settled. -/
theorem sendRequestMessage_spec (message : Message) (controls : Nat) (s : Writer) :
    ∃ result s', s.sendRequestMessage E C env budget o message controls = (result, s') ∧
      MessageSent o 0 (message.frames C.dataFramePayloadSize) false s s' result :=
  sendFrames_spec E C env budget o _ 0 false _ s

end

end Writer

end OpenNet.Ws
