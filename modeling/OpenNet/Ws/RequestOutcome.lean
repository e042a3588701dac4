import OpenNet.Ws.WriteEvidence

/-!
# What comes of one request

What `handle_queued_request` leaves behind, for every environment: what it has given the sink,
whether the connection goes on, and whether the request is back in its queue.
-/

namespace OpenNet.Ws

open OperationState RequestWriteFailure

/-- A message that may be resent after some of it was sent. -/
def QueuedRequest.Replays (E : SessionConfig) (r : QueuedRequest) : Prop :=
  r.registration = none ∧ (E.control r.op).retryPolicy.any (·.allowsReplay)

namespace Writer

variable {o : OpId} {s s' s'' : Writer} {r : QueuedRequest}

/-- The sink got nothing, and at most the request came back. -/
structure Returns (r : QueuedRequest) (s s' : Writer) : Prop where
  wire : s'.wire = s.wire
  tickets : (s'.net.tickets r.op).Subperm (r.registration :: s.net.tickets r.op)

theorem Silent.returns (h : Silent r.op [] s s') : Returns r s s' :=
  ⟨by simpa using h.wire, h.tickets.trans (List.sublist_cons_self _ _).subperm⟩

theorem Returns.after {s₁ : Writer} (h : Silent r.op [] s s₁) (h' : Returns r s₁ s') :
    Returns r s s' :=
  ⟨by simpa [h.wire] using h'.wire, h'.tickets.trans ((List.subperm_cons _).mpr h.tickets)⟩

theorem Returns.before (h : Returns r s s') (h' : Silent r.op [] s' s'') : Returns r s s'' :=
  ⟨by simpa [h.wire] using h'.wire, h'.tickets.trans h.tickets⟩

/-! ## The end of a request -/

section

variable (E : SessionConfig)

theorem terminate_silent (env : Nat → Answer) (o : OpId) (error : NetError) (s : Writer) :
    Silent o [] s (s.terminate E env o error) := by
  obtain ⟨a, s₁, hask, h₁⟩ := s.ask_spec E env o
  simp only [terminate, hask]
  exact h₁.toSilent.trans (silent_withSession _ _)

theorem complete_silent (env : Nat → Answer) (r : QueuedRequest) (result : Except NetError Unit)
    (s : Writer) : Silent r.op [] s (s.complete E env r result) := by
  unfold complete
  split
  · exact .refl s
  split
  · exact terminate_silent E env r.op _ s
  · obtain ⟨a, s₁, hask, h₁⟩ := s.ask_spec E env r.op
    simp only [hask]
    split
    · split
      · exact h₁.toSilent.trans (silent_withSession _ _)
      · exact (h₁.toSilent.trans (silent_withSession _ _)).trans (terminate_silent E env r.op _ _)
    · split
      · exact h₁.toSilent
      · exact h₁.toSilent.trans (terminate_silent E env r.op _ _)
  · obtain ⟨a, s₁, hask, h₁⟩ := s.ask_spec E env r.op
    simp only [hask]
    exact h₁.toSilent.trans (silent_withSession _ _)

theorem failConnection_spec (C : WriteConfig) (env : Nat → Answer) (o : OpId)
    (action : RequestAction) (error : NetError) (s : Writer) :
    ∃ action' s', s.failConnection E C env o action error = (action', s') ∧
      Silent o [] s s' ∧ (action' = .proceed → action = .proceed) := by
  obtain ⟨a, s₁, hask, h₁⟩ := s.ask_spec E env o
  simp only [failConnection, hask]
  split
  · exact ⟨_, _, rfl, h₁.toSilent.trans (silent_withSession _ _), by simp⟩
  · exact ⟨_, _, rfl, h₁.toSilent.trans (silent_withSession _ _), id⟩

theorem endConnection_spec (C : WriteConfig) (env : Nat → Answer) (o : OpId)
    (failure : RequestWriteFailure) (s : Writer) :
    ∃ action s', s.endConnection E C env o failure = (action, s') ∧ Silent o [] s s' ∧
      (action = .proceed → failure.connectionAction = .proceed) := by
  unfold endConnection
  split
  · rename_i hproceed
    exact ⟨_, s, rfl, .refl s, fun _ => hproceed⟩
  · exact s.failConnection_spec E C env o _ _

/-! ## The decision about a retry -/

theorem checkActive_spec (env : Nat → Answer) (o : OpId) (s : Writer) :
    ∃ result s', s.checkActive E env o = (result, s') ∧ Silent o [] s s' := by
  obtain ⟨a, s₁, hask, h₁⟩ := s.ask_spec E env o
  simp only [checkActive, hask]
  exact ⟨_, _, rfl, h₁.toSilent⟩

end

section

variable (E : SessionConfig) (env : Nat → Answer)

theorem announceRetry_spec (o : OpId) (delay : Nat) (s : Writer) :
    ∃ result s', s.announceRetry E env o delay = (result, s') ∧ Silent o [] s s' := by
  obtain ⟨first, s₁, hfirst, h₁⟩ := s.checkActive_spec E env o
  simp only [announceRetry, hfirst]
  cases first with
  | error error => exact ⟨_, _, rfl, h₁⟩
  | ok _ =>
    obtain ⟨second, s₂, hsecond, h₂⟩ := s₁.checkActive_spec E env o
    simp only [hsecond]
    cases second <;> exact ⟨_, _, rfl, h₁.trans h₂⟩

/-- A delay is only given by a policy that allows the replay. -/
theorem rawRetryAfter_spec (o : OpId) (error : NetError) (s : Writer) :
    ∃ result s', s.rawRetryAfter E env o error = (result, s') ∧ Silent o [] s s' ∧
      ∀ delay, result = .ok (some delay) → (E.control o).retryPolicy.any (·.allowsReplay) := by
  obtain ⟨a, s₁, hask, h₁⟩ := s.ask_spec E env o
  simp only [rawRetryAfter, hask]
  cases hbegin : (s₁.op o).rawRetryBegin (E.control o) (s₁.view a o) error with
  | mk begun state =>
    have hset := h₁.toSilent.trans (silent_withSession s₁ (s₁.net.session.setOp o state))
    cases begun with
    | answer result =>
      refine ⟨_, _, rfl, hset, fun delay hdelay => ?_⟩
      rw [hdelay] at hbegin
      exact (rawRetryBegin_answer (congrArg Prod.fst hbegin)).elim
    | classify policy =>
      obtain ⟨a', s₂, hask', h₂⟩ := (s₁.setOp o state).ask_spec E env o
      simp only [hask']
      have hpolicy := (rawRetryBegin_classify (congrArg Prod.fst hbegin)).2
      cases hdecide : (s₂.op o).rawRetryDecide (E.control o) (s₂.view a' o) policy error
          (policy.classify a'.classify) with
      | mk decision rest =>
        obtain ⟨events, state'⟩ := rest
        have hdecided := (hset.trans h₂.toSilent).trans
          (silent_withSession s₂ (s₂.net.session.setOp o state'))
        dsimp only
        split
        · rename_i delay
          have hreplay : (E.control o).retryPolicy.any (·.allowsReplay) := by
            rw [hpolicy]
            exact rawRetryDecide_some (congrArg Prod.fst hdecide)
          split
          · obtain ⟨result, s', heq, h'⟩ := (s₂.setOp o state').announceRetry_spec E env o delay
            exact ⟨result, s', heq, hdecided.trans h', fun _ _ => hreplay⟩
          · exact ⟨_, _, rfl, hdecided, fun _ _ => hreplay⟩
        · rename_i hother
          exact ⟨_, _, rfl, hdecided, fun delay hdelay => absurd hdelay (hother delay)⟩

/-! ## The way back into the queue -/

theorem requeue_spec (r : QueuedRequest) (s : Writer) :
    ∃ result s', s.requeue E env r = (result, s') ∧ Silent r.op [] s s' := by
  obtain ⟨a, s₁, hask, h₁⟩ := s.ask_spec E env r.op
  simp only [requeue, hask]
  split <;> exact ⟨_, _, rfl, h₁.toSilent.trans (silent_withSession _ _)⟩

theorem pushExisting_returns (lane : MessageLane) (r : QueuedRequest) (s : Writer) :
    Returns r s (s.pushExisting E env lane r) := by
  obtain ⟨a, s₁, hask, h₁⟩ := s.ask_spec E env r.op
  simp only [pushExisting, hask]
  refine .after h₁.toSilent ?_
  obtain ⟨error, heq⟩ | ⟨session, queue, heq, -, -, hperm, -⟩ :=
    WriteQueue.push_cases E s₁.net.session (s₁.net.queues lane)
      { s₁.view a r.op with leaseCancelled := a.leaseCancelled } a.allocated false r
  · rw [WriteQueue.pushExisting, heq]
    have hsame : Silent r.op [] s₁ { s₁ with net :=
        { s₁.net with queues := Function.update s₁.net.queues lane (s₁.net.queues lane) } } :=
      ⟨by simp, Net.tickets_update [] (.refl _)⟩
    exact (hsame.trans (complete_silent E env r (.error error) _)).returns
  · rw [WriteQueue.pushExisting, heq]
    have htickets := (QueueRun.tickets_cons (o := r.op) hperm).subperm
    rw [if_pos rfl] at htickets
    exact ⟨rfl, Net.tickets_update [r.registration] htickets⟩

end

theorem nextAttempt_ok {E : SessionConfig} {now : Nat} {r' : QueuedRequest} :
    ∀ {delay : Option Nat}, nextAttempt E r now delay = .ok r' →
      r'.op = r.op ∧ r'.registration = r.registration
  | none, h => by
    cases h
    exact ⟨rfl, rfl⟩
  | some delay, h => by
    unfold nextAttempt at h
    dsimp only at h
    split at h
    · cases h
    split at h
    · cases h
    · cases h
      exact ⟨rfl, rfl⟩

section

variable (E : SessionConfig) (C : WriteConfig) (env : Nat → Answer)

theorem pushBack_spec (lane : MessageLane) (r : QueuedRequest) (failure : RequestWriteFailure)
    (delay : Option Nat) (s : Writer) :
    ∃ action s', s.pushBack E C env lane r failure delay = (action, s') ∧ Returns r s s' ∧
      (action = .proceed → failure.connectionAction = .proceed) := by
  obtain ⟨a, s₁, hask, h₁⟩ := s.ask_spec E env r.op
  simp only [pushBack, hask]
  split
  · exact ⟨_, _, rfl, (h₁.toSilent.trans (complete_silent E env r _ s₁)).returns, id⟩
  rename_i r' hnext
  obtain ⟨hop, hregistration⟩ := nextAttempt_ok hnext
  have hpushed := pushExisting_returns E env lane r' s₁
  obtain ⟨action, s', heq, hsilent, haction⟩ :=
    (s₁.pushExisting E env lane r').endConnection_spec E C env r'.op failure
  refine ⟨action, s', heq, .after h₁.toSilent ?_, haction⟩
  obtain ⟨hwire, htickets⟩ := hpushed.before hsilent
  rw [hop, hregistration] at htickets
  exact ⟨hwire, htickets⟩

theorem endRequest_spec (r : QueuedRequest) (failure : RequestWriteFailure) (s : Writer) :
    ∃ action s', (if failure.requeue ≠ .never && r.registration.isSome then
        s.failConnection E C env r.op failure.connectionAction failure.requestError
      else (failure.connectionAction, s.complete E env r (.error failure.requestError))) =
        (action, s') ∧ Silent r.op [] s s' ∧
      (action = .proceed → failure.connectionAction = .proceed) := by
  split
  · exact s.failConnection_spec E C env r.op failure.connectionAction failure.requestError
  · exact ⟨_, _, rfl, complete_silent E env r _ s, id⟩

section

variable (lane : MessageLane) (r : QueuedRequest) (failure : RequestWriteFailure)

/-- Without a retry, only a request of which nothing was sent comes back. -/
theorem requeueOrEnd_spec (cancelled : Bool) (delay : Option Nat) (s : Writer) :
    ∃ action s', s.requeueOrEnd E C env lane r failure cancelled delay = (action, s') ∧
      Returns r s s' ∧ (action = .proceed → failure.connectionAction = .proceed) ∧
      (delay = none → failure.requeue ≠ .waitForReconnect → Silent r.op [] s s') := by
  obtain ⟨a, s₁, hask, h₁⟩ := s.ask_spec E env r.op
  simp only [requeueOrEnd, hask]
  by_cases hback : (delay.isSome || (!cancelled && failure.requeue = .waitForReconnect &&
      (!(s₁.op r.op).retryAttemptOpen || r.registration.isSome) && r.canWaitForReconnect E))
  · rw [if_pos hback]
    obtain ⟨result, s₂, heq, h₂⟩ := s₁.requeue_spec E env r
    have hbefore := h₁.toSilent.trans h₂
    have hagain : ¬ (delay = none ∧ failure.requeue ≠ .waitForReconnect) := by
      rintro ⟨rfl, hrequeue⟩
      simp [hrequeue] at hback
    rw [heq]
    cases result with
    | error error =>
      have hsilent := hbefore.trans (complete_silent E env r (.error error) s₂)
      exact ⟨_, _, rfl, hsilent.returns, by simp, fun _ _ => hsilent⟩
    | ok requeued =>
      cases requeued with
      | true =>
        obtain ⟨action, s', heq', hreturns, haction⟩ :=
          s₂.pushBack_spec E C env lane r failure delay
        exact ⟨action, s', heq', .after hbefore hreturns, haction,
          fun hdelay hrequeue => absurd ⟨hdelay, hrequeue⟩ hagain⟩
      | false =>
        obtain ⟨action, s', heq', h', haction⟩ := s₂.endRequest_spec E C env r failure
        have hsilent := hbefore.trans h'
        exact ⟨action, s', heq', hsilent.returns, haction, fun _ _ => hsilent⟩
  · rw [if_neg hback]
    obtain ⟨action, s', heq', h', haction⟩ := s₁.endRequest_spec E C env r failure
    have hsilent := h₁.toSilent.trans h'
    exact ⟨action, s', heq', hsilent.returns, haction, fun _ _ => hsilent⟩

/-- **A request whose write has failed comes back only if nothing of it was sent**, or if its policy
allows a replay. `settled` is what the write says about sent data. -/
theorem handleFailure_spec (s : Writer) :
    ∃ action s', s.handleFailure E C env lane r failure = (action, s') ∧ Returns r s s' ∧
      (action = .proceed → failure.connectionAction = .proceed) ∧
      ((failure.requeue = .waitForReconnect → (s.op r.op).Confirmed) → ¬ r.Replays E →
        Silent r.op [] s s') := by
  obtain ⟨a, s₁, hask, h₁⟩ := s.ask_spec E env r.op
  simp only [handleFailure, hask]
  split
  · obtain ⟨action, s', heq, h', haction⟩ := s₁.endConnection_spec E C env r.op failure
    have hsilent := h₁.toSilent.trans h'
    exact ⟨action, s', heq, hsilent.returns, haction, fun _ _ => hsilent⟩
  rename_i hopen
  -- Nothing has confirmed the data, so nothing of it was sent if the request may wait.
  have hspent : (failure.requeue = .waitForReconnect → (s.op r.op).Confirmed) →
      failure.requeue ≠ .waitForReconnect := fun hsettled hrequeue =>
    hopen (h₁.evidence.confirmed (hsettled hrequeue)).responseConfirmed
  obtain ⟨a₂, s₂, hask₂, h₂⟩ := s₁.ask_spec E env r.op
  obtain ⟨a₃, s₃, hask₃, h₃⟩ := s₂.ask_spec E env r.op
  simp only [hask₂, hask₃]
  have hbefore := (h₁.toSilent.trans h₂.toSilent).trans h₃.toSilent
  split
  · rename_i hretry
    obtain ⟨result, s₄, heq, h₄, hreplay⟩ :=
      s₃.rawRetryAfter_spec E env r.op failure.requestError
    rw [heq]
    cases result with
    | error error =>
      have hsilent := (hbefore.trans h₄).trans (complete_silent E env r (.error error) s₄)
      exact ⟨_, _, rfl, hsilent.returns, id, fun _ _ => hsilent⟩
    | ok delay =>
      obtain ⟨action, s', heq', hreturns, haction, hsilent⟩ := s₄.requeueOrEnd_spec E C env lane r
        failure (s₂.token a₂ r.op || (s₂.op r.op).isFinished) delay
      refine ⟨action, s', heq', .after (hbefore.trans h₄) hreturns, haction, fun hsettled hno => ?_⟩
      have hdelay : delay = none := by
        cases delay with
        | none => rfl
        | some delay =>
          simp only [Bool.and_eq_true, Option.isNone_iff_eq_none] at hretry
          exact absurd ⟨hretry.1.1.2, hreplay delay rfl⟩ hno
      exact (hbefore.trans h₄).trans (hsilent hdelay (hspent hsettled))
  · obtain ⟨action, s', heq', hreturns, haction, hsilent⟩ := s₃.requeueOrEnd_spec E C env lane r
      failure (s₂.token a₂ r.op || (s₂.op r.op).isFinished) none
    exact ⟨action, s', heq', .after hbefore hreturns, haction,
      fun hsettled _ => hbefore.trans (hsilent rfl (hspent hsettled))⟩

end

end

/-! ## The whole call -/

theorem begun_allSent (o : OpId) : ∀ (index : Nat) (frames : List WireFrame),
    Begun o index frames (allSent o index frames)
  | index, [] => .stopped index []
  | index, frame :: frames => .accepted index frame (begun_allSent o (index + 1) frames)

/-- What a call gave the sink and left in the queues. -/
structure Handled (E : SessionConfig) (frames : List WireFrame) (r : QueuedRequest)
    (sent : List Submission) (action : RequestAction) (s s' : Writer) : Prop where
  wire : s'.wire = s.wire ++ sent
  begun : Begun r.op 0 frames sent
  /-- The connection goes on only after all of the message or nothing of it. -/
  whole : action = .proceed → sent = [] ∨ sent = allSent r.op 0 frames
  tickets : (s'.net.tickets r.op).Subperm (r.registration :: s.net.tickets r.op)
  /-- A request of which something was sent does not come back. -/
  spent : sent ≠ [] → ¬ r.Replays E → (s'.net.tickets r.op).Subperm (s.net.tickets r.op)

variable {E : SessionConfig} {frames : List WireFrame} {action : RequestAction}

theorem Silent.handled (h : Silent r.op [] s s') : Handled E frames r [] action s s' where
  wire := h.wire
  begun := .stopped 0 frames
  whole _ := .inl rfl
  tickets := h.returns.tickets
  spent _ _ := h.tickets

theorem Handled.after {s₁ : Writer} {sent : List Submission} (h : Silent r.op [] s s₁)
    (h' : Handled E frames r sent action s₁ s') : Handled E frames r sent action s s' where
  wire := by rw [h'.wire, h.wire, List.append_nil]
  begun := h'.begun
  whole := h'.whole
  tickets := h'.tickets.trans ((List.subperm_cons _).mpr h.tickets)
  spent hsent hno := (h'.spent hsent hno).trans h.tickets

theorem handleWritten_spec (E : SessionConfig) (env : Nat → Answer) (r : QueuedRequest)
    (s : Writer) : ∃ action s', s.handleWritten E env r = (action, s') ∧ Silent r.op [] s s' := by
  obtain ⟨a, s₁, hask, h₁⟩ := (s.complete E env r (.ok ())).ask_spec E env r.op
  have hsilent := (complete_silent E env r (.ok ()) s).trans h₁.toSilent
  simp only [handleWritten, hask]
  split
  · exact ⟨_, _, rfl, hsilent⟩
  · split <;> exact ⟨_, _, rfl, hsilent⟩

section

variable (E : SessionConfig) (C : WriteConfig) (env : Nat → Answer) (lane : MessageLane)
  (controls : Nat) (r : QueuedRequest) (s : Writer)

theorem writeRequest_spec :
    ∃ action s' sent, s.writeRequest E C env lane controls r = (action, s') ∧
      Handled E (r.message.frames C.dataFramePayloadSize) r sent action s s' := by
  obtain ⟨a, s₁, hask, h₁⟩ := s.ask_spec E env r.op
  simp only [writeRequest, hask]
  split
  · exact ⟨_, _, [], rfl, (h₁.toSilent.trans (complete_silent E env r _ s₁)).handled⟩
  obtain ⟨result, s₂, hsend, hmessage⟩ :=
    s₁.sendRequestMessage_spec E C env _ r.op r.message controls
  rw [hsend]
  cases hmessage with
  | written sends =>
    obtain ⟨action, s', heq, hsilent⟩ := s₂.handleWritten_spec E env r
    have hall := (h₁.toSilent.trans sends.toSilent).trans hsilent
    refine ⟨action, s', _, heq, ⟨hall.wire, ?_, ?_, ?_, fun _ _ => hall.tickets⟩⟩
    · simpa using begun_allSent r.op 0 (r.message.frames C.dataFramePayloadSize)
    · exact fun _ => .inr (by simp)
    · exact hall.tickets.trans (List.sublist_cons_self _ _).subperm
  | failed sends begun ends =>
    rename_i failure sent
    obtain ⟨action, s', heq, hreturns, haction, hsilent⟩ :=
      s₂.handleFailure_spec E C env lane r failure
    have hsends := h₁.toSilent.trans sends.toSilent
    refine ⟨action, s', sent, heq, ?_, begun, fun hproceed => ?_, ?_, fun hsent hno => ?_⟩
    · rw [hreturns.wire, hsends.wire, List.nil_append]
    · -- A failure after data does not let the connection go on.
      by_contra hpart
      rw [not_or] at hpart
      exact (ends (.inr hpart.1)).stops (haction hproceed)
    · exact hreturns.tickets.trans ((List.subperm_cons _).mpr hsends.tickets)
    · exact (hsilent (ends (.inr hsent)).settled hno).tickets.trans hsends.tickets

theorem bindRequest_spec : ∃ action s' sent, s.bindRequest E C env lane controls r = (action, s') ∧
      Handled E (r.message.frames C.dataFramePayloadSize) r sent action s s' := by
  unfold bindRequest
  split
  · exact s.writeRequest_spec E C env lane controls r
  obtain ⟨a, s₁, hask, h₁⟩ := s.ask_spec E env r.op
  simp only [hask]
  split
  · rename_i session _
    have hbound := h₁.toSilent.trans (silent_withSession s₁ session)
    obtain ⟨action, s', sent, heq, hhandled⟩ :=
      (s₁.withSession session).writeRequest_spec E C env lane controls r
    exact ⟨action, s', sent, heq, hhandled.after hbound⟩
  all_goals
    rename_i session _
    have hbound := h₁.toSilent.trans (silent_withSession s₁ session)
    exact ⟨_, _, [], rfl, (hbound.trans (complete_silent E env r _ _)).handled⟩

/-- **What `handle_queued_request` does**, for every environment. -/
theorem handleQueuedRequest_spec :
    ∃ action s' sent, s.handleQueuedRequest E C env lane controls r = (action, s') ∧
      Handled E (r.message.frames C.dataFramePayloadSize) r sent action s s' := by
  obtain ⟨a, s₁, hask, h₁⟩ := s.ask_spec E env r.op
  simp only [handleQueuedRequest, hask]
  split
  · exact ⟨_, _, [], rfl, (h₁.toSilent.trans (complete_silent E env r _ s₁)).handled⟩
  obtain ⟨a₂, s₂, hask₂, h₂⟩ := s₁.ask_spec E env r.released.op
  simp only [hask₂]
  cases hmark : (s₂.op r.released.op).markWriting (E.control r.released.op)
      (s₂.view a₂ r.released.op) C.connection with
  | mk marked state =>
    have hmarked := (h₁.toSilent.trans h₂.toSilent).trans
      (silent_withSession s₂ (s₂.net.session.setOp r.released.op state))
    obtain ⟨a₃, s₃, hask₃, h₃⟩ := (s₂.setOp r.released.op state).ask_spec E env r.released.op
    simp only [hask₃]
    have hbefore := hmarked.trans h₃.toSilent
    split
    · exact ⟨_, _, [], rfl, (hbefore.trans (complete_silent E env r.released _ s₃)).handled⟩
    obtain ⟨action, s', sent, heq, hhandled⟩ :=
      s₃.bindRequest_spec E C env lane controls r.released
    -- The lease of the request says nothing about its message.
    have hrequest : Handled E (r.message.frames C.dataFramePayloadSize) r sent action s₃ s' :=
      { hhandled with }
    exact ⟨action, s', sent, heq, hrequest.after hbefore⟩

end

end Writer

namespace WriteLoop

theorem handleRequest_spec (E : SessionConfig) (C : WriteConfig) (env : Nat → Answer)
    (lane : MessageLane) (controls : Nat) (r : QueuedRequest) (l : WriteLoop) :
    ∃ action sent, Writer.Handled E (r.message.frames C.dataFramePayloadSize) r sent action
        l.writer (l.handleRequest E C env lane controls r).writer ∧
      (l.handleRequest E C env lane controls r).dequeued = l.dequeued ++ [r] ∧
      ((l.handleRequest E C env lane controls r).running → action = .proceed) := by
  obtain ⟨a, s₁, hask, h₁⟩ := l.writer.ask_spec E env r.op
  simp only [handleRequest, hask]
  have hbound := h₁.toSilent.trans (Writer.silent_withSession s₁ (s₁.net.session.setOp r.op
    ((s₁.op r.op).bindWriteRetirement C.connection).2))
  split
  · refine ⟨.stop, [], ?_, rfl, by simp⟩
    exact (hbound.trans
      (Writer.complete_silent E env r (.error (NetError.new .internal)) _)).handled
  · obtain ⟨action, s', sent, heq, hhandled⟩ := Writer.handleQueuedRequest_spec E C env lane
      controls r (s₁.setOp r.op ((s₁.op r.op).bindWriteRetirement C.connection).2)
    rw [heq]
    refine ⟨action, sent, ?_⟩
    cases action with
    | proceed => exact ⟨hhandled.after hbound, rfl, fun _ => rfl⟩
    | stop | stopWithError => exact ⟨hhandled.after hbound, rfl, by simp⟩

end WriteLoop

end OpenNet.Ws
