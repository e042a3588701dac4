import Mathlib.Data.List.Induction
import OpenNet.Ws.PendingAgreement

/-!
# Manual resolution

The user may complete a request with a message that was dispatched to them.  `resolve` names a
registration and a message, and both may be old: the request may have been requeued, bound to
another connection, answered or registered again under the same id, and the message may come
from before any of that.
-/

namespace OpenNet.Ws.Session

variable {E : SessionConfig} {w : Session}

/-! ## What a resolution has found -/

/-- Before the response deadline, or within the one window: the entry's or the message's. -/
def InTime (E : SessionConfig) (now : Nat) (entry : PendingEntry) (record : DispatchRecord) :
    Prop :=
  (entry.graceDeadline = none ∧ ∀ deadline, entry.timing = some deadline → now < deadline) ∨
  (∃ g, entry.graceDeadline = some g ∧ now < g) ∨
  (entry.graceUsed = false ∧ ∃ deadline, entry.timing = some deadline ∧
    record.receivedAt ≤ deadline ∧ now < deadline + E.grace)

/-- What `resolve` found, and what it leaves behind. -/
structure Resolves (E : SessionConfig) (w : Session) (v : View)
    (registration : RequestRegistration) (incoming : IncomingMessage) (dispatch : Nat)
    (entry : PendingEntry) (record : DispatchRecord) : Prop where
  identity : incoming.dispatch = some ⟨dispatch, true⟩
  here : w.entryAt registration.requestId = some entry
  token : entry.token = registration.token
  found : w.table.dispatches.lookup dispatch = some record
  received : record.connectionId = incoming.connectionId
  bound : entry.connectionId = some incoming.connectionId
  bound_first : ∃ boundAt, entry.boundAt = some boundAt ∧ boundAt ≤ record.receivedAt
  watermark : registration.token ≤ record.tokenWatermark
  absolute : ∀ deadline, entry.absoluteDeadline = some deadline → v.now < deadline
  inTime : record.expiresAt ≤ E.instantMax → InTime E v.now entry record
  entry_gone : (w.resolve E v registration incoming).2.entryAt registration.requestId = none
  record_gone : (w.resolve E v registration incoming).2.table.dispatches.lookup dispatch = none

variable {now dispatch : Nat} {v : View} {entry : PendingEntry} {record : DispatchRecord}
  {registration : RequestRegistration} {incoming : IncomingMessage}

theorem not_due_iff {deadline : Option Nat} :
    due deadline now = false ↔ ∀ d, deadline = some d → now < d := by
  cases deadline <;> simp [due]

theorem due_earlier {budget : Option TimeoutBudget} {instant : Nat} {phase : WsTimeoutPhase}
    (h : due ((TimeoutBudget.earlier budget (some ⟨instant, phase⟩)).map (·.instant)) now = false) :
    now < instant := by
  cases budget with
  | none => exact not_due_iff.mp h instant rfl
  | some budget =>
    have hlater := not_due_iff.mp h _ rfl
    split at hlater
    · rename_i hle
      exact Nat.lt_of_lt_of_le hlater hle
    · exact hlater

/-- A response that is not due is before its deadline, in its grace window or not. -/
theorem inTime_of_not_due (h : due (entry.deadline E) v.now = false) :
    InTime E v.now entry record := by
  have hresponse : ∀ d, entry.responseDeadline = some d → v.now < d := by
    intro d hd
    unfold PendingEntry.deadline PendingEntry.budget at h
    rw [hd] at h
    exact due_earlier h
  unfold PendingEntry.responseDeadline at hresponse
  cases hgrace : entry.graceDeadline with
  | none =>
    rw [hgrace] at hresponse
    exact .inl ⟨hgrace, hresponse⟩
  | some g =>
    rw [hgrace] at hresponse
    exact .inr (.inl ⟨g, hgrace, hresponse g rfl⟩)

theorem earliest_later {left : Nat} {middle right : Option Nat}
    (h : (earliest (earliest (some left) middle) right).all (· ≤ now) = false) :
    ∃ b, earliest (some left) middle = some b ∧ now < b := by
  have hfirst {b : Nat} (hb : (earliest (some b) right).all (· ≤ now) = false) : now < b := by
    cases right with
    | none => simpa [earliest] using hb
    | some r =>
      have hmin : now < min b r := by simpa [earliest] using hb
      exact Nat.lt_of_lt_of_le hmin (Nat.min_le_left b r)
  cases middle with
  | none => exact ⟨left, rfl, hfirst h⟩
  | some m => exact ⟨min left m, rfl, hfirst h⟩

/-- A response that is due is in the grace window of its message. -/
theorem inTime_of_graceBound {deadline : Option Nat}
    (h : graceBound E v entry record = some deadline) (hexpires : record.expiresAt ≤ E.instantMax) :
    InTime E v.now entry record := by
  unfold graceBound at h
  dsimp only at h
  split at h
  · cases h
  rename_i hopen
  simp only [Bool.or_eq_true, not_or, Bool.not_eq_true', Bool.not_eq_false, Bool.not_eq_true]
    at hopen
  obtain ⟨⟨heligible, hunused⟩, hbounded⟩ := hopen
  cases hd : entry.timing with
  | none =>
    rw [hd] at heligible
    cases heligible
  | some d =>
    rw [hd] at heligible hbounded
    refine .inr (.inr ⟨hunused, d, hd, by simpa using heligible, ?_⟩)
    obtain ⟨b, hb, hlater⟩ := earliest_later hbounded
    cases hsum : Checked.checkedAdd E.instantMax d E.grace with
    | none =>
      -- The clock ends before the window does.
      have hover : E.instantMax < d + E.grace := by
        by_contra hle
        rw [Checked.checkedAdd_eq_some.mpr ⟨rfl, Nat.le_of_not_lt hle⟩] at hsum
        cases hsum
      have hexpiry := earliest_le hb
      omega
    | some bound =>
      obtain ⟨rfl, -⟩ := Checked.checkedAdd_eq_some.mp hsum
      rw [Option.bind_some, hsum] at hb
      have hbound : b ≤ d + E.grace := by
        rw [← Option.some.inj hb]
        exact Nat.min_le_right _ _
      omega

theorem resolveEntry_gone (w : Session) (v : View) (id : RequestId) (dispatch : Nat)
    (entry : PendingEntry) (response : Response) :
    (w.resolveEntry E v id dispatch entry response).2.entryAt id = none ∧
      (w.resolveEntry E v id dispatch entry response).2.table.dispatches.lookup dispatch =
        none := by
  refine ⟨?_, AList.lookup_erase _ _⟩
  exact (entryAt_eraseEntry w id id).trans (if_pos rfl)

/-- **What a resolution has found.** -/
theorem resolve_resolved (h : (w.resolve E v registration incoming).1 = .ok .resolved) :
    ∃ dispatch entry record, Resolves E w v registration incoming dispatch entry record := by
  generalize hcall : w.resolve E v registration incoming = answer at h
  have hleft := hcall
  unfold resolve at hcall
  split at hcall
  · subst hcall
    cases h
  split at hcall
  · subst hcall
    cases h
  split at hcall
  · subst hcall
    cases h
  rename_i identity hidentity
  split at hcall
  · subst hcall
    cases h
  rename_i response _
  split at hcall
  · rename_i outcome hrefused
    subst hcall
    cases h
    -- The checks refuse a resolution; they do not resolve.
    simp [resolvable, Fallible.bind_eq_error, Fallible.ensure_eq_error,
      Fallible.required_eq_error, pure, Except.pure] at hrefused
  rename_i entry record hresolvable
  have hrest : (record.expiresAt ≤ E.instantMax → InTime E v.now entry record) ∧
      answer.2.entryAt registration.requestId = none ∧
      answer.2.table.dispatches.lookup identity.id = none := by
    split at hcall
    · split at hcall
      · subst hcall
        cases h
      · rename_i hgrace
        subst hcall
        exact ⟨inTime_of_graceBound hgrace, resolveEntry_gone _ v _ _ _ _⟩
    · rename_i hdue
      subst hcall
      exact ⟨fun _ => inTime_of_not_due (by simpa using hdue), resolveEntry_gone _ v _ _ _ _⟩
  simp only [resolvable, Fallible.bind_eq_ok, Fallible.ensure_eq_ok, Fallible.required_eq_ok]
    at hresolvable
  obtain ⟨record', hrecord, -, -, -, hreceived, -, hwatermark, entry', here, -, htoken, -,
    hbound, -, hfirst, -, habsolute, -, -, hreturned⟩ := hresolvable
  cases hreturned
  obtain ⟨hdispatch, hown⟩ := Option.filter_eq_some_iff.mp hidentity
  have hown : identity.own := by simpa using hown
  refine ⟨identity.id, entry, record, ?_, here, htoken, hrecord, hreceived, hbound, ?_, hwatermark,
    not_due_iff.mp habsolute, hrest.1, ?_, ?_⟩
  · rw [hdispatch, ← hown]
  · cases hat : entry.boundAt with
    | none =>
      rw [hat] at hfirst
      cases hfirst
    | some boundAt =>
      rw [hat] at hfirst
      exact ⟨boundAt, rfl, by simpa using hfirst⟩
  · rw [hleft]
    exact hrest.2.1
  · rw [hleft]
    exact hrest.2.2

/-! ## Where entries and records come from -/

section

variable (source : OpId → TaskSource) (random : OpId → UInt64) (now : OpId → Nat)
  (acts : List PendingAction)

/-- Every record was made by a `register_dispatch`, which gave its message the number. -/
theorem record_provenance {d : Nat} {r : DispatchRecord}
    (here : ((new source random now).run E acts).table.dispatches.lookup d = some r) :
    ∃ before after v incoming allocated,
      acts = before ++ .registerDispatch v incoming allocated :: after ∧
      Dispatched E ((new source random now).run E before)
        (.registerDispatch v incoming allocated) d r v incoming allocated := by
  induction acts using List.reverseRecOn with
  | nil => cases here
  | append_singleton acts a ih =>
    rw [run, Machine.run_append] at here
    obtain hold | ⟨-, v, incoming, allocated, hnew⟩ := step_record here
    · obtain ⟨before, after, v, incoming, allocated, rfl, hmade⟩ := ih hold
      exact ⟨before, after ++ [a], v, incoming, allocated, by simp, hmade⟩
    · obtain rfl := hnew.act
      exact ⟨acts, [], v, incoming, allocated, rfl, hnew⟩

/-- An entry that is bound was bound by a `bind_connection` of the history, at that time. -/
theorem binding_provenance {id : RequestId} {e : PendingEntry} {connection : Nat}
    (here : ((new source random now).run E acts).entryAt id = some e)
    (hbound : e.connectionId = some connection) : ∃ before after v registration,
      acts = before ++ .bindConnection v registration connection :: after ∧
      registration.token = e.token ∧ e.boundAt = some v.now := by
  induction acts using List.reverseRecOn generalizing e with
  | nil => cases here
  | append_singleton acts a ih =>
    rw [run, Machine.run_append] at here
    obtain ⟨before, hentry, hstep⟩ | ⟨-, hfresh⟩ := step_entry here
    · obtain ⟨hconnection, hat⟩ | hunbound |
          ⟨v, registration, connection', rfl, htoken, hnow, hat⟩ := hstep.binding
      · obtain ⟨pre, post, v, registration, rfl, htoken, hbefore⟩ :=
          ih hentry (hconnection.symm.trans hbound)
        exact ⟨pre, post ++ [a], v, registration, by simp, htoken.trans hstep.token.symm,
          hat.trans hbefore⟩
      · rw [hunbound] at hbound
        cases hbound
      · obtain rfl := Option.some.inj (hnow.symm.trans hbound)
        exact ⟨acts, [], v, registration, rfl, htoken.trans hstep.token.symm, hat⟩
    · rw [hfresh.connection] at hbound
      cases hbound

end

/-! ## Resolution is safe -/

/-- What has been resolved is spent: the record and the registration. -/
theorem resolved_spent (h : Agreement E w) (hb : Bounded w)
    (hr : Resolves E w v registration incoming dispatch entry record) :
    Spent dispatch (w.step E (.resolve v registration incoming)) ∧
      Gone registration.requestId registration.token
        (w.step E (.resolve v registration incoming)) := by
  have hdoes := step_does (E := E) w (.resolve v registration incoming)
  have halive : w.alive := h.alive_of_holder (congrArg (Option.map _) hr.here)
  have hstep : w.step E (.resolve v registration incoming) =
      (w.resolve E v registration incoming).2 := by
    rw [step, halive]
    rfl
  refine ⟨⟨Nat.le_trans (hb.records dispatch record hr.found) hdoes.nextDispatch, ?_⟩,
    Nat.le_trans ?_ hdoes.nextToken, fun e here => ?_⟩
  · rw [hstep]
    exact hr.record_gone
  · rw [← hr.token]
    exact hb.tokens registration.requestId entry hr.here
  · rw [hstep, hr.entry_gone] at here
    cases here

/-- **Manual resolution is safe.**  Whenever, after any history, `resolve` returns `Resolved`:

* The message was received on the connection of the entry by a `register_dispatch` of the history,
  and the entry was bound to it by a `bind_connection` no later than that.
* The registration's token is at most the last one given out when the message was received.
* The absolute deadline has not passed, and the time is before the response deadline or within
  the one grace window.
* Neither the message's record nor the registration is ever resolved again. -/
theorem manual_resolve_safe (E : SessionConfig) (source : OpId → TaskSource)
    (random : OpId → UInt64) (now : OpId → Nat) (acts : List PendingAction) (v : View)
    (registration : RequestRegistration) (incoming : IncomingMessage)
    (h : (((new source random now).run E acts).resolve E v registration incoming).1 =
      .ok .resolved) :
    let w := (new source random now).run E acts
    (∃ dispatch entry record,
      incoming.dispatch = some ⟨dispatch, true⟩ ∧
      w.table.dispatches.lookup dispatch = some record ∧
      w.entryAt registration.requestId = some entry ∧ entry.token = registration.token ∧
      record.connectionId = incoming.connectionId ∧
      entry.connectionId = some incoming.connectionId ∧
      (∃ boundAt, entry.boundAt = some boundAt ∧ boundAt ≤ record.receivedAt) ∧
      registration.token ≤ record.tokenWatermark ∧
      (∀ deadline, entry.absoluteDeadline = some deadline → v.now < deadline) ∧
      InTime E v.now entry record ∧
      (∃ before after v₀ received allocated,
        acts = before ++ .registerDispatch v₀ received allocated :: after ∧
        received.connectionId = incoming.connectionId ∧ record.receivedAt = v₀.now ∧
        record.tokenWatermark = ((new source random now).run E before).table.nextToken ∧
        (((new source random now).run E before).registerDispatch E v₀ received allocated).1 =
          .ok (some dispatch)) ∧
      ∃ before after v₀ bound,
        acts = before ++ .bindConnection v₀ bound incoming.connectionId :: after ∧
        bound.token = registration.token ∧ entry.boundAt = some v₀.now) ∧
    ∀ more v' registration' incoming',
      ((w.run E (.resolve v registration incoming :: more)).resolve E v' registration'
        incoming').1 = .ok .resolved →
      incoming'.dispatch ≠ incoming.dispatch ∧
        (registration'.requestId, registration'.token) ≠
          (registration.requestId, registration.token) := by
  intro w
  obtain ⟨dispatch, entry, record, hr⟩ := resolve_resolved h
  obtain ⟨before, after, v₀, received, allocated, hacts, hmade⟩ :=
    record_provenance source random now acts hr.found
  have hb : Bounded w := Machine.run_invariant bounded_step acts
    ⟨fun _ _ h => (by cases h), fun _ _ h => (by cases h)⟩
  obtain ⟨hspent, hgone⟩ := resolved_spent (agreement_run source random now acts) hb hr
  refine ⟨⟨dispatch, entry, record, hr.identity, hr.found, hr.here, hr.token, hr.received, hr.bound,
    hr.bound_first, hr.watermark, hr.absolute, hr.inTime hmade.expires,
    ⟨before, after, v₀, received, allocated, hacts, hmade.connection.symm.trans hr.received,
      hmade.received, hmade.watermark, hmade.answer⟩, ?_⟩, ?_⟩
  · obtain ⟨pre, post, v₁, bound, hbinds, htoken, hat⟩ :=
      binding_provenance source random now acts hr.here hr.bound
    exact ⟨pre, post, v₁, bound, hbinds, htoken.trans hr.token, hat⟩
  · intro more v' registration' incoming' hagain
    obtain ⟨dispatch', entry', record', hr'⟩ := resolve_resolved hagain
    have hspent' : Spent dispatch (w.run E (.resolve v registration incoming :: more)) :=
      Machine.run_invariant spent_step more hspent
    have hgone' : Gone registration.requestId registration.token
        (w.run E (.resolve v registration incoming :: more)) :=
      Machine.run_invariant gone_step more hgone
    refine ⟨fun hsame => ?_, fun hsame => ?_⟩
    · rw [hr'.identity, hr.identity] at hsame
      cases hsame
      have hfound := hr'.found
      rw [hspent'.2] at hfound
      cases hfound
    · obtain ⟨hid, htoken⟩ := Prod.mk.inj hsame
      have here := hr'.here
      rw [hid] at here
      exact hgone'.2 entry' here (hr'.token.trans htoken)

/-- Received in time, the timer late, resolved in the grace window. -/
def graceActs : List PendingAction :=
  [.activateConnection 7, .register { now := 10 } 0 "r" { responseTimeout := 30 } true,
    .bindConnection { now := 10 } ⟨"r", 1, true⟩ 7, .markWritten { now := 11 } ⟨"r", 1, true⟩ 11,
    .registerDispatch { now := 40 }
      { clientId := 1, sessionId := 2, connectionId := 7, message := some (.text [1]) } true]

/-- The message of `graceActs`, with the number it was given. -/
def graceMessage : IncomingMessage :=
  { clientId := 1, sessionId := 2, connectionId := 7, message := some (.text [1])
    dispatch := some ⟨1, true⟩ }

theorem grace_resolved :
    let w := (new (fun _ => .message (.text [])) (fun _ => 0) (fun _ => 0)).run oneRequest graceActs
    let again := w.run oneRequest [.resolve { now := 43 } ⟨"r", 1, true⟩ graceMessage]
    (w.resolve oneRequest { now := 43 } ⟨"r", 1, true⟩ graceMessage).1 = .ok .resolved ∧
    (∃ entry, w.entryAt "r" = some entry ∧ entry.connectionId = some 7) ∧
      (again.resolve oneRequest { now := 43 } ⟨"r", 1, true⟩ graceMessage).1 ≠ .ok .resolved := by
  intro w again
  have hresolved : (w.resolve oneRequest { now := 43 } ⟨"r", 1, true⟩ graceMessage).1 =
      .ok .resolved := by decide +kernel
  obtain ⟨⟨_, entry, _, _, _, here, _, _, hbound, _⟩, honce⟩ :=
    manual_resolve_safe oneRequest _ _ _ graceActs { now := 43 } ⟨"r", 1, true⟩ graceMessage
      hresolved
  exact ⟨hresolved, ⟨entry, here, hbound⟩, fun htwice => (honce [] _ _ _ htwice).1 rfl⟩

end OpenNet.Ws.Session
