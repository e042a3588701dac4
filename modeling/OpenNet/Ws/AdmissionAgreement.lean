import OpenNet.Ws.PendingAgreement

/-!
# What the caller of an admission is told

Model of `prepare_inner`, `try_prepare` and `Admission::commit` (`src/api/ws/dispatch.rs`) from
the creation of the `OperationControl` on, with `SessionRuntime::register_operation`
(`src/module/ws_client/session_runtime.rs`).  A call that fails tells its caller an error; the
task listeners are told the one that the control has selected, for this call or for another party.
-/

namespace OpenNet.Ws

/-- `refusing` is `register_operation` before it terminates the control, `dropping` a failed call
before its armed admission goes; a rejected commit leaves it to its owner. -/
inductive AdmissionStage where
  | binding | registering | inserting | validating | refusing | admitting
  | failing (error : NetError)
  | dropping (error : NetError)
  | failed (error : NetError)
  | prepared
  | rejected (error : NetError)
  | committed | discarded

namespace AdmissionStage

def settles : AdmissionStage → Option NetError
  | .refusing => some (.new .closed)
  | .failing error => some error
  | _ => none

def told : AdmissionStage → Option NetError
  | .dropping error | .failed error | .rejected error => some error
  | _ => none

end AdmissionStage

/-- The operation, whether it may wait, and its context's budget. -/
structure AdmissionCall where
  op : OpId
  waits : Bool
  budget : Option TimeoutBudget := none

/-- The controls, the pending table, whether it is closed, the call. -/
structure Admission where
  session : Session
  closed : Bool := false
  stage : AdmissionStage := .binding

/-- Semaphores, allocations and queue are the environment's. -/
inductive AdmissionAction where
  /-- A section of the session, of this call or of another party. -/
  | enter (a : PendingAction)
  | endSession
  | bindCancellation (answer : Except NetError Unit)
  | checkClosed
  | insert (allocated : Bool)
  | validate
  | outcome (answer : Except NetError Unit)
  | terminate (v : View)
  | commit (answer : Except NetError Unit)
  | drop (v : View)

namespace Admission

variable (E : SessionConfig) (c : AdmissionCall)

/-- `fail`: the cause of a kind. -/
def failCause : ErrorKind → TaskEndCause
  | .cancelled => .cancelled
  | .timedOut => .expired
  | .closed | .notConnected => .disconnected
  | _ => .failed

/-- What `prepare_inner` reports. -/
def reported (control : OperationState) (error : NetError) : NetError :=
  match control.selectedError with
  | some selected => selected
  | none =>
    if error.kind = .timedOut ∧ error.context.wsTimeoutPhase.isNone then
      match TimeoutBudget.earlier c.budget (control.budget (E.control c.op)) with
      | some budget => error.withWsTimeoutPhase budget.phase
      | none => error
    else error

/-- Nobody writes or answers an operation that was not committed. -/
def unwritten (control : OperationState) : Bool :=
  control.delivery ≠ .unknown && control.result.all fun result => !result.isOk

def terminate (s : Admission) (v : View) (error : NetError) (cause : TaskEndCause)
    (stage : AdmissionStage) : Admission :=
  { s with session := s.session.step E (.terminateControl v c.op error cause), stage }

/-- The next section of the call, or of others. -/
def step (s : Admission) (a : AdmissionAction) : Admission :=
  match a, s.stage with
  | .enter a, _ =>
    let session := s.session.step E a
    if unwritten (session.ops c.op) then { s with session } else s
  | .endSession, _ => { s with closed := true }
  | .bindCancellation (.ok ()), .binding => { s with stage := .registering }
  | .bindCancellation (.error error), .binding => { s with stage := .dropping error }
  | .checkClosed, .registering =>
    { s with stage := if s.closed then .dropping (.new .closed) else .inserting }
  | .insert allocated, .inserting =>
    { s with stage := if allocated then .validating else .dropping (.new .resourceExhausted) }
  | .validate, .validating => { s with stage := if s.closed then .refusing else .admitting }
  | .outcome (.ok ()), .admitting => { s with stage := .prepared }
  -- `try_prepare` does not look at the control.
  | .outcome (.error error), .admitting =>
    let error := if c.waits then reported E c (s.session.ops c.op) error else error
    { s with stage := .failing error }
  | .terminate v, stage => match stage.settles with
    | some error => s.terminate E c v error (failCause error.kind) (.dropping error)
    | none => s
  | .commit (.ok ()), .prepared => { s with stage := .committed }
  | .commit (.error error), .prepared =>
    { s with stage := .rejected ((s.session.ops c.op).selectedError.getD error) }
  | .drop v, .prepared => s.terminate E c v (.new .cancelled) .cancelled .discarded
  | .drop v, stage => match stage.told with
    | some error => s.terminate E c v (.new .cancelled) .cancelled (.failed error)
    | none => s
  | _, _ => s

def new (source : OpId → TaskSource) (random : OpId → UInt64) (now : OpId → Nat) : Admission where
  session := .new source random now

/-- No race: nobody ends the operation while the call is about to or fails without looking, and the
call gives up by itself only when the operation has ended. -/
def Calm (s : Admission) : AdmissionAction → Prop
  | .enter a => s.stage.settles.isSome →
      ((s.session.step E a).ops c.op).result = (s.session.ops c.op).result
  | .bindCancellation answer => s.stage = .binding → answer = .ok ()
  | .checkClosed => s.stage = .registering → s.closed = false
  | .insert allocated => s.stage = .inserting → allocated
  | .validate => s.stage = .validating → s.closed → (s.session.ops c.op).result = none
  | .outcome (.error _) =>
    s.stage = .admitting → c.waits ∨ (s.session.ops c.op).result = none
  | .commit (.error _) => s.stage = .prepared → (s.session.ops c.op).selectedError.isSome
  | _ => True

/-! ## What a termination selects -/

open Session

/-- The control has selected such an error. -/
def Ended (c : AdmissionCall) (w : Session) (kind : ErrorKind) : Prop :=
  ∃ error, (w.ops c.op).selectedError = some error ∧ error.kind = kind

variable {E c} {w : Session} {s : Admission}

theorem selectedError_eq_some {s : OperationState} {error : NetError} :
    s.selectedError = some error ↔ s.result = some (.error error) := by
  unfold OperationState.selectedError
  split <;> simp_all

/-- The selected error is of the kind of the given one, unless data may have been sent. -/
theorem selectFailure_kind (cfg : OperationConfig) (v : View) {s : OperationState}
    (hresult : s.result = none) (hdelivery : s.delivery ≠ .unknown) (error : NetError)
    (cause : TaskEndCause) : ∃ selected,
      (s.selectFailure cfg v error cause).2.2.selectedError = some selected ∧
      selected.kind = error.kind := by
  unfold OperationState.selectFailure
  rw [if_neg (by simp [hresult])]
  refine ⟨_, rfl, ?_⟩
  rw [NetError.withRetryReport_kind, OperationState.failureError, if_neg (by simp [hdelivery])]
  rfl

theorem terminateControl_selects (h : Agreement E w) (hresult : (w.ops c.op).result = none)
    (hdelivery : (w.ops c.op).delivery ≠ .unknown) (v : View) (error : NetError)
    (cause : TaskEndCause) :
    Ended c (w.step E (.terminateControl v c.op error cause)) error.kind := by
  have hselected := selectFailure_kind (E.control c.op) v hresult hdelivery error cause
  have hfailOp : Ended c (w.failOp E v c.op error cause).2 error.kind := by
    simpa [Ended, failOp, publish, setOp] using hselected
  show Ended c (w.terminateControl E v c.op error cause).2 error.kind
  unfold terminateControl
  split
  · exact hfailOp
  rename_i identity hpending
  split
  · -- The table still has the entry of a registration that has not ended.
    rename_i halive
    have hmem := (h.bound c.op identity).mp hpending
    have hholder := (h.unfinished _ hmem hresult).resolve_right (by simp [h.reachable halive])
    obtain ⟨entry, here, heq⟩ := Option.map_eq_some_iff.mp hholder
    obtain ⟨htoken, hop⟩ : entry.token = identity.token ∧ entry.op = c.op := by simpa using heq
    have hentry := matchingEntry_eq_some.mpr ⟨here, htoken⟩
    rw [← hop] at hselected
    simpa [Ended, Session.terminate, prepareTermination, hentry, retire, eraseEntry, complete,
      setOp, ← hop] using hselected
  · exact hfailOp

theorem Ended.step (h : Agreement E w) (a : PendingAction) {kind : ErrorKind}
    (hended : Ended c w kind) : Ended c (w.step E a) kind := by
  obtain ⟨error, hselected, hkind⟩ := hended
  have hresult := (step_safe w a h).2 c.op _ (selectedError_eq_some.mp hselected)
  exact ⟨error, selectedError_eq_some.mpr hresult, hkind⟩

/-! ## The invariant -/

/-- What the control has come to, for every stage of the call. -/
structure Inv (E : SessionConfig) (c : AdmissionCall) (s : Admission) : Prop where
  agreement : Agreement E s.session
  open_or_ended : (s.session.ops c.op).result = none ∧ (s.session.ops c.op).delivery ≠ .unknown ∨
    ∃ kind, Ended c s.session kind
  settles : ∀ error, s.stage.settles = some error →
    (s.session.ops c.op).result = none ∨ Ended c s.session error.kind
  told : ∀ error, s.stage.told = some error → Ended c s.session error.kind

theorem Inv.enter (h : Inv E c s) (a : PendingAction)
    (hunwritten : unwritten ((s.session.step E a).ops c.op))
    (hcalm : Calm E c s (.enter a)) : Inv E c { s with session := s.session.step E a } where
  agreement := (step_safe s.session a h.agreement).1
  open_or_ended := by
    simp only [unwritten, ne_eq, Bool.and_eq_true, decide_eq_true_eq] at hunwritten
    dsimp only
    cases hresult : ((s.session.step E a).ops c.op).result with
    | none => exact .inl ⟨rfl, hunwritten.1⟩
    | some result =>
      cases result with
      | ok success => simp [hresult, Except.isOk, Except.toBool] at hunwritten
      | error error => exact .inr ⟨_, error, selectedError_eq_some.mpr hresult, rfl⟩
  settles error hstage := (h.settles error hstage).imp
    (hcalm (by rw [hstage]; rfl)).trans (·.step h.agreement a)
  told error hstage := (h.told error hstage).step h.agreement a

theorem Inv.next (h : Inv E c s) (stage : AdmissionStage) (hsettles : stage.settles = none)
    (htold : stage.told = none) : Inv E c { s with stage } :=
  { h with
    settles := fun error heq => by rw [hsettles] at heq; cases heq
    told := fun error heq => by rw [htold] at heq; cases heq }

theorem Inv.terminate (h : Inv E c s) (v : View) (error : NetError) (cause : TaskEndCause)
    {stage : AdmissionStage} (hsettles : stage.settles = none)
    (htold : ∀ told, stage.told = some told →
      Ended c (s.session.step E (.terminateControl v c.op error cause)) told.kind) :
    Inv E c (s.terminate E c v error cause stage) where
  agreement := (step_safe s.session (.terminateControl v c.op error cause) h.agreement).1
  open_or_ended := by
    obtain ⟨hresult, hdelivery⟩ | ⟨kind, hended⟩ := h.open_or_ended
    · exact .inr ⟨_, terminateControl_selects h.agreement hresult hdelivery v error cause⟩
    · exact .inr ⟨kind, hended.step h.agreement _⟩
  settles _ heq := by
    rw [show (s.terminate E c v error cause stage).stage = stage from rfl, hsettles] at heq
    cases heq
  told := htold

theorem Inv.outcome (h : Inv E c s) (error : NetError)
    (hlook : c.waits ∨ (s.session.ops c.op).result = none) :
    let error := if c.waits then reported E c (s.session.ops c.op) error else error
    Inv E c { s with stage := .failing error } := by
  refine { h with settles := fun told heq => ?_, told := fun _ heq => by cases heq }
  obtain ⟨hresult, -⟩ | ⟨kind, selected, hselected, -⟩ := h.open_or_ended
  · exact .inl hresult
  have hwaits : c.waits := hlook.resolve_right (by simp [selectedError_eq_some.mp hselected])
  have htold : selected = told := by
    simpa [AdmissionStage.settles, hwaits, reported, hselected] using heq
  exact .inr ⟨selected, hselected, by rw [htold]⟩

theorem step_inv (h : Inv E c s) (a : AdmissionAction) (hcalm : Calm E c s a) :
    Inv E c (s.step E c a) := by
  unfold step
  split
  · rename_i a
    dsimp only
    split
    · rename_i hunwritten
      exact h.enter a hunwritten hcalm
    · exact h
  · exact { h with }
  · exact h.next .registering rfl rfl
  · rename_i error hstage
    cases hcalm hstage
  · rename_i hstage
    rw [if_neg (by simp [hcalm hstage])]
    exact h.next .inserting rfl rfl
  · rename_i allocated hstage
    rw [hcalm hstage]
    exact h.next .validating rfl rfl
  · rename_i hstage
    split
    · rename_i hclosed
      exact { h with
        settles := fun _ _ => .inl (hcalm hstage hclosed)
        told := fun _ heq => by cases heq }
    · exact h.next .admitting rfl rfl
  · exact h.next .prepared rfl rfl
  · rename_i error hstage
    exact h.outcome error (hcalm hstage)
  · rename_i v
    split
    · rename_i error hsettles
      refine h.terminate v _ _ rfl ?_
      rintro _ ⟨⟩
      obtain hresult | hended := h.settles error hsettles
      · have hdelivery := (h.open_or_ended.resolve_right fun ⟨_, _, hselected, _⟩ => by
          rw [selectedError_eq_some, hresult] at hselected
          cases hselected).2
        exact terminateControl_selects h.agreement hresult hdelivery v error _
      · exact hended.step h.agreement _
    · exact h
  · exact h.next .committed rfl rfl
  · rename_i error hstage
    obtain ⟨selected, hselected⟩ := Option.isSome_iff_exists.mp (hcalm hstage)
    rw [hselected]
    refine { h with settles := fun _ heq => (by cases heq), told := ?_ }
    rintro _ ⟨⟩
    exact ⟨selected, hselected, rfl⟩
  · exact h.terminate _ _ _ rfl fun _ heq => by cases heq
  · split
    · rename_i error htold
      refine h.terminate _ _ _ rfl ?_
      rintro _ ⟨⟩
      exact (h.told error htold).step h.agreement _
    · exact h
  · exact h

/-- **Admission errors**: without a race, a call that fails tells an error of the kind that the
control has selected. -/
theorem admission_errors_agree (E : SessionConfig) (c : AdmissionCall) (source : OpId → TaskSource)
    (random : OpId → UInt64) (now : OpId → Nat) (acts : List AdmissionAction)
    (hcalm : Machine.Along (step E c) (Calm E c) (new source random now) acts) :
    ∀ error, (Machine.run (step E c) (new source random now) acts).stage.told = some error →
      Ended c (Machine.run (step E c) (new source random now) acts).session error.kind := by
  have hnew : Inv E c (new source random now) :=
    { agreement := agreement_new source random now
      open_or_ended := .inl ⟨rfl, nofun⟩
      settles := fun _ heq => by cases heq
      told := fun _ heq => by cases heq }
  exact (Machine.run_invariant_along (fun _ a ha hs => step_inv hs a ha) acts hcalm hnew).told

/-! ## Runs on fixed inputs -/

def runOne (waits : Bool) (acts : List AdmissionAction) : Admission :=
  Machine.run (step oneRequest { op := 0, waits })
    (new (fun _ => .message (.text [])) (fun _ => 0) (fun _ => 0)) acts

def registered : List AdmissionAction :=
  [.bindCancellation (.ok ()), .checkClosed, .insert true, .validate]

def gaveUp : List AdmissionAction := [.terminate { now := 0 }, .drop { now := 0 }]

def cancelled : AdmissionAction :=
  .enter (.terminateControl { now := 0 } 0 (.new .cancelled) .cancelled)

theorem admission_errors_agree_expired :
    Ended { op := 0, waits := true }
      (runOne true (registered ++ .outcome (.error (.new .timedOut)) :: gaveUp)).session
      .timedOut :=
  admission_errors_agree oneRequest { op := 0, waits := true } _ _ _
    (registered ++ .outcome (.error (.new .timedOut)) :: gaveUp)
    ⟨fun _ => rfl, fun _ => rfl, fun _ => rfl, nofun, fun _ => .inl rfl, trivial, trivial, trivial⟩
    (.new .timedOut) rfl

def outcomes (waits : Bool) (acts : List AdmissionAction) : Option ErrorKind × Option ErrorKind :=
  ((runOne waits acts).stage.told.map (·.kind),
    ((runOne waits acts).session.ops 0).selectedError.map (·.kind))

/-- A session closes before the registration, a cancellation is not looked at by `try_prepare` or
comes after `prepare_inner` has looked, a commit finds no queue. -/
theorem told_differently :
    outcomes true [.bindCancellation (.ok ()), .endSession, .checkClosed, .drop { now := 0 }] =
      (some .closed, some .cancelled) ∧
    outcomes false (registered ++ cancelled :: .outcome (.error (.new .queueFull)) :: gaveUp) =
      (some .queueFull, some .cancelled) ∧
    outcomes true (registered ++ .outcome (.error (.new .timedOut)) :: cancelled :: gaveUp) =
      (some .timedOut, some .cancelled) ∧
    outcomes true (registered ++ [.outcome (.ok ()), .commit (.error (.new .engineDropped)),
      .drop { now := 0 }]) = (some .engineDropped, some .cancelled) := by
  decide +kernel

end Admission

end OpenNet.Ws
