import OpenNet.Foundation.Pool
import OpenNet.Ws.QueueOwnership

/-!
# The end of a session

Model of `SessionRuntime::register_operation`, `end` and the sweep of `run_timers` in
`session_runtime.rs`, around the pending table and the controls.  `end` raises the flag, takes the
map of operations, closes the table and terminates what it has taken.  A registration looks at the
flag, inserts, and looks once more.  Any number of both go on at the same time, with sections of
the session by others in between; a call that has not been made is one that has not begun.
-/

namespace OpenNet.Ws

/-- Where `register_operation` is. -/
inductive RegisterStage where
  | entering | inserting | validating | refusing
  /-- The results: admitted, refused after the insertion, and refused before it. -/
  | accepted | refused | rejected

structure RegisterCall where
  op : OpId
  stage : RegisterStage := .entering

/-- Where `end` is. -/
inductive EndStage where
  | entering | closing | taking | retiring | terminating

/-- `references` come from the map, `preserved` were left to the table. -/
structure EndCall where
  error : NetError
  cause : TaskEndCause
  stage : EndStage := .entering
  preserve : Bool := false
  references : List OpId := []
  preserved : List OpId := []

/-- The runtime with the calls under way. -/
structure SessionRuntime where
  session : Session
  forcedClosed : Bool := false
  closed : Bool := false
  operations : List OpId := []
  registers : List RegisterCall := []
  ends : List EndCall := []

/-- The clock, whether engine or client is closed, the allocator. -/
structure RuntimeView where
  view : View
  elsewhere : Bool := false
  allocated : Bool := true

inductive RuntimeAction where
  /-- A section of the session by somebody else. -/
  | enter (a : PendingAction)
  | register (i : Nat) (x : RuntimeView)
  | finish (i : Nat) (x : RuntimeView)
  /-- `run_timers` removes an operation that has finished. -/
  | sweep (op : OpId)

namespace SessionRuntime

variable (E : SessionConfig)

variable (s : SessionRuntime)

/-- `is_closed`. -/
def isClosed (x : RuntimeView) : Bool :=
  s.closed || s.forcedClosed || x.elsewhere

def setRegister (i : Nat) (call : RegisterCall) : SessionRuntime :=
  { s with registers := s.registers.set i call }

/-- The next section of `register_operation`. -/
def register (i : Nat) (call : RegisterCall) (x : RuntimeView) : SessionRuntime :=
  match call.stage with
  | .entering =>
    s.setRegister i { call with stage := if s.isClosed x then .rejected else .inserting }
  | .inserting =>
    if x.allocated then
      { s.setRegister i { call with stage := .validating } with
        operations := s.operations.insert call.op }
    else s.setRegister i { call with stage := .rejected }
  | .validating =>
    s.setRegister i { call with stage := if s.isClosed x then .refusing else .accepted }
  | .refusing =>
    { s.setRegister i { call with stage := .refused } with
      session := s.session.step E
        (.terminateControl x.view call.op (.new .closed) .disconnected) }
  | .accepted | .refused | .rejected => s

def setEnd (i : Nat) (call : EndCall) : SessionRuntime :=
  { s with ends := s.ends.set i call }

/-- `end`, next section; a closing without memory is repeated, preserving nothing. -/
def finish (i : Nat) (call : EndCall) (x : RuntimeView) : SessionRuntime :=
  match call.stage, call.preserve, call.references with
  | .entering, _, _ =>
    { s.setEnd i { call with
        stage := .closing
        preserve := call.cause = .disconnected && !s.forcedClosed && !x.elsewhere } with
      forcedClosed := s.forcedClosed || call.cause ≠ .disconnected }
  | .closing, _, _ => { s.setEnd i { call with stage := .taking } with closed := true }
  | .taking, _, _ =>
    { s.setEnd i { call with stage := .retiring, references := s.operations } with
      operations := [] }
  | .retiring, true, _ =>
    { s.setEnd i (if x.allocated then { call with stage := .terminating }
        else { call with preserve := false }) with
      session := s.session.step E (.closeDisconnected x.view call.error x.allocated) }
  | .retiring, false, _ =>
    { s.setEnd i { call with stage := .terminating } with
      session := s.session.step E (.close x.view call.error call.cause) }
  | .terminating, preserve, op :: references =>
    if preserve && (s.session.ops op).pending.isSome then
      s.setEnd i { call with references, preserved := op :: call.preserved }
    else
      { s.setEnd i { call with references } with
        session := s.session.step E (.terminateControl x.view op call.error call.cause) }
  | .terminating, _, [] => s

/-- Calls that are to be made during the session. -/
def new (session : Session) (operations : List OpId) (ends : List (NetError × TaskEndCause)) :
    SessionRuntime where
  session
  registers := operations.map fun op => { op }
  ends := ends.map fun (error, cause) => { error, cause }

/-- One section of a call. -/
def step : RuntimeAction → SessionRuntime
  | .enter a => { s with session := s.session.step E a }
  | .register i x => (s.registers[i]?).elim s (s.register E i · x)
  | .finish i x => (s.ends[i]?).elim s (s.finish E i · x)
  | .sweep op =>
    if (s.session.ops op).isFinished then { s with operations := s.operations.filter (· ≠ op) }
    else s

end SessionRuntime

namespace Session

variable {E : SessionConfig} {w : Session}

theorem terminateControl_result (h : Agreement E w) (v : View) (op : OpId) (error : NetError)
    (cause : TaskEndCause) :
    ((w.step E (.terminateControl v op error cause)).ops op).result.isSome := by
  show ((w.terminateControl E v op error cause).2.ops op).result.isSome
  unfold terminateControl
  split
  · exact failOp_finishes w v op error cause
  rename_i identity hbound
  split
  · rename_i halive
    unfold Session.terminate prepareTermination
    split
    · rename_i entry hentry
      obtain rfl := op_of_matchingEntry h hbound hentry
      exact retire_finishes w v identity.id entry error cause
    · rename_i hnone
      exact result_of_missing h halive hbound hnone
  · exact failOp_finishes w v op error cause

end Session

namespace SessionRuntime

open Session

variable {E : SessionConfig} {s s' : SessionRuntime}

def finished (s : SessionRuntime) (op : OpId) : Prop := (s.session.ops op).result.isSome

def holds (op : OpId) (e : EndCall) : Prop := op ∈ e.references ∨ op ∈ e.preserved

/-- The operation has its result, or an `end` has it in its hands. -/
def Kept (s : SessionRuntime) (op : OpId) : Prop := s.finished op ∨ Pool.Sees (holds op) s.ends

def took (e : EndCall) : Prop := e.stage = .retiring ∨ e.stage = .terminating

/-- `end` raises the flag, then takes the map; only a natural disconnect preserves. -/
structure Sound (E : SessionConfig) (s : SessionRuntime) (e : EndCall) : Prop where
  raised : e.stage = .taking ∨ took e → s.closed
  natural : e.preserve → e.cause = .disconnected
  requests : ∀ op ∈ e.preserved, e.cause = .disconnected ∧ (E.control op).tracked
  empty : ¬ took e → e.references = []

/-- A registration once it has inserted its operation. -/
structure Safe (s : SessionRuntime) (c : RegisterCall) : Prop where
  inserted : c.stage = .validating → c.op ∈ s.operations ∨ s.Kept c.op
  accepted : c.stage = .accepted → c.op ∈ s.operations ∧ (∀ e ∈ s.ends, ¬ took e) ∨ s.Kept c.op
  refused : c.stage = .refused → s.finished c.op

structure Inv (E : SessionConfig) (s : SessionRuntime) : Prop where
  agreement : Agreement E s.session
  sound : ∀ e ∈ s.ends, Sound E s e
  safe : ∀ c ∈ s.registers, Safe s c

/-- An operation leaves the map to an `end` or with its result. -/
structure Passes (s s' : SessionRuntime) : Prop where
  result : ∀ op, s.finished op → s'.finished op
  kept : ∀ op, s.Kept op → s'.Kept op
  map : ∀ op ∈ s.operations,
    op ∈ s'.operations ∧ ((∀ e ∈ s.ends, ¬ took e) → ∀ e ∈ s'.ends, ¬ took e) ∨ s'.Kept op

theorem Safe.mono {c : RegisterCall} (h : Safe s c) (hpasses : Passes s s') : Safe s' c where
  inserted hstage := (h.inserted hstage).elim
    (fun hmem => (hpasses.map c.op hmem).imp_left And.left) fun hkept => .inr (hpasses.kept _ hkept)
  accepted hstage := (h.accepted hstage).elim
    (fun ⟨hmem, huntaken⟩ => (hpasses.map c.op hmem).imp_left fun h => ⟨h.1, h.2 huntaken⟩)
    fun hkept => .inr (hpasses.kept _ hkept)
  refused hstage := hpasses.result _ (h.refused hstage)

namespace Inv

/-- The calls stay where they are. -/
theorem keep (h : Inv E s) {session : Session} {forcedClosed closed : Bool}
    {operations : List OpId} (hagreement : Agreement E session) (hclosed : s.closed → closed)
    (hresult : ∀ op, s.finished op → (session.ops op).result.isSome)
    (hmap : ∀ op ∈ s.operations, op ∈ operations ∨ (session.ops op).result.isSome) :
    Inv E { s with session, forcedClosed, closed, operations } where
  agreement := hagreement
  sound e he := { h.sound e he with raised := hclosed ∘ (h.sound e he).raised }
  safe c hc := (h.safe c hc).mono ⟨hresult, fun op => Or.imp_left (hresult op), fun op hop =>
    (hmap op hop).imp (fun hmem => ⟨hmem, id⟩) .inl⟩

theorem enter (h : Inv E s) (a : PendingAction) :
    Inv E { s with session := s.session.step E a } := by
  obtain ⟨hagreement, hprogress⟩ := step_safe s.session a h.agreement
  refine h.keep hagreement id (fun op hsome => ?_) fun op => .inl
  obtain ⟨result, hresult⟩ := Option.isSome_iff_exists.mp hsome
  rw [hprogress op result hresult]
  rfl

theorem setRegister (h : Inv E s) (i : Nat) (call : RegisterCall) (hsafe : Safe s call) :
    Inv E (s.setRegister i call) := by
  refine ⟨h.agreement, fun e he => { h.sound e he with }, fun c hc => ?_⟩
  obtain hc | rfl := List.mem_or_eq_of_mem_set hc
  · exact { h.safe c hc with }
  · exact { hsafe with }

theorem register (h : Inv E s) {i : Nat} {call : RegisterCall} (hi : s.registers[i]? = some call)
    (x : RuntimeView) : Inv E (s.register E i call x) := by
  have hcall := h.safe call (List.mem_of_getElem? hi)
  unfold SessionRuntime.register
  split
  · refine h.setRegister i _ ⟨?_, ?_, ?_⟩ <;> dsimp only <;> split <;> simp
  · split
    · have hinsert : Inv E { s with operations := s.operations.insert call.op } :=
        h.keep h.agreement id (fun _ => id) fun _ hmem => .inl (List.mem_insert_of_mem hmem)
      exact hinsert.setRegister i _ ⟨fun _ => .inl List.mem_insert_self, by simp, by simp⟩
    · exact h.setRegister i _ ⟨by simp, by simp, by simp⟩
  · rename_i hstage
    split
    · exact h.setRegister i _ ⟨by simp, by simp, by simp⟩
    · rename_i hopen
      refine h.setRegister i _ ⟨by simp, fun _ => ?_, by simp⟩
      refine (hcall.inserted hstage).imp_left fun hmem => ⟨hmem, fun e he htook => hopen ?_⟩
      -- Nobody takes the map before the flag is raised.
      simp [isClosed, (h.sound e he).raised (.inr htook)]
  · have hresult := terminateControl_result h.agreement x.view call.op (.new .closed) .disconnected
    exact (h.enter _).setRegister i { call with stage := .refused }
      ⟨by simp, by simp, fun _ => hresult⟩
  all_goals exact h

/-- An `end` goes on: it keeps what it holds or gives it a result, and takes what leaves the map. -/
theorem setEnd (h : Inv E s) {i : Nat} {call : EndCall} (hi : s.ends[i]? = some call)
    (next : EndCall) (hsound : Sound E s next) {operations : List OpId}
    (hholds : ∀ op, holds op call → holds op next ∨ s.finished op) (hmap : ∀ op ∈ s.operations,
      op ∈ operations ∧ (took next → took call) ∨ holds op next) :
    Inv E { s.setEnd i next with operations } := by
  have hnext : ∀ op, holds op next → Kept { s.setEnd i next with operations } op :=
    fun op hop => .inr ⟨i, next, Pool.set_self hi next, hop⟩
  refine ⟨h.agreement, fun e he => ?_, fun c hc => (h.safe c hc).mono ⟨fun _ => id, ?_, ?_⟩⟩
  · obtain he | rfl := List.mem_or_eq_of_mem_set he
    · exact { h.sound e he with }
    · exact { hsound with }
  · rintro op (hresult | hsees)
    · exact .inl hresult
    by_cases hcall : holds op call
    · exact (hholds op hcall).elim (hnext op) .inl
    · exact .inr (hsees.set hi fun hold => absurd hold hcall)
  · intro op hop
    refine (hmap op hop).imp (fun hleft => ⟨hleft.1, fun huntaken e he => ?_⟩) (hnext op)
    obtain he | rfl := List.mem_or_eq_of_mem_set he
    · exact huntaken e he
    · exact fun htook => huntaken call (List.mem_of_getElem? hi) (hleft.2 htook)

/-- A section of `end` that leaves the map and the operations alone. -/
theorem advance (h : Inv E s) {i : Nat} {call : EndCall} (hi : s.ends[i]? = some call)
    (next : EndCall) (hsame : (next.references, next.preserved, next.cause) =
      (call.references, call.preserved, call.cause)) (htook : took next ↔ took call)
    (hraised : next.stage = .taking ∨ took next → s.closed)
    (hpreserve : next.preserve → call.cause = .disconnected) : Inv E (s.setEnd i next) := by
  obtain ⟨hreferences, hpreserved, hcause⟩ : next.references = call.references ∧
      next.preserved = call.preserved ∧ next.cause = call.cause := by simpa using hsame
  have hcall := h.sound call (List.mem_of_getElem? hi)
  refine h.setEnd hi next ⟨hraised, hcause ▸ hpreserve, ?_, ?_⟩ (fun op hop => .inl ?_)
    fun op hop => .inl ⟨hop, htook.mp⟩
  · rw [hcause, hpreserved]
    exact hcall.requests
  · rw [htook, hreferences]
    exact hcall.empty
  · rwa [holds, hreferences, hpreserved]

theorem finish (h : Inv E s) {i : Nat} {call : EndCall} (hi : s.ends[i]? = some call)
    (x : RuntimeView) : Inv E (s.finish E i call x) := by
  obtain ⟨hraised, hnatural, hrequests, hempty⟩ := h.sound call (List.mem_of_getElem? hi)
  unfold SessionRuntime.finish
  split
  · rename_i hstage
    have hset := h.advance hi { call with
      stage := .closing
      preserve := call.cause = .disconnected && !s.forcedClosed && !x.elsewhere } rfl
      (by simp [took, hstage]) (by simp [took]) (by simp +contextual)
    exact hset.keep hset.agreement id (fun _ => id) fun _ => .inl
  · rename_i hstage
    have hclosed : Inv E { s with closed := true } :=
      h.keep h.agreement (fun _ => rfl) (fun _ => id) fun _ => .inl
    exact hclosed.advance hi { call with stage := .taking } rfl (by simp [took, hstage])
      (fun _ => rfl) hnatural
  · rename_i hstage
    have hnone := hempty (by simp [took, hstage])
    refine h.setEnd hi { call with stage := .retiring, references := s.operations }
      ⟨fun _ => hraised (.inl hstage), hnatural, hrequests, by simp [took]⟩ (fun op hop => .inl ?_)
      fun op hop => .inr (.inl hop)
    exact hop.imp_left fun hmem => by simp [hnone] at hmem
  · rename_i hstage hpreserve
    split <;> exact (h.enter _).advance hi _ rfl (by simp [took, hstage])
      (fun _ => hraised (.inr (.inl hstage))) fun _ => hnatural hpreserve
  · rename_i hstage hpreserve
    exact (h.enter _).advance hi { call with stage := .terminating } rfl (by simp [took, hstage])
      (fun _ => hraised (.inr (.inl hstage))) hnatural
  · rename_i op references hstage hreferences
    have htook : took call := .inr hstage
    have hholds (op' : OpId) (hop : holds op' call) :
        op' = op ∨ op' ∈ references ∨ op' ∈ call.preserved := by
      simpa [holds, hreferences, or_assoc] using hop
    split
    · rename_i hpreserve
      obtain ⟨hnatural', hpending⟩ := Bool.and_eq_true_iff.mp hpreserve
      obtain ⟨identity, hidentity⟩ := Option.isSome_iff_exists.mp hpending
      have htracked := h.agreement.tracked _ ((h.agreement.bound op identity).mp hidentity)
      refine h.setEnd hi { call with references, preserved := op :: call.preserved }
        ⟨fun _ => hraised (.inr htook), hnatural, ?_, (absurd htook ·)⟩ (fun op' hop => .inl ?_)
        fun op' hop => .inl ⟨hop, fun _ => htook⟩
      · exact List.forall_mem_cons.mpr ⟨⟨hnatural hnatural', htracked⟩, hrequests⟩
      obtain rfl | hrest | hold := hholds op' hop
      · exact .inr List.mem_cons_self
      · exact .inl hrest
      · exact .inr (List.mem_cons_of_mem _ hold)
    · refine (h.enter (.terminateControl x.view op call.error call.cause)).setEnd hi
        { call with references }
        ⟨fun _ => hraised (.inr htook), hnatural, hrequests, (absurd htook ·)⟩ (fun op' hop => ?_)
        fun op' hop => .inl ⟨hop, fun _ => htook⟩
      obtain rfl | hrest | hold := hholds op' hop
      · exact .inr (terminateControl_result h.agreement _ _ _ _)
      · exact .inl (.inl hrest)
      · exact .inl (.inr hold)
  · exact h

theorem step (s : SessionRuntime) (a : RuntimeAction) (h : Inv E s) : Inv E (s.step E a) := by
  cases a with
  | enter a => exact h.enter a
  | register i x =>
    cases hi : s.registers[i]? with
    | none => simpa [SessionRuntime.step, hi] using h
    | some call => simpa [SessionRuntime.step, hi] using h.register hi x
  | finish i x =>
    cases hi : s.ends[i]? with
    | none => simpa [SessionRuntime.step, hi] using h
    | some call => simpa [SessionRuntime.step, hi] using h.finish hi x
  | sweep op =>
    rw [SessionRuntime.step]
    split
    · rename_i hfinished
      refine h.keep h.agreement id (fun _ => id) fun op' hmem => ?_
      by_cases heq : op' = op
      · exact .inr (heq ▸ hfinished)
      · exact .inl (List.mem_filter.mpr ⟨hmem, by simpa using heq⟩)
    · exact h

end Inv

/-- **No operation is orphaned at the end of a session.** A registration refused after its insertion
has terminated the operation itself. When every `end` has finished, an admitted operation has its
result too, or is a request that a natural disconnect has left to the pending table. -/
theorem no_orphaned_operation (E : SessionConfig) (source : OpId → TaskSource)
    (random : OpId → UInt64) (now : OpId → Nat) (operations : List OpId)
    (ends : List (NetError × TaskEndCause)) (acts : List RuntimeAction) :
    let s := Machine.run (step E) (new (.new source random now) operations ends) acts
    (∀ c ∈ s.registers, c.stage = .refused → s.finished c.op) ∧
    ((∃ e ∈ s.ends, e.stage = .terminating) →
      (∀ e ∈ s.ends, e.stage = .entering ∨ e.stage = .terminating ∧ e.references = []) →
      ∀ c ∈ s.registers, c.stage = .accepted → s.finished c.op ∨
        ∃ e ∈ s.ends, c.op ∈ e.preserved ∧ e.cause = .disconnected ∧
          (E.control c.op).tracked = true) := by
  intro s
  have h : Inv E s := by
    refine Machine.run_invariant Inv.step acts ⟨agreement_new source random now, ?_, ?_⟩
    · intro e he
      obtain ⟨call, -, rfl⟩ := List.mem_map.mp he
      exact ⟨by simp [took], by simp, by simp, fun _ => rfl⟩
    · intro c hc
      obtain ⟨op, -, rfl⟩ := List.mem_map.mp hc
      exact ⟨by simp, by simp, by simp⟩
  refine ⟨fun c hc => (h.safe c hc).refused, ?_⟩
  rintro ⟨e, he, hdone⟩ hall c hc hstage
  obtain ⟨-, huntaken⟩ | hresult | ⟨i, e', hi, hholds⟩ := (h.safe c hc).accepted hstage
  · exact absurd (.inr hdone) (huntaken e he)
  · exact .inl hresult
  · have he' := List.mem_of_getElem? hi
    have hnone : e'.references = [] := (hall e' he').elim
      (fun hentering => (h.sound e' he').empty (by simp [took, hentering])) And.right
    have hpreserved : c.op ∈ e'.preserved := by simpa [holds, hnone] using hholds
    exact .inr ⟨e', he', hpreserved, (h.sound e' he').requests c.op hpreserved⟩

end SessionRuntime

end OpenNet.Ws
