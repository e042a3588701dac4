import OpenNet.Http.StreamBody

/-!
# Who cleans up after a response body

The transport body and the owner of the request's resources are destroyed once, although a
poll has the body outside the lock while another thread may end the stream.
-/

namespace OpenNet.Http

@[simp] def Item.terminal : Item → Bool
  | .chunk _ => false
  | .failed _ | .ended => true

@[simp] def Item.bytes : Item → Option (List UInt8)
  | .chunk bytes => some bytes
  | _ => none

namespace BodyEvent

def cleanedStage : BodyEvent → Option CleanupStage
  | .cleaned stage => some stage
  | _ => none

def stages (trace : List BodyEvent) : List CleanupStage := trace.filterMap cleanedStage

@[simp] theorem stages_nil : stages [] = [] := rfl

theorem stages_append (trace more : List BodyEvent) :
    stages (trace ++ more) = stages trace ++ stages more :=
  List.filterMap_append

section

variable (trace : List BodyEvent)

@[simp] theorem stages_committed (error : Option NetError) :
    stages (trace ++ [.committed error]) = stages trace := by
  simp [stages, cleanedStage]

@[simp] theorem stages_accepted (bytes : List UInt8) :
    stages (trace ++ [.accepted bytes]) = stages trace := by
  simp [stages, cleanedStage]

@[simp] theorem stages_delivered (item : Item) :
    stages (trace ++ [.delivered item]) = stages trace := by
  simp [stages, cleanedStage]

@[simp] theorem stages_cleaned (stage : CleanupStage) :
    stages (trace ++ [.cleaned stage]) = stages trace ++ [stage] := by
  simp [stages, cleanedStage]

end

end BodyEvent

open BodyEvent

/-- First the body, then what the owner holds, last the observer. -/
def cleanupOrder : List CleanupStage := [.body, .slot, .permit, .registry, .observer]

def StreamOwner.Complete (owner : StreamOwner) : Prop :=
  owner.lease ∧ owner.lifecycle

def Cleanup.Owns (cleanup : Cleanup) : Prop :=
  ∃ owner, cleanup.owner = some owner ∧ owner.Complete

/-- The stages that are over; a body not in the cleanup was destroyed by its poll. -/
def Job.done (job : Job) : List CleanupStage :=
  match job.stage with
  | .body => if job.cleanup.body then [] else [.body]
  | .slot => [.body]
  | .permit => [.body, .slot]
  | .registry => [.body, .slot, .permit]
  | .observer => [.body, .slot, .permit, .registry]
  | .publish => cleanupOrder

theorem Job.done_prefix (job : Job) : job.done <+: cleanupOrder := by
  unfold Job.done
  split
  · split <;> decide
  all_goals decide

namespace Consumer

def checkedOut : Consumer → Bool
  | .pollTransport => true
  | .dropBody checkedOut _ => checkedOut
  | .lockBody checkedOut _ => checkedOut
  | _ => false

def polls : Consumer → Bool
  | .pollTransport | .dropBody _ _ | .lockBody _ _ => true
  | _ => false

def dropped : Consumer → List CleanupStage
  | .lockBody true _ => [.body]
  | _ => []

def job : Consumer → Option Job
  | .clean job _ => some job
  | _ => none

def rest : Consumer → Option Answer
  | .dropBody _ left | .lockBody _ left | .clean _ left => left
  | .answer left => some left
  | _ => none

/-- The program counters hold the same things. -/
structure Alike (c c' : Consumer) : Prop where
  checkedOut : c'.checkedOut = c.checkedOut
  polls : c'.polls = c.polls
  dropped : c'.dropped = c.dropped
  job : c'.job = c.job

theorem Alike.refl (c : Consumer) : c.Alike c := ⟨rfl, rfl, rfl, rfl⟩

/-- The poll stays, or one without an answer tells of the end. -/
def Follows (c c' : Consumer) : Prop :=
  c'.rest = c.rest ∨
    c.rest = none ∧ ∀ left, c'.rest = some left → left.finished ∧ left.cleanup = none

theorem Follows.refl (c : Consumer) : c.Follows c := .inl rfl

/-- The chunk that passed and that the poll has not returned yet. -/
def inFlight (c : Consumer) : List (List UInt8) :=
  match c.rest with
  | none => []
  | some left => if left.finished then [] else (left.result.bind Item.bytes).toList

end Consumer

namespace System

variable {shared : SharedBody}

def jobs (s : System) : List Job := s.others ++ s.consumer.job.toList

/-- What shared state, cleanups and trace say of the cleanup. -/
structure Stands (s : System) (finished ready : Bool) (pending : Option Cleanup)
    (running : List Job) (done : List CleanupStage) : Prop where
  finished : s.state.finished = finished
  ready : s.state.terminalReady = ready
  pending : s.state.pendingCleanup = pending
  jobs : s.jobs = running
  stages : BodyEvent.stages s.trace = done

/-- Where the cleanup of a stream is. -/
inductive Standing (s : System) : Prop
  | streaming (stands : Stands s false false none [] s.consumer.dropped)
      (howner : ∃ owner, s.state.owner = some owner ∧ owner.Complete)
      (hbody : s.state.body = !s.consumer.checkedOut)
  | deferred (cleanup : Cleanup) (stands : Stands s true false cleanup [] s.consumer.dropped)
      (howns : cleanup.Owns) (hpolls : s.consumer.polls)
      (hbody : cleanup.body = !s.consumer.checkedOut)
  | cleaning (job : Job) (stands : Stands s true false none [job] job.done)
      (howns : job.cleanup.Owns) (hpolls : s.consumer.polls = false)
  | settled (stands : Stands s true true none [] cleanupOrder) (hpolls : s.consumer.polls = false)

/-- The cleanup is somewhere, the flag is the poll's, and a poll still to answer has no cleanup but
the deferred one. -/
structure Owned (s : System) : Prop where
  standing : Standing s
  polling : s.state.polling = s.consumer.polls
  plain : ∀ answer, s.consumer.rest = some answer → answer.cleanup = none

variable {s : System}

theorem jobs_nil (h : s.jobs = []) : s.others = [] ∧ s.consumer.job = none := by
  simpa [jobs] using h

namespace Owned

variable {s : System}

theorem jobs_of_polls (h : Owned s) (hpolls : s.consumer.polls) : s.jobs = [] := by
  cases h.standing with
  | streaming stands _ _ | deferred _ stands _ _ _ | settled stands _ => exact stands.jobs
  | cleaning _ _ _ hidle =>
    rw [hidle] at hpolls
    cases hpolls

theorem ready_of_polls (h : Owned s) (hpolls : s.consumer.polls) :
    s.state.terminalReady = false := by
  cases h.standing with
  | streaming stands _ _ | deferred _ stands _ _ _ | cleaning _ stands _ _ => exact stands.ready
  | settled _ hidle =>
    rw [hidle] at hpolls
    cases hpolls

theorem of_open (h : Owned s) (hopen : s.state.finished = false) :
    Stands s false false none [] s.consumer.dropped ∧
      (∃ owner, s.state.owner = some owner ∧ owner.Complete) ∧
      s.state.body = !s.consumer.checkedOut := by
  cases h.standing with
  | streaming stands howner hbody => exact ⟨stands, howner, hbody⟩
  | deferred _ stands _ _ _ | cleaning _ stands _ _ | settled stands _ =>
    rw [stands.finished] at hopen
    cases hopen

theorem of_ready (h : Owned s) (hready : s.state.terminalReady) :
    Stands s true true none [] cleanupOrder := by
  cases h.standing with
  | streaming stands _ _ | deferred _ stands _ _ _ | cleaning _ stands _ _ =>
    rw [stands.ready] at hready
    cases hready
  | settled stands _ => exact stands

theorem of_job (h : Owned s) {job : Job} (hmem : job ∈ s.jobs) :
    Stands s true false none [job] job.done ∧ job.cleanup.Owns ∧ s.consumer.polls = false := by
  have hnone : s.jobs ≠ [] := List.ne_nil_of_mem hmem
  cases h.standing with
  | streaming stands _ _ | deferred _ stands _ _ _ | settled stands _ =>
    exact absurd stands.jobs hnone
  | cleaning job' stands howns hpolls =>
    rw [stands.jobs, List.mem_singleton] at hmem
    subst hmem
    exact ⟨stands, howns, hpolls⟩

end Owned

/-! ## The terminal transition -/

theorem finishLocked_finished (h : s.state.finished) (error : Option NetError) :
    s.finishLocked error = (s, none) := by
  simp [finishLocked, h]

/-- What the state is once the outcome is committed. -/
def closed (s : System) (error : Option NetError) (pending : Option Cleanup) : System :=
  { s with
    state := { s.state with
      finished := true, terminalError := error, body := false, owner := none,
      pendingCleanup := pending },
    trace := s.trace ++ [.committed error] }

def due (s : System) (error : Option NetError) : Cleanup :=
  { body := s.state.body, owner := s.state.owner, error }

theorem finishLocked_polling (h : s.state.finished = false)
    (hpolling : s.state.polling) (error : Option NetError) :
    s.finishLocked error = (s.closed error (some (s.due error)), none) := by
  simp [finishLocked, h, hpolling, closed, due, log]

theorem finishLocked_free (h : s.state.finished = false)
    (hpolling : s.state.polling = false) (error : Option NetError) :
    s.finishLocked error = (s.closed error s.state.pendingCleanup, some (s.due error)) := by
  simp [finishLocked, h, hpolling, closed, due, log]

/-! ## What a step does -/

theorem arbitrate_cases (shared : SharedBody) (s : System) (now : Nat) :
    s.arbitrate shared now = (s, none) ∨
      ∃ error, s.arbitrate shared now = s.finishLocked (some error) := by
  unfold arbitrate
  split
  · exact .inl rfl
  split
  · rename_i error _
    exact .inr ⟨error, rfl⟩
  · exact .inl rfl

theorem advance_cases (shared : SharedBody) {job : Job} (howns : job.cleanup.Owns)
    (hstages : stages s.trace = job.done) :
    (∃ retryReport trace job', s.advance shared job = ({ s with retryReport, trace }, some job') ∧
      job'.cleanup = job.cleanup ∧ stages trace = job'.done ∧
      (trace = s.trace ∨ ∃ stage, trace = s.trace ++ [.cleaned stage])) ∨
    (s.advance shared job = (s.publish job.report, none) ∧ stages s.trace = cleanupOrder) := by
  obtain ⟨owner, howner, hlease, hlifecycle⟩ := howns
  unfold Job.done at hstages
  cases hstage : job.stage with
  | body =>
    rw [hstage] at hstages
    cases hbody : job.cleanup.body with
    | true =>
      exact .inl ⟨s.retryReport, s.trace ++ [.cleaned .body], { job with stage := .slot },
        by simp [advance, hstage, hbody, howner, log], rfl,
        by simpa [Job.done, hbody] using hstages,
        .inr ⟨_, rfl⟩⟩
    | false =>
      exact .inl ⟨s.retryReport, s.trace, { job with stage := .slot },
        by simp [advance, hstage, hbody, howner], rfl, by simpa [Job.done, hbody] using hstages,
        .inl rfl⟩
  | slot =>
    rw [hstage] at hstages
    exact .inl ⟨s.retryReport, s.trace ++ [.cleaned .slot], { job with stage := .permit },
      by simp [advance, hstage, log], rfl, by simp [Job.done, hstages], .inr ⟨_, rfl⟩⟩
  | permit =>
    rw [hstage] at hstages
    exact .inl ⟨s.retryReport, s.trace ++ [.cleaned .permit], { job with stage := .registry },
      by simp [advance, hstage, howner, hlease, log], rfl, by simp [Job.done, hstages],
      .inr ⟨_, rfl⟩⟩
  | registry =>
    rw [hstage] at hstages
    exact .inl ⟨s.retryReport, s.trace ++ [.cleaned .registry], { job with stage := .observer },
      by simp [advance, hstage, log], rfl, by simp [Job.done, hstages], .inr ⟨_, rfl⟩⟩
  | observer =>
    rw [hstage] at hstages
    refine .inl ⟨_, s.trace ++ [.cleaned .observer], { job with stage := .publish, report := _ },
      by simp [advance, hstage, howner, hlifecycle, log]; exact ⟨rfl, rfl⟩, rfl, ?_, .inr ⟨_, rfl⟩⟩
    simp [Job.done, hstages, cleanupOrder]
  | publish =>
    rw [hstage] at hstages
    exact .inr ⟨by simp [advance, hstage], hstages⟩

theorem resume_plain {answer : Option Answer} (h : ∀ a, answer = some a → a.cleanup = none) :
    (resume answer).polls = false ∧ (resume answer).job = none ∧
      (resume answer).checkedOut = false ∧ (resume answer).dropped = [] ∧
      (resume answer).rest = answer := by
  cases answer with
  | none => exact ⟨rfl, rfl, rfl, rfl, rfl⟩
  | some a =>
    have hresume : resume (some a) = .answer a := by simp [resume, h a rfl]
    rw [hresume]
    exact ⟨rfl, rfl, rfl, rfl, rfl⟩

theorem Owned.plain_answer (h : Owned s) (answer : Option Answer)
    (hc : s.consumer.rest = answer) : ∀ left, answer = some left → left.cleanup = none :=
  fun left hleft => h.plain left (hc.trans hleft)

/-- A cleanup that starts finds the body in the state, or destroyed. -/
theorem Owned.due_done (h : Owned s) (hopen : s.state.finished = false)
    (hgone : s.consumer.dropped = if s.consumer.checkedOut then [.body] else [])
    (error : Option NetError) : stages s.trace = Job.done { cleanup := s.due error } := by
  obtain ⟨stands, -, hbody⟩ := h.of_open hopen
  rw [stands.stages, hgone]
  cases hout : s.consumer.checkedOut <;> simp [Job.done, due, hbody, hout]

/-! ## The cleanup stays where it belongs -/

theorem Owned.keep (h : Owned s) {terminalError owner consumer trace handle cancelled}
    (howner : ∀ o, s.state.owner = some o → o.Complete → ∃ o', owner = some o' ∧ o'.Complete)
    (hstages : stages trace = stages s.trace) (hc : s.consumer.Alike consumer)
    (hplain : ∀ answer, consumer.rest = some answer → answer.cleanup = none) :
    Owned { s with
      state := { s.state with terminalError, owner }, consumer, trace, handle, cancelled } := by
  have hkeep : ∀ {finished ready pending running done},
      Stands s finished ready pending running done → Stands { s with
        state := { s.state with terminalError, owner }, consumer, trace, handle, cancelled }
        finished ready pending running done := fun stands =>
    { stands with
      jobs := Eq.trans (by rw [jobs, jobs, hc.job]) stands.jobs
      stages := hstages.trans stands.stages }
  refine ⟨?_, h.polling.trans hc.polls.symm, hplain⟩
  cases h.standing with
  | streaming stands hcomplete hbody =>
    obtain ⟨o, hsome, hcomplete⟩ := hcomplete
    rw [← hc.dropped] at stands
    rw [← hc.checkedOut] at hbody
    exact .streaming (hkeep stands) (howner o hsome hcomplete) hbody
  | deferred cleanup stands howns hpolls hbody =>
    rw [← hc.dropped] at stands
    rw [← hc.checkedOut] at hbody
    exact .deferred cleanup (hkeep stands) howns (hc.polls.trans hpolls) hbody
  | cleaning job stands howns hpolls =>
    exact .cleaning job (hkeep stands) howns (hc.polls.trans hpolls)
  | settled stands hpolls => exact .settled (hkeep stands) (hc.polls.trans hpolls)

theorem Owned.move (h : Owned s) {c : Consumer} (hc : s.consumer.Alike c)
    (hplain : ∀ answer, c.rest = some answer → answer.cleanup = none) :
    Owned { s with consumer := c } :=
  h.keep (fun owner hsome hcomplete => ⟨owner, hsome, hcomplete⟩) rfl hc hplain

theorem Owned.quiet (h : Owned s) {terminalError trace handle cancelled}
    (hstages : stages trace = stages s.trace) :
    Owned { s with state := { s.state with terminalError }, trace, handle, cancelled } :=
  h.keep (fun owner hsome hcomplete => ⟨owner, hsome, hcomplete⟩) hstages (.refl _) h.plain

@[simp] theorem accept_stages (s : System) (result : Option Item) :
    stages (s.accept result).trace = stages s.trace := by
  unfold accept
  split
  · simp [log]
  · rfl

@[simp] theorem accept_others (s : System) (result : Option Item) :
    (s.accept result).others = s.others := by
  unfold accept
  split <;> rfl

section Standings

variable {s : System}

theorem Owned.follows (h : Owned s) {c : Consumer} (hfollows : s.consumer.Follows c) :
    ∀ answer, c.rest = some answer → answer.cleanup = none := by
  obtain hsame | ⟨-, hlate⟩ := hfollows
  · exact h.plain_answer _ hsame.symm
  · exact fun left hleft => (hlate left hleft).2

variable {answer : Option Answer}

theorem owned_destroys (h : Owned s) (hc : s.consumer = .dropBody true answer) :
    Owned { s with trace := s.trace ++ [.cleaned .body], consumer := .lockBody true answer } := by
  have hjobs : s.jobs = [] := h.jobs_of_polls (by rw [hc]; rfl)
  have hpolling : s.state.polling := by rw [h.polling, hc]; rfl
  refine ⟨?_, hpolling, h.plain_answer answer (by rw [hc]; rfl)⟩
  have hdestroys : ∀ {finished pending}, Stands s finished false pending [] s.consumer.dropped →
      Stands { s with trace := s.trace ++ [.cleaned .body], consumer := .lockBody true answer }
        finished false pending [] [.body] := fun stands =>
    { stands with
      jobs := by simp [jobs, (jobs_nil hjobs).1, Consumer.job]
      stages := by simpa [hc, Consumer.dropped] using stands.stages }
  cases h.standing with
  | streaming stands howner hbody =>
    refine .streaming (hdestroys stands) howner ?_
    simpa [hc, Consumer.checkedOut] using hbody
  | deferred cleanup stands howns _ hbody =>
    refine .deferred cleanup (hdestroys stands) howns rfl ?_
    simpa [hc, Consumer.checkedOut] using hbody
  | cleaning _ stands _ _ => cases hjobs.symm.trans stands.jobs
  | settled _ hpolls =>
    rw [hc] at hpolls
    cases hpolls

theorem owned_takes (h : Owned s) {checkedOut : Bool}
    (hc : s.consumer = .lockBody checkedOut answer) {cleanup : Cleanup}
    (hpending : s.state.pendingCleanup = some cleanup) :
    Owned { s with
      state := { s.state with polling := false, pendingCleanup := none }
      consumer := .clean { cleanup } answer } := by
  have hpolls : s.consumer.polls := by rw [hc]; rfl
  obtain ⟨hothers, -⟩ := jobs_nil (h.jobs_of_polls hpolls)
  refine ⟨?_, rfl, h.plain_answer answer (by rw [hc]; rfl)⟩
  cases h.standing with
  | deferred due stands howns _ hbody =>
    rw [hc] at stands hbody
    obtain rfl := Option.some.inj (stands.pending.symm.trans hpending)
    refine .cleaning { cleanup := due } { stands with pending := rfl, jobs := ?_, stages := ?_ }
      howns rfl
    · simp [jobs, hothers, Consumer.job]
    · cases checkedOut with
      | true =>
        have hgone : due.body = false := hbody
        simpa [Job.done, hgone, Consumer.dropped] using stands.stages
      | false =>
        have hin : due.body := hbody
        simpa [Job.done, hin, Consumer.dropped] using stands.stages
  | streaming stands _ _ | cleaning _ stands _ _ | settled stands _ =>
    cases stands.pending.symm.trans hpending

theorem owned_unlocks (h : Owned s) {checkedOut : Bool}
    (hc : s.consumer = .lockBody checkedOut answer) (hpending : s.state.pendingCleanup = none)
    (hback : checkedOut = false ∨ s.state.finished) :
    Owned { s with
      state := { s.state with polling := false, pendingCleanup := none }
      consumer := resume answer } := by
  have hplain := h.plain_answer answer (by rw [hc]; rfl)
  obtain ⟨hpolls, hjob, hout, hdropped, hrest⟩ := resume_plain hplain
  refine ⟨?_, hpolls.symm, fun a ha => hplain a (hrest.symm.trans ha)⟩
  cases h.standing with
  | streaming stands howner hbody =>
    rw [hc] at stands hbody
    obtain rfl : checkedOut = false := hback.resolve_right (by simp [stands.finished])
    refine .streaming { stands with pending := rfl, jobs := ?_, stages := ?_ } howner ?_
    · simp [jobs, (jobs_nil stands.jobs).1, hjob]
    · exact stands.stages.trans hdropped.symm
    · rw [hout]
      exact hbody
  | deferred _ stands _ _ _ => cases stands.pending.symm.trans hpending
  | cleaning _ _ _ hnot | settled _ hnot =>
    rw [hc] at hnot
    cases hnot

end Standings

theorem new_owned {budget : TimeoutBudget} {owner : StreamOwner} {bodyStart : Nat}
    {idleTimeout : Option Nat} (hcomplete : owner.Complete)
    (h : new shared budget owner bodyStart idleTimeout = .ok s) : Owned s := by
  unfold new at h
  split at h
  · cases h
  cases h
  refine ⟨?_, rfl, fun _ hrest => by cases hrest⟩
  exact .streaming ⟨rfl, rfl, rfl, rfl, rfl⟩ ⟨owner, rfl, hcomplete⟩ rfl

end System

end OpenNet.Http
