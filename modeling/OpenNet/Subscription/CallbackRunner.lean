import OpenNet.Foundation.SingleFlight
import OpenNet.Subscription.StateConvergence

/-!
# The callback runners of event and state registrations

Model of the scheduling half of `src/api/subscription/event_registration.rs` and
`src/api/subscription/registration.rs`.  Every lock section is a function on the registration's
state; the threads between the sections (publications waiting for their dispatch, submissions,
queued jobs, runners inside a callback or on their way out) are those of the single-flight
machine.  A submitted job is started eventually and never abandoned.
-/

namespace OpenNet.Subscription

open SingleFlight

variable {α : Type}

/-- `callback_fault`. -/
def callbackFault : NetError := (NetError.new .callbackPanicked).withStage .dispatch

/-! ## Event registrations -/

namespace EventRegistration

variable (s : EventState α)

/-- `schedule`. -/
def schedule : EventState α × Bool :=
  if !s.active || s.scheduled || !s.pending then (s, false)
  else if !s.driver then (s, false)
  else ({ s with scheduled := true }, true)

/-- `fail`. -/
def fail (error : NetError) (s : EventState α) : EventState α × Bool :=
  if s.callbackInstalling then
    ({ s with callbackInstallError := s.callbackInstallError.or (some error) }, false)
  else ({ s with finalError := s.finalError.or (some error) }, true)

/-- `install_callback`. -/
def installCallback : EventState α × Bool :=
  if !s.active then (s, false)
  else if s.callback || s.callbackInstalling then (s, false)
  else
    ({ s with pristine := false, callbackInstalling := true, callback := true, driver := true },
     true)

/-- `install_callback`, second section. -/
def callbackInstalled (scheduleError : Option NetError) (s : EventState α) : EventState α :=
  if s.callbackInstalling then
    match s.callbackInstallError.or scheduleError with
    | some _ =>
      { s with callbackInstalling := false, callbackInstallError := none, scheduled := false,
               callback := false, driver := false }
    | none => { s with callbackInstalling := false }
  else s

/-- `run`, first section. -/
def run : EventState α × Bool :=
  if !s.active then ({ s with scheduled := false }, false)
  else ({ s with callbackInstalling := false, running := true }, true)

/-- A round of `run_callbacks`: the idle decision retires the runner. -/
def runCallbacks : EventState α × Found :=
  match s.next with
  | (s, .pending) => ({ s with running := false, scheduled := false, closeWaker := none }, .idle)
  | (s, .done) => (s, .finished)
  | (s, _) => (s, if s.callback then .deliver else .orphan)

/-- `finish_run`. -/
def finishRun : EventState α :=
  { s with running := false, scheduled := false, closeWaker := none }

/-- `poll_close`: a close waits while a runner executes. -/
def pollClose (waker : WakerId) (s : EventState α) : EventState α × Option (Except NetError Unit) :=
  if s.running then ({ s with closeWaker := some waker }, none)
  else (s, some (match s.finalError with | some error => .error error | none => .ok ()))

end EventRegistration

/-- The sections of publisher and consumer. -/
inductive EventSection (α : Type) where
  | publish (reserved : Bool) (entry : Entry α)
  | skip (reserved : Bool) (skipped : Nat)
  | evictOldest (reserved : Bool)
  | seed (seed : EventSeed α)
  | finish (failure : Option NetError)
  | recv (waker : WakerId)
  | tryRecv
  | unsubscribe
  | pollClose (waker : WakerId)
  | installCallback
  | callbackInstalled

/-- A section, and whether a schedule call follows. -/
def eventSection (r : EventRegistration) (s : EventState α) : EventSection α → EventState α × Bool
  | .publish reserved entry =>
    ((r.preparePublish reserved entry s).1, (r.preparePublish reserved entry s).2.schedule)
  | .skip reserved skipped =>
    ((r.prepareSkip reserved skipped s).1, (r.prepareSkip reserved skipped s).2.schedule)
  | .evictOldest reserved =>
    ((r.prepareEvictOldest reserved s).1, (r.prepareEvictOldest reserved s).2.any (·.schedule))
  | .seed seed => ((r.prepareSeed seed s).1, (r.prepareSeed seed s).2.schedule)
  | .finish failure => ((EventRegistration.prepareFinish failure s).1,
      (EventRegistration.prepareFinish failure s).2.schedule)
  | .recv waker => ((EventRegistration.pollNext waker s).1, false)
  | .tryRecv => ((EventRegistration.tryRecv s).1, false)
  | .unsubscribe => ((EventRegistration.unsubscribe s).1, false)
  | .pollClose waker => ((EventRegistration.pollClose waker s).1, false)
  | .installCallback => EventRegistration.installCallback s
  | .callbackInstalled => (EventRegistration.callbackInstalled none s, false)

def eventComponent (α : Type) (r : EventRegistration) :
    Component (EventState α) (EventSection α) Unit where
  active := EventState.active
  driver := EventState.driver
  pending := EventState.pending
  scheduled := EventState.scheduled
  running := EventState.running
  act d s := eventSection r s d
  refresh _ s := s
  schedule := EventRegistration.schedule
  start := EventRegistration.run
  next := EventRegistration.runCallbacks
  fail := EventRegistration.fail callbackFault
  unsubscribe s := (EventRegistration.unsubscribe s).1
  finishRun := EventRegistration.finishRun

/-- No installation fails; a registration with a runner, or about to get one, has a callback. -/
structure EventRunnerOk (started : Bool) (s : EventState α) : Prop where
  installError : s.callbackInstallError = none
  driver : s.driver = s.callback
  installing : started → s.callbackInstalling = false
  callback : started ∨ s.scheduled → s.active → s.callback

/-- The fields the runner protocol reads are unchanged. -/
structure EventState.RunnerFrame (s s' : EventState α) : Prop where
  active : s'.active = s.active := by rfl
  callback : s'.callback = s.callback := by rfl
  driver : s'.driver = s.driver := by rfl
  scheduled : s'.scheduled = s.scheduled := by rfl
  running : s'.running = s.running := by rfl
  installing : s'.callbackInstalling = s.callbackInstalling := by rfl
  installError : s'.callbackInstallError = s.callbackInstallError := by rfl

section Event

variable {r : EventRegistration} {s s' : EventState α} {started : Bool}

theorem EventState.RunnerFrame.ok (h : s.RunnerFrame s') (hok : EventRunnerOk started s) :
    EventRunnerOk started s' where
  installError := h.installError.trans hok.installError
  driver := by rw [h.driver, h.callback]; exact hok.driver
  installing hs := h.installing.trans (hok.installing hs)
  callback hs ha := by
    rw [h.callback]
    rw [h.scheduled] at hs
    rw [h.active] at ha
    exact hok.callback hs ha

/-- The runner's fields stay, and a change asks for a schedule call. -/
def EventState.Publishes (s : EventState α) (out : EventState α × Bool) : Prop :=
  s.RunnerFrame out.1 ∧ (out.2 = false → out.1 = s)

theorem EventState.Publishes.kept {call : Bool} : s.Publishes (s, call) := ⟨{}, fun _ => rfl⟩

theorem EventState.Publishes.changed (h : s.RunnerFrame s') : s.Publishes (s', true) :=
  ⟨h, nofun⟩

theorem preparePublish_frame (reserved : Bool) (entry : Entry α) (s : EventState α) :
    s.Publishes (eventSection r s (.publish reserved entry)) := by
  rw [eventSection]
  fun_cases EventRegistration.preparePublish r reserved entry s with
  | case5 | case8 | case9 => exact .changed {}
  | _ => exact .kept

theorem prepareSkip_frame (reserved : Bool) (skipped : Nat) (s : EventState α) :
    s.Publishes (eventSection r s (.skip reserved skipped)) := by
  rw [eventSection]
  fun_cases EventRegistration.prepareSkip r reserved skipped s with
  | case5 => exact .changed {}
  | _ => exact .kept

theorem prepareEvictOldest_frame (reserved : Bool) (s : EventState α) :
    s.Publishes (eventSection r s (.evictOldest reserved)) := by
  rw [eventSection]
  fun_cases EventRegistration.prepareEvictOldest r reserved s with
  | case5 => exact .changed {}
  | _ => exact .kept

theorem prepareSeed_frame (seed : EventSeed α) (s : EventState α) :
    s.Publishes (eventSection r s (.seed seed)) := by
  rw [eventSection]
  fun_cases EventRegistration.prepareSeed r seed s with
  | case6 => exact .changed {}
  | _ => exact .kept

theorem prepareFinish_frame (failure : Option NetError) (s : EventState α) :
    s.Publishes (eventSection r s (.finish failure)) := by
  rw [eventSection]
  fun_cases EventRegistration.prepareFinish failure s with
  | case1 => exact .changed {}
  | case2 => exact .kept

theorem next_frame (s : EventState α) : s.RunnerFrame s.next.1 ∧ (s.next.1.pending → s.pending) ∧
      (s.next.2 = .pending → s.next.1.pending = false) := by
  fun_cases EventState.next s with
  | case1 => exact ⟨{}, id, nofun⟩
  | case2 s' _ hlagged => exact ⟨{}, fun _ => by simp_all [EventState.pending, s'], nofun⟩
  | case3 s' _ _ entry rest hqueue =>
    exact ⟨{}, fun _ => by simp_all [EventState.pending, s'], nofun⟩
  | case4 s' _ _ _ error herror =>
    exact ⟨{}, fun _ => by simp_all [EventState.pending, s'], nofun⟩
  | case5 s' _ hlagged hqueue herror =>
    exact ⟨{}, id, fun hopen => by simp_all [EventState.pending, s']⟩

theorem unsubscribe_runner (hok : EventRunnerOk started s) :
    EventRunnerOk started (EventRegistration.unsubscribe s).1 ∧
      (EventRegistration.unsubscribe s).1.active = false ∧
      (EventRegistration.unsubscribe s).1.scheduled = s.scheduled ∧
      (EventRegistration.unsubscribe s).1.running = s.running := by
  unfold EventRegistration.unsubscribe
  split
  · rename_i hactive
    exact ⟨hok, by simpa using hactive, rfl, rfl⟩
  · exact ⟨⟨hok.installError, rfl, hok.installing, nofun⟩, rfl, rfl, rfl⟩

theorem callbackInstalled_eq (h : s.callbackInstallError = none) :
    EventRegistration.callbackInstalled none s = { s with callbackInstalling := false } := by
  unfold EventRegistration.callbackInstalled
  split
  · rw [h]; rfl
  rename_i hinstalling
  have hinstalling : s.callbackInstalling = false := by simpa using hinstalling
  rw [← hinstalling]

theorem eventSection_lawful (d : EventSection α) (hok : EventRunnerOk started s) :
    (eventComponent α r).Acts EventRunnerOk started s (eventSection r s d) := by
  have hchange : ∀ {out : EventState α × Bool}, s.Publishes out →
      (eventComponent α r).Acts EventRunnerOk started s out := fun ⟨hframe, hsame⟩ =>
    ⟨hframe.ok hok, ⟨hframe.scheduled, hframe.running⟩, fun hcall hw => hsame hcall ▸ hw⟩
  have hreceive : ∀ {x : EventState α}, s.RunnerFrame x ∧
      (x.active → x.pending → s.pending) →
      (eventComponent α r).Acts EventRunnerOk started s (x, false) := fun ⟨hframe, hpending⟩ =>
    .of_pending (hframe.ok hok) ⟨hframe.scheduled, hframe.running⟩ hframe.active hframe.driver
      hpending
  cases d with
  | publish reserved entry => exact hchange (preparePublish_frame reserved entry s)
  | skip reserved skipped => exact hchange (prepareSkip_frame reserved skipped s)
  | evictOldest reserved => exact hchange (prepareEvictOldest_frame reserved s)
  | seed seed => exact hchange (prepareSeed_frame seed s)
  | finish failure => exact hchange (prepareFinish_frame failure s)
  | recv waker =>
    obtain ⟨left, hpoll⟩ := EventRegistration.pollNext_eq waker s
    rw [eventSection, hpoll]
    exact hreceive ⟨{ (next_frame s).1 with }, fun _ => (next_frame s).2.1⟩
  | tryRecv => exact hreceive ⟨(next_frame s).1, fun _ => (next_frame s).2.1⟩
  | unsubscribe =>
    obtain ⟨hok', hactive, hsched, hrun⟩ := unsubscribe_runner hok
    refine ⟨hok', ⟨hsched, hrun⟩, fun _ hw => ?_⟩
    simp [Component.wanted, eventComponent, eventSection, hactive] at hw
  | pollClose waker =>
    refine hreceive ?_
    simp only [EventRegistration.pollClose]
    split
    · exact ⟨{}, fun _ hp => hp⟩
    · exact ⟨{}, fun _ hp => hp⟩
  | installCallback =>
    simp only [eventSection, EventRegistration.installCallback]
    split
    · exact hchange .kept
    rename_i hactive
    split
    · exact hchange .kept
    rename_i hfree
    simp only [Bool.or_eq_true, not_or, Bool.not_eq_true] at hfree
    have hactive : s.active := by simpa using hactive
    refine ⟨⟨hok.installError, rfl, fun hs => ?_, fun _ _ => rfl⟩, ⟨rfl, rfl⟩,
      fun h => by cases h⟩
    -- with a runner around the callback would still be installed
    have := hok.callback (.inl hs) hactive
    simp [hfree.1] at this
  | callbackInstalled =>
    simp only [eventSection, callbackInstalled_eq hok.installError]
    exact ⟨{ hok with installing := fun _ => rfl }, ⟨rfl, rfl⟩,
      fun _ hw => hw⟩

theorem eventComponent_lawful (r : EventRegistration) :
    (eventComponent α r).Lawful EventRunnerOk where
  ok_mono h := ⟨h.installError, h.driver, nofun, fun _ => h.callback (.inl rfl)⟩
  act d h := eventSection_lawful d h
  refresh _ h := ⟨h, rfl, rfl⟩
  schedule hok := .of_flags
    (fun hd => { hok with callback := fun _ _ => hok.driver.symm.trans hd }) rfl rfl
  start hok hsched := .of_active
    (fun ha => ⟨{ hok with callback := fun _ h => by cases ha.symm.trans h }, ha⟩) rfl rfl
    ⟨⟨hok.installError, hok.driver, fun _ => rfl, fun _ => hok.callback (.inr hsched)⟩, rfl, rfl⟩
  next {s} hok := by
    obtain ⟨hframe, -, hidle⟩ := next_frame s
    simp only [eventComponent, EventRegistration.runCallbacks]
    generalize s.next = result at hframe hidle
    obtain ⟨x, delivery⟩ := result
    have hok' := hframe.ok hok
    cases delivery with
    | pending =>
      refine .idle { hok' with callback := fun _ => hok'.callback (.inl rfl) } rfl rfl ?_
      exact (congrArg (_ && ·) (hidle rfl)).trans (Bool.and_false _)
    | done => exact .busy (by decide) hok' ⟨hframe.scheduled, hframe.running⟩
    | item entry | lagged skipped | failed error =>
      refine .busy ?_ hok' ⟨hframe.scheduled, hframe.running⟩
      split <;> decide
  fail {s} hok := by
    have heq : EventRegistration.fail callbackFault s =
        ({ s with finalError := s.finalError.or (some callbackFault) }, true) := by
      simp [EventRegistration.fail, hok.installing rfl]
    simp only [eventComponent, heq]
    exact ⟨{ hok with }, ⟨rfl, rfl⟩, id⟩
  unsubscribe {s} hok := by
    obtain ⟨hok', hactive, hsched, hrun⟩ := unsubscribe_runner hok
    exact ⟨hok', ⟨hsched, hrun⟩, by simp [Component.wanted, eventComponent, hactive]⟩
  finishRun {s} hok :=
    ⟨{ hok with callback := fun _ => hok.callback (.inl rfl) }, rfl, rfl⟩

end Event

/-! ## State registrations -/

namespace RegistrationState

variable (s : RegistrationState α)

/-- `Registration::schedule`. -/
def schedule : RegistrationState α × Bool :=
  if !s.active || s.scheduled || !s.pending then (s, false)
  else if !s.driver then (s, false)
  else ({ s with scheduled := true }, true)

/-- `Registration::fail`. -/
def fail (error : NetError) (s : RegistrationState α) : RegistrationState α :=
  { s with finalError := s.finalError.or (some error) }

/-- `Registration::install_callback`. -/
def installCallback : RegistrationState α × Bool :=
  if !s.active then (s, false) else ({ s with callback := true, driver := true }, true)

/-- `Registration::run`, first section. -/
def run : RegistrationState α × Bool :=
  if !s.active then ({ s with scheduled := false }, false) else ({ s with running := true }, true)

/-- `Registration::run_callbacks`, one round. -/
def runCallbacks : RegistrationState α × Found :=
  match s.next with
  | (s, .pending) => ({ s with running := false, scheduled := false, closeWaker := none }, .idle)
  | (s, .done) => (s, .finished)
  | (s, _) => (s, if s.callback then .deliver else .orphan)

/-- `Registration::finish_run`. -/
def finishRun : RegistrationState α :=
  { s with running := false, scheduled := false, closeWaker := none }

/-- `Registration::poll_close`. -/
def pollClose (waker : WakerId) (s : RegistrationState α) :
    RegistrationState α × Option (Except NetError Unit) :=
  if s.running then ({ s with closeWaker := some waker }, none)
  else (s, some (match s.finalError with | some error => .error error | none => .ok ()))

end RegistrationState

inductive StateSection (α : Type) where
  | update (snapshot : Snapshot α)
  | refreshCommitted (snapshot : Snapshot α)
  | recv (waker : WakerId)
  | unsubscribe
  | pollClose (waker : WakerId)
  | bindLifetime
  | installCallback

/-- One section, and whether a schedule call follows. A receiver imports the state on its own stack;
an installed callback consumes it. -/
def stateSection (readCommitted : Bool) (s : RegistrationState α) :
    StateSection α → RegistrationState α × Bool
  | .update snapshot => s.update readCommitted snapshot
  | .refreshCommitted snapshot =>
    (if readCommitted && !s.driver then s.refreshCommitted snapshot else s, false)
  | .recv waker => ((s.pollNext waker).1, false)
  | .unsubscribe => (s.unsubscribe.1, false)
  | .pollClose waker => ((s.pollClose waker).1, false)
  | .bindLifetime => (s.bindLifetime.1, false)
  | .installCallback => s.installCallback

/-- A state registration; the runner imports the committed state before it looks for work. -/
def stateComponent (α : Type) (readCommitted : Bool) :
    Component (RegistrationState α) (StateSection α) (Snapshot α) where
  active := RegistrationState.active
  driver := RegistrationState.driver
  pending := RegistrationState.pending
  scheduled := RegistrationState.scheduled
  running := RegistrationState.running
  act d s := stateSection readCommitted s d
  refresh snapshot s := if readCommitted then s.refreshCommitted snapshot else s
  schedule := RegistrationState.schedule
  start := RegistrationState.run
  next := RegistrationState.runCallbacks
  fail s := (s.fail callbackFault, true)
  unsubscribe s := s.unsubscribe.1
  finishRun := RegistrationState.finishRun

/-- With a runner, or about to get one, there is a callback. -/
structure StateRunnerOk (started : Bool) (s : RegistrationState α) : Prop where
  driver : s.driver = s.callback
  callback : started ∨ s.scheduled → s.active → s.callback

/-- The fields the runner protocol reads are unchanged. -/
structure RegistrationState.RunnerFrame (s s' : RegistrationState α) : Prop where
  active : s'.active = s.active := by rfl
  callback : s'.callback = s.callback := by rfl
  driver : s'.driver = s.driver := by rfl
  scheduled : s'.scheduled = s.scheduled := by rfl
  running : s'.running = s.running := by rfl

section State

variable {s s' : RegistrationState α} {started : Bool} {readCommitted : Bool}

theorem RegistrationState.RunnerFrame.ok (h : s.RunnerFrame s')
    (hok : StateRunnerOk started s) : StateRunnerOk started s' where
  driver := by rw [h.driver, h.callback]; exact hok.driver
  callback hs ha := by
    rw [h.callback]
    rw [h.scheduled] at hs
    rw [h.active] at ha
    exact hok.callback hs ha

/-- A dispatched update asks for a schedule call if it changed anything. -/
theorem RegistrationState.update_frame (readCommitted : Bool) (x : Snapshot α)
    (s : RegistrationState α) : s.RunnerFrame (s.update readCommitted x).1 ∧
      ((s.update readCommitted x).2 = false → (s.update readCommitted x).1 = s) := by
  fun_cases RegistrationState.update readCommitted x s with
  | case1 | case2 => exact ⟨{}, fun _ => rfl⟩
  | case3 | case4 => exact ⟨{}, nofun⟩

theorem RegistrationState.refreshCommitted_frame (x : Snapshot α) (s : RegistrationState α) :
    s.RunnerFrame (s.refreshCommitted x) := by
  fun_cases RegistrationState.refreshCommitted x s <;> exact {}

theorem RegistrationState.pollClose_frame (waker : WakerId) (s : RegistrationState α) :
    s.RunnerFrame (s.pollClose waker).1 ∧ (s.pollClose waker).1.pending = s.pending := by
  fun_cases RegistrationState.pollClose waker s <;> exact ⟨{}, rfl⟩

theorem RegistrationState.bindLifetime_frame (s : RegistrationState α) :
    s.RunnerFrame s.bindLifetime.1 ∧ s.bindLifetime.1.pending = s.pending := by
  fun_cases RegistrationState.bindLifetime s <;> exact ⟨{}, rfl⟩

theorem RegistrationState.next_frame (s : RegistrationState α) :
    s.RunnerFrame s.next.1 ∧ (s.next.1.pending → s.pending) ∧
      (s.next.2 = .pending → s.next.1.pending = false) := by
  fun_cases RegistrationState.next s with
  | case1 => exact ⟨{}, id, fun h => by cases h⟩
  | case2 _ v hinitial =>
    exact ⟨{}, fun _ => by simp [RegistrationState.pending, hinitial], fun h => by cases h⟩
  | case3 _ _ hseen =>
    exact ⟨{}, fun _ => by simp [RegistrationState.pending, hseen], fun h => by cases h⟩
  | case4 _ _ _ error herror =>
    exact ⟨{}, fun _ => by simp [RegistrationState.pending, herror], fun h => by cases h⟩
  | case5 _ hinitial hseen herror =>
    exact ⟨{}, id, fun hopen => by simp_all [RegistrationState.pending]⟩

theorem RegistrationState.unsubscribe_runner (hok : StateRunnerOk started s) :
    StateRunnerOk started s.unsubscribe.1 ∧ s.unsubscribe.1.active = false ∧
      s.unsubscribe.1.scheduled = s.scheduled ∧ s.unsubscribe.1.running = s.running := by
  unfold RegistrationState.unsubscribe
  split
  · rename_i hactive
    exact ⟨hok, by simpa using hactive, rfl, rfl⟩
  · exact ⟨⟨rfl, nofun⟩, rfl, rfl, rfl⟩

theorem stateSection_lawful (d : StateSection α) (hok : StateRunnerOk started s) :
    (stateComponent α readCommitted).Acts StateRunnerOk started s
      (stateSection readCommitted s d) := by
  have hchange : ∀ {x : RegistrationState α} {call : Bool}, s.RunnerFrame x →
      (call = false → (stateComponent α readCommitted).wanted x →
        (stateComponent α readCommitted).wanted s) →
      (stateComponent α readCommitted).Acts StateRunnerOk started s (x, call) :=
    fun hframe hwanted => ⟨hframe.ok hok, ⟨hframe.scheduled, hframe.running⟩, hwanted⟩
  have hreceive : ∀ {x : RegistrationState α}, s.RunnerFrame x →
      (x.active → x.pending → s.pending) →
      (stateComponent α readCommitted).Acts StateRunnerOk started s (x, false) :=
    fun hframe hpending => .of_pending (hframe.ok hok) ⟨hframe.scheduled, hframe.running⟩
      hframe.active hframe.driver hpending
  cases d with
  | update snapshot =>
    obtain ⟨hframe, hsame⟩ := s.update_frame readCommitted snapshot
    exact hchange hframe fun hcall hw => hsame hcall ▸ hw
  | refreshCommitted snapshot =>
    by_cases howned : (readCommitted && !s.driver)
    · have heq : stateSection readCommitted s (.refreshCommitted snapshot) =
          (s.refreshCommitted snapshot, false) := by
        rw [stateSection, if_pos howned]
      have hframe := s.refreshCommitted_frame snapshot
      rw [heq]
      refine hchange hframe fun _ hw => ?_
      simp only [Bool.and_eq_true, Bool.not_eq_eq_eq_not, Bool.not_true] at howned
      simp [Component.wanted, stateComponent, hframe.driver, howned.2] at hw
    · have heq : stateSection readCommitted s (.refreshCommitted snapshot) = (s, false) := by
        rw [stateSection, if_neg howned]
      rw [heq]
      exact hchange {} fun _ hw => hw
  | recv waker =>
    obtain ⟨left, hpoll⟩ := s.pollNext_eq waker
    rw [stateSection, hpoll]
    exact hreceive { s.next_frame.1 with } fun _ => s.next_frame.2.1
  | unsubscribe =>
    obtain ⟨hok', hactive, hsched, hrun⟩ := RegistrationState.unsubscribe_runner hok
    refine ⟨hok', ⟨hsched, hrun⟩, fun _ hw => ?_⟩
    simp [Component.wanted, stateComponent, stateSection, hactive] at hw
  | pollClose waker =>
    obtain ⟨hframe, hpending⟩ := s.pollClose_frame waker
    exact hreceive hframe fun _ hp => hpending ▸ hp
  | bindLifetime =>
    obtain ⟨hframe, hpending⟩ := s.bindLifetime_frame
    exact hreceive hframe fun _ hp => hpending ▸ hp
  | installCallback =>
    simp only [stateSection, RegistrationState.installCallback]
    split
    · exact hchange {} fun _ hw => hw
    · exact ⟨⟨rfl, fun _ _ => rfl⟩, ⟨rfl, rfl⟩, fun h => by cases h⟩

theorem stateComponent_lawful (readCommitted : Bool) :
    (stateComponent α readCommitted).Lawful StateRunnerOk where
  ok_mono h := ⟨h.driver, fun _ => h.callback (.inl rfl)⟩
  act d h := stateSection_lawful d h
  refresh {s} x hok := by
    simp only [stateComponent]
    split
    · have hframe := s.refreshCommitted_frame x
      exact ⟨hframe.ok hok, hframe.scheduled, hframe.running⟩
    · exact ⟨hok, rfl, rfl⟩
  schedule hok := .of_flags
    (fun hd => { hok with callback := fun _ _ => hok.driver.symm.trans hd }) rfl rfl
  start hok hsched := .of_active
    (fun ha => ⟨{ hok with callback := fun _ h => by cases ha.symm.trans h }, ha⟩) rfl rfl
    ⟨⟨hok.driver, fun _ => hok.callback (.inr hsched)⟩, rfl, rfl⟩
  next {s} hok := by
    obtain ⟨hframe, -, hidle⟩ := s.next_frame
    simp only [stateComponent, RegistrationState.runCallbacks]
    generalize s.next = result at hframe hidle
    obtain ⟨x, delivery⟩ := result
    have hok' := hframe.ok hok
    cases delivery with
    | pending =>
      refine .idle { hok' with callback := fun _ => hok'.callback (.inl rfl) } rfl rfl ?_
      exact (congrArg (_ && ·) (hidle rfl)).trans (Bool.and_false _)
    | done => exact .busy (by decide) hok' ⟨hframe.scheduled, hframe.running⟩
    | value v | error e =>
      refine .busy ?_ hok' ⟨hframe.scheduled, hframe.running⟩
      split <;> decide
  fail {s} hok := ⟨⟨hok.driver, hok.callback⟩, ⟨rfl, rfl⟩, id⟩
  unsubscribe {s} hok := by
    obtain ⟨hok', hactive, hsched, hrun⟩ := RegistrationState.unsubscribe_runner hok
    exact ⟨hok', ⟨hsched, hrun⟩, by simp [Component.wanted, stateComponent, hactive]⟩
  finishRun {s} hok := ⟨⟨hok.driver, fun _ => hok.callback (.inl rfl)⟩, rfl, rfl⟩

end State

/-! ## The scheduling contract -/

/-- **Callback runner scheduling**, for a fresh event or state registration and every interleaving
of commits, dispatches, job starts, runner rounds, retirements and detachments. -/
theorem callback_runner_scheduling {β : Type} (r : EventRegistration) (readCommitted : Bool)
    (snapshot : Snapshot β) (eventActs : List (Action (EventSection α) Unit))
    (stateActs : List (Action (StateSection β) (Snapshot β))) :
    let e := Machine.run (step (eventComponent α r)) { data := {} } eventActs
    let t := Machine.run (step (stateComponent β readCommitted))
      { data := RegistrationState.new snapshot } stateActs
    (e.runners.count .delivering ≤ 1 ∧
      (e.undispatched = 0 → e.calls = 0 → e.data.active = true → e.data.driver = true →
        e.data.pending = true →
        e.data.scheduled = true ∧ e.submitting + e.jobs + e.live = 1)) ∧
    (t.runners.count .delivering ≤ 1 ∧
      (t.undispatched = 0 → t.calls = 0 → t.data.active = true → t.data.driver = true →
        t.data.pending = true →
        t.data.scheduled = true ∧ t.submitting + t.jobs + t.live = 1)) := by
  intro e t
  have he : Inv (eventComponent α r) EventRunnerOk e :=
    inv_run (eventComponent_lawful r)
      (inv_init ⟨rfl, rfl, nofun, fun h => by rcases h with h | h <;> cases h⟩ rfl rfl rfl)
      eventActs
  have ht : Inv (stateComponent β readCommitted) StateRunnerOk t :=
    inv_run (stateComponent_lawful readCommitted)
      (inv_init ⟨rfl, fun h => by rcases h with h | h <;> cases h⟩ rfl rfl rfl) stateActs
  refine ⟨⟨he.delivering_le_one, fun hu hc ha hd hp => ?_⟩,
    ⟨ht.delivering_le_one, fun hu hc ha hd hp => ?_⟩⟩
  · exact he.quiescent hu hc (by simp [Component.wanted, eventComponent, ha, hd, hp])
  · exact ht.quiescent hu hc (by simp [Component.wanted, stateComponent, ha, hd, hp])

end OpenNet.Subscription
