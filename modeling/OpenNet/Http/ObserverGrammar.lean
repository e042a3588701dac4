import OpenNet.Http.RetryObserver

/-!
# The grammar of retry observations

An observer that sees a whole request sees its attempts one after the other, numbered from one,
and then the end.  A retry is announced before the attempt it follows is finished.
-/

namespace OpenNet.Http

open RetryLoop (Mode LoopAction isOver)

/-! ## Whole requests -/

/-- The observations of attempt `k`; `retry` is the delay after it. -/
def cycle (k : Nat) (retry : Option Nat) : List RetryEvent :=
  .attemptStarted k :: retry.toList.map (.retryScheduled k) ++ [.attemptFinished k retry.isNone]

def cycles : Nat → List (Option Nat) → List RetryEvent
  | _, [] => []
  | k, retry :: rest => cycle k retry ++ cycles (k + 1) rest

/-- Attempts `1, …, n`, and then the one `Completed`. -/
def Grammatical (events : List RetryEvent) (n : Nat) (report : RetryReport) : Prop :=
  ∃ retries : List (Option Nat), retries.length = n ∧
    events = cycles 1 retries ++ [.completed report]

theorem cycles_append (k : Nat) (first second : List (Option Nat)) :
    cycles k (first ++ second) = cycles k first ++ cycles (k + first.length) second := by
  induction first generalizing k with
  | nil => rfl
  | cons retry rest ih =>
    simp only [List.cons_append, cycles, ih, List.append_assoc, List.length_cons]
    rw [Nat.add_assoc, Nat.add_comm 1]

/-! ## Requests up to a point -/

/-- The observations of `n` attempts; `current` is unfinished. -/
inductive Attempts : List RetryEvent → Option Nat → Nat → Prop where
  | fresh : Attempts [] none 0
  | started {events : List RetryEvent} {n : Nat} (h : Attempts events none n) :
    Attempts (events ++ [.attemptStarted (n + 1)]) (some (n + 1)) (n + 1)
  | retried {events : List RetryEvent} {n : Nat} (delay : Nat) (h : Attempts events (some n) n) :
    Attempts (events ++ [.retryScheduled n delay, .attemptFinished n false]) none n

namespace Attempts

variable {events : List RetryEvent} {current : Option Nat} {n : Nat}

theorem current_eq (h : Attempts events current n) : current = none ∨ current = some n := by
  cases h with
  | fresh => exact .inl rfl
  | started h => exact .inr rfl
  | retried delay h => exact .inl rfl

theorem of_nil (h : Attempts [] current n) : current = none ∧ n = 0 := by
  generalize hevents : ([] : List RetryEvent) = events at h
  cases h with
  | fresh => exact ⟨rfl, rfl⟩
  | started | retried => exact absurd hevents.symm (by simp)

theorem cycles_eq (h : Attempts events current n) :
    (current = none → ∃ retries, retries.length = n ∧ events = cycles 1 retries) ∧
    (current = some n → ∃ retries, retries.length + 1 = n ∧
      events = cycles 1 retries ++ [.attemptStarted n]) := by
  induction h with
  | fresh => exact ⟨fun _ => ⟨[], rfl, rfl⟩, nofun⟩
  | started h ih =>
    refine ⟨nofun, fun _ => ?_⟩
    obtain ⟨retries, rfl, rfl⟩ := ih.1 rfl
    exact ⟨retries, rfl, rfl⟩
  | retried delay h ih =>
    refine ⟨fun _ => ?_, nofun⟩
    obtain ⟨retries, rfl, rfl⟩ := ih.2 rfl
    refine ⟨retries ++ [some delay], List.length_append, ?_⟩
    rw [cycles_append, Nat.add_comm 1, List.append_assoc]
    rfl

theorem grammatical (h : Attempts events current n) (report : RetryReport) :
    Grammatical (events ++ (TerminalObservation.mk current report).events) n report := by
  obtain rfl | rfl := h.current_eq
  · obtain ⟨retries, hlength, rfl⟩ := h.cycles_eq.1 rfl
    exact ⟨retries, hlength, rfl⟩
  obtain ⟨retries, rfl, rfl⟩ := h.cycles_eq.2 rfl
  refine ⟨retries ++ [none], List.length_append, ?_⟩
  rw [cycles_append, Nat.add_comm 1, List.append_assoc, List.append_assoc]
  rfl

end Attempts

/-! ## Operations and calls -/

def Op.note : Op → Option RetryEvent
  | .notify event => some event
  | _ => none

def Op.handed : Op → Option TerminalObservation
  | .handOver t => some t
  | _ => none

namespace Observation

def notes (ops : List Op) : List RetryEvent := ops.filterMap Op.note

def handOvers (ops : List Op) : List TerminalObservation := ops.filterMap Op.handed

def observed (calls : List LifecycleCall) : List RetryEvent := notes (calls.flatMap callOps)

@[simp] theorem notes_append (ops more : List Op) : notes (ops ++ more) = notes ops ++ notes more :=
  List.filterMap_append

@[simp] theorem handOvers_append (ops more : List Op) :
    handOvers (ops ++ more) = handOvers ops ++ handOvers more :=
  List.filterMap_append

@[simp] theorem observed_append (calls more : List LifecycleCall) :
    observed (calls ++ more) = observed calls ++ observed more := by
  rw [observed, observed, observed, List.flatMap_append, notes_append]

@[simp] theorem notes_map_notify (events : List RetryEvent) :
    notes (events.map Op.notify) = events := by
  induction events with
  | nil => rfl
  | cons event rest ih => exact congrArg (event :: ·) ih

@[simp] theorem handOvers_map_notify (events : List RetryEvent) :
    handOvers (events.map Op.notify) = [] := by
  induction events with
  | nil => rfl
  | cons event rest ih => exact ih

end Observation

/-! ## What a step of a loop adds -/

namespace RetryLoop

open Observation (observed observed_append)

def attempting : LoopStage → Bool
  | .running | .body _ _ => true
  | _ => false

/-- The calls of a loop, and the attempt that is open in it. -/
structure Shape (s : RetryLoop) : Prop where
  live : isOver s.stage = false → s.completed = false
  attempts : ∃ current, Attempts (observed s.calls) current s.state.attempts ∧
    (isOver s.stage = false → current = s.currentAttempt)
  current : isOver s.stage = false → s.currentAttempt.isSome = attempting s.stage

/-- What a step adds to the calls.  An end is added once. -/
inductive Added (s t : RetryLoop) : List LifecycleCall → Prop where
  | nothing (hover : isOver t.stage = isOver s.stage)
    (hattempts : t.state.attempts = s.state.attempts) : Added s t []
  | started (hover : isOver t.stage = false) (hready : s.stage = .ready)
    (hattempts : t.state.attempts = s.state.attempts + 1) :
    Added s t [.attemptStarted (s.state.attempts + 1)]
  | scheduled (delay : Nat) (hover : isOver t.stage = false) (hrunning : s.stage = .running)
    (hattempts : t.state.attempts = s.state.attempts) :
    Added s t [.retryScheduled s.state.attempts delay]
  | ended (current : Option Nat) (report : RetryReport) (hlive : isOver s.stage = false)
    (hover : isOver t.stage) (hattempts : t.state.attempts = s.state.attempts)
    (hreport : report.attempts = t.state.attempts)
    (h : Attempts (observed t.calls) current t.state.attempts) :
    Added s t [.emitTerminal current report]
  | startEnded (current : Option Nat) (report : RetryReport) (hready : s.stage = .ready)
    (hover : isOver t.stage) (hattempts : t.state.attempts = s.state.attempts + 1)
    (hreport : report.attempts = t.state.attempts)
    (h : Attempts (observed t.calls) current t.state.attempts) :
    Added s t [.attemptStarted (s.state.attempts + 1), .emitTerminal current report]

theorem new_shape (random : UInt64) : Shape (new random) where
  live _ := rfl
  attempts := ⟨none, .fresh, fun _ => rfl⟩
  current _ := rfl

section Moves

variable {req : RetryRequest} {mode : Mode} {s t : RetryLoop}

theorem Shape.open_attempts (hs : Shape s) (hlive : isOver s.stage = false) :
    Attempts (observed s.calls) s.currentAttempt s.state.attempts := by
  obtain ⟨current, h, hcurrent⟩ := hs.attempts
  exact hcurrent hlive ▸ h

theorem Started.attempts_of (h : Started req s t) (hs : Shape s) (hready : s.stage = .ready) :
    Attempts (observed t.calls) t.currentAttempt t.state.attempts := by
  have hlive : isOver s.stage = false := by rw [hready]; rfl
  have hnone : s.currentAttempt = none := by
    have h := hs.current hlive
    rw [hready] at h
    exact Option.not_isSome_iff_eq_none.mp (by rw [h]; exact Bool.false_ne_true)
  have hopen := hs.open_attempts hlive
  rw [hnone] at hopen
  rw [h.calls, observed_append, h.current, h.attempts]
  exact hopen.started

section

variable (h : Ended s t) (hopen : Attempts (observed s.calls) s.currentAttempt s.state.attempts)
include h hopen

theorem Ended.attempts_of : Attempts (observed t.calls) s.currentAttempt t.state.attempts := by
  obtain ⟨report, -, hcalls⟩ := h.calls
  rw [hcalls, observed_append, h.attempts]
  exact (List.append_nil _).symm ▸ hopen

theorem Ended.shape : Shape t where
  live hlive := by rw [h.isOver] at hlive; cases hlive
  attempts := ⟨_, h.attempts_of hopen, fun hlive => by rw [h.isOver] at hlive; cases hlive⟩
  current hlive := by rw [h.isOver] at hlive; cases hlive

end

theorem Ended.added (h : Ended s t) (hlive : RetryLoop.isOver s.stage = false)
    (hopen : Attempts (observed s.calls) s.currentAttempt s.state.attempts) :
    ∃ added, t.calls = s.calls ++ added ∧ Added s t added := by
  obtain ⟨report, hreport, hcalls⟩ := h.calls
  exact ⟨_, hcalls, .ended _ report hlive h.isOver h.attempts (hreport.trans h.attempts.symm)
    (h.attempts_of hopen)⟩

theorem Moves.added (h : Moves req mode s t) (hs : Shape s) (hlive : isOver s.stage = false) :
    Shape t ∧ ∃ added, t.calls = s.calls ++ added ∧ Added s t added := by
  cases h with
  | same => exact ⟨hs, [], (List.append_nil _).symm, .nothing rfl rfl⟩
  | started t hstage hstart =>
    exact ⟨{
      live := fun _ => hstart.completed.trans (hs.live hlive)
      attempts := ⟨_, hstart.attempts_of hs hstage, fun _ => rfl⟩
      current := fun _ => by rw [hstart.current]; rfl },
      _, hstart.calls, .started rfl hstage hstart.attempts⟩
  | startEnded u _ hstage hstart hend =>
    have hopen := hstart.attempts_of hs hstage
    obtain ⟨report, hreport, hcalls⟩ := hend.calls
    refine ⟨hend.shape hopen, _, ?_, .startEnded _ report hstage hend.isOver
      (hend.attempts.trans hstart.attempts) (hreport.trans hend.attempts.symm)
      (hend.attempts_of hopen)⟩
    rw [hcalls, hstart.calls, List.append_assoc]
    rfl
  | scheduled _ auth hstage hscheduled =>
    have hopen := hs.open_attempts hlive
    have hover : isOver t.stage = false := by rw [hscheduled.stage]; rfl
    have hsome : s.currentAttempt = some s.state.attempts := by
      obtain hnone | hsome := hopen.current_eq
      · have h := hs.current hlive
        rw [hnone, hstage] at h
        cases h
      · exact hsome
    obtain ⟨delay, hcalls⟩ := hscheduled.calls
    rw [hsome] at hopen
    refine ⟨{
      live := fun _ => hscheduled.completed.trans (hs.live hlive)
      attempts := ⟨none, ?_, fun _ => hscheduled.current.symm⟩
      current := fun _ => by rw [hscheduled.current, hscheduled.stage]; rfl },
      _, hcalls, .scheduled delay hover hstage hscheduled.attempts⟩
    rw [hcalls, observed_append, hscheduled.attempts]
    exact hopen.retried delay
  | resumed _ hstage | delivered _ _ _ _ hstage =>
    have hcurrent := hs.current hlive
    rw [hstage] at hcurrent
    exact ⟨{
      live := fun _ => hs.live hlive
      attempts := ⟨_, hs.open_attempts hlive, fun _ => rfl⟩
      current := fun _ => hcurrent },
      [], (List.append_nil _).symm, .nothing hlive.symm rfl⟩
  | ended _ hend =>
    have hopen := hs.open_attempts hlive
    exact ⟨hend.shape hopen, hend.added hlive hopen⟩

theorem step_added (req : RetryRequest) (mode : Mode) (hs : Shape s) (a : LoopAction) :
    Shape (step req mode s a) ∧ ∃ added, (step req mode s a).calls = s.calls ++ added ∧
        Added s (step req mode s a) added := by
  by_cases hlive : isOver s.stage = false
  · exact (step_moves hs.live a).added hs hlive
  · rw [step_over (Bool.not_eq_false _ ▸ hlive) mode a]
    exact ⟨hs, [], (List.append_nil _).symm, .nothing rfl rfl⟩

theorem step_unobserved (req : RetryRequest) (mode : Mode) (hs : Shape s)
    (hnone : observed s.calls = []) (a : LoopAction) (ha : ∀ b, a = .begin b → b.total ≠ none) :
    observed (step req mode s a).calls = [] := by
  by_cases hready : s.stage = .ready
  · -- The check is the only way from here into an attempt.
    have hlive : isOver s.stage = false := by rw [hready]; rfl
    obtain hsame | hend := step_blocked hready (hs.live hlive) mode a ha
    · rw [hsame, hnone]
    obtain ⟨report, -, hcalls⟩ := hend.calls
    rw [hcalls, observed_append, hnone]
    rfl
  · obtain ⟨-, added, hcalls, hadded⟩ := step_added req mode hs a
    rw [hcalls, observed_append, hnone]
    cases hadded with
    | nothing hover hattempts => rfl
    | started hover h => exact absurd h hready
    | scheduled delay hover hrunning hattempts =>
      -- Nothing was observed outside of an attempt.
      have hlive : isOver s.stage = false := by rw [hrunning]; rfl
      have hopen := hs.open_attempts hlive
      rw [hnone] at hopen
      have h := hs.current hlive
      rw [hopen.of_nil.1, hrunning] at h
      cases h
    | ended current report hlive hover hattempts hreport h => rfl
    | startEnded current report h => exact absurd h hready

end Moves

end RetryLoop

end OpenNet.Http
