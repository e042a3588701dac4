import OpenNet.Foundation.Fallible
import OpenNet.Foundation.Machine
import OpenNet.NetStatus.NetworkSource

/-!
# Consistency of the network status source

All interleavings of the owner of the source, of the publishers of its generations and of the
handles of its views.
-/

namespace OpenNet.NetStatus

open Checked

/-! ## Losses along the commits -/

def isLoss (before after : NetworkSnapshot) : Bool :=
  after.reachability = some .unavailable && before.reachability ≠ some .unavailable

def losses : List NetworkSnapshot → Nat
  | before :: after :: rest => (if isLoss before after then 1 else 0) + losses (after :: rest)
  | _ => 0

theorem losses_concat (last next : NetworkSnapshot) :
    ∀ front : List NetworkSnapshot, losses (front ++ [last] ++ [next]) =
      losses (front ++ [last]) + if isLoss last next then 1 else 0
  | [] => by simp [losses]
  | [first] => by simp [losses]
  | first :: second :: front => by
    have ih := losses_concat last next (second :: front)
    simp only [List.cons_append, losses] at ih ⊢
    rw [ih, Nat.add_assoc]

/-! ## What an action can do -/

theorem increment_ok {value next : Nat} (h : increment value = .ok next) : next = value + 1 := by
  unfold increment at h
  split at h
  · cases h
  rename_i hadd
  obtain rfl := Except.ok.inj h
  exact (checkedAdd_eq_some.mp hadd).1

variable {target : MonitorState} {reachability : Option NetworkStatus} {ipStack : Option IpStack}
  {observedAt : Option Nat} {next : NetworkSnapshot} {generation : Nat} {action : SourceAction}

/-- The next snapshot has the next revision, and the next loss epoch exactly at a loss. -/
theorem nextSnapshot_ok {s : SourceState}
    (h : s.nextSnapshot target reachability ipStack observedAt = .ok next) :
    next.revision = s.revision + 1 ∧
      next.lossEpoch = s.lossEpoch + (if isLoss s.snapshot next then 1 else 0) ∧
      next.reachability = reachability ∧ next.ipStack = ipStack := by
  obtain ⟨revision, hrevision, h⟩ := Fallible.bind_eq_ok.mp h
  obtain ⟨lossEpoch, hloss, h⟩ := Fallible.bind_eq_ok.mp h
  obtain rfl := Except.ok.inj h
  refine ⟨increment_ok hrevision, ?_, rfl, rfl⟩
  unfold SourceState.nextLossEpoch at hloss
  split at hloss
  · rename_i hcond
    obtain ⟨rfl, hne⟩ := hcond
    simp [isLoss, hne, increment_ok hloss]
  · rename_i hcond
    obtain rfl := Except.ok.inj hloss
    rw [if_neg]
    · rfl
    · simp only [isLoss, Bool.and_eq_true, decide_eq_true_eq]
      rintro ⟨rfl, hne⟩
      exact hcond ⟨rfl, hne⟩

/-- The generation in whose name an action changes facts. -/
def SourceAction.author : SourceAction → Option Nat
  | .observation _ generation _ _ _ => some generation
  | .sampled _ generation _ _ _ _ _ => some generation
  | .finish _ generation _ => some generation
  | .refresh _ _ target _ _ _ _ => some target.sourceGeneration
  | _ => none

/-- A failure or a commit; without an author it holds no facts. -/
inductive Change (author : Option Nat) (s : SourceState) : SourceState → Prop where
  | failed (error : NetError) (gating : NetworkStatusSnapshot) (generation : Nat) (active : Bool)
    (views : List CoordinatedView) :
    Change author s { s with publicationError := some error, gating, generation, active, views }
  | committed (next : NetworkSnapshot) (gating : NetworkStatusSnapshot)
    (hrevision : next.revision = s.revision + 1)
    (hloss : next.lossEpoch = s.lossEpoch + if isLoss s.snapshot next then 1 else 0)
    (hstatus : gating.status = next.reachability)
    (hepoch : gating.lossEpoch = next.lossEpoch ∨ gating = s.gating)
    (hfacts : author = none → next.reachability = none ∧ next.ipStack = none)
    (generation : Nat) (active : Bool) (views : List CoordinatedView) :
    Change author s
      { s with revision := next.revision, lossEpoch := next.lossEpoch, snapshot := next, gating,
               commits := s.commits ++ [next], generation, active, views }

variable {author : Option Nat}

theorem Change.settle {s s' : SourceState} (generation : Nat)
    (h : Change author { s with generation } s') (generation' : Nat) (active : Bool) :
    Change author s { s' with generation := generation', active } := by
  cases h with
  | failed error gating generation active' views => exact .failed (s := s) error gating _ _ views
  | committed next gating hrevision hloss hstatus hepoch hfacts generation active' views =>
    exact .committed (s := s) next gating hrevision hloss hstatus hepoch hfacts _ _ views

variable {s : SourceState}

theorem failPublication_change (answers : Answers) (error : NetError) (author : Option Nat) :
    Change author s (s.failPublication answers error).1 :=
  .failed error _ s.generation false _

theorem commit_change (answers : Answers)
    (hnext : s.nextSnapshot target reachability ipStack observedAt = .ok next)
    (hfacts : author = none → reachability = none ∧ ipStack = none) :
    Change author s (s.commit answers next).1 := by
  obtain ⟨hrevision, hloss, rfl, rfl⟩ := nextSnapshot_ok hnext
  unfold SourceState.commit
  simp only []
  split
  · exact failPublication_change answers _ author
  · exact failPublication_change answers _ author
  rename_i gating hgating hpublished
  obtain ⟨hstatus, hepoch⟩ : gating.status = next.reachability ∧
      (gating.lossEpoch = next.lossEpoch ∨ gating = s.gating) := by
    split at hgating
    · cases hincrement : increment s.gating.revision with
      | error error =>
        rw [hincrement] at hgating
        cases hgating
      | ok revision =>
        rw [hincrement] at hgating
        obtain rfl := Except.ok.inj hgating
        exact ⟨rfl, .inl rfl⟩
    · rename_i hsame
      obtain rfl := Except.ok.inj hgating
      exact ⟨by simpa using hsame, .inr rfl⟩
  exact .committed next gating hrevision hloss hstatus hepoch hfacts s.generation s.active _

theorem current_iff : s.current generation ↔
    s.generation = generation ∧ s.active ∧ s.snapshot.state ≠ .closed := by
  simp [SourceState.current, and_assoc]

/-- Beyond the views: on an open source, an author only when active, at most one sample and one
change. -/
structure Acts (author : Option Nat) (s s' : SourceState) : Prop where
  live : s.snapshot.state ≠ .closed
  owned : author = none ∨ author = some s.generation ∧ s.active
  change : ∃ s₀, (s₀ = s ∨ ∃ sampleId, s.lastSampleId < sampleId ∧ s₀ = s.accept sampleId) ∧
    (s' = s₀ ∨ Change author s₀ s')

/-- Nothing, without an author something to the views, or it acts. -/
inductive Effect (author : Option Nat) (s : SourceState) : SourceState → Prop where
  | same : Effect author s s
  | views (hauthor : author = none) (views : List CoordinatedView) :
      Effect author s { s with views }
  | acts {s' : SourceState} (h : Acts author s s') : Effect author s s'

section

variable (answers : Answers)

theorem beginGeneration_effect : Effect none s (s.beginGeneration answers).1 := by
  unfold SourceState.beginGeneration
  split
  · exact .same
  split
  · exact .same
  rename_i hclosed
  split
  · exact .same
  rename_i generation hgeneration
  split
  · exact .same
  rename_i next hnext
  have hchange : Change none { s with generation }
      ({ s with generation }.commit answers next).1 :=
    commit_change answers (s := { s with generation }) hnext fun _ => ⟨rfl, rfl⟩
  refine .acts ⟨hclosed, .inl rfl, s, .inl rfl, .inr ?_⟩
  simp only []
  split
  · exact hchange.settle generation _ _
  · exact hchange.settle generation _ _

theorem prepareTerminal_effect (permanent : Bool) :
    Effect none s (s.prepareTerminal answers permanent).1 := by
  unfold SourceState.prepareTerminal
  split
  · exact .same
  split
  · exact .same
  rename_i hstate
  have hclosed : s.snapshot.state ≠ .closed := by
    intro hclosed
    simp [hclosed] at hstate
  refine .acts ⟨hclosed, .inl rfl, s, .inl rfl, .inr ?_⟩
  split
  · exact failPublication_change answers _ none
  rename_i next hnext
  have hchange : Change none s (s.commit answers next).1 :=
    commit_change answers hnext fun _ => ⟨rfl, rfl⟩
  exact hchange.settle s.generation _ _

theorem prepareObservation_effect (generation : Nat) (reachability : NetworkStatus)
    (ipStack : Option IpStack) (now : Nat) : Effect (some generation) s
      (s.prepareObservation answers generation reachability ipStack now).1 := by
  unfold SourceState.prepareObservation
  split
  · exact .same
  rename_i hguard
  obtain ⟨rfl, hactive, hclosed⟩ := current_iff.mp (by simpa using hguard)
  split
  · exact .same
  refine .acts ⟨hclosed, .inr ⟨rfl, hactive⟩, s, .inl rfl, .inr ?_⟩
  split
  · exact failPublication_change answers _ _
  · rename_i next hnext
    exact commit_change answers hnext nofun

theorem prepareSampledObservation_effect (generation sampleId : Nat) (reachability : NetworkStatus)
    (ipStack : Option IpStack) (observedAt : Nat) (validate : Except NetError Bool) :
    Effect (some generation) s (s.prepareSampledObservation answers generation sampleId
      reachability ipStack observedAt validate).1 := by
  unfold SourceState.prepareSampledObservation
  split
  · exact .same
  rename_i hguard
  simp only [Bool.or_eq_true, not_or, Bool.not_eq_true', Bool.not_eq_false, decide_eq_true_eq,
    Nat.not_le] at hguard
  obtain ⟨rfl, hactive, hclosed⟩ := current_iff.mp hguard.1
  split
  · exact .same
  · exact .same
  refine .acts ⟨hclosed, .inr ⟨rfl, hactive⟩, s.accept sampleId, .inr ⟨sampleId, hguard.2, rfl⟩, ?_⟩
  simp only []
  split
  · exact .inl rfl
  split
  · exact .inl rfl
  · rename_i next hnext
    exact .inr (commit_change answers hnext nofun)

theorem endGeneration_effect (generation : Nat) (target : MonitorState) :
    Effect (some generation) s (s.endGeneration answers generation target).1 := by
  unfold SourceState.endGeneration
  split
  · exact .same
  rename_i hguard
  obtain ⟨rfl, hactive, hclosed⟩ := current_iff.mp (by simpa using hguard)
  refine .acts ⟨hclosed, .inr ⟨rfl, hactive⟩, s, .inl rfl, .inr ?_⟩
  split
  · exact failPublication_change answers _ _
  rename_i next hnext
  have hchange : Change (some s.generation) s (s.commit answers next).1 :=
    commit_change answers hnext nofun
  exact hchange.settle s.generation _ _

theorem prepareFinish_effect (generation : Nat) (target : MonitorState) :
    Effect (some generation) s (s.prepareFinish answers generation target).1 := by
  cases target with
  | starting | running | closed => exact .same
  | stopped => exact endGeneration_effect answers generation .stopped
  | failed error => exact endGeneration_effect answers generation (.failed error)

end

theorem refreshAllowed_none {i : Nat} {target : NetworkRefreshTarget} {sampleId : Nat}
    (h : s.refreshAllowed i target sampleId = none) :
    s.snapshot.state ≠ .closed ∧ s.generation = target.sourceGeneration ∧ s.active ∧
      s.lastSampleId < sampleId := by
  unfold SourceState.refreshAllowed at h
  split at h
  · cases h
  split at h
  · cases h
  split at h
  · cases h
  rename_i hopen
  split at h
  · cases h
  rename_i hguard
  simp only [Bool.or_eq_true, not_or, decide_eq_true_eq, ne_eq, Bool.not_eq_true', not_not,
    Bool.not_eq_false, Nat.not_le] at hopen hguard
  exact ⟨hopen.2, hguard.1.1.1.1.1.2.symm, hguard.1.1.1.2, hguard.2⟩

theorem commitRefresh_effect (answers : Answers) (i : Nat) (target : NetworkRefreshTarget)
    (sampleId : Nat) (reachability : NetworkStatus) (observedAt : Nat)
    (validate : Option NetError) : Effect (some target.sourceGeneration) s
      (s.commitRefresh answers i target sampleId reachability observedAt validate).1 := by
  unfold SourceState.commitRefresh
  split
  · exact .same
  · exact .same
  rename_i hallowed
  obtain ⟨hclosed, hgeneration, hactive, hsample⟩ := refreshAllowed_none hallowed
  refine .acts ⟨hclosed, .inr ⟨congrArg some hgeneration.symm, hactive⟩, s.accept sampleId,
    .inr ⟨sampleId, hsample, rfl⟩, ?_⟩
  simp only []
  by_cases hsame : sameObservation (s.accept sampleId).snapshot reachability
      (s.accept sampleId).snapshot.ipStack
  · rw [if_pos hsame]
    exact .inl rfl
  rw [if_neg hsame]
  cases hnext : (s.accept sampleId).nextSnapshot .running (some reachability)
      (s.accept sampleId).snapshot.ipStack (some observedAt) with
  | error error => exact .inl rfl
  | ok next => exact .inr (commit_change answers hnext nofun)

theorem newView_effect (reserved : Bool) : Effect none s (s.newView reserved).1 := by
  unfold SourceState.newView
  split
  · exact .same
  split
  · exact .same
  split
  · exact .same
  · exact .views rfl _

theorem activate_effect (answers : ViewAnswers) (i : Nat) :
    Effect none s (s.activate answers i).1 := by
  unfold SourceState.activate
  split
  · exact .same
  simp only []
  split
  · exact .same
  · exact .same
  · exact .views rfl _

theorem retire_effect (answers : ViewAnswers) (i : Nat) (permanent : Bool)
    (failure : Option NetError) : Effect none s (s.retire answers i permanent failure) := by
  unfold SourceState.retire
  split
  · exact .same
  split
  · exact .same
  simp only []
  split
  · exact .views rfl _
  · exact .views rfl _
  · exact .same
  · exact .views rfl _

theorem refreshLatest_effect (answers : ViewAnswers) (i : Nat) :
    Effect none s (s.refreshLatest answers i).1 := by
  unfold SourceState.refreshLatest
  split
  · exact .same
  split
  · exact .same
  split
  · exact .same
  split
  · exact .same
  · exact .same
  · exact .same
  · exact .views rfl _

/-- **Everything an action can do to the source.** -/
theorem step_effect (s : SourceState) (action : SourceAction) :
    Effect action.author s (s.step action) := by
  cases action with
  | fail answers error =>
    simp only [SourceState.step, SourceState.fail]
    split
    · exact .same
    · rename_i hclosed
      exact .acts ⟨hclosed, .inl rfl, s, .inl rfl, .inr (failPublication_change answers error none)⟩
  | beginGeneration answers => exact beginGeneration_effect answers
  | terminal answers permanent => exact prepareTerminal_effect answers permanent
  | observation answers generation reachability ipStack now =>
    exact prepareObservation_effect answers generation reachability ipStack now
  | sampled answers generation sampleId reachability ipStack observedAt validate =>
    exact prepareSampledObservation_effect answers generation sampleId reachability ipStack
      observedAt validate
  | finish answers generation target => exact prepareFinish_effect answers generation target
  | newView reserved => exact newView_effect reserved
  | activate answers i => exact activate_effect answers i
  | retire answers i permanent failure => exact retire_effect answers i permanent failure
  | refreshLatest answers i => exact refreshLatest_effect answers i
  | refresh answers i target sampleId reachability observedAt validate =>
    exact commitRefresh_effect answers i target sampleId reachability observedAt validate

/-- An action in the name of a generation that is not active leaves the source as it is. -/
theorem step_stale {s : SourceState} (hauthor : action.author = some generation)
    (hstale : s.generation ≠ generation ∨ s.active = false) : s.step action = s := by
  have heffect := step_effect s action
  rw [hauthor] at heffect
  generalize s.step action = s' at heffect
  cases heffect with
  | same => rfl
  | views hnone => cases hnone
  | acts hacts =>
    obtain hnone | ⟨hgeneration, hactive⟩ := hacts.owned
    · cases hnone
    rcases hstale with hne | hinactive
    · exact absurd (Option.some.inj hgeneration).symm hne
    · rw [hactive] at hinactive
      cases hinactive

/-! ## The invariant -/

structure SourceInv (s : SourceState) : Prop where
  revision : s.revision = s.snapshot.revision
  lossEpoch : s.lossEpoch = s.snapshot.lossEpoch
  last : s.commits.getLast? = some s.snapshot
  increasing : (s.commits.map NetworkSnapshot.revision).Pairwise (· < ·)
  losses : s.snapshot.lossEpoch = losses s.commits
  gating : s.publicationError = none →
    s.gating.status = s.snapshot.reachability ∧ s.gating.lossEpoch = s.snapshot.lossEpoch
  samples : s.accepted.Pairwise (· < ·)
  sampled : ∀ sampleId ∈ s.accepted, sampleId ≤ s.lastSampleId

namespace SourceInv

theorem init : SourceInv {} where
  revision := rfl
  lossEpoch := rfl
  last := rfl
  increasing := List.pairwise_singleton _ _
  losses := rfl
  gating _ := ⟨rfl, rfl⟩
  samples := List.Pairwise.nil
  sampled _ h := by cases h

theorem accept (h : SourceInv s) {sampleId : Nat} (hlt : s.lastSampleId < sampleId) :
    SourceInv (s.accept sampleId) :=
  { h with
    samples := by
      refine List.pairwise_append.mpr ⟨h.samples, List.pairwise_singleton _ _, ?_⟩
      intro a ha b hb
      rw [List.mem_singleton.mp hb]
      exact Nat.lt_of_le_of_lt (h.sampled a ha) hlt
    sampled id hid := by
      rcases List.mem_append.mp hid with hid | hid
      · exact Nat.le_trans (h.sampled id hid) (Nat.le_of_lt hlt)
      · exact Nat.le_of_eq (List.mem_singleton.mp hid) }

theorem change (h : SourceInv s) {s' : SourceState}
    (hchange : Change author s s') : SourceInv s' := by
  cases hchange with
  | failed error gating generation active views =>
    exact { h with gating := nofun }
  | committed next gating hrevision hloss hstatus hepoch hfacts generation active views =>
    obtain ⟨front, hcommits⟩ := List.getLast?_eq_some_iff.mp h.last
    -- Every earlier revision is at most the last one.
    have hbelow : ∀ revision ∈ s.commits.map NetworkSnapshot.revision,
        revision < next.revision := by
      intro revision hmem
      have hpairs := h.increasing
      rw [hcommits, List.map_append] at hpairs hmem
      rw [hrevision, h.revision]
      rcases List.mem_append.mp hmem with hfront | hlast
      · have hlt := (List.pairwise_append.mp hpairs).2.2 revision hfront s.snapshot.revision
          (by simp)
        omega
      · rw [List.map_singleton] at hlast
        rw [List.mem_singleton.mp hlast]
        omega
    exact {
      revision := rfl
      lossEpoch := rfl
      last := List.getLast?_concat
      increasing := by
        rw [List.map_append]
        refine List.pairwise_append.mpr ⟨h.increasing, List.pairwise_singleton _ _, ?_⟩
        intro a ha b hb
        rw [List.mem_singleton.mp hb]
        exact hbelow a ha
      losses := by
        rw [hloss, h.lossEpoch, h.losses, hcommits, losses_concat]
      gating := fun hnone => by
        refine ⟨hstatus, ?_⟩
        rcases hepoch with hnew | rfl
        · exact hnew
        -- The gate keeps its value only if the status stays, and then there is no loss.
        obtain ⟨hsame, hold⟩ := h.gating hnone
        have hquiet : ¬isLoss s.snapshot next := by
          simp only [isLoss, ← hstatus, hsame, Bool.and_eq_true, decide_eq_true_eq]
          rintro ⟨hlost, hnot⟩
          exact hnot hlost
        rw [hold, hloss, if_neg hquiet, h.lossEpoch]
        rfl
      samples := h.samples
      sampled := h.sampled }

/-- **Every action keeps the records in agreement.** -/
theorem step (h : SourceInv s) (action : SourceAction) : SourceInv (s.step action) := by
  have heffect := step_effect s action
  generalize s.step action = s' at heffect ⊢
  cases heffect with
  | same => exact h
  | views => exact { h with }
  | acts hacts =>
    obtain ⟨s₀, hsample, hchange⟩ := hacts.change
    have h₀ : SourceInv s₀ := by
      rcases hsample with rfl | ⟨sampleId, hlt, rfl⟩
      · exact h
      · exact h.accept hlt
    rcases hchange with rfl | hchange
    · exact h₀
    · exact h₀.change hchange

theorem run (actions : List SourceAction) : SourceInv (Machine.run SourceState.step {} actions) :=
  Machine.run_invariant (fun _ action h => h.step action) actions init

end SourceInv

/-- A snapshot changes only in the name of the active generation, or to one without facts. -/
theorem step_author {s : SourceState} (hne : (s.step action).snapshot ≠ s.snapshot) :
    (action.author = some s.generation ∧ s.active) ∨
      (action.author = none ∧ (s.step action).snapshot.reachability = none ∧
        (s.step action).snapshot.ipStack = none) := by
  have heffect := step_effect s action
  generalize s.step action = s' at hne heffect
  cases heffect with
  | same | views => exact absurd rfl hne
  | acts hacts =>
    refine hacts.owned.symm.imp_right fun hauthor => ⟨hauthor, ?_⟩
    obtain ⟨s₀, hsample, hchange⟩ := hacts.change
    have hsnapshot : s₀.snapshot = s.snapshot := by
      rcases hsample with rfl | ⟨sampleId, -, rfl⟩ <;> rfl
    rcases hchange with rfl | hchange
    · exact absurd hsnapshot hne
    cases hchange with
    | failed error gating generation active views => exact absurd hsnapshot hne
    | committed next gating hrevision hloss hstatus hepoch hfacts generation active views =>
      exact hfacts hauthor

/-- **Consistency of the network source**, after every run: the revisions of the commits increase
strictly and the last is the snapshot; the loss epoch counts the committed losses; until a
publication fails the gating value agrees with the snapshot; accepted samples increase strictly; an
action for a generation that is not active changes nothing, and facts come from the active one
alone; nothing is committed after the close. -/
theorem network_source_consistent (actions : List SourceAction) :
    let s := Machine.run SourceState.step {} actions
    (s.commits.getLast? = some s.snapshot ∧
      (s.commits.map NetworkSnapshot.revision).Pairwise (· < ·)) ∧
    s.snapshot.lossEpoch = losses s.commits ∧
    (s.publicationError = none →
      s.gating.status = s.snapshot.reachability ∧ s.gating.lossEpoch = s.snapshot.lossEpoch) ∧
    s.accepted.Pairwise (· < ·) ∧
    (∀ action generation, action.author = some generation →
      s.generation ≠ generation ∨ s.active = false → s.step action = s) ∧
    (∀ action, (s.step action).snapshot ≠ s.snapshot →
      (action.author = some s.generation ∧ s.active = true) ∨
        (action.author = none ∧ (s.step action).snapshot.reachability = none ∧
          (s.step action).snapshot.ipStack = none)) ∧
    (s.snapshot.state = .closed → ∀ later,
      (Machine.run SourceState.step s later).snapshot = s.snapshot ∧
        (Machine.run SourceState.step s later).commits = s.commits) := by
  intro s
  have h : SourceInv s := .run actions
  refine ⟨⟨h.last, h.increasing⟩, h.losses, h.gating, h.samples,
    fun action generation hauthor => step_stale hauthor, fun action => step_author, ?_⟩
  intro hclosed later
  have hkeep : ∀ (s' : SourceState) (action : SourceAction),
      s'.snapshot = s.snapshot ∧ s'.commits = s.commits →
      (s'.step action).snapshot = s.snapshot ∧ (s'.step action).commits = s.commits := by
    rintro s' action ⟨hsnapshot, hcommits⟩
    have heffect := step_effect s' action
    generalize s'.step action = next at heffect ⊢
    cases heffect with
    | same | views => exact ⟨hsnapshot, hcommits⟩
    | acts hacts => exact absurd (hsnapshot ▸ hclosed) hacts.live
  exact Machine.run_invariant hkeep later ⟨rfl, rfl⟩

end OpenNet.NetStatus
