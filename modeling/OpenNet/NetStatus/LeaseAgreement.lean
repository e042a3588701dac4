import OpenNet.NetStatus.SharedLeases

/-!
# What the shared monitor promises its leases

From the coherence of every reachable state: the two active sets agree once the channel is drained,
a start is given up only for the last release or the close, every accepted waiter is answered
exactly once, a second release changes nothing, and a closed service admits no lease.

The last two need what a step keeps of the leases (`Kept`).
-/

namespace OpenNet.NetStatus.SharedService

variable {s : SharedService}

/-! ## What a step keeps -/

variable {s' : SharedService} {n : Nat}

theorem Frame.kept (h : Frame s s') : Kept s s' :=
  .of_eq h.leases fun hclosed => by rw [h.admission, hclosed]

theorem receive_kept (v : SnapshotResult) : Kept s (s.receive v) := by
  unfold receive
  split
  · exact .of_eq rfl id
  split
  · exact .of_eq rfl id
  · rename_i command rest _
    have hframe := (handle_worked (s := { s with commands := rest }) v command).frame
    exact .of_eq hframe.leases fun h => by rw [hframe.admission, h]

theorem step_kept (action : Action) : Kept s (s.step action) := by
  cases hturn : action.isTurn with
  | false => exact (step_called action hturn).kept
  | true =>
    cases action with
    | command v => exact receive_kept v
    | startFinished result v => exact (finishStart_worked result v).frame.kept
    | _ => cases hturn

/-! ## Releasing twice, and leases after the close -/

theorem released_run (more : List Action) (h : s.Released n) :
    (Machine.run step s more).Released n :=
  Machine.run_invariant (I := Released n) (fun _ action => (step_kept action).released n) more h

theorem Released.step_release (h : s.Released n) : s.step (.release n) = s := by
  obtain ⟨lease, hlease, hreleased⟩ := h
  obtain ⟨ticket, hticket⟩ := Option.isSome_iff_exists.mp hreleased
  simp only [step, hlease, release, hticket]

theorem markReleased_released (lease : LeaseState) (ticket : CleanupTicket)
    (hn : n < s.leases.length) : (s.markReleased n lease ticket).Released n :=
  ⟨_, List.getElem?_set_self hn, rfl⟩

theorem released_of_release (hn : n < s.leases.length) : (s.step (.release n)).Released n := by
  simp only [step, List.getElem?_eq_getElem hn]
  unfold release
  split
  · rename_i ticket hticket
    exact ⟨s.leases[n], List.getElem?_eq_getElem hn, by rw [hticket]; rfl⟩
  split
  · exact markReleased_released _ _ hn
  · exact markReleased_released _ _ (by rwa [(withdraw_keeps _).1])

theorem run_closed {k : Nat} (more : List Action) (h : s.admission.closed ∧ s.leases.length = k) :
    (Machine.run step s more).leases.length = k := by
  refine (Machine.run_invariant
    (I := fun s : SharedService => s.admission.closed ∧ s.leases.length = k)
    (fun s action hs => ?_) more h).2
  have hkept := (step_kept (s := s) action).closed hs.1
  exact ⟨hkept.1, hkept.2.trans hs.2⟩

/-! ## How a start ends -/

def LastRelease (s : SharedService) : Prop :=
  ∃ id rest, s.commands = .release id :: rest ∧ s.coordinator.active.erase id = ∅

theorem receive_start (v : SnapshotResult) (hstart : s.coordinator.start = some n)
    (hends : (s.receive v).coordinator.start ≠ some n) :
    s.LastRelease ∨ ∃ rest, s.commands = .close :: rest := by
  unfold receive at hends
  split at hends
  · exact absurd hstart hends
  split at hends
  · exact absurd hstart hends
  rename_i command rest hcommands
  cases command with
  | acquire id => exact absurd hstart hends
  | ensure id waiter =>
    refine absurd ?_ hends
    simp only [handle, handleEnsure]
    split
    · split
      · exact hstart
      · simp [hstart]
    · exact hstart
  | release id =>
    simp only [handle, handleRelease] at hends
    split at hends
    · exact .inl ⟨id, rest, hcommands, ‹_›⟩
    · exact absurd hstart hends
  | close => exact .inr ⟨rest, hcommands⟩

/-- A start that is no longer in flight has ended, or the step was the last release or the close. -/
theorem step_start (action : Action) (hstart : s.coordinator.start = some n)
    (hends : (s.step action).coordinator.start ≠ some n) :
    (∃ result v, action = .startFinished result v) ∨
      (∃ v, action = .command v) ∧ (s.LastRelease ∨ ∃ rest, s.commands = .close :: rest) := by
  cases hturn : action.isTurn with
  | false =>
    rw [(step_called action hturn).coordinator] at hends
    exact absurd hstart hends
  | true =>
    cases action with
    | command v => exact .inr ⟨⟨v, rfl⟩, receive_start v hstart hends⟩
    | startFinished result v => exact .inl ⟨result, v, rfl⟩
    | _ => cases hturn

/-! ## The coordinator answers everybody -/

theorem receive_commands (hs : s.Coherent) (v : SnapshotResult) :
    (s.receive v).commands = s.commands.tail ∧ (s.receive v).issued = s.issued := by
  unfold receive
  split
  case isTrue hreturned =>
    exact ⟨by rw [(hs.phase.stopped hreturned).1]; rfl, rfl⟩
  case isFalse =>
    split
    · rename_i hnil
      exact ⟨by rw [hnil]; rfl, rfl⟩
    rename_i command rest hcommands
    rw [hcommands]
    have hframe := (handle_worked (s := { s with commands := rest }) v command).frame
    exact ⟨hframe.commands, hframe.issued⟩

theorem run_commands : ∀ (vs : List SnapshotResult) {s : SharedService}, s.Coherent →
    let s' := Machine.run step s (vs.map Action.command)
    s'.Coherent ∧ s'.commands = s.commands.drop vs.length ∧ s'.issued = s.issued
  | [], _, hs => ⟨hs, rfl, rfl⟩
  | v :: vs, s, hs => by
    obtain ⟨hcommands, hissued⟩ := receive_commands hs v
    obtain ⟨hcoherent, hdrop, hsame⟩ := run_commands vs (receive_coherent hs v)
    refine ⟨hcoherent, ?_, hsame.trans hissued⟩
    rw [hcommands, List.drop_tail] at hdrop
    exact hdrop

/-- After the end of a start there is another one only if somebody asked for it. -/
theorem finishStart_retry (hs : s.Coherent) (result v : SnapshotResult) :
    (s.finishStart result v).coordinator.retryRequested = false ∧
      (s.coordinator.retryRequested = false →
        (s.finishStart result v).coordinator.start = none) := by
  unfold finishStart
  split
  case isTrue hnone =>
    have hnone : s.coordinator.start = none := by simpa using hnone
    exact ⟨(hs.sound.idle hnone).2, fun _ => hnone⟩
  case isFalse hsome =>
    obtain ⟨n, hn⟩ := Option.ne_none_iff_exists'.mp (by simpa using hsome)
    have hactive := Finset.nonempty_iff_ne_empty.mp (hs.sound.inFlight n hn).1
    dsimp only
    split
    case isTrue hretry =>
      refine ⟨rfl, fun hno => ?_⟩
      rw [hno] at hretry
      cases hretry
    case isFalse hretry =>
      have hno : s.coordinator.retryRequested = false := by simpa [hactive] using hretry
      exact ⟨hno, fun _ => rfl⟩

/-- With an empty channel and no start in flight, everybody has been answered. -/
theorem answered_of_quiet (hs : s.Coherent) (hcommands : s.commands = [])
    (hstart : s.coordinator.start = none) (w : Nat) (hw : w < s.issued) :
    (s.answered.map Prod.fst).count w = 1 := by
  obtain ⟨hwaiters, hretry⟩ := hs.sound.idle hstart
  have hplaces := hs.placed w
  simpa [places, hcommands, hwaiters, hs.sound.quiet hretry, hw] using hplaces

/-- The coordinator's own turns answer every accepted waiter: one for each command, then the end of
the start in flight and of the next. -/
theorem coordinator_answers (hs : s.Coherent) (vs : List SnapshotResult)
    (hvs : vs.length = s.commands.length) (r v r' v' : SnapshotResult) (w : Nat)
    (hw : w < s.issued) : ((Machine.run step s
      (vs.map .command ++ [.startFinished r v, .startFinished r' v'])).answered.map
        Prod.fst).count w = 1 := by
  rw [Machine.run_append]
  obtain ⟨hcoherent, hdrained, hissued⟩ := run_commands vs hs
  rw [hvs, List.drop_length] at hdrained
  generalize Machine.run step s (vs.map Action.command) = t at hcoherent hdrained hissued
  have hfirst := finishStart_coherent hcoherent r v
  have hframe := (finishStart_worked (s := t) r v).frame.trans (finishStart_worked r' v').frame
  refine answered_of_quiet (finishStart_coherent hfirst r' v') (hframe.commands.trans hdrained) ?_
    w (by rw [hframe.issued, hissued]; exact hw)
  exact (finishStart_retry hfirst r' v').2 (finishStart_retry hcoherent r v).1

/-! ## The system -/

/-- What holds of leases, start and waiters in `s`. -/
structure LeasesAgree (s : SharedService) : Prop where
  /-- Commands enter the channel in admission order: replaying them gives the admission's set, so
  that the sets agree once the channel is drained. -/
  replay : s.admission.closed = false →
    Machine.run Command.apply s.coordinator.active s.commands = s.admission.active
  drained : s.admission.closed = false → s.commands = [] →
    s.coordinator.active = s.admission.active
  /-- After the close nobody is active; the coordinator ends with `Close`, the last command. -/
  closed : s.admission.closed → s.admission.active = ∅ ∧
    (∀ before after, s.commands = before ++ .close :: after → after = []) ∧
    (s.coordinator.returned → s.commands = [] ∧ s.coordinator.start = none)
  /-- The start in flight is the last one begun, and there is an active lease. -/
  inFlight : ∀ n, s.coordinator.start = some n →
    n + 1 = s.starts ∧ s.coordinator.active.Nonempty
  abandoned : ∀ action n, s.coordinator.start = some n →
    (s.step action).coordinator.start ≠ some n →
    (∃ result v, action = .startFinished result v) ∨
      (∃ v, action = .command v) ∧ (s.LastRelease ∨ ∃ rest, s.commands = .close :: rest)
  answeredOnce : ∀ w, (s.answered.map Prod.fst).count w ≤ 1
  answered : ∀ vs : List SnapshotResult, vs.length = s.commands.length → ∀ r v r' v',
    ∀ w < s.issued,
      ((Machine.run step s
        (vs.map .command ++ [.startFinished r v, .startFinished r' v'])).answered.map
          Prod.fst).count w = 1
  releasedOnce : ∀ n < s.leases.length, ∀ more : List Action,
    let later := Machine.run step (s.step (.release n)) more
    later.step (.release n) = later
  admittedNone : ∀ more : List Action,
    (Machine.run step (s.step .requestClose) more).leases.length = s.leases.length

/-- Every interleaving of callers, closing and coordinator keeps leases, start and waiters in
agreement. -/
theorem shared_leases_agree (acts : List Action) : (Machine.run step {} acts).LeasesAgree := by
  have hs := Machine.run_invariant step_coherent acts coherent_new
  generalize Machine.run step {} acts = s at hs
  refine ⟨fun hopen => (hs.phase.opened hopen).2.2.2, fun hopen hnil => ?_,
    fun hclosed => ⟨hs.phase.empty hclosed, hs.phase.last, hs.phase.stopped⟩,
    fun n hn => ?_, fun action n hstart hends => step_start action hstart hends, fun w => ?_,
    fun vs hvs r v r' v' w hw => coordinator_answers hs vs hvs r v r' v' w hw,
    fun n hn more => ?_, fun more => ?_⟩
  · have hreplay := (hs.phase.opened hopen).2.2.2
    rwa [hnil] at hreplay
  · exact ⟨(hs.sound.inFlight n hn).2, (hs.sound.inFlight n hn).1⟩
  · have hplaces := hs.placed w
    rw [places] at hplaces
    split at hplaces <;> omega
  · exact (released_run more (released_of_release hn)).step_release
  · refine run_closed more ?_
    simp only [step, requestClose]
    split
    · exact ⟨‹_›, rfl⟩
    · exact ⟨rfl, rfl⟩

/-- Between the section of `request_close` and its `Close` the channel is empty while the
coordinator still counts the lease that the admission has dropped. -/
theorem close_not_yet_sent :
    let s := Machine.run step {} [.acquire (.ok {}), .command (.ok {}), .requestClose]
    s.commands = [] ∧ s.coordinator.active = {1} ∧ s.admission.active = ∅ := by
  decide +kernel

end OpenNet.NetStatus.SharedService
