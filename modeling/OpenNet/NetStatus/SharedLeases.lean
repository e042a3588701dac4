import OpenNet.Foundation.Pool
import OpenNet.NetStatus.SharedMonitor

/-!
# Leases, starts and waiters of the shared monitor

Before the admission is closed, replaying the channel on the coordinator's active set gives the
admission's.  `request_close` clears the admission's set and sends `Close` only after it has
released the lock, so between the two an empty channel does not mean that the sets agree.
-/

namespace OpenNet.NetStatus

open Checked

def Command.apply (active : Finset Nat) : Command → Finset Nat
  | .acquire id => insert id active
  | .release id => active.erase id
  | .ensure _ _ => active
  | .close => active

def Command.waiter : Command → Option Nat
  | .ensure _ waiter => waiter
  | _ => none

/-- No waiter without a start, no start without an active lease. -/
structure Coordinator.Sound (starts : Nat) (c : Coordinator) : Prop where
  inFlight : ∀ n, c.start = some n → c.active.Nonempty ∧ n + 1 = starts
  idle : c.start = none → c.waiters = [] ∧ c.retryRequested = false
  quiet : c.retryRequested = false → c.retryWaiters = []

namespace SharedService

/-- While open, replaying the channel gives the admission's set; `Close` is the last command. -/
structure Phase (s : SharedService) : Prop where
  opened : s.admission.closed = false → s.closeUnsent = false ∧ s.coordinator.returned = false ∧
    .close ∉ s.commands ∧
    Machine.run Command.apply s.coordinator.active s.commands = s.admission.active
  empty : s.admission.closed → s.admission.active = ∅
  unsent : s.closeUnsent → s.admission.closed ∧ s.coordinator.returned = false ∧
    .close ∉ s.commands
  last : ∀ before after, s.commands = before ++ .close :: after → after = []
  stopped : s.coordinator.returned → s.commands = [] ∧ s.coordinator.start = none

/-- How often `w` is found: sent, waiting or answered. -/
def places (s : SharedService) (w : Nat) : Nat :=
  (s.commands.filterMap Command.waiter).count w + s.coordinator.waiters.count w +
    s.coordinator.retryWaiters.count w + (s.answered.map Prod.fst).count w

def Placed (s : SharedService) : Prop := ∀ w, s.places w = if w < s.issued then 1 else 0

structure Coherent (s : SharedService) : Prop where
  phase : s.Phase
  sound : s.coordinator.Sound s.starts
  placed : s.Placed

/-! ## What a command of the coordinator leaves alone -/

structure Frame (s s' : SharedService) : Prop where
  admission : s'.admission = s.admission
  commands : s'.commands = s.commands
  leases : s'.leases = s.leases
  closeUnsent : s'.closeUnsent = s.closeUnsent
  issued : s'.issued = s.issued

theorem Frame.trans {s t u : SharedService} (h : Frame s t) (h' : Frame t u) : Frame s u :=
  ⟨h'.1.trans h.1, h'.2.trans h.2, h'.3.trans h.3, h'.4.trans h.4, h'.5.trans h.5⟩

variable {s : SharedService}

/-- The coordinator has `active`, gave `moved` a place, and goes on unless it `stops`. -/
structure Worked (s : SharedService) (active : Finset Nat) (moved : List Nat) (stops : Prop)
    (s' : SharedService) : Prop where
  own : ∃ coordinator starts answered, s' = { s with coordinator, starts, answered } := by
    exact ⟨_, _, _, rfl⟩
  active : s'.coordinator.active = active := by rfl
  loop : ¬stops → s'.coordinator.returned = s.coordinator.returned := by exact fun _ => rfl
  places : ∀ w, s'.places w = s.places w + moved.count w
  sound : s.coordinator.Sound s.starts → s'.coordinator.Sound s'.starts

theorem beginStart_sound (v : SnapshotResult) (hactive : s.coordinator.active.Nonempty)
    (hquiet : s.coordinator.retryRequested = false → s.coordinator.retryWaiters = []) :
    (s.beginStart v).coordinator.Sound (s.beginStart v).starts where
  inFlight := by
    intro n hn
    cases hn
    exact ⟨hactive, rfl⟩
  idle := by intro h; cases h
  quiet := hquiet

theorem Sound.waiting {c c' : Coordinator} (hs : c.Sound s.starts) (hstart : c.start.isSome)
    (hsame : c'.start = c.start) (hactive : c'.active = c.active)
    (hquiet : c'.retryRequested = false → c'.retryWaiters = []) : c'.Sound s.starts := by
  refine ⟨fun n hn => hactive ▸ hs.inFlight n (hsame ▸ hn), fun hnone => ?_, hquiet⟩
  rw [← hsame, hnone] at hstart
  cases hstart

theorem handleEnsure_worked (v : SnapshotResult) (waiter : Option Nat)
    (hactive : s.coordinator.active.Nonempty) :
    Worked s s.coordinator.active waiter.toList False (s.handleEnsure v waiter) := by
  unfold handleEnsure
  split
  case isTrue hfailed =>
    -- the failure of the facts was seen during a start, so there is one to wait for
    have hstart : s.coordinator.start.isSome := by
      simp only [failedDuringStart, Bool.and_eq_true] at hfailed
      exact hfailed.1
    refine { places := fun w => ?_, sound := fun hs => Sound.waiting hs hstart rfl rfl nofun }
    simp only [places, List.count_append]
    omega
  case isFalse =>
    dsimp only
    split
    case isTrue =>
      refine { places := fun w => ?_, sound := fun hs => beginStart_sound v hactive hs.quiet }
      simp only [places, beginStart, List.count_append]
      omega
    case isFalse hsome =>
      have hstart := Option.isSome_iff_ne_none.mpr (by simpa using hsome)
      refine { places := fun w => ?_, sound := fun hs => Sound.waiting hs hstart rfl rfl hs.quiet }
      simp only [places, List.count_append]
      omega

theorem abandon_places (result : SnapshotResult) (w : Nat) :
    (s.abandon result).places w = s.places w := by
  simp only [places, abandon, notifyWaiters, List.map_append, List.map_map, List.count_append,
    Function.comp_def, List.map_id', List.count_nil]
  omega

theorem Sound.abandoned {c : Coordinator} {starts : Nat} (hstart : c.start = none)
    (hidle : c.waiters = [] ∧ c.retryRequested = false) (hquiet : c.retryWaiters = []) :
    c.Sound starts := by
  refine ⟨fun n hn => ?_, fun _ => hidle, fun _ => hquiet⟩
  rw [hstart] at hn
  cases hn

theorem handleRelease_worked (v : SnapshotResult) (id : Nat) :
    Worked s (s.coordinator.active.erase id) [] False (s.handleRelease v id) := by
  unfold handleRelease
  dsimp only
  split
  case isTrue =>
    exact {
      places := fun w => abandon_places v w
      sound := fun _ => Sound.abandoned rfl ⟨rfl, rfl⟩ rfl }
  case isFalse hne =>
    exact {
      places := fun _ => rfl
      sound := fun hs => ⟨fun n hn => ⟨Finset.nonempty_iff_ne_empty.mpr hne,
        (hs.inFlight n hn).2⟩, hs.idle, hs.quiet⟩ }

theorem handle_worked (v : SnapshotResult) (command : Command) :
    Worked s (command.apply s.coordinator.active) command.waiter.toList (command = .close)
      (s.handle v command) := by
  cases command with
  | acquire id =>
    exact {
      places := fun _ => rfl
      sound := fun hs =>
        ⟨fun n hn => ⟨Finset.insert_nonempty _ _, (hs.inFlight n hn).2⟩, hs.idle, hs.quiet⟩ }
  | ensure id waiter =>
    simp only [handle]
    split
    case isTrue hmem =>
      have h := handleEnsure_worked v waiter ⟨id, hmem⟩
      exact { h with loop := fun _ => h.loop not_false }
    case isFalse =>
      refine { places := fun w => ?_, sound := fun hs => hs }
      simp only [places, notifyWaiters, Command.waiter, List.map_append, List.map_map,
        List.count_append, Function.comp_def, List.map_id']
      omega
  | release id =>
    have h := handleRelease_worked (s := s) v id
    exact { h with loop := fun _ => h.loop not_false }
  | close =>
    exact {
      loop := fun h => absurd rfl h
      places := fun w => abandon_places (s := s) (.error (.new .closed)) w
      sound := fun _ => Sound.abandoned rfl ⟨rfl, rfl⟩ rfl }

theorem finishStart_worked (result v : SnapshotResult) :
    Worked s s.coordinator.active [] False (s.finishStart result v) := by
  unfold finishStart
  split
  case isTrue => exact { places := fun _ => rfl, sound := id }
  case isFalse hsome =>
    obtain ⟨n, hn⟩ := Option.ne_none_iff_exists'.mp (by simpa using hsome)
    dsimp only
    split
    case isTrue =>
      refine {
        places := fun w => ?_
        sound := fun hs => beginStart_sound v (hs.inFlight n hn).1 fun _ => rfl }
      simp only [places, beginStart, notifyWaiters, List.map_append, List.map_map,
        List.count_append, Function.comp_def, List.map_id', List.count_nil]
      omega
    case isFalse hretry =>
      refine { places := fun w => ?_, sound := fun hs => ?_ }
      · simp only [places, notifyWaiters, List.map_append, List.map_map, List.count_append,
          Function.comp_def, List.map_id', List.count_nil]
        omega
      · have hno : s.coordinator.retryRequested = false := by
          simpa [Finset.nonempty_iff_ne_empty.mp (hs.inFlight n hn).1] using hretry
        exact ⟨fun _ h => (by cases h), fun _ => ⟨rfl, hno⟩, hs.quiet⟩

theorem Worked.frame {s' : SharedService} {active : Finset Nat} {moved : List Nat} {stops : Prop}
    (h : Worked s active moved stops s') : Frame s s' := by
  obtain ⟨coordinator, starts, answered, rfl⟩ := h.own
  exact ⟨rfl, rfl, rfl, rfl, rfl⟩

/-! ## The sections keep the phase -/

theorem Phase.closed_of_returned (h : s.Phase) (hreturned : s.coordinator.returned) :
    s.admission.closed := by
  by_contra hopen
  rw [(h.opened (by simpa using hopen)).2.1] at hreturned
  cases hreturned

variable {s' : SharedService}

/-- The phase does not see leases and answers, and little of the coordinator. -/
theorem Phase.coordinator {coordinator : Coordinator} {alive : Bool} {leases : List LeaseState}
    {starts : Nat} {answered : List (Nat × SnapshotResult)} (h : s.Phase)
    (hactive : coordinator.active = s.coordinator.active)
    (hreturned : coordinator.returned = s.coordinator.returned)
    (hidle : s.coordinator.start = none → coordinator.start = none) :
    Phase { s with coordinator, alive, leases, starts, answered } where
  opened hopen := by
    obtain ⟨unsent, loop, queue, replay⟩ := h.opened hopen
    exact ⟨unsent, hreturned.trans loop, queue, hactive ▸ replay⟩
  empty := h.empty
  unsent hunsent := by
    obtain ⟨closed, loop, queue⟩ := h.unsent hunsent
    exact ⟨closed, hreturned.trans loop, queue⟩
  last := h.last
  stopped hstopped := (h.stopped (hreturned ▸ hstopped)).imp_right hidle

/-- The coordinator takes the oldest command; after `Close` there is none left. -/
theorem Phase.handle {command : Command} {rest : List Command} (v : SnapshotResult) (h : s.Phase)
    (hcommands : s.commands = command :: rest) :
    ({ s with commands := rest }.handle v command).Phase := by
  obtain ⟨⟨_, _, _, howned⟩, hactive, hloop, -, -⟩ :=
    handle_worked (s := { s with commands := rest }) v command
  rw [howned] at hactive hloop
  have hne (hqueue : .close ∉ s.commands) : command ≠ .close ∧ .close ∉ rest := by
    rw [hcommands, List.mem_cons, not_or] at hqueue
    exact ⟨Ne.symm hqueue.1, hqueue.2⟩
  have hrunning : s.coordinator.returned = false := by
    by_contra hreturned
    rw [(h.stopped (by simpa using hreturned)).1] at hcommands
    cases hcommands
  rw [howned]
  constructor
  case opened =>
    intro hopen
    obtain ⟨unsent, loop, queue, replay⟩ := h.opened hopen
    refine ⟨unsent, (hloop (hne queue).1).trans loop, (hne queue).2, ?_⟩
    rw [← replay, hcommands, Machine.run_cons, hactive]
  case empty => exact h.empty
  case unsent =>
    intro hunsent
    obtain ⟨closed, loop, queue⟩ := h.unsent hunsent
    exact ⟨closed, (hloop (hne queue).1).trans loop, (hne queue).2⟩
  case last =>
    intro before after hsplit
    exact h.last (command :: before) after (by rw [hcommands, List.cons_append, ← hsplit])
  case stopped =>
    intro hreturned
    by_cases hclose : command = .close
    · subst hclose
      exact ⟨h.last [] rest hcommands, (congrArg (·.coordinator.start) howned).symm⟩
    · cases hrunning.symm.trans ((hloop hclose).symm.trans hreturned)

/-! ## Every step keeps the state coherent -/

variable {v : SnapshotResult} {lease : LeaseState} {wait : Bool}

theorem acquire_ok (h : s.acquire v = .ok s') :
    s.admission.closed = false ∧ ∃ id,
      s' = { s with
        commands := s.commands ++ [.acquire id]
        admission := { s.admission with nextId := id, active := insert id s.admission.active }
        leases := s.leases ++ [{ id }] } := by
  unfold acquire at h
  repeat' split at h
  all_goals cases h
  exact ⟨Bool.not_eq_true _ ▸ ‹¬s.admission.closed›, _, rfl⟩

theorem ensure_ok (h : s.ensure lease wait = .ok s') :
    s.admission.closed = false ∧
      (s' = { s with
          commands := s.commands ++ [.ensure lease.id (some s.issued)]
          issued := s.issued + 1 } ∨
        s' = { s with commands := s.commands ++ [.ensure lease.id none] }) := by
  unfold ensure at h
  repeat' split at h
  all_goals cases h
  · exact ⟨by simp_all, .inl rfl⟩
  · exact ⟨by simp_all, .inr rfl⟩

theorem places_send (command : Command) (w : Nat) :
    { s with commands := s.commands ++ [command] }.places w =
      s.places w + command.waiter.toList.count w := by
  have hlast : [command].filterMap Command.waiter = command.waiter.toList := by
    cases hwaiter : command.waiter <;> simp [hwaiter]
  simp only [places, List.filterMap_append, List.count_append, hlast]
  omega

/-- An open service sends a command of its own kind and keeps everything else. -/
theorem Coherent.send (hs : s.Coherent) (command : Command) (hopen : s.admission.closed = false)
    (hne : command ≠ .close) {nextId issued : Nat} {leases : List LeaseState}
    (hissued : ∀ w, (if w < s.issued then 1 else 0) + command.waiter.toList.count w =
      if w < issued then 1 else 0) :
    Coherent { s with
      commands := s.commands ++ [command], leases, issued
      admission := { s.admission with nextId, active := command.apply s.admission.active } } := by
  obtain ⟨unsent, loop, queue, replay⟩ := hs.phase.opened hopen
  have hqueue : .close ∉ s.commands ++ [command] := by
    rw [List.mem_append, List.mem_singleton]
    rintro (hmem | rfl)
    · exact queue hmem
    · exact hne rfl
  refine ⟨⟨fun _ => ⟨unsent, loop, hqueue, ?_⟩, fun hclosed => ?_, fun hunsent => ?_,
    fun before after hsplit => ?_, fun hreturned => ?_⟩, hs.sound,
    fun w => (places_send command w).trans ?_⟩
  · rw [Machine.run_append, replay]
    rfl
  · cases hopen.symm.trans hclosed
  · cases unsent.symm.trans hunsent
  · change s.commands ++ [command] = _ at hsplit
    simp [hsplit] at hqueue
  · cases loop.symm.trans hreturned
  · rw [hs.placed w]
    exact hissued w

section

variable (hs : s.Coherent)
include hs

theorem withdraw_coherent (id : Nat) : (s.withdraw id).Coherent := by
  unfold withdraw
  dsimp only
  split
  case isTrue hclosed =>
    -- an open service still has its coordinator, so here the set has been cleared already
    have hclosed : s.admission.closed :=
      (Bool.or_eq_true_iff.mp hclosed).elim (fun h => h) hs.phase.closed_of_returned
    exact ⟨{ hs.phase with
      opened := fun hopen => by cases hclosed.symm.trans hopen
      empty := fun hclosed => by simp [hs.phase.empty hclosed] }, hs.sound, hs.placed⟩
  case isFalse hopen =>
    have hopen : s.admission.closed = false := by simp_all
    exact hs.send (.release id) hopen nofun fun _ => rfl

theorem markReleased_coherent (n : Nat) (lease : LeaseState) (ticket : CleanupTicket) :
    (s.markReleased n lease ticket).Coherent :=
  ⟨hs.phase.coordinator rfl rfl id, hs.sound, hs.placed⟩

theorem receive_coherent (v : SnapshotResult) : (s.receive v).Coherent := by
  unfold receive
  split
  · exact hs
  split
  · exact hs
  rename_i command rest hcommands
  have hworked := handle_worked (s := { s with commands := rest }) v command
  refine ⟨hs.phase.handle v hcommands, hworked.sound hs.sound, fun w => ?_⟩
  have htaken : s.places w =
      { s with commands := rest }.places w + command.waiter.toList.count w := by
    rw [places, places, hcommands]
    cases hwaiter : command.waiter with
    | none => simp [hwaiter]
    | some waiter =>
      simp only [List.filterMap_cons, hwaiter, List.count_cons, Option.toList_some,
        List.count_nil]
      omega
  rw [hworked.places, ← htaken, hs.placed w, hworked.frame.issued]

theorem finishStart_coherent (result v : SnapshotResult) : (s.finishStart result v).Coherent := by
  have hworked := finishStart_worked (s := s) result v
  have hidle : s.coordinator.start = none →
      (s.finishStart result v).coordinator.start = none := fun hnone => by
    simp [finishStart, hnone]
  obtain ⟨_, _, _, howned⟩ := hworked.own
  rw [howned] at hworked hidle ⊢
  exact ⟨hs.phase.coordinator hworked.active (hworked.loop not_false) hidle,
    hworked.sound hs.sound, fun w => (hworked.places w).trans (hs.placed w)⟩

end

/-! ## Sections of the callers -/

def Released (n : Nat) (s : SharedService) : Prop :=
  ∃ lease, s.leases[n]? = some lease ∧ lease.released.isSome

/-- Released stays released, closed stays closed and admits nobody. -/
structure Kept (s s' : SharedService) : Prop where
  released : ∀ n, s.Released n → s'.Released n
  closed : s.admission.closed →
    s'.admission.closed ∧ s'.leases.length = s.leases.length

variable {n : Nat}

theorem Kept.of_eq (hleases : s'.leases = s.leases)
    (hclosed : s.admission.closed → s'.admission.closed) : Kept s s' where
  released := by
    intro n h
    rwa [Released, hleases]
  closed := fun h => ⟨hclosed h, by rw [hleases]⟩

theorem Kept.set {lease : LeaseState} (hreleased : lease.released.isSome)
    (hleases : s'.leases = s.leases.set n lease)
    (hclosed : s'.admission.closed = s.admission.closed) : Kept s s' where
  released := by
    intro m h
    obtain ⟨old, hold, hwas⟩ := h
    rw [Released, hleases]
    by_cases hnm : n = m
    · subst hnm
      have hn : n < s.leases.length := (List.getElem?_eq_some_iff.mp hold).1
      exact ⟨lease, List.getElem?_set_self hn, hreleased⟩
    · exact ⟨old, by rw [List.getElem?_set_ne hnm, hold], hwas⟩
  closed := fun h => ⟨hclosed.trans h, by rw [hleases, List.length_set]⟩

theorem withdraw_keeps (id : Nat) :
    (s.withdraw id).leases = s.leases ∧ (s.withdraw id).coordinator = s.coordinator ∧
      (s.withdraw id).admission.closed = s.admission.closed := by
  unfold withdraw
  dsimp only
  split <;> exact ⟨rfl, rfl, rfl⟩

/-- A caller's section, of which the coordinator notices nothing. -/
structure Called (s s' : SharedService) : Prop where
  coherent : s.Coherent → s'.Coherent
  coordinator : s'.coordinator = s.coordinator := by rfl
  kept : Kept s s' := by exact .of_eq rfl id

theorem release_called (n : Nat) (lease : LeaseState) : Called s (s.release n lease).1 := by
  unfold release
  split
  · exact { coherent := id }
  split
  · exact { coherent := fun hs => markReleased_coherent hs n lease _, kept := .set rfl rfl rfl }
  · obtain ⟨hleases, hcoordinator, hclosed⟩ := withdraw_keeps (s := s) lease.id
    exact {
      coherent := fun hs => markReleased_coherent (withdraw_coherent hs lease.id) n lease _
      coordinator := hcoordinator
      kept := .set rfl (congrArg (List.set · n _) hleases) hclosed }

def Action.isTurn : Action → Bool
  | .command _ => true
  | .startFinished _ _ => true
  | _ => false

theorem step_called (action : Action) (h : action.isTurn = false) : Called s (s.step action) := by
  cases action with
  | acquire v =>
    simp only [step]
    cases hok : s.acquire v with
    | error e => exact { coherent := id }
    | ok s' =>
      obtain ⟨hopen, id, rfl⟩ := acquire_ok hok
      refine { coherent := fun hs => hs.send (.acquire id) hopen nofun fun _ => rfl
               kept := ⟨fun n hreleased => ?_, fun hclosed => ?_⟩ }
      · obtain ⟨lease, hlease, hwas⟩ := hreleased
        exact ⟨lease, Pool.get_append_left hlease _, hwas⟩
      · rw [hopen] at hclosed
        cases hclosed
  | ensure n wait =>
    simp only [step]
    split
    · rename_i lease _
      cases hok : s.ensure lease wait with
      | error e => exact { coherent := id }
      | ok s' =>
        obtain ⟨hopen, rfl | rfl⟩ := ensure_ok hok
        · -- the new waiter is the first number that had no place yet
          refine { coherent := fun hs =>
            hs.send (.ensure lease.id (some s.issued)) hopen nofun fun w => ?_ }
          simp only [Command.waiter, Option.toList_some, List.count_singleton, beq_iff_eq]
          split <;> split <;> split <;> omega
        · exact { coherent := fun hs =>
            hs.send (.ensure lease.id none) hopen nofun fun _ => rfl }
    · exact { coherent := id }
  | release n =>
    simp only [step]
    split
    · exact release_called n _
    · exact { coherent := id }
  | requestClose =>
    simp only [step, requestClose]
    split
    · exact { coherent := id }
    rename_i hopen
    refine { coherent := fun hs => ?_, kept := .of_eq rfl fun _ => rfl }
    obtain ⟨-, loop, queue, -⟩ := hs.phase.opened (by simpa using hopen)
    exact ⟨{ hs.phase with
      opened := nofun
      empty := fun _ => rfl
      unsent := fun _ => ⟨rfl, loop, queue⟩ }, hs.sound, hs.placed⟩
  | sendClose =>
    simp only [step, sendClose]
    split
    · exact { coherent := id }
    rename_i hunsent
    have hphase := fun hs : s.Coherent => hs.phase.unsent (by simpa using hunsent)
    split
    · rename_i hreturned
      exact { coherent := fun hs => by cases (hphase hs).2.1.symm.trans hreturned }
    · refine { coherent := fun hs => ?_ }
      obtain ⟨hclosed, loop, queue⟩ := hphase hs
      refine ⟨{ hs.phase with
        opened := fun hopen => by cases hclosed.symm.trans hopen
        unsent := nofun
        last := fun before after hsplit => ?_
        stopped := fun hreturned => by cases loop.symm.trans hreturned }, hs.sound,
        fun w => (places_send .close w).trans (hs.placed w)⟩
      -- a `Close` before the last command would be one of those sent before it
      by_contra hafter
      obtain ⟨rest, x, rfl⟩ := List.eq_nil_or_concat after |>.resolve_left hafter
      rw [List.concat_eq_append, ← List.cons_append, ← List.append_assoc] at hsplit
      exact queue ((List.append_inj' hsplit rfl).1 ▸ by simp)
  | dropService =>
    exact { coherent := fun hs => ⟨hs.phase.coordinator rfl rfl id, hs.sound, hs.placed⟩ }
  | command | startFinished => cases h

theorem step_coherent (s : SharedService) (action : Action) (hs : s.Coherent) :
    (s.step action).Coherent := by
  cases hturn : action.isTurn with
  | false => exact (step_called action hturn).coherent hs
  | true =>
    cases action with
    | command v => exact receive_coherent hs v
    | startFinished result v => exact finishStart_coherent hs result v
    | _ => cases hturn

theorem coherent_new : Coherent {} :=
  ⟨⟨fun _ => ⟨rfl, rfl, List.not_mem_nil, rfl⟩, nofun, nofun, by simp, nofun⟩,
    ⟨fun _ h => (by cases h), fun _ => ⟨rfl, rfl⟩, fun _ => rfl⟩, fun _ => rfl⟩

end SharedService

end OpenNet.NetStatus
