import OpenNet.Foundation.Machine
import OpenNet.Ws.Heartbeat

/-!
# How often a normal Ping is written

`ping_write_retries` is documented as the number of additional writes after the first one.  The
first refused write sets `normal_retry_attempts` to one, and a refused retry is repeated as long
as that count is below `ping_write_retries + 1`: the code allows one retry more than configured.
-/

namespace OpenNet.Ws

open Checked

def ControlWriteOutcome.isRetryable : ControlWriteOutcome → Bool
  | .retryable _ => true
  | _ => false

/-- The scheduled retry is as it was, or gone. -/
structure HeartbeatRecovery.Kept (r r' : HeartbeatRecovery) : Prop where
  config : r'.config = r.config := by rfl
  retry : r'.normalRetryPayload = none ∨ r'.normalRetryPayload = r.normalRetryPayload ∧
    r'.normalRetryAttempts = r.normalRetryAttempts := by exact .inr ⟨rfl, rfl⟩

namespace HeartbeatRecovery

theorem Kept.trans {r r' r'' : HeartbeatRecovery} (h : Kept r r') (h' : Kept r' r'') :
    Kept r r'' where
  config := h'.config.trans h.config
  retry := by
    obtain hnone | ⟨hpayload, hattempts⟩ := h'.retry
    · exact .inl hnone
    obtain hnone | ⟨hpayload', hattempts'⟩ := h.retry
    · exact .inl (hpayload.trans hnone)
    · exact .inr ⟨hpayload.trans hpayload', hattempts.trans hattempts'⟩

theorem armWait_kept_of {instantMax now : Nat} {r r' : HeartbeatRecovery} (h : Kept r r') :
    Kept r (r'.armWait instantMax now).2 := by
  refine h.trans ?_
  unfold armWait
  split <;> exact {}

theorem beginRound_kept (r : HeartbeatRecovery) : Kept r r.beginRound.2 := by
  unfold beginRound
  split <;> exact {}

end HeartbeatRecovery

theorem HeartbeatState.acknowledgePong_created (instantMax sequence now : Nat)
    (h : HeartbeatState) : (h.acknowledgePong instantMax sequence now).created = h.created := by
  unfold acknowledgePong
  dsimp only
  repeat' split
  all_goals rfl

theorem HeartbeatState.startRecoveryProbe_created {instantMax now pongTimeout : Nat}
    {h h' : HeartbeatState} {payload : ProbePayload}
    (hprobe : h.startRecoveryProbe instantMax now pongTimeout = some (payload, h')) :
    h.created ≤ h'.created := by
  unfold startRecoveryProbe at hprobe
  dsimp only at hprobe
  repeat' split at hprobe
  all_goals cases hprobe
  all_goals exact Nat.le_succ _

namespace HeartbeatWriter

def writes (w : HeartbeatWriter) (n : Nat) : Nat := w.written.countP fun e => e.1 = n

def refusals (w : HeartbeatWriter) (n : Nat) : Nat :=
  w.written.countP fun e => e.1 = n ∧ e.2.isRetryable

/-- No normal probe is written and no retry is scheduled. -/
structure Quiet (w w' : HeartbeatWriter) : Prop where
  instantMax : w'.instantMax = w.instantMax := by rfl
  recovery : w.recovery.Kept w'.recovery := by exact {}
  written : w'.written = w.written := by rfl
  created : w.heartbeat.created ≤ w'.heartbeat.created := by exact Nat.le_refl _

theorem Quiet.trans {w w' w'' : HeartbeatWriter} (h : Quiet w w') (h' : Quiet w' w'') :
    Quiet w w'' :=
  ⟨h'.1.trans h.1, h.2.trans h'.2, h'.3.trans h.3, Nat.le_trans h.4 h'.4⟩

variable {m : Nat} {c : HeartbeatRetryConfig} {w : HeartbeatWriter} (E : HeartbeatEnv)

/-! ## The calls that write no normal probe -/

theorem acknowledge_created (pongs : List (Nat × Nat)) :
    (w.acknowledge pongs).heartbeat.created = w.heartbeat.created := by
  show (pongs.foldl _ w.heartbeat).created = w.heartbeat.created
  generalize w.heartbeat = h
  induction pongs generalizing h with
  | nil => rfl
  | cons pong pongs ih =>
    rw [List.foldl_cons, ih, HeartbeatState.acknowledgePong_created]

theorem acknowledge_quiet (pongs : List (Nat × Nat)) : Quiet w (w.acknowledge pongs) :=
  { created := Nat.le_of_eq (acknowledge_created pongs).symm }

theorem markSent_quiet (payload : ProbePayload) (now : Nat) : Quiet w (w.markSent payload now) := by
  refine { created := Nat.le_of_eq ?_ }
  simp only [markSent, HeartbeatState.markSent]
  split
  · split <;> rfl
  · rfl

theorem abandon_quiet (payload : ProbePayload) : Quiet w (w.abandon payload) := by
  refine { created := Nat.le_of_eq ?_ }
  simp only [abandon, HeartbeatState.abandonProbe]
  split
  · split <;> rfl
  · rfl

theorem setRecovery_quiet {r : HeartbeatRecovery} (h : w.recovery.Kept r) :
    Quiet w (w.setRecovery r) := { recovery := h }

theorem clear_quiet : Quiet w (w.setRecovery w.recovery.clearNormalRetry) :=
  setRecovery_quiet { retry := .inl rfl }

theorem reset_quiet (active : Bool) : Quiet w (w.setRecovery (w.recovery.reset active)) :=
  setRecovery_quiet { retry := .inl rfl }

theorem sendRecoveryProbe_quiet : Quiet w (w.sendRecoveryProbe E).2 := by
  unfold sendRecoveryProbe
  split
  · exact {}
  rename_i payload heartbeat hprobe
  have hcreated : Quiet w { w with heartbeat } :=
    { created := HeartbeatState.startRecoveryProbe_created hprobe }
  have hsent : Quiet w ({ w with heartbeat }.sendPing E payload (E.clock 5)).2 :=
    hcreated.trans (acknowledge_quiet _)
  split
  · rename_i w' hping
    rw [hping] at hsent
    have hmarked := hsent.trans (markSent_quiet (w := w') payload (E.clock 6))
    dsimp only
    split
    · exact hmarked.trans (reset_quiet false)
    · refine hmarked.trans (setRecovery_quiet ?_)
      exact HeartbeatRecovery.armWait_kept_of {}
  · rename_i w' hping
    rw [hping] at hsent
    refine (hsent.trans (abandon_quiet payload)).trans (setRecovery_quiet ?_)
    exact HeartbeatRecovery.armWait_kept_of {}
  · rename_i error w' hping
    rw [hping] at hsent
    exact hsent.trans (abandon_quiet payload)

theorem recoveryRound_quiet : Quiet w (w.recoveryRound E).2 := by
  unfold recoveryRound
  have hbegun : Quiet w (w.setRecovery w.recovery.beginRound.2) :=
    setRecovery_quiet (HeartbeatRecovery.beginRound_kept _)
  dsimp only
  split
  · exact hbegun
  split
  · have hflushed := hbegun.trans (acknowledge_quiet E.flushPongs)
    have hset := hflushed.trans (setRecovery_quiet {} :
      Quiet _ (setRecovery _ { HeartbeatWriter.recovery _ with recoveryFlushPending := false }))
    split
    · exact hset
    · exact hset.trans (sendRecoveryProbe_quiet E)
  · exact hbegun.trans (sendRecoveryProbe_quiet E)

theorem continueRecovery_quiet : Quiet w (w.continueRecovery E).2 := by
  unfold continueRecovery
  split
  · exact {}
  split
  · exact recoveryRound_quiet E
  · exact {}

theorem driveHeartbeatRecovery_quiet : Quiet w (w.driveHeartbeatRecovery E).2 := by
  unfold driveHeartbeatRecovery
  split
  · exact reset_quiet false
  split
  · split
    · exact {}
    · split
      · exact {}
      · exact (reset_quiet true).trans (continueRecovery_quiet E)
  · exact continueRecovery_quiet E

theorem serviceRecovery_quiet : Quiet w (w.serviceRecovery E).2 := by
  unfold serviceRecovery
  split
  · exact driveHeartbeatRecovery_quiet E
  · exact {}

/-! ## Writes are refusals, but for the last one -/

/-- A refused first write is scheduled again. -/
def Retries (instantMax : Nat) (config : HeartbeatRetryConfig) : Prop :=
  0 < config.pingWriteRetries ∧ config.pingWriteRetryInterval ≤ instantMax

/-- Every write of a probe but its last one was refused. -/
structure Tallied (m : Nat) (c : HeartbeatRetryConfig) (w : HeartbeatWriter) : Prop where
  instantMax : w.instantMax = m
  config : w.recovery.config = c
  fresh : ∀ n, w.heartbeat.created ≤ n → w.writes n = 0 ∧ w.refusals n = 0
  refused : ∀ n, w.writes n ≤ w.refusals n + 1
  bounded : ∀ n, w.writes n ≤ 1 ∨ Retries m c ∧
    w.writes n ≤ saturatingAdd u64Max c.pingWriteRetries 1 + 1

/-- The scheduled probe has been refused each time it was written. -/
def Pending (w : HeartbeatWriter) : Prop :=
  ∀ p, w.recovery.normalRetryPayload = some p →
    p.probe < w.heartbeat.created ∧ w.writes p.probe = w.recovery.normalRetryAttempts ∧
      w.refusals p.probe = w.recovery.normalRetryAttempts ∧
      w.recovery.normalRetryAttempts ≤
        saturatingAdd u64Max w.recovery.config.pingWriteRetries 1 ∧
      Retries w.instantMax w.recovery.config

structure Counted (m : Nat) (c : HeartbeatRetryConfig) (w : HeartbeatWriter) : Prop
    extends Tallied m c w where
  pending : w.Pending

variable {w' : HeartbeatWriter}

theorem Quiet.writes_eq (h : Quiet w w') (n : Nat) :
    w'.writes n = w.writes n := by rw [writes, h.written, writes]

theorem Quiet.refusals_eq (h : Quiet w w') (n : Nat) :
    w'.refusals n = w.refusals n := by rw [refusals, h.written, refusals]

theorem Tallied.quiet (h : w.Tallied m c) (hq : Quiet w w') : w'.Tallied m c := by
  refine ⟨hq.instantMax.trans h.instantMax, hq.recovery.config.trans h.config, fun n hn => ?_,
    fun n => ?_, fun n => ?_⟩
  · rw [hq.writes_eq, hq.refusals_eq]
    exact h.fresh n (Nat.le_trans hq.created hn)
  · rw [hq.writes_eq, hq.refusals_eq]
    exact h.refused n
  · rw [hq.writes_eq]
    exact h.bounded n

theorem Tallied.setRecovery {r : HeartbeatRecovery} (h : w.Tallied m c)
    (hconfig : r.config = w.recovery.config) : (w.setRecovery r).Tallied m c :=
  ⟨h.instantMax, hconfig.trans h.config, h.fresh, h.refused, h.bounded⟩

theorem Pending.quiet (h : w.Pending) (hq : Quiet w w') : w'.Pending := by
  intro p hp
  obtain hnone | ⟨hpayload, hattempts⟩ := hq.recovery.retry
  · rw [hnone] at hp
    cases hp
  rw [hq.writes_eq, hq.refusals_eq, hattempts, hq.recovery.config, hq.instantMax]
  obtain ⟨hlt, hrest⟩ := h p (hpayload ▸ hp)
  exact ⟨Nat.lt_of_lt_of_le hlt hq.created, hrest⟩

theorem Counted.quiet (h : w.Counted m c) (hq : Quiet w w') : w'.Counted m c :=
  ⟨h.toTallied.quiet hq, h.pending.quiet hq⟩

/-! ## One write of a normal probe -/

/-- One write more; the rest is left to acknowledged Pongs. -/
structure Wrote (p : ProbePayload) (outcome : ControlWriteOutcome) (w w' : HeartbeatWriter) :
    Prop where
  instantMax : w'.instantMax = w.instantMax
  recovery : w'.recovery = w.recovery
  written : w'.written = w.written ++ [(p.probe, outcome)]
  created : w'.heartbeat.created = w.heartbeat.created

theorem sendNormalPing_wrote (p : ProbePayload) (now : Nat) :
    Wrote p (w.sendNormalPing E p now).1 w (w.sendNormalPing E p now).2 where
  instantMax := rfl
  recovery := rfl
  written := rfl
  created := acknowledge_created E.writePongs

namespace Wrote

variable {p : ProbePayload} {outcome : ControlWriteOutcome} {w' : HeartbeatWriter}

theorem writes_eq (h : Wrote p outcome w w') (n : Nat) :
    w'.writes n = w.writes n + if p.probe = n then 1 else 0 := by
  rw [writes, h.written, List.countP_append, writes, List.countP_singleton]
  simp only [decide_eq_true_eq]

theorem refusals_eq (h : Wrote p outcome w w') (n : Nat) :
    w'.refusals n = w.refusals n + if p.probe = n ∧ outcome.isRetryable then 1 else 0 := by
  rw [refusals, h.written, List.countP_append, refusals, List.countP_singleton]
  simp only [decide_eq_true_eq]

theorem tallied (h : Wrote p outcome w w') (hw : w.Tallied m c)
    (hcreated : p.probe < w.heartbeat.created) (hrefused : w.writes p.probe = w.refusals p.probe)
    (hbounded : w.writes p.probe = 0 ∨ Retries m c ∧
      w.writes p.probe ≤ saturatingAdd u64Max c.pingWriteRetries 1) : w'.Tallied m c := by
  refine ⟨h.instantMax.trans hw.instantMax, by rw [h.recovery, hw.config], fun n hn => ?_,
    fun n => ?_, fun n => ?_⟩
  · rw [h.created] at hn
    have hne : p.probe ≠ n := fun he => absurd hcreated (by omega)
    rw [h.writes_eq, h.refusals_eq, if_neg hne, if_neg fun hand => hne hand.1]
    exact hw.fresh n hn
  · rw [h.writes_eq, h.refusals_eq]
    by_cases hn : p.probe = n
    · subst hn
      rw [if_pos rfl, hrefused]
      exact Nat.succ_le_succ (Nat.le_add_right _ _)
    · rw [if_neg hn, if_neg fun hand => hn hand.1]
      exact hw.refused n
  · rw [h.writes_eq]
    by_cases hn : p.probe = n
    · subst hn
      rw [if_pos rfl]
      obtain hzero | ⟨hretries, hle⟩ := hbounded
      · exact .inl (by omega)
      · exact .inr ⟨hretries, by omega⟩
    · rw [if_neg hn]
      exact hw.bounded n

end Wrote

theorem sendProbe_counted {p : ProbePayload} (h : w.Counted m c)
    (hcreated : p.probe < w.heartbeat.created) (hfresh : w.writes p.probe = 0)
    (hzero : w.refusals p.probe = 0)
    (hother : ∀ q, w.recovery.normalRetryPayload = some q → q.probe ≠ p.probe) :
    (w.sendProbe E p).2.Counted m c := by
  have hwrote := sendNormalPing_wrote (w := w) E p (E.clock 11)
  unfold sendProbe
  generalize hsend : w.sendNormalPing E p (E.clock 11) = sent at hwrote
  obtain ⟨outcome, w'⟩ := sent
  have htallied := hwrote.tallied h.toTallied hcreated (hfresh.trans hzero.symm) (.inl hfresh)
  -- a retry scheduled for an earlier probe is not concerned
  have hcounted : w'.Counted m c := by
    refine ⟨htallied, fun q hq => ?_⟩
    rw [hwrote.recovery] at hq
    have hne : p.probe ≠ q.probe := (hother q hq).symm
    rw [hwrote.writes_eq, hwrote.refusals_eq, if_neg hne, if_neg fun hand => hne hand.1,
      hwrote.recovery, hwrote.instantMax, hwrote.created]
    exact h.pending q hq
  cases outcome with
  | complete => exact hcounted.quiet (markSent_quiet p _)
  | failed error => exact hcounted.quiet (abandon_quiet p)
  | retryable error =>
    dsimp only
    split
    case isFalse => exact hcounted.quiet (abandon_quiet p)
    case isTrue hretries =>
      unfold HeartbeatRecovery.scheduleNormalRetry
      split
      case h_1 => exact hcounted
      case h_2 deadline hdeadline =>
        obtain ⟨-, hrepresentable⟩ := checkedAdd_eq_some.mp hdeadline
        refine ⟨htallied.setRecovery rfl, fun q hq => ?_⟩
        cases hq
        have hwrites : w'.writes p.probe = 1 := by
          rw [hwrote.writes_eq, if_pos rfl, hfresh]
        have hrefusals : w'.refusals p.probe = 1 := by
          rw [hwrote.refusals_eq, if_pos ⟨rfl, rfl⟩, hzero]
        refine ⟨hwrote.created ▸ hcreated, hwrites, hrefusals, ?_, hretries, ?_⟩
        · show 1 ≤ saturatingAdd u64Max w'.recovery.config.pingWriteRetries 1
          exact Nat.le_min.mpr ⟨Nat.le_add_left _ _, by decide⟩
        · exact Nat.le_trans (Nat.le_add_left _ _) hrepresentable

theorem retryPing_counted {p : ProbePayload} (h : w.Counted m c)
    (hp : w.recovery.normalRetryPayload = some p) : (w.retryPing E p).2.Counted m c := by
  have hwrote := sendNormalPing_wrote (w := w) E p (E.clock 14)
  unfold retryPing
  generalize hsend : w.sendNormalPing E p (E.clock 14) = sent at hwrote
  obtain ⟨outcome, w'⟩ := sent
  obtain ⟨hcreated, hwrites, hrefusals, hattempts, hretries⟩ := h.pending p hp
  have htallied : w'.Tallied m c := by
    refine hwrote.tallied h.toTallied hcreated (hwrites.trans hrefusals.symm) (.inr ⟨?_, ?_⟩)
    · rwa [← h.instantMax, ← h.config]
    · rwa [hwrites, ← h.config]
  have hcleared : ∀ w'' : HeartbeatWriter, Quiet w' w'' →
      (w''.setRecovery w'.recovery.clearNormalRetry).Counted m c := by
    intro w'' hq
    have hquiet : Quiet w' (w''.setRecovery w'.recovery.clearNormalRetry) :=
      { hq with recovery := { retry := .inl rfl } }
    exact ⟨htallied.quiet hquiet, nofun⟩
  cases outcome with
  | complete => exact hcleared _ (markSent_quiet p _)
  | failed error => exact hcleared _ (abandon_quiet p)
  | retryable error =>
    dsimp only
    split
    case isFalse => exact hcleared _ (abandon_quiet p)
    case isTrue hlt =>
      have hle : w'.recovery.normalRetryAttempts + 1 ≤ u64Max :=
        Nat.le_trans hlt (Nat.min_le_right _ _)
      have hpending' : ∀ r : HeartbeatRecovery, r.config = w'.recovery.config →
          r.normalRetryPayload = w'.recovery.normalRetryPayload →
          r.normalRetryAttempts = w'.recovery.normalRetryAttempts + 1 →
          (w'.setRecovery r).Pending := by
        intro r hconfig hpayload hnext q hq
        obtain rfl : q = p := by
          rw [show (w'.setRecovery r).recovery = r from rfl, hpayload, hwrote.recovery, hp] at hq
          exact (Option.some.inj hq).symm
        refine ⟨hwrote.created ▸ hcreated, ?_, ?_, ?_, ?_⟩
        · show w'.writes q.probe = r.normalRetryAttempts
          rw [hwrote.writes_eq, if_pos rfl, hwrites, hnext, hwrote.recovery]
        · show w'.refusals q.probe = r.normalRetryAttempts
          rw [hwrote.refusals_eq, if_pos ⟨rfl, rfl⟩, hrefusals, hnext, hwrote.recovery]
        · show r.normalRetryAttempts ≤ saturatingAdd u64Max r.config.pingWriteRetries 1
          rw [hnext, hconfig]
          exact hlt
        · show Retries w'.instantMax r.config
          rw [hconfig, hwrote.recovery, hwrote.instantMax]
          exact hretries
      unfold HeartbeatRecovery.advanceNormalRetry
      dsimp only
      split
      all_goals exact ⟨htallied.setRecovery rfl, hpending' _ rfl rfl (saturatingAdd_of_le hle)⟩

/-! ## Every call, every run -/

theorem driveNormalPingRetry_counted (h : w.Counted m c) :
    (w.driveNormalPingRetry E).2.Counted m c := by
  have hflush : Quiet w (w.flushSink E).2 := acknowledge_quiet E.flushPongs
  unfold driveNormalPingRetry
  split
  case h_1 => exact h
  case h_2 payload hpayload =>
    split
    · exact h.quiet clear_quiet
    split
    · exact h.quiet ((abandon_quiet payload).trans clear_quiet)
    split
    case h_1 error w' hfailed =>
      rw [hfailed] at hflush
      exact h.quiet (hflush.trans ((abandon_quiet payload).trans clear_quiet))
    case h_2 w' hflushed =>
      have hsame : w'.recovery = w.recovery := by
        rw [show w' = (w.flushSink E).2 by rw [hflushed]]
        rfl
      rw [hflushed] at hflush
      exact retryPing_counted E (h.quiet hflush) (by rw [hsame, hpayload])

theorem onTick_cases (now pongTimeout : Nat) (h : HeartbeatState) :
    (∃ tick, (∀ payload, tick ≠ .sendProbe payload) ∧ h.onTick now pongTimeout = (tick, h)) ∨
      h.onTick now pongTimeout =
        (.sendProbe (h.create pongTimeout).1, (h.create pongTimeout).2) := by
  unfold HeartbeatState.onTick
  split
  · exact .inl ⟨.waiting, nofun, rfl⟩
  · split
    · exact .inl ⟨.timedOut, nofun, rfl⟩
    · exact .inl ⟨.waiting, nofun, rfl⟩
  · exact .inr rfl

theorem handleHeartbeatTick_counted (pongTimeout : Nat) (h : w.Counted m c) :
    (w.handleHeartbeatTick E pongTimeout).2.Counted m c := by
  unfold handleHeartbeatTick
  split
  · split
    · exact h.quiet (reset_quiet false)
    · split
      · exact h.quiet (driveHeartbeatRecovery_quiet E)
      · exact h
  · obtain ⟨tick, hother, htick⟩ | htick := onTick_cases (E.clock 10) pongTimeout w.heartbeat
    · rw [htick]
      cases tick with
      | waiting => exact h
      | timedOut => exact h.quiet (driveHeartbeatRecovery_quiet E)
      | sendProbe payload => exact absurd rfl (hother payload)
    · rw [htick]
      have hcreated : Quiet w { w with heartbeat := (w.heartbeat.create pongTimeout).2 } :=
        { created := Nat.le_succ _ }
      have hfresh := h.fresh w.heartbeat.created (Nat.le_refl _)
      refine sendProbe_counted E (h.quiet hcreated) (Nat.lt_succ_self _) hfresh.1 hfresh.2 ?_
      -- the scheduled probe was created before this one
      intro q hq hsame
      have hlt := (h.pending q hq).1
      exact absurd hlt (by rw [hsame]; exact Nat.lt_irrefl _)

theorem step_counted (w : HeartbeatWriter) (action : Action) (h : w.Counted m c) :
    (w.step action).Counted m c := by
  cases action with
  | tick pongTimeout E => exact handleHeartbeatTick_counted E pongTimeout h
  | service E E' =>
    simp only [step, serviceDueHeartbeatWork]
    split
    · have hretry := driveNormalPingRetry_counted E h
      split
      · rename_i error w' hfailed
        rw [hfailed] at hretry
        exact hretry
      · rename_i w' hdone
        rw [hdone] at hretry
        exact hretry.quiet (serviceRecovery_quiet E')
    · exact h.quiet (serviceRecovery_quiet E')
  | retry E => exact driveNormalPingRetry_counted E h
  | recover E => exact h.quiet (driveHeartbeatRecovery_quiet E)
  | pong sequence now => exact h.quiet (acknowledge_quiet [(sequence, now)])

theorem new_counted (m : Nat) (c : HeartbeatRetryConfig) : (new m c).Counted m c where
  instantMax := rfl
  config := rfl
  fresh _ _ := ⟨rfl, rfl⟩
  refused _ := Nat.zero_le _
  bounded _ := .inl (Nat.zero_le _)
  pending p hp := by cases hp

theorem run_tallied (instantMax : Nat) (config : HeartbeatRetryConfig) (acts : List Action) :
    (Machine.run step (new instantMax config) acts).Tallied instantMax config :=
  (Machine.run_invariant step_counted acts (new_counted instantMax config)).toTallied

/-! ## The documented bound -/

/-- The sink hands the connection's first probe back. -/
def refusing : HeartbeatEnv :=
  { clock := fun _ => 0, controlWriteTimeout := 0, write := .writeBufferFull (some 1) }

def accepting : HeartbeatEnv := { clock := fun _ => 0, controlWriteTimeout := 0, write := .sent }

/-- The first probe was written `k` times and will be again. -/
structure Scheduled (k : Nat) (w : HeartbeatWriter) : Prop where
  payload : w.recovery.normalRetryPayload = some ⟨1, 0⟩
  attempts : w.recovery.normalRetryAttempts = k
  outstanding : w.heartbeat.outstanding.isSome
  writes : w.writes 0 = k
  refusals : w.refusals 0 = k

theorem sendControlFrameOutcome_refusing (m : Nat) :
    sendControlFrameOutcome m 0 0 none ⟨1, 0⟩ (.writeBufferFull (some 1)) =
      .retryable ((NetError.new .queueFull).withStage .write) := by
  simp [sendControlFrameOutcome, checkedAdd]

theorem scheduled_first (h : Retries m c) : Scheduled 1 ((new m c).step (.tick 0 refusing)) := by
  have hdeadline : checkedAdd m 0 c.pingWriteRetryInterval = some (0 + c.pingWriteRetryInterval) :=
    checkedAdd_eq_some.mpr ⟨rfl, by rw [Nat.zero_add]; exact h.2⟩
  have hstep : (new m c).step (.tick 0 refusing) =
      { instantMax := m
        heartbeat := (({} : HeartbeatState).create 0).2
        recovery := (({ config := c } : HeartbeatRecovery).scheduleNormalRetry m ⟨1, 0⟩ 0).2
        written := [(0, .retryable ((NetError.new .queueFull).withStage .write))] } := by
    simp only [step, handleHeartbeatTick, new, HeartbeatState.onTick, sendProbe, sendNormalPing,
      sendPing, refusing, HeartbeatState.create, sendControlFrameOutcome_refusing, acknowledge,
      List.foldl_nil, h.1, if_true, Bool.false_eq_true, if_false]
    rfl
  rw [hstep]
  simp only [HeartbeatRecovery.scheduleNormalRetry, hdeadline]
  exact ⟨rfl, rfl, rfl, rfl, rfl⟩

/-- With nothing in its way, a due retry gets to its write. -/
theorem Scheduled.driveNormalPingRetry_eq {k : Nat} (h : w.Scheduled k)
    (hbudget : E.budget = none) (hflush : E.flush = .ok ()) (hpongs : E.flushPongs = []) :
    w.driveNormalPingRetry E = w.retryPing E ⟨1, 0⟩ := by
  simp only [driveNormalPingRetry, h.payload, HeartbeatState.hasOutstandingProbe, h.outstanding,
    Bool.not_true, Bool.false_eq_true, if_false, hbudget, Option.filter_none, flushSink, hflush,
    hpongs, acknowledge, List.foldl_nil]

section

variable {k : Nat} (h : w.Scheduled k)
  (hlt : k < saturatingAdd u64Max w.recovery.config.pingWriteRetries 1)
include h hlt

theorem Scheduled.step_refused :
    w.step (.retry refusing) =
      { w with
        recovery := (w.recovery.advanceNormalRetry w.instantMax 0).2
        written := w.written ++
          [(0, .retryable ((NetError.new .queueFull).withStage .write))] } := by
  rw [step, h.driveNormalPingRetry_eq refusing rfl rfl rfl]
  simp only [retryPing, sendNormalPing, sendPing, refusing, sendControlFrameOutcome_refusing,
    acknowledge, List.foldl_nil, h.attempts, if_pos hlt]
  rfl

theorem Scheduled.refused : (w.step (.retry refusing)).Scheduled (k + 1) ∧
      (w.step (.retry refusing)).recovery.config = w.recovery.config := by
  have hle : k + 1 ≤ u64Max := Nat.le_trans hlt (Nat.min_le_right _ _)
  rw [h.step_refused hlt]
  unfold HeartbeatRecovery.advanceNormalRetry
  dsimp only
  split <;>
  · refine ⟨⟨h.payload, ?_, h.outstanding, ?_, ?_⟩, rfl⟩
    · rw [h.attempts, saturatingAdd_of_le hle]
    · rw [HeartbeatWriter.writes, List.countP_append, ← HeartbeatWriter.writes, h.writes]
      rfl
    · rw [HeartbeatWriter.refusals, List.countP_append, ← HeartbeatWriter.refusals, h.refusals]
      rfl

end

/-- The sink hands the first probe back `k + 1` times; the counter has to leave room for it. -/
theorem scheduled_again (h : Retries m c) :
    ∀ k, k < saturatingAdd u64Max c.pingWriteRetries 1 →
      let w := Machine.run step (new m c) (.tick 0 refusing :: List.replicate k (.retry refusing))
      w.Scheduled (k + 1) ∧ w.recovery.config = c
  | 0, _ => ⟨scheduled_first h, (run_tallied m c [.tick 0 refusing]).config⟩
  | k + 1, hk => by
    obtain ⟨hscheduled, hconfig⟩ := scheduled_again h k (by omega)
    rw [List.replicate_succ', ← List.cons_append, Machine.run_append, Machine.run_cons,
      Machine.run_nil]
    have hnext := hscheduled.refused (by rw [hconfig]; exact hk)
    exact ⟨hnext.1, hnext.2.trans hconfig⟩

/-- The retry after the last refusal, whatever the configured number of retries. -/
theorem Scheduled.accepted {k : Nat} (h : w.Scheduled k) :
    (w.step (.retry accepting)).writes 0 = k + 1 ∧ (w.step (.retry accepting)).refusals 0 = k := by
  have hstep : (w.step (.retry accepting)).written = w.written ++ [(0, .complete)] := by
    rw [step, h.driveNormalPingRetry_eq accepting rfl rfl rfl]
    simp only [retryPing, sendNormalPing, sendPing, accepting, sendControlFrameOutcome, checkedAdd,
      Nat.add_zero, Nat.zero_le, if_true]
    rfl
  constructor
  · rw [HeartbeatWriter.writes, hstep, List.countP_append, ← HeartbeatWriter.writes, h.writes]
    rfl
  · rw [HeartbeatWriter.refusals, hstep, List.countP_append, ← HeartbeatWriter.refusals, h.refusals]
    rfl

/-- The sinks under which no normal probe is written more often than documented: those that hand a
probe back at most `k` times, for `k` up to the configured retries. Without retries, with an
interval the clock cannot represent, or with a saturated number, every sink will do. -/
theorem ping_writes_bounded_iff (m : Nat) (c : HeartbeatRetryConfig) (k : Nat) :
    (∀ acts n, (Machine.run step (new m c) acts).refusals n ≤ k →
      (Machine.run step (new m c) acts).writes n ≤ 1 + c.pingWriteRetries) ↔
    c.pingWriteRetries = 0 ∨ m < c.pingWriteRetryInterval ∨ u64Max ≤ c.pingWriteRetries ∨
      k ≤ c.pingWriteRetries := by
  constructor
  · intro hbound
    by_contra hfails
    obtain ⟨hzero, hinterval, hmax, hk⟩ : c.pingWriteRetries ≠ 0 ∧
        ¬m < c.pingWriteRetryInterval ∧ ¬u64Max ≤ c.pingWriteRetries ∧
        ¬k ≤ c.pingWriteRetries := by
      simpa only [not_or] using hfails
    -- the first write and all configured retries are refused, then one more is written
    have hroom : c.pingWriteRetries < saturatingAdd u64Max c.pingWriteRetries 1 := by
      rw [saturatingAdd_of_le (by omega)]
      exact Nat.lt_succ_self _
    obtain ⟨hscheduled, -⟩ := scheduled_again ⟨Nat.pos_of_ne_zero hzero, Nat.le_of_not_lt hinterval⟩
      c.pingWriteRetries hroom
    obtain ⟨hwrites, hrefusals⟩ := hscheduled.accepted
    have hlast : ∀ (w : HeartbeatWriter) a, Machine.run step w [a] = w.step a := fun _ _ => rfl
    have hover := hbound
      ((.tick 0 refusing :: List.replicate c.pingWriteRetries (.retry refusing)) ++
        [.retry accepting]) 0
    rw [Machine.run_append, hlast, hwrites, hrefusals] at hover
    have hwrong := hover (by omega)
    omega
  · intro hcases acts n hrefusals
    have htallied := run_tallied m c acts
    have hle := htallied.refused n
    obtain hone | ⟨⟨hpos, hinterval⟩, hmany⟩ := htallied.bounded n
    · omega
    have hsat : saturatingAdd u64Max c.pingWriteRetries 1 ≤ u64Max := Nat.min_le_right _ _
    obtain hzero | hunrepresentable | hmax | hk := hcases
    · omega
    · omega
    · omega
    · omega

/-- One retry is configured and the sink hands the Ping back twice: it is written three times. -/
theorem ping_written_three_times :
    (Machine.run step (new 1 { pingWriteRetries := 1, pingWriteRetryInterval := 1 })
      [.tick 0 refusing, .retry refusing, .retry accepting]).writes 0 = 3 := by
  decide +kernel

end HeartbeatWriter

end OpenNet.Ws
