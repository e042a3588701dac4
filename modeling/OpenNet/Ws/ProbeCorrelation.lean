import Mathlib.Data.List.Nodup
import OpenNet.Foundation.Machine
import OpenNet.Ws.Heartbeat

/-!
# Correlation of Pings and Pongs

The reader and the writer use a `HeartbeatState` in any order.  Beside the state a `HeartbeatRun`
records the payload of every probe that was issued.
-/

namespace OpenNet.Ws

open Checked

def toBeBytes (n : Nat) : List Nat := [7, 6, 5, 4, 3, 2, 1, 0].map fun i => n / 256 ^ i % 256

/-- `heartbeat_payload`: nonce and sequence. -/
def heartbeatPayload (generation sequence : Nat) : List Nat :=
  toBeBytes generation ++ toBeBytes sequence

theorem toBeBytes_inj {m n : Nat} (hm : m ≤ u64Max) (hn : n ≤ u64Max)
    (h : toBeBytes m = toBeBytes n) : m = n := by
  simp only [u64Max] at hm hn
  simp [toBeBytes] at h
  omega

theorem heartbeatPayload_halves {g g' m n : Nat}
    (h : heartbeatPayload g m = heartbeatPayload g' n) :
    toBeBytes g = toBeBytes g' ∧ toBeBytes m = toBeBytes n :=
  List.append_inj h (by simp [toBeBytes])

structure HeartbeatRun where
  generation : Nat
  state : HeartbeatState := {}
  issued : List (List Nat) := []

/-- The calls that a state serves; each holds its lock throughout. -/
inductive HeartbeatUse where
  | onTick (now pongTimeout : Nat)
  | startRecoveryProbe (now pongTimeout : Nat)
  | markSent (payload : List Nat) (sentAt : Nat)
  | acknowledgePong (payload : List Nat) (now : Nat)
  | abandonProbe (payload : List Nat)
  | isTimedOut (now : Nat)

namespace HeartbeatRun

section

variable (instantMax : Nat) (s : HeartbeatRun)

def outstanding : Option (List Nat) :=
  s.state.outstanding.map fun probe => heartbeatPayload s.generation probe.payload.sequence

def withPayload (payload : List Nat) (call : ProbePayload → HeartbeatState) : HeartbeatRun :=
  match s.state.outstanding with
  | some probe =>
    if heartbeatPayload s.generation probe.payload.sequence = payload then
      { s with state := call probe.payload }
    else s
  | none => s

def issue (probe : ProbePayload × HeartbeatState) : HeartbeatRun :=
  { s with
    state := probe.2
    issued := s.issued ++ [heartbeatPayload s.generation probe.1.sequence] }

def step (s : HeartbeatRun) : HeartbeatUse → HeartbeatRun
  | .onTick now pongTimeout =>
    match s.state.onTick now pongTimeout with
    | (.sendProbe payload, state) => s.issue (payload, state)
    | (_, state) => { s with state }
  | .startRecoveryProbe now pongTimeout =>
    match s.state.startRecoveryProbe instantMax now pongTimeout with
    | some probe => s.issue probe
    | none => s
  | .markSent payload sentAt => s.withPayload payload (s.state.markSent · sentAt)
  | .acknowledgePong payload now =>
    s.withPayload payload fun p => s.state.acknowledgePong instantMax p.sequence now
  | .abandonProbe payload => s.withPayload payload s.state.abandonProbe
  | .isTimedOut _ => s

end

/-- Probes are numbered from one, up to the wrap. -/
structure Numbered (g : Nat) (s : HeartbeatRun) : Prop where
  generation : s.generation = g
  next : s.state.nextSequence = s.state.created % u64Max + 1
  issued : s.issued =
    (List.range s.state.created).map fun i => heartbeatPayload g (i % u64Max + 1)

variable {instantMax generation : Nat} {s : HeartbeatRun}

theorem Numbered.create (h : s.Numbered generation) (pongTimeout : Nat) :
    (s.issue (s.state.create pongTimeout)).Numbered generation where
  generation := h.generation
  next := by
    have hnext := h.next
    simp only [HeartbeatState.create, issue, u64Max] at hnext ⊢
    omega
  issued := by
    simp only [issue, HeartbeatState.create, List.range_succ, List.map_append, List.map_singleton,
      h.issued, h.next, h.generation]

theorem Numbered.withPayload (h : s.Numbered generation) (payload : List Nat)
    (call : ProbePayload → HeartbeatState)
    (hkept : ∀ p, (call p).nextSequence = s.state.nextSequence ∧
      (call p).created = s.state.created) : (s.withPayload payload call).Numbered generation := by
  unfold HeartbeatRun.withPayload
  split
  · split
    · rename_i probe _ _
      obtain ⟨hnext, hcreated⟩ := hkept probe.payload
      exact ⟨h.generation, by rw [hnext, hcreated, h.next], by rw [hcreated, h.issued]⟩
    · exact h
  · exact h

theorem Numbered.step (s : HeartbeatRun) (use : HeartbeatUse) (h : s.Numbered generation) :
    (s.step instantMax use).Numbered generation := by
  cases use with
  | onTick now pongTimeout =>
    simp only [HeartbeatRun.step, HeartbeatState.onTick]
    rcases s.state.outstanding with _ | ⟨payload, timeout, _ | sentAt⟩
    · exact h.create pongTimeout
    · exact { h with }
    · by_cases hlate : timeout ≤ now - sentAt
      · simp only [if_pos hlate]
        exact { h with }
      · simp only [if_neg hlate]
        exact { h with }
  | startRecoveryProbe now pongTimeout =>
    have hcreate := h.create pongTimeout
    simp only [HeartbeatRun.step, HeartbeatState.startRecoveryProbe]
    grind
  | markSent payload sentAt =>
    exact h.withPayload payload (s.state.markSent · sentAt) (by grind [HeartbeatState.markSent])
  | acknowledgePong payload now =>
    exact h.withPayload payload (fun p => s.state.acknowledgePong instantMax p.sequence now)
      (by grind [HeartbeatState.acknowledgePong])
  | abandonProbe payload =>
    exact h.withPayload payload s.state.abandonProbe (by grind [HeartbeatState.abandonProbe])
  | isTimedOut now => exact h

/-- **Correlation of heartbeats.**  Only a tick that was read before the write can disagree, and
only about a timeout of zero. -/
theorem heartbeat_correlation (instantMax generation : Nat) (uses : List HeartbeatUse)
    (hgeneration : generation ≤ u64Max) :
    let s := Machine.run (step instantMax) { generation } uses
    (s.state.created < u64Max → s.issued.Nodup) ∧
    (∀ generation' ≤ u64Max, generation' ≠ generation → ∀ uses',
      s.issued.Disjoint
        (Machine.run (step instantMax) { generation := generation' } uses').issued) ∧
    (∀ payload, s.outstanding ≠ some payload → ∀ t, s.step instantMax (.markSent payload t) = s ∧
      s.step instantMax (.acknowledgePong payload t) = s ∧
      s.step instantMax (.abandonProbe payload) = s) ∧
    ∀ probe sentAt, s.state.outstanding = some probe → probe.phase = .awaitingPong sentAt →
      sentAt + probe.pongTimeout ≤ instantMax → ∀ t pongTimeout,
      ((s.step instantMax (.acknowledgePong
          (heartbeatPayload generation probe.payload.sequence) t)).outstanding = none ↔
        s.state.isTimedOut instantMax t = false) ∧
      (0 < probe.pongTimeout ∨ sentAt ≤ t → ((s.state.onTick t pongTimeout).1 = .timedOut ↔
        s.state.isTimedOut instantMax t = true)) ∧
      ((s.state.startRecoveryProbe instantMax t pongTimeout).isSome = true ↔
        s.state.isTimedOut instantMax t = true) := by
  intro s
  have hrun : ∀ {g} uses,
      (Machine.run (HeartbeatRun.step instantMax) { generation := g } uses).Numbered g :=
    fun uses => Machine.run_invariant Numbered.step uses ⟨rfl, rfl, rfl⟩
  have h : s.Numbered generation := hrun uses
  refine ⟨fun hfew => ?_, fun generation' hle hne uses' => ?_, fun payload hother t => ?_, ?_⟩
  · rw [h.issued]
    refine List.Nodup.map_on (fun i hi j hj heq => ?_) List.nodup_range
    have hmod {k : Nat} (hk : k ∈ List.range s.state.created) : k % u64Max = k :=
      Nat.mod_eq_of_lt (Nat.lt_trans (List.mem_range.mp hk) hfew)
    have hsame := toBeBytes_inj (Nat.mod_lt _ (by decide)) (Nat.mod_lt _ (by decide))
      (heartbeatPayload_halves heq).2
    rw [hmod hi, hmod hj] at hsame
    omega
  · rw [h.issued, (hrun uses').issued]
    intro payload hp hp'
    obtain ⟨i, -, rfl⟩ := List.mem_map.mp hp
    obtain ⟨j, -, heq⟩ := List.mem_map.mp hp'
    exact hne (toBeBytes_inj hle hgeneration (heartbeatPayload_halves heq).1)
  · have hsame : ∀ call, s.withPayload payload call = s := by
      intro call
      unfold withPayload
      split
      · rename_i probe hprobe
        rw [if_neg]
        simpa [outstanding, hprobe] using hother
      · rfl
    simp only [step, hsame, and_self]
  · intro probe sentAt hprobe hphase hfits t pongTimeout
    have hadd : checkedAdd instantMax sentAt probe.pongTimeout =
        some (sentAt + probe.pongTimeout) := checkedAdd_eq_some.mpr ⟨rfl, hfits⟩
    obtain ⟨payload, timeout, phase⟩ := probe
    obtain rfl : phase = .awaitingPong sentAt := hphase
    dsimp only at hadd
    simp only [HeartbeatRun.step, withPayload, outstanding, HeartbeatState.acknowledgePong,
      HeartbeatState.onTick, HeartbeatState.startRecoveryProbe, HeartbeatState.isTimedOut,
      HeartbeatState.pongDeadline, hprobe, hadd, h.generation]
    refine ⟨?_, fun hpos => ?_, ?_⟩
    · by_cases hlate : t < sentAt + timeout <;> simp [hlate, hprobe]
    · by_cases hlate : timeout ≤ t - sentAt <;> simp [hlate] <;> omega
    · simp

theorem heartbeat_correlation_written :
    let s := Machine.run (step 100) { generation := 7 }
      [.onTick 0 30, .markSent (heartbeatPayload 7 1) 5]
    s.issued.Nodup ∧ (s.state.onTick 35 30).1 = .timedOut :=
  have h := heartbeat_correlation 100 7 [.onTick 0 30, .markSent (heartbeatPayload 7 1) 5]
    (by decide)
  ⟨h.1 (by decide), ((h.2.2.2 ⟨⟨1, 0⟩, 30, .awaitingPong 5⟩ 5 (by decide) rfl (by decide) 35 30).2.1
    (.inl (by decide))).mpr (by decide)⟩

/-- A tick that was read before the write takes the time since then for zero. -/
theorem zero_timeout_ticks_early :
    let s := Machine.run (step 100) { generation := 7 }
      [.onTick 0 0, .markSent (heartbeatPayload 7 1) 5]
    s.state.outstanding = some ⟨⟨1, 0⟩, 0, .awaitingPong 5⟩ ∧
      (s.state.onTick 3 0).1 = .timedOut ∧ s.state.isTimedOut 100 3 = false := by
  decide

end HeartbeatRun

end OpenNet.Ws
