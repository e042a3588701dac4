import OpenNet.Foundation.Rounds
import OpenNet.Ws.ConnectionSession

/-!
# The journal of a connection session

The events of a session are rounds of attempts, numbered from 1, with one last event.
-/

namespace OpenNet.Ws

open RoundEntry (Stage)

abbrev AttemptKey := Nat × Nat

def ConnectionEventKind.entry : ConnectionEventKind → RoundEntry AttemptKey
  | .attemptStarted attempt => .started attempt.key
  | .attemptFailed attempt _ _ _ => .failed attempt.key
  | .established connection => .established connection.key
  | .disconnected connection _ => .disconnected connection.key
  | .closed _ => .closed

def entries (log : List ConnectionEvent) : List (RoundEntry AttemptKey) :=
  log.map fun event => event.kind.entry

def startedKeys (log : List ConnectionEvent) : List AttemptKey :=
  (entries log).filterMap fun
    | .started k => some k
    | _ => none

namespace ActiveAttempt

def key (a : ActiveAttempt) : AttemptKey := a.context.attempt.key

/-- The leases for its outcome and for a connection are there. -/
def Provided (a : ActiveAttempt) : Prop := a.resultSlot.isSome ∧ a.connectionSlot.isSome

end ActiveAttempt

def SessionState.stage (s : SessionState) : Stage AttemptKey :=
  match s.attempt, s.connection with
  | some a, _ => .attempting a.key
  | none, some connection => .connected connection.info.key
  | none, none => if s.terminated then .closed else .idle

def SessionState.lastKey (s : SessionState) : Option AttemptKey :=
  s.lastAttempt.map fun last => last.attempt.key

/-- What holds of the state between calls. -/
structure SessionState.Sound (s : SessionState) : Prop where
  exclusive : s.attempt = none ∨ s.connection = none
  ended : s.terminated → s.attempt = none ∧ s.connection = none
  attempt : ∀ a, s.attempt = some a → a.Provided ∧ s.lastKey = some a.key
  connection : ∀ connection, s.connection = some connection → connection.terminalSlot.isSome
  slot : s.terminated = false → s.sessionTerminalSlot.isSome
  result : s.terminalResult.isSome = s.terminated
  delivered : s.deliveryError = none

structure Logged (log : List ConnectionEvent) (s : SessionState) : Prop where
  sound : s.Sound
  sequence : log.map (·.sequence) = (List.range log.length).map (· + 1)
  last : s.lastSequence = log.length
  stage : Stage.idle.after (entries log) = some s.stage
  increasing : (startedKeys log).Pairwise fun k k' => toLex k < toLex k'
  latest : ∀ k ∈ startedKeys log, ∃ k', s.lastKey = some k' ∧ toLex k ≤ toLex k'

namespace SessionState

variable {s : SessionState}

variable {a : ActiveAttempt} {connection : ActiveConnection}

theorem stage_attempt (h : s.attempt = some a) : s.stage = .attempting a.key := by
  simp [stage, h]

theorem stage_connection (ha : s.attempt = none) (h : s.connection = some connection) :
    s.stage = .connected connection.info.key := by
  simp [stage, ha, h]

theorem stage_idle (ha : s.attempt = none) (hc : s.connection = none) (ht : s.terminated = false) :
    s.stage = .idle := by
  simp [stage, ha, hc, ht]

theorem stage_closed (ha : s.attempt = none) (hc : s.connection = none) (ht : s.terminated) :
    s.stage = .closed := by
  simp [stage, ha, hc, ht]

theorem Sound.result_none (h : s.Sound) (hopen : s.terminated = false) :
    s.terminalResult = none := by
  have hresult := h.result
  rw [hopen] at hresult
  exact Option.isSome_eq_false_iff.mp hresult |> Option.isNone_iff_eq_none.mp

theorem Sound.connection_none (h : s.Sound) (ha : s.attempt = some a) : s.connection = none := by
  rcases h.exclusive with hnone | hnone
  · rw [ha] at hnone
    cases hnone
  · exact hnone

theorem Sound.attempt_none (h : s.Sound) (hc : s.connection = some connection) :
    s.attempt = none := by
  rcases h.exclusive with hnone | hnone
  · exact hnone
  · rw [hc] at hnone
    cases hnone

end SessionState

namespace Logged

variable {log : List ConnectionEvent} {s s' : SessionState} {event : ConnectionEvent}

section

variable (h : Logged log s)
include h

theorem sequence_snoc (hseq : event.sequence = s.lastSequence + 1) :
    (log ++ [event]).map (·.sequence) = (List.range (log ++ [event]).length).map (· + 1) := by
  rw [h.last] at hseq
  simp [List.range_succ, h.sequence, hseq]

theorem stage_snoc (hnext : s.stage.next event.kind.entry = some s'.stage) :
    Stage.idle.after (entries (log ++ [event])) = some s'.stage := by
  have hentries : entries (log ++ [event]) = entries log ++ [event.kind.entry] := by
    simp [entries]
  rw [hentries, Stage.after_snoc, h.stage]
  exact hnext

theorem record (hseq : event.sequence = s.lastSequence + 1)
    (hnext : s.stage.next event.kind.entry = some s'.stage) (hkeys : startedKeys [event] = [])
    (hsound : s'.Sound) (hlast : s'.lastSequence = s.lastSequence + 1)
    (hkey : s'.lastKey = s.lastKey) : Logged (log ++ [event]) s' := by
  have hsame : startedKeys (log ++ [event]) = startedKeys log := by
    simpa [startedKeys, entries] using hkeys
  constructor
  case sound => exact hsound
  case sequence => exact h.sequence_snoc hseq
  case last => rw [hlast, h.last, List.length_append, List.length_singleton]
  case stage => exact h.stage_snoc hnext
  case increasing => rw [hsame]; exact h.increasing
  case latest => rw [hsame, hkey]; exact h.latest

theorem start {a : ActiveAttempt} (hseq : event.sequence = s.lastSequence + 1)
    (hkind : event.kind = .attemptStarted a.context.attempt) (hidle : s.stage = .idle)
    (hnew : ∀ k, s.lastKey = some k → toLex k < toLex a.key) (hsound : s'.Sound)
    (hattempt : s'.attempt = some a) (hlast : s'.lastSequence = s.lastSequence + 1) :
    Logged (log ++ [event]) s' := by
  have hlastKey := (hsound.attempt a hattempt).2
  have hkeys : startedKeys (log ++ [event]) = startedKeys log ++ [a.key] := by
    simp [startedKeys, entries, hkind, ConnectionEventKind.entry, ActiveAttempt.key]
  have hbefore : ∀ k ∈ startedKeys log, toLex k < toLex a.key := by
    intro k hk
    obtain ⟨k', hk', hle⟩ := h.latest k hk
    exact lt_of_le_of_lt hle (hnew k' hk')
  constructor
  case sound => exact hsound
  case sequence => exact h.sequence_snoc hseq
  case last => rw [hlast, h.last, List.length_append, List.length_singleton]
  case stage =>
    apply h.stage_snoc
    rw [hidle, hkind, SessionState.stage_attempt hattempt]
    rfl
  case increasing =>
    rw [hkeys]
    refine List.pairwise_append.mpr ⟨h.increasing, List.pairwise_singleton _ _, ?_⟩
    intro k hk k' hk'
    rw [List.mem_singleton.mp hk']
    exact hbefore k hk
  case latest =>
    rw [hkeys, hlastKey]
    intro k hk
    refine ⟨a.key, rfl, ?_⟩
    rcases List.mem_append.mp hk with hold | hnew
    · exact le_of_lt (hbefore k hold)
    · rw [List.mem_singleton.mp hnew]

theorem failAttempt {active : ActiveAttempt} (hactive : s.attempt = some active)
    (hopen : s.terminated = false) (hseq : event.sequence = s.lastSequence + 1)
    (hentry : event.kind.entry = .failed active.key) :
    Logged (log ++ [event]) { s with attempt := none, lastSequence := s.lastSequence + 1 } := by
  have hconnection := h.sound.connection_none hactive
  have hidle : ({ s with
      attempt := none, lastSequence := s.lastSequence + 1 } : SessionState).stage = .idle :=
    SessionState.stage_idle rfl hconnection hopen
  refine h.record hseq ?_ ?_ ?_ rfl rfl
  · rw [SessionState.stage_attempt hactive, hentry, hidle]
    exact if_pos rfl
  · simp [startedKeys, entries, hentry]
  · exact { h.sound with
      exclusive := .inl rfl
      ended := fun _ => ⟨rfl, hconnection⟩
      attempt := nofun }

theorem endConnection {active : ActiveConnection} (hactive : s.connection = some active)
    (hopen : s.terminated = false) (hseq : event.sequence = s.lastSequence + 1)
    (hentry : event.kind.entry = .disconnected active.info.key) :
    Logged (log ++ [event]) { s with connection := none, lastSequence := s.lastSequence + 1 } := by
  have hattempt := h.sound.attempt_none hactive
  have hidle : ({ s with
      connection := none, lastSequence := s.lastSequence + 1 } : SessionState).stage = .idle :=
    SessionState.stage_idle hattempt rfl hopen
  refine h.record hseq ?_ ?_ ?_ rfl rfl
  · rw [SessionState.stage_connection hattempt hactive, hentry, hidle]
    exact if_pos rfl
  · simp [startedKeys, entries, hentry]
  · exact { h.sound with
      exclusive := .inr rfl
      ended := fun _ => ⟨hattempt, rfl⟩
      connection := nofun }

end

end Logged

def ConnectionState.ending : ConnectionState → Bool
  | .closing | .closed _ => true
  | _ => false

namespace ConnectionSession

variable (c : ConnectionSession) (env : Answers) {log : List ConnectionEvent} {t : Transaction}

theorem publish_cases (kind : ConnectionEventKind) (lease : EventLease) (t : Transaction) :
    (∃ error lastSequence, c.publish env kind lease t = (.error error, {
      state := { t.state with lastSequence }
      publication := { t.publication with failed := true } })) ∨
    ∃ event, event.kind = kind ∧ event.sequence = t.state.lastSequence + 1 ∧
      c.publish env kind lease t = (.ok (), {
        state := { t.state with lastSequence := t.state.lastSequence + 1 }
        publication := { t.publication with
          events := t.publication.events ++ [event], failed := false } }) := by
  unfold publish
  simp only
  split
  · exact .inl ⟨_, t.state.lastSequence, rfl⟩
  rename_i sequence hadd
  obtain ⟨rfl, -⟩ := Checked.checkedAdd_eq_some.mp hadd
  split
  · exact .inl ⟨_, t.state.lastSequence, rfl⟩
  split
  · exact .inl ⟨_, t.state.lastSequence, rfl⟩
  split
  · exact .inl ⟨_, _, rfl⟩
  · exact .inr ⟨_, rfl, rfl, rfl⟩

variable {s : SessionState} {t' : Transaction}

/-- What a call shows, when it starts from the state `s`. -/
structure Shows (s : SessionState) (t : Transaction) : Prop where
  closing : s.closing → t.state.closing
  /-- A session that is closing shows nothing else. -/
  ending : s.closing → ∀ state, t.publication.nextState = some state → state.ending
  marked : ∀ state, t.publication.nextState = some state → state.ending →
    t.state.closing
  snapshot : t.state.snapshot = s.snapshot

theorem shows_start : Shows s { state := s } where
  closing h := h
  ending _ _ h := by cases h
  marked _ h := by cases h
  snapshot := rfl

theorem Shows.finish (h : Shows s t) {state : ConnectionState}
    (hclosing : t'.state.closing) (hsnapshot : t'.state.snapshot = t.state.snapshot)
    (hnext : t'.publication.nextState = some state) (hend : state.ending) : Shows s t' where
  closing _ := hclosing
  ending _ shown hshown := by
    obtain rfl : state = shown := Option.some.inj (hnext.symm.trans hshown)
    exact hend
  marked _ _ _ := hclosing
  snapshot := by rw [hsnapshot, h.snapshot]

theorem Shows.progress (h : Shows s t) {state : ConnectionState}
    (hopen : s.closing = false) (hsnapshot : t'.state.snapshot = t.state.snapshot)
    (hnext : t'.publication.nextState = some state) (hend : state.ending = false) : Shows s t' where
  closing hs := by rw [hopen] at hs; cases hs
  ending hs := by rw [hopen] at hs; cases hs
  marked shown hshown hshows := by
    obtain rfl : state = shown := Option.some.inj (hnext.symm.trans hshown)
    rw [hend] at hshows
    cases hshows
  snapshot := by rw [hsnapshot, h.snapshot]

theorem Shows.open_ (h : Shows s t) (hopen : t.state.closing = false) : s.closing = false := by
  rw [← Bool.not_eq_true]
  intro hclosing
  rw [h.closing hclosing] at hopen
  cases hopen

/-- Between parts of a call that began in `s`; what it showed is said under `p`. -/
structure Ready (p : Prop) (s : SessionState) (log : List ConnectionEvent) (t : Transaction) :
    Prop where
  failed : t.publication.failed = false
  logged : Logged (log ++ t.publication.events) t.state
  shows : p → Shows s t

/-- After a part: it goes on, with `q`, or ended with an error, perhaps a publication's. -/
inductive Keeps (p : Prop) (s : SessionState) (log : List ConnectionEvent)
    (q : Transaction → Prop) : Except NetError Unit × Transaction → Prop where
  | ready {t : Transaction} (h : Ready p s log t) (hq : q t) : Keeps p s log q (.ok (), t)
  | refused {error : NetError} {t : Transaction} (h : Ready p s log t) :
    Keeps p s log q (.error error, t)
  | failed {error : NetError} {t : Transaction} (hfailed : t.publication.failed)
    (hresult : t.state.terminalResult = none)
    (hexclusive : t.state.attempt = none ∨ t.state.connection = none) (hshows : p → Shows s t) :
    Keeps p s log q (.error error, t)

variable {r : Except NetError Unit × Transaction} {p : Prop} {q q' : Transaction → Prop}
  {next operation : Transaction → Except NetError Unit × Transaction} {cycleId attemptId : Nat}

theorem Keeps.andThen (h : Keeps p s log q r)
    (hnext : ∀ t, Ready p s log t → q t → Keeps p s log q' (next t)) :
    Keeps p s log q' (andThen r next) := by
  cases h with
  | ready h hq => exact hnext _ h hq
  | refused h => exact .refused h
  | failed hfailed hresult hexclusive hshows => exact .failed hfailed hresult hexclusive hshows

theorem Keeps.shows (h : Keeps p s log q r) (hp : p) : Shows s r.2 := by
  cases h with
  | ready h => exact h.shows hp
  | refused h => exact h.shows hp
  | failed _ _ _ hshows => exact hshows hp

theorem keeps_publish {kind : ConnectionEventKind} {lease : EventLease}
    (hexclusive : t.state.attempt = none ∨ t.state.connection = none)
    (hresult : t.state.terminalResult = none) (hshows : p → Shows s t)
    (hnext : ∀ event, event.kind = kind → event.sequence = t.state.lastSequence + 1 →
      Keeps p s log q (next {
        state := { t.state with lastSequence := t.state.lastSequence + 1 }
        publication := { t.publication with
          events := t.publication.events ++ [event], failed := false } })) :
    Keeps p s log q (andThen (c.publish env kind lease t) next) := by
  rcases publish_cases c env kind lease t with ⟨error, n, heq⟩ | ⟨event, hkind, hseq, heq⟩
  · rw [heq]
    exact .failed rfl hresult hexclusive fun hp => { hshows hp with }
  · rw [heq]
    exact hnext event hkind hseq

theorem andThen_pure (r : Except NetError Unit × Transaction) :
    andThen r (fun t => (.ok (), t)) = r := by
  obtain ⟨result, t⟩ := r
  cases result <;> rfl

/-! ## Progress -/

section Calls

variable (h : Ready p s log t)
include h

theorem announce_keeps (hopen : p → s.closing = false) (hq : ∀ state, q (t.showState state))
    (nextAttemptAt : Option Nat) : Keeps p s log q (announce nextAttemptAt t) := by
  unfold announce
  split
  · rename_i state hstate
    have hquiet : state.ending = false := by
      unfold preparingState at hstate
      split at hstate
      · split at hstate <;> cases hstate
        rfl
      · cases hstate
        rfl
    exact .ready { h with shows := fun hp => (h.shows hp).progress (hopen hp) rfl rfl hquiet }
      (hq state)
  · exact .refused h

theorem beginCycle_keeps (cycle : Nat) (reconnecting : Bool) :
    Keeps p s log (fun _ => True) (beginCycle cycle reconnecting t) := by
  unfold beginCycle
  split
  · exact .refused h
  rename_i hopen
  simp only [Bool.or_eq_true, not_or, Bool.not_eq_true] at hopen
  apply announce_keeps
  · exact {
      failed := h.failed
      logged := { h.logged with sound := { h.logged.sound with } }
      shows := fun hp => { h.shows hp with } }
  · exact fun hp => (h.shows hp).open_ hopen.1.1.1.2
  · exact fun _ => trivial

theorem waitingForNetwork_keeps (cycle : Nat) :
    Keeps p s log (fun _ => True) (waitingForNetwork cycle t) := by
  unfold waitingForNetwork
  split
  · rename_i hprogress
    exact .ready { h with shows := fun hp =>
      (h.shows hp).progress ((h.shows hp).open_ hprogress.2.1) rfl rfl rfl } trivial
  · exact .refused h

theorem preparingAttempt_keeps (cycle : Nat) (nextAttemptAt : Option Nat) :
    Keeps p s log (fun _ => True) (preparingAttempt cycle nextAttemptAt t) := by
  unfold preparingAttempt
  split
  · rename_i hprogress
    apply announce_keeps
    · exact {
        failed := h.failed
        logged := { h.logged with sound := { h.logged.sound with } }
        shows := fun hp => { h.shows hp with } }
    · exact fun hp => (h.shows hp).open_ hprogress.2.1
    · exact fun _ => trivial
  · exact .refused h

theorem beginClosing_keeps : Keeps p s log (fun _ => True) (beginClosing t) := by
  unfold beginClosing
  split
  · exact .ready h trivial
  · exact .ready {
      failed := h.failed
      logged := { h.logged with sound := { h.logged.sound with } }
      shows := fun hp => (h.shows hp).finish rfl rfl rfl rfl } trivial

/-! ## Attempts -/

theorem beginAttempt_keeps (cancelRequested : Bool) (attempt : HandshakeAttempt) (owner : Nat)
    (started resultSlot connectionSlot : EventLease) :
    Keeps p s log (fun _ => True) (c.beginAttempt env cancelRequested attempt owner started
      resultSlot connectionSlot t) := by
  unfold beginAttempt
  split
  · exact .refused h
  split
  · exact .refused h
  split
  · exact .refused h
  split
  · exact .refused h
  split
  swap
  · exact .refused h
  rename_i hopen _ hfree hkey hprogress
  obtain ⟨hterminated, hclosing, hconnection, -⟩ := hprogress
  have hattempt : t.state.attempt = none := by
    cases heq : t.state.attempt with
    | none => rfl
    | some a => simp [heq] at hfree
  have hnew : ∀ k, t.state.lastKey = some k → toLex k < toLex attempt.key := by
    intro k hk
    obtain ⟨last, hlast, rfl⟩ := Option.map_eq_some_iff.mp hk
    simp only [hlast, Option.any_some, decide_eq_true_eq, not_le] at hkey
    exact hkey
  have hannounced : Keeps p s log (fun t' => t'.state = t.state) (announce none t) :=
    announce_keeps h (fun hp => (h.shows hp).open_ hclosing) (fun _ => rfl) none
  refine hannounced.andThen fun t' h' hstate => ?_
  rw [← hstate] at hterminated hconnection hattempt hnew
  have hresult := h'.logged.sound.result_none hterminated
  rw [← andThen_pure (c.publish _ _ _ _)]
  refine keeps_publish c env (.inr hconnection) hresult (fun hp => { h'.shows hp with }) ?_
  intro event hkind hseq
  refine .ready ⟨rfl, ?_, fun hp => { h'.shows hp with }⟩ trivial
  rw [← List.append_assoc]
  refine h'.logged.start
    (a := ⟨⟨attempt, none, false⟩, some resultSlot, some connectionSlot, false⟩)
    hseq hkind (SessionState.stage_idle hattempt hconnection hterminated) hnew ?_ rfl rfl
  exact { h'.logged.sound with
    exclusive := .inr hconnection
    ended := fun hended => by rw [hterminated] at hended; cases hended
    attempt := fun a ha => by
      cases ha
      exact ⟨⟨rfl, rfl⟩, rfl⟩ }

theorem attemptFailedWithDiagnostic_keeps (cycleId attemptId : Nat) (failure : ConnectionFailure)
    (retry : AttemptRetry) (diagnostic : Option HandshakeDiagnostic) : Keeps p s log (fun _ => True)
      (c.attemptFailedWithDiagnostic env cycleId attemptId failure retry diagnostic t) := by
  unfold attemptFailedWithDiagnostic
  split
  swap
  · exact .refused h
  rename_i hattempting
  split
  · exact .refused h
  rename_i active hactive
  split
  · exact .refused h
  obtain ⟨⟨hslot, -⟩, -⟩ := h.logged.sound.attempt active hactive
  obtain ⟨lease, hlease⟩ := Option.isSome_iff_exists.mp hslot
  simp only [hlease]
  refine keeps_publish c env (.inl rfl) (h.logged.sound.result_none hattempting.1)
    (fun hp => { h.shows hp with }) ?_
  intro event hkind hseq
  have hlogged := h.logged.failAttempt hactive hattempting.1 hseq (by rw [hkind]; rfl)
  rw [List.append_assoc] at hlogged
  cases retry with
  | stop => exact .ready {
      failed := rfl
      logged := { hlogged with sound := { hlogged.sound with } }
      shows := fun hp => { h.shows hp with } } trivial
  | scheduled after =>
    apply announce_keeps
    · exact {
        failed := rfl
        logged := { hlogged with sound := { hlogged.sound with } }
        shows := fun hp => { h.shows hp with } }
    · exact fun hp => (h.shows hp).open_ hattempting.2.1
    · exact fun _ => trivial

theorem commitEstablished_keeps (cycleId attemptId : Nat) :
    Keeps p s log (fun _ => True) (c.commitEstablished env cycleId attemptId t) := by
  unfold commitEstablished
  split
  swap
  · exact .refused h
  rename_i hattempting
  split
  · exact .refused h
  rename_i active hactive
  split
  swap
  · exact .refused h
  obtain ⟨⟨hslot, hconnectionSlot⟩, hlastKey⟩ := h.logged.sound.attempt active hactive
  obtain ⟨lease, hlease⟩ := Option.isSome_iff_exists.mp hslot
  simp only [hlease]
  refine keeps_publish c env (.inl rfl) (h.logged.sound.result_none hattempting.1)
    (fun hp => { h.shows hp with }) ?_
  intro event hkind hseq
  refine .ready ⟨rfl, ?_, fun hp =>
    (h.shows hp).progress ((h.shows hp).open_ hattempting.2.1) rfl rfl rfl⟩ trivial
  change Logged (log ++ (t.publication.events ++ [event])) _
  rw [← List.append_assoc]
  refine h.logged.record hseq ?_ ?_ ?_ rfl rfl
  · rw [SessionState.stage_attempt hactive, hkind]
    exact if_pos rfl
  · simp [startedKeys, entries, hkind, ConnectionEventKind.entry]
  · exact { h.logged.sound with
      exclusive := .inl rfl
      ended := fun hended => by
        have hopen := hattempting.1
        rw [show t.state.terminated from hended] at hopen
        cases hopen
      attempt := nofun
      connection := fun connection hc => by
        cases hc
        exact hconnectionSlot }

/-! ## The end of a connection -/

section

variable (reason : TerminationReason) (failure : Option ConnectionFailure)
  (details : ConnectionTerminationDetails)

/-- `disconnect` is the one call that does not look at the flag. -/
theorem disconnect_keeps (nextCycle : Option Nat) (hopen : t.state.terminated = false)
    (hpermitted : p → ∀ next active, nextCycle = some next → t.state.connection = some active →
      s.closing → next ≤ active.info.cycleId) :
    Keeps p s log (fun t' => t'.state.terminated = false ∧ t'.state.connection = none ∧
      t'.state.attempt = t.state.attempt)
      (c.disconnect env reason failure details nextCycle t) := by
  unfold disconnect
  split
  · exact .refused h
  rename_i active hactive
  split
  · exact .refused h
  rename_i hlater
  obtain ⟨lease, hlease⟩ := Option.isSome_iff_exists.mp (h.logged.sound.connection active hactive)
  simp only [hlease]
  refine keeps_publish c env (.inr rfl) (h.logged.sound.result_none hopen)
    (fun hp => { h.shows hp with }) ?_
  intro event hkind hseq
  have hlogged := h.logged.endConnection hactive hopen hseq (by rw [hkind]; rfl)
  rw [List.append_assoc] at hlogged
  cases nextCycle with
  | some next =>
    apply announce_keeps
    · exact {
        failed := rfl
        logged := { hlogged with sound := { hlogged.sound with } }
        shows := fun hp => { h.shows hp with } }
    · intro hp
      by_contra hclosing
      rw [Bool.not_eq_false] at hclosing
      exact hlater (by simpa using hpermitted hp next active rfl hactive hclosing)
    · exact fun _ => ⟨hopen, rfl, rfl⟩
  | none => exact .ready {
      failed := rfl
      logged := { hlogged with sound := { hlogged.sound with } }
      shows := fun hp => (h.shows hp).finish rfl rfl rfl rfl } ⟨hopen, rfl, rfl⟩

theorem endAttempt_keeps (hopen : t.state.terminated = false) :
    Keeps p s log (fun t' => t'.state.terminated = false ∧ t'.state.attempt = none)
      (c.endAttempt env reason failure details t) := by
  unfold endAttempt
  split
  · rename_i hnone
    exact .ready h ⟨hopen, hnone⟩
  rename_i active hactive
  obtain ⟨⟨hslot, -⟩, -⟩ := h.logged.sound.attempt active hactive
  obtain ⟨lease, hlease⟩ := Option.isSome_iff_exists.mp hslot
  simp only [hlease]
  rw [← andThen_pure (c.publish _ _ _ _)]
  refine keeps_publish c env (.inl rfl) (h.logged.sound.result_none hopen)
    (fun hp => { h.shows hp with }) ?_
  intro event hkind hseq
  have hlogged := h.logged.failAttempt hactive hopen hseq (by rw [hkind]; rfl)
  rw [List.append_assoc] at hlogged
  exact .ready ⟨rfl, hlogged, fun hp => { h.shows hp with }⟩ ⟨hopen, rfl⟩

theorem endConnection_keeps (hopen : t.state.terminated = false) :
    Keeps p s log (fun t' => t'.state.terminated = false ∧ t'.state.connection = none ∧
      t'.state.attempt = t.state.attempt) (c.endConnection env reason failure details t) := by
  unfold endConnection
  split
  · exact disconnect_keeps c env h reason failure details none hopen fun _ _ _ hnext => by
      cases hnext
  · rename_i hnone
    exact .ready h ⟨hopen, by simpa using hnone, rfl⟩

theorem closeSession_keeps (hopen : t.state.terminated = false)
    (hattempt : t.state.attempt = none) (hconnection : t.state.connection = none) :
    Keeps p s log (fun _ => True) (c.closeSession env reason failure details t) := by
  unfold closeSession
  obtain ⟨lease, hlease⟩ := Option.isSome_iff_exists.mp (h.logged.sound.slot hopen)
  simp only [hlease]
  refine keeps_publish c env (.inl hattempt) (h.logged.sound.result_none hopen)
    (fun hp => { h.shows hp with }) ?_
  intro event hkind hseq
  refine .ready ⟨rfl, ?_, fun hp => (h.shows hp).finish rfl rfl rfl rfl⟩ trivial
  change Logged (log ++ (t.publication.events ++ [event])) _
  rw [← List.append_assoc]
  refine h.logged.record hseq ?_ ?_ ?_ rfl rfl
  · rw [SessionState.stage_idle hattempt hconnection hopen, hkind]
    refine congrArg some (SessionState.stage_closed ?_ ?_ rfl).symm
    · exact hattempt
    · exact hconnection
  · simp [startedKeys, entries, hkind, ConnectionEventKind.entry]
  · exact { h.logged.sound with
      ended := fun _ => ⟨hattempt, hconnection⟩
      slot := nofun
      result := rfl }

theorem terminateWithDetails_keeps :
    Keeps p s log (fun _ => True) (c.terminateWithDetails env reason failure details t) := by
  unfold terminateWithDetails
  split
  · split
    · exact .refused h
    · exact .ready h trivial
  rename_i hopen
  rw [Bool.not_eq_true] at hopen
  refine (endAttempt_keeps c env h reason failure details hopen).andThen fun t₁ h₁ hended => ?_
  refine (endConnection_keeps c env h₁ reason failure details hended.1).andThen
    fun t₂ h₂ ⟨hopen₂, hconnection₂, hattempt₂⟩ => ?_
  exact closeSession_keeps c env h₂ reason failure details hopen₂ (hattempt₂.trans hended.2)
    hconnection₂

end

end Calls

/-! ## The whole call -/

variable {s : SessionRun}

/-- A publication has failed; the session has ended with its error. -/
structure Faulted (s : SessionState) : Prop where
  terminated : s.terminated
  delivery : s.deliveryError ≠ none
  result : s.terminalResult ≠ none
  exclusive : s.attempt = none ∨ s.connection = none

/-- The state belongs to the journal until a publication fails. -/
def Inv (s : SessionRun) : Prop := Logged s.log s.state ∨ Faulted s.state

theorem prepareSnapshot_state (t : Transaction) : ∃ snapshot stateFailed,
    (prepareSnapshot env t).1 = { t.state with snapshot, stateFailed } := by
  unfold prepareSnapshot
  split
  · exact ⟨_, _, rfl⟩
  split
  · exact ⟨_, _, rfl⟩
  simp only
  split
  · exact ⟨_, _, rfl⟩
  split
  · exact ⟨_, _, rfl⟩
  · exact ⟨_, _, rfl⟩

theorem failPublication_faulted {error : NetError} (hresult : t.state.terminalResult = none)
    (hexclusive : t.state.attempt = none ∨ t.state.connection = none) :
    Faulted (failPublication (.error error) t).state := by
  unfold failPublication
  simp only [hresult, Option.map_some, Option.none_or, Option.some_or]
  constructor
  case terminated => rfl
  case delivery => simp
  case result => simp
  case exclusive =>
    rcases hexclusive with hnone | hnone
    · left
      simp [hnone]
    · right
      simp [hnone]

theorem mutate_keeps {cancelRequested : Bool}
    (h : Keeps p s.state s.log q (operation { state := s.state })) :
    Inv (mutate env operation { s with cancelRequested }) := by
  unfold mutate
  dsimp only
  generalize operation { state := s.state } = r at h ⊢
  have hkept {t : Transaction} (h : Ready p s.state s.log t) :
      Logged (s.log ++ t.publication.events) (prepareSnapshot env t).1 := by
    have hlogged := h.logged
    obtain ⟨snapshot, stateFailed, heq⟩ := prepareSnapshot_state env t
    rw [heq]
    exact { hlogged with sound := { hlogged.sound with } }
  cases h with
  | ready h | refused h =>
    simp only [h.failed, Bool.false_eq_true, if_false]
    exact .inl (hkept h)
  | @failed error t hfailed hresult hexclusive hshows =>
    have hfault : Faulted (failPublication (.error error) t).state :=
      failPublication_faulted hresult hexclusive
    obtain ⟨snapshot, stateFailed, heq⟩ :=
      prepareSnapshot_state env (failPublication (.error error) t)
    simp only [hfailed, if_true]
    rw [heq]
    exact .inr { hfault with }

theorem mutate_same (h : (operation { state := s.state }).2 = { state := s.state }) :
    (mutate env operation s).state = s.state ∧ (mutate env operation s).log = s.log ∧
      (mutate env operation s).snapshots = s.snapshots := by
  unfold mutate
  generalize operation { state := s.state } = r at h ⊢
  obtain ⟨result, t⟩ := r
  obtain rfl : t = { state := s.state } := h
  simp [prepareSnapshot]

/-- **A terminated session ignores every call.** -/
theorem step_frozen (hended : s.state.terminated) (call : Answers × SessionAction) :
    (c.step s call).state = s.state ∧ (c.step s call).log = s.log ∧
      (c.step s call).snapshots = s.snapshots := by
  have hnot (cycleId attemptId : Nat) : ¬ Attempting s.state cycleId attemptId := by
    rintro ⟨hopen, -⟩
    rw [hended] at hopen
    cases hopen
  have hstill (cycle : Nat) : ¬ Progresses s.state cycle := by
    rintro ⟨hopen, -⟩
    rw [hended] at hopen
    cases hopen
  obtain ⟨env, action⟩ := call
  cases action with
  | beginCycle cycle reconnecting => exact mutate_same env (by simp [beginCycle, hended, refuse])
  | waitingForNetwork cycle => exact mutate_same env (by simp [waitingForNetwork, hstill, refuse])
  | preparingAttempt cycle nextAttemptAt =>
    exact mutate_same env (by simp [preparingAttempt, hstill, refuse])
  | beginClosing => exact mutate_same env (by simp [beginClosing, hended])
  | beginAttempt attempt reservation =>
    simp only [step]
    split
    · exact ⟨rfl, rfl, rfl⟩
    · exact mutate_same env (by simp [beginAttempt, hended, refuse])
  | setAttemptCredentialVersion cycleId attemptId credentialVersion =>
    simp [step, update, setAttemptCredentialVersion, hnot]
  | attemptFailedWithDiagnostic cycleId attemptId failure retry diagnostic =>
    exact mutate_same env (by simp [attemptFailedWithDiagnostic, hnot, refuse])
  | prepareEstablished cycleId attemptId => simp [step, update, prepareEstablished, hnot]
  | commitEstablished cycleId attemptId =>
    exact mutate_same env (by simp [commitEstablished, hnot, refuse])
  | connectionTerminatedWithDetails reason failure details nextCycle =>
    exact mutate_same env (by simp [connectionTerminatedWithDetails, hended, refuse])
  | terminateWithDetails reason failure details =>
    have hsame : (c.terminateWithDetails env reason failure details { state := s.state }).2 =
        { state := s.state } := by
      unfold terminateWithDetails
      rw [if_pos hended]
      split <;> rfl
    exact mutate_same (s := { s with cancelRequested := true }) env hsame
  | requestCancel => exact ⟨rfl, rfl, rfl⟩

variable {state state' : SessionState}

theorem logged_context {active active' : ActiveAttempt} {lastAttempt : Option AttemptContext}
    (h : Logged log state) (hactive : state.attempt = some active)
    (hkey : active'.key = active.key) (hprovided : active'.Provided ↔ active.Provided)
    (hlast : lastAttempt.map (fun last => last.attempt.key) = state.lastKey) :
    Logged log { state with attempt := some active', lastAttempt } := by
  obtain ⟨hslots, hlastKey⟩ := h.sound.attempt active hactive
  refine { h with
    sound := { h.sound with
      exclusive := .inr (h.sound.connection_none hactive)
      ended := fun hended => ?_
      attempt := fun a ha => ?_ }
    stage := ?_
    latest := fun k hk => ?_ }
  · have hnone := (h.sound.ended hended).1
    rw [hactive] at hnone
    cases hnone
  · cases ha
    exact ⟨hprovided.mpr hslots, hlast.trans (hkey ▸ hlastKey)⟩
  · rw [h.stage, SessionState.stage_attempt hactive, ← hkey]
    rfl
  · obtain ⟨k', hk', hle⟩ := h.latest k hk
    exact ⟨k', hlast.trans hk', hle⟩

/-- A transaction, or a change of the state that is not shown. -/
inductive Stepped (p : Prop) (s : SessionRun) : SessionRun → Prop where
  | mutated (env : Answers) (cancelRequested : Bool)
    {operation : Transaction → Except NetError Unit × Transaction}
    (h : Keeps p s.state s.log (fun _ => True) (operation { state := s.state })) :
    Stepped p s (mutate env operation { s with cancelRequested })
  | updated (state : SessionState) (cancelRequested : Bool) (h : Logged s.log state)
    (hsnapshot : state.snapshot = s.state.snapshot) (hclosing : state.closing = s.state.closing) :
    Stepped p s { s with state, cancelRequested }

theorem setAttemptCredentialVersion_stepped (h : Logged s.log s.state)
    {credentialVersion : Option String} :
    Stepped p s (update (setAttemptCredentialVersion cycleId attemptId credentialVersion) s) := by
  unfold update setAttemptCredentialVersion
  split
  · rename_i heq
    split at heq
    swap
    · cases heq
    split at heq
    · cases heq
    rename_i active hactive
    split at heq
    · cases heq
    cases heq
    refine .updated _ _ (logged_context h hactive ?_ ?_ ?_) rfl rfl
    · rfl
    · exact Iff.rfl
    · exact (h.sound.attempt active hactive).2.symm
  · exact .updated _ _ h rfl rfl

theorem prepareEstablished_stepped (h : Logged s.log s.state) {cancelRequested : Bool} :
    Stepped p s (update (prepareEstablished cancelRequested cycleId attemptId) s) := by
  unfold update prepareEstablished
  split
  · rename_i heq
    split at heq
    swap
    · cases heq
    split at heq
    · cases heq
    split at heq
    · cases heq
    rename_i active hactive
    split at heq
    · cases heq
    cases heq
    refine .updated _ _ (logged_context h hactive ?_ ?_ rfl) rfl rfl
    · rfl
    · exact Iff.rfl
  · exact .updated _ _ h rfl rfl

/-- No end with a next cycle is reported while the session closes. -/
def Permitted (s : SessionState) : SessionAction → Prop
  | .connectionTerminatedWithDetails _ _ _ (some next) =>
    ∀ active, s.connection = some active → s.terminated = false → s.closing →
      next ≤ active.info.cycleId
  | _ => True

theorem step_stepped (call : Answers × SessionAction) (h : Logged s.log s.state) :
    Stepped (Permitted s.state call.2) s (c.step s call) := by
  obtain ⟨env, action⟩ := call
  have hstart {p : Prop} : Ready p s.state s.log { state := s.state } :=
    ⟨rfl, (List.append_nil s.log).symm ▸ h, fun _ => shows_start⟩
  cases action with
  | beginCycle cycle reconnecting => exact .mutated env _ (beginCycle_keeps hstart _ _)
  | waitingForNetwork cycle => exact .mutated env _ (waitingForNetwork_keeps hstart _)
  | preparingAttempt cycle nextAttemptAt =>
    exact .mutated env _ (preparingAttempt_keeps hstart _ _)
  | beginClosing => exact .mutated env _ (beginClosing_keeps hstart)
  | beginAttempt attempt reservation =>
    simp only [step]
    split
    · exact .updated _ _ h rfl rfl
    · exact .mutated env _ (beginAttempt_keeps c env hstart _ _ _ _ _ _)
  | setAttemptCredentialVersion cycleId attemptId credentialVersion =>
    exact setAttemptCredentialVersion_stepped h
  | attemptFailedWithDiagnostic cycleId attemptId failure retry diagnostic =>
    exact .mutated env _ (attemptFailedWithDiagnostic_keeps c env hstart _ _ _ _ _)
  | prepareEstablished cycleId attemptId => exact prepareEstablished_stepped h
  | commitEstablished cycleId attemptId =>
    exact .mutated env _ (commitEstablished_keeps c env hstart _ _)
  | connectionTerminatedWithDetails reason failure details nextCycle =>
    simp only [step]
    refine .mutated env s.cancelRequested ?_
    unfold connectionTerminatedWithDetails
    split
    · exact .refused hstart
    rename_i hopen
    rw [Bool.not_eq_true] at hopen
    rw [← andThen_pure (c.disconnect _ _ _ _ _ _)]
    refine (disconnect_keeps c env hstart reason failure details nextCycle hopen ?_).andThen
      fun t h _ => .ready h trivial
    intro hpermitted next active hnext hactive hclosing
    subst hnext
    exact hpermitted active hactive hopen hclosing
  | terminateWithDetails reason failure details =>
    exact .mutated env _ (terminateWithDetails_keeps c env hstart _ _ _)
  | requestCancel => exact .updated _ _ h rfl rfl

theorem inv_new : Inv c.new := by
  left
  exact {
    sound := {
      exclusive := .inl rfl
      ended := nofun
      attempt := nofun
      connection := nofun
      slot := fun _ => rfl
      result := rfl
      delivered := rfl }
    sequence := rfl
    last := rfl
    stage := rfl
    increasing := .nil
    latest := nofun }

theorem step_inv (call : Answers × SessionAction) (h : Inv s) : Inv (c.step s call) := by
  rcases h with h | h
  · have hstep := c.step_stepped call h
    generalize c.step s call = s' at hstep ⊢
    cases hstep with
    | mutated env cancelRequested h => exact mutate_keeps env h
    | updated state cancelRequested h => exact .inl h
  · right
    rw [(c.step_frozen h.terminated call).1]
    exact h

theorem inv_run (calls : List (Answers × SessionAction)) : Inv (c.run calls) :=
  Machine.run_invariant (fun _ call h => c.step_inv call h) calls c.inv_new

theorem run_append (calls more : List (Answers × SessionAction)) :
    c.run (calls ++ more) = Machine.run c.step (c.run calls) more :=
  Machine.run_append c.step c.new calls more

theorem run_frozen {s : SessionRun} (hended : s.state.terminated)
    (calls : List (Answers × SessionAction)) : (Machine.run c.step s calls).state = s.state := by
  induction calls generalizing s with
  | nil => rfl
  | cons call calls ih =>
    have hstep := (c.step_frozen hended call).1
    rw [Machine.run_cons, ih (by rw [hstep]; exact hended), hstep]

theorem terminated_of_result {r : Except NetError SessionEnd} (h : Inv s)
    (hresult : s.state.terminalResult = some r) : s.state.terminated := by
  rcases h with h | h
  · rw [← h.sound.result, hresult]
    rfl
  · exact h.terminated

/-- **The grammar of the journal.** Unless a publication has failed, the events are numbered from 1
and made of rounds, the last one as far as the state shows; a terminated session has complete rounds
and `Closed`. The keys of attempts increase, an attempt and a connection are never active together,
and a terminal result stays. -/
theorem event_log_grammar (calls : List (Answers × SessionAction))
    (hdelivered : (c.run calls).state.deliveryError = none) :
    (c.run calls).log.map (·.sequence) = (List.range (c.run calls).log.length).map (· + 1) ∧
    (∃ rounds, RoundEntry.Rounds rounds ∧
      entries (c.run calls).log = rounds ++ (c.run calls).state.stage.unfinished) ∧
    ((c.run calls).state.terminated = true → ∃ rounds, RoundEntry.Rounds rounds ∧
      entries (c.run calls).log = rounds ++ [.closed]) ∧
    (startedKeys (c.run calls).log).Pairwise (fun k k' => toLex k < toLex k') ∧
    ((c.run calls).state.attempt = none ∨ (c.run calls).state.connection = none) ∧
    ∀ r more, (c.run calls).state.terminalResult = some r →
      (c.run (calls ++ more)).state.terminalResult = some r := by
  have hinv := c.inv_run calls
  have hlogged : Logged (c.run calls).log (c.run calls).state := by
    rcases hinv with h | h
    · exact h
    · exact absurd hdelivered h.delivery
  have hrounds := RoundEntry.rounds_of_after hlogged.stage
  refine ⟨hlogged.sequence, hrounds, ?_, hlogged.increasing, hlogged.sound.exclusive, ?_⟩
  · intro hended
    obtain ⟨hattempt, hconnection⟩ := hlogged.sound.ended hended
    rw [SessionState.stage_closed hattempt hconnection hended] at hrounds
    exact hrounds
  · intro r more hresult
    rw [run_append, run_frozen c (terminated_of_result hinv hresult)]
    exact hresult

def calm : Answers where
  now := 0
  size _ := .ok 100
  journal _ := .ok ()
  journalActive _ := true
  statePublisher := .ok ()

def journaled : ConnectionSession where
  clientInstanceId := 1
  sessionId := 2
  metadata := 3
  identity := 4
  journal := true

def attemptIn (cycleId attemptId : Nat) : SessionAction :=
  .beginAttempt ⟨1, 2, cycleId, attemptId, 3⟩ ⟨4, .observed 3 (3 * maxConnectionEventBytes)⟩

/-- An attempt fails, the next connects, and its end is followed by another when the session closes.
-/
def reconnectingCalls : List (Answers × SessionAction) :=
  [.beginCycle 1 false, attemptIn 1 1,
    .attemptFailedWithDiagnostic 1 1 ⟨NetError.new .io⟩ (.scheduled 5) none, attemptIn 1 2,
    .setAttemptCredentialVersion 1 2 none, .prepareEstablished 1 2, .commitEstablished 1 2,
    .connectionTerminatedWithDetails .ioFailure none {} (some 2), attemptIn 2 1,
    .terminateWithDetails .localClose none {}].map fun action => (calm, action)

theorem event_log_grammar_reconnecting :
    (journaled.run reconnectingCalls).state.deliveryError = none ∧
    (journaled.run reconnectingCalls).state.terminated = true ∧ ∃ rounds, RoundEntry.Rounds rounds ∧
      entries (journaled.run reconnectingCalls).log = rounds ++ [.closed] :=
  ⟨by decide +kernel, by decide +kernel,
    (event_log_grammar journaled reconnectingCalls (by decide +kernel)).2.2.1 (by decide +kernel)⟩

end ConnectionSession

end OpenNet.Ws
