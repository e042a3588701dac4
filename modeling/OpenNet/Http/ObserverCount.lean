import OpenNet.Http.ObserverLease

/-!
# The attempts that a retry observer is told of

`Completed` carries a report.  The loop's own report counts its attempts; what is notified in the
end may be a copy that the job, the callback owner or a middleware lease has loaded, changed and
published.
-/

namespace OpenNet.Http

open RetryLoop (Mode LoopAction isOver Shape Added step_added)

theorem Amendment.apply_attempts (attempts : Nat) (report : RetryReport) (amendment : Amendment) :
    (amendment.apply attempts report).attempts = report.attempts ∨
      ((∃ reading, amendment = .recounted reading) ∧
        (amendment.apply attempts report).attempts = attempts) := by
  cases amendment with
  | stopped reason => exact .inl rfl
  | orStopped reason =>
    refine .inl ?_
    unfold Amendment.apply
    dsimp only
    split <;> rfl
  | atLeast | sampled => exact .inl rfl
  | recounted reading => exact .inr ⟨⟨reading, rfl⟩, rfl⟩

/-- What the loop's thread relies on: attempt recorded, report there, both loaded. -/
inductive Fact where
  | stored | set | loaded | counted

namespace Op

def needs : Op → List Fact
  | .loadReport => [.set]
  | .loadAttempt => [.stored]
  | .amend (.recounted _) => [.counted]
  | .emitPending => [.loaded]
  | _ => []

def gives : Op → List Fact
  | .storeAttempt _ => [.stored]
  | .setReport _ => [.set]
  | .loadReport => [.loaded]
  | .loadAttempt => [.counted]
  | _ => []

/-- The operation is right after `n` attempts; `ended`: the loop is over. -/
def Right (n : Nat) (ended : Bool) : Op → Prop
  | .storeAttempt k => k = n
  | .setReport report => report.attempts = n ∧ ended
  | .publishReport => ended
  | _ => True

/-- The operation of a lease makes its report that of the request. -/
def records : Op → Bool
  | .publishReport | .finish (some _) => true
  | _ => false

attribute [simp] needs gives Right records

end Op

namespace Observation

/-- The thread finds what it relies on, and leaves attempt and end recorded. -/
def Safe (n : Nat) (ended : Bool) : (Fact → Prop) → List Op → Prop
  | K, [] => K .stored ∧ (ended → K .set)
  | K, op :: rest => op.Right n ended ∧ (∀ f ∈ op.needs, K f) ∧
    Safe n ended (fun f => K f ∨ f ∈ op.gives) rest

section Safe

variable {n : Nat} {ended : Bool} {K K' : Fact → Prop} {ops : List Op}

theorem Safe.mono (hK : ∀ f, K f → K' f) (h : Safe n ended K ops) : Safe n ended K' ops := by
  induction ops generalizing K K' with
  | nil => exact ⟨hK _ h.1, fun hended => hK _ (h.2 hended)⟩
  | cons op rest ih =>
    exact ⟨h.1, fun f hf => hK f (h.2.1 f hf), ih (fun f hf => hf.imp_left (hK f)) h.2.2⟩

theorem Safe.notify (h : Safe n ended K ops) (events : List RetryEvent) :
    Safe n ended K (events.map Op.notify ++ ops) := by
  induction events with
  | nil => exact h
  | cons event rest ih => exact ⟨trivial, by simp, ih.mono fun _ => .inl⟩

theorem Closing.safe (h : Closing ops) (hends : ops ≠ [] → ended) (hstored : K .stored)
    (hset : ended → K .set) : Safe n ended K ops := by
  cases h with
  | nothing => exact ⟨hstored, hset⟩
  | failure reading e =>
    have hended := hends (by simp [failureOps])
    simp [failureOps, Safe, hended, hstored, hset hended]

theorem Settling.safe (h : Settling ops) (hended : ended) (hstored : K .stored)
    (hset : K .set) : Safe n ended K ops := by
  cases h with
  | callback cancelled =>
    cases cancelled <;> simp [callbackOps, Safe, hended, hstored, hset]
  | release => simp [releaseOps, Safe, hstored, hset]

theorem added_safe {l m : RetryLoop} {added : List LifecycleCall} (h : Added l m added)
    (hstored : m.state.attempts = l.state.attempts → K .stored) (hset : isOver l.stage → K .set)
    (hops : ∀ K' : Fact → Prop, K' .stored → (isOver m.stage → K' .set) →
      Safe m.state.attempts (isOver m.stage) K' ops) :
    Safe m.state.attempts (isOver m.stage) K (added.flatMap callOps ++ ops) := by
  cases h with
  | nothing hover hattempts => exact hops K (hstored hattempts) fun h => hset (hover ▸ h)
  | started hover hready hattempts =>
    exact ⟨trivial, by simp, hattempts.symm, by simp, hops _ (by simp) (by simp [hover])⟩
  | scheduled delay hover hrunning hattempts =>
    exact ⟨trivial, by simp, trivial, by simp,
      hops _ (by simp [hstored hattempts]) (by simp [hover])⟩
  | ended current report hlive hover hattempts hreport h =>
    exact ⟨⟨hreport, hover⟩, by simp, trivial, by simp,
      hops _ (by simp [hstored hattempts]) (by simp)⟩
  | startEnded current report hready hover hattempts hreport h =>
    exact ⟨trivial, by simp, hattempts.symm, by simp, ⟨hreport, hover⟩, by simp, trivial, by simp,
      hops _ (by simp) (by simp)⟩

end Safe

/-- What is known of `n` attempts, by the request and its thread. -/
def Known (n attempt : Nat) (retryReport loaded : Option RetryReport) (attempts : Nat) :
    Fact → Prop
  | .stored => attempt = n
  | .set => retryReport.isSome
  | .loaded => loaded.isSome
  | .counted => attempts = n

def Knows (s : Observation) : Fact → Prop :=
  Known s.loop.state.attempts s.control.attempt s.control.retryReport s.transport.report
    s.transport.attempts

def Reported (s : Observation) : Prop :=
  s.Quiet ∨ (isOver s.loop.stage ∧ s.control.retryReport.isSome)

/-- The reports on their way count the attempts of the loop. -/
structure Counted (s : Observation) : Prop where
  program : Safe s.loop.state.attempts (isOver s.loop.stage) s.Knows s.transport.todo
  report : ∀ r, s.control.retryReport = some r → r.attempts = s.loop.state.attempts ∧ s.Fixed
  places : ∀ t ∈ s.places, t.report.attempts = s.loop.state.attempts
  final : ∀ r, s.completion.finalReport = some r → r.attempts = s.loop.state.attempts ∧ s.Fixed
  own : ∀ r, s.transport.report = some r → r.attempts = s.loop.state.attempts
  recorded : (∃ op ∈ s.lease.todo, op.records) →
    s.Reported ∧ ∀ r, s.lease.report = some r → r.attempts = s.loop.state.attempts
  leaseLoaded : ∀ o, .finish (some o) ∈ s.lease.todo →
    .loadReport ∈ s.lease.todo ∨ s.lease.report.isSome
  leaseAmend : ∀ reading, .amend (.recounted reading) ∉ s.lease.todo

theorem new_counted (route : Route) (random : UInt64) : Counted (new route random) where
  program := ⟨rfl, nofun⟩
  report r h := by cases h
  places t h := by cases h
  final r h := by cases h
  own r h := by cases h
  recorded h := by obtain ⟨op, hop, -⟩ := h; cases hop
  leaseLoaded o h := by cases h
  leaseAmend reading h := by cases h

variable {events : List RetryEvent} {control : RequestControl} {completion : CompletionState}
  {terminals : List TerminalObservation}

section Transport

variable {s : Observation} {route : Route} {op : Op} {rest : List Op}

/-- What an operation does to the reports and to what is known. -/
structure Counts (s : Observation) (op : Op) (attempt : Nat)
    (retryReport loaded : Option RetryReport) (attempts : Nat) : Prop where
  report : ∀ r, retryReport = some r → s.control.retryReport = some r ∨
    r.attempts = s.loop.state.attempts ∧ s.Fixed := by exact fun _ => .inl
  own : ∀ r, loaded = some r → s.transport.report = some r ∨
    r.attempts = s.loop.state.attempts := by exact fun _ => .inl
  known : ∀ f, s.Knows f ∨ f ∈ op.gives →
    Known s.loop.state.attempts attempt retryReport loaded attempts f := by
      exact fun _ hf => hf.resolve_right List.not_mem_nil

variable {attempt attempts : Nat} {retryReport report : Option RetryReport}
  {pendingObservation : Option TerminalObservation}

theorem Counted.pops (h : Counted s) (htodo : s.transport.todo = op :: rest) :
    op.Right s.loop.state.attempts (isOver s.loop.stage) ∧ (∀ f ∈ op.needs, s.Knows f) ∧
      Safe s.loop.state.attempts (isOver s.loop.stage) (fun f => s.Knows f ∨ f ∈ op.gives)
        rest := by
  have hprogram := h.program
  rwa [htodo] at hprogram

theorem Counted.transport_op (h : Counted s) (htodo : s.transport.todo = op :: rest)
    (notes : List RetryEvent) (hfinal : completion.finalReport = s.completion.finalReport)
    (hop : Counts s op attempt retryReport report attempts)
    (hplaces : ∀ t ∈ handOvers rest ++ pendingObservation.toList ++ completion.pending.toList ++
      terminals, t.report.attempts = s.loop.state.attempts) :
    Counted { s with
      events, completion, terminals
      control := { s.control with attempt, retryReport, pendingObservation }
      transport := { todo := notes.map Op.notify ++ rest, report, attempts } } :=
  { h with
    program := ((h.pops htodo).2.2.mono hop.known).notify notes
    report := fun r hr => (hop.report r hr).elim (h.report r) id
    places := by
      simp only [Observation.places, handOvers_append, handOvers_map_notify, List.nil_append]
      exact hplaces
    final := fun r hr => h.final r (hfinal ▸ hr)
    own := fun r hr => (hop.own r hr).elim (h.own r) id
    recorded := fun hrecords => (h.recorded hrecords).imp_left
      (·.imp_right fun ⟨hover, hsome⟩ => ⟨hover, hop.known .set (.inl hsome)⟩) }

theorem Counted.pop_transport (h : Counted s) (htodo : s.transport.todo = op :: rest)
    (hhanded : op.handed = none) (hop : Counts s op attempt retryReport report attempts) :
    Counted { s with
      events, control := { s.control with attempt, retryReport }
      transport := { todo := rest, report, attempts } } :=
  h.transport_op htodo [] rfl hop (handOvers_pop htodo hhanded ▸ h.places)

theorem Counted.plain (h : Counted s) (htodo : s.transport.todo = op :: rest)
    (hplain : op.plain) : Counted (s.runs route op rest) := by
  obtain ⟨hright, hneeds, -⟩ := h.pops htodo
  cases op with
  | notify event => exact h.pop_transport htodo rfl {}
  | storeAttempt k =>
    refine h.pop_transport htodo rfl { known := fun f hf => ?_ }
    cases f with
    | stored => exact hright
    | _ => simpa [Knows, Known] using hf
  | setReport r =>
    refine h.pop_transport htodo rfl { report := ?_, known := fun f hf => ?_ }
    · rintro _ ⟨rfl⟩
      exact .inr ⟨hright.1, .inr hright.2⟩
    · cases f with
      | set => rfl
      | _ => simpa [Knows, Known] using hf
  | loadReport =>
    obtain ⟨r, hr⟩ := Option.isSome_iff_exists.mp (hneeds .set (by simp))
    refine h.pop_transport htodo rfl { own := ?_, known := fun f hf => ?_ }
    · rintro _ ⟨rfl⟩
      rw [hr]
      exact .inr (h.report r hr).1
    · cases f with
      | loaded => rfl
      | _ => simpa [Knows, Known] using hf
  | loadAttempt =>
    refine h.pop_transport htodo rfl { known := fun f hf => ?_ }
    cases f with
    | counted => exact hneeds .stored (by simp)
    | _ => simpa [Knows, Known] using hf
  | amend amendment =>
    refine h.pop_transport htodo rfl { own := ?_, known := fun f hf => ?_ }
    · intro changed hchanged
      right
      obtain ⟨r, hr : s.transport.report = some r, rfl⟩ := Option.map_eq_some_iff.mp hchanged
      obtain hsame | ⟨⟨reading, rfl⟩, hcount⟩ :=
        amendment.apply_attempts s.transport.attempts r
      · exact hsame.trans (h.own r hr)
      · exact hcount.trans (hneeds .counted (by simp))
    · cases f <;> simpa [Knows, Known] using hf
  | publishReport =>
    simp only [Observation.runs, exec]
    split
    · exact h.pop_transport htodo rfl {}
    · rename_i r hreport
      refine h.pop_transport htodo rfl { report := ?_, known := fun f hf => ?_ }
      · rintro _ ⟨rfl⟩
        exact .inr ⟨h.own r hreport, .inr hright⟩
      · cases f with
        | set => rfl
        | _ => simpa [Knows, Known] using hf
  | handOver | finish | emitPending => cases hplain

/-- A report that the completion settled counts the attempts when the one it got did. -/
theorem settle_counted {c : CompletionState} {n : Nat} {report : RetryReport}
    (hfinal : ∀ r, c.finalReport = some r → r.attempts = n ∧ s.Fixed)
    (hreport : report.attempts = n) : (c.settle report).attempts = n := by
  rw [CompletionState.settle_attempts]
  cases hr : c.finalReport with
  | none => exact hreport
  | some r => exact (hfinal r hr).1

theorem Counted.runs (hs : Coherent s) (hq : ∀ mode, route = .middleware mode → Queued s)
    (h : Counted s) (htodo : s.transport.todo = op :: rest) : Counted (s.runs route op rest) := by
  by_cases hplain : op.plain
  · exact h.plain htodo hplain
  cases op with
  | handOver t =>
    have hold : ∀ u, u = t ∨ u ∈ handOvers rest ∨ u ∈ s.control.pendingObservation.toList ∨
        u ∈ s.completion.pending.toList ∨ u ∈ s.terminals →
        u.report.attempts = s.loop.state.attempts := fun u hu => by
      refine h.places u ?_
      rw [Observation.places, htodo]
      change u ∈ t :: handOvers rest ++ _ ++ _ ++ _
      simpa only [List.mem_cons, List.mem_append, or_assoc] using hu
    cases route with
    | stream =>
      refine h.transport_op htodo _ rfl {} fun u hu => hold u ?_
      simp only [List.mem_append, List.mem_singleton] at hu
      tauto
    | buffered =>
      refine h.transport_op htodo [] rfl {} fun u hu => hold u ?_
      simp only [Option.toList_some, List.mem_append, List.mem_singleton] at hu
      tauto
    | middleware mode =>
      simp only [Observation.runs, exec]
      obtain ⟨-, heq⟩ | ⟨-, -, ⟨-, heq⟩ | ⟨-, heq⟩⟩ :=
        s.completion.queue_cases (hq mode rfl).waiting t
      · simp only [heq, emit]
        refine h.transport_op htodo [] rfl {} fun u hu => hold u ?_
        simp only [List.mem_append] at hu
        tauto
      · simp only [heq, emit]
        refine h.transport_op htodo [] rfl {} fun u hu => hold u ?_
        simp only [Option.toList_some, List.mem_append, List.mem_singleton] at hu
        tauto
      · simp only [heq, emit]
        refine h.transport_op htodo _ rfl {} fun u hu => ?_
        simp only [Option.toList_none, List.append_nil, List.mem_append, List.mem_singleton] at hu
        obtain (hu | hu) | hu | rfl := hu
        · exact hold u (.inr (.inl hu))
        · exact hold u (.inr (.inr (.inl hu)))
        · exact hold u (.inr (.inr (.inr (.inr hu))))
        · exact settle_counted h.final (hold t (.inl rfl))
  | emitPending =>
    cases hpending : s.control.pendingObservation with
    | none =>
      simp only [Observation.runs, exec, hpending]
      exact h.pop_transport htodo rfl {}
    | some t =>
      have hsome : s.transport.report.isSome := (h.pops htodo).2.1 .loaded (by simp)
      obtain ⟨r, hr⟩ := Option.isSome_iff_exists.mp hsome
      simp only [Observation.runs, exec, hpending, emit]
      refine h.transport_op htodo _ rfl {} fun u hu => ?_
      simp only [Option.toList_none, List.append_nil, List.mem_append, List.mem_singleton] at hu
      obtain (hu | hu) | hu | rfl := hu
      · exact h.places u (by simp [Observation.places, handOvers_tail htodo hu])
      · exact h.places u (by simp [Observation.places, hu])
      · exact h.places u (by simp [Observation.places, hu])
      · rw [hr]
        exact h.own r hr
  | finish outcome => exact absurd (hs.sorted.2 _ (mem_head htodo)) (by simp)
  | _ => exact absurd rfl hplain

end Transport

/-! ## The lease -/

variable {outcome : Option (Except NetError Nat)}

section Lease

variable {s : Observation} {mode : Mode} {op : Op} {rest : List Op}

theorem Counted.pop_lease (h : Counted s) (htodo : s.lease.todo = op :: rest)
    {retryReport report : Option RetryReport} {attempts : Nat}
    (hreport : ∀ r, retryReport = some r → r.attempts = s.loop.state.attempts ∧ s.Fixed)
    (hpublished : s.control.retryReport.isSome → retryReport.isSome)
    (hown : (∃ op ∈ s.lease.todo, op.records) →
      ∀ r, report = some r → r.attempts = s.loop.state.attempts)
    (hkept : s.lease.report.isSome → report.isSome)
    (hload : op = .loadReport → report.isSome) :
    Counted { s with
      events, control := { s.control with retryReport }
      lease := { todo := rest, report, attempts } } :=
  { h with
    program := h.program.mono fun f hf => by cases f <;> first | exact hpublished hf | exact hf
    report := hreport
    recorded := fun ⟨b, hb, hrecords⟩ =>
      have hb : ∃ op ∈ s.lease.todo, op.records := ⟨b, mem_tail htodo hb, hrecords⟩
      ⟨(h.recorded hb).1.imp_right fun ⟨hover, hsome⟩ => ⟨hover, hpublished hsome⟩, hown hb⟩
    leaseLoaded := fun o ho => by
      obtain hop | hsome := h.leaseLoaded o (mem_tail htodo ho)
      · exact (mem_popped htodo hop).elim (fun hop => .inr (hload hop)) .inl
      · exact .inr (hkept hsome)
    leaseAmend := fun reading hr => h.leaseAmend reading (mem_tail htodo hr) }

theorem Quiet.attempts (hs : Coherent s) (h : s.Quiet) : s.loop.state.attempts = 0 := by
  obtain ⟨current, hopen, -⟩ := hs.shape.attempts
  rw [h.1] at hopen
  exact hopen.of_nil.2

theorem Counted.loads (hs : Coherent s) (h : Counted s) (hreported : s.Reported) :
    (s.control.retryReport.getD {}).attempts = s.loop.state.attempts ∧ s.Fixed := by
  obtain hquiet | ⟨hover, hsome⟩ := hreported
  · refine ⟨?_, .inl hquiet⟩
    cases hreport : s.control.retryReport with
    | none => exact (hquiet.attempts hs).symm
    | some r => exact (h.report r hreport).1
  · refine ⟨?_, .inr hover⟩
    obtain ⟨r, hr⟩ := Option.isSome_iff_exists.mp hsome
    rw [hr]
    exact (h.report r hr).1

theorem Counted.finished_lease (h : Counted s) {lease : Thread}
    (hnotes : ∀ op ∈ lease.todo, op.rank = 0) (hfinal : ∀ r, completion.finalReport = some r →
      r.attempts = s.loop.state.attempts ∧ s.Fixed)
    (hplaces : ∀ t ∈ Observation.places { s with completion, lease, terminals },
      t.report.attempts = s.loop.state.attempts) :
    Counted { s with completion, lease, terminals } := by
  have hnone : ∀ {b : Op}, 0 < b.rank → b ∉ lease.todo := fun {b} hrank hb => by
    rw [hnotes b hb] at hrank
    cases hrank
  exact { h with
    places := hplaces
    final := hfinal
    recorded := fun ⟨b, hb, hrecords⟩ =>
      absurd hb (hnone (by cases b <;> first | exact Nat.succ_pos _ | cases hrecords))
    leaseLoaded := fun o ho => absurd ho (hnone (by simp))
    leaseAmend := fun reading => hnone (by simp) }

theorem Counted.finish_op (hs : Coherent s) (hq : Queued s) (h : Counted s)
    (htodo : s.lease.todo = .finish outcome :: rest) (route : Route) :
    Counted (s.leases route (.finish outcome) rest) := by
  have hmem := mem_head htodo
  obtain ⟨rfl, -, hcase⟩ := hq.finishes hs htodo route
  have hfinal : ∀ r, (s.completion.ended outcome (s.lease.report.getD {})).finalReport =
      some r → r.attempts = s.loop.state.attempts ∧ s.Fixed := by
    intro r hr
    cases outcome with
    | none => exact h.final r hr
    | some o =>
      obtain hload | hsome := h.leaseLoaded o hmem
      · rw [htodo, List.mem_singleton] at hload
        cases hload
      obtain ⟨loaded, hloaded⟩ := Option.isSome_iff_exists.mp hsome
      rw [hloaded] at hr
      cases hr
      obtain ⟨hreported, hown⟩ := h.recorded ⟨_, hmem, rfl⟩
      exact ⟨hown _ hloaded, (h.loads hs hreported).2⟩
  obtain ⟨t, u, hwhere, hu, -, -, heq⟩ | ⟨-, -, heq⟩ := hcase
  · rw [heq]
    refine h.finished_lease (fun _ => rank_notify) hfinal fun v hv => ?_
    simp only [Observation.places, Option.toList_none, List.append_nil, List.mem_append,
      List.mem_singleton] at hv
    obtain (hv | hv) | hv | rfl := hv
    · exact h.places v (by simp [Observation.places, hv])
    · exact h.places v (by simp [Observation.places, hv])
    · exact h.places v (by simp [Observation.places, hv])
    · rw [hu]
      refine settle_counted hfinal (hwhere.elim (fun hpending => ?_) id)
      exact h.places t (by simp [Observation.places, hpending])
  · rw [heq]
    exact h.finished_lease (fun b hb => by cases hb) hfinal h.places

theorem Counted.leases (hs : Coherent s) (hq : Queued s) (h : Counted s)
    (htodo : s.lease.todo = op :: rest) (route : Route) : Counted (s.leases route op rest) := by
  have hmem := mem_head htodo
  cases op with
  | notify | loadAttempt =>
    exact h.pop_lease htodo h.report id (h.recorded · |>.2) id fun h => by cases h
  | loadReport =>
    refine h.pop_lease htodo h.report id ?_ (fun _ => rfl) fun _ => rfl
    rintro hrecords _ ⟨rfl⟩
    exact (h.loads hs (h.recorded hrecords).1).1
  | amend amendment =>
    refine h.pop_lease htodo h.report id ?_ ?_ fun h => by cases h
    · intro hrecords changed hchanged
      obtain ⟨r, hr : s.lease.report = some r, rfl⟩ := Option.map_eq_some_iff.mp hchanged
      obtain hsame | ⟨⟨reading, rfl⟩, -⟩ := amendment.apply_attempts s.lease.attempts r
      · exact hsame.trans ((h.recorded hrecords).2 r hr)
      · exact absurd hmem (h.leaseAmend reading)
    · intro hsome
      change (s.lease.report.map _).isSome
      rwa [Option.isSome_map]
  | publishReport =>
    obtain ⟨hreported, hown⟩ := h.recorded ⟨_, hmem, rfl⟩
    simp only [Observation.leases, exec]
    split
    · exact h.pop_lease htodo h.report id (fun _ => hown) id fun h => by cases h
    · rename_i r hreport
      refine h.pop_lease htodo ?_ (fun _ => rfl) (fun _ => hown) id fun h => by cases h
      rintro _ ⟨rfl⟩
      exact ⟨hown r hreport, (h.loads hs hreported).2⟩
  | finish outcome => exact h.finish_op hs hq htodo route
  | storeAttempt | setReport | handOver | emitPending =>
    exact absurd (hq.leased _ hmem) (by simp)

end Lease

/-! ## Other steps -/

section Steps

variable {s : Observation} {req : RetryRequest} {route : Route} {mode : Mode} {a : LoopAction}

theorem Counted.flags (h : Counted s) {entered gone caught cancelled : Bool}
    (hstill : s.gone → gone)
    (hcancelled : s.control.cancelled → cancelled) :
    Counted { s with entered, gone, caught, control := { s.control with cancelled } } :=
  { h with
    report r hr := (h.report r hr).imp_right (·.of_eq rfl hstill hcancelled)
    final r hr := (h.final r hr).imp_right (·.of_eq rfl hstill hcancelled)
    recorded hrecords :=
      (h.recorded hrecords).imp_left (·.imp_left (·.of_eq rfl hstill hcancelled)) }

theorem Counted.advance (hs : Coherent s) (h : Counted s) (hentered : s.entered)
    (hidle : s.transport.todo = []) (hpasses : s.passes a) (req : RetryRequest)
    (route : Route) {tail : LoopStage → List Op} (htail : ∀ stage, Closing (tail stage))
    (hends : tail (s.loop.step req route.mode a).stage ≠ [] →
      isOver (s.loop.step req route.mode a).stage) : Counted (s.advance req route a tail) := by
  obtain ⟨added, ops, hops, htailops, -, hadded, haddedOps, heq⟩ :=
    advance_eq hs.shape req route a tail htail
  have hplaces := places_advanced hidle (s.loop.step req route.mode a) (added.flatMap callOps)
    hops.trailing
  have hfixed : s.Fixed → (s.loop.step req route.mode a).state.attempts = s.loop.state.attempts ∧
      ∀ transport, Fixed { s with loop := s.loop.step req route.mode a, transport } := fun hfixed =>
    (hfixed.step hs hentered hpasses req route.mode).2
  have hbefore := h.program
  rw [hidle] at hbefore
  have hends : ops ≠ [] → isOver (s.loop.step req route.mode a).stage := fun hne =>
    hends ((htailops.resolve_left hne) ▸ hne)
  rw [heq]
  exact { h with
    program := added_safe hadded (fun hsame => hbefore.1.trans hsame.symm) hbefore.2
      fun K' hstored hset => hops.safe hends hstored hset
    report := fun r hr => by
      obtain ⟨hcount, hfix⟩ := h.report r hr
      exact ⟨hcount.trans (hfixed hfix).1.symm, (hfixed hfix).2 _⟩
    places := fun t ht => by
      rw [hplaces] at ht
      obtain ht | ht := List.mem_append.mp ht
      · exact (haddedOps.handed t ht).2.2
      · exact (h.places t ht).trans (hfixed (hs.fits t ht).2).1.symm
    final := fun r hr => by
      obtain ⟨hcount, hfix⟩ := h.final r hr
      exact ⟨hcount.trans (hfixed hfix).1.symm, (hfixed hfix).2 _⟩
    own := nofun
    recorded := fun hrecords => by
      obtain ⟨hreported, hown⟩ := h.recorded hrecords
      refine ⟨?_, fun r hr => (hown r hr).trans (hfixed (h.loads hs hreported).2).1.symm⟩
      obtain hquiet | ⟨hover, hsome⟩ := hreported
      · exact .inl (hquiet.step hs hentered hpasses req _)
      · exact .inr ⟨(haddedOps.isOver hover).2, hsome⟩ }

theorem Counted.settleWith (h : Counted s) (hidle : s.transport.todo = [])
    (hover : isOver s.loop.stage) {ops : List Op} (hops : Settling ops) :
    Counted (s.settleWith ops) := by
  have hplaces := places_settleWith hidle hops.trailing.1
  have hbefore := h.program
  rw [hidle] at hbefore
  exact { h with
    program := hops.safe hover hbefore.1 (hbefore.2 hover)
    places := fun t ht => h.places t (hplaces ▸ ht)
    own := nofun }

theorem Leaving.records {ops : List Op} (h : Leaving ops outcome) {op : Op} (hop : op ∈ ops)
    (hrecords : op.records) : outcome.isSome := by
  cases op with
  | publishReport => exact h.publishes hop
  | finish o =>
    obtain rfl := (h.finishes o).mp hop
    cases o with
    | none => cases hrecords
    | some o => rfl
  | _ => cases hrecords

theorem Counted.endLease (h : Counted s) {cancels : Bool} {ops : List Op}
    (hops : Leaving ops outcome) (hsettled : outcome.isSome → s.Settled cancels) :
    Counted ({ s with control := { s.control with
      cancelled := s.control.cancelled || cancels } }.endLease ops) :=
  have h' : Counted { s with control := { s.control with
      cancelled := s.control.cancelled || cancels } } :=
    h.flags id fun hflag => by rw [hflag]; rfl
  { h' with
    recorded := fun ⟨b, hb, hrecords⟩ => by
      refine ⟨(hsettled (hops.records hb hrecords)).cases.imp_right fun ⟨hover, htodo⟩ => ?_,
        nofun⟩
      have hprogram := h.program
      rw [htodo] at hprogram
      exact ⟨hover, hprogram.2 hover⟩
    leaseLoaded _ _ := .inl hops.loads
    leaseAmend := hops.amends }

theorem Counted.step (hs : Coherent s) (hq : ∀ mode, route = .middleware mode → Queued s)
    (hlease : (∀ mode, route ≠ .middleware mode) → s.lease.todo = []) (h : Counted s)
    (req : RetryRequest) (a : ObserverAction)
    (htime : ∀ mode, route = .middleware mode → s.InTime a) : Counted (s.step req route a) := by
  have hstep := hs.stepped req route a
  generalize s.step req route a = s' at hstep ⊢
  cases hstep with
  | same => exact h
  | flags hentered hgone hstill hcancelled => exact h.flags hstill hcancelled
  | @advanced caught b tail hentered hidle hpasses htail hends hopen =>
    have hs' : Coherent { s with caught } := hs.flags hs.absent hs.gone id id
    have h' : Counted { s with caught } := h.flags id id
    exact h'.advance hs' hentered hidle hpasses req route htail hends
  | transport htodo => exact h.runs hs hq htodo
  | settled hidle hover hops => exact h.settleWith hidle hover hops
  | left cancels hroute hending hops hstarts hsettled =>
    exact h.endLease hops (hsettled (htime _ hroute))
  | lease htodo =>
    cases route with
    | stream | buffered =>
      rw [hlease nofun] at htodo
      cases htodo
    | middleware mode => exact h.leases hs (hq mode rfl) htodo _

end Steps

/-! ## What the observer sees -/

/-- The condition is one on requests under middleware. -/
def UnderMiddleware (route : Route) (P : Observation → ObserverAction → Prop) (s : Observation)
    (a : ObserverAction) : Prop :=
  ∀ mode, route = .middleware mode → P s a

def Finished (route : Route) (s : Observation) : Prop :=
  (s.gone ∨ isOver s.loop.stage) ∧ s.transport.todo = [] ∧ s.lease.todo = [] ∧
    (route = .buffered → s.released) ∧
    ∀ mode, route = .middleware mode → s.leaseEnding

structure Sound (route : Route) (s : Observation) : Prop where
  coherent : Coherent s
  queued : ∀ mode, route = .middleware mode → Queued s
  direct : route = .stream ∨ route = .buffered → Direct route s

section Runs

variable {req : RetryRequest} {route : Route} {s : Observation}

theorem new_sound (route : Route) (random : UInt64) : Sound route (new route random) where
  coherent := new_coherent route random
  queued mode hroute := hroute ▸ new_queued mode random
  direct hroute := new_direct hroute random

section

variable (h : Sound route s)
include h

theorem Sound.step (req : RetryRequest) (a : ObserverAction)
    (hstarts : UnderMiddleware route Starts s a) : Sound route (s.step req route a) := by
  cases route with
  | stream =>
    obtain ⟨hs, hd⟩ := (h.direct (.inl rfl)).step (.inl rfl) h.coherent req a
    exact ⟨hs, nofun, fun _ => hd⟩
  | buffered =>
    obtain ⟨hs, hd⟩ := (h.direct (.inr rfl)).step (.inr rfl) h.coherent req a
    exact ⟨hs, nofun, fun _ => hd⟩
  | middleware mode =>
    obtain ⟨hs, hq⟩ := (h.queued mode rfl).step h.coherent req a (hstarts mode rfl)
    exact ⟨hs, fun _ _ => hq, nofun⟩

theorem Sound.counted_step (hc : Counted s) (req : RetryRequest) (a : ObserverAction)
    (htime : UnderMiddleware route InTime s a) : Counted (s.step req route a) := by
  refine hc.step h.coherent h.queued (fun hroute => ?_) req a htime
  cases route with
  | stream => exact (h.direct (.inl rfl)).leaseless
  | buffered => exact (h.direct (.inr rfl)).leaseless
  | middleware mode => exact absurd rfl (hroute mode)

theorem Sound.single : s.terminals.length ≤ 1 := by
  have hdirect : Direct route s → s.terminals.length ≤ 1 := fun hd => by
    have hsingle := hd.single
    simp only [places, List.length_append] at hsingle
    omega
  cases route with
  | stream => exact hdirect (h.direct (.inl rfl))
  | buffered => exact hdirect (h.direct (.inr rfl))
  | middleware mode => exact (h.queued mode rfl).single

theorem Sound.terminals_ne_nil (hfinished : Finished route s) : s.terminals ≠ [] := by
  obtain ⟨hend, htransport, hlease, hreleased, hending⟩ := hfinished
  have hkept : isOver s.loop.stage → s.control.pendingObservation = none →
      s.completion.pending = none → s.terminals ≠ [] := fun hover hpending hwaiting hnone => by
    have hkept := h.coherent.kept hover
    simp [places, htransport, hpending, hwaiting, hnone, handOvers] at hkept
  have hdirect : Direct route s → (s.control.pendingObservation = none) → s.terminals ≠ [] :=
    fun hd hpending => by
      refine hkept (hend.resolve_left fun hgone => ?_) hpending hd.waiting
      have habsent := h.coherent.gone hgone
      rw [hd.entered] at habsent
      cases habsent
  cases route with
  | stream =>
    have hd := h.direct (.inl rfl)
    exact hdirect hd (hd.slot rfl)
  | buffered =>
    have hd := h.direct (.inr rfl)
    refine hdirect hd (Option.not_isSome_iff_eq_none.mp fun hsome => ?_)
    obtain hflag | hmem := hd.taken hsome
    · rw [hreleased rfl] at hflag
      cases hflag
    · rw [htransport] at hmem
      cases hmem
  | middleware mode =>
    have hq := h.queued mode rfl
    have hdone : s.completion.finished := by
      refine (hq.ending (hending mode rfl)).resolve_right ?_
      rintro ⟨o, ho⟩
      rw [hlease] at ho
      cases ho
    obtain hne | hstarted := hq.finished hdone
    · exact hne
    have hover : isOver s.loop.stage := by
      refine hend.resolve_left fun hgone => hstarted ?_
      rw [h.coherent.absent (h.coherent.gone hgone)]
      rfl
    refine hkept hover hq.slotless (Option.not_isSome_iff_eq_none.mp fun hsome => ?_)
    rw [hq.waiting hsome] at hdone
    cases hdone

/-- What was notified so far is the beginning of a whole request's observations. -/
theorem Sound.observations : ∃ t : TerminalObservation,
      Grammatical (observed s.loop.calls ++ t.events) s.loop.state.attempts t.report ∧
      s.events <+: observed s.loop.calls ++ t.events ∧
      (Finished route s → s.events = observed s.loop.calls ++ t.events) ∧
      (Counted s → t.report.attempts = s.loop.state.attempts) := by
  have howed := h.coherent.owed
  match hterminals : s.terminals with
  | [] =>
    -- Nobody has taken the end yet; any end that fits will do.
    obtain ⟨current, hopen, -⟩ := h.coherent.shape.attempts
    refine ⟨⟨current, { attempts := s.loop.state.attempts }⟩, hopen.grammatical _, ?_,
      fun hfinished => absurd hterminals (h.terminals_ne_nil hfinished), fun _ => rfl⟩
    rw [hterminals, h.coherent.silent hterminals] at howed
    simp only [List.append_nil, List.flatMap_nil] at howed
    rw [← howed, List.append_assoc]
    exact List.prefix_append _ _
  | [t] =>
    have hmem : t ∈ s.places := by simp [places, hterminals]
    rw [hterminals, List.append_assoc, List.flatMap_singleton] at howed
    refine ⟨t, (h.coherent.fits t hmem).1.grammatical _, ?_, fun hfinished => ?_,
      fun hc => hc.places t hmem⟩
    · rw [← howed]
      exact List.prefix_append _ _
    · obtain ⟨-, htransport, hlease, -⟩ := hfinished
      rw [htransport, hlease] at howed
      rw [← howed]
      exact (List.append_nil _).symm
  | t :: u :: rest =>
    have hsingle := h.single
    rw [hterminals] at hsingle
    simp at hsingle

end

end Runs

/-- Whatever the outcomes, whenever future, job, callback or middleware lease is dropped: the
observer sees the attempts one after the other, and then one `Completed`, if a lease that ends finds
the request settled or its first attempt recorded. The report counts the attempts, if a lease with
an outcome of its own finds the request settled. -/
theorem http_observer_grammar (req : RetryRequest) (route : Route) (random : UInt64)
    (acts : List ObserverAction)
    (hstarts : Machine.Along (step req route) (UnderMiddleware route Starts) (new route random)
      acts) : ∃ full n report, Grammatical full n report ∧
      (Machine.run (step req route) (new route random) acts).events <+: full ∧
      (Finished route (Machine.run (step req route) (new route random) acts) →
        (Machine.run (step req route) (new route random) acts).events = full) ∧
      (Machine.Along (step req route) (UnderMiddleware route InTime) (new route random) acts →
        report.attempts = n) := by
  have hsound : Sound route (Machine.run (step req route) (new route random) acts) :=
    Machine.run_invariant_along (fun _ a ha hs => hs.step req a ha) acts hstarts
      (new_sound route random)
  obtain ⟨t, hgrammatical, hbegins, hends, hcounts⟩ := hsound.observations
  refine ⟨_, _, t.report, hgrammatical, hbegins, hends, fun htime => hcounts ?_⟩
  have hboth : Sound route (Machine.run (step req route) (new route random) acts) ∧
      Counted (Machine.run (step req route) (new route random) acts) :=
    Machine.run_invariant_along (I := fun s => Sound route s ∧ Counted s)
      (fun _ a ha hs => ⟨hs.1.step req a ha.1, hs.1.counted_step hs.2 req a ha.2⟩) acts
      (hstarts.and htime) ⟨new_sound route random, new_counted route random⟩
  exact hboth.2

/-! ## Runs on fixed inputs -/

theorem two_fits : 2 ≤ Checked.u32Max := by decide

def twiceOnUnavailable : RetryRequest where
  policy := {
    schedule := { maxAttempts := 2, sampledDelay := fun _ _ => .ok 0 }
    retryOn := { statuses := [503] }
    attempts_pos := Nat.two_pos
    attempts_fit := two_fits }
  method := .get

def transports (n : Nat) : List ObserverAction := List.replicate n .transport

def answers (status : Nat) : ObserverAction := .loop (.settle { outcome := .ok { status } }) {}

def retriedStream : List ObserverAction :=
  [.loop (.begin {}) {}] ++ transports 2 ++ [answers 503] ++ transports 2 ++
    [.loop (.resume {}) {}, .loop (.begin {}) {}] ++ transports 2 ++
    [answers 200, .loop (.finishBody none {}) {}] ++ transports 4

def droppedInFlight : List ObserverAction :=
  [.enter, .loop (.begin {}) {}] ++ transports 2 ++ [.leaseDrop 0] ++ List.replicate 6 .lease ++
    [answers 200] ++ transports 4 ++ [.callback true] ++ transports 4

def droppedAtStart : List ObserverAction :=
  [.enter, .loop (.begin {}) {}, .leaseDrop 0] ++ List.replicate 7 .lease ++ transports 1

def eventsOf (route : Route) (acts : List ObserverAction) : List RetryEvent :=
  (Machine.run (step twiceOnUnavailable route) (new route 0) acts).events

/-- A retry is announced before its attempt is finished; the report of a lease dropped in flight
counts no attempt; an attempt starts after `Completed`. -/
theorem observed_out_of_grammar :
    eventsOf .stream retriedStream =
      [.attemptStarted 1, .retryScheduled 1 0, .attemptFinished 1 false, .attemptStarted 2,
        .attemptFinished 2 true,
        .completed { attempts := 2, retryCount := 1, stopReason := some .completed }] ∧
    eventsOf (.middleware .buffered) droppedInFlight =
      [.attemptStarted 1, .attemptFinished 1 true, .completed { stopReason := some .cancelled }] ∧
    eventsOf (.middleware .buffered) droppedAtStart =
      [.completed { stopReason := some .cancelled }, .attemptStarted 1] := by
  decide +kernel

def answeredLease : List ObserverAction :=
  [.enter, .loop (.begin {}) {}] ++ transports 2 ++ [answers 200] ++ transports 2 ++
    [.callback false] ++ transports 3

theorem http_observer_grammar_answered : ∃ full n report, Grammatical full n report ∧
      eventsOf (.middleware .buffered)
        (answeredLease ++ .leaseFinish (some (.ok 200)) 0 :: List.replicate 8 .lease) <+: full ∧
      report.attempts = n := by
  have hmost : ∀ P : Observation → ObserverAction → Prop,
      (∀ s a, a ∈ answeredLease ++ List.replicate 8 .lease → P s a) →
      P (Machine.run (step twiceOnUnavailable (.middleware .buffered))
        (new (.middleware .buffered) 0) answeredLease) (.leaseFinish (some (.ok 200)) 0) →
      Machine.Along (step twiceOnUnavailable (.middleware .buffered))
        (UnderMiddleware (.middleware .buffered) P) (new (.middleware .buffered) 0)
        (answeredLease ++ .leaseFinish (some (.ok 200)) 0 :: List.replicate 8 .lease) := by
    intro P hfree hends
    refine Machine.along_append.mpr ⟨Machine.Along.of_forall fun s a ha _ _ =>
      hfree s a (List.mem_append_left _ ha), fun _ _ => hends, Machine.Along.of_forall
        fun s a ha _ _ => hfree s a (List.mem_append_right _ ha)⟩
  have hsettled : Settled (Machine.run (step twiceOnUnavailable (.middleware .buffered))
      (new (.middleware .buffered) 0) answeredLease) false :=
    .inl (by decide +kernel)
  have hfree : ∀ a ∈ answeredLease ++ List.replicate 8 .lease, ∀ s : Observation,
      s.Starts a ∧ s.InTime a := by
    intro a ha s
    simp only [answeredLease, transports, answers, List.append_assoc, List.mem_append,
      List.mem_cons, List.mem_replicate, List.not_mem_nil, or_false] at ha
    obtain (rfl | rfl) | ⟨-, rfl⟩ | rfl | ⟨-, rfl⟩ | rfl | ⟨-, rfl⟩ | ⟨-, rfl⟩ := ha <;>
      exact ⟨trivial, trivial⟩
  obtain ⟨full, n, report, hgrammar, hbegins, -, hcounts⟩ :=
    http_observer_grammar twiceOnUnavailable (.middleware .buffered) 0 _
      (hmost Starts (fun s a ha => (hfree a ha s).1) (.inr (.inl hsettled)))
  exact ⟨full, n, report, hgrammar, hbegins,
    hcounts (hmost InTime (fun s a ha => (hfree a ha s).2) (.inr hsettled))⟩

end Observation

end OpenNet.Http
