import OpenNet.Http.ObserverGrammar

/-!
# What an observer of HTTP retries sees

The observations of a request reach its observer from two threads.  What was notified and what
the two threads have still to notify is at every point what the loop called so far, with the end
of the request at most once behind it.  The end is a token: it is to be handed over, waits in a
slot, or was notified.
-/

namespace OpenNet.Http

open RetryLoop (Mode LoopAction isOver Shape Added step_added step_unobserved)

/-! ## Lists of operations -/

/-- The order of operations in what the loop's thread has to do. -/
def Op.rank : Op → Nat
  | .notify _ => 0
  | .storeAttempt _ => 1
  | .setReport _ => 2
  | .handOver _ => 3
  | .loadReport => 4
  | .loadAttempt => 5
  | .amend _ => 6
  | .publishReport => 7
  | .emitPending => 8
  | .finish _ => 9

attribute [simp] Op.rank

/-- The operation leaves the end of the request in its place. -/
def Op.plain : Op → Bool
  | .handOver _ | .emitPending | .finish _ => false
  | _ => true

namespace Observation

def Sorted (ops : List Op) : Prop :=
  (ops.Pairwise fun a b => a.rank ≤ b.rank) ∧ ∀ op ∈ ops, op.rank < 9

section Ops

variable {op : Op} {ops rest : List Op}

theorem notes_eq_nil (h : ∀ b ∈ ops, 0 < b.rank) : notes ops = [] := by
  refine List.filterMap_eq_nil_iff.mpr fun b hb => ?_
  have hrank := h b hb
  cases b with
  | notify event => cases hrank
  | _ => rfl

theorem handOvers_eq_nil (h : ∀ b ∈ ops, 3 < b.rank) : handOvers ops = [] := by
  refine List.filterMap_eq_nil_iff.mpr fun b hb => ?_
  have hrank := h b hb
  cases b with
  | handOver t => exact absurd hrank (Nat.lt_irrefl 3)
  | _ => rfl

section

variable {todo : List Op} (htodo : todo = op :: rest)
include htodo

theorem mem_head : op ∈ todo := htodo ▸ List.mem_cons_self

theorem mem_tail {b : Op} (hb : b ∈ rest) : b ∈ todo := htodo ▸ List.mem_cons_of_mem _ hb

theorem mem_popped {b : Op} (hb : b ∈ todo) : op = b ∨ b ∈ rest :=
  (List.mem_cons.mp (htodo ▸ hb)).imp_left Eq.symm

theorem notes_pop : notes todo = op.note.toList ++ notes rest := by
  rw [htodo, notes, List.filterMap_cons]
  cases op.note <;> rfl

theorem handOvers_pop (hhanded : op.handed = none) : handOvers todo = handOvers rest := by
  rw [htodo]
  exact List.filterMap_cons_none hhanded

theorem handOvers_tail {t : TerminalObservation} (ht : t ∈ handOvers rest) :
    t ∈ handOvers todo := by
  obtain ⟨b, hb, hhanded⟩ := List.mem_filterMap.mp ht
  exact List.mem_filterMap.mpr ⟨b, mem_tail htodo hb, hhanded⟩

end

theorem Sorted.rank_le (h : Sorted (op :: rest)) : ∀ b ∈ rest, op.rank ≤ b.rank :=
  (List.pairwise_cons.mp h.1).1

theorem Sorted.tail (h : Sorted (op :: rest)) : Sorted rest :=
  ⟨(List.pairwise_cons.mp h.1).2, fun b hb => h.2 b (List.mem_cons_of_mem _ hb)⟩

theorem Sorted.notes_rest (h : Sorted (op :: rest)) (hop : 0 < op.rank) : notes rest = [] :=
  notes_eq_nil fun b hb => Nat.lt_of_lt_of_le hop (h.rank_le b hb)

theorem rank_notify {events : List RetryEvent} (hop : op ∈ events.map Op.notify) : op.rank = 0 := by
  obtain ⟨event, -, rfl⟩ := List.mem_map.mp hop
  rfl

theorem mem_notify {events : List RetryEvent} (hop : op ∈ events.map Op.notify ++ rest)
    (hrank : op.rank ≠ 0) : op ∈ rest :=
  (List.mem_append.mp hop).resolve_left fun hop => hrank (rank_notify hop)

theorem sorted_notify (events : List RetryEvent) (h : Sorted rest) :
    Sorted (events.map Op.notify ++ rest) := by
  induction events with
  | nil => exact h
  | cons event more ih =>
    refine ⟨List.pairwise_cons.mpr ⟨fun _ _ => Nat.zero_le _, ih.1⟩, fun b hb => ?_⟩
    obtain rfl | hb := List.mem_cons.mp hb
    · exact Nat.zero_lt_succ 8
    · exact ih.2 b hb

end Ops

theorem exec_plain (route : Route) (s : Observation) (th : Thread) {op : Op}
    (hop : op.plain) :
    ∃ events attempt retryReport report attempts, s.exec route th op =
        ({ s with events, control := { s.control with attempt, retryReport } },
          { th with report, attempts }) ∧
      events = s.events ++ op.note.toList ∧
      (attempt = s.control.attempt ∨ op = .storeAttempt attempt) ∧
      (attempts = th.attempts ∧ op ≠ .loadAttempt ∨ attempts = s.control.attempt) := by
  have hsame := (List.append_nil s.events).symm
  cases op with
  | notify event => exact ⟨_, _, _, _, _, rfl, rfl, .inl rfl, .inl ⟨rfl, nofun⟩⟩
  | storeAttempt attempt =>
    exact ⟨_, attempt, _, _, _, rfl, hsame, .inr rfl, .inl ⟨rfl, nofun⟩⟩
  | loadAttempt => exact ⟨_, _, _, _, _, rfl, hsame, .inl rfl, .inr rfl⟩
  | setReport | loadReport | amend =>
    exact ⟨_, _, _, _, _, rfl, hsame, .inl rfl, .inl ⟨rfl, nofun⟩⟩
  | publishReport =>
    simp only [exec]
    split
    all_goals exact ⟨_, _, _, _, _, rfl, hsame, .inl rfl, .inl ⟨rfl, nofun⟩⟩
  | handOver | finish | emitPending => cases hop

theorem Op.plain_cases {op : Op} (h : op.plain) :
    op.handed = none ∧ op ≠ .emitPending ∧ ∀ o, op ≠ .finish o := by
  cases op with
  | handOver | finish | emitPending => cases h
  | _ => exact ⟨rfl, (fun h => by cases h), fun o h => by cases h⟩

/-! ## The invariant of every route -/

def places (s : Observation) : List TerminalObservation :=
  handOvers s.transport.todo ++ s.control.pendingObservation.toList ++
    s.completion.pending.toList ++ s.terminals

def Quiet (s : Observation) : Prop :=
  observed s.loop.calls = [] ∧
    (s.gone ∨ s.control.cancelled ∨ isOver s.loop.stage)

def Fixed (s : Observation) : Prop := s.Quiet ∨ isOver s.loop.stage

/-- The terminal observation finishes the attempt that is open. -/
def Fits (s : Observation) (t : TerminalObservation) : Prop :=
  Attempts (observed s.loop.calls) t.attempt s.loop.state.attempts ∧ s.Fixed

structure Coherent (s : Observation) : Prop where
  shape : Shape s.loop
  absent : s.entered = false → s.loop.calls = []
  gone : s.gone → s.entered = false
  sorted : Sorted s.transport.todo
  owed : s.events ++ notes s.transport.todo ++ notes s.lease.todo =
    observed s.loop.calls ++ s.terminals.flatMap TerminalObservation.events
  silent : s.terminals = [] → notes s.lease.todo = []
  alone : notes s.lease.todo ≠ [] → notes s.transport.todo = []
  fits : ∀ t ∈ s.places, s.Fits t
  slot : s.control.pendingObservation.isSome ∨ s.completion.pending.isSome →
    notes s.transport.todo = []
  kept : isOver s.loop.stage → s.places ≠ []
  stored : (0 < s.control.attempt ∨ ∃ k, .storeAttempt k ∈ s.transport.todo) →
    observed s.loop.calls ≠ []

theorem new_coherent (route : Route) (random : UInt64) : Coherent (new route random) where
  shape := RetryLoop.new_shape random
  absent _ := rfl
  gone h := by cases h
  sorted := ⟨List.Pairwise.nil, fun _ h => by cases h⟩
  owed := rfl
  silent _ := rfl
  alone h := absurd rfl h
  fits t ht := by cases ht
  slot _ := rfl
  kept h := by cases h
  stored h := by
    obtain h | ⟨k, h⟩ := h
    · exact absurd h (Nat.lt_irrefl 0)
    · cases h

section Pops

variable {s s' : Observation} {op : Op} {rest : List Op} {t : TerminalObservation}

theorem Quiet.of_eq (h : s.Quiet) (hloop : s'.loop = s.loop) (hgone : s.gone → s'.gone)
    (hcancelled : s.control.cancelled → s'.control.cancelled) : s'.Quiet := by
  unfold Quiet at *
  rw [hloop]
  exact ⟨h.1, h.2.imp hgone (Or.imp_left hcancelled)⟩

theorem Fixed.of_eq (h : s.Fixed) (hloop : s'.loop = s.loop) (hgone : s.gone → s'.gone)
    (hcancelled : s.control.cancelled → s'.control.cancelled) : s'.Fixed :=
  h.imp (·.of_eq hloop hgone hcancelled) fun hover => hloop ▸ hover

theorem Fits.of_eq (h : s.Fits t) (hloop : s'.loop = s.loop) (hgone : s.gone → s'.gone)
    (hcancelled : s.control.cancelled → s'.control.cancelled) : s'.Fits t :=
  ⟨hloop ▸ h.1, h.2.of_eq hloop hgone hcancelled⟩

variable {events : List RetryEvent} {completion : CompletionState} {attempt attempts : Nat}
  {retryReport report : Option RetryReport} {pendingObservation : Option TerminalObservation}

section

variable (h : Coherent s)
include h

theorem Coherent.stored_tail (htodo : s.transport.todo = op :: rest)
    (hattempt : attempt = s.control.attempt ∨ op = .storeAttempt attempt)
    (hstored : 0 < attempt ∨ ∃ k, .storeAttempt k ∈ rest) : observed s.loop.calls ≠ [] := by
  refine h.stored ?_
  rw [htodo]
  obtain hpos | ⟨k, hk⟩ := hstored
  · obtain rfl | rfl := hattempt
    · exact .inl hpos
    · exact .inr ⟨attempt, List.mem_cons_self⟩
  · exact .inr ⟨k, List.mem_cons_of_mem _ hk⟩

theorem Coherent.pop_transport (htodo : s.transport.todo = op :: rest) (hhanded : op.handed = none)
    (hattempt : attempt = s.control.attempt ∨ op = .storeAttempt attempt)
    (hevents : events = s.events ++ op.note.toList) :
    Coherent { s with
      events, control := { s.control with attempt, retryReport }
      transport := { todo := rest, report, attempts } } := by
  have hnotes := notes_pop htodo
  have hrest : notes s.transport.todo = [] → notes rest = [] := fun hnone =>
    (List.append_eq_nil_iff.mp (hnotes ▸ hnone)).2
  have hhandOvers := handOvers_pop htodo hhanded
  have hsorted := h.sorted
  rw [htodo] at hsorted
  exact { h with
    sorted := hsorted.tail
    owed := by rw [hevents, ← h.owed, hnotes, List.append_assoc s.events]
    alone := fun hlease => hrest (h.alone hlease)
    fits := fun t ht => h.fits t (by simpa only [places, hhandOvers] using ht)
    slot := fun hslot => hrest (h.slot hslot)
    kept := fun hover => by simpa only [places, hhandOvers] using h.kept hover
    stored := h.stored_tail htodo hattempt }

theorem Coherent.pop_lease (htodo : s.lease.todo = op :: rest)
    (hevents : events = s.events ++ op.note.toList)
    (hwaiting : completion.pending = s.completion.pending) :
    Coherent { s with
      events, completion, control := { s.control with retryReport }
      lease := { todo := rest, report, attempts } } := by
  have hnotes := notes_pop htodo
  have hrest : notes s.lease.todo = [] → notes rest = [] := fun hnone =>
    (List.append_eq_nil_iff.mp (hnotes ▸ hnone)).2
  exact { h with
    owed := by
      rw [hevents, ← h.owed, hnotes]
      cases hnote : op.note with
      | none => rw [Option.toList_none, List.append_nil, List.nil_append]
      | some event => rw [h.alone (by rw [hnotes, hnote]; exact List.cons_ne_nil _ _)]; simp
    silent := fun hnone => hrest (h.silent hnone)
    alone := fun hlease => h.alone (mt hrest hlease)
    fits := fun t ht => h.fits t (by simpa only [places, hwaiting] using ht)
    slot := fun hslot => h.slot (hwaiting ▸ hslot)
    kept := fun hover => by simpa only [places, hwaiting] using h.kept hover }

/-- The loop's thread moves the end of the request, drops a second one, or begins to notify it. -/
theorem Coherent.token_transport (htodo : s.transport.todo = op :: rest) (hop : 2 < op.rank)
    {fresh terminals : List TerminalObservation} {noted : List RetryEvent}
    (hterminals : terminals = s.terminals ++ fresh)
    (hnoted : noted = fresh.flatMap TerminalObservation.events)
    (hfits : ∀ t ∈ pendingObservation.toList ++ completion.pending.toList ++ fresh, s.Fits t)
    (hkept : pendingObservation.toList ++ completion.pending.toList ++ terminals ≠ [])
    (hfresh : fresh ≠ [] → s.terminals = [] ∧ pendingObservation = none ∧
      completion.pending = none) :
    Coherent { s with
      completion, terminals, control := { s.control with pendingObservation }
      transport := { s.transport with todo := noted.map Op.notify ++ rest } } := by
  have hsorted := h.sorted
  rw [htodo] at hsorted
  have hpos : 0 < op.rank := Nat.lt_of_le_of_lt (Nat.zero_le 2) hop
  have hbefore : notes s.transport.todo = [] := by
    rw [htodo]
    refine notes_eq_nil fun b hb => ?_
    obtain rfl | hb := List.mem_cons.mp hb
    · exact hpos
    · exact Nat.lt_of_lt_of_le hpos (hsorted.rank_le b hb)
  have hnotes : notes (noted.map Op.notify ++ rest) = noted := by
    rw [notes_append, notes_map_notify, hsorted.notes_rest hpos, List.append_nil]
  have hempty : fresh = [] → noted = [] := fun hnone => by rw [hnoted, hnone]; rfl
  exact { h with
    sorted := sorted_notify _ hsorted.tail
    owed := by
      have howed := h.owed
      rw [hbefore, List.append_nil] at howed
      rw [hnotes, hterminals, List.flatMap_append, ← hnoted, ← List.append_assoc, ← howed]
      by_cases hnone : fresh = []
      · rw [hempty hnone, List.append_nil, List.append_nil]
      · rw [h.silent (hfresh hnone).1, List.append_nil, List.append_nil]
    silent := fun hnone => h.silent (List.append_eq_nil_iff.mp (hterminals ▸ hnone)).1
    alone := fun hlease => hnotes.trans (hempty (by
      by_contra hnone
      exact hlease (h.silent (hfresh hnone).1)))
    fits := fun t ht => by
      simp only [places, handOvers_append, handOvers_map_notify, List.nil_append, hterminals,
        List.append_assoc, List.mem_append] at ht hfits
      obtain ht | ht | ht | ht | ht := ht
      · exact h.fits t (by simp [places, handOvers_tail htodo ht])
      · exact hfits t (.inl ht)
      · exact hfits t (.inr (.inl ht))
      · exact h.fits t (by simp [places, ht])
      · exact hfits t (.inr (.inr ht))
    slot := fun hslot => hnotes.trans (hempty (by
      by_contra hnone
      obtain ⟨-, hpending, hwaiting⟩ := hfresh hnone
      rw [hpending, hwaiting] at hslot
      obtain hslot | hslot := hslot <;> cases hslot))
    kept := fun _ => by
      simp only [places, handOvers_append, List.append_assoc] at hkept ⊢
      exact List.append_ne_nil_of_right_ne_nil _ (List.append_ne_nil_of_right_ne_nil _ hkept)
    stored := fun hstored => h.stored_tail htodo (.inl rfl)
      (hstored.imp_right fun ⟨k, hk⟩ => ⟨k, mem_notify hk (by simp)⟩) }

theorem Coherent.emit_lease (htodo : s.lease.todo = [op]) (hnote : op.note = none)
    (hterminals : s.terminals = []) (ht : s.Fits t) (hquiet : notes s.transport.todo = [])
    {lease : Thread} (hrest : lease.todo = t.events.map Op.notify)
    (hwaiting : completion.pending = none) :
    Coherent { s with completion, lease, terminals := s.terminals ++ [t] } := by
  have hbefore : notes s.lease.todo = [] := by
    rw [htodo]
    exact List.filterMap_cons_none hnote
  exact { h with
    owed := by
      have howed := h.owed
      rw [hbefore, hquiet, hterminals] at howed
      rw [hrest, hquiet, hterminals, notes_map_notify]
      simpa using howed
    silent := fun hnone => absurd hnone (by simp)
    alone := fun _ => hquiet
    fits := fun u hu => by
      simp only [places, hwaiting, hterminals, Option.toList_none, List.append_nil,
        List.nil_append, List.mem_append, List.mem_singleton] at hu
      obtain (hu | hu) | rfl := hu
      · exact h.fits u (by simp [places, hu])
      · exact h.fits u (by simp [places, hu])
      · exact ht
    slot := fun _ => hquiet
    kept := fun _ => by simp [places] }

theorem Coherent.flags {entered gone caught cancelled : Bool}
    (hentered : entered = false → s.loop.calls = []) (hgone : gone → entered = false)
    (hstill : s.gone → gone)
    (hcancelled : s.control.cancelled → cancelled) :
    Coherent { s with entered, gone, caught, control := { s.control with cancelled } } :=
  { h with
    absent := hentered
    gone := hgone
    fits t ht := (h.fits t ht).of_eq rfl hstill hcancelled }

theorem Coherent.endLease (hlease : s.lease.todo = []) {todo : List Op} (htodo : notes todo = []) :
    Coherent (s.endLease todo) :=
  { h with
    owed := by
      have howed := h.owed
      rw [hlease] at howed
      change s.events ++ notes s.transport.todo ++ notes todo = _
      rw [htodo]
      exact howed
    silent _ := htodo
    alone hne := absurd htodo hne }

end

end Pops

/-! ## Steps of the loop -/

/-- At the end the loop's caller neither notifies nor hands over. -/
def Trailing (ops : List Op) : Prop := Sorted ops ∧ ∀ op ∈ ops, 3 < op.rank

variable {ops : List Op}

variable {t : TerminalObservation}

section Loop

variable {s : Observation} {req : RetryRequest} {route : Route} {a : LoopAction}

theorem Trailing.notes (h : Trailing ops) : notes ops = [] :=
  notes_eq_nil fun b hb => Nat.lt_trans (by decide) (h.2 b hb)

theorem Trailing.handOvers (h : Trailing ops) : handOvers ops = [] :=
  handOvers_eq_nil h.2

theorem Trailing.not_mem (h : Trailing ops) {op : Op} (hrank : op.rank ≤ 3) : op ∉ ops :=
  fun hop => Nat.not_lt.mpr hrank (h.2 op hop)

/-- What a step of the loop gives its thread to do. -/
structure AddedOps (l m : RetryLoop) (ops : List Op) : Prop where
  sorted : Sorted ops
  low : ∀ op ∈ ops, op.rank ≤ 3
  /-- What is handed over finishes the open attempt. -/
  handed : ∀ t ∈ handOvers ops, Attempts (observed m.calls) t.attempt m.state.attempts ∧
    isOver m.stage ∧ t.report.attempts = m.state.attempts
  once : (handOvers ops).length ≤ 1
  live : isOver m.stage = false → handOvers ops = [] ∧ isOver l.stage = false
  isOver : isOver l.stage → ops = [] ∧ isOver m.stage
  kept : RetryLoop.isOver m.stage → RetryLoop.isOver l.stage ∨ handOvers ops ≠ []
  positive : ∀ k, .storeAttempt k ∈ ops → 0 < k

theorem ops_of_added {l m : RetryLoop} {added : List LifecycleCall} (h : Added l m added) :
    AddedOps l m (added.flatMap callOps) := by
  cases h with
  | nothing hover hattempts =>
    constructor <;> simp [Sorted, handOvers, hover, hattempts]
  | started hover hready hattempts =>
    have hlive : isOver l.stage = false := by rw [hready]; rfl
    constructor <;> simp [Sorted, handOvers, List.filterMap_cons, Op.handed, callOps, hover, hlive,
      hattempts]
  | scheduled delay hover hrunning hattempts =>
    have hlive : isOver l.stage = false := by rw [hrunning]; rfl
    constructor <;> simp [Sorted, handOvers, List.filterMap_cons, Op.handed, callOps, hover, hlive,
      hattempts]
  | ended current report hlive hover hattempts hreport h =>
    rw [hattempts] at h hreport
    constructor <;> simp [Sorted, handOvers, List.filterMap_cons, Op.handed, callOps, hover, hlive,
      hattempts, hreport, h]
  | startEnded current report hready hover hattempts hreport h =>
    have hlive : isOver l.stage = false := by rw [hready]; rfl
    rw [hattempts] at h hreport
    constructor <;> simp [Sorted, handOvers, List.filterMap_cons, Op.handed, callOps, hover, hlive,
      hattempts, hreport, h]

theorem observed_of_stored {calls : List LifecycleCall} {k : Nat}
    (h : .storeAttempt k ∈ calls.flatMap callOps) : observed calls ≠ [] := by
  obtain ⟨c, hc, hk⟩ := List.mem_flatMap.mp h
  obtain ⟨before, after, rfl⟩ := List.append_of_mem hc
  cases c with
  | attemptStarted attempt =>
    rw [observed_append]
    exact List.append_ne_nil_of_right_ne_nil _ (List.cons_ne_nil _ _)
  | retryScheduled | emitTerminal => simp [callOps] at hk

/-- What the loop's caller does at the end. -/
inductive Closing : List Op → Prop where
  | nothing : Closing []
  | failure (reading : Reading) (e : NetError) : Closing (failureOps reading e)

theorem Closing.trailing (h : Closing ops) : Trailing ops := by
  cases h with
  | nothing => simp [Trailing, Sorted]
  | failure reading e => simp [Trailing, Sorted, failureOps]

theorem jobOps_closing (route : Route) (reading : Reading) (stage : LoopStage) :
    Closing (jobOps route reading stage) ∧ (jobOps route reading stage ≠ [] → isOver stage) := by
  unfold jobOps
  split
  · exact ⟨.failure _ _, fun _ => rfl⟩
  · exact ⟨.nothing, fun h => absurd rfl h⟩

theorem advance_eq (hs : Shape s.loop) (req : RetryRequest) (route : Route) (a : LoopAction)
    (tail : LoopStage → List Op) (htail : ∀ stage, Closing (tail stage)) :
    ∃ added ops, Closing ops ∧ (ops = [] ∨ ops = tail (s.loop.step req route.mode a).stage) ∧
      (s.loop.step req route.mode a).calls = s.loop.calls ++ added ∧
      Added s.loop (s.loop.step req route.mode a) added ∧
      AddedOps s.loop (s.loop.step req route.mode a) (added.flatMap callOps) ∧
      s.advance req route a tail = { s with
        loop := s.loop.step req route.mode a
        transport := { todo := added.flatMap callOps ++ ops } } := by
  obtain ⟨-, added, hcalls, hadded⟩ := step_added req route.mode hs a
  refine ⟨added, if added.isEmpty then [] else tail (s.loop.step req route.mode a).stage,
    ?_, ?_, hcalls, hadded, ops_of_added hadded, ?_⟩
  · split
    · exact .nothing
    · exact htail _
  · split
    · exact .inl rfl
    · exact .inr rfl
  · simp only [advance, hcalls, List.drop_left]

theorem places_advanced (hidle : s.transport.todo = []) (loop : RetryLoop) (ops : List Op)
    {more : List Op} (hmore : Trailing more) :
    places { s with loop, transport := { todo := ops ++ more } } = handOvers ops ++ s.places := by
  simp only [places, handOvers_append, hmore.handOvers, hidle, List.append_assoc, List.nil_append]
  rfl

theorem places_settleWith (hidle : s.transport.todo = []) (hops : Trailing ops) :
    (s.settleWith ops).places = s.places := by
  simp only [places, settleWith, hops.handOvers, hidle]
  rfl

section

variable (h : Coherent s) (hentered : s.entered)
include h hentered

/-- Nothing more is observed of a loop that starts no further attempt. -/
theorem Fixed.step (hpasses : s.passes a) (hfixed : s.Fixed) (req : RetryRequest)
    (mode : Mode) :
    observed (s.loop.step req mode a).calls = observed s.loop.calls ∧
      (s.loop.step req mode a).state.attempts = s.loop.state.attempts ∧
      ∀ transport, Fixed { s with loop := s.loop.step req mode a, transport } := by
  by_cases hover : isOver s.loop.stage
  · rw [RetryLoop.step_over hover]
    exact ⟨rfl, rfl, fun _ => .inr hover⟩
  obtain ⟨hnone, hgone | hcancelled | h'⟩ | h' := hfixed
  · rw [h.gone hgone] at hentered
    cases hentered
  · have hblocked : ∀ b, a = .begin b → b.total ≠ none := by
      rintro b rfl htotal
      rw [passes, hcancelled, htotal] at hpasses
      cases hpasses
    have hstill := step_unobserved req mode h.shape hnone a hblocked
    obtain ⟨_, hbefore, -⟩ := h.shape.attempts
    obtain ⟨_, hafter, -⟩ := (step_added req mode h.shape a).1.attempts
    rw [hnone] at hbefore
    rw [hstill] at hafter
    refine ⟨hstill.trans hnone.symm, hafter.of_nil.2.trans hbefore.of_nil.2.symm, fun _ => ?_⟩
    exact .inl ⟨hstill, .inr (.inl hcancelled)⟩
  · exact absurd h' hover
  · exact absurd h' hover

theorem Coherent.advance (hidle : s.transport.todo = []) (hpasses : s.passes a)
    (req : RetryRequest) (route : Route) {tail : LoopStage → List Op}
    (htail : ∀ stage, Closing (tail stage)) : Coherent (s.advance req route a tail) := by
  obtain ⟨added, ops, hclosing, -, hcalls, -, hadded, heq⟩ :=
    advance_eq h.shape req route a tail htail
  have hops := hclosing.trailing
  rw [heq]
  have hnotes : notes (added.flatMap callOps ++ ops) = observed added := by
    rw [notes_append, hops.notes, List.append_nil]
    rfl
  have hplaces := places_advanced hidle (s.loop.step req route.mode a) (added.flatMap callOps) hops
  have hold : ∀ t ∈ s.places, observed added = [] ∧ Fits { s with
      loop := s.loop.step req route.mode a
      transport := { todo := added.flatMap callOps ++ ops } } t := by
    intro t ht
    obtain ⟨hfits, hfixed⟩ := h.fits t ht
    obtain ⟨hsame, hattempts, hstill⟩ := hfixed.step h hentered hpasses req route.mode
    refine ⟨?_, ?_, hstill _⟩
    · rw [hcalls, observed_append] at hsame
      exact List.append_right_eq_self.mp hsame
    · rw [hsame, hattempts]
      exact hfits
  have hterminals : s.terminals ≠ [] → observed added = [] := fun hne => by
    obtain ⟨t, ht⟩ := List.exists_mem_of_ne_nil _ hne
    exact (hold t (by simp [places, ht])).1
  exact { h with
    shape := (step_added req route.mode h.shape a).1
    absent := fun habsent => by rw [hentered] at habsent; cases habsent
    sorted := by
      refine ⟨List.pairwise_append.mpr ⟨hadded.sorted.1, hops.1.1, ?_⟩, ?_⟩
      · intro b hb c hc
        exact Nat.le_of_lt (Nat.lt_of_le_of_lt (hadded.low b hb) (hops.2 c hc))
      · intro b hb
        exact (List.mem_append.mp hb).elim (hadded.sorted.2 b) (hops.1.2 b)
    owed := by
      have howed := h.owed
      rw [hidle] at howed
      rw [hnotes, hcalls, observed_append]
      by_cases hne : s.terminals = []
      · rw [h.silent hne, hne] at howed ⊢
        simp only [List.flatMap_nil, List.append_nil] at howed ⊢
        rw [← howed]
        simp [notes]
      · rw [hterminals hne, List.append_nil, List.append_nil, ← howed]
        simp [notes]
    alone := fun hlease => hnotes.trans (hterminals fun hne => hlease (h.silent hne))
    fits := fun t ht => by
      rw [hplaces] at ht
      obtain ht | ht := List.mem_append.mp ht
      · obtain ⟨hfits, hover, -⟩ := hadded.handed t ht
        exact ⟨hfits, .inr hover⟩
      · exact (hold t ht).2
    slot := fun hslot => by
      simp only [Option.isSome_iff_exists] at hslot
      obtain ⟨t, ht⟩ | ⟨t, ht⟩ := hslot
      all_goals exact hnotes.trans (hold t (by simp [places, ht])).1
    kept := fun hover => by
      rw [hplaces]
      obtain hbefore | hne := hadded.kept hover
      · exact List.append_ne_nil_of_right_ne_nil _ (h.kept hbefore)
      · exact List.append_ne_nil_of_left_ne_nil hne _
    stored := fun hstored => by
      rw [hcalls, observed_append]
      obtain hpos | ⟨k, hk⟩ := hstored
      · exact List.append_ne_nil_of_left_ne_nil (h.stored (.inl hpos)) _
      refine List.append_ne_nil_of_right_ne_nil _ ?_
      exact observed_of_stored
        ((List.mem_append.mp hk).resolve_right (hops.not_mem (by simp))) }

end

theorem Coherent.settleWith (h : Coherent s) (hidle : s.transport.todo = [])
    (hops : Trailing ops) : Coherent (s.settleWith ops) := by
  have hplaces := places_settleWith hidle hops
  exact { h with
    sorted := hops.1
    owed := by
      have howed := h.owed
      rw [hidle] at howed
      change s.events ++ notes ops ++ notes s.lease.todo = _
      rw [hops.notes]
      exact howed
    alone := fun _ => hops.notes
    fits := fun t ht => h.fits t (hplaces ▸ ht)
    slot := fun _ => hops.notes
    kept := fun hover => hplaces ▸ h.kept hover
    stored := fun hstored => by
      obtain hpos | ⟨k, hk⟩ := hstored
      · exact h.stored (.inl hpos)
      · exact absurd hk (hops.not_mem (by simp)) }

end Loop

/-! ## Steps of a request -/

/-- The loop is over, or no attempt was and will be started; `cancels`: the step cancels. -/
def Settled (s : Observation) (cancels : Bool) : Prop :=
  (isOver s.loop.stage ∧ s.idle) ∨
    (observed s.loop.calls = [] ∧ (s.gone ∨ s.control.cancelled ∨ cancels ∨
      isOver s.loop.stage))

/-- An ending lease finds the request settled, or an attempt recorded. -/
def Starts (s : Observation) : ObserverAction → Prop
  | .leaseFinish _ _ => s.leaseEnding ∨ s.Settled false ∨ 0 < s.control.attempt
  | .leaseDrop _ => s.leaseEnding ∨ s.Settled true ∨ 0 < s.control.attempt
  | _ => True

/-- A lease that ends with its own outcome finds the request settled. -/
def InTime (s : Observation) : ObserverAction → Prop
  | .leaseFinish (some _) _ => s.leaseEnding ∨ s.Settled false
  | .leaseDrop _ => s.leaseEnding ∨ s.Settled true
  | _ => True

inductive Settling : List Op → Prop where
  | callback (cancelled : Bool) : Settling (callbackOps cancelled)
  | release : Settling releaseOps

theorem Settling.trailing (h : Settling ops) : Trailing ops ∧ .emitPending ∈ ops := by
  cases h with
  | callback cancelled => cases cancelled <;> simp [Trailing, Sorted, callbackOps]
  | release => simp [Trailing, Sorted, releaseOps]

/-- What a lease does at its end. -/
structure Leaving (ops : List Op) (outcome : Option (Except NetError Nat)) : Prop where
  last : ops.Pairwise fun op _ => op.rank ≠ 9
  leased : ∀ op ∈ ops, op.rank ∉ [0, 1, 2, 3, 8]
  finishes : ∀ o, .finish o ∈ ops ↔ o = outcome
  counts : .loadAttempt ∈ ops
  loads : .loadReport ∈ ops
  publishes : .publishReport ∈ ops → outcome.isSome
  amends : ∀ reading, .amend (.recounted reading) ∉ ops

theorem leaseFinishOps_leaving (outcome : Option (Except NetError Nat)) (elapsed : Nat) :
    Leaving (leaseFinishOps outcome elapsed) outcome := by
  obtain _ | ⟨e | status⟩ := outcome
  · constructor <;> simp [leaseFinishOps]
  · cases hreport : e.retryReport.isNone <;> constructor <;> simp [leaseFinishOps, hreport]
  · constructor <;> simp [leaseFinishOps]

theorem leaseDropOps_leaving (elapsed : Nat) : Leaving (leaseDropOps elapsed)
    (some (.error ((NetError.new .cancelled).withStage .dispatch))) := by
  constructor <;> simp [leaseDropOps]

def runs (route : Route) (s : Observation) (op : Op) (rest : List Op) : Observation :=
  let (s, transport) := s.exec route { s.transport with todo := rest } op
  { s with transport }

def leases (route : Route) (s : Observation) (op : Op) (rest : List Op) : Observation :=
  let (s, lease) := s.exec route { s.lease with todo := rest } op
  { s with lease }

inductive Stepped (req : RetryRequest) (route : Route) (s : Observation) (a : ObserverAction) :
    Observation → Prop where
  | same : Stepped req route s a s
  | flags {entered gone cancelled : Bool} (hentered : entered = false → s.entered = false)
    (hgone : gone → entered = false) (hstill : s.gone → gone)
    (hcancelled : s.control.cancelled → cancelled) :
    Stepped req route s a { s with entered, gone, control := { s.control with cancelled } }
  | advanced {caught : Bool} {b : LoopAction} {tail : LoopStage → List Op}
    (hentered : s.entered) (hidle : s.transport.todo = []) (hpasses : s.passes b)
    (htail : ∀ stage, Closing (tail stage))
    (hends : tail (s.loop.step req route.mode b).stage ≠ [] →
      isOver (s.loop.step req route.mode b).stage)
    (hopen : s.released = false ∨ isOver s.loop.stage = false) :
    Stepped req route s a ({ s with caught }.advance req route b tail)
  | transport {op : Op} {rest : List Op} (htodo : s.transport.todo = op :: rest) :
    Stepped req route s a (s.runs route op rest)
  | settled {ops : List Op} (hidle : s.transport.todo = []) (hover : isOver s.loop.stage)
    (hops : Settling ops) : Stepped req route s a (s.settleWith ops)
  | left (cancels : Bool) {mode : Mode} {ops : List Op} {outcome : Option (Except NetError Nat)}
    (hroute : route = .middleware mode) (hending : s.leaseEnding = false)
    (hops : Leaving ops outcome)
    (hstarts : s.Starts a → s.Settled cancels ∨ 0 < s.control.attempt)
    (htime : s.InTime a → outcome.isSome → s.Settled cancels) :
    Stepped req route s a ({ s with control := { s.control with
      cancelled := s.control.cancelled || cancels } }.endLease ops)
  | lease {op : Op} {rest : List Op} (htodo : s.lease.todo = op :: rest) :
    Stepped req route s a (s.leases route op rest)

theorem idle_iff {s : Observation} : s.idle ↔ s.transport.todo = [] := List.isEmpty_iff

theorem Settled.cases {s : Observation} {cancels : Bool} (h : s.Settled cancels) :
    Quiet { s with control := { s.control with
        cancelled := s.control.cancelled || cancels } } ∨
      (isOver s.loop.stage ∧ s.transport.todo = []) := by
  obtain ⟨hover, hidle⟩ | ⟨hnone, hgone | hcancel | hcancel | hover⟩ := h
  · exact .inr ⟨hover, idle_iff.mp hidle⟩
  · exact .inl ⟨hnone, .inl hgone⟩
  · exact .inl ⟨hnone, .inr (.inl (by simp [hcancel]))⟩
  · exact .inl ⟨hnone, .inr (.inl (by simp [hcancel]))⟩
  · exact .inl ⟨hnone, .inr (.inr hover)⟩

theorem answered_over {s : Observation} (h : s.answered) : isOver s.loop.stage := by
  unfold answered at h
  split at h
  · rename_i hstage
    rw [hstage]
    rfl
  · rename_i hstage
    rw [hstage]
    rfl
  · cases h

theorem Coherent.stepped {s : Observation} (hs : Coherent s) (req : RetryRequest) (route : Route)
    (a : ObserverAction) : Stepped req route s a (s.step req route a) := by
  cases a with
  | enter =>
    rw [step]
    split
    · exact .same
    · rename_i hgone
      exact .flags nofun (fun hflag => absurd hflag hgone) id id
  | giveUp =>
    rw [step]
    split
    · exact .same
    · rename_i hentered
      exact .flags id (fun _ => Bool.not_eq_true _ ▸ hentered) (fun _ => rfl) id
  | cancel => exact .flags id hs.gone id fun _ => rfl
  | loop a reading =>
    rw [step]
    split
    · rename_i hguard
      simp only [Bool.and_eq_true, Bool.not_eq_true', idle_iff] at hguard
      obtain ⟨⟨⟨hentered, hidle⟩, hreleased⟩, hpasses⟩ := hguard
      exact .advanced hentered hidle hpasses (fun stage => (jobOps_closing route reading stage).1)
        (jobOps_closing route reading _).2 (.inl hreleased)
    · exact .same
  | unwind reading =>
    rw [step]
    split
    · rename_i hguard
      obtain ⟨-, hentered, hidle, hlive⟩ := hguard
      refine .advanced hentered (idle_iff.mp hidle) rfl (fun _ => .failure reading _)
        (fun _ => ?_) (.inr hlive)
      cases hstage : s.loop.stage with
      | done | dropped => rw [hstage] at hlive; cases hlive
      | ready | running | waiting | body => simp only [RetryLoop.step, hstage]; rfl
    · exact .same
  | transport =>
    rw [step]
    split
    · exact .same
    · exact .transport ‹_›
  | callback cancelled =>
    rw [step]
    split
    · rename_i hguard
      obtain ⟨-, hidle, hanswered, -⟩ := hguard
      exact .settled (idle_iff.mp hidle) (answered_over hanswered) (.callback cancelled)
    · exact .same
  | release =>
    rw [step]
    split
    · rename_i hguard
      obtain ⟨-, hidle, hover, -⟩ := hguard
      exact .settled (idle_iff.mp hidle) hover .release
    · exact .same
  | leaseFinish outcome elapsed =>
    cases route with
    | stream | buffered => exact .same
    | middleware mode =>
      rw [step]
      split
      · exact .same
      · rename_i hending
        have hleft : Stepped req (.middleware mode) s (.leaseFinish outcome elapsed) _ :=
          .left false rfl (Bool.not_eq_true _ ▸ hending)
            (leaseFinishOps_leaving outcome elapsed) (·.resolve_left hending) fun htime hsome => by
              obtain ⟨o, rfl⟩ := Option.isSome_iff_exists.mp hsome
              exact htime.resolve_left hending
        rwa [Bool.or_false] at hleft
  | leaseDrop elapsed =>
    cases route with
    | stream | buffered => exact .same
    | middleware mode =>
      rw [step]
      split
      · exact .same
      · rename_i hending
        have hleft : Stepped req (.middleware mode) s (.leaseDrop elapsed) _ :=
          .left true rfl (Bool.not_eq_true _ ▸ hending)
            (leaseDropOps_leaving elapsed) (·.resolve_left hending)
            fun htime _ => htime.resolve_left hending
        rwa [Bool.or_true] at hleft
  | lease =>
    rw [step]
    split
    · exact .same
    · exact .lease ‹_›

/-! ## Requests without middleware -/

/-- Loop and callback owner take turns, and the end is in one place. -/
structure Direct (route : Route) (s : Observation) : Prop where
  entered : s.entered
  leaseless : s.lease.todo = []
  waiting : s.completion.pending = none
  slot : route = .stream → s.control.pendingObservation = none
  live : isOver s.loop.stage = false → s.places = []
  single : s.places.length ≤ 1
  released : s.released → isOver s.loop.stage ∧ handOvers s.transport.todo = []
  taken : s.control.pendingObservation.isSome →
    s.released = false ∨ .emitPending ∈ s.transport.todo

section Direct

variable {route : Route} {s : Observation} {op : Op} {rest : List Op} {a : LoopAction}

theorem new_direct (hroute : route = .stream ∨ route = .buffered) (random : UInt64) :
    Direct route (new route random) where
  entered := by obtain rfl | rfl := hroute <;> rfl
  leaseless := rfl
  waiting := rfl
  slot _ := rfl
  live _ := rfl
  single := Nat.zero_le _
  released h := by cases h
  taken h := by cases h

theorem Direct.pop (h : Direct route s) (htodo : s.transport.todo = op :: rest)
    (hhanded : op.handed = none) (hop : op ≠ .emitPending ∨ s.control.pendingObservation = none)
    {events : List RetryEvent} {attempt attempts : Nat} {retryReport report : Option RetryReport} :
    Direct route { s with
      events, control := { s.control with attempt, retryReport }
      transport := { todo := rest, report, attempts } } := by
  have hhandOvers := handOvers_pop htodo hhanded
  exact { h with
    live := fun hlive => by simpa only [places, hhandOvers] using h.live hlive
    single := by simpa only [places, hhandOvers] using h.single
    released := hhandOvers ▸ h.released
    taken := fun hsome => by
      refine (h.taken hsome).imp_right fun hmem => ?_
      rw [htodo] at hmem
      obtain rfl | hmem := List.mem_cons.mp hmem
      · obtain hne | hnone := hop
        · exact absurd rfl hne
        · change s.control.pendingObservation.isSome at hsome
          rw [hnone] at hsome
          cases hsome
      · exact hmem }

theorem Direct.handing (h : Direct route s) (htodo : s.transport.todo = .handOver t :: rest) :
    handOvers rest = [] ∧ s.control.pendingObservation = none ∧ s.terminals = [] ∧
      isOver s.loop.stage ∧ s.released = false := by
  have hplaces : s.places = t :: (handOvers rest ++ s.control.pendingObservation.toList ++
      s.completion.pending.toList ++ s.terminals) := by
    rw [places, htodo]
    rfl
  have hempty : handOvers rest ++ s.control.pendingObservation.toList ++
      s.completion.pending.toList ++ s.terminals = [] := by
    have hsingle := h.single
    rw [hplaces, List.length_cons] at hsingle
    exact List.eq_nil_of_length_eq_zero (by omega)
  simp only [List.append_eq_nil_iff, Option.toList_eq_nil_iff] at hempty
  refine ⟨hempty.1.1.1, hempty.1.1.2, hempty.2, ?_, ?_⟩
  · by_contra hlive
    rw [h.live (Bool.not_eq_true _ ▸ hlive)] at hplaces
    cases hplaces
  · by_contra hreleased
    have hnone := (h.released (Bool.not_eq_false _ ▸ hreleased)).2
    rw [htodo] at hnone
    cases hnone

theorem Direct.waits (h : Direct route s) (hpending : s.control.pendingObservation = some t) :
    handOvers s.transport.todo = [] ∧ s.terminals = [] := by
  have hsingle := h.single
  simp only [places, hpending, h.waiting, Option.toList_some, Option.toList_none,
    List.append_nil, List.length_append, List.length_singleton] at hsingle
  exact ⟨List.eq_nil_of_length_eq_zero (by omega), List.eq_nil_of_length_eq_zero (by omega)⟩

theorem Direct.token (h : Direct route s) (hover : isOver s.loop.stage) {todo : List Op}
    {pendingObservation : Option TerminalObservation} {terminals : List TerminalObservation}
    (hplaces : (handOvers todo ++ pendingObservation.toList ++ terminals).length ≤ 1)
    (hslot : route = .stream → pendingObservation = none)
    (hreleased : s.released → handOvers todo = [])
    (htaken : pendingObservation.isSome → s.released = false) :
    Direct route { s with
      terminals, control := { s.control with pendingObservation }
      transport := { s.transport with todo } } :=
  { h with
    slot := hslot
    live := fun hlive => by rw [hover] at hlive; cases hlive
    single := by simpa only [places, h.waiting, Option.toList_none, List.append_nil] using hplaces
    released := fun hflag => ⟨hover, hreleased hflag⟩
    taken := fun hsome => .inl (htaken hsome) }

theorem Direct.runs (hroute : route = .stream ∨ route = .buffered) (hs : Coherent s)
    (h : Direct route s) (htodo : s.transport.todo = op :: rest) :
    Coherent (s.runs route op rest) ∧ Direct route (s.runs route op rest) := by
  by_cases hplain : op.plain
  · obtain ⟨_, _, _, _, _, heq, hevents, hattempt, -⟩ :=
      exec_plain route s { s.transport with todo := rest } hplain
    obtain ⟨hhanded, hne, -⟩ := Op.plain_cases hplain
    rw [Observation.runs, heq]
    exact ⟨hs.pop_transport htodo hhanded hattempt hevents, h.pop htodo hhanded (.inl hne)⟩
  cases op with
  | handOver t =>
    obtain ⟨hhandOvers, hpending, hterminals, hover, hreleased⟩ := h.handing htodo
    have hfits : s.Fits t := hs.fits t (by rw [places, htodo]; exact List.mem_cons_self)
    obtain rfl | rfl := hroute
    · exact ⟨hs.token_transport htodo (by simp) rfl (by simp)
          (by simpa [hpending, h.waiting] using hfits) (by simp)
          fun _ => ⟨hterminals, hpending, h.waiting⟩,
        h.token hover (by simp [hhandOvers, hpending, hterminals]) (fun _ => hpending)
          (by simp [hreleased]) fun _ => hreleased⟩
    · exact ⟨hs.token_transport htodo (by simp) (List.append_nil _).symm rfl
          (by simpa [h.waiting] using hfits) (by simp) fun h => absurd rfl h,
        h.token hover (by simp [hhandOvers, hterminals]) nofun (by simp [hreleased])
          fun _ => hreleased⟩
  | emitPending =>
    cases hpending : s.control.pendingObservation with
    | none =>
      simp only [Observation.runs, exec, hpending]
      exact ⟨hs.pop_transport htodo rfl (.inl rfl) (List.append_nil _).symm,
        h.pop htodo rfl (.inr hpending)⟩
    | some t =>
      obtain ⟨hhandOvers, hterminals⟩ := h.waits hpending
      have hfits : s.Fits { t with report := s.transport.report.getD {} } :=
        hs.fits t (by simp [places, hpending])
      have hover : isOver s.loop.stage := by
        by_contra hlive
        have hnone := h.live (Bool.not_eq_true _ ▸ hlive)
        simp [places, hpending] at hnone
      have hrest : handOvers rest = [] := (handOvers_pop htodo rfl).symm.trans hhandOvers
      simp only [Observation.runs, exec, hpending, emit]
      exact ⟨hs.token_transport htodo (by simp) rfl (by simp) (by simpa [h.waiting] using hfits)
          (by simp) fun _ => ⟨hterminals, rfl, h.waiting⟩,
        h.token hover (by simp [hrest, hterminals]) (fun _ => rfl) (by simp [hrest]) nofun⟩
  | finish outcome => exact absurd (hs.sorted.2 _ (mem_head htodo)) (by simp)
  | _ => exact absurd rfl hplain

theorem Direct.advance (hs : Coherent s) (h : Direct route s) (hidle : s.transport.todo = [])
    (hreleased : s.released = false) (req : RetryRequest) {tail : LoopStage → List Op}
    (htail : ∀ stage, Closing (tail stage)) : Direct route (s.advance req route a tail) := by
  obtain ⟨added, ops, hops, -, -, -, hadded, heq⟩ := advance_eq hs.shape req route a tail htail
  rw [heq]
  have hplaces := places_advanced hidle (s.loop.step req route.mode a) (added.flatMap callOps)
    hops.trailing
  exact { h with
    live := fun hlive => by
      obtain ⟨hnone, hbefore⟩ := hadded.live hlive
      rw [hplaces, hnone, h.live hbefore]
      rfl
    single := by
      rw [hplaces, List.length_append]
      by_cases hover : isOver s.loop.stage
      · rw [(hadded.isOver hover).1]
        exact Nat.le_trans (Nat.le_of_eq (Nat.zero_add _)) h.single
      · rw [h.live (Bool.not_eq_true _ ▸ hover)]
        exact hadded.once
    released := fun hflag => by rw [hreleased] at hflag; cases hflag
    taken := fun _ => .inl hreleased }

theorem Direct.settleWith (h : Direct route s) (hidle : s.transport.todo = [])
    (hover : isOver s.loop.stage) (hops : Settling ops) : Direct route (s.settleWith ops) := by
  obtain ⟨htrailing, hemits⟩ := hops.trailing
  have hplaces := places_settleWith hidle htrailing
  exact { h with
    live := fun hlive => hplaces.trans (h.live hlive)
    single := hplaces ▸ h.single
    released := fun _ => ⟨hover, htrailing.handOvers⟩
    taken := fun _ => .inr hemits }

theorem Direct.step (hroute : route = .stream ∨ route = .buffered) (hs : Coherent s)
    (h : Direct route s) (req : RetryRequest) (a : ObserverAction) :
    Coherent (s.step req route a) ∧ Direct route (s.step req route a) := by
  have hstep := hs.stepped req route a
  generalize s.step req route a = s' at hstep ⊢
  cases hstep with
  | same => exact ⟨hs, h⟩
  | flags hentered hgone hstill hcancelled =>
    refine ⟨hs.flags (fun habsent => hs.absent (hentered habsent)) hgone hstill hcancelled,
      { h with entered := ?_ }⟩
    refine eq_true_of_ne_false fun habsent => ?_
    have habsent := hentered habsent
    rw [h.entered] at habsent
    cases habsent
  | @advanced caught b tail hentered hidle hpasses htail hends hopen =>
    have hreleased : s.released = false := hopen.elim id fun hlive => by
      by_contra hflag
      rw [(h.released (Bool.not_eq_false _ ▸ hflag)).1] at hlive
      cases hlive
    have hs' : Coherent { s with caught } := hs.flags hs.absent hs.gone id id
    have h' : Direct route { s with caught } := { h with }
    exact ⟨hs'.advance hentered hidle hpasses req route htail,
      h'.advance hs' hidle hreleased req htail⟩
  | transport htodo => exact h.runs hroute hs htodo
  | settled hidle hover hops =>
    exact ⟨hs.settleWith hidle hops.trailing.1, h.settleWith hidle hover hops⟩
  | left cancels hmiddleware => obtain rfl | rfl := hroute <;> cases hmiddleware
  | lease htodo =>
    rw [h.leaseless] at htodo
    cases htodo

end Direct

end Observation

end OpenNet.Http
