import OpenNet.Ws.RequestOutcome

/-!
# At-most-once delivery

The life of one request, over any number of connections: it is admitted to a queue once, a
writer takes it, handles it and may put it back, and everybody else goes on around it.
-/

namespace OpenNet.Ws

/-- A request between queues and writers. -/
structure Delivery where
  net : Net
  admitted : Bool := false
  /-- The request while a writer has it, with the queue it came from. -/
  hand : Option (QueuedRequest × MessageLane) := none
  /-- What each call of the handler has given its sink. -/
  calls : List (List Submission) := []

inductive DeliveryAction where
  | offer (lane : MessageLane) (v : AdmissionView) (allocated prepared : Bool)
  | enter (lane : MessageLane) (a : QueueAction)
  | take (lane : MessageLane) (now : Nat)
  | handle (C : WriteConfig) (env : Nat → Answer) (controls : Nat)
  | abandon

namespace Delivery

variable (E : SessionConfig) (request : QueuedRequest)

def moves (s : QueueRun) : QueueAction → Bool
  | .push _ _ _ r => r.op = request.op
  | .next now => (s.queue.popReady E s.session now).1.any (·.op = request.op)
  | _ => false

/-- A section, or a call of a writer. -/
def step (s : Delivery) : DeliveryAction → Delivery
  | .offer lane v allocated prepared =>
    if s.admitted then s
    else { s with
      net := s.net.act E lane (.push v allocated prepared request), admitted := true }
  | .enter lane a =>
    -- While a writer has the request, its own sections are not open to others.
    if moves E request (s.net.queueRun lane) a ||
        (s.hand.isSome && a.concerns E request.op (s.net.queueRun lane)) then s
    else { s with net := s.net.act E lane a }
  | .take lane now =>
    match s.hand, (s.net.queues lane).popReady E s.net.session now with
    | none, (some r, queue) =>
      if r.op = request.op then
        { s with
          net := { s.net with queues := Function.update s.net.queues lane queue }
          hand := some (r, lane) }
      else s
    | _, _ => s
  | .handle C env controls =>
    match s.hand with
    | none => s
    | some (r, lane) =>
      let l : WriteLoop := { writer := { net := s.net } }
      let writer := (l.handleRequest E C env lane controls r).writer
      { s with net := writer.net, hand := none, calls := s.calls ++ [writer.wire] }
  | .abandon => { s with hand := none }

def run (s : Delivery) (acts : List DeliveryAction) : Delivery :=
  Machine.run (step E request) s acts

def new (session : Session) : Delivery where
  net := { session, queues := fun _ => {} }

/-- The first data frame of the operation was given to the sink. -/
def sendsFirst (o : OpId) (sent : List Submission) : Bool :=
  sent.any fun f => f.op = o && f.index = 0

def held (s : Delivery) : List (Option RequestRegistration) :=
  s.hand.toList.map (·.1.registration)

/-! ## The invariant -/

variable {E request}

/-- The request is in at most one place, in none once sent. -/
structure Inv (request : QueuedRequest) (s : Delivery) : Prop where
  places : (s.held ++ s.net.tickets request.op).Subperm
    (if s.admitted then [request.registration] else [])
  hand : ∀ r lane, s.hand = some (r, lane) → r.op = request.op
  once : (∀ sent ∈ s.calls, sent = []) ∨
    (s.held ++ s.net.tickets request.op = [] ∧ s.admitted ∧
      s.calls.countP (sendsFirst request.op) ≤ 1)

theorem inv_new (session : Session) : Inv request (new session) where
  places := by
    simp [new, held, Net.tickets, QueueRun.tickets, WriteQueue.requests, IndexedHeap.empty,
      KeyedMap.empty]
  hand := by simp [new]
  once := .inl (by simp [new])

variable {s : Delivery}

section

variable (h : Inv request s)
include h

theorem Inv.shrinks {net : Net}
    (htickets : (net.tickets request.op).Subperm (s.net.tickets request.op)) :
    Inv request { s with net } where
  places := ((List.subperm_append_left s.held).mpr htickets).trans h.places
  hand := h.hand
  once := by
    refine h.once.imp_right fun ⟨hempty, hrest⟩ => ⟨?_, hrest⟩
    have hnone := ((List.subperm_append_left s.held).mpr htickets)
    rw [hempty] at hnone
    exact List.subperm_nil.mp hnone

theorem Inv.abandon : Inv request { s with hand := none } where
  places := (List.sublist_append_right _ _).subperm.trans h.places
  hand := by simp
  once := by
    refine h.once.imp_right fun ⟨hempty, hrest⟩ => ⟨?_, hrest⟩
    exact (List.append_eq_nil_iff.mp hempty).2

theorem Inv.offer (lane : MessageLane) (v : AdmissionView) (allocated prepared : Bool) :
    Inv request (s.step E request (.offer lane v allocated prepared)) := by
  rw [step]
  split
  · exact h
  rename_i hadmitted
  have hplaces := h.places
  rw [if_neg hadmitted] at hplaces
  obtain ⟨hheld, hqueued⟩ := List.append_eq_nil_iff.mp (List.subperm_nil.mp hplaces)
  have htickets := s.net.act_tickets E request.op lane (.push v allocated prepared request)
  rw [QueueRun.brought, if_pos rfl, hqueued, List.append_nil] at htickets
  refine ⟨?_, h.hand, .inl ?_⟩
  · change (s.held ++ _).Subperm [request.registration]
    rw [hheld]
    exact htickets
  · rcases h.once with hnone | ⟨-, hyes, -⟩
    · exact hnone
    · exact absurd hyes hadmitted

theorem Inv.enter (lane : MessageLane) (a : QueueAction) :
    Inv request (s.step E request (.enter lane a)) := by
  rw [step]
  split
  · exact h
  rename_i hmoves
  rw [Bool.or_eq_true, not_or] at hmoves
  refine h.shrinks ?_
  have hbrought : QueueRun.brought request.op a = [] := by
    unfold QueueRun.brought
    split
    · rw [if_neg (by simpa [moves] using hmoves.1)]
    · rfl
  have htickets := s.net.act_tickets E request.op lane a
  rwa [hbrought] at htickets

theorem Inv.take (lane : MessageLane) (now : Nat) :
    Inv request (s.step E request (.take lane now)) := by
  rw [step]
  split
  · rename_i r queue hhand hpop
    split
    · rename_i hop
      obtain hnone | ⟨r', queue', hsome, hperm, -⟩ :=
        WriteQueue.popReady_cases E s.net.session (s.net.queues lane) now
      · rw [hnone] at hpop
        cases hpop
      rw [hsome] at hpop
      cases hpop
      -- The ticket moves from the queue to the writer.
      have hmoved : ([r.registration] ++ Net.tickets request.op
          { s.net with queues := Function.update s.net.queues lane queue }).Perm
            (s.net.tickets request.op) := by
        obtain ⟨rest, hbefore, hafter⟩ := s.net.tickets_split request.op lane
        have htickets := QueueRun.tickets_cons (o := request.op) hperm
        rw [if_pos hop] at htickets
        refine ((hafter _ queue).append_left _).trans (.trans ?_ hbefore.symm)
        rw [← List.append_assoc]
        exact htickets.symm.append_right rest
      have hheld : s.held = [] := by simp [held, hhand]
      have hplaces := h.places
      rw [hheld, List.nil_append] at hplaces
      refine ⟨hmoved.subperm.trans hplaces, ?_, ?_⟩
      · rintro _ _ ⟨⟩
        exact hop
      · refine h.once.imp_right fun ⟨hempty, _⟩ => ?_
        rw [hheld, List.nil_append] at hempty
        rw [hempty] at hmoved
        exact absurd hmoved.eq_nil (by simp)
    · exact h
  · exact h

/-- Where something may be sent the request has no other place, and a call that has sent something
leaves it none. -/
theorem Inv.handle (hreplay : ¬ request.Replays E) (C : WriteConfig) (env : Nat → Answer)
    (controls : Nat) : Inv request (s.step E request (.handle C env controls)) := by
  rw [step]
  split
  · exact h
  rename_i r lane hhand
  have hop := h.hand r lane hhand
  have hheld : s.held = [r.registration] := by simp [held, hhand]
  -- The writer has the only ticket, which is the one of the request.
  obtain ⟨hadmitted, hregistration, hqueued⟩ : s.admitted ∧
      r.registration = request.registration ∧ s.net.tickets request.op = [] := by
    have hplaces := h.places
    rw [hheld] at hplaces
    cases hadmitted : s.admitted with
    | false => simp [hadmitted] at hplaces
    | true =>
      rw [hadmitted, if_pos rfl] at hplaces
      have hlength := hplaces.length_le
      have hmem : r.registration ∈ [request.registration] := hplaces.subset (by simp)
      simp only [List.length_append, List.length_singleton] at hlength
      exact ⟨rfl, by simpa using hmem, List.length_eq_zero_iff.mp (by omega)⟩
  have hno : ¬ r.Replays E := by
    rwa [QueuedRequest.Replays, hregistration, hop]
  obtain ⟨action, sent, hhandled, -⟩ :=
    WriteLoop.handleRequest_spec E C env lane controls r { writer := { net := s.net } }
  obtain ⟨hwire, -, -, htickets, hspent⟩ := hhandled
  simp only [List.nil_append] at hwire
  rw [hop] at htickets hspent
  simp only [hqueued, hregistration] at htickets hspent
  have hcalls : ∀ sent ∈ s.calls, sent = [] := by
    rcases h.once with hnone | ⟨hempty, -⟩
    · exact hnone
    · rw [hheld] at hempty
      cases hempty
  refine ⟨?_, by simp, ?_⟩
  · rw [if_pos hadmitted]
    exact htickets
  · by_cases hsent : sent = []
    · refine .inl fun call hcall => ?_
      rcases List.mem_append.mp hcall with hold | hnew
      · exact hcalls call hold
      · rw [List.mem_singleton.mp hnew, hwire, hsent]
    · refine .inr ⟨List.subperm_nil.mp (hspent hsent hno), hadmitted, ?_⟩
      have hzero : s.calls.countP (sendsFirst request.op) = 0 :=
        List.countP_eq_zero.mpr fun call hcall => by simp [hcalls call hcall, sendsFirst]
      rw [List.countP_append, hzero, Nat.zero_add]
      exact List.countP_le_length

theorem Inv.step (hreplay : ¬ request.Replays E) (a : DeliveryAction) :
    Inv request (s.step E request a) := by
  cases a with
  | offer lane v allocated prepared => exact h.offer lane v allocated prepared
  | enter lane a => exact h.enter lane a
  | take lane now => exact h.take lane now
  | handle C env controls => exact h.handle hreplay C env controls
  | abandon => exact h.abandon

end

theorem inv_run (hreplay : ¬ request.Replays E) (session : Session)
    (acts : List DeliveryAction) : Inv request ((new session).run E request acts) :=
  Machine.run_invariant (fun _ a h => h.step hreplay a) acts (inv_new session)

/-- **The first frame of a request is given to a sink in at most one call**, over any number of
connections, if it is tracked or has no policy that allows a replay; it is in a queue or with a
writer only as long as nothing of it was given to a sink. -/
theorem wire_delivery_once (E : SessionConfig) (request : QueuedRequest)
    (hreplay : request.registration.isSome = true ∨
      (E.control request.op).retryPolicy.any (·.allowsReplay) = false)
    (session : Session) (acts : List DeliveryAction) :
    ((new session).run E request acts).calls.countP (sendsFirst request.op) ≤ 1 ∧
      (((new session).run E request acts).hand.isSome = true ∨
          ((new session).run E request acts).net.tickets request.op ≠ [] →
        ∀ sent ∈ ((new session).run E request acts).calls, sent = []) := by
  have hno : ¬ request.Replays E := by
    rintro ⟨hnone, hallowed⟩
    rcases hreplay with hsome | hforbidden
    · simp [hnone] at hsome
    · rw [hforbidden] at hallowed
      cases hallowed
  have hinv := inv_run hno session acts
  rcases hinv.once with hnone | ⟨hempty, -, hcount⟩
  · refine ⟨?_, fun _ => hnone⟩
    have hzero : ((new session).run E request acts).calls.countP (sendsFirst request.op) = 0 :=
      List.countP_eq_zero.mpr fun call hcall => by simp [hnone call hcall, sendsFirst]
    omega
  · refine ⟨hcount, fun hplace => ?_⟩
    obtain ⟨hheld, hqueued⟩ := List.append_eq_nil_iff.mp hempty
    rcases hplace with hhand | htickets
    · rw [Option.isSome_iff_exists] at hhand
      obtain ⟨hand, hhand⟩ := hhand
      simp [held, hhand] at hheld
    · exact absurd hqueued htickets

/-! ## One message -/

def plainConfig : SessionConfig where
  clientId := 1
  sessionId := 1
  grace := 5
  maxDispatches := 4
  instantMax := 1000
  control o :=
    { clientId := 1, sessionId := 1, id := o, lane := .normal, tracked := false
      retryPolicy := none, deadline := none, deadlinePhase := .write, group := false
      tracked_noRetry := fun _ => rfl }

def plainMessage : QueuedRequest where
  message := .text [104, 105]
  config := { writeTimeout := 10, disconnected := .waitForReconnect }
  op := 0
  sequence := 0

/-- A message for a second connection, the first being cancelled. -/
def plainRun : List DeliveryAction :=
  [.offer .normal { now := 0 } true true,
    .enter .normal (.commitPrepared { now := 0 } true 0),
    .take .normal 1,
    .handle ⟨1, none, 10⟩ (fun i => { connectionCancelled := 3 < i }) 16,
    .take .normal 2,
    .handle ⟨2, none, 10⟩ (fun _ => {}) 16]

theorem wire_delivery_once_plain :
    ((new { ops := fun _ => .new (.message (.text [104, 105])) 7 0 }).run plainConfig
        plainMessage plainRun).calls = [[], [⟨0, 0, .message (.text [104, 105]), true⟩]] ∧
      ((new { ops := fun _ => .new (.message (.text [104, 105])) 7 0 }).run plainConfig
        plainMessage plainRun).calls.countP (sendsFirst 0) ≤ 1 :=
  ⟨by decide +kernel, (wire_delivery_once plainConfig plainMessage (.inr rfl) _ plainRun).1⟩

end Delivery

end OpenNet.Ws
