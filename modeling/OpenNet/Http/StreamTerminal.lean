import OpenNet.Http.StreamCleanup

/-!
# The end of a response body

What a consumer sees of a streaming response, for every interleaving of its polls with the
supervisor, with cancellations and with the drop of the handle.
-/

namespace OpenNet.Http

namespace Item

/-- Chunks, at most one error, and then only the end. -/
def Sequence (items : List Item) : Prop :=
  ∃ (chunks : List (List UInt8)) (errors : List NetError) (n : Nat),
    items = chunks.map .chunk ++ errors.map .failed ++ List.replicate n .ended ∧ errors.length ≤ 1

end Item

namespace BodyEvent

@[simp] def isCommitted : BodyEvent → Bool
  | .committed _ => true
  | _ => false

@[simp] def acceptedChunk : BodyEvent → Option (List UInt8)
  | .accepted bytes => some bytes
  | _ => none

@[simp] def deliveredItem : BodyEvent → Option Item
  | .delivered item => some item
  | _ => none

@[simp] def endsStream : BodyEvent → Bool
  | .delivered item => item.terminal
  | _ => false

def items (trace : List BodyEvent) : List Item := trace.filterMap deliveredItem

def acceptedChunks (trace : List BodyEvent) : List (List UInt8) := trace.filterMap acceptedChunk

def deliveredChunks (trace : List BodyEvent) : List (List UInt8) :=
  (items trace).filterMap Item.bytes

section

variable (trace : List BodyEvent) (e : BodyEvent)

theorem items_snoc : items (trace ++ [e]) = items trace ++ e.deliveredItem.toList := by
  cases e <;> simp [items, List.filterMap_cons]

theorem acceptedChunks_snoc :
    acceptedChunks (trace ++ [e]) = acceptedChunks trace ++ e.acceptedChunk.toList := by
  cases e <;> simp [acceptedChunks, List.filterMap_cons]

theorem deliveredChunks_snoc : deliveredChunks (trace ++ [e]) =
      deliveredChunks trace ++ (e.deliveredItem.bind Item.bytes).toList := by
  rw [deliveredChunks, items_snoc, List.filterMap_append]
  cases e with
  | delivered item => cases item <;> simp [deliveredChunks]
  | committed | accepted | cleaned => simp [deliveredChunks]

end

/-- No chunk passes after the commit, no cleanup follows the end. -/
def Precedes (e e' : BodyEvent) : Prop :=
  (e.isCommitted → e'.acceptedChunk = none) ∧ (e.endsStream → e'.cleanedStage = none)

theorem pairwise_snoc {trace : List BodyEvent} (h : trace.Pairwise Precedes) {e : BodyEvent}
    (hall : ∀ e' ∈ trace, Precedes e' e) : (trace ++ [e]).Pairwise Precedes := by
  refine List.pairwise_append.mpr ⟨h, List.pairwise_singleton _ _, ?_⟩
  intro e' he' e'' he''
  obtain rfl := List.mem_singleton.mp he''
  exact hall e' he'

/-- Nothing that comes after `e` is what `e` excludes. -/
theorem precedes_of_split {before after : List BodyEvent} {e : BodyEvent}
    (h : (before ++ e :: after).Pairwise Precedes) : ∀ e' ∈ after, Precedes e e' :=
  (List.pairwise_cons.mp (List.pairwise_append.mp h).2.1).1

end BodyEvent

open BodyEvent

/-- Between two polls, or in one that found the stream finished. -/
def Consumer.Waits (c : Consumer) : Prop :=
  c = .idle ∨ ∃ answer, c = .answer answer ∧ answer.finished

/-- The steps of a poll answered `answer`, and of the cleanups. -/
def BodyAction.Cleans (answer : BodyAction) : BodyAction → Prop
  | .proceed | .cleanup _ => True
  | a => a = answer

/-- The steps that are left of a cleanup. -/
def Job.left (job : Job) : Nat :=
  match job.stage with
  | .body => 6
  | .slot => 5
  | .permit => 4
  | .registry => 3
  | .observer => 2
  | .publish => 1

/-- More steps than a poll without a cleanup has left. -/
def Consumer.left : Consumer → Nat
  | .idle => 0
  | .answer _ => 1
  | .clean job _ => job.left + 2
  | .lockBody _ _ => 9
  | .dropBody _ _ => 10
  | .pollTransport => 11

namespace System

variable {shared : SharedBody}

/-- The stream goes on for the consumer, or has ended for good. -/
inductive Feed (trace : List BodyEvent) (state : BodyState) (consumer : Consumer) : Prop
  | flowing (h : ∀ item ∈ items trace, item.terminal = false)
  | ended (hseq : Item.Sequence (items trace)) (hready : state.terminalReady)
      (herror : state.terminalError = none) (hwaits : consumer.Waits)

/-- What the trace says, given shared state and consumer. -/
structure History (trace : List BodyEvent) (state : BodyState) (consumer : Consumer) : Prop where
  commits : (trace.filter isCommitted).length = if state.finished then 1 else 0
  ordered : trace.Pairwise Precedes
  flow : acceptedChunks trace = deliveredChunks trace ++ consumer.inFlight
  feed : Feed trace state consumer
  open_answer : ∀ answer item, consumer.rest = some answer → answer.finished = false →
    answer.result = some item → item.terminal = false

namespace History

variable {trace : List BodyEvent} {state state' : BodyState} {consumer consumer' : Consumer}

section

variable (h : History trace state consumer)
include h

theorem flowing (hready : state.terminalReady = false) :
    ∀ item ∈ items trace, item.terminal = false := by
  cases h.feed with
  | flowing hall => exact hall
  | ended _ hnot _ _ =>
    rw [hready] at hnot
    cases hnot

theorem not_ended (hready : state.terminalReady = false) : ∀ e ∈ trace, e.endsStream = false := by
  intro e he
  cases e with
  | delivered item => exact h.flowing hready item (List.mem_filterMap.mpr ⟨_, he, rfl⟩)
  | committed | accepted | cleaned => rfl

theorem not_committed (hopen : state.finished = false) : ∀ e ∈ trace, e.isCommitted = false := by
  intro e he
  have hnone : trace.filter isCommitted = [] := by
    have hlen := h.commits
    rw [hopen] at hlen
    exact List.length_eq_zero_iff.mp hlen
  by_contra hcommitted
  have hmem : e ∈ trace.filter isCommitted :=
    List.mem_filter.mpr ⟨he, by simpa using hcommitted⟩
  rw [hnone] at hmem
  cases hmem

theorem move (hfinished : state'.finished = state.finished)
    (hflight : consumer'.inFlight = consumer.inFlight)
    (hfeed : Feed trace state consumer → Feed trace state' consumer')
    (hopen : ∀ answer item, consumer'.rest = some answer → answer.finished = false →
      answer.result = some item → item.terminal = false) : History trace state' consumer' := by
  refine ⟨?_, h.ordered, ?_, hfeed h.feed, hopen⟩
  · rw [hfinished]
    exact h.commits
  · rw [hflight]
    exact h.flow

theorem follows (hready : state.terminalReady = false)
    (hfinished : state'.finished = state.finished) (hfollows : consumer.Follows consumer') :
    History trace state' consumer' := by
  have hflowing : Feed trace state consumer → Feed trace state' consumer' := fun _ =>
    .flowing (h.flowing hready)
  obtain hrest | ⟨hnone, hlate⟩ := hfollows
  · exact h.move hfinished (by simp [Consumer.inFlight, hrest]) hflowing
      fun answer item hanswer => h.open_answer answer item (hrest.symm.trans hanswer)
  · refine h.move hfinished ?_ hflowing fun left item hrest hopen => ?_
    · rw [Consumer.inFlight, Consumer.inFlight, hnone]
      cases hrest : consumer'.rest with
      | none => rfl
      | some left => simp [(hlate left hrest).1]
    · rw [(hlate left hrest).1] at hopen
      cases hopen

theorem committed (hopen : state.finished = false) (hready : state.terminalReady = false)
    (hfinished : state'.finished) (error : Option NetError) :
    History (trace ++ [.committed error]) state' consumer := by
  refine ⟨?_, ?_, ?_, ?_, h.open_answer⟩
  · have hlen := h.commits
    rw [hopen] at hlen
    simp [hfinished, List.filter_append, List.filter_cons, hlen]
  · refine pairwise_snoc h.ordered fun e _ => ⟨fun _ => rfl, fun _ => rfl⟩
  · simpa [acceptedChunks_snoc, deliveredChunks_snoc] using h.flow
  · refine .flowing ?_
    simpa [items_snoc] using h.flowing hready

theorem cleaned (hready : state.terminalReady = false) (stage : CleanupStage) :
    History (trace ++ [.cleaned stage]) state consumer := by
  refine ⟨?_, ?_, ?_, ?_, h.open_answer⟩
  · simpa [List.filter_append] using h.commits
  · refine pairwise_snoc h.ordered fun e he => ⟨fun _ => rfl, fun hends => ?_⟩
    rw [h.not_ended hready e he] at hends
    cases hends
  · simpa [acceptedChunks_snoc, deliveredChunks_snoc] using h.flow
  · refine .flowing ?_
    simpa [items_snoc] using h.flowing hready

end

theorem accepted (h : History trace state .pollTransport) (hopen : state.finished = false)
    (hready : state.terminalReady = false) (hstate : state'.finished = false)
    {result : Option Item} (hresult : ∀ item, result = some item → item.terminal = false) :
    History (trace ++ ((result.bind Item.bytes).map .accepted).toList) state'
      (.dropBody false (some { finished := false, result })) := by
  have hanswer : ∀ answer item,
      (Consumer.dropBody false (some { finished := false, result })).rest = some answer →
      answer.finished = false → answer.result = some item → item.terminal = false := by
    intro answer item hrest _ hitem
    cases hrest
    exact hresult item hitem
  cases result with
  | none =>
    simp only [Option.bind_none, Option.map_none, Option.toList_none, List.append_nil]
    exact h.move (hstate.trans hopen.symm) rfl (fun _ => .flowing (h.flowing hready)) hanswer
  | some item =>
    cases item with
    | chunk bytes =>
      refine ⟨?_, ?_, ?_, ?_, hanswer⟩
      · rw [hstate, ← hopen]
        simpa [List.filter_append, List.filter_cons] using h.commits
      · refine pairwise_snoc h.ordered fun e he => ⟨fun hcommitted => ?_, fun _ => rfl⟩
        rw [h.not_committed hopen e he] at hcommitted
        cases hcommitted
      · have hflow : acceptedChunks trace = deliveredChunks trace := by
          simpa [Consumer.inFlight, Consumer.rest] using h.flow
        simp [acceptedChunks_snoc, deliveredChunks_snoc, hflow, Consumer.inFlight, Consumer.rest]
      · refine .flowing ?_
        simpa [items_snoc] using h.flowing hready
    | failed | ended => cases hresult _ rfl

theorem delivered {answer : Answer} {item : Item} (h : History trace state (.answer answer))
    (hopen : answer.finished = false) (hitem : answer.result = some item) :
    History (trace ++ [.delivered item]) state .idle := by
  have hchunk : item.terminal = false := h.open_answer answer item rfl hopen hitem
  have hflowing : ∀ item ∈ items trace, item.terminal = false := by
    cases h.feed with
    | flowing hall => exact hall
    | ended _ _ _ hwaits =>
      rcases hwaits with hidle | ⟨answer', heq, hfinished⟩
      · cases hidle
      cases heq
      rw [hopen] at hfinished
      cases hfinished
  refine ⟨?_, ?_, ?_, ?_, fun _ _ hrest => by cases hrest⟩
  · simpa [List.filter_append, List.filter_cons] using h.commits
  · exact pairwise_snoc h.ordered fun e _ => ⟨fun _ => rfl, fun _ => rfl⟩
  · have hflow := h.flow
    simp only [Consumer.inFlight, Consumer.rest, hopen, hitem] at hflow
    simpa [acceptedChunks_snoc, deliveredChunks_snoc, Consumer.inFlight, Consumer.rest] using hflow
  · refine .flowing ?_
    intro item' hmem
    rw [items_snoc, List.mem_append] at hmem
    rcases hmem with hmem | hmem
    · exact hflowing item' hmem
    · obtain rfl : item' = item := by simpa using hmem
      exact hchunk

end History

theorem items_eq_map {items : List Item} (h : ∀ item ∈ items, item.terminal = false) :
    ∃ chunks : List (List UInt8), items = chunks.map .chunk := by
  induction items with
  | nil => exact ⟨[], rfl⟩
  | cons item items ih =>
    obtain ⟨chunks, rfl⟩ := ih fun i hi => h i (List.mem_cons_of_mem _ hi)
    cases item with
    | chunk bytes => exact ⟨bytes :: chunks, rfl⟩
    | failed | ended => cases h _ List.mem_cons_self

variable {s : System}

/-- The item that ends the stream goes after everything else, and an error is given out once. -/
theorem sequence_terminalItem {trace : List BodyEvent} {consumer : Consumer}
    (hfeed : Feed trace s.state consumer) :
    Item.Sequence (items trace ++ [s.terminalItem shared]) := by
  cases hfeed with
  | flowing hall =>
    obtain ⟨chunks, hchunks⟩ := items_eq_map hall
    unfold terminalItem
    cases s.state.terminalError with
    | none => exact ⟨chunks, [], 1, by simp [hchunks], by simp⟩
    | some error => exact ⟨chunks, [s.annotate shared error], 0, by simp [hchunks], by simp⟩
  | ended hseq _ herror _ =>
    obtain ⟨chunks, errors, n, hitems, hle⟩ := hseq
    refine ⟨chunks, errors, n + 1, ?_, hle⟩
    simp [terminalItem, herror, hitems, List.replicate_succ']

/-! ## Every step -/

/-- The trace, the shared state and the consumer of `s` agree. -/
def Told (s : System) : Prop := History s.trace s.state s.consumer

theorem Told.closed (h : Told s) (hown : Owned s) (hopen : s.state.finished = false)
    (error : Option NetError) {pending : Option Cleanup} {polling handle : Bool}
    {others : List Job} {consumer : Consumer} (hfollows : s.consumer.Follows consumer) :
    Told (({ s with handle, others, consumer, state := { s.state with polling } } : System).closed
      error pending) := by
  have hready := (hown.of_open hopen).1.ready
  have hcommitted : Told (s.closed error pending) := h.committed hopen hready rfl error
  exact hcommitted.follows hready rfl hfollows

theorem accept_trace (s : System) (result : Option Item) :
    (s.accept result).trace = s.trace ++ ((result.bind Item.bytes).map .accepted).toList := by
  cases result with
  | none => simp [accept]
  | some item => cases item <;> simp [accept, log]

section Steps

variable {s : System} {a : BodyAction}

variable {consumer : Consumer}

theorem Told.answered (h : Told s) (hwaits : consumer.Waits) (hflight : s.consumer.inFlight = [])
    (hlate : consumer.inFlight = [] ∧ ∀ answer item, consumer.rest = some answer →
      answer.finished = false → answer.result = some item → item.terminal = false) :
    Told { s with consumer } := by
  refine h.move rfl (hlate.1.trans hflight.symm) (fun hfeed => ?_) hlate.2
  cases hfeed with
  | flowing hall => exact .flowing hall
  | ended hseq hready herror _ => exact .ended hseq hready herror hwaits

theorem told_ends (h : Told s) {answer : Answer} (hc : s.consumer = .answer answer)
    (hfinished : answer.finished) (hready : s.state.terminalReady) :
    Told { s with
      state := { s.state with terminalError := none }, consumer := .idle
      trace := s.trace ++ [.delivered (s.terminalItem shared)] } := by
  have hbytes : (s.terminalItem shared).bytes = none := by
    unfold terminalItem
    split <;> rfl
  refine ⟨?_, ?_, ?_, ?_, fun _ _ hrest => by cases hrest⟩
  · simpa [List.filter_append, List.filter_cons] using h.commits
  · exact pairwise_snoc h.ordered fun e _ => ⟨fun _ => rfl, fun _ => rfl⟩
  · have hflow := h.flow
    simp only [hc, Consumer.inFlight, Consumer.rest, hfinished, if_true, List.append_nil] at hflow
    rw [acceptedChunks_snoc, deliveredChunks_snoc, deliveredItem, Option.bind_some, hbytes]
    simpa [Consumer.inFlight, Consumer.rest] using hflow
  · refine .ended ?_ hready rfl (.inl rfl)
    rw [items_snoc]
    exact sequence_terminalItem h.feed

/-- A nonempty chunk renews the idle deadline; other answers leave it. -/
def Renews (shared : SharedBody) (s : System) (a : BodyAction) (budget : TimeoutBudget) : Prop :=
  budget = s.state.budget ∨ ∃ bytes now later, a = .transport (some (.chunk bytes)) now later ∧
    bytes ≠ [] ∧
    s.state.baseBudget.withPhase shared.clockRange later s.state.idleTimeout .idleRead = .ok budget

/-- What a step keeps while the cleanup is where it belongs. -/
structure Goes (shared : SharedBody) (s : System) (a : BodyAction) (s' : System) : Prop where
  owned : Owned s'
  told : Told s → Told s'
  base : s'.state.baseBudget = s.state.baseBudget := by rfl
  idle : s'.state.idleTimeout = s.state.idleTimeout := by rfl
  renews : Renews shared s a s'.state.budget := by exact .inl rfl

section

variable (h : Owned s)
include h

theorem goes_flags (handle cancelled : Bool) : Goes shared s a { s with handle, cancelled } where
  owned := h.quiet rfl
  told ht := ht

theorem goes_stay : Goes shared s a s := goes_flags h s.handle s.cancelled

theorem goes_turns (hpolls : s.consumer.polls) (halike : s.consumer.Alike consumer)
    (hfollows : s.consumer.Follows consumer) : Goes shared s a { s with consumer } where
  owned := h.move halike (h.follows hfollows)
  told ht := ht.follows (h.ready_of_polls hpolls) rfl hfollows

theorem goes_rests (halike : s.consumer.Alike consumer) (hflight : s.consumer.inFlight = [])
    (hwaits : consumer = .idle ∨ consumer = .answer terminal) :
    Goes shared s a { s with consumer } := by
  obtain rfl | rfl := hwaits
  · exact {
      owned := h.move halike fun left hleft => by cases hleft
      told := fun ht => ht.answered (.inl rfl) hflight ⟨rfl, fun _ _ hrest => by cases hrest⟩ }
  · exact {
      owned := h.move halike fun left hleft => by cases hleft; rfl
      told := fun ht => ht.answered (.inr ⟨terminal, rfl, rfl⟩) hflight
        ⟨rfl, fun _ _ hrest hopen => by cases hrest; cases hopen⟩ }

/-- Whoever ends a stream whose body is not checked out starts the cleanup; so does the guard of a
poll that unwound. -/
theorem goes_commits (hopen : s.state.finished = false) (error : Option NetError)
    (polling handle : Bool) (others : List Job) (consumer : Consumer)
    (hjobs : others ++ consumer.job.toList = [{ cleanup := s.due error }])
    (hpolls : consumer.polls = false) (hpolling : polling = false)
    (hdone : stages s.trace = Job.done { cleanup := s.due error })
    (hfollows : s.consumer.Follows consumer) :
    Goes shared s a (({ s with
      handle, others, consumer, state := { s.state with polling } } : System).closed error
        s.state.pendingCleanup) where
  owned := by
    obtain ⟨stands, howner, -⟩ := h.of_open hopen
    exact ⟨.cleaning _ ⟨rfl, stands.ready, stands.pending, hjobs, by simpa [closed] using hdone⟩
      howner hpolls, hpolling.trans hpolls.symm, h.follows hfollows⟩
  told ht := ht.closed h hopen error hfollows

/-- A commit while a poll has the body, by this poll or by another thread. -/
theorem goes_defers (hopen : s.state.finished = false) (error : Option NetError) {handle : Bool}
    (hpolls : s.consumer.polls) (halike : s.consumer.Alike consumer)
    (hfollows : s.consumer.Follows consumer) :
    Goes shared s a (({ s with handle, consumer } : System).closed error (some (s.due error))) where
  owned := by
    obtain ⟨stands, howner, hbody⟩ := h.of_open hopen
    refine ⟨.deferred (s.due error) ⟨rfl, stands.ready, rfl, ?_, ?_⟩ howner
      (halike.polls.trans hpolls) ?_, h.polling.trans halike.polls.symm, h.follows hfollows⟩
    · rw [← stands.jobs, jobs, jobs, ← halike.job]
      rfl
    · simpa [closed, halike.dropped] using stands.stages
    · exact hbody.trans (congrArg _ halike.checkedOut.symm)
  told ht := ht.closed h hopen error hfollows

theorem goes_advances {job job' : Job} {others : List Job} {retryReport : Option RetryReport}
    {trace : List BodyEvent} (hjob : job ∈ s.jobs) (hjobs : others ++ consumer.job.toList = [job'])
    (hcleanup : job'.cleanup = job.cleanup) (hstages : stages trace = job'.done)
    (htrace : trace = s.trace ∨ ∃ stage, trace = s.trace ++ [.cleaned stage])
    (hpolls : consumer.polls = false) (hrest : consumer.rest = s.consumer.rest) :
    Goes shared s a { s with others, consumer, retryReport, trace } := by
  obtain ⟨stands, howns, hidle⟩ := h.of_job hjob
  refine ⟨⟨.cleaning _ { stands with jobs := hjobs, stages := hstages } (hcleanup ▸ howns) hpolls,
    (h.polling.trans hidle).trans hpolls.symm, h.plain_answer _ hrest.symm⟩, fun ht => ?_, rfl, rfl,
    .inl rfl⟩
  have hfollows := ht.follows stands.ready rfl (.inl hrest)
  obtain rfl | ⟨stage, rfl⟩ := htrace
  · exact hfollows
  · exact hfollows.cleaned stands.ready stage

theorem goes_publishes {job : Job} (others : List Job) (consumer : Consumer) (hjob : job ∈ s.jobs)
    (hjobs : others ++ consumer.job.toList = []) (hdone : stages s.trace = cleanupOrder)
    (hpolls : consumer.polls = false) (hrest : consumer.rest = s.consumer.rest) :
    Goes shared s a (({ s with others, consumer } : System).publish job.report) := by
  obtain ⟨stands, -, hidle⟩ := h.of_job hjob
  exact {
    owned := ⟨.settled { stands with ready := rfl, jobs := hjobs, stages := hdone } hpolls,
      (h.polling.trans hidle).trans hpolls.symm, h.plain_answer _ hrest.symm⟩
    told := fun ht => ht.follows stands.ready rfl (.inl hrest) }

theorem pollNext_goes (hidle : s.consumer = .idle) (now : Nat) :
    Goes shared s a (s.pollNext shared now) := by
  cases hfinished : s.state.finished with
  | true =>
    have heq : s.pollNext shared now = { s with consumer := .answer terminal } := by
      simp [pollNext, arbitrate, hfinished, consumerCleans, resume, terminal]
    rw [heq]
    refine goes_rests h ?_ (by rw [hidle]; rfl) (.inr rfl)
    rw [hidle]
    exact ⟨rfl, rfl, rfl, rfl⟩
  | false =>
    obtain ⟨stands, howner, hbody⟩ := h.of_open hfinished
    have hin : s.state.body := by simpa [hidle, Consumer.checkedOut] using hbody
    rcases arbitrate_cases shared s now with heq | ⟨error, heq⟩
    · have heq' : s.pollNext shared now =
          { s with state := { s.state with body := false, polling := true },
                   consumer := .pollTransport } := by
        simp [pollNext, heq, hfinished, hin]
      rw [heq']
      -- The body leaves the state for the transport poll.
      refine { owned := ⟨?_, rfl, fun _ hrest => by cases hrest⟩, told := fun ht => ?_ }
      · refine .streaming { stands with jobs := ?_, stages := ?_ } howner rfl
        · simp [jobs, (jobs_nil stands.jobs).1, Consumer.job]
        · simpa [hidle, Consumer.dropped] using stands.stages
      · exact ht.follows stands.ready rfl (.inl (by rw [hidle]; rfl))
    · rw [finishLocked_free hfinished (h.polling.trans (by rw [hidle]; rfl))] at heq
      have heq' : s.pollNext shared now =
          { s.closed (some error) s.state.pendingCleanup with
            consumer := .clean { cleanup := s.due (some error) } (some terminal) } := by
        simp [pollNext, heq, consumerCleans, closed]
      rw [heq']
      refine goes_commits h hfinished (some error) s.state.polling s.handle s.others
        (.clean { cleanup := s.due (some error) } (some terminal)) ?_ rfl
        (h.polling.trans (by rw [hidle]; rfl)) (h.due_done hfinished (by rw [hidle]; rfl) _)
        (.inr ⟨by rw [hidle]; rfl, ?_⟩)
      · simp [(jobs_nil stands.jobs).1, Consumer.job]
      · rintro left ⟨rfl⟩
        exact ⟨rfl, rfl⟩

theorem settle_goes (hpoll : s.consumer = .pollTransport) (result : Option Item) (now later : Nat) :
    Goes shared s (.transport result now later) (s.settle shared result now later) := by
  have hpolls : s.consumer.polls := by rw [hpoll]; rfl
  have halike {answer} : s.consumer.Alike (.dropBody true answer) := by
    rw [hpoll]
    exact ⟨rfl, rfl, rfl, rfl⟩
  have hfollows {result} :
      s.consumer.Follows (.dropBody true (some { finished := true, result })) := by
    refine .inr ⟨by rw [hpoll]; rfl, ?_⟩
    rintro left ⟨rfl⟩
    exact ⟨rfl, rfl⟩
  -- A poll that finds the stream open puts the body back.
  have hreturns (result' : Option Item) (hopen : s.state.finished = false)
      (passes : ∀ item, result' = some item → item.terminal = false) {budget : TimeoutBudget}
      (renews : Renews shared s (.transport result now later) budget) {finished : Bool}
      (hfinished : finished = false) :
      Goes shared s (.transport result now later) { s.accept result' with
        state := { s.state with budget, body := true }
        consumer := .dropBody false (some { finished, result := result' }) } := by
    subst hfinished
    obtain ⟨stands, howner, -⟩ := h.of_open hopen
    refine ⟨⟨?_, h.polling.trans hpolls, fun left hleft => by cases hleft; rfl⟩, fun ht => ?_,
      rfl, rfl, renews⟩
    · refine .streaming { stands with jobs := ?_, stages := ?_ } howner rfl
      · simp [jobs, (jobs_nil stands.jobs).1, Consumer.job]
      · simpa [hpoll, Consumer.dropped] using stands.stages
    · have hpolled : History s.trace s.state .pollTransport := hpoll ▸ ht
      rw [Told, accept_trace]
      exact hpolled.accepted hopen stands.ready (by exact hopen) passes
  unfold settle
  fun_cases resolve shared s result now later with
  | case1 result hfinished =>
    simp only [hfinished, if_true]
    exact goes_turns h hpolls halike hfollows
  | case2 result hopen | case3 hopen | case4 hopen | case7 hopen =>
    have hopen : s.state.finished = false := by simpa using hopen
    rw [finishLocked_polling hopen (h.polling.trans hpolls)]
    exact goes_defers h hopen _ hpolls halike hfollows
  | case5 hopen | case8 hopen =>
    have hopen' : s.state.finished = false := by simpa using hopen
    dsimp only
    rw [if_neg hopen]
    refine hreturns _ hopen' ?_ (.inl rfl) hopen'
    rintro item ⟨⟩
    all_goals rfl
  | case6 hopen _ bytes hbytes idle budget hbudget =>
    have hopen' : s.state.finished = false := by simpa using hopen
    dsimp only
    rw [if_neg hopen]
    refine hreturns (some (.chunk bytes)) hopen' ?_
      (.inr ⟨bytes, now, later, rfl, by simpa using hbytes, hbudget⟩) hopen'
    rintro item ⟨⟩
    rfl

/-- A poll's guard ends the stream when the body is gone, or takes the cleanup left to it. -/
theorem lockBody_goes {checkedOut : Bool} {answer : Option Answer}
    (hc : s.consumer = .lockBody checkedOut answer) :
    Goes shared s a (s.lockBody shared checkedOut answer) := by
  unfold lockBody
  by_cases hgone : checkedOut ∧ s.state.finished = false
  · obtain ⟨rfl, hopen⟩ := hgone
    rw [if_pos (by simp [hopen]),
      finishLocked_free (s := { s with state := { s.state with polling := false } }) hopen rfl]
    refine goes_commits h hopen (some (s.cancelledError shared)) false s.handle s.others
      (.clean { cleanup := s.due (some (s.cancelledError shared)) } answer) ?_ rfl rfl
      (h.due_done hopen (by rw [hc]; rfl) _) (.inl (by rw [hc]; rfl))
    simp [(jobs_nil (h.of_open hopen).1.jobs).1, Consumer.job]
  · rw [if_neg (by simpa using hgone)]
    have hrest : s.consumer.rest = answer := by rw [hc]; rfl
    have hready : s.state.terminalReady = false := h.ready_of_polls (by rw [hc]; rfl)
    cases hpending : s.state.pendingCleanup with
    | some cleanup => exact {
        owned := owned_takes (s := s) h hc hpending
        told := fun ht => ht.follows hready rfl (.inl hrest.symm) }
    | none =>
      have hresume := (resume_plain (h.plain_answer answer hrest)).2.2.2.2
      exact {
        owned := owned_unlocks (s := s) h hc hpending (by cases checkedOut <;> simp_all)
        told := fun ht => ht.follows hready rfl (.inl (hresume.trans hrest.symm)) }

theorem deliver_goes {answer : Answer} (hc : s.consumer = .answer answer) :
    Goes shared s a (s.deliver shared answer) := by
  have hrests (hnothing : answer.finished ∨ answer.result = none) :
      Goes shared s a { s with consumer := .idle } := by
    refine goes_rests h (by rw [hc]; exact ⟨rfl, rfl, rfl, rfl⟩) ?_ (.inl rfl)
    rcases hnothing with hfinished | hnone
    · simp [hc, Consumer.inFlight, Consumer.rest, hfinished]
    · simp [hc, Consumer.inFlight, Consumer.rest, hnone]
  have hidle : Owned { s with consumer := .idle } :=
    h.move (by rw [hc]; exact ⟨rfl, rfl, rfl, rfl⟩) fun left hleft => by cases hleft
  unfold deliver
  cases hfinished : answer.finished with
  | false =>
    cases hresult : answer.result with
    | none => exact hrests (.inr hresult)
    | some item =>
      refine { owned := hidle.quiet (by simp), told := fun ht => ?_ }
      have hanswer : History s.trace s.state (.answer answer) := hc ▸ ht
      exact hanswer.delivered hfinished hresult
  | true =>
    fun_cases pollTerminal shared s with
    | case1 hready => exact {
        owned := hidle.quiet (by simp)
        told := fun ht => told_ends ht hc hfinished hready }
    | case2 => exact hrests (.inl hfinished)

theorem proceed_goes : Goes shared s a (s.proceed shared) := by
  unfold proceed
  split
  · exact goes_stay h
  · exact goes_stay h
  · rename_i checkedOut answer hc
    cases checkedOut with
    | false =>
      refine goes_turns h (by rw [hc]; rfl) ?_ (.inl (by rw [hc]; rfl))
      rw [hc]
      exact ⟨rfl, rfl, rfl, rfl⟩
    | true =>
      refine { owned := owned_destroys h hc, told := fun ht => ?_ }
      have hready : s.state.terminalReady = false := h.ready_of_polls (by rw [hc]; rfl)
      have hlock : History s.trace s.state (.lockBody true answer) :=
        ht.follows hready rfl (.inl (by rw [hc]; rfl))
      exact hlock.cleaned hready .body
  · rename_i checkedOut answer hc
    exact lockBody_goes h hc
  · rename_i job answer hc
    have hmem : job ∈ s.jobs := by simp [jobs, hc, Consumer.job]
    obtain ⟨stands, howns, -⟩ := h.of_job hmem
    have hothers : s.others = [] := by simpa [jobs, hc, Consumer.job] using stands.jobs
    have hrest : s.consumer.rest = answer := by rw [hc]; rfl
    rcases advance_cases shared howns stands.stages with
      ⟨_, _, job', heq, hcleanup, hdone, htrace⟩ | ⟨heq, hdone⟩
    · rw [heq]
      exact goes_advances h hmem (by simp [hothers, Consumer.job]) hcleanup hdone htrace rfl
        hrest.symm
    · obtain ⟨hpolls, hjob, -, -, hresume⟩ := resume_plain (h.plain_answer answer hrest)
      rw [heq]
      exact goes_publishes h s.others (resume answer) hmem (by simp [hothers, hjob]) hdone hpolls
        (hresume.trans hrest.symm)
  · rename_i answer hc
    exact deliver_goes h hc

theorem cleanup_goes (i : Nat) : Goes shared s a (s.step shared (.cleanup i)) := by
  rw [step]
  split
  · exact goes_stay h
  rename_i job hget
  have hmem : job ∈ s.jobs := List.mem_append_left _ (List.mem_of_getElem? hget)
  obtain ⟨stands, howns, hpolls⟩ := h.of_job hmem
  -- The job is the only one, so it is the first of the other threads'.
  obtain ⟨hothers, hnone⟩ : s.others = [job] ∧ s.consumer.job = none := by
    cases hlist : s.others with
    | nil =>
      rw [hlist] at hget
      cases hget
    | cons first more =>
      have hone := stands.jobs
      rw [jobs, hlist] at hone
      simp only [List.cons_append, List.cons.injEq, List.append_eq_nil_iff] at hone
      obtain ⟨rfl, rfl, hempty⟩ := hone
      exact ⟨rfl, by simpa using hempty⟩
  obtain rfl : i = 0 := by
    rw [hothers] at hget
    simpa using (List.getElem?_eq_some_iff.mp hget).1
  rcases advance_cases shared howns stands.stages with
    ⟨_, _, job', heq, hcleanup, hdone, htrace⟩ | ⟨heq, hdone⟩
  · simp only [heq, hothers, List.set_cons_zero]
    exact goes_advances h hmem (by simp [hnone]) hcleanup hdone htrace hpolls rfl
  · have hempty : (s.publish job.report).others.eraseIdx 0 = [] := by simp [publish, hothers]
    simp only [heq, hempty]
    exact goes_publishes h [] s.consumer hmem (by simp [hnone]) hdone hpolls rfl

/-- A commit of another thread; the handle may have been dropped for it. -/
theorem finishLocked_goes (handle : Bool) (error : Option NetError) :
    Goes shared s a ((({ s with handle } : System).finishLocked error).1.otherCleans
      (({ s with handle } : System).finishLocked error).2) := by
  cases hfinished : s.state.finished with
  | true =>
    rw [finishLocked_finished (s := { s with handle }) hfinished]
    exact goes_flags h handle s.cancelled
  | false =>
    cases hpolls : s.consumer.polls with
    | true =>
      rw [finishLocked_polling (s := { s with handle }) hfinished (h.polling.trans hpolls)]
      exact goes_defers h hfinished error hpolls (.refl _) (.refl _)
    | false =>
      rw [finishLocked_free (s := { s with handle }) hfinished (h.polling.trans hpolls)]
      obtain ⟨hothers, hjob⟩ := jobs_nil (h.of_open hfinished).1.jobs
      refine goes_commits h hfinished error s.state.polling handle
        (s.others ++ [{ cleanup := s.due error }]) s.consumer ?_ hpolls (h.polling.trans hpolls)
        (h.due_done hfinished ?_ _) (.refl _)
      · simp [hothers, hjob]
      · cases hc : s.consumer <;> simp_all [Consumer.polls, Consumer.checkedOut, Consumer.dropped]

theorem step_goes (a : BodyAction) : Goes shared s a (s.step shared a) := by
  cases a with
  | pollNext now =>
    rw [step]
    split
    · rename_i hguard
      simp only [Bool.and_eq_true, beq_iff_eq] at hguard
      exact pollNext_goes h hguard.2 now
    · exact goes_stay h
  | transport result now later =>
    rw [step]
    split
    · rename_i hpoll
      exact settle_goes h hpoll result now later
    · exact goes_stay h
  | unwind =>
    rw [step]
    split
    · rename_i hpoll
      refine goes_turns h (by rw [hpoll]; rfl) ?_ (.inl (by rw [hpoll]; rfl))
      rw [hpoll]
      exact ⟨rfl, rfl, rfl, rfl⟩
    · exact goes_stay h
  | proceed => exact proceed_goes h
  | supervise now =>
    rw [step]
    rcases arbitrate_cases shared s now with heq | ⟨error, heq⟩
    · rw [heq]
      exact goes_stay h
    · rw [heq]
      exact finishLocked_goes h s.handle (some error)
  | cancel => exact finishLocked_goes h s.handle _
  | dropHandle =>
    rw [step]
    split
    · exact finishLocked_goes h false _
    · exact goes_stay h
  | cleanup i => exact cleanup_goes h i
  | signal => exact goes_flags h s.handle true
  | publishSupervisor =>
    refine { owned := h.keep ?_ rfl (.refl _) h.plain, told := fun ht => ?_ }
    · exact fun owner hsome hcomplete =>
        ⟨{ owner with supervisorSlot := false }, by simp [hsome], hcomplete⟩
    · refine ht.move rfl rfl (fun hfeed => ?_) ht.open_answer
      cases hfeed with
      | flowing hall => exact .flowing hall
      | ended hseq hready herror hwaits => exact .ended hseq hready herror hwaits

end

end Steps

/-! ## Deadlines -/


/-- The base budget with an idle deadline on top. -/
def Budgeted (shared : SharedBody) (base : TimeoutBudget) (s : System) : Prop :=
  s.state.baseBudget = base ∧
    ∃ start, base.withPhase shared.clockRange start s.state.idleTimeout .idleRead =
      .ok s.state.budget

theorem step_budgeted {base : TimeoutBudget} (hown : Owned s) (a : BodyAction)
    (h : Budgeted shared base s) : Budgeted shared base (s.step shared a) := by
  obtain ⟨hbase, start, hstart⟩ := h
  have hgoes : Goes shared s a _ := step_goes hown a
  refine ⟨hgoes.base.trans hbase, ?_⟩
  rw [hgoes.idle]
  rcases hgoes.renews with heq | ⟨_, _, later, _, _, hbudget⟩
  · exact ⟨start, heq ▸ hstart⟩
  · exact ⟨later, hbase ▸ hbudget⟩

/-- What has happened of the cleanup is a first part of it. -/
theorem Owned.stages_prefix (h : Owned s) : stages s.trace <+: cleanupOrder := by
  have hdropped : s.consumer.dropped <+: cleanupOrder := by
    unfold Consumer.dropped
    split
    · decide
    · decide
  cases h.standing with
  | streaming stands _ _ | deferred _ stands _ _ _ =>
    rw [stands.stages]
    exact hdropped
  | cleaning job stands _ _ =>
    rw [stands.stages]
    exact job.done_prefix
  | settled stands _ => exact stands.stages.symm ▸ List.prefix_rfl

/-- The protocol of the terminal item under the budget `base`. -/
structure TerminalProtocol (shared : SharedBody) (base : TimeoutBudget) (s : System) : Prop where
  /-- The outcome is committed at most once. -/
  committed_once : (s.trace.filter isCommitted).length ≤ 1
  /-- The stages of the cleanup happen in their order, each at most once. -/
  cleaned_once : stages s.trace <+: cleanupOrder
  /-- With no thread on its way, a committed outcome has been cleaned up after. -/
  cleaned_all : ∀ error, .committed error ∈ s.trace → s.consumer = .idle → s.others = [] →
    stages s.trace = cleanupOrder
  /-- A cleanup that is on its way is finished by the steps of the threads that run it. -/
  cleaned_next : ∀ error, .committed error ∈ s.trace → ∀ result now later,
    Machine.Reaches (step shared) (BodyAction.Cleans (.transport result now later))
      (fun s' => stages s'.trace = cleanupOrder) s
  /-- The cleanup is over when an item that ends the stream is delivered. -/
  terminal_after_cleanup : ∀ before item after, s.trace = before ++ .delivered item :: after →
    item.terminal → stages before = cleanupOrder
  /-- The consumer sees chunks, at most one error, and then only the end. -/
  sequence : Item.Sequence (items s.trace)
  /-- No chunk passes its section once the outcome is committed. -/
  accepted_before_commit : ∀ before error after, s.trace = before ++ .committed error :: after →
    acceptedChunks after = []
  /-- Only chunks that passed are delivered. -/
  delivered_accepted : deliveredChunks s.trace <+: acceptedChunks s.trace
  /-- Only a nonempty chunk renews the deadline. -/
  renewed_by_chunk : ∀ a, (s.step shared a).state.budget ≠ s.state.budget →
    ∃ bytes now later, a = .transport (some (.chunk bytes)) now later ∧ bytes ≠ []
  /-- The deadline stays within the base budget. -/
  within_base : ∀ d, base.deadline = some d → ∃ d', s.state.budget.deadline = some d' ∧ d' ≤ d

theorem Told.sequence (h : Told s) : Item.Sequence (items s.trace) := by
  cases h.feed with
  | flowing hall =>
    obtain ⟨chunks, hchunks⟩ := items_eq_map hall
    exact ⟨chunks, [], 0, by simp [hchunks], by simp⟩
  | ended hseq _ _ _ => exact hseq

theorem Owned.cleaned_all (h : Owned s) (hfinished : s.state.finished)
    (hidle : s.consumer = .idle) (hothers : s.others = []) : stages s.trace = cleanupOrder := by
  have hjobs : s.jobs = [] := by simp [jobs, hidle, hothers, Consumer.job]
  cases h.standing with
  | streaming stands _ _ => cases stands.finished.symm.trans hfinished
  | deferred _ _ _ hpolls _ =>
    rw [hidle] at hpolls
    cases hpolls
  | cleaning _ stands _ _ => cases stands.jobs.symm.trans hjobs
  | settled stands _ => exact stands.stages

section

variable (shared)

theorem advance_left (s : System) (job : Job) :
    (s.advance shared job).1.consumer = s.consumer ∧ (s.advance shared job).1.others = s.others ∧
      (s.advance shared job).1.state.finished = s.state.finished ∧
      (s.advance shared job).2.elim 0 Job.left < job.left := by
  unfold advance
  cases hstage : job.stage with
  | body =>
    cases job.cleanup.body <;> cases job.cleanup.owner <;>
      simp [log, Job.left, hstage]
  | slot => simp [log, Job.left, hstage]
  | permit =>
    cases job.cleanup.owner.any (·.lease) <;> simp [log, Job.left, hstage]
  | registry => simp [log, Job.left, hstage]
  | observer =>
    cases job.cleanup.owner.any (·.lifecycle) <;> simp [log, Job.left, hstage]
  | publish => simp [publish, Job.left, hstage]

theorem resume_left {answer : Option Answer} (h : ∀ a, answer = some a → a.cleanup = none) :
    (resume answer).left ≤ 1 := by
  cases answer with
  | none => exact Nat.zero_le 1
  | some answer => simp [resume, h answer rfl, Consumer.left]

theorem deliver_frame (s : System) (answer : Answer) :
    (s.deliver shared answer).state.finished = s.state.finished ∧
      (s.deliver shared answer).others = s.others ∧ (s.deliver shared answer).consumer = .idle := by
  have hpoll : (s.pollTerminal shared).1.state.finished = s.state.finished ∧
      (s.pollTerminal shared).1.others = s.others := by
    unfold pollTerminal
    split <;> exact ⟨rfl, rfl⟩
  unfold deliver
  cases answer.finished with
  | false => cases answer.result <;> exact ⟨rfl, rfl, rfl⟩
  | true =>
    simp only [if_true]
    cases (s.pollTerminal shared).2 <;> exact ⟨hpoll.1, hpoll.2, rfl⟩

/-- A poll of a finished stream comes closer to its end with each of its steps. -/
theorem Owned.proceed_left (h : Owned s) (hfinished : s.state.finished)
    (hidle : s.consumer ≠ .idle) (hpoll : s.consumer ≠ .pollTransport) :
    (s.proceed shared).state.finished ∧ (s.proceed shared).others = s.others ∧
      (s.proceed shared).consumer.left < s.consumer.left := by
  have hplain := h.plain
  unfold proceed
  cases hc : s.consumer with
  | idle => exact absurd hc hidle
  | pollTransport => exact absurd hc hpoll
  | dropBody checkedOut answer => cases checkedOut <;> simp [log, hfinished, Consumer.left]
  | lockBody checkedOut answer =>
    rw [hc] at hplain
    have hresume : (resume answer).left ≤ 1 := resume_left hplain
    cases hcleanup : s.state.pendingCleanup with
    | none =>
      simp only [lockBody, hfinished, hcleanup, consumerCleans, Bool.not_true, Bool.and_false,
        Bool.false_eq_true, if_false, true_and]
      exact Nat.lt_of_le_of_lt hresume (show 1 < 9 by decide)
    | some cleanup =>
      simp [lockBody, hfinished, hcleanup, consumerCleans, Consumer.left, Job.left]
  | clean job answer =>
    rw [hc] at hplain
    have hresume : (resume answer).left ≤ 1 := resume_left hplain
    obtain ⟨-, hothers, hstate, hleft⟩ := advance_left shared s job
    dsimp only
    generalize s.advance shared job = next at hothers hstate hleft ⊢
    obtain ⟨s', _ | job'⟩ := next
    · exact ⟨hstate.trans hfinished, hothers,
        Nat.lt_of_le_of_lt hresume (Nat.lt_add_left _ Nat.one_lt_two)⟩
    · exact ⟨hstate.trans hfinished, hothers, Nat.add_lt_add_right hleft 2⟩
  | answer answer =>
    obtain ⟨hstate, hothers, hconsumer⟩ := deliver_frame shared s answer
    exact ⟨hstate.trans hfinished, hothers, hconsumer ▸ Nat.one_pos⟩

theorem cleanup_left {job : Job} {rest : List Job} (hothers : s.others = job :: rest) :
    (s.step shared (.cleanup 0)).state.finished = s.state.finished ∧
      (s.step shared (.cleanup 0)).consumer = s.consumer ∧
      ((s.step shared (.cleanup 0)).others.map Job.left).sum <
        ((job :: rest).map Job.left).sum := by
  obtain ⟨hconsumer, hsame, hstate, hleft⟩ := advance_left shared s job
  simp only [step, hothers, List.getElem?_cons_zero]
  generalize s.advance shared job = next at hconsumer hsame hstate hleft ⊢
  obtain ⟨s', _ | job'⟩ := next
  all_goals
    dsimp only at hsame
    exact ⟨hstate, hconsumer, by simpa [hsame, hothers] using hleft⟩

end

/-- **A cleanup on its way is finished**, whatever the transport answers to a poll that has the body
checked out. -/
theorem Owned.cleans (h : Owned s) (hfinished : s.state.finished) (result : Option Item)
    (now later : Nat) :
    Machine.Reaches (step shared) (BodyAction.Cleans (.transport result now later))
      (fun s => stages s.trace = cleanupOrder) s := by
  refine Machine.reaches_of_rank (I := fun s => Owned s ∧ s.state.finished)
    (fun s => s.consumer.left + (s.others.map Job.left).sum) (fun s hs => ?_) ⟨h, hfinished⟩
  obtain ⟨hown, hfinished⟩ := hs
  by_cases hpoll : s.consumer = .pollTransport
  · refine .inr ⟨.transport result now later, rfl, ⟨(step_goes hown _).owned, ?_⟩, ?_⟩ <;>
      simp [step, hpoll, settle, resolve, hfinished, Consumer.left]
  by_cases hidle : s.consumer = .idle
  · cases hothers : s.others with
    | nil => exact .inl (hown.cleaned_all hfinished hidle hothers)
    | cons job rest =>
      obtain ⟨hstate, hconsumer, hleft⟩ := cleanup_left shared hothers
      refine .inr ⟨.cleanup 0, trivial, ⟨(step_goes hown _).owned, hstate.trans hfinished⟩, ?_⟩
      rw [hconsumer]
      exact Nat.add_lt_add_left hleft _
  · obtain ⟨hstate, hothers, hleft⟩ := hown.proceed_left shared hfinished hidle hpoll
    refine .inr ⟨.proceed, trivial, ⟨(step_goes hown _).owned, hstate⟩, ?_⟩
    change (s.proceed shared).consumer.left + ((s.proceed shared).others.map Job.left).sum < _
    rw [hothers]
    omega

/-- An item that ends the stream comes after the whole cleanup. -/
theorem terminal_after_stages (hown : Owned s) (h : Told s)
    {before after : List BodyEvent} {item : Item}
    (htrace : s.trace = before ++ .delivered item :: after) (hitem : item.terminal) :
    stages before = cleanupOrder := by
  have hready : s.state.terminalReady := by
    by_contra hnot
    have hmem : .delivered item ∈ s.trace := by simp [htrace]
    have hends := h.not_ended (by simpa using hnot) _ hmem
    rw [endsStream, hitem] at hends
    cases hends
  have hall : stages s.trace = cleanupOrder := (hown.of_ready hready).stages
  have hnone : stages after = [] := by
    rw [stages, List.filterMap_eq_nil_iff]
    intro e he
    have hordered := h.ordered
    rw [htrace] at hordered
    exact (precedes_of_split hordered e he).2 hitem
  have hsplit : before ++ .delivered item :: after = (before ++ [.delivered item]) ++ after := by
    simp
  rw [htrace, hsplit, stages_append, stages_delivered, hnone, List.append_nil] at hall
  exact hall

theorem Told.finished_of_mem (h : Told s) {error : Option NetError}
    (hmem : .committed error ∈ s.trace) : s.state.finished := by
  by_contra hnot
  have hcommitted := h.not_committed (by simpa using hnot) _ hmem
  cases hcommitted

theorem protocol_of_invariants {base : TimeoutBudget} (hown : Owned s) (h : Told s)
    (hbudget : Budgeted shared base s) : TerminalProtocol shared base s where
  committed_once := by
    rw [h.commits]
    split <;> omega
  cleaned_once := hown.stages_prefix
  cleaned_all := by
    intro error hmem hidle hothers
    exact hown.cleaned_all (h.finished_of_mem hmem) hidle hothers
  cleaned_next := by
    intro error hmem result now later
    exact hown.cleans (h.finished_of_mem hmem) result now later
  terminal_after_cleanup := by
    intro before item after htrace hitem
    exact terminal_after_stages hown h htrace hitem
  sequence := h.sequence
  accepted_before_commit := by
    intro before error after htrace
    rw [acceptedChunks, List.filterMap_eq_nil_iff]
    intro e he
    have hordered := h.ordered
    rw [htrace] at hordered
    exact (precedes_of_split hordered e he).1 rfl
  delivered_accepted := ⟨_, h.flow.symm⟩
  renewed_by_chunk := by
    intro a hchanged
    rcases (step_goes hown a).renews with heq | ⟨bytes, now, later, ha, hbytes, -⟩
    · exact absurd heq hchanged
    · exact ⟨bytes, now, later, ha, hbytes⟩
  within_base := by
    intro d hd
    obtain ⟨-, start, hstart⟩ := hbudget
    exact TimeoutBudget.withPhase_le hstart hd

theorem new_told {budget : TimeoutBudget} {owner : StreamOwner} {bodyStart : Nat}
    {idleTimeout : Option Nat} (h : new shared budget owner bodyStart idleTimeout = .ok s) :
    Told s ∧ Budgeted shared budget s := by
  unfold new at h
  split at h
  · cases h
  rename_i active hactive
  cases h
  refine ⟨⟨rfl, List.Pairwise.nil, rfl, .flowing ?_, ?_⟩, rfl, bodyStart, hactive⟩
  · intro item hmem
    cases hmem
  · intro answer item hrest
    cases hrest

/-- Every interleaving of the polls of a delivered response with its supervisor, cancellations
and the drop of its handle keeps the protocol.  A delivered response owns its lease, its
supervisor slot and its observer lifecycle. -/
theorem stream_terminal_protocol {budget : TimeoutBudget} {bodyStart : Nat}
    {idleTimeout : Option Nat}
    (hnew : new shared budget {} bodyStart idleTimeout = .ok s) (acts : List BodyAction) :
    TerminalProtocol shared budget (Machine.run (step shared) s acts) := by
  have hstart := new_told hnew
  have hinv : Owned (Machine.run (step shared) s acts) ∧ Told (Machine.run (step shared) s acts) ∧
      Budgeted shared budget (Machine.run (step shared) s acts) := by
    refine Machine.run_invariant (I := fun s => Owned s ∧ Told s ∧ Budgeted shared budget s)
      ?_ acts ⟨new_owned ⟨rfl, rfl⟩ hnew, hstart⟩
    rintro s a ⟨hown, htold, hbudget⟩
    have hgoes : Goes shared s a _ := step_goes hown a
    exact ⟨hgoes.owned, hgoes.told htold, step_budgeted hown a hbudget⟩
  exact protocol_of_invariants hinv.1 hinv.2.1 hinv.2.2

/-- A response with status 200 on its second attempt. -/
def secondAttempt : SharedBody :=
  { requestId := 1, attempt := 2, status := 200, exhausted := false,
    clockRange := Checked.u64Max, completeSummary := fun _ _ => { attempts := 2, retryCount := 1 } }

/-- A response with a total and an idle timeout, just delivered. -/
def delivered : System where
  state :=
    { body := true, owner := some {}, baseBudget := ⟨some (10, .total)⟩,
      budget := ⟨some (5, .idleRead)⟩, idleTimeout := some 5, polling := false, finished := false,
      terminalReady := false, terminalError := none, pendingCleanup := none }

/-- A cancellation after a chunk has passed: the guard cleans up, then the chunk is returned. -/
def lateRun : List BodyAction :=
  [.pollNext 0, .transport (some (.chunk [7])) 1 1, .cancel] ++ List.replicate 9 .proceed

theorem stream_terminal_protocol_late :
    new secondAttempt ⟨some (10, .total)⟩ {} 0 (some 5) = .ok delivered ∧
      TerminalProtocol secondAttempt ⟨some (10, .total)⟩
        (Machine.run (step secondAttempt) delivered lateRun) := by
  have hnew : new secondAttempt ⟨some (10, .total)⟩ {} 0 (some 5) = .ok delivered := rfl
  exact ⟨hnew, stream_terminal_protocol hnew lateRun⟩

/-- A chunk can reach the consumer after the terminal outcome was committed. -/
theorem chunk_after_commit : new secondAttempt ⟨some (10, .total)⟩ {} 0 (some 5) = .ok delivered ∧
      ∃ before error after, (Machine.run (step secondAttempt) delivered lateRun).trace =
          before ++ .committed error :: after ∧ .delivered (.chunk [7]) ∈ after := by
  refine ⟨rfl, [.accepted [7]], some (cancelledError secondAttempt delivered),
    [.cleaned .body, .cleaned .slot, .cleaned .permit, .cleaned .registry, .cleaned .observer,
     .delivered (.chunk [7])], ?_, ?_⟩
  · decide +kernel
  · simp

end System

end OpenNet.Http
