import OpenNet.Ws.HistoryFanOut

/-!
# Delivery of the connection history

What a subscriber of the connection history observes.  Seeded with a cursor for the log as it was,
its channel is one event behind while the fan-out has not reached it and covers the whole log
otherwise.
-/

namespace OpenNet.Ws

open Checked LossyStream Subscription

/-! ## The retained suffix -/

/-- The history keeps the end of the log, within its limits. -/
structure Retains (options : EventOptions) (log : List ConnectionEvent) (h : HistoryState) :
    Prop where
  last : h.lastSequence = log.length
  numbered : log.map ConnectionEvent.sequence = List.range' 1 log.length
  countable : log.length ≤ u64Max
  suffix : h.entries.map Prod.fst <:+ log
  bytes_eq : h.bytes = retainedBytes h.entries
  bytes_le : h.bytes ≤ options.maxBytes
  length_le : h.entries.length ≤ options.maxEvents

variable {event : ConnectionEvent}

namespace Retains

variable {options : EventOptions} {log : List ConnectionEvent} {h : HistoryState}

theorem init : Retains options [] {} where
  last := rfl
  numbered := rfl
  countable := Nat.zero_le _
  suffix := List.suffix_refl _
  bytes_eq := rfl
  bytes_le := Nat.zero_le _
  length_le := Nat.zero_le _

section

variable (hr : Retains options log h)
include hr

theorem extend (active : Nat → Bool)
    (hnext : event.sequence = h.lastSequence + 1) (hle : event.sequence ≤ u64Max)
    {entries : List Retained} (hsuffix : entries.map Prod.fst <:+ log ++ [event])
    (hbytes : retainedBytes entries ≤ options.maxBytes)
    (hlength : entries.length ≤ options.maxEvents) : Retains options (log ++ [event])
      (h.advance active event entries (retainedBytes entries)) where
  last := by
    rw [List.length_append, List.length_singleton, ← hr.last]
    exact hnext
  numbered := by
    rw [List.map_append, hr.numbered, List.length_append, List.length_singleton,
      List.range'_concat, List.map_singleton, hnext, hr.last, Nat.one_mul, Nat.add_comm 1]
  countable := by
    rw [List.length_append, List.length_singleton, ← hr.last, ← hnext]
    exact hle
  suffix := hsuffix
  bytes_eq := rfl
  bytes_le := hbytes
  length_le := hlength

theorem keep (active : Nat → Bool) {size : Nat}
    {front back : List Retained} (hnext : event.sequence = h.lastSequence + 1)
    (hle : event.sequence ≤ u64Max) (hentries : h.entries = front ++ back)
    (hlength : back.length < options.maxEvents)
    (hbytes : retainedBytes back + size ≤ options.maxBytes) : Retains options (log ++ [event])
      (h.advance active event (back ++ [(event, size)]) (retainedBytes back + size)) := by
  have htotal : retainedBytes (back ++ [(event, size)]) = retainedBytes back + size := by simp
  rw [← htotal] at hbytes ⊢
  refine hr.extend active hnext hle ?_ hbytes ?_
  · obtain ⟨older, hlog⟩ := hr.suffix
    refine ⟨older ++ front.map Prod.fst, ?_⟩
    rw [← hlog, hentries]
    simp
  · rw [List.length_append, List.length_singleton]
    omega

theorem numbers : h.entries.map (fun entry => entry.1.sequence) =
      List.range' (h.lastSequence + 1 - h.entries.length) h.entries.length := by
  obtain ⟨older, hlog⟩ := hr.suffix
  have hlength : log.length = older.length + h.entries.length := by
    rw [← hlog, List.length_append, List.length_map]
  have hnumbered := hr.numbered
  rw [hlength, ← hlog, List.map_append, List.map_map, ← List.range'_append_1] at hnumbered
  have hright := (List.append_inj hnumbered (by simp)).2
  have hstart : h.lastSequence + 1 - h.entries.length = 1 + older.length := by
    rw [hr.last, hlength]
    omega
  rw [hstart]
  exact hright

/-- **The cursor of a new subscriber covers the log**: the retained entries, and before them a lag
of exactly the others. -/
theorem seed {seed : EventSeed ConnectionEvent} (hseed : h.seed = some seed) :
    Covered (List.replicate seed.lagged none ++ seed.entries.map fun entry => some entry.1)
      (log.map some) := by
  have hsmall : ∀ n, n ≤ u64Max → ((Fin.ofNat (u64Max + 1) n : Fin _) : Nat) = n :=
    fun n hn => Nat.mod_eq_of_lt (Nat.lt_succ_of_le hn)
  have hcountable := hr.countable
  have hnumbers := hr.numbers
  obtain ⟨older, hlog⟩ := hr.suffix
  -- In both cases the lag is the number of older events.
  obtain ⟨hentries, hlagged⟩ : seed.entries = h.entries ∧ (seed.lagged : Nat) = older.length := by
    unfold HistoryState.seed at hseed
    split at hseed
    · rename_i hempty
      obtain rfl := Option.some.inj hseed
      refine ⟨hempty.symm, ?_⟩
      rw [hsmall _ (hr.last ▸ hcountable), hr.last, ← hlog, hempty]
      simp
    · rename_i event size rest hfull
      split at hseed
      · cases hseed
      obtain rfl := Option.some.inj hseed
      refine ⟨hfull.symm, ?_⟩
      have hfirst : event.sequence = h.lastSequence + 1 - (rest.length + 1) := by
        rw [hfull, List.map_cons, List.length_cons, List.range'_succ] at hnumbers
        exact (List.cons.inj hnumbers).1
      have hlength : log.length = older.length + (rest.length + 1) := by
        rw [← hlog, hfull]
        simp
      have hlast := hr.last
      rw [hsmall _ (by omega)]
      omega
  rw [hentries, hlagged, ← hlog, List.map_append, List.map_map]
  have holder : Covered (List.replicate older.length none) (older.map some) := by
    simpa using covered_placeholders (older.map some)
  exact covered_append holder (covered_refl _)

end

end Retains

/-! ## One subscriber -/

/-- Did not leave, and never lacked memory. -/
def Subscriber.Served (sub : Subscriber) : Prop :=
  sub.starved = false ∧ sub.channel.unsubscribed = false

/-- `due`: the last fan-out has not come yet; `listed`: its publisher is known; `revoking`: it is
about to be failed. -/
structure Followed (options : EventOptions) (log : List ConnectionEvent)
    (due closed listed revoking : Prop) (sub : Subscriber) : Prop where
  channel : ChannelInv options.registration sub.channel
  part : ∃ seen, seen <+: log ∧ Covered sub.channel.history (seen.map some)
  whole : sub.Served → ¬due → Covered sub.channel.history (log.map some)
  behind : sub.Served → due → Covered sub.channel.history (log.dropLast.map some)
  listed : sub.Served → ¬closed → listed
  shut : sub.Served → ¬sub.channel.state.Open → closed ∧ ¬due
  starved : sub.starved → sub.channel.state.Open → revoking
  revoking : revoking → sub.starved ∨ ¬sub.channel.state.Open

/-- What an operation of the receiver leaves alone. -/
structure Untouched (c c' : Channel ConnectionEvent) : Prop where
  history : c'.history = c.history
  reopen : c'.state.Open → c.state.Open
  stay : c'.unsubscribed = false → c.unsubscribed = false ∧ (c.state.Open → c'.state.Open)

theorem Untouched.refl (c : Channel ConnectionEvent) : Untouched c c :=
  ⟨rfl, id, fun h => ⟨h, id⟩⟩

variable {c : Channel ConnectionEvent} {publication : EventPublication ConnectionEvent}

theorem Untouched.obtain (left : Option WakerId) :
    Untouched c (c.obtain ({ c.state.next.1 with receiveWaker := left }, c.state.next.2)) := by
  fun_cases EventState.next c.state with
  | case5 =>
    split
    · exact ⟨rfl, id, fun h => ⟨h, id⟩⟩
    · exact ⟨rfl, id, fun h => ⟨h, id⟩⟩
  | _ => exact ⟨rfl, id, fun h => ⟨h, id⟩⟩

theorem unsubscribe_closes (s : EventState ConnectionEvent) :
    ¬(EventRegistration.unsubscribe s).1.Open := by
  intro hopen
  unfold EventRegistration.unsubscribe at hopen
  split at hopen
  · rename_i hinactive
    have hactive : s.active := hopen.1
    simp [hactive] at hinactive
  · exact absurd hopen.1 nofun

theorem receive_untouched {r : EventRegistration} (h : ChannelInv r c) (op : ReceiverOp) :
    Untouched c (channelStep r c op.toChannelOp) := by
  cases op with
  | recv waker =>
    obtain ⟨left, hpoll⟩ := EventRegistration.pollNext_eq waker c.state
    rw [ReceiverOp.toChannelOp, channelStep, hpoll]
    exact .obtain left
  | tryRecv => exact .obtain c.state.next.1.receiveWaker
  | closeEnded =>
    simp only [ReceiverOp.toChannelOp, channelStep]
    split
    · rename_i hending
      -- Only a receiver that found the end is closed, and then the channel was closed before.
      have hsettled := h.settled ⟨.ended, h.ending hending, rfl⟩
      exact ⟨rfl, fun hopen => absurd hopen (unsubscribe_closes _),
        fun hu => ⟨hu, fun hopen => absurd hsettled hopen.not_settled⟩⟩
    · exact .refl c
  | unsubscribe =>
    simp only [ReceiverOp.toChannelOp, channelStep]
    refine ⟨rfl, fun hopen => absurd hopen (unsubscribe_closes _), fun hu => ?_⟩
    obtain ⟨hu, hleft⟩ := Bool.or_eq_false_iff.mp hu
    refine ⟨hu, fun hopen => ?_⟩
    simp [EventRegistration.unsubscribe, hopen.1] at hleft

theorem finish_closes (failure : Option NetError) (s : EventState ConnectionEvent) :
    ¬(EventRegistration.prepareFinish failure s).1.Open := by
  unfold EventRegistration.prepareFinish
  split
  · exact fun hopen => absurd hopen.2 nofun
  rename_i hclosed
  intro hopen
  have hactive : s.active := hopen.1
  have hsource : s.sourceClosed = false := hopen.2
  simp [hactive, hsource] at hclosed

theorem refusal_eq_none : refusal publication = none ↔ publication.accepted := by
  unfold refusal EventPublication.accepted
  rcases publication.result with error | _ | _ <;> simp

theorem refusal_of_refused (hrefused : publication.accepted = false) :
    ∃ error, refusal publication = some error := by
  apply Option.ne_none_iff_exists'.mp
  intro hnone
  rw [refusal_eq_none, hrefused] at hnone
  cases hnone

/-- The event is queued or skipped, or nothing changes and it is refused. -/
inductive ServeEffect (reserved : Bool) (item : Option (Entry ConnectionEvent))
    (sub : Subscriber) : Subscriber × Option NetError → Prop where
  | accepted (channel : Channel ConnectionEvent) (hopen : sub.channel.state.Open)
    (hopen' : channel.state.Open) (hunsub : channel.unsubscribed = sub.channel.unsubscribed)
    (hhistory : channel.history = sub.channel.history ++ [item.map Entry.value]) :
    ServeEffect reserved item sub ({ channel, starved := sub.starved }, none)
  | refused (error : NetError)
    (hlag : sub.channel.state.Open → reserved →
      u64Max ≤ sub.channel.state.lagged + sub.channel.state.queue.length) :
    ServeEffect reserved item sub
      ({ channel := sub.channel, starved := sub.starved || !reserved }, some error)

variable {item : Option (Entry ConnectionEvent)}

section

variable {options : EventOptions} {sub : Subscriber}
  (h : ChannelInv options.registration sub.channel) (reserved : Bool)
include h

theorem serve_effect (hsize : ∀ entry ∈ item, entry.bytes ≤ options.maxBytes) :
    ServeEffect reserved item sub (FanOut.serve options reserved item sub) := by
  cases item with
  | some entry =>
    rcases EventRegistration.preparePublish_dropOldest h.wf rfl reserved (hsize entry rfl) with
      hacc | ⟨hstate, hrefused, hlag⟩
    · have hopens := (EventRegistration.preparePublish_effect h.wf reserved entry).opens hacc
      simp only [FanOut.serve, refusal_eq_none.mpr hacc, Option.isSome_none, Bool.and_false,
        Bool.or_false]
      refine .accepted _ hopens.1 hopens.2 rfl ?_
      simp only [channelStep, Channel.commit, hacc, if_true, Option.map_some]
    · obtain ⟨error, herror⟩ := refusal_of_refused hrefused
      simp only [FanOut.serve, channelStep, Channel.commit, herror, hstate, hrefused,
        Option.isSome_some, Bool.and_true]
      exact .refused error fun hopen hreserved => (hlag hopen hreserved).le
  | none =>
    rcases EventRegistration.prepareSkip_effect (r := options.registration) reserved 1
        sub.channel.state with ⟨hstate, hrefused⟩ | ⟨hopen, hle, hstate, hacc⟩
    · obtain ⟨error, herror⟩ := refusal_of_refused hrefused
      simp only [FanOut.serve, channelStep, Channel.commit, herror, hstate, hrefused,
        Option.isSome_some, Bool.and_true]
      refine .refused error fun hopen hreserved => ?_
      by_contra hlag
      have hroom : sub.channel.state.lagged + sub.channel.state.queue.length + 1 ≤ u64Max := by
        omega
      have hacc := EventRegistration.prepareSkip_dropOldest (r := options.registration) rfl
        hopen hreserved hroom
      rw [hrefused] at hacc
      cases hacc
    · simp only [FanOut.serve, refusal_eq_none.mpr hacc, Option.isSome_none, Bool.and_false,
        Bool.or_false]
      refine .accepted _ hopen ?_ rfl ?_
      · simp only [channelStep, Channel.commit, hstate]
        exact hopen
      · simp only [channelStep, Channel.commit, hacc, if_true, Option.map_none]
        rfl

theorem serve_channel (item : Option (Entry ConnectionEvent)) :
    ChannelInv options.registration (FanOut.serve options reserved item sub).1.channel := by
  cases item with
  | none => exact channelInv_step _ _ (.skip reserved 1) h
  | some entry => exact channelInv_step _ _ (.publish reserved entry) h

end

namespace Followed

variable {options : EventOptions} {log : List ConnectionEvent}
  {due closed listed revoking : Prop} {sub : Subscriber}

section

variable (h : Followed options log due closed listed revoking sub)
include h

theorem served (hrev : ¬revoking) (hopen : sub.channel.state.Open) : sub.Served := by
  refine ⟨?_, h.channel.subscribed hopen.1⟩
  by_contra hstarved
  exact hrev (h.starved (by simpa using hstarved) hopen)

theorem isOpen (hserved : sub.Served) (hclosed : ¬closed) : sub.channel.state.Open := by
  by_contra hopen
  exact hclosed (h.shut hserved hopen).1

theorem frame {due' closed' listed' revoking' : Prop} (hdue : due' ↔ due)
    (hclosed : closed → closed') (hlisted : ¬closed' → sub.channel.state.active → listed → listed')
    (hrev : revoking' ↔ revoking) : Followed options log due' closed' listed' revoking' sub :=
  { h with
    whole hserved hnot := h.whole hserved (mt hdue.mpr hnot)
    behind hserved hnow := h.behind hserved (hdue.mp hnow)
    listed hserved hnot := by
      have hstill : ¬closed := mt hclosed hnot
      exact hlisted hnot (h.isOpen hserved hstill).1 (h.listed hserved hstill)
    shut hserved hopen :=
      ⟨hclosed (h.shut hserved hopen).1, mt hdue.mp (h.shut hserved hopen).2⟩
    starved hstarved hopen := hrev.mpr (h.starved hstarved hopen)
    revoking hnow := h.revoking (hrev.mp hnow) }

theorem receive (op : ReceiverOp) :
    Followed options log due closed listed revoking
      { sub with channel := channelStep options.registration sub.channel op.toChannelOp } := by
  have hinv := channelInv_step options.registration sub.channel op.toChannelOp h.channel
  have hsame := receive_untouched h.channel op
  generalize channelStep options.registration sub.channel op.toChannelOp = channel at hinv hsame
  have hserved : ({ sub with channel } : Subscriber).Served → sub.Served :=
    fun hs => ⟨hs.1, (hsame.stay hs.2).1⟩
  exact {
    channel := hinv
    part := hsame.history ▸ h.part
    whole := fun hs => hsame.history ▸ h.whole (hserved hs)
    behind := fun hs => hsame.history ▸ h.behind (hserved hs)
    listed := fun hs => h.listed (hserved hs)
    shut := fun hs hshut => h.shut (hserved hs) (mt (hsame.stay hs.2).2 hshut)
    starved := fun hstarved hopen => h.starved hstarved (hsame.reopen hopen)
    revoking := fun hnow => (h.revoking hnow).imp_right (mt hsame.reopen) }

theorem finish (failure : Option NetError) (revoking' : Prop)
    (hmay : sub.Served → sub.channel.state.Open → closed ∧ ¬due) :
    Followed options log due closed listed revoking'
      { sub with channel := channelStep options.registration sub.channel (.finish failure) } :=
  { h with
    channel := channelInv_step options.registration sub.channel (.finish failure) h.channel
    shut hs _ := by
      by_cases hopen : sub.channel.state.Open
      · exact hmay hs hopen
      · exact h.shut hs hopen
    starved _ hopen := absurd hopen (finish_closes failure _)
    revoking _ := .inr (finish_closes failure _) }

end

theorem record (h : Followed options log False False listed False sub)
    {due' closed' listed' : Prop} (event : ConnectionEvent)
    (hdue : listed → sub.channel.state.active → due')
    (hlisted : ¬closed' → listed → sub.channel.state.active → listed') :
    Followed options (log ++ [event]) due' closed' listed' False sub where
  channel := h.channel
  part := by
    obtain ⟨seen, hseen, hcov⟩ := h.part
    exact ⟨seen, hseen.trans (List.prefix_append _ _), hcov⟩
  whole hs hnot := absurd (hdue (h.listed hs id) (h.isOpen hs id).1) hnot
  behind hs _ := by
    rw [List.dropLast_concat]
    exact h.whole hs id
  listed hs hnot := hlisted hnot (h.listed hs id) (h.isOpen hs id).1
  shut hs hopen := absurd (h.isOpen hs id) hopen
  starved hstarved hopen := h.starved hstarved hopen
  revoking := False.elim

/-- **A publication reaches a subscriber that is due**, unless its channel is closed already or
starved. -/
theorem serve (h : Followed options log True closed listed False sub) {reserved : Bool}
    {served : Subscriber × Option NetError} (heff : ServeEffect reserved item sub served)
    (hinv : ChannelInv options.registration served.1.channel) {last : ConnectionEvent}
    (hlast : log.getLast? = some last) (hitem : ∀ entry ∈ item, entry.value = last)
    (hlog : log.length ≤ u64Max) :
    Followed options log False closed listed (served.2.isSome) served.1 := by
  obtain ⟨front, rfl⟩ := List.getLast?_eq_some_iff.mp hlast
  have hbehind := h.behind
  rw [List.dropLast_concat] at hbehind
  cases heff with
  | accepted channel hopen hopen' hunsub hhistory =>
    have hserved := h.served id hopen
    have hcovered : Covered channel.history ((front ++ [last]).map some) := by
      rw [hhistory, List.map_append]
      refine covered_append (hbehind hserved trivial) (List.Forall₂.cons ?_ List.Forall₂.nil)
      cases item with
      | none => exact .inl rfl
      | some entry => exact .inr (congrArg some (hitem entry rfl))
    exact {
      channel := hinv
      part := ⟨_, List.prefix_refl _, hcovered⟩
      whole := fun _ _ => hcovered
      behind := fun _ hnow => hnow.elim
      listed := fun _ hnot => h.listed hserved hnot
      shut := fun _ hshut => absurd hopen' hshut
      starved := fun hstarved => by
        rw [hserved.1] at hstarved
        cases hstarved
      revoking := nofun }
  | refused error hlag =>
    -- A served subscriber that is due has an open channel, with room for one more event.
    have hstarve : sub.channel.state.Open → reserved = false := by
      intro hopen
      by_contra hreserved
      have hlag := hlag hopen (by simpa using hreserved)
      have hcov := hbehind (h.served id hopen) trivial
      have hlength := (h.channel.accounted_active hopen.1).length_eq
      rw [hcov.length_eq, List.length_map, List.length_map, List.length_nil] at hlength
      rw [List.length_append, List.length_singleton] at hlog
      omega
    have hserved : ¬({ sub with starved := sub.starved || !reserved } : Subscriber).Served := by
      rintro ⟨hstarved, hunsub⟩
      obtain ⟨hstarved, hreserved⟩ := Bool.or_eq_false_iff.mp hstarved
      have hopen : sub.channel.state.Open := by
        by_contra hopen
        exact (h.shut ⟨hstarved, hunsub⟩ hopen).2 trivial
      simp [hstarve hopen] at hreserved
    exact { h with
      whole := fun hs => absurd hs hserved
      behind := fun hs => absurd hs hserved
      listed := fun hs => absurd hs hserved
      shut := fun hs => absurd hs hserved
      starved := fun _ _ => rfl
      revoking := fun _ => by
        by_cases hopen : sub.channel.state.Open
        · exact .inl (by simp [hstarve hopen])
        · exact .inr hopen }

theorem observed (h : Followed options log due closed listed revoking sub) :
    ∃ seen, seen <+: log ∧ Covered (expand sub.channel.received) (seen.map some) := by
  obtain ⟨seen, hseen, hcov⟩ := h.part
  obtain ⟨lost, hacc, -⟩ := h.channel.accounted
  obtain ⟨obtained, ⟨rest, hhistory⟩, hobtained⟩ := hacc.covers_prefix
  rw [← hhistory] at hcov
  obtain ⟨front, back, hsplit, hfront, -⟩ := covered_append_left hcov
  obtain ⟨first, second, rfl, rfl, rfl⟩ := List.map_eq_append_iff.mp hsplit
  exact ⟨first, (List.prefix_append _ _).trans hseen, hobtained.trans hfront⟩

theorem seeded {h : HistoryState} (hr : Retains options log h) {seed : EventSeed ConnectionEvent}
    (hseed : h.seed = some seed)
    (hacc : (options.registration.prepareSeed seed ({} : EventState ConnectionEvent)).2.accepted =
      true) (hlisted : ¬h.closed → listed) :
    Followed options log False (h.closed) listed False
      { channel := channelStep options.registration {} (.seed seed) } := by
  have hinv := channelInv_step options.registration ({} : Channel ConnectionEvent) (.seed seed)
    channelInv_init
  have hclosed : seed.sourceClosed = h.closed := by
    unfold HistoryState.seed at hseed
    split at hseed
    · obtain rfl := Option.some.inj hseed
      rfl
    split at hseed
    · cases hseed
    · obtain rfl := Option.some.inj hseed
      rfl
  have hcov : Covered (channelStep options.registration {} (.seed seed)).history
      (log.map some) := by
    simp only [channelStep, Channel.commit, hacc, if_true, List.nil_append]
    exact hr.seed hseed
  exact {
    channel := hinv
    part := ⟨log, List.prefix_refl _, hcov⟩
    whole := fun _ _ => hcov
    behind := fun _ hnow => hnow.elim
    listed := fun _ => hlisted
    shut := fun _ hshut => by
      refine ⟨?_, id⟩
      rcases EventRegistration.prepareSeed_effect (r := options.registration) seed
        ({} : EventState ConnectionEvent) with ⟨-, hnot⟩ | ⟨-, -, -, -, -, hstate, -⟩
      · rw [hacc] at hnot
        cases hnot
      by_contra hopen
      apply hshut
      simp only [channelStep, Channel.commit, hstate]
      exact ⟨rfl, by simpa [hclosed] using hopen⟩
    starved := fun h => by cases h
    revoking := False.elim }

end Followed

/-! ## The whole system -/

/-- The rest of a fan-out fits its log and history. -/
structure Held (options : EventOptions) (log : List ConnectionEvent) (closed : Prop)
    (h : Holding) : Prop where
  nodup : h.remaining.Nodup
  last : ∃ last, log.getLast? = some last ∧
    ∀ entry ∈ h.item, entry.value = last ∧ entry.bytes ≤ options.maxBytes
  closing : h.closing → closed
  terminal : h.terminal ≠ [] → h.closing
  after : ∀ i failure, h.after = some (i, failure) →
    i ∉ h.remaining ∧ (failure = none → h.closing)

namespace FanOut

def Due (s : FanOut) (i : Nat) : Prop := ∃ h, s.holding = some h ∧ i ∈ h.remaining

def Revoking (s : FanOut) (i : Nat) : Prop :=
  ∃ h error, s.holding = some h ∧ h.after = some (i, some error)

theorem not_due {s : FanOut} (hholding : s.holding = none) (i : Nat) : ¬s.Due i := by
  simp [Due, hholding]

theorem not_revoking {s : FanOut} (hholding : s.holding = none) (i : Nat) : ¬s.Revoking i := by
  simp [Revoking, hholding]

theorem due_iff {s : FanOut} {h : Holding} (hholding : s.holding = some h) {i : Nat} :
    s.Due i ↔ i ∈ h.remaining := by
  simp [Due, hholding]

theorem revoking_iff {s : FanOut} {h : Holding} (hholding : s.holding = some h) {i : Nat} :
    s.Revoking i ↔ ∃ error, h.after = some (i, some error) := by
  simp [Revoking, hholding]

abbrev FollowedAt (options : EventOptions) (s : FanOut) (i : Nat) (sub : Subscriber) : Prop :=
  Followed options s.log (s.Due i) (s.history.closed) (i ∈ s.history.publishers)
    (s.Revoking i) sub

/-- **The invariant of the fan-out.** -/
structure Consistent (options : EventOptions) (s : FanOut) : Prop where
  retains : Retains options s.log s.history
  followed : ∀ i sub, s.subscribers[i]? = some sub → s.FollowedAt options i sub
  publishers : s.history.publishers.Nodup
  known : ∀ i ∈ s.history.publishers, i < s.subscribers.length
  held : ∀ h, s.holding = some h → Held options s.log (s.history.closed) h
  deferred : s.deferred ≠ [] → s.history.closed ∧ s.holding = none

variable {options : EventOptions} {s : FanOut}

theorem onChannel_get {i j : Nat} {op : ChannelOp ConnectionEvent} {sub' : Subscriber}
    (hget : (s.onChannel options i op).subscribers[j]? = some sub') :
    ∃ sub, s.subscribers[j]? = some sub ∧ sub' = if i = j then
      { sub with channel := channelStep options.registration sub.channel op } else sub := by
  rw [onChannel, List.getElem?_modify] at hget
  obtain ⟨sub, hsub, rfl⟩ := Option.map_eq_some_iff.mp hget
  exact ⟨sub, hsub, rfl⟩

theorem isActive_iff {i : Nat} {sub : Subscriber} (hget : s.subscribers[i]? = some sub) :
    s.isActive i ↔ sub.channel.state.active := by
  simp [isActive, hget]

namespace Consistent

theorem init : Consistent options {} where
  retains := .init
  followed _ _ hget := by cases hget
  publishers := List.nodup_nil
  known _ hi := by cases hi
  held _ hsome := by cases hsome
  deferred hne := absurd rfl hne

theorem receive (h : Consistent options s) (i : Nat) (op : ReceiverOp) :
    Consistent options (s.onChannel options i op.toChannelOp) :=
  { h with
    followed j sub' hget := by
      obtain ⟨sub, hsub, rfl⟩ := onChannel_get hget
      split
      · exact (h.followed j sub hsub).receive op
      · exact h.followed j sub hsub
    known j hj := by
      rw [onChannel, List.length_modify]
      exact h.known j hj }

variable {i : Nat} {failure error : Option NetError} {closing : Bool}

theorem dispatch (h : Consistent options s) {index : Nat}
    (hget : s.deferred[index]? = some (i, failure)) :
    Consistent options
      { s.onChannel options i (.finish failure) with deferred := s.deferred.eraseIdx index } := by
  have hclosed := h.deferred (List.ne_nil_of_mem (List.mem_of_getElem? hget))
  exact { h with
    followed := fun j sub' hsub' => by
      obtain ⟨sub, hsub, rfl⟩ := onChannel_get hsub'
      split
      · exact (h.followed j sub hsub).finish failure _
          fun _ _ => ⟨hclosed.1, not_due hclosed.2 j⟩
      · exact h.followed j sub hsub
    known := fun j hj => by
      rw [onChannel, List.length_modify]
      exact h.known j hj
    deferred := fun _ => hclosed }

section

variable (h : Consistent options s) {holding : Holding} (hholding : s.holding = some holding)
include h holding hholding

theorem follow (hafter : holding.after = some (i, failure)) :
    Consistent options { s.onChannel options i (.finish failure) with
      holding := some { holding with after := none } } := by
  have hheld := h.held holding hholding
  obtain ⟨hserved, hlast⟩ := hheld.after i failure hafter
  have hdue : ∀ j, FanOut.Due { s.onChannel options i (.finish failure) with
      holding := some { holding with after := none } } j ↔ s.Due j := by
    simp [Due, hholding]
  have hrev : ∀ j, ¬FanOut.Revoking { s.onChannel options i (.finish failure) with
      holding := some { holding with after := none } } j := by
    intro j hrev
    obtain ⟨error, hafter⟩ := (revoking_iff rfl).mp hrev
    cases hafter
  exact {
    retains := h.retains
    followed := fun j sub' hsub' => by
      obtain ⟨sub, hsub, rfl⟩ := onChannel_get hsub'
      have hj := h.followed j sub hsub
      split
      · rename_i hij
        subst hij
        refine Followed.frame (hj.finish failure False ?_) (hdue i) id (fun _ _ => id)
          (iff_false_intro (hrev i))
        intro hs hopen
        cases failure with
        | none =>
          exact ⟨hheld.closing (hlast rfl), fun hi => hserved ((due_iff hholding).mp hi)⟩
        | some error =>
          rcases hj.revoking ((revoking_iff hholding).mpr ⟨error, hafter⟩) with hstarved | hshut
          · rw [hs.1] at hstarved
            cases hstarved
          · exact absurd hopen hshut
      · rename_i hij
        refine hj.frame (hdue j) id (fun _ _ => id) ?_
        refine iff_of_false (hrev j) fun hrev => ?_
        obtain ⟨error, hother⟩ := (revoking_iff hholding).mp hrev
        rw [hafter] at hother
        exact hij (congrArg Prod.fst (Option.some.inj hother))
    publishers := h.publishers
    known := fun j hj => by
      rw [onChannel, List.length_modify]
      exact h.known j hj
    held := fun _ hsome => by
      obtain rfl := Option.some.inj hsome
      exact { hheld with after := fun _ _ hafter => by cases hafter }
    deferred := fun hne => by
      have hnone := (h.deferred hne).2
      rw [hholding] at hnone
      cases hnone }

theorem release (hafter : holding.after = none) (hremaining : holding.remaining = []) :
    Consistent options { s with
      holding := none, deferred := s.deferred ++ holding.terminal.map fun i => (i, none) } := by
  have hheld := h.held holding hholding
  have hdue : ∀ j, ¬s.Due j := by simp [due_iff hholding, hremaining]
  have hrev : ∀ j, ¬s.Revoking j := by simp [revoking_iff hholding, hafter]
  exact { h with
    followed := fun j sub hsub => (h.followed j sub hsub).frame
      (iff_of_false (not_due rfl j) (hdue j)) id (fun _ _ => id)
      (iff_of_false (not_revoking rfl j) (hrev j))
    held := fun _ hsome => by cases hsome
    deferred := fun hne => by
      refine ⟨?_, rfl⟩
      by_cases hterminal : holding.terminal = []
      · rw [hterminal, List.map_nil, List.append_nil] at hne
        exact (h.deferred hne).1
      · exact hheld.closing (hheld.terminal hterminal) }

theorem advance (hafter : holding.after = none) {rest : List Nat}
    (hremaining : holding.remaining = i :: rest) {subscribers : List Subscriber}
    {after : Option (Nat × Option NetError)} (hnext : ∀ j failure, after = some (j, failure) →
      j = i ∧ (failure = none → holding.closing))
    (hother : ∀ j sub, j ≠ i → subscribers[j]? = some sub → s.subscribers[j]? = some sub)
    (hlength : subscribers.length = s.subscribers.length)
    (hserved : ∀ sub, subscribers[i]? = some sub →
      Followed options s.log False (s.history.closed) (i ∈ s.history.publishers)
        (∃ error, after = some (i, some error)) sub) :
    Consistent options { s with subscribers, holding := some { holding with
      remaining := rest, after } } := by
  have hheld := h.held holding hholding
  have hnodup := hheld.nodup
  rw [hremaining] at hnodup
  obtain ⟨hout, hrest⟩ := List.nodup_cons.mp hnodup
  exact {
    retains := h.retains
    followed := fun j sub hsub => by
      by_cases hij : j = i
      · subst hij
        exact (hserved sub hsub).frame (by simpa [Due] using hout) id (fun _ _ => id)
          (by simp [Revoking])
      · refine (h.followed j sub (hother j sub hij hsub)).frame ?_ id (fun _ _ => id) ?_
        · rw [due_iff rfl, due_iff hholding, hremaining, List.mem_cons]
          exact (or_iff_right hij).symm
        · rw [revoking_iff rfl, revoking_iff hholding, hafter]
          refine iff_of_false ?_ (by simp)
          rintro ⟨error, hnow⟩
          exact hij (hnext j _ hnow).1
    publishers := h.publishers
    known := fun j hj => hlength ▸ h.known j hj
    held := fun _ hsome => by
      obtain rfl := Option.some.inj hsome
      exact { hheld with
        nodup := hrest
        after := fun j failure hsome => by
          obtain ⟨rfl, hclosing⟩ := hnext j failure hsome
          exact ⟨hout, hclosing⟩ }
    deferred := fun hne => by
      have hnone := (h.deferred hne).2
      rw [hholding] at hnone
      cases hnone }

end

theorem following_next (j : Nat) (failure : Option NetError)
    (hsome : following closing i error = some (j, failure)) :
    j = i ∧ (failure = none → closing) := by
  unfold following at hsome
  split at hsome
  · obtain ⟨rfl, rfl⟩ := Prod.mk.inj (Option.some.inj hsome)
    exact ⟨rfl, nofun⟩
  split at hsome
  · rename_i hclosing
    obtain ⟨rfl, rfl⟩ := Prod.mk.inj (Option.some.inj hsome)
    exact ⟨rfl, fun _ => hclosing⟩
  · cases hsome

section

variable (h : Consistent options s)
include h

theorem proceed {holding : Holding} (hholding : s.holding = some holding) (reserved : Bool) :
    Consistent options (FanOut.proceed options reserved s holding) := by
  have hheld := h.held holding hholding
  unfold FanOut.proceed
  split
  · rename_i i failure hafter
    exact h.follow hholding hafter
  rename_i hafter
  split
  · rename_i hremaining
    exact h.release hholding hafter hremaining
  rename_i i rest hremaining
  split
  · rename_i hmissing
    refine h.advance hholding hafter hremaining (fun j failure hsome => ?_) (fun _ _ _ => id) rfl ?_
    · rw [hafter] at hsome
      cases hsome
    intro sub hsub
    rw [hmissing] at hsub
    cases hsub
  · rename_i sub hsub
    obtain ⟨last, hlast, hitem⟩ := hheld.last
    refine h.advance hholding hafter hremaining following_next ?_ List.length_set ?_
    · intro j other hij hother
      rwa [List.getElem?_set_ne (Ne.symm hij)] at hother
    · intro served hserved
      rw [List.getElem?_set_self (List.getElem?_eq_some_iff.mp hsub).1] at hserved
      obtain rfl := Option.some.inj hserved
      have hdue : s.Due i := by simp [due_iff hholding, hremaining]
      have hrev : ¬s.Revoking i := by simp [revoking_iff hholding, hafter]
      have hi := (h.followed i sub hsub).frame (iff_of_true trivial hdue) id (fun _ _ => id)
        (iff_of_false id hrev)
      have hi := hi.serve (serve_effect hi.channel reserved fun entry he => (hitem entry he).2)
        (serve_channel hi.channel reserved _) hlast (fun entry he => (hitem entry he).1)
        h.retains.countable
      exact hi.frame Iff.rfl id (fun _ _ => id)
          (by cases (serve options reserved holding.item sub).2 <;> simp [following])

theorem fail (hholding : s.holding = none) (error : NetError) (publishers : List Nat) :
    Consistent options { s with
      history := s.history.fail error
      deferred := s.deferred ++ publishers.map fun i => (i, some error) } where
  retains := { h.retains with }
  followed i sub hsub := (h.followed i sub hsub).frame Iff.rfl (fun _ => rfl)
    (fun hnot => absurd rfl hnot) Iff.rfl
  publishers := List.nodup_nil
  known _ hi := by cases hi
  held _ hsome := by
    rw [hholding] at hsome
    cases hsome
  deferred _ := ⟨rfl, hholding⟩

theorem recorded (hholding : s.holding = none) (hopen : s.history.closed = false)
    {entries : List Retained} {bytes : Nat}
    (hretains : Retains options (s.log ++ [event])
      (s.history.advance s.isActive event entries bytes))
    (hitem : ∀ entry ∈ item, entry.value = event ∧ entry.bytes ≤ options.maxBytes) :
    Consistent options { s with
      history := s.history.advance s.isActive event entries bytes
      log := s.log ++ [event]
      holding := some { item, closing := event.isClosed
                        remaining := prune s.isActive s.history.publishers
                        terminal := if event.isClosed
                          then prune s.isActive s.history.publishers else [] } } where
  retains := hretains
  followed i sub hsub := by
    have hi : Followed options s.log False False (i ∈ s.history.publishers) False sub :=
      (h.followed i sub hsub).frame (iff_of_false id (not_due hholding i)) (by simp [hopen])
        (fun _ _ => id) (iff_of_false id (not_revoking hholding i))
    have hpruned : i ∈ s.history.publishers → sub.channel.state.active →
        i ∈ prune s.isActive s.history.publishers := fun hlisted hactive =>
      List.mem_filter.mpr ⟨hlisted, (isActive_iff hsub).mpr hactive⟩
    refine Followed.frame (hi.record event (fun hlisted hactive => ?_)
      (fun hnot hlisted hactive => ?_)) Iff.rfl id (fun _ _ => id) (iff_false_intro ?_)
    · exact (due_iff rfl).mpr (hpruned hlisted hactive)
    · have hnot : ¬event.isClosed := hnot
      simp only [HistoryState.advance, if_neg hnot]
      exact hpruned hlisted hactive
    · simp [Revoking]
  publishers := by
    rw [HistoryState.advance]
    split
    · exact List.nodup_nil
    · exact h.publishers.filter _
  known i hi := by
    rw [HistoryState.advance] at hi
    split at hi
    · cases hi
    · exact h.known i (List.mem_of_mem_filter hi)
  held _ hsome := by
    obtain rfl := Option.some.inj hsome
    exact {
      nodup := h.publishers.filter _
      last := ⟨event, List.getLast?_concat, hitem⟩
      closing := id
      terminal := fun hne => by
        by_contra hclosing
        exact hne (if_neg hclosing)
      after := fun _ _ hafter => by cases hafter }
  deferred hne := by
    have hclosed := (h.deferred hne).1
    rw [hopen] at hclosed
    cases hclosed

theorem record (hholding : s.holding = none) (measure : ConnectionEvent → Except NetError Nat)
    (allocated : Bool) (event : ConnectionEvent) :
    Consistent options (s.record options measure allocated event) := by
  have heff : RecordEffect options s.isActive event s.history _ _ :=
    prepareRecord_effect measure s.isActive allocated event h.retains.bytes_eq
  unfold FanOut.record
  generalize prepareRecord options measure s.isActive allocated event s.history = result at heff ⊢
  obtain ⟨history, recording⟩ := result
  cases heff with
  | refused error => exact h
  | failed error publishers hopen => exact h.fail hholding error publishers
  | skipped hopen hnext hle =>
    refine h.recorded hholding hopen ?_ (fun _ he => by cases he)
    exact h.retains.extend _ hnext hle List.nil_suffix (Nat.zero_le _) (Nat.zero_le _)
  | kept size front back hopen hnext hle hentries hlength hbytes =>
    refine h.recorded hholding hopen (h.retains.keep _ hnext hle hentries hlength hbytes) ?_
    rintro entry he
    obtain rfl := Option.some.inj he
    exact ⟨rfl, by simp only; omega⟩

theorem pruned :
    Consistent options { s with history := { s.history with
      publishers := prune s.isActive s.history.publishers } } :=
  { h with
    retains := { h.retains with }
    followed i sub hsub := (h.followed i sub hsub).frame Iff.rfl id
      (fun _ hactive hlisted => List.mem_filter.mpr ⟨hlisted, (isActive_iff hsub).mpr hactive⟩)
      Iff.rfl
    publishers := h.publishers.filter _
    known i hi := h.known i (List.mem_of_mem_filter hi) }

theorem subscribed (hholding : s.holding = none) {seed : EventSeed ConnectionEvent}
    (hseed : s.history.seed = some seed)
    (hacc : (options.registration.prepareSeed seed ({} : EventState ConnectionEvent)).2.accepted =
      true) :
    Consistent options { s with
      subscribers := s.subscribers ++
        [{ channel := channelStep options.registration {} (.seed seed) }]
      history := if s.history.closed then s.history
        else { s.history with publishers := s.history.publishers ++ [s.subscribers.length] } } := by
  have hclosed : (if s.history.closed then s.history else { s.history with
      publishers := s.history.publishers ++ [s.subscribers.length] }).closed =
      s.history.closed := by
    split <;> rfl
  have hlisted : ∀ i, i ∈ (if s.history.closed then s.history else { s.history with
      publishers := s.history.publishers ++ [s.subscribers.length] }).publishers ↔
      i ∈ s.history.publishers ∨ (¬s.history.closed ∧ i = s.subscribers.length) := by
    intro i
    split
    · rename_i hnow
      simp [hnow]
    · rename_i hnow
      simp [hnow]
  exact {
    retains := by
      split
      · exact h.retains
      · exact { h.retains with }
    followed := fun i sub hsub => by
      simp only [FollowedAt, hclosed]
      have hbound := (List.getElem?_eq_some_iff.mp hsub).1
      rw [List.length_append, List.length_singleton] at hbound
      rcases Nat.lt_or_eq_of_le (Nat.le_of_lt_succ hbound) with hlt | rfl
      · rw [List.getElem?_append_left hlt] at hsub
        exact (h.followed i sub hsub).frame Iff.rfl id
          (fun _ _ hi => (hlisted i).mpr (.inl hi)) Iff.rfl
      · rw [List.getElem?_concat_length] at hsub
        obtain rfl := Option.some.inj hsub
        exact Followed.frame (Followed.seeded h.retains hseed hacc fun hnot =>
          (hlisted _).mpr (.inr ⟨hnot, rfl⟩)) (iff_false_intro (not_due hholding _)) id
          (fun _ _ => id) (iff_false_intro (not_revoking hholding _))
    publishers := by
      split
      · exact h.publishers
      refine List.nodup_append.mpr ⟨h.publishers, List.pairwise_singleton _ _, ?_⟩
      intro i hi j hj hij
      have hlt := h.known i hi
      rw [hij, List.mem_singleton.mp hj] at hlt
      exact Nat.lt_irrefl _ hlt
    known := fun i hi => by
      rw [List.length_append, List.length_singleton]
      rcases (hlisted i).mp hi with hi | ⟨-, rfl⟩
      · exact Nat.lt_succ_of_lt (h.known i hi)
      · exact Nat.lt_succ_self _
    held := fun _ hsome => by
      rw [hholding] at hsome
      cases hsome
    deferred := fun hne => ⟨hclosed.trans (h.deferred hne).1, hholding⟩ }

theorem join (hholding : s.holding = none) (pruning seeding : Bool) :
    Consistent options (s.join options pruning seeding) := by
  unfold FanOut.join
  split
  · exact h
  simp only []
  split
  · exact h.pruned
  split
  · exact h.pruned
  rename_i seed hseed
  split
  · rename_i hacc
    exact h.pruned.subscribed hholding hseed hacc
  · exact h.pruned

/-- **Every action keeps the books.** -/
theorem step (measure : ConnectionEvent → Except NetError Nat) (action : HistoryAction) :
    Consistent options (s.step options measure action) := by
  have hfree : ¬s.holding.isSome → s.holding = none := by simp
  cases action with
  | record allocated event =>
    simp only [FanOut.step]
    split
    · exact h
    · rename_i hholding
      exact h.record (hfree hholding) measure allocated event
  | fail error =>
    simp only [FanOut.step, prepareFail]
    split
    · exact h
    rename_i hholding
    split
    · rw [List.map_nil, List.append_nil]
      exact h
    · exact h.fail (hfree hholding) error s.history.publishers
  | subscribe quota channel pruning seeding =>
    simp only [FanOut.step]
    split
    · exact h
    rename_i hfreed
    simp only [Bool.or_eq_true, not_or] at hfreed
    exact h.join (hfree hfreed.1.1) pruning seeding
  | fanOut reserved =>
    simp only [FanOut.step]
    split
    · exact h
    · rename_i holding hholding
      exact h.proceed hholding reserved
  | dispatch index =>
    simp only [FanOut.step]
    split
    · exact h
    · rename_i i failure hget
      exact h.dispatch hget
  | receive i op => exact h.receive i op

end

theorem run (measure : ConnectionEvent → Except NetError Nat) (acts : List HistoryAction) :
    Consistent options (Machine.run (FanOut.step options measure) {} acts) :=
  Machine.run_invariant (fun _ action h => h.step measure action) acts init

end Consistent

/-- **The connection history and its fan-out**, for every run. What is retained is the end of the
log, numbered without a gap, within both limits and with an exact byte total. Recording retires what
it counted; an event out of turn or of another session changes nothing. Every subscriber observes a
part of the log from its start, each event once, as itself or within a lag; one that is served
accounts for all of it between two records, and has observed all when it finds the end. -/
theorem history_fan_out (options : EventOptions) (measure : ConnectionEvent → Except NetError Nat)
    (acts : List HistoryAction) :
    let s := Machine.run (step options measure) {} acts
    s.log.map ConnectionEvent.sequence = List.range' 1 s.history.lastSequence ∧
    (s.history.entries.map Prod.fst <:+ s.log ∧
      s.history.entries.map (fun entry => entry.1.sequence) =
        List.range' (s.history.lastSequence + 1 - s.history.entries.length)
          s.history.entries.length ∧
      s.history.bytes = retainedBytes s.history.entries ∧ s.history.bytes ≤ options.maxBytes ∧
      s.history.entries.length ≤ options.maxEvents) ∧
    (∀ active allocated event reserved retired whole item publishers,
      (prepareRecord options measure active allocated event s.history).2 =
        .recorded reserved retired whole item publishers → retired.length = reserved) ∧
    (∀ active allocated event, (event.sequence ≠ s.history.lastSequence + 1 ∨
        ∃ expected, s.history.scope = some expected ∧
          expected ≠ (event.clientId, event.sessionId)) →
      (prepareRecord options measure active allocated event s.history).1 = s.history) ∧
    ∀ sub ∈ s.subscribers,
      (∃ seen, seen <+: s.log ∧ Covered (expand sub.channel.received) (seen.map some)) ∧
      (sub.Served → s.holding = none →
        Accounted (s.log.map some) (expand sub.channel.received) sub.channel.state.lagged
          (sub.channel.state.queue.map Entry.value) [] ∧
        (.ended ∈ sub.channel.received →
          Covered (expand sub.channel.received) (s.log.map some))) := by
  intro s
  have h : Consistent options s := .run measure acts
  have hr := h.retains
  refine ⟨hr.last ▸ hr.numbered, ⟨hr.suffix, hr.numbers, hr.bytes_eq, hr.bytes_le, hr.length_le⟩,
    ?_, ?_, ?_⟩
  · intro active allocated event reserved retired whole item publishers hrecorded
    have heff : RecordEffect options active event s.history _ _ :=
      prepareRecord_effect measure active allocated event hr.bytes_eq
    rw [hrecorded] at heff
    generalize (prepareRecord options measure active allocated event s.history).1 = history at heff
    cases heff with
    | skipped | kept => rfl
  · intro active allocated event hillegal
    obtain ⟨error, hrefused⟩ : ∃ error, prepareRecord options measure active allocated event
        s.history = (s.history, .refused error) := prepareRecord_illegal hillegal
    rw [hrefused]
  · intro sub hmem
    obtain ⟨i, hget⟩ := List.mem_iff_getElem?.mp hmem
    have hi := h.followed i sub hget
    refine ⟨hi.observed, fun hserved hholding => ?_⟩
    have hcov := hi.whole hserved (not_due hholding i)
    obtain ⟨lost, hacc, hlost⟩ := hi.channel.accounted
    rw [hlost hserved.2] at hacc
    exact ⟨hacc.of_covered hcov, fun hended =>
      (hi.channel.ended hended hserved.2).1.trans hcov⟩

def singleEvent : EventOptions where
  maxEvents := 1
  maxBytes := 10
  events_pos := by decide
  events_le := by decide
  bytes_pos := by decide
  bytes_le := by decide

def attemptEvent (sequence : Nat) : ConnectionEvent where
  sequence
  clientId := 1
  sessionId := 1
  occurredAt := 0
  kind := .attemptStarted ⟨1, 1, 1, sequence, 0⟩

/-- The second event finds the queue full and no memory for the evicted entry: the subscriber is
failed and finds the end after the first of two events. -/
theorem starved_subscriber_misses :
    let s := Machine.run (step singleEvent fun _ => .ok 1) {}
      [.subscribe true true true true,
       .record true (attemptEvent 1), .fanOut true, .fanOut true,
       .record true (attemptEvent 2), .fanOut false, .fanOut true, .fanOut true,
       .receive 0 .tryRecv, .receive 0 .tryRecv, .receive 0 .tryRecv]
    s.history.lastSequence = 2 ∧ s.holding = none ∧
      s.subscribers.map (fun sub => (sub.channel.received, sub.channel.unsubscribed)) =
        [([.item (attemptEvent 1), .failed (.withForeign .resourceExhausted "try_reserve"),
          .ended], false)] ∧
      ∀ sub ∈ s.subscribers, ¬Covered (expand sub.channel.received) (s.log.map some) := by
  refine ⟨rfl, rfl, rfl, ?_⟩
  intro sub hmem hcov
  obtain rfl := List.mem_singleton.mp hmem
  cases hcov with
  | cons _ hcov => cases hcov

end FanOut

end OpenNet.Ws
