import OpenNet.Ws.RequestOutcome

/-!
# Framing on the wire

What the data frames that a whole run of the write loop gives its sink look like, control
frames aside.  A message that is begun is finished before the next one, or the loop ends.
-/

namespace OpenNet.Ws

namespace Writer

def acceptedFrames (wire : List Submission) : List WireFrame :=
  (wire.filter (·.accepted)).map (·.frame)

theorem acceptedFrames_append (wire wire' : List Submission) :
    acceptedFrames (wire ++ wire') = acceptedFrames wire ++ acceptedFrames wire' := by
  simp [acceptedFrames]

theorem acceptedFrames_allSent (o : OpId) : ∀ (index : Nat) (frames : List WireFrame),
    acceptedFrames (allSent o index frames) = frames
  | _, [] => rfl
  | index, frame :: frames => by
    have ih := acceptedFrames_allSent o (index + 1) frames
    simpa [acceptedFrames, allSent] using ih

/-- What was accepted of a message that was begun is a part of it from its start. -/
theorem Begun.accepted_isPrefix {o : OpId} {index : Nat} {frames : List WireFrame}
    {sent : List Submission} (h : Begun o index frames sent) :
    ∃ rest, frames = acceptedFrames sent ++ rest := by
  induction h with
  | stopped index frames => exact ⟨frames, rfl⟩
  | rejected index frame frames => exact ⟨frame :: frames, rfl⟩
  | accepted index frame _ ih =>
    obtain ⟨rest, hrest⟩ := ih
    refine ⟨rest, ?_⟩
    rw [hrest]
    rfl

end Writer

namespace WriteLoop

variable {E : SessionConfig} {C : WriteConfig} {env : Nat → Answer} {l l' l'' : WriteLoop}

def framesOf (C : WriteConfig) (r : QueuedRequest) : List WireFrame :=
  r.message.frames C.dataFramePayloadSize

/-! ## One turn -/

structure Idle (l l' : WriteLoop) : Prop where
  wire : l'.writer.wire = l.writer.wire
  dequeued : l'.dequeued = l.dequeued
  running : l'.running → l.running

theorem Idle.refl (l : WriteLoop) : Idle l l := ⟨rfl, rfl, id⟩

theorem Idle.trans (h : Idle l l') (h' : Idle l' l'') : Idle l l'' :=
  ⟨h'.wire.trans h.wire, h'.dequeued.trans h.dequeued, h.running ∘ h'.running⟩

theorem stop_idle (l : WriteLoop) : Idle l l.stop := ⟨rfl, rfl, by simp [stop]⟩

theorem ask_idle (E : SessionConfig) (env : Nat → Answer) (l : WriteLoop) :
    ∃ a l', l.ask E env = (a, l') ∧ Idle l l' := ⟨_, _, rfl, rfl, rfl, id⟩

theorem afterControl_idle (l : WriteLoop) (action : ControlAction) :
    Idle l (l.afterControl action) := by
  cases action <;> first
    | exact ⟨rfl, rfl, id⟩
    | exact stop_idle l

section

variable (E : SessionConfig) (env : Nat → Answer)

theorem tryHandleReadyControl_idle (l : WriteLoop) : Idle l (l.tryHandleReadyControl E env) := by
  obtain ⟨a, l₁, hask, h₁⟩ := l.ask_idle E env
  simp only [tryHandleReadyControl, hask]
  split
  · exact h₁
  · exact h₁.trans (stop_idle l₁)
  · exact h₁.trans (afterControl_idle l₁ _)

theorem serveHeartbeat_idle (l : WriteLoop) : Idle l (l.serveHeartbeat E env) := by
  obtain ⟨a, l₁, hask, h₁⟩ := l.ask_idle E env
  simp only [serveHeartbeat, hask]
  split
  · exact h₁
  · exact h₁.trans (stop_idle l₁)

theorem controlAndHeartbeat_idle (l : WriteLoop) :
    Idle l (if (l.tryHandleReadyControl E env).running then
        (l.tryHandleReadyControl E env).serveHeartbeat E env
      else l.tryHandleReadyControl E env) := by
  split
  · exact (tryHandleReadyControl_idle E env l).trans (serveHeartbeat_idle E env _)
  · exact tryHandleReadyControl_idle E env l

theorem tryNext_idle (lane : MessageLane) (l : WriteLoop) :
    ∃ r l', l.tryNext E env lane = (r, l') ∧ Idle l l' := by
  obtain ⟨a, l₁, hask, h₁⟩ := l.ask_idle E env
  simp only [tryNext, hask]
  exact ⟨_, _, rfl, h₁.trans ⟨rfl, rfl, id⟩⟩

theorem fairnessRequest_idle (l : WriteLoop) :
    ∃ next l', l.fairnessRequest E env = (next, l') ∧ Idle l l' := by
  unfold fairnessRequest
  split
  · obtain ⟨urgent, l₁, hurgent, h₁⟩ := l.tryNext_idle E env .urgent
    simp only [hurgent]
    cases urgent with
    | some r => exact ⟨_, _, rfl, h₁⟩
    | none =>
      obtain ⟨normal, l₂, hnormal, h₂⟩ := l₁.tryNext_idle E env .normal
      simp only [hnormal]
      cases normal with
      | some r => exact ⟨_, _, rfl, h₁.trans h₂⟩
      | none => exact ⟨_, _, rfl, (h₁.trans h₂).trans ⟨rfl, rfl, id⟩⟩
  · exact ⟨_, _, rfl, .refl l⟩

end

/-- A turn gives the sink nothing, or it handles one request. -/
inductive Turn (C : WriteConfig) (l l' : WriteLoop) : Prop
  | idle (h : Idle l l')
  | handles (r : QueuedRequest) (sent : List Submission)
      (wire : l'.writer.wire = l.writer.wire ++ sent)
      (dequeued : l'.dequeued = l.dequeued ++ [r])
      (begun : Writer.Begun r.op 0 (framesOf C r) sent)
      (whole : l'.running → sent = [] ∨ sent = Writer.allSent r.op 0 (framesOf C r))

theorem Turn.after (h : Idle l l') (h' : Turn C l' l'') : Turn C l l'' := by
  cases h' with
  | idle h' => exact .idle (h.trans h')
  | handles r sent wire dequeued begun whole =>
    exact .handles r sent (by rw [wire, h.wire]) (by rw [dequeued, h.dequeued]) begun whole

section

variable (E : SessionConfig) (C : WriteConfig) (env : Nat → Answer)

theorem handleRequest_turn (lane : MessageLane) (controls : Nat) (r : QueuedRequest)
    (l : WriteLoop) : Turn C l (l.handleRequest E C env lane controls r) := by
  obtain ⟨action, sent, hhandled, hdequeued, hrunning⟩ :=
    handleRequest_spec E C env lane controls r l
  exact .handles r sent hhandled.wire hdequeued hhandled.begun fun h =>
    hhandled.whole (hrunning h)

theorem selectEvent_turn (l : WriteLoop) : Turn C l (l.selectEvent E C env) := by
  obtain ⟨a, l₁, hask, h₁⟩ := l.ask_idle E env
  simp only [selectEvent, hask]
  split
  · exact .idle (h₁.trans (stop_idle l₁))
  · exact .idle (h₁.trans (stop_idle l₁))
  · exact .idle (h₁.trans (afterControl_idle l₁ _))
  · have hserve := serveHeartbeat_idle E env
      { l₁ with consecutiveControls := if ‹Bool› then 0 else l₁.consecutiveControls }
    exact .idle (h₁.trans ⟨hserve.wire, hserve.dequeued, hserve.running⟩)
  · rename_i lane _
    obtain ⟨next, l₂, hnext, h₂⟩ := l₁.tryNext_idle E env lane
    simp only [hnext]
    cases next with
    | some r => exact .after (h₁.trans h₂) (handleRequest_turn E C env lane _ r l₂)
    | none =>
      dsimp only
      split
      · exact .idle ((h₁.trans h₂).trans (stop_idle l₂))
      · exact .idle (h₁.trans h₂)

theorem turn_turn (l : WriteLoop) : Turn C l (l.turn E C env) := by
  unfold turn
  split
  · exact .idle (.refl l)
  obtain ⟨a, l₁, hask, h₁⟩ := l.ask_idle E env
  simp only [hask]
  split
  · exact .idle (h₁.trans (stop_idle l₁))
  -- The heartbeat that is due comes first.
  generalize hdue : (if a.heartbeatDue then _ else l₁) = l₂
  have h₂ : Idle l₁ l₂ := by
    rw [← hdue]
    split
    · exact controlAndHeartbeat_idle E env l₁
    · exact .refl l₁
  split
  · exact .idle (h₁.trans h₂)
  obtain ⟨a₃, l₃, hask₃, h₃⟩ := l₂.ask_idle E env
  simp only [hask₃]
  have hbefore := (h₁.trans h₂).trans h₃
  split
  · exact .idle (hbefore.trans (controlAndHeartbeat_idle E env l₃))
  obtain ⟨next, l₄, hnext, h₄⟩ := l₃.fairnessRequest_idle E env
  simp only [hnext]
  cases next with
  | some next => exact .after (hbefore.trans h₄) (handleRequest_turn E C env next.2 0 next.1 l₄)
  | none => exact .after (hbefore.trans h₄) (selectEvent_turn E C env l₄)

end

/-! ## Whole runs -/

/-- Whole messages in the order taken, then, at the end, what was sent of the last. -/
structure Framed (C : WriteConfig) (l : WriteLoop) (whole : List QueuedRequest)
    (rest : List Submission) : Prop where
  order : whole.Sublist l.dequeued
  wire : l.writer.wire = whole.flatMap (fun r => Writer.allSent r.op 0 (framesOf C r)) ++ rest
  ended : rest = [] ∨
    (l.running = false ∧ ∃ r ∈ l.dequeued, Writer.Begun r.op 0 (framesOf C r) rest)

variable {whole : List QueuedRequest} {rest : List Submission}

theorem Framed.idle (h : Framed C l whole rest) (hidle : Idle l l') : Framed C l' whole rest where
  order := hidle.dequeued ▸ h.order
  wire := hidle.wire.trans h.wire
  ended := by
    refine h.ended.imp_right fun ⟨hended, hlast⟩ => ⟨?_, hidle.dequeued ▸ hlast⟩
    by_contra hrunning
    rw [hidle.running (by simpa using hrunning)] at hended
    cases hended

/-- A turn of a running loop begins after whole messages. -/
theorem Framed.turn (h : Framed C l whole rest) (hrunning : l.running)
    (hturn : Turn C l l') : ∃ whole' rest', Framed C l' whole' rest' := by
  cases hturn with
  | idle hidle => exact ⟨whole, rest, h.idle hidle⟩
  | handles r sent wire dequeued begun hwhole =>
    obtain rfl : rest = [] := by
      rcases h.ended with hrest | ⟨hended, -⟩
      · exact hrest
      · rw [hrunning] at hended
        cases hended
    have hwire : l'.writer.wire =
        whole.flatMap (fun r => Writer.allSent r.op 0 (framesOf C r)) ++ sent := by
      rw [wire, h.wire, List.append_nil]
    have horder : whole.Sublist l'.dequeued := by
      rw [dequeued]
      exact h.order.trans (List.sublist_append_left _ _)
    -- All of the message, or a part of it that has ended the loop.
    by_cases hall : sent = Writer.allSent r.op 0 (framesOf C r)
    · refine ⟨whole ++ [r], [], ?_, by simp [hwire, hall], .inl rfl⟩
      rw [dequeued]
      exact h.order.append (.refl _)
    · refine ⟨whole, sent, horder, hwire, ?_⟩
      by_cases hempty : sent = []
      · exact .inl hempty
      refine .inr ⟨?_, r, by simp [dequeued], begun⟩
      by_contra hgoes
      rcases hwhole (by simpa using hgoes) with hnone | hsome
      · exact hempty hnone
      · exact hall hsome

theorem turn_of_ended (h : l.running = false) : l.turn E C env = l := by
  rw [turn, if_pos h]

theorem run_of_ended (h : l.running = false) : ∀ turns, l.run E C env turns = l
  | 0 => rfl
  | turns + 1 => by
    rw [run, turn_of_ended h]
    exact run_of_ended h turns

theorem run_add (turns more : Nat) (l : WriteLoop) :
    l.run E C env (turns + more) = (l.run E C env turns).run E C env more := by
  induction turns generalizing l with
  | zero => rw [Nat.zero_add, run]
  | succ turns ih =>
    rw [Nat.succ_add, run, run]
    exact ih (l.turn E C env)

theorem Framed.run (h : Framed C l whole rest) (turns : Nat) :
    ∃ whole' rest', Framed C (l.run E C env turns) whole' rest' := by
  induction turns generalizing l whole rest with
  | zero => exact ⟨whole, rest, h⟩
  | succ turns ih =>
    rw [WriteLoop.run]
    cases hrunning : l.running with
    | false =>
      rw [turn_of_ended hrunning]
      exact ih h
    | true =>
      obtain ⟨whole', rest', h'⟩ := h.turn hrunning (turn_turn E C env l)
      exact ih h'

theorem acceptedFrames_whole (whole : List QueuedRequest) :
    Writer.acceptedFrames (whole.flatMap fun r => Writer.allSent r.op 0 (framesOf C r)) =
      whole.flatMap (framesOf C) := by
  induction whole with
  | nil => rfl
  | cons r whole ih =>
    rw [List.flatMap_cons, List.flatMap_cons, Writer.acceptedFrames_append,
      Writer.acceptedFrames_allSent, ih]

/-- **The accepted frames are whole messages, in the order in which their requests were taken, and
at most one incomplete message after them**, for every session, queue and environment; after that
nothing is given to the sink. -/
theorem wire_framing (E : SessionConfig) (C : WriteConfig) (env : Nat → Answer) (net : Net)
    (turns : Nat) :
    ∃ (whole : List QueuedRequest) (part : List WireFrame),
      whole.Sublist (WriteLoop.run E C env turns { writer := { net } }).dequeued ∧
      Writer.acceptedFrames (WriteLoop.run E C env turns { writer := { net } }).writer.wire =
        whole.flatMap (framesOf C) ++ part ∧
      (part = [] ∨ ((∃ r ∈ (WriteLoop.run E C env turns { writer := { net } }).dequeued,
          part <+: framesOf C r) ∧
        ∀ more, (WriteLoop.run E C env (turns + more) { writer := { net } }).writer.wire =
          (WriteLoop.run E C env turns { writer := { net } }).writer.wire)) := by
  have hnew : Framed C { writer := { net } } [] [] := ⟨List.nil_sublist _, rfl, .inl rfl⟩
  obtain ⟨whole, rest, hframed⟩ : ∃ whole rest,
      Framed C (WriteLoop.run E C env turns { writer := { net } }) whole rest := hnew.run turns
  refine ⟨whole, Writer.acceptedFrames rest, hframed.order, ?_, ?_⟩
  · rw [hframed.wire, Writer.acceptedFrames_append, acceptedFrames_whole]
  · rcases hframed.ended with hnone | ⟨hended, r, hr, hbegun⟩
    · exact .inl (by rw [hnone]; rfl)
    · obtain ⟨left, hleft⟩ := hbegun.accepted_isPrefix
      refine .inr ⟨⟨r, hr, left, hleft.symm⟩, fun more => ?_⟩
      rw [run_add, run_of_ended hended]

end WriteLoop

end OpenNet.Ws
