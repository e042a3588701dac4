import OpenNet.Ws.Fragmentation
import OpenNet.Ws.Framing

/-!
# What the peer receives

The frames that the sink accepts over a whole run of the write loop, read by a receiver that knows
nothing of requests: RFC 6455 lets it start a message with an opcode, extend it with
continuations, and deliver it with the final frame.
-/

namespace OpenNet.Ws

def receive (started : Option (DataOpcode × List UInt8)) :
    List DataFrame → Option (List (DataOpcode × List UInt8) × Option (DataOpcode × List UInt8))
  | [] => some ([], started)
  | frame :: frames => (extend started frame.opcode frame.payload).bind fun message =>
    if frame.final then (receive none frames).map fun later => (message :: later.1, later.2)
    else receive (some message) frames

inductive Carries : DataOpcode → List UInt8 → List DataFrame → Prop where
  | last (opcode : DataOpcode) (payload : List UInt8) :
      Carries opcode payload [⟨opcode, payload, true⟩]
  | cons (opcode : DataOpcode) (part : List UInt8) {payload : List UInt8} {frames : List DataFrame}
      (rest : Carries .continuation payload frames) :
      Carries opcode (part ++ payload) (⟨opcode, part, false⟩ :: frames)

theorem Tiles.carries {size : Nat} {opcode : DataOpcode} {payload : List UInt8}
    {frames : List DataFrame} (h : Tiles size opcode payload frames) :
    Carries opcode payload frames := by
  induction h with
  | last => exact .last _ _
  | @cons opcode payload _ _ _ ih =>
    have hcarries := Carries.cons opcode (payload.take size) ih
    rwa [List.take_append_drop] at hcarries

/-- What a message is sent as, for the reader of its frames. -/
def Message.received (message : Message) : DataOpcode × List UInt8 :=
  (message.opcode, message.payload)

open OutgoingMessageFrames in
theorem Message.frames_carry (message : Message) (frameSize : Option Nat) :
    Carries message.opcode message.payload ((message.frames frameSize).map WireFrame.wire) := by
  have hnew := new_eq message frameSize
  split at hnew
  · rename_i hlong
    have hlen : message.len = message.payload.length := by cases message <;> rfl
    have htiles := collect_tiles message.opcode 0 hlong.1 (by omega)
      (show message.payload.length - 0 < message.len + 2 by omega)
    rw [← hnew] at htiles
    exact htiles.carries
  · rw [Message.frames, hnew]
    exact .last _ _

namespace Carries

variable {opcode first : DataOpcode} {payload bytes : List UInt8} {frames : List DataFrame}

variable {started : Option (DataOpcode × List UInt8)}

theorem receive_append (h : Carries opcode payload frames) (later : List DataFrame)
    (hextend : ∀ part, extend started opcode part = some (first, bytes ++ part)) :
    receive started (frames ++ later) =
      (receive none later).map fun r => ((first, bytes ++ payload) :: r.1, r.2) := by
  induction h generalizing started bytes with
  | last => simp [receive, hextend]
  | cons opcode part _ ih =>
    have hrest := @ih (bytes ++ part) (some (first, bytes ++ part)) fun _ => rfl
    simp [receive, hextend, hrest]

/-- Of a message that is broken off the receiver has a beginning. -/
theorem receive_part (h : Carries opcode payload frames) {sent left : List DataFrame}
    (hsent : frames = sent ++ left) (hsome : sent ≠ []) (hleft : left ≠ [])
    (hextend : ∀ part, extend started opcode part = some (first, bytes ++ part)) :
    ∃ begun, begun <+: payload ∧
      receive started sent = some ([], some (first, bytes ++ begun)) := by
  induction h generalizing started bytes sent with
  | last =>
    obtain ⟨frame, sent, rfl⟩ := List.exists_cons_of_ne_nil hsome
    simp [hleft] at hsent
  | @cons opcode part payload frames _ ih =>
    obtain ⟨frame, sent, rfl⟩ := List.exists_cons_of_ne_nil hsome
    obtain ⟨rfl, hrest⟩ := List.cons.inj hsent
    by_cases hmore : sent = []
    · exact ⟨part, ( List.prefix_append _ _), by simp [receive, hextend, hmore]⟩
    · obtain ⟨begun, hbegun, hreceive⟩ :=
        @ih (bytes ++ part) (some (first, bytes ++ part)) sent hrest hmore fun _ => rfl
      exact ⟨part ++ begun, (List.prefix_append_right_inj _).mpr hbegun,
        by simp [receive, hextend, hreceive]⟩

end Carries

theorem extend_opcode (message : Message) (part : List UInt8) :
    extend none message.opcode part = some (message.opcode, [] ++ part) := by
  cases message <;> rfl

namespace WriteLoop

variable {C : WriteConfig}

/-- Whole messages are received one after the other. -/
theorem receive_whole (whole : List QueuedRequest) (later : List WireFrame) :
    receive none ((whole.flatMap (framesOf C) ++ later).map WireFrame.wire) =
      (receive none (later.map WireFrame.wire)).map fun r =>
        (whole.map (·.message.received) ++ r.1, r.2) := by
  induction whole with
  | nil => simp
  | cons r whole ih =>
    have hfirst := (r.message.frames_carry C.dataFramePayloadSize).receive_append
      ((whole.flatMap (framesOf C) ++ later).map WireFrame.wire) (extend_opcode r.message)
    rw [List.flatMap_cons, List.append_assoc, List.map_append, framesOf, hfirst, ih,
      Option.map_map]
    rfl

/-- **The peer receives the messages of requests that were taken, in that order**, and nothing to
refuse: after them at most the whole or a beginning of one more. -/
theorem peer_receives_messages (E : SessionConfig) (C : WriteConfig) (env : Nat → Answer)
    (net : Net) (turns : Nat) :
    let l := WriteLoop.run E C env turns { writer := { net } }
    ∃ (whole : List QueuedRequest) (last : List (DataOpcode × List UInt8))
      (unfinished : Option (DataOpcode × List UInt8)),
      whole.Sublist l.dequeued ∧
      receive none ((Writer.acceptedFrames l.writer.wire).map WireFrame.wire) =
        some (whole.map (·.message.received) ++ last, unfinished) ∧
      (last = [] ∧ unfinished = none ∨ l.running = false ∧ ∃ r ∈ l.dequeued,
        (last = [r.message.received] ∧ unfinished = none ∨
          last = [] ∧ ∃ begun, begun <+: r.message.payload ∧
            unfinished = some (r.message.opcode, begun))) := by
  intro l
  have hnew : Framed C { writer := { net } } [] [] := ⟨List.nil_sublist _, rfl, .inl rfl⟩
  obtain ⟨whole, rest, hframed⟩ : ∃ whole rest, Framed C l whole rest := hnew.run turns
  have hwire : Writer.acceptedFrames l.writer.wire =
      whole.flatMap (framesOf C) ++ Writer.acceptedFrames rest := by
    rw [hframed.wire, Writer.acceptedFrames_append, acceptedFrames_whole]
  rw [hwire, receive_whole]
  by_cases hnone : Writer.acceptedFrames rest = []
  · exact ⟨whole, [], none, hframed.order, by simp [hnone, receive], .inl ⟨rfl, rfl⟩⟩
  obtain ⟨hended, r, hr, hbegun⟩ := hframed.ended.resolve_left fun h => hnone (by rw [h]; rfl)
  obtain ⟨left, hleft⟩ := hbegun.accepted_isPrefix
  have hcarries := r.message.frames_carry C.dataFramePayloadSize
  rw [← framesOf, hleft, List.map_append] at hcarries
  by_cases hall : left = []
  · have hreceive := hcarries.receive_append [] (extend_opcode r.message)
    refine ⟨whole, [r.message.received], none, hframed.order, ?_,
      .inr ⟨hended, r, hr, .inl ⟨rfl, rfl⟩⟩⟩
    simp only [hall, List.map_nil, List.append_nil] at hreceive
    rw [hreceive]
    rfl
  · obtain ⟨begun, hpart, hreceive⟩ := hcarries.receive_part rfl (by simpa using hnone)
      (by simpa using hall) (extend_opcode r.message)
    refine ⟨whole, [], _, hframed.order, ?_,
      .inr ⟨hended, r, hr, .inr ⟨rfl, begun, hpart, rfl⟩⟩⟩
    rw [hreceive]
    rfl

end WriteLoop

end OpenNet.Ws
