import OpenNet.Ws.WireFrames

/-!
# Fragmentation of a message

The data frames that `OutgoingMessageFrames` makes of a message, read back as RFC 6455 says: the
opcode of the first frame, continuations until the final one. `Tiles` is the shape of a fragmented
message. The iterator makes only such lists, and a receiver joins each of them to the message.
-/

namespace OpenNet.Ws

structure DataFrame where
  opcode : DataOpcode
  payload : List UInt8
  final : Bool
  deriving DecidableEq, Repr

def Message.opcode : Message → DataOpcode
  | .text _ => .text
  | .binary _ => .binary

def Message.payload : Message → List UInt8
  | .text payload | .binary payload => payload

/-- A whole message is one final frame. -/
def WireFrame.wire : WireFrame → DataFrame
  | .message whole => ⟨whole.opcode, whole.payload, true⟩
  | .frame payload opcode final => ⟨opcode, payload, final⟩

/-- A receiver after one more frame: the first names the opcode. -/
def extend (started : Option (DataOpcode × List UInt8)) (opcode : DataOpcode)
    (payload : List UInt8) : Option (DataOpcode × List UInt8) :=
  match started, opcode with
  | none, .continuation => none
  | none, opcode => some (opcode, payload)
  | some (first, bytes), .continuation => some (first, bytes ++ payload)
  | some _, _ => none

/-- The message of the frames, for a receiver with `started`. -/
def reassemble (started : Option (DataOpcode × List UInt8)) :
    List DataFrame → Option (DataOpcode × List UInt8)
  | [] => none
  | frame :: frames => (extend started frame.opcode frame.payload).bind fun message =>
    if frame.final then if frames = [] then some message else none
    else reassemble (some message) frames

/-- All frames but the last are full; only the last is final. -/
inductive Tiles (size : Nat) : DataOpcode → List UInt8 → List DataFrame → Prop where
  | last {opcode payload} : 0 < payload.length → payload.length ≤ size →
      Tiles size opcode payload [⟨opcode, payload, true⟩]
  | cons {opcode payload frames} : size < payload.length →
      Tiles size .continuation (payload.drop size) frames →
      Tiles size opcode payload (⟨opcode, payload.take size, false⟩ :: frames)

namespace Tiles

variable {size : Nat} {opcode : DataOpcode} {payload : List UInt8} {frames : List DataFrame}

theorem size_pos (h : Tiles size opcode payload frames) : 0 < size := by
  induction h with
  | last hpos hsize => omega
  | cons _ _ ih => exact ih

theorem length_eq (h : Tiles size opcode payload frames) :
    frames.length = (payload.length + size - 1) / size := by
  induction h with
  | last hpos hsize =>
    symm
    apply Nat.div_eq_of_lt_le <;> simp <;> omega
  | @cons _ payload _ hsize hrest ih =>
    have hsum : payload.length + size - 1 = size + ((payload.drop size).length + size - 1) := by
      rw [List.length_drop]
      omega
    rw [hsum, Nat.add_div_left _ hrest.size_pos, List.length_cons, ih]

theorem shape (h : Tiles size opcode payload frames) : ∃ init last, frames = init ++ [last] ∧
    last.final ∧ 0 < last.payload.length ∧ last.payload.length ≤ size ∧
      ∀ frame ∈ init, frame.final = false ∧ frame.payload.length = size := by
  induction h with
  | last hpos hsize => exact ⟨[], _, rfl, rfl, hpos, hsize, by simp⟩
  | cons hsize _ ih =>
    obtain ⟨init, last, rfl, hfinal, hpos, hlast, hinit⟩ := ih
    refine ⟨_ :: init, last, rfl, hfinal, hpos, hlast, ?_⟩
    intro frame hframe
    rcases List.mem_cons.mp hframe with rfl | hframe
    · exact ⟨rfl, by simp; omega⟩
    · exact hinit frame hframe

theorem reassemble_eq (h : Tiles size opcode payload frames) {started first bytes}
    (hextend : ∀ payload, extend started opcode payload = some (first, bytes ++ payload)) :
    reassemble started frames = some (first, bytes ++ payload) := by
  induction h generalizing started bytes with
  | last => simp [reassemble, hextend]
  | @cons _ payload frames _ _ ih =>
    have hrest : reassemble (some (first, bytes ++ payload.take size)) frames = _ :=
      ih fun _ => rfl
    simp [reassemble, hextend, hrest]

end Tiles

/-- By induction on the fuel: each frame moves the offset by a full frame or to the end. -/
theorem OutgoingMessageFrames.collect_tiles {payload : List UInt8} (first : DataOpcode)
    {size count : Nat} (offset : Nat) (hsize : 0 < size) (hoffset : offset < payload.length)
    (hcount : payload.length - offset < count) :
    Tiles size (if offset = 0 then first else .continuation) (payload.drop offset)
      ((collect count (.fragmented payload first size offset)).map WireFrame.wire) := by
  induction count generalizing offset with
  | zero => omega
  | succ count ih =>
    simp only [collect, next, if_neg (Nat.not_le.mpr hoffset), List.map_cons, WireFrame.wire]
    by_cases hend : payload.length ≤ offset + size
    · have hcollect : collect count (.fragmented payload first size payload.length) = [] := by
        cases count <;> simp [collect, next]
      simp only [Nat.min_eq_right hend, hcollect, List.map_nil]
      rw [List.take_of_length_le (Nat.le_of_eq List.length_drop)]
      exact .last (by simp; omega) (by simp; omega)
    · have hrest := ih (offset + size) (by omega) (by omega)
      rw [if_neg (by omega : offset + size ≠ 0)] at hrest
      rw [Nat.min_eq_left (by omega), Nat.add_sub_cancel_left,
        decide_eq_false (by omega : offset + size ≠ payload.length)]
      exact .cons (by simp; omega) (List.drop_drop ▸ hrest)

/-- A message longer than the frame size is fragmented, and any other is one frame. -/
theorem OutgoingMessageFrames.new_eq (message : Message) (frameSize : Option Nat) :
    new message frameSize = if 0 < frameSize.getD 0 ∧ frameSize.getD 0 < message.payload.length then
        .fragmented message.payload message.opcode (frameSize.getD 0) 0
      else .single (some message) := by
  cases frameSize with
  | none => simp [new]
  | some size =>
    by_cases hsize : 0 < size
    · cases message <;> simp [new, hsize, Option.filter_some, Message.payload, Message.opcode]
    · simp [new, hsize, Option.filter_some]

open OutgoingMessageFrames in
/-- Every message comes to at least one frame, and to as many as its payload fills when the frame
size is positive. -/
theorem frames_round_trip (message : Message) (frameSize : Option Nat) :
    let frames := (message.frames frameSize).map WireFrame.wire
    let size := frameSize.getD 0
    reassemble none frames = some (message.opcode, message.payload) ∧
    (∃ init last, frames = init ++ [last] ∧ last.final = true ∧
      (init ≠ [] → 0 < last.payload.length ∧ last.payload.length ≤ size) ∧
      ∀ frame ∈ init, frame.final = false ∧ frame.payload.length = size) ∧
    frames.length =
      (if size = 0 then 1 else max 1 ((message.payload.length + size - 1) / size)) ∧
    ∀ count, message.len + 1 < count →
      collect count (.new message frameSize) = message.frames frameSize := by
  intro frames size
  have hlen : message.len = message.payload.length := by cases message <;> rfl
  by_cases hlong : 0 < size ∧ size < message.payload.length
  · have hnew := (new_eq message frameSize).trans (if_pos hlong)
    have htiles : Tiles size message.opcode message.payload frames := by
      have hcount : message.payload.length - 0 < message.len + 2 := by omega
      have htiles := collect_tiles message.opcode 0 hlong.1 (by omega) hcount
      rwa [← hnew] at htiles
    have hlength := htiles.length_eq
    obtain ⟨init, last, heq, hfinal, hpos, hlast, hinit⟩ := htiles.shape
    refine ⟨?_, ⟨init, last, heq, hfinal, fun _ => ⟨hpos, hlast⟩, hinit⟩, ?_, ?_⟩
    · have hextend : ∀ payload, extend none message.opcode payload =
          some (message.opcode, [] ++ payload) := by
        cases message <;> exact fun _ => rfl
      exact htiles.reassemble_eq hextend
    · rw [if_neg (by omega), hlength, Nat.max_eq_right]
      apply Nat.div_pos <;> omega
    · intro count hcount
      rw [Message.frames, hnew]
      exact collect_eq hlong.1 (by simp only [remaining]; omega) (by simp only [remaining]; omega)
  · have hnew := (new_eq message frameSize).trans (if_neg hlong)
    have hframes : message.frames frameSize = [.message message] := by
      simp [Message.frames, hnew, collect, next]
    have hwire : frames = [⟨message.opcode, message.payload, true⟩] := by
      simp [frames, hframes, WireFrame.wire]
    rw [hwire]
    refine ⟨by cases message <;> rfl, ⟨[], _, rfl, rfl, by simp, by simp⟩, ?_, ?_⟩
    · split
      · rfl
      · have hone : (message.payload.length + size - 1) / size < 2 := by
          apply Nat.div_lt_of_lt_mul
          omega
        exact (Nat.max_eq_left (Nat.le_of_lt_succ hone)).symm
    · intro count hcount
      rw [Message.frames, hnew]
      exact collect_eq trivial (by simp [remaining]; omega) (by simp [remaining])

/-- An empty message is one frame, although no byte needs one. -/
theorem empty_message_framed : ((Message.text []).frames (some 4)).length = 1 ∧
    ((Message.text []).payload.length + 4 - 1) / 4 = 0 := by decide

end OpenNet.Ws
