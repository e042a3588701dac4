import Mathlib.Data.List.Infix

/-!
# Bytes of texts

The bytes of an ASCII character are the character itself, and every other character is encoded by
bytes from 128 on, so that looking for an ASCII byte is looking for the character.
-/

namespace Utf8

def bytesOf (text : String) : List UInt8 := text.toByteArray.data.toList

theorem bytesOf_eq (text : String) : bytesOf text = text.toList.flatMap String.utf8EncodeChar := by
  rw [bytesOf, ← String.utf8Encode_toList, List.utf8Encode, List.data_toByteArray]

theorem bytesOf_append (a b : String) : bytesOf (a ++ b) = bytesOf a ++ bytesOf b := by
  rw [bytesOf_eq, bytesOf_eq, bytesOf_eq, String.toList_append, List.flatMap_append]

/-- An ASCII byte in the encoding of a character is that character. -/
theorem mem_encodeChar {c : Char} {b : UInt8} (hmem : b ∈ String.utf8EncodeChar c)
    (hascii : b.toNat < 128) : b.toNat = c.toNat ∧ String.utf8EncodeChar c = [b] := by
  unfold String.utf8EncodeChar at hmem ⊢
  simp only [] at hmem ⊢
  have hval : c.val.toNat = c.toNat := rfl
  split at hmem
  next hle =>
    rw [if_pos hle]
    obtain rfl := List.mem_singleton.mp hmem
    refine ⟨?_, rfl⟩
    rw [UInt8.toNat_ofNat', hval]
    omega
  next =>
    -- Each byte of a longer encoding has its first bit set.
    exfalso
    have hbyte : ∀ n : Nat, 128 ≤ n → n < 256 → b = UInt8.ofNat n → False := by
      rintro n hlow hhigh rfl
      rw [UInt8.toNat_ofNat'] at hascii
      omega
    split at hmem
    · simp only [List.mem_cons, List.not_mem_nil, or_false] at hmem
      rcases hmem with h | h
      all_goals exact hbyte _ (by omega) (by omega) h
    split at hmem
    · simp only [List.mem_cons, List.not_mem_nil, or_false] at hmem
      rcases hmem with h | h | h
      all_goals exact hbyte _ (by omega) (by omega) h
    · simp only [List.mem_cons, List.not_mem_nil, or_false] at hmem
      rcases hmem with h | h | h | h
      all_goals exact hbyte _ (by omega) (by omega) h

end Utf8
