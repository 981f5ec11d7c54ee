import ServiceGroups.Proofs.Text.ByteOrder
import ServiceGroups.Text.Percent

/-!
# Text without percent signs

Decoding percent codes leaves a text without percent signs as it is: no other character
has the byte of a percent sign in its encoding.
-/

namespace ServiceGroups

namespace Text

theorem ofBytes?_bytes (text : String) : ofBytes? (bytes text) = some text := by
  have valid : text.toUTF8.IsValidUTF8 := text.isValidUTF8
  exact dif_pos valid

/-- The small bytes of an encoding are those of characters that are one byte long. -/
theorem toNat_eq_of_mem_utf8EncodeChar {char : Char} {byte : UInt8}
    (member : byte ∈ String.utf8EncodeChar char) (small : byte.toNat < 128) :
    char.toNat = byte.toNat := by
  simp only [String.utf8EncodeChar] at member
  have number : char.toNat = char.val.toNat := rfl
  split_ifs at member <;>
    simp only [List.mem_cons, List.not_mem_nil, or_false] at member <;>
    rcases member with rfl | rfl | rfl | rfl <;>
    simp only [UInt8.toNat_ofNat', Nat.reducePow] at small ⊢ <;> omega

theorem percentDecodeBytes_of_no_sign {content : List UInt8} (absent : 0x25 ∉ content) :
    percentDecodeBytes content = content := by
  induction content with
  | nil => rfl
  | cons byte rest ih =>
      rw [List.mem_cons, not_or] at absent
      obtain ⟨other, restAbsent⟩ := absent
      unfold percentDecodeBytes
      split
      · next nothing => cases nothing
      · next same =>
          cases same
          exact absurd rfl other
      · next same =>
          cases same
          rw [ih restAbsent]

theorem percentDecode?_of_no_sign {text : String} (absent : '%' ∉ text.toList) :
    percentDecode? text = some text := by
  have noSign : 0x25 ∉ bytes text := by
    intro member
    rw [bytes_eq_flatMap] at member
    obtain ⟨char, among, encoded⟩ := List.mem_flatMap.mp member
    have code : char.toNat = '%'.toNat := toNat_eq_of_mem_utf8EncodeChar encoded (by decide)
    exact absent (Char.toNat_inj.mp code ▸ among)
  rw [percentDecode?, percentDecodeBytes_of_no_sign noSign, ofBytes?_bytes]

/-- A text has at least as many bytes as characters. -/
theorem length_le_utf8ByteSize (text : String) : text.length ≤ text.utf8ByteSize := by
  have size : text.utf8ByteSize = (bytes text).length := rfl
  rw [size, bytes_eq_flatMap, ← String.length_toList]
  generalize text.toList = chars
  induction chars with
  | nil => exact Nat.le_refl 0
  | cons char rest ih =>
      have long := List.length_pos_iff.mpr (String.utf8EncodeChar_ne_nil (c := char))
      rw [List.flatMap_cons, List.length_append, List.length_cons]
      omega

end Text

end ServiceGroups
