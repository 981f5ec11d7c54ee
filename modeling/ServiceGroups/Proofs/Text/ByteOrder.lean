import Mathlib.Tactic.SplitIfs
import ServiceGroups.Text.Utf

/-!
# The order of bytes is the order of text

UTF-8 gives a greater character greater bytes, at the first place where the two
encodings differ.  Text compared byte by byte is therefore text compared character by
character.
-/

namespace ServiceGroups

namespace Text

theorem bytes_eq_flatMap (text : String) :
    bytes text = text.toList.flatMap String.utf8EncodeChar := by
  have encoded := String.utf8Encode_toList (b := text)
  rw [bytes, String.toUTF8, ← encoded, List.utf8Encode]
  simp

/-- Numbers in base 64 are compared from the front. -/
theorem lt_base64 {first second : Nat} (less : first < second) :
    first / 64 < second / 64 ∨ first / 64 = second / 64 ∧ first % 64 < second % 64 := by
  omega

/-- Whatever follows, the encoding of a smaller character comes first. -/
theorem utf8EncodeChar_append_lt {first second : Char} (less : first < second)
    (rest other : List UInt8) :
    String.utf8EncodeChar first ++ rest < String.utf8EncodeChar second ++ other := by
  have numbers : first.val.toNat < second.val.toNat := less
  have bound : second.val.toNat < 0x110000 := by
    rcases second.valid with small | ⟨-, large⟩
    · exact Nat.lt_trans small (by decide)
    · exact large
  simp only [String.utf8EncodeChar]
  generalize first.val.toNat = one at *
  generalize second.val.toNat = two at *
  have third (number : Nat) : number / 4096 = number / 64 / 64 := by omega
  have fourth (number : Nat) : number / 262144 = number / 64 / 64 / 64 := by omega
  -- A byte is a marker for its place above the digits it carries, and nothing is cut off.
  have follow (number : Nat) : (number % 64 + 128) % 256 = number % 64 + 128 := by omega
  have short (number : Nat) : (number % 32 + 192) % 256 = number % 32 + 192 := by omega
  have long (number : Nat) : (number % 16 + 224) % 256 = number % 16 + 224 := by omega
  have longest (number : Nat) : (number % 8 + 240) % 256 = number % 8 + 240 := by omega
  -- Sixteen pairs of lengths; in six the first character would be the greater one.
  split_ifs <;> try omega
  all_goals
    simp only [List.cons_append, List.nil_append, List.cons_lt_cons_iff, UInt8.lt_iff_toNat_lt,
      ← UInt8.toNat_inj, UInt8.toNat_ofNat', Nat.reducePow, follow, short, long, longest,
      third, fourth]
    rcases lt_base64 numbers with front | ⟨front, last⟩
    · rcases lt_base64 front with front | ⟨front, last⟩
      · rcases lt_base64 front with front | ⟨front, last⟩ <;> omega
      · omega
    · omega

theorem bytes_lt_bytes {first second : String} (less : first < second) :
    bytes first < bytes second := by
  rw [bytes_eq_flatMap, bytes_eq_flatMap]
  have chars : first.toList < second.toList := less
  generalize first.toList = one at chars
  generalize second.toList = two at chars
  induction chars with
  | @nil char rest =>
      obtain ⟨byte, more, encoding⟩ :=
        List.exists_cons_of_ne_nil (String.utf8EncodeChar_ne_nil (c := char))
      simp [encoding]
  | rel smaller => exact utf8EncodeChar_append_lt smaller _ _
  | cons more ih => exact List.append_left_lt ih

/-- Text is compared as its bytes are. -/
theorem bytes_lt_iff {first second : String} : bytes first < bytes second ↔ first < second := by
  refine ⟨fun less => ?_, bytes_lt_bytes⟩
  rcases Std.lt_trichotomy first second with smaller | rfl | greater
  · exact smaller
  · exact absurd less (List.lt_irrefl _)
  · exact absurd (List.lt_trans less (bytes_lt_bytes greater)) (List.lt_irrefl _)

/-- Text that is not behind another has bytes that are not behind the other's. -/
theorem isLE_compareOfLessAndEq_bytes (first second : String) :
    (compareOfLessAndEq (bytes first) (bytes second)).isLE = decide (first ≤ second) := by
  rcases Std.lt_trichotomy first second with smaller | rfl | greater
  · have ordered : first ≤ second := String.not_lt.mp (String.lt_asymm smaller)
    simp [compareOfLessAndEq, bytes_lt_iff.mpr smaller, ordered]
  · have notSmaller : ¬ bytes first < bytes first := List.lt_irrefl _
    simp [compareOfLessAndEq, notSmaller]
  · have notSmaller : ¬ bytes first < bytes second := List.lt_asymm (bytes_lt_iff.mpr greater)
    have different : bytes first ≠ bytes second := fun same =>
      List.lt_irrefl _ (same ▸ bytes_lt_iff.mpr greater)
    have unordered : ¬ first ≤ second := String.not_le.mpr greater
    simp [compareOfLessAndEq, notSmaller, different, unordered]

end Text

end ServiceGroups
