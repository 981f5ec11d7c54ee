import Mathlib.Data.List.TakeWhile
import ServiceGroups.Proofs.Text.Percent
import ServiceGroups.Text.Form

/-!
# Form-encoded pairs are read back

A form-encoded component is made of few characters, none of which separates components or
has a meaning elsewhere in an address.  Splitting a query at its separators therefore gives
its components, and each of them is decoded to the text that was written, whatever that is.
-/

namespace ServiceGroups

namespace Text

section Splitting

variable {separator : Char} {piece : List Char}

theorem splitAtEach_of_absent (absent : separator ∉ piece) :
    splitAtEach separator piece = [piece] := by
  induction piece with
  | nil => rfl
  | cons char rest ih =>
      rw [List.mem_cons, not_or] at absent
      rw [splitAtEach, ih absent.2]
      simp [Ne.symm absent.1]

theorem splitAtEach_ne_nil (separator : Char) (chars : List Char) :
    splitAtEach separator chars ≠ [] := by
  cases chars with
  | nil => exact List.cons_ne_nil _ _
  | cons char rest =>
      unfold splitAtEach
      split
      · exact List.cons_ne_nil _ _
      · split <;> exact List.cons_ne_nil _ _

/-- A text is split behind a piece that does not hold the separator. -/
theorem splitAtEach_append (absent : separator ∉ piece) (rest : List Char) :
    splitAtEach separator (piece ++ separator :: rest) = piece :: splitAtEach separator rest := by
  induction piece with
  | nil =>
      obtain ⟨first, others, pieces⟩ :=
        List.exists_cons_of_ne_nil (splitAtEach_ne_nil separator rest)
      rw [List.nil_append, splitAtEach, pieces]
      simp
  | cons char more ih =>
      rw [List.mem_cons, not_or] at absent
      rw [List.cons_append, splitAtEach, ih absent.2]
      simp [Ne.symm absent.1]

/-- Pieces that do not hold the separator are found again. -/
theorem splitAtEach_intercalate {pieces : List (List Char)} (present : pieces ≠ [])
    (absent : ∀ piece ∈ pieces, separator ∉ piece) :
    splitAtEach separator (List.intercalate [separator] pieces) = pieces := by
  induction pieces with
  | nil => exact absurd rfl present
  | cons piece rest ih =>
      have here := absent piece List.mem_cons_self
      cases rest with
      | nil => simpa using splitAtEach_of_absent here
      | cons next others =>
          have later := ih (List.cons_ne_nil _ _)
            fun other member => absent other (List.mem_cons_of_mem _ member)
          rw [List.intercalate_cons_cons, List.append_assoc, List.singleton_append,
            splitAtEach_append here, later]

theorem splitAtFirst_append (absent : separator ∉ piece) (rest : List Char) :
    splitAtFirst separator (piece ++ separator :: rest) = (piece, rest) := by
  have front : ∀ char ∈ piece, (char != separator) = true := by
    intro char member
    exact bne_iff_ne.mpr fun same => absent (same ▸ member)
  rw [splitAtFirst, List.takeWhile_append_of_pos front, List.dropWhile_append_of_pos front]
  simp

end Splitting

theorem utf8EncodeChar_of_ascii {char : Char} (ascii : char.toNat < 128) :
    String.utf8EncodeChar char = [UInt8.ofNat char.toNat] := by
  have number : char.toNat = char.val.toNat := rfl
  rw [String.utf8EncodeChar]
  simp only [← number]
  rw [if_pos (by omega)]

/-- The bytes of ASCII characters are their codes. -/
theorem bytes_of_ascii {chars : List Char} (ascii : ∀ char ∈ chars, char.toNat < 128) :
    bytes (String.ofList chars) = chars.map fun char => UInt8.ofNat char.toNat := by
  rw [bytes_eq_flatMap, String.toList_ofList]
  induction chars with
  | nil => rfl
  | cons char rest ih =>
      rw [List.flatMap_cons, utf8EncodeChar_of_ascii (ascii char List.mem_cons_self),
        ih fun other member => ascii other (List.mem_cons_of_mem _ member)]
      rfl

theorem percentDecodeBytes_cons {byte : UInt8} (other : byte ≠ 0x25) (rest : List UInt8) :
    percentDecodeBytes (byte :: rest) = byte :: percentDecodeBytes rest := by
  rw [percentDecodeBytes]
  rintro _ _ _ rfl
  exact absurd rfl other

theorem percentDecodeBytes_code {high low : UInt8} {upper lower : Nat}
    (readHigh : hexByte? high = some upper) (readLow : hexByte? low = some lower)
    (rest : List UInt8) :
    percentDecodeBytes (0x25 :: high :: low :: rest) =
      UInt8.ofNat (16 * upper + lower) :: percentDecodeBytes rest := by
  rw [percentDecodeBytes, readHigh, readLow]

/-- The character is in ASCII, separates no components and starts no fragment. -/
def isFormSafe (char : Char) : Bool :=
  char.toNat < 128 && ['&', '=', '#'].all (char != ·)

/-- The codes of characters as they are decoded: a plus sign stands for a blank. -/
def formCodes (chars : List Char) : List UInt8 :=
  (chars.map fun char => UInt8.ofNat char.toNat).map fun byte =>
    if byte == 0x2b then 0x20 else byte

theorem formCodes_append (first second : List Char) :
    formCodes (first ++ second) = formCodes first ++ formCodes second := by
  simp [formCodes]

section Components

theorem isFormSafe_of_mem {text : String} {char : Char} (member : char ∈ formComponent text) :
    isFormSafe char = true := by
  have all : ∀ code < 256, (formByte (UInt8.ofNat code)).all isFormSafe = true := by
    decide +kernel
  obtain ⟨byte, -, among⟩ := List.mem_flatMap.mp member
  have here := all byte.toNat byte.toNat_lt
  rw [UInt8.ofNat_toNat] at here
  exact List.all_eq_true.mp here char among

theorem not_mem_formComponent {char : Char} (special : isFormSafe char = false) (text : String) :
    char ∉ formComponent text := by
  intro member
  rw [isFormSafe_of_mem member] at special
  cases special

theorem hexByte?_hexDigitUpper : ∀ value < 16,
    hexByte? (UInt8.ofNat (hexDigitUpper value).toNat) = some value := by
  decide

theorem formCodes_percentCode (byte : UInt8) :
    formCodes (percentCode byte) =
      [0x25, UInt8.ofNat (hexDigitUpper (byte.toNat / 16)).toNat,
        UInt8.ofNat (hexDigitUpper (byte.toNat % 16)).toNat] := by
  have digit : ∀ value < 16, formCodes [hexDigitUpper value] =
      [UInt8.ofNat (hexDigitUpper value).toNat] := by
    decide
  have bound := byte.toNat_lt
  have split : percentCode byte = ['%'] ++
      ([hexDigitUpper (byte.toNat / 16)] ++ [hexDigitUpper (byte.toNat % 16)]) := rfl
  rw [split, formCodes_append, formCodes_append, digit _ (by omega), digit _ (by omega)]
  rfl

/-- A byte is read back in front of anything. -/
theorem percentDecodeBytes_formByte (byte : UInt8) (rest : List UInt8) :
    percentDecodeBytes (formCodes (formByte byte) ++ rest) = byte :: percentDecodeBytes rest := by
  have single : ∀ code < 256, isFormPlain (UInt8.ofNat code) = true ∨ UInt8.ofNat code = 0x20 →
      formCodes (formByte (UInt8.ofNat code)) = [UInt8.ofNat code] ∧ UInt8.ofNat code ≠ 0x25 := by
    decide +kernel
  have bound := byte.toNat_lt
  by_cases one : isFormPlain byte = true ∨ byte = 0x20
  · obtain ⟨same, other⟩ := single byte.toNat bound (by rwa [UInt8.ofNat_toNat])
    rw [UInt8.ofNat_toNat] at same other
    rw [same, List.singleton_append, percentDecodeBytes_cons other]
  · obtain ⟨notPlain, notBlank⟩ := not_or.mp one
    have coded : formByte byte = percentCode byte := by
      simp [formByte, notPlain, notBlank]
    rw [coded, formCodes_percentCode]
    refine (percentDecodeBytes_code (hexByte?_hexDigitUpper _ (by omega))
      (hexByte?_hexDigitUpper _ (by omega)) rest).trans ?_
    rw [Nat.div_add_mod, UInt8.ofNat_toNat]

theorem percentDecodeBytes_formBytes (content : List UInt8) :
    percentDecodeBytes (formCodes (content.flatMap formByte)) = content := by
  induction content with
  | nil => rfl
  | cons byte rest ih =>
      rw [List.flatMap_cons, formCodes_append, percentDecodeBytes_formByte, ih]

/-- A component is decoded to the text that was encoded. -/
theorem formDecodeComponent?_formComponent (text : String) :
    formDecodeComponent? (formComponent text) = some text := by
  have ascii : ∀ char ∈ formComponent text, char.toNat < 128 := by
    intro char member
    exact of_decide_eq_true ((Bool.and_eq_true _ _).mp (isFormSafe_of_mem member)).1
  rw [formDecodeComponent?, formDecodeBytes, bytes_of_ascii ascii]
  exact (congrArg ofBytes? (percentDecodeBytes_formBytes (bytes text))).trans (ofBytes?_bytes text)

end Components

section Queries

variable {pairs : List (String × String)}

theorem formPair_ne_nil (pair : String × String) : formPair pair ≠ [] := by
  simp [formPair]

theorem not_mem_formPair {char : Char} (special : isFormSafe char = false) (other : char ≠ '=')
    (pair : String × String) : char ∉ formPair pair := by
  rw [formPair, List.mem_append, List.mem_cons, not_or, not_or]
  exact ⟨not_mem_formComponent special _, other, not_mem_formComponent special _⟩

theorem toList_formEncode (pairs : List (String × String)) :
    (formEncode pairs).toList = List.intercalate ['&'] (pairs.map formPair) :=
  String.toList_ofList

theorem mem_intercalate {char separator : Char} {pieces : List (List Char)}
    (member : char ∈ List.intercalate [separator] pieces) :
    char = separator ∨ ∃ piece ∈ pieces, char ∈ piece := by
  induction pieces with
  | nil => cases member
  | cons piece rest ih =>
      cases rest with
      | nil => exact .inr ⟨piece, List.mem_cons_self, by simpa using member⟩
      | cons next others =>
          rw [List.intercalate_cons_cons, List.append_assoc, List.mem_append,
            List.singleton_append, List.mem_cons] at member
          rcases member with here | same | later
          · exact .inr ⟨piece, List.mem_cons_self, here⟩
          · exact .inl same
          · exact (ih later).imp_right fun ⟨other, among, inside⟩ =>
              ⟨other, List.mem_cons_of_mem _ among, inside⟩

/-- A query starts no fragment. -/
theorem not_mem_formEncode (pairs : List (String × String)) :
    '#' ∉ (formEncode pairs).toList := by
  rw [toList_formEncode]
  intro member
  rcases mem_intercalate member with same | ⟨piece, among, inside⟩
  · exact absurd same (by decide)
  · obtain ⟨pair, -, rfl⟩ := List.mem_map.mp among
    exact not_mem_formPair (by decide) (by decide) pair inside

/-- Pairs have a written form; only without any it is empty. -/
theorem formEncode_eq_empty : formEncode pairs = "" ↔ pairs = [] := by
  refine ⟨fun empty => ?_, fun none => none ▸ rfl⟩
  have chars := congrArg String.toList empty
  rw [toList_formEncode] at chars
  cases pairs with
  | nil => rfl
  | cons pair rest =>
      have first : formPair pair <+: List.intercalate ['&'] ((pair :: rest).map formPair) := by
        cases rest <;> simp [List.intercalate_cons_cons]
      rw [chars] at first
      exact absurd (List.prefix_nil.mp first) (formPair_ne_nil pair)

/-- Pairs of any texts are read back from their query. -/
theorem formDecode_formEncode (pairs : List (String × String)) :
    formDecode (formEncode pairs) = pairs.map fun pair => (some pair.1, some pair.2) := by
  by_cases none : pairs = []
  · subst none
    rfl
  · have apart : ∀ piece ∈ pairs.map formPair, '&' ∉ piece := by
      intro piece member
      obtain ⟨pair, -, rfl⟩ := List.mem_map.mp member
      exact not_mem_formPair (by decide) (by decide) pair
    have whole : (pairs.map formPair).filter (!·.isEmpty) = pairs.map formPair := by
      refine List.filter_eq_self.mpr fun piece member => ?_
      obtain ⟨pair, -, rfl⟩ := List.mem_map.mp member
      simp [formPair_ne_nil]
    rw [formDecode, toList_formEncode, splitAtEach_intercalate (by simpa using none) apart, whole,
      List.map_map]
    refine List.map_congr_left fun pair _ => ?_
    rw [Function.comp_apply, formPair,
      splitAtFirst_append (not_mem_formComponent (by decide) pair.1)]
    simp only [formDecodeComponent?_formComponent]

end Queries

end Text

end ServiceGroups
