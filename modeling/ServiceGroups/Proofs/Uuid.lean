import ServiceGroups.Proofs.Job.Naming
import ServiceGroups.Proofs.Text.Numeral

/-!
# The written forms of identifiers

The digits of an identifier may be of either case, and may stand plain, with hyphens, with
hyphens in braces, or with hyphens behind the scheme of resource names.  Exactly these texts
are read, each as the identifier that its digits spell.
-/

namespace ServiceGroups

namespace Text

theorem toLower_eq_self {char : Char} (large : 90 < char.toNat) : char.toLower = char := by
  unfold Char.toLower
  split
  · next upper =>
      have bound : char ≤ 'Z' := upper.2
      rw [le_iff_toNat_le] at bound
      exact absurd large (Nat.not_lt.mpr bound)
  · rfl

theorem hexValue?_bounds {char : Char} {value : Nat} (read : hexValue? char = some value) :
    value < 16 ∧ char.toNat < 128 := by
  unfold hexValue? at read
  simp only [le_iff_toNat_le] at read
  grind

theorem hexValue?_ascii : ∀ code < 128, ∀ value < 16,
    hexValue? (Char.ofNat code) = some value ↔ (Char.ofNat code).toLower = hexDigit value := by
  decide +kernel

theorem hexValue?_eq_some {char : Char} {value : Nat} :
    hexValue? char = some value ↔ char.toLower = hexDigit value ∧ value < 16 := by
  by_cases ascii : char.toNat < 128
  · have all := hexValue?_ascii char.toNat ascii value
    rw [Char.ofNat_toNat] at all
    constructor
    · intro read
      have small := (hexValue?_bounds read).1
      exact ⟨(all small).mp read, small⟩
    · rintro ⟨same, small⟩
      exact (all small).mpr same
  · constructor
    · exact fun read => absurd (hexValue?_bounds read).2 ascii
    · rintro ⟨same, small⟩
      rw [toLower_eq_self (by omega)] at same
      have bound : ∀ value < 16, (hexDigit value).toNat < 128 := by decide
      exact absurd (same ▸ bound value small) ascii

theorem hexNumber?_append (digits : List Char) (char : Char) :
    hexNumber? (digits ++ [char]) =
      (hexNumber? digits).bind fun value => (hexValue? char).map (16 * value + ·) := by
  simp [hexNumber?, List.foldlM_append]

/-- Digits of either case spell the number that they spell in lower case. -/
theorem hexNumber?_eq_some {digits : List Char} {value : Nat} :
    hexNumber? digits = some value ↔
      digits.map Char.toLower = hexFixed digits.length value ∧ value < 16 ^ digits.length := by
  induction digits using List.reverseRecOn generalizing value with
  | nil => simp [hexNumber?, hexFixed, eq_comm]
  | append_singleton digits char ih =>
      simp only [hexNumber?_append, Option.bind_eq_some_iff, Option.map_eq_some_iff, ih,
        hexValue?_eq_some, List.map_append, List.map_cons, List.map_nil, List.length_append,
        List.length_singleton, hexFixed, pow_succ]
      constructor
      · rintro ⟨front, ⟨same, small⟩, last, ⟨lower, digit⟩, rfl⟩
        have high : (16 * front + last) / 16 = front := by omega
        have low : (16 * front + last) % 16 = last := by omega
        rw [high, low, same, lower]
        exact ⟨rfl, by omega⟩
      · rintro ⟨same, small⟩
        obtain ⟨front, last⟩ := List.append_inj same (by simp)
        exact ⟨value / 16, ⟨front, by omega⟩, value % 16, ⟨List.head_eq_of_cons_eq last, by omega⟩,
          by omega⟩

theorem toLower_hexFixed (width value : Nat) :
    (hexFixed width value).map Char.toLower = hexFixed width value := by
  have lower : ∀ digit < 16, (hexDigit digit).toLower = hexDigit digit := by decide
  induction width generalizing value with
  | zero => rfl
  | succ width ih => simp [hexFixed, ih, lower (value % 16) (Nat.mod_lt _ (by decide))]

theorem mem_hexFixed {char : Char} {width value : Nat} (member : char ∈ hexFixed width value) :
    ∃ digit < 16, char = hexDigit digit := by
  induction width generalizing value with
  | zero => cases member
  | succ width ih =>
      rcases List.mem_append.mp member with front | last
      · exact ih front
      · exact ⟨value % 16, Nat.mod_lt value (by decide), List.mem_singleton.mp last⟩

theorem eq_take_append_drop {chars : List Char} {place : Nat} {mark : Char}
    (found : chars[place]? = some mark) :
    chars = chars.take place ++ mark :: chars.drop (place + 1) := by
  obtain ⟨inside, rfl⟩ := List.getElem?_eq_some_iff.mp found
  rw [List.getElem_cons_drop, List.take_append_drop]

end Text

namespace Uuid

/-- Digits with a hyphen behind the eighth, the twelfth, the sixteenth and the twentieth. -/
def hyphenated (digits : List Char) : List Char :=
  let group (start count : Nat) := (digits.drop start).take count
  group 0 8 ++ '-' :: group 8 4 ++ '-' :: group 12 4 ++ '-' :: group 16 4 ++ '-' :: group 20 12

theorem toList_text (id : Uuid) : id.text.toList = hyphenated id.digits :=
  String.toList_ofList

theorem mem_text {id : Uuid} {char : Char} (member : char ∈ id.text.toList) :
    char = '-' ∨ ∃ digit < 16, char = Text.hexDigit digit := by
  have kept {start count : Nat} (inside : char ∈ (id.digits.drop start).take count) :
      ∃ digit < 16, char = Text.hexDigit digit :=
    Text.mem_hexFixed (List.mem_of_mem_drop (List.mem_of_mem_take inside))
  simp only [toList_text, hyphenated, List.mem_append, List.mem_cons] at member
  grind

/-- A character with a meaning in addresses is in no written identity. -/
theorem not_mem_text {id : Uuid} {char : Char} (special : char ∈ ['/', '?', '#', '%']) :
    char ∉ id.text.toList := by
  have digits : ∀ value < 16, Text.hexDigit value ∉ ['/', '?', '#', '%'] := by decide
  intro member
  rcases mem_text member with rfl | ⟨value, small, rfl⟩
  · exact absurd special (by decide)
  · exact digits value small special

/-- The characters spell the identifier with digits of either case. -/
inductive Spells (id : Uuid) : List Char → Prop where
  | plain {digits : List Char} (same : digits.map Char.toLower = id.digits) : Spells id digits
  | hyphenated {digits : List Char} (same : digits.map Char.toLower = id.digits) :
      Spells id (hyphenated digits)
  | braced {digits : List Char} (same : digits.map Char.toLower = id.digits) :
      Spells id ('{' :: (Uuid.hyphenated digits ++ ['}']))
  | named {scheme digits : List Char} (named : scheme.map Char.toLower = "urn:uuid:".toList)
      (same : digits.map Char.toLower = id.digits) : Spells id (scheme ++ Uuid.hyphenated digits)

theorem ofDigits?_eq_some {id : Uuid} {digits : List Char} :
    ofDigits? digits = some id ↔ digits.map Char.toLower = id.digits := by
  have fits : id.value.toNat < 16 ^ 32 := id.value.isLt
  unfold ofDigits?
  constructor
  · intro read
    split at read
    · next length =>
        obtain ⟨number, spelled, rfl⟩ := Option.map_eq_some_iff.mp read
        obtain ⟨same, small⟩ := Text.hexNumber?_eq_some.mp spelled
        rw [length] at same small
        have kept : (BitVec.ofNat 128 number).toNat = number := by
          rw [BitVec.toNat_ofNat]
          exact Nat.mod_eq_of_lt small
        rw [Uuid.digits, kept, same]
    · cases read
  · intro same
    have length : digits.length = 32 := by
      rw [← id.length_digits, ← same, List.length_map]
    rw [if_pos length, Text.hexNumber?_eq_some.mpr ⟨by rw [length]; exact same, by rwa [length]⟩]
    simp

section Groups

variable {first second third fourth last : List Char}
variable (lengths : first.length = 8 ∧ second.length = 4 ∧ third.length = 4 ∧
  fourth.length = 4 ∧ last.length = 12)

include lengths

theorem hyphenated_groups :
    hyphenated (first ++ (second ++ (third ++ (fourth ++ last)))) =
      first ++ '-' :: (second ++ '-' :: (third ++ '-' :: (fourth ++ '-' :: last))) := by
  obtain ⟨one, two, three, four, five⟩ := lengths
  simp [hyphenated, List.drop_append, one, two, three, four, five, List.take_of_length_le,
    List.drop_eq_nil_of_le]

theorem hyphenatedDigits?_groups :
    hyphenatedDigits?
        (first ++ '-' :: (second ++ '-' :: (third ++ '-' :: (fourth ++ '-' :: last)))) =
      some (first ++ (second ++ (third ++ (fourth ++ last)))) := by
  obtain ⟨one, two, three, four, five⟩ := lengths
  simp [hyphenatedDigits?, List.drop_append, one, two, three, four, five,
    List.take_of_length_le, List.drop_eq_nil_of_le]

end Groups

theorem exists_groups {digits : List Char} (length : digits.length = 32) :
    ∃ first second third fourth last : List Char,
      (first.length = 8 ∧ second.length = 4 ∧ third.length = 4 ∧ fourth.length = 4 ∧
        last.length = 12) ∧
      digits = first ++ (second ++ (third ++ (fourth ++ last))) := by
  refine ⟨digits.take 8, (digits.drop 8).take 4, (digits.drop 12).take 4,
    (digits.drop 16).take 4, digits.drop 20, by simp [length], ?_⟩
  have rest (start : Nat) :
      (digits.drop start).take 4 ++ digits.drop (start + 4) = digits.drop start := by
    rw [← List.drop_drop, List.take_append_drop]
  rw [rest 16, rest 12, rest 8, List.take_append_drop]

theorem exists_groups_of_hyphens {chars : List Char} (length : chars.length = 36)
    (first : chars[8]? = some '-') (second : chars[13]? = some '-')
    (third : chars[18]? = some '-') (fourth : chars[23]? = some '-') :
    ∃ first second third fourth last : List Char,
      (first.length = 8 ∧ second.length = 4 ∧ third.length = 4 ∧ fourth.length = 4 ∧
        last.length = 12) ∧
      chars = first ++ '-' :: (second ++ '-' :: (third ++ '-' :: (fourth ++ '-' :: last))) := by
  refine ⟨chars.take 8, (chars.drop 9).take 4, (chars.drop 14).take 4, (chars.drop 19).take 4,
    chars.drop 24, by simp [length], ?_⟩
  have rest (start : Nat) (hyphen : (chars.drop start)[4]? = some '-') :
      (chars.drop start).take 4 ++ '-' :: chars.drop (start + 5) = chars.drop start := by
    have split := Text.eq_take_append_drop hyphen
    rw [List.drop_drop] at split
    exact split.symm
  rw [rest 19 (by simpa using fourth), rest 14 (by simpa using third),
    rest 9 (by simpa using second)]
  exact Text.eq_take_append_drop first

theorem hyphenatedDigits?_eq_some {chars digits : List Char} :
    hyphenatedDigits? chars = some digits ↔ digits.length = 32 ∧ chars = hyphenated digits := by
  constructor
  · intro found
    have shape := found
    unfold hyphenatedDigits? at shape
    split at shape
    · next marks =>
        obtain ⟨length, one, two, three, four⟩ := marks
        obtain ⟨first, second, third, fourth, last, lengths, rfl⟩ :=
          exists_groups_of_hyphens length one two three four
        rw [hyphenatedDigits?_groups lengths] at found
        cases found
        exact ⟨by simp [lengths], (hyphenated_groups lengths).symm⟩
    · cases shape
  · rintro ⟨length, rfl⟩
    obtain ⟨first, second, third, fourth, last, lengths, rfl⟩ := exists_groups length
    rw [hyphenated_groups lengths, hyphenatedDigits?_groups lengths]

theorem ofHyphenated?_eq_some {id : Uuid} {chars : List Char} :
    ofHyphenated? chars = some id ↔
      ∃ digits, digits.map Char.toLower = id.digits ∧ chars = hyphenated digits := by
  simp only [ofHyphenated?, Option.bind_eq_some_iff, hyphenatedDigits?_eq_some,
    ofDigits?_eq_some]
  constructor
  · rintro ⟨digits, ⟨-, written⟩, same⟩
    exact ⟨digits, same, written⟩
  · rintro ⟨digits, same, written⟩
    have length : digits.length = 32 := by rw [← id.length_digits, ← same, List.length_map]
    exact ⟨digits, ⟨length, written⟩, same⟩

theorem length_of_spelled {id : Uuid} {digits : List Char}
    (same : digits.map Char.toLower = id.digits) : digits.length = 32 := by
  rw [← id.length_digits, ← same, List.length_map]

theorem length_hyphenated {digits : List Char} (length : digits.length = 32) :
    (hyphenated digits).length = 36 := by
  simp [hyphenated, length]

theorem spells_of_read? {id : Uuid} {text : String} (read : read? text = some id) :
    Spells id text.toList := by
  unfold read? at read
  generalize text.toList = chars at read ⊢
  simp only at read
  split at read
  · exact .plain (ofDigits?_eq_some.mp read)
  · obtain ⟨digits, same, rfl⟩ := ofHyphenated?_eq_some.mp read
    exact .hyphenated same
  · next length =>
      split at read
      · next braces =>
          obtain ⟨digits, same, written⟩ := ofHyphenated?_eq_some.mp read
          obtain ⟨rest, rfl⟩ := List.head?_eq_some_iff.mp braces.1
          obtain ⟨front, whole⟩ := List.getLast?_eq_some_iff.mp braces.2
          cases front with
          | nil =>
              rw [whole] at length
              cases length
          | cons head middle =>
              rw [List.cons_append] at whole
              obtain ⟨rfl, rfl⟩ := List.cons.inj whole
              have short : middle.length = 36 := by simpa using length
              have inside : (middle ++ ['}']).take 36 = middle := by simp [short]
              rw [List.drop_one, List.tail_cons, inside] at written
              rw [written]
              exact .braced same
      · cases read
  · split at read
    · next named =>
        obtain ⟨digits, same, written⟩ := ofHyphenated?_eq_some.mp read
        have spelled : Spells id (_ ++ hyphenated digits) := .named named same
        rwa [← written, List.take_append_drop] at spelled
    · cases read
  · cases read

theorem read?_of_spells {id : Uuid} {text : String} (spells : Spells id text.toList) :
    read? text = some id := by
  unfold read?
  generalize text.toList = chars at spells ⊢
  simp only
  cases spells with
  | plain same => simp only [length_of_spelled same, ofDigits?_eq_some.mpr same]
  | @hyphenated digits same =>
      have length := length_hyphenated (length_of_spelled same)
      simp only [length, ofHyphenated?_eq_some.mpr ⟨digits, same, rfl⟩]
  | @braced digits same =>
      have length := length_hyphenated (length_of_spelled same)
      have inside : (hyphenated digits ++ ['}']).take 36 = hyphenated digits := by simp [length]
      have ends : ('{' :: (hyphenated digits ++ ['}'])).getLast? = some '}' := by
        rw [← List.cons_append, List.getLast?_concat]
      simp [length, inside, ends, ofHyphenated?_eq_some.mpr ⟨digits, same, rfl⟩]
  | @named scheme digits named same =>
      have length := length_hyphenated (length_of_spelled same)
      have short : scheme.length = 9 := by
        simpa using congrArg List.length named
      have whole : (scheme ++ hyphenated digits).length = 45 := by simp [length, short]
      have head : (scheme ++ hyphenated digits).take 9 = scheme := List.take_left' short
      have tail : (scheme ++ hyphenated digits).drop 9 = hyphenated digits := List.drop_left' short
      simp only [whole, head, tail]
      exact (if_pos named).trans (ofHyphenated?_eq_some.mpr ⟨digits, same, rfl⟩)

/-- An identifier is read from exactly the texts that spell it. -/
theorem read?_eq_some {id : Uuid} {text : String} :
    read? text = some id ↔ Spells id text.toList :=
  ⟨spells_of_read?, read?_of_spells⟩

theorem digits_lower (id : Uuid) : id.digits.map Char.toLower = id.digits :=
  Text.toLower_hexFixed 32 _

/-- An identifier is written in lower case with hyphens, and this is read back. -/
@[simp]
theorem read?_text (id : Uuid) : read? id.text = some id := by
  rw [read?_eq_some, toList_text]
  exact .hyphenated id.digits_lower

end Uuid

end ServiceGroups
