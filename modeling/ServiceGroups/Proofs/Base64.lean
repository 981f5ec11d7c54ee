import ServiceGroups.Base64

/-!
# Base64 loses nothing

The decoder turns every digit back into its group, and the groups of three bytes, or
of the one or two that are left at the end, back into the bytes.  It takes no other text
for them than the one that is written.
-/

namespace ServiceGroups

namespace Base64

theorem digitValue?_digit {group : Nat} (small : group < 64) :
    digitValue? (digit group) = some group := by
  revert group
  decide

theorem digit_ne_pad {group : Nat} (small : group < 64) : digit group ≠ '=' := by
  revert group
  decide

/-- Four digits without padding are three bytes in front of what follows. -/
theorem decodeBytes?_group (one two three four : Nat) (rest : List Char)
    (small : one < 64 ∧ two < 64 ∧ three < 64 ∧ four < 64) :
    decodeBytes? (digit one :: digit two :: digit three :: digit four :: rest) =
      (decodeBytes? rest).map fun tail => UInt8.ofNat (one * 4 + two / 16) ::
        UInt8.ofNat (two % 16 * 16 + three / 4) :: UInt8.ofNat (three % 4 * 64 + four) ::
          tail := by
  obtain ⟨oneSmall, twoSmall, threeSmall, fourSmall⟩ := small
  rw [decodeBytes?]
  · simp only [digitValue?_digit, oneSmall, twoSmall, threeSmall, fourSmall,
      Option.bind_eq_bind, Option.bind_some]
    cases decodeBytes? rest <;> rfl
  · exact fun third => absurd third (digit_ne_pad threeSmall)
  · exact fun fourth => absurd fourth (digit_ne_pad fourSmall)

/-- Decoding what was encoded gives the bytes back. -/
theorem decodeBytes?_encodeBytes (content : List UInt8) :
    decodeBytes? (encodeBytes content) = some content := by
  have bound (value : UInt8) : value.toNat < 256 := value.toNat_lt
  have byte (value : UInt8) {number : Nat} (same : number = value.toNat) :
      UInt8.ofNat number = value := by
    rw [same, UInt8.ofNat_toNat]
  fun_induction encodeBytes content with
  | case1 => rfl
  | case2 first =>
      have firstBound := bound first
      rw [decodeBytes?, digitValue?_digit (by omega), digitValue?_digit (by omega)]
      simp only [Option.bind_eq_bind, Option.bind_some]
      rw [if_pos (by omega), byte first (by omega)]
  | case3 first second =>
      have firstBound := bound first
      have secondBound := bound second
      rw [decodeBytes?, digitValue?_digit (by omega), digitValue?_digit (by omega),
        digitValue?_digit (by omega)]
      · simp only [Option.bind_eq_bind, Option.bind_some]
        rw [if_pos (by omega), byte first (by omega), byte second (by omega)]
      · exact digit_ne_pad (by omega)
  | case4 first second third rest ih =>
      have firstBound := bound first
      have secondBound := bound second
      have thirdBound := bound third
      rw [decodeBytes?_group _ _ _ _ _ (by omega), ih, Option.map_some, byte first (by omega),
        byte second (by omega), byte third (by omega)]

/-- The form of a text stands for its bytes. -/
theorem decodeBytes?_encode (text : String) :
    decodeBytes? (encode text).toList = some (Text.bytes text) := by
  rw [encode_toList, decodeBytes?_encodeBytes]

/-- A digit that has a group is how the group is written. -/
theorem digit_of_digitValue? {char : Char} {group : Nat}
    (read : digitValue? char = some group) : group < 64 ∧ digit group = char := by
  have capital : 'A'.toNat = 65 ∧ 'Z'.toNat = 90 := ⟨rfl, rfl⟩
  have small : 'a'.toNat = 97 ∧ 'z'.toNat = 122 := ⟨rfl, rfl⟩
  have decimal : '0'.toNat = 48 ∧ '9'.toNat = 57 := ⟨rfl, rfl⟩
  have codes {first second : Char} (below : first ≤ second) : first.toNat ≤ second.toNat := below
  have counted {start : Nat} (above : start ≤ char.toNat) :
      Char.ofNat (start + (char.toNat - start)) = char := by
    rw [Nat.add_sub_cancel' above, Char.ofNat_toNat]
  unfold digitValue? at read
  split at read
  · next range =>
      have low := codes range.1
      have high := codes range.2
      obtain rfl := Option.some.inj read
      refine ⟨by omega, ?_⟩
      rw [digit, if_pos (by omega), counted low]
  split at read
  · next range =>
      have low := codes range.1
      have high := codes range.2
      obtain rfl := Option.some.inj read
      refine ⟨by omega, ?_⟩
      rw [digit, if_neg (by omega), if_pos (by omega), Nat.add_sub_cancel, counted low]
  split at read
  · next range =>
      have low := codes range.1
      have high := codes range.2
      obtain rfl := Option.some.inj read
      refine ⟨by omega, ?_⟩
      rw [digit, if_neg (by omega), if_neg (by omega), if_pos (by omega), Nat.add_sub_cancel,
        counted low]
  split at read
  · next plus =>
      obtain rfl := Option.some.inj read
      exact ⟨by decide, plus.symm⟩
  split at read
  · next slash =>
      obtain rfl := Option.some.inj read
      exact ⟨by decide, slash.symm⟩
  · cases read

/-- The bytes of four groups are written as their digits. -/
theorem encodeBytes_group {one two three four : Nat} (rest : List UInt8)
    (small : one < 64 ∧ two < 64 ∧ three < 64 ∧ four < 64) :
    encodeBytes (UInt8.ofNat (one * 4 + two / 16) :: UInt8.ofNat (two % 16 * 16 + three / 4) ::
        UInt8.ofNat (three % 4 * 64 + four) :: rest) =
      digit one :: digit two :: digit three :: digit four :: encodeBytes rest := by
  have first : (one * 4 + two / 16) % 256 / 4 = one := by omega
  have second : (one * 4 + two / 16) % 256 % 4 * 16 + (two % 16 * 16 + three / 4) % 256 / 16 =
      two := by omega
  have third : (two % 16 * 16 + three / 4) % 256 % 16 * 4 + (three % 4 * 64 + four) % 256 / 64 =
      three := by omega
  have fourth : (three % 4 * 64 + four) % 256 % 64 = four := by omega
  simp only [encodeBytes, UInt8.toNat_ofNat', Nat.reducePow, first, second, third, fourth]

/-- A form that is decoded is the one that its bytes are written as. -/
theorem encodeBytes_of_decodeBytes? {form : List Char} {content : List UInt8}
    (read : decodeBytes? form = some content) : encodeBytes content = form := by
  fun_induction decodeBytes? form generalizing content with
  | case1 =>
      obtain rfl := Option.some.inj read
      rfl
  | case2 one two =>
      simp only [Option.bind_eq_bind, Option.bind_eq_some_iff, Option.ite_none_right_eq_some,
        Option.some.injEq] at read
      obtain ⟨first, readFirst, second, readSecond, zero, rfl⟩ := read
      obtain ⟨firstSmall, rfl⟩ := digit_of_digitValue? readFirst
      obtain ⟨secondSmall, rfl⟩ := digit_of_digitValue? readSecond
      have one : (first * 4 + second / 16) % 256 / 4 = first := by omega
      have two : (first * 4 + second / 16) % 256 % 4 * 16 = second := by omega
      simp only [encodeBytes, UInt8.toNat_ofNat', Nat.reducePow, one, two]
  | case3 one two three =>
      simp only [Option.bind_eq_bind, Option.bind_eq_some_iff, Option.ite_none_right_eq_some,
        Option.some.injEq] at read
      obtain ⟨first, readFirst, second, readSecond, third, readThird, zero, rfl⟩ := read
      obtain ⟨firstSmall, rfl⟩ := digit_of_digitValue? readFirst
      obtain ⟨secondSmall, rfl⟩ := digit_of_digitValue? readSecond
      obtain ⟨thirdSmall, rfl⟩ := digit_of_digitValue? readThird
      have one : (first * 4 + second / 16) % 256 / 4 = first := by omega
      have two : (first * 4 + second / 16) % 256 % 4 * 16 +
          (second % 16 * 16 + third / 4) % 256 / 16 = second := by omega
      have three : (second % 16 * 16 + third / 4) % 256 % 16 * 4 = third := by omega
      simp only [encodeBytes, UInt8.toNat_ofNat', Nat.reducePow, one, two, three]
  | case4 one two three four rest padded single ih =>
      simp only [Option.bind_eq_bind, Option.bind_eq_some_iff, Option.some.injEq] at read
      obtain ⟨first, readFirst, second, readSecond, third, readThird, fourth, readFourth, tail,
        readTail, rfl⟩ := read
      obtain ⟨firstSmall, rfl⟩ := digit_of_digitValue? readFirst
      obtain ⟨secondSmall, rfl⟩ := digit_of_digitValue? readSecond
      obtain ⟨thirdSmall, rfl⟩ := digit_of_digitValue? readThird
      obtain ⟨fourthSmall, rfl⟩ := digit_of_digitValue? readFourth
      rw [encodeBytes_group tail ⟨firstSmall, secondSmall, thirdSmall, fourthSmall⟩, ih readTail]
  | case5 => cases read

theorem decodeBytes?_eq_some_iff {form : List Char} {content : List UInt8} :
    decodeBytes? form = some content ↔ form = encodeBytes content := by
  refine ⟨fun read => (encodeBytes_of_decodeBytes? read).symm, ?_⟩
  rintro rfl
  exact decodeBytes?_encodeBytes content

/-- Only the form of a text stands for its bytes. -/
theorem decodeBytes?_eq_bytes_iff {text form : String} :
    decodeBytes? form.toList = some (Text.bytes text) ↔ form = encode text := by
  rw [decodeBytes?_eq_some_iff, ← encode_toList, String.toList_inj]

/-- A form is made of digits and the sign that pads it. -/
theorem mem_encodeBytes {content : List UInt8} {char : Char}
    (member : char ∈ encodeBytes content) : char = '=' ∨ ∃ group < 64, digit group = char := by
  have bound (value : UInt8) : value.toNat < 256 := value.toNat_lt
  have one {group : Nat} (small : group < 64) (same : char = digit group) :
      char = '=' ∨ ∃ group < 64, digit group = char := .inr ⟨group, small, same.symm⟩
  fun_induction encodeBytes content with
  | case1 => cases member
  | case2 first =>
      have firstBound := bound first
      simp only [List.mem_cons, List.not_mem_nil, or_false] at member
      rcases member with here | here | here | here
      · exact one (by omega) here
      · exact one (by omega) here
      · exact .inl here
      · exact .inl here
  | case3 first second =>
      have firstBound := bound first
      have secondBound := bound second
      simp only [List.mem_cons, List.not_mem_nil, or_false] at member
      rcases member with here | here | here | here
      · exact one (by omega) here
      · exact one (by omega) here
      · exact one (by omega) here
      · exact .inl here
  | case4 first second third rest ih =>
      have firstBound := bound first
      have secondBound := bound second
      have thirdBound := bound third
      simp only [List.mem_cons] at member
      rcases member with here | here | here | here | later
      · exact one (by omega) here
      · exact one (by omega) here
      · exact one (by omega) here
      · exact one (by omega) here
      · exact ih later

end Base64

end ServiceGroups
