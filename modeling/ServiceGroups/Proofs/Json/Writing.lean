import ServiceGroups.Json.Record
import ServiceGroups.Proofs.Json.Nesting
import ServiceGroups.Proofs.Uuid

/-!
# What is printed is read

The text of a value is a written form of its node, so it is read back in full, whatever
characters its strings hold.
-/

namespace ServiceGroups

namespace Json

open Scanner

section Numbers

theorem numberRun_digits {value : Nat} (positive : 0 < value) :
    NumberRun (Nat.toDigits 10 value) .integer := by
  induction value using Nat.strongRecOn with
  | ind value ih =>
      by_cases small : value < 10
      · have single : ∀ value < 10, 0 < value →
            isDigit value.digitChar = true ∧ value.digitChar ≠ '0' := by decide
        obtain ⟨digit, nonzero⟩ := single value small positive
        rw [Nat.toDigits_of_lt_base small]
        exact .digit digit nonzero
      · have last : ∀ value < 10, nextPart .integer value.digitChar = some .integer := by decide
        rw [Nat.toDigits_of_base_le (by decide) (by omega)]
        exact .next (ih (value / 10) (by omega) (by omega))
          (last (value % 10) (Nat.mod_lt value (by decide)))

theorem exists_numberRun (value : Nat) :
    ∃ part, NumberRun (Nat.toDigits 10 value) part ∧ mayEnd part = true ∧
      ∀ char, isDigit char = false → char ≠ '.' → char ≠ 'e' → char ≠ 'E' →
        nextPart part char = none := by
  by_cases positive : 0 < value
  · refine ⟨.integer, numberRun_digits positive, rfl, fun char digit point small large => ?_⟩
    simp [nextPart, nextPart.afterInteger, digit, point, small, large]
  · obtain rfl : value = 0 := by omega
    refine ⟨.leadingZero, .zero, rfl, fun char digit point small large => ?_⟩
    simp [nextPart, nextPart.afterInteger, point, small, large]

theorem digitsValue_toDigits (value : Nat) : digitsValue (Nat.toDigits 10 value) = value :=
  Nat.ofDigitChars_toDigits (by decide) (by decide)

theorem numberOf_toDigits {value : Nat} (small : value < 2 ^ 64) :
    numberOf (Nat.toDigits 10 value) = some (.whole value) := by
  have digits : ∀ char ∈ Nat.toDigits 10 value, isDigit char = true := fun char member =>
    Nat.isDigit_of_mem_toDigits (by decide) (by decide) member
  have short : (Nat.toDigits 10 value).length ≤ 20 :=
    (Nat.length_toDigits_le_iff (by decide) (by decide)).mpr (by omega)
  have plain : (Nat.toDigits 10 value).all (fun char => isDigit char || char == '-') = true :=
    List.all_eq_true.mpr fun char member => by rw [digits char member]; rfl
  have unsigned : (Nat.toDigits 10 value).head? ≠ some '-' := by
    intro signed
    have digit := digits '-' (List.mem_of_mem_head? signed)
    cases digit
  have kept : (Nat.toDigits 10 value).filter isDigit = Nat.toDigits 10 value :=
    List.filter_eq_self.mpr digits
  have below : value < 18446744073709551616 := small
  have whole : wholeOf? (Nat.toDigits 10 value) = some (value : Int) := by
    simp [wholeOf?, kept, digitsValue_toDigits, unsigned, below]
  simp [numberOf, short, plain, whole]

end Numbers

section Strings

theorem exists_piece (char : Char) :
    ∃ piece : Piece, piece.Spells (stringChar char) ∧
      ∀ content, piece.add (none, content) = (none, addChar content char) := by
  unfold stringChar
  split
  iterate 7 exact ⟨.plain _, .escaped rfl, fun _ => rfl⟩
  next noQuote noEscape _ _ _ _ _ =>
    split
    · next control =>
        have spelled : Text.hexNumber? (Text.hexFixed 4 char.toNat) = some char.toNat :=
          Text.hexNumber?_eq_some.mpr ⟨Text.toLower_hexFixed 4 _, by simp; omega⟩
        refine ⟨.unit char.toNat, .unit spelled, fun content => ?_⟩
        have notHigh : isHighHalf char.toNat = false := by simp [isHighHalf]; omega
        have notLow : isLowHalf char.toNat = false := by simp [isLowHalf]; omega
        simp [Piece.add, addUnit, notHigh, notLow]
    · next visible => exact ⟨.plain char, .plain (by omega) noQuote noEscape, fun _ => rfl⟩

theorem exists_pieces (chars : List Char) :
    ∃ pieces, Piece.Spelled pieces (chars.flatMap stringChar) ∧
      ∀ content, pieces.foldl Piece.add (none, some content) =
        (none, some (chars.reverse ++ content)) := by
  induction chars with
  | nil => exact ⟨[], .nil, fun _ => rfl⟩
  | cons char rest ih =>
      obtain ⟨piece, spells, adds⟩ := exists_piece char
      obtain ⟨pieces, spelled, content⟩ := ih
      refine ⟨piece :: pieces, .cons spells spelled, fun read => ?_⟩
      rw [List.foldl_cons, adds, addChar, Option.map_some, content]
      simp

theorem lexeme_stringText (text : String) : Lexeme (.string (some text)) (stringText text) := by
  obtain ⟨pieces, spelled, content⟩ := exists_pieces text.toList
  have same : Piece.content pieces = some text := by
    simp [Piece.content, content, settle]
  rw [← same]
  exact .string spelled

end Strings

mutual

/-- Every number in the value is natural and fits into 64 bits. -/
def Value.IsPlain : Value → Prop
  | .number number => ∃ value < 2 ^ 64, number = .whole (value : Nat)
  | .array items => ArePlainItems items
  | .object members => ArePlainMembers members
  | _ => True

def ArePlainItems : List Value → Prop
  | [] => True
  | item :: rest => item.IsPlain ∧ ArePlainItems rest

def ArePlainMembers : List (String × Value) → Prop
  | [] => True
  | (_, value) :: rest => value.IsPlain ∧ ArePlainMembers rest

end

/-- What follows is nothing, or begins with a character that ends every number. -/
def EndsNumbers (chars : List Char) : Prop :=
  ∀ char, chars.head? = some char → char ∈ [',', ']', '}']

theorem endsNumbers_cons {char : Char} (ends : char ∈ [',', ']', '}']) (chars : List Char) :
    EndsNumbers (char :: chars) := by
  intro other same
  cases same
  exact ends

theorem lexes_numberText {value : Nat} (small : value < 2 ^ 64) {tokens : List Token}
    {chars : List Char} (ends : EndsNumbers chars) (rest : Lexes tokens chars) :
    Lexes (.number (some (.whole value)) :: tokens) (numberText (.whole value) ++ chars) := by
  obtain ⟨part, run, complete, stops⟩ := exists_numberRun value
  have text : numberText (.whole value) = Nat.toDigits 10 value := by simp [numberText]
  have stop (char : Char) (next : chars.head? = some char) :
      isDigit char = false ∧ nextPart part char = none := by
    have punctuation : ∀ char ∈ [',', ']', '}'],
        isDigit char = false ∧ char ≠ '.' ∧ char ≠ 'e' ∧ char ≠ 'E' := by
      intro char member
      simp only [List.mem_cons, List.not_mem_nil, or_false] at member
      rcases member with rfl | rfl | rfl <;> decide
    obtain ⟨digit, point, lower, upper⟩ := punctuation char (ends char next)
    exact ⟨digit, stops char digit point lower upper⟩
  rw [text, ← numberOf_toDigits small]
  exact .number run complete stop rest

mutual

theorem lexes_chars : (value : Value) → value.IsPlain → ∀ {tokens : List Token}
    {chars : List Char}, EndsNumbers chars → Lexes tokens chars →
    Lexes (value.toNode.tokens ++ tokens) (value.chars ++ chars)
  | .null, _, _, _, _, rest => .lexeme .null rest
  | .boolean true, _, _, _, _, rest => .lexeme .yes rest
  | .boolean false, _, _, _, _, rest => .lexeme .no rest
  | .number number, plain, _, _, ends, rest => by
      obtain ⟨value, small, rfl⟩ := plain
      exact lexes_numberText small ends rest
  | .string text, _, _, _, _, rest => .lexeme (lexeme_stringText text) rest
  | .array items, plain, tokens, chars, _, rest => by
      have closed : Lexes (.closeArray :: tokens) (']' :: chars) := .lexeme .closeArray rest
      have inside := lexes_itemsChars items plain (endsNumbers_cons (by decide) chars) closed
      have opened := Lexes.lexeme .openArray inside
      simpa [Value.toNode, Node.tokens, Value.chars] using opened
  | .object members, plain, tokens, chars, _, rest => by
      have closed : Lexes (.closeObject :: tokens) ('}' :: chars) := .lexeme .closeObject rest
      have inside := lexes_membersChars members plain (endsNumbers_cons (by decide) chars) closed
      have opened := Lexes.lexeme .openObject inside
      simpa [Value.toNode, Node.tokens, Value.chars] using opened

theorem lexes_itemsChars : (items : List Value) → ArePlainItems items → ∀ {tokens : List Token}
    {chars : List Char}, EndsNumbers chars → Lexes tokens chars →
    Lexes (itemTokens (itemNodes items) ++ tokens) (itemsChars items ++ chars)
  | [], _, _, _, _, rest => rest
  | [item], plain, _, _, ends, rest => lexes_chars item plain.1 ends rest
  | item :: next :: more, plain, tokens, chars, ends, rest => by
      have others := lexes_itemsChars (next :: more) plain.2 ends rest
      have comma := Lexes.lexeme .comma others
      have first := lexes_chars item plain.1 (endsNumbers_cons (by decide) _) comma
      simpa [itemNodes, itemTokens_cons, itemsChars] using first

theorem lexes_membersChars : (members : List (String × Value)) → ArePlainMembers members →
    ∀ {tokens : List Token} {chars : List Char}, EndsNumbers chars → Lexes tokens chars →
    Lexes (memberTokens (memberNodes members) ++ tokens) (membersChars members ++ chars)
  | [], _, _, _, _, rest => rest
  | [(key, value)], plain, _, _, ends, rest => by
      have last := lexes_chars value plain.1 ends rest
      have colon := Lexes.lexeme .colon last
      have first := Lexes.lexeme (lexeme_stringText key) colon
      simpa [memberNodes, memberTokens, membersChars] using first
  | (key, value) :: next :: more, plain, tokens, chars, ends, rest => by
      have others := lexes_membersChars (next :: more) plain.2 ends rest
      have comma := Lexes.lexeme .comma others
      have second := lexes_chars value plain.1 (endsNumbers_cons (by decide) _) comma
      have colon := Lexes.lexeme .colon second
      have first := Lexes.lexeme (lexeme_stringText key) colon
      simpa [memberNodes, memberTokens_cons, membersChars] using first

end

mutual

theorem isWhole_toNode : (value : Value) → value.toNode.IsWhole
  | .null => trivial
  | .boolean _ => trivial
  | .number _ => trivial
  | .string _ => trivial
  | .array items => ⟨rfl, areWhole_itemNodes items⟩
  | .object members => ⟨rfl, areWhole_memberNodes members⟩

theorem areWhole_itemNodes : (items : List Value) → AreWholeItems (itemNodes items)
  | [] => trivial
  | item :: rest => ⟨isWhole_toNode item, areWhole_itemNodes rest⟩

theorem areWhole_memberNodes :
    (members : List (String × Value)) → AreWholeMembers (memberNodes members)
  | [] => trivial
  | (_, value) :: rest => ⟨isWhole_toNode value, areWhole_memberNodes rest⟩

end

/-- The text of a value is a written form of its node. -/
theorem written_text {value : Value} (plain : value.IsPlain) :
    Written value.toNode value.text := by
  refine ⟨?_, isWhole_toNode value⟩
  have ends : EndsNumbers [] := by
    intro char next
    cases next
  have lexes := lexes_chars value plain ends .nil
  rw [List.append_nil, List.append_nil] at lexes
  rwa [Value.text_toList]

end Json

end ServiceGroups
