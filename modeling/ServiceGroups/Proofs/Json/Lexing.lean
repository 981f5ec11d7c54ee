import ServiceGroups.Json.Token

/-!
# How tokens are written

Between tokens there may be blanks.  Brackets, commas, colons and words are written in one
way; a string is a sequence of pieces, each of which may be written plain or escaped; and a
number is written up to the first character that does not continue it.  The scanner finds
exactly the tokens that are written.
-/

namespace ServiceGroups

namespace Json

open Scanner

/-- A part of a string: a character, or a code unit given by its number. -/
inductive Piece where
  | plain (char : Char)
  | unit (value : Nat)

namespace Piece

/-- The ways to write a piece between quotation marks. -/
inductive Spells : Piece → List Char → Prop where
  | plain {char : Char} (printable : 0x20 ≤ char.toNat) (noQuote : char ≠ '"')
      (noEscape : char ≠ '\\') : Spells (.plain char) [char]
  | escaped {char letter : Char} (stands : escapedChar? letter = some char) :
      Spells (.plain char) ['\\', letter]
  | unit {first second third fourth : Char} {value : Nat}
      (spelled : Text.hexNumber? [first, second, third, fourth] = some value) :
      Spells (.unit value) ['\\', 'u', first, second, third, fourth]

/-- What one more piece makes of the half that waits and of the content so far. -/
def add (read : Option Nat × Option (List Char)) : Piece → Option Nat × Option (List Char)
  | plain char => (none, addChar (settle read.1 read.2) char)
  | unit value => addUnit read.1 read.2 value

/-- The text that the pieces stand for, unless one is half of a surrogate pair. -/
def content (pieces : List Piece) : Option String :=
  let read := pieces.foldl add (none, some [])
  (settle read.1 read.2).map fun chars => String.ofList chars.reverse

/-- The characters spell the pieces one after another. -/
inductive Spelled : List Piece → List Char → Prop where
  | nil : Spelled [] []
  | cons {piece : Piece} {pieces : List Piece} {spelling chars : List Char}
      (spells : piece.Spells spelling) (rest : Spelled pieces chars) :
      Spelled (piece :: pieces) (spelling ++ chars)

end Piece

/-- The characters are the front of a number, which ends in the given part. -/
inductive NumberRun : List Char → NumberPart → Prop where
  | sign : NumberRun ['-'] .sign
  | zero : NumberRun ['0'] .leadingZero
  | digit {char : Char} (digit : isDigit char = true) (nonzero : char ≠ '0') :
      NumberRun [char] .integer
  | next {read : List Char} {part nextPart : NumberPart} {char : Char}
      (run : NumberRun read part) (continues : Scanner.nextPart part char = some nextPart) :
      NumberRun (read ++ [char]) nextPart

/-- A token that is not a number, as it is written. -/
inductive Lexeme : Token → List Char → Prop where
  | openArray : Lexeme .openArray ['[']
  | closeArray : Lexeme .closeArray [']']
  | openObject : Lexeme .openObject ['{']
  | closeObject : Lexeme .closeObject ['}']
  | comma : Lexeme .comma [',']
  | colon : Lexeme .colon [':']
  | null : Lexeme .null ['n', 'u', 'l', 'l']
  | yes : Lexeme (.boolean true) ['t', 'r', 'u', 'e']
  | no : Lexeme (.boolean false) ['f', 'a', 'l', 's', 'e']
  | string {pieces : List Piece} {chars : List Char} (spelled : Piece.Spelled pieces chars) :
      Lexeme (.string (Piece.content pieces)) ('"' :: (chars ++ ['"']))

/-- The tokens are written one after another, with blanks between them. -/
inductive Lexes : List Token → List Char → Prop where
  | nil : Lexes [] []
  | blank {tokens : List Token} {chars : List Char} {char : Char}
      (isBlank : isJsonBlank char = true) (rest : Lexes tokens chars) :
      Lexes tokens (char :: chars)
  | lexeme {token : Token} {tokens : List Token} {spelling chars : List Char}
      (first : Lexeme token spelling) (rest : Lexes tokens chars) :
      Lexes (token :: tokens) (spelling ++ chars)
  | number {tokens : List Token} {spelling chars : List Char} {part : NumberPart}
      (run : NumberRun spelling part) (complete : mayEnd part = true)
      (ends : ∀ char, chars.head? = some char →
        isDigit char = false ∧ nextPart part char = none)
      (rest : Lexes tokens chars) :
      Lexes (.number (numberOf spelling) :: tokens) (spelling ++ chars)

section Scanning

variable (found : List Token)

theorem scan_piece {piece : Piece} {spelling : List Char} (spells : piece.Spells spelling)
    (half : Option Nat) (content : Option (List Char)) :
    spelling.foldl step ⟨found, .string .plain half content⟩ =
      ⟨found, .string .plain (piece.add (half, content)).1 (piece.add (half, content)).2⟩ := by
  cases spells with
  | @plain char printable noQuote noEscape =>
      have visible : ¬ char.toNat < 0x20 := Nat.not_lt.mpr printable
      simp [step, insideString, noQuote, noEscape, visible, Piece.add]
  | @escaped char letter stands =>
      have noUnit : letter ≠ 'u' := by
        rintro rfl
        cases stands
      simp [step, insideString, noUnit, stands, Piece.add]
  | @unit first second third fourth value spelled =>
      simp only [Text.hexNumber?, List.foldlM_cons, List.foldlM_nil, Option.bind_eq_bind,
        Option.bind_eq_some_iff, Option.map_eq_some_iff, Option.pure_def,
        Option.some.injEq] at spelled
      obtain ⟨_, ⟨one, firstRead, rfl⟩, _, ⟨two, secondRead, rfl⟩, _, ⟨three, thirdRead, rfl⟩, _,
        ⟨four, fourthRead, rfl⟩, rfl⟩ := spelled
      simp [step, insideString, firstRead, secondRead, thirdRead, fourthRead, Piece.add]

theorem scan_pieces {pieces : List Piece} {chars : List Char}
    (spelled : Piece.Spelled pieces chars) (half : Option Nat) (content : Option (List Char)) :
    chars.foldl step ⟨found, .string .plain half content⟩ =
      ⟨found, .string .plain (pieces.foldl Piece.add (half, content)).1
        (pieces.foldl Piece.add (half, content)).2⟩ := by
  induction spelled generalizing half content with
  | nil => rfl
  | cons spells rest ih =>
      rw [List.foldl_append, scan_piece found spells, ih]
      rfl

theorem scan_lexeme {token : Token} {spelling : List Char} (lexeme : Lexeme token spelling) :
    spelling.foldl step ⟨found, .nothing⟩ = ⟨token :: found, .nothing⟩ := by
  cases lexeme with
  | @string pieces chars spelled =>
      have begun : step ⟨found, .nothing⟩ '"' = ⟨found, .string .plain none (some [])⟩ := rfl
      rw [List.foldl_cons, List.foldl_append, begun, scan_pieces found spelled]
      rfl
  | _ => rfl

theorem scan_number {spelling : List Char} {part : NumberPart} (run : NumberRun spelling part) :
    spelling.foldl step ⟨found, .nothing⟩ = ⟨found, .number part spelling.reverse⟩ := by
  induction run with
  | sign => rfl
  | zero => rfl
  | @digit char digit nonzero =>
      have notBlank : isJsonBlank char = false := by
        refine Bool.eq_false_iff.mpr fun blank => ?_
        simp only [isJsonBlank, Bool.or_eq_true, beq_iff_eq] at blank
        rcases blank with ((rfl | rfl) | rfl) | rfl <;> cases digit
      simp [step, begin, digit, nonzero, notBlank]
  | @next read part following char run continues ih =>
      rw [List.foldl_append, ih]
      simp [step, insideNumber, continues]

theorem scan_lexes {tokens : List Token} {chars : List Char} (lexes : Lexes tokens chars) :
    (chars.foldl step ⟨found, .nothing⟩).finish = found.reverse ++ tokens := by
  induction lexes generalizing found with
  | nil => simp [finish]
  | @blank tokens chars char isBlank rest ih =>
      have skipped : step ⟨found, .nothing⟩ char = ⟨found, .nothing⟩ := by
        simp [step, begin, isBlank]
      rw [List.foldl_cons, skipped, ih]
  | @lexeme token tokens spelling chars first rest ih =>
      rw [List.foldl_append, scan_lexeme found first, ih]
      simp
  | @number tokens spelling chars part run complete ends rest ih =>
      rw [List.foldl_append, scan_number found run]
      cases chars with
      | nil =>
          have noMore : tokens = [] := by simpa [finish] using ih found
          simp [finish, complete, emit, noMore]
      | cons char more =>
          obtain ⟨notDigit, stops⟩ := ends char rfl
          have emitted : step ⟨found, .number part spelling.reverse⟩ char =
              step ⟨.number (numberOf spelling) :: found, .nothing⟩ char := by
            simp [step, insideNumber, stops, complete, notDigit, emit]
          rw [List.foldl_cons, emitted, ← List.foldl_cons, ih]
          simp

end Scanning

/-- The scanner finds the tokens that are written. -/
theorem tokens_eq {written : List Token} {text : String} (lexes : Lexes written text.toList) :
    tokens text = written :=
  scan_lexes [] lexes

end Json

end ServiceGroups
