import ServiceGroups.Proofs.Json.Lexing
import ServiceGroups.Proofs.Uuid

/-!
# Which texts are scanned

At every point the scanner has read whole tokens and the front of one more.  So where it does
not fail, the text is written as the tokens that it finds.
-/

namespace ServiceGroups

namespace Json

open Scanner

theorem Piece.Spelled.append {pieces : List Piece} {chars : List Char}
    (spelled : Piece.Spelled pieces chars) {piece : Piece} {spelling : List Char}
    (spells : piece.Spells spelling) :
    Piece.Spelled (pieces ++ [piece]) (chars ++ spelling) := by
  induction spelled with
  | nil =>
      have single := Piece.Spelled.cons spells .nil
      rwa [List.append_nil] at single
  | cons first _ ih =>
      rw [List.append_assoc]
      exact .cons first ih

/-- The tokens found are written in front of the rest, latest first. -/
def Leads (found : List Token) (chars rest : List Char) : Prop :=
  ∀ tokens, Lexes tokens rest → Lexes (found.reverse ++ tokens) (chars ++ rest)

/-- What has been read of a piece that has not ended. -/
inductive PartText : StringPart → List Char → Prop where
  | plain : PartText .plain []
  | escape : PartText .escape ['\\']
  | unit (digits : List Char) {value : Nat} (short : digits.length ≤ 3)
      (spelled : Text.hexNumber? digits = some value) :
      PartText (.unit digits.length value) ('\\' :: 'u' :: digits)

/-- What the scanner has read: whole tokens, and the front of one more. -/
inductive Scanned : Scanner → List Char → Prop where
  | nothing {found : List Token} {chars : List Char}
      (leads : ∀ rest, Leads found chars rest) : Scanned ⟨found, .nothing⟩ chars
  | word {found : List Token} {front left : List Char} {expected : Char} (read : List Char)
      (leads : ∀ rest, Leads found front (read.reverse ++ rest)) (begun : read ≠ [])
      (lexeme : Lexeme (wordToken (read.getLast?.getD 'n')) (read.reverse ++ expected :: left)) :
      Scanned ⟨found, .word read (expected :: left)⟩ (front ++ read.reverse)
  | number {found : List Token} {front : List Char} {part : NumberPart} (read : List Char)
      (leads : ∀ rest, Leads found front (read.reverse ++ rest))
      (run : NumberRun read.reverse part) :
      Scanned ⟨found, .number part read⟩ (front ++ read.reverse)
  | string {found : List Token} {front body tail : List Char} {pieces : List Piece}
      {part : StringPart} {half : Option Nat} {content : Option (List Char)}
      (leads : ∀ rest, Leads found front ('"' :: rest)) (spelled : Piece.Spelled pieces body)
      (read : pieces.foldl Piece.add (none, some []) = (half, content))
      (partText : PartText part tail) :
      Scanned ⟨found, .string part half content⟩ (front ++ '"' :: (body ++ tail))
  | failed {found : List Token} {chars : List Char} (broken : .broken ∈ found) :
      Scanned ⟨found, .failed⟩ chars

section Steps

variable {found : List Token} {chars : List Char}

theorem scanned_fail (pending : Pending) : Scanned (fail ⟨found, pending⟩) chars :=
  .failed List.mem_cons_self

/-- A token ends and nothing else is begun. -/
theorem scanned_emit {token : Token} {front : List Char} (spelling : List Char) {pending : Pending}
    (leads : ∀ rest, Leads found front (spelling ++ rest)) (lexeme : Lexeme token spelling) :
    Scanned (emit ⟨found, pending⟩ token) (front ++ spelling) := by
  refine .nothing fun rest tokens lexes => ?_
  have whole := leads rest (token :: tokens) (.lexeme lexeme lexes)
  simpa using whole

theorem scanned_begin {pending : Pending} {char : Char}
    (leads : ∀ rest, Leads found chars (char :: rest)) :
    Scanned (begin ⟨found, pending⟩ char) (chars ++ [char]) := by
  unfold begin
  split
  · next isBlank =>
      refine .nothing fun rest tokens lexes => ?_
      have whole := leads rest tokens (.blank isBlank lexes)
      simpa using whole
  · split
    · next nonzero =>
        simp only [Bool.and_eq_true, bne_iff_ne] at nonzero
        exact .number [char] leads (.digit nonzero.1 nonzero.2)
    · split
      · exact scanned_emit ['['] leads .openArray
      · exact scanned_emit [']'] leads .closeArray
      · exact scanned_emit ['{'] leads .openObject
      · exact scanned_emit ['}'] leads .closeObject
      · exact scanned_emit [','] leads .comma
      · exact scanned_emit [':'] leads .colon
      · exact .string leads .nil rfl .plain
      · exact .number ['-'] leads .sign
      · exact .number ['0'] leads .zero
      · exact .word ['n'] leads (by simp) .null
      · exact .word ['t'] leads (by simp) .yes
      · exact .word ['f'] leads (by simp) .no
      · exact scanned_fail pending

theorem isDigit_of_mayEnd {part : NumberPart} {char : Char} (complete : mayEnd part = true)
    (stops : nextPart part char = none) (noZero : (part == .leadingZero && isDigit char) = false) :
    isDigit char = false := by
  cases digit : isDigit char with
  | false => rfl
  | true =>
      cases part with
      | leadingZero => simp [digit] at noZero
      | integer => simp [nextPart, digit] at stops
      | fraction => simp [nextPart, digit] at stops
      | exponentDigits => simp [nextPart, digit] at stops
      | _ => cases complete

theorem reverse_cons_append (char : Char) (read rest : List Char) :
    (char :: read).reverse ++ rest = read.reverse ++ char :: rest := by
  simp

theorem scanned_number {front read : List Char} {part : NumberPart} {char : Char}
    (leads : ∀ rest, Leads found front (read.reverse ++ rest))
    (run : NumberRun read.reverse part) :
    Scanned (insideNumber ⟨found, .number part read⟩ part read char)
      (front ++ read.reverse ++ [char]) := by
  have last : front ++ read.reverse ++ [char] = front ++ (char :: read).reverse := by simp
  unfold insideNumber
  split
  · next following continues =>
      have longer : NumberRun (char :: read).reverse following := by
        rw [List.reverse_cons]
        exact .next run continues
      rw [last]
      refine .number (char :: read) (fun rest => ?_) longer
      rw [reverse_cons_append]
      exact leads (char :: rest)
  · next stops =>
      split
      · next ended =>
          simp only [Bool.and_eq_true, Bool.not_eq_true'] at ended
          have noDigit := isDigit_of_mayEnd ended.1 stops ended.2
          refine scanned_begin fun rest tokens lexes => ?_
          have ends : ∀ other, (char :: rest).head? = some other →
              isDigit other = false ∧ nextPart part other = none := by
            intro other first
            cases first
            exact ⟨noDigit, stops⟩
          have whole := leads (char :: rest) _ (.number run ended.1 ends lexes)
          simpa using whole
      · exact scanned_fail _

theorem scanned_piece {front body tail spelling : List Char} {pieces : List Piece} {piece : Piece}
    {half : Option Nat} {content : Option (List Char)} {char : Char}
    (leads : ∀ rest, Leads found front ('"' :: rest)) (spelled : Piece.Spelled pieces body)
    (read : pieces.foldl Piece.add (none, some []) = (half, content))
    (spells : piece.Spells spelling) (ended : spelling = tail ++ [char]) :
    Scanned ⟨found, .string .plain (piece.add (half, content)).1 (piece.add (half, content)).2⟩
      (front ++ '"' :: (body ++ tail) ++ [char]) := by
  have more : (pieces ++ [piece]).foldl Piece.add (none, some []) =
      ((piece.add (half, content)).1, (piece.add (half, content)).2) := by
    rw [List.foldl_append, read]
    rfl
  have whole := Scanned.string leads (spelled.append spells) more .plain
  rw [ended] at whole
  simpa using whole

theorem scanned_string {front body tail : List Char} {pieces : List Piece}
    {part : StringPart} {half : Option Nat} {content : Option (List Char)} {char : Char}
    (leads : ∀ rest, Leads found front ('"' :: rest)) (spelled : Piece.Spelled pieces body)
    (read : pieces.foldl Piece.add (none, some []) = (half, content))
    (partText : PartText part tail) :
    Scanned (insideString ⟨found, .string part half content⟩ part half content char)
      (front ++ '"' :: (body ++ tail) ++ [char]) := by
  cases partText with
  | plain =>
      simp only [insideString]
      split
      · next quote =>
          subst quote
          have lexeme := Lexeme.string spelled
          rw [Piece.content, read] at lexeme
          have emitted : Scanned (emit ⟨found, .string .plain half content⟩ _) _ :=
            scanned_emit _ (fun rest => leads _) lexeme
          simpa using emitted
      · next noQuote =>
          split
          · next backslash =>
              subst backslash
              have escaped := Scanned.string leads spelled read .escape
              simpa using escaped
          · next noEscape =>
              split
              · exact scanned_fail _
              · next printable =>
                  exact scanned_piece leads spelled read
                    (.plain (Nat.not_lt.mp printable) noQuote noEscape) rfl
  | escape =>
      simp only [insideString]
      split
      · next unit =>
          subst unit
          have noDigits : PartText (.unit 0 0) ['\\', 'u'] := .unit [] (by simp) rfl
          have begun := Scanned.string leads spelled read noDigits
          simpa using begun
      · split
        · next stands => exact scanned_piece leads spelled read (.escaped stands) rfl
        · exact scanned_fail _
  | @unit digits value short number =>
      simp only [insideString]
      split
      · exact scanned_fail _
      · next digit valued =>
          have longer : Text.hexNumber? (digits ++ [char]) = some (16 * value + digit) := by
            rw [Text.hexNumber?_append, number, Option.bind_some, valued]
            rfl
          split
          · next full =>
              obtain ⟨first, second, third, rfl⟩ := List.length_eq_three.mp full
              exact scanned_piece leads spelled read (.unit longer) rfl
          · next room =>
              have more := Scanned.string leads spelled read
                (.unit (digits ++ [char]) (by simp; omega) longer)
              simpa using more

theorem scanned_step {scanner : Scanner} {char : Char} (scanned : Scanned scanner chars) :
    Scanned (step scanner char) (chars ++ [char]) := by
  cases scanned with
  | nothing leads => exact scanned_begin fun rest => leads (char :: rest)
  | @word found front left expected read leads begun lexeme =>
      have last : front ++ read.reverse ++ [char] = front ++ (char :: read).reverse := by simp
      have named : (char :: read).getLast? = read.getLast? := by
        obtain ⟨head, others, rfl⟩ := List.exists_cons_of_ne_nil begun
        exact List.getLast?_cons_cons
      simp only [step]
      split
      · next same =>
          subst same
          split
          · next ended =>
              obtain rfl := List.isEmpty_iff.mp ended
              rw [named, List.append_assoc]
              refine scanned_emit _ (fun rest => ?_) lexeme
              rw [List.append_assoc]
              exact leads _
          · next more =>
              have present : left ≠ [] := fun empty => more (List.isEmpty_iff.mpr empty)
              obtain ⟨next, others, rfl⟩ := List.exists_cons_of_ne_nil present
              rw [last]
              refine .word (char :: read) (fun rest => ?_) (by simp) ?_
              · rw [reverse_cons_append]
                exact leads (char :: rest)
              · rw [named, reverse_cons_append]
                exact lexeme
      · exact scanned_fail _
  | number read leads run => exact scanned_number leads run
  | string leads spelled read partText => exact scanned_string leads spelled read partText
  | failed broken => exact .failed broken

/-- The front of a text that has been scanned. -/
theorem scanned_foldl (chars : List Char) : Scanned (chars.foldl step start) chars := by
  induction chars using List.reverseRecOn with
  | nil => exact .nothing fun rest tokens lexes => lexes
  | append_singleton chars char ih =>
      rw [List.foldl_append]
      exact scanned_step ih

theorem lexes_finish {scanner : Scanner} (scanned : Scanned scanner chars)
    (intact : .broken ∉ scanner.finish) : Lexes scanner.finish chars := by
  cases scanned with
  | nothing leads =>
      have whole := leads [] [] .nil
      simpa [finish] using whole
  | failed broken => exact absurd (List.mem_reverse.mpr broken) intact
  | word => exact absurd (List.mem_reverse.mpr List.mem_cons_self) intact
  | string => exact absurd (List.mem_reverse.mpr List.mem_cons_self) intact
  | @number found front part read leads run =>
      simp only [finish] at intact ⊢
      split
      · next complete =>
          have whole := leads [] _ (.number run complete (by simp) .nil)
          simpa [emit] using whole
      · next incomplete =>
          rw [if_neg incomplete] at intact
          exact absurd (List.mem_reverse.mpr List.mem_cons_self) intact

end Steps

/-- A text is written as the tokens that are found, unless the scanner fails. -/
theorem lexes_tokens {text : String} (intact : .broken ∉ tokens text) :
    Lexes (tokens text) text.toList :=
  lexes_finish (scanned_foldl text.toList) intact

end Json

end ServiceGroups
