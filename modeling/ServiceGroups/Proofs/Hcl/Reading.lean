import ServiceGroups.Hcl.Document
import ServiceGroups.Hcl.Reader

/-!
# Reading back what is written

A quoted value that stands in front of text which can neither be taken for an
opening brace nor for a sigil is read back as its characters, and the reader goes
on with that text.  The one difficulty is a sigil: it is doubled exactly when the
value goes on with a brace, so a single one must never meet a brace by accident.
A document is read fragment by fragment.
-/

namespace ServiceGroups

namespace Hcl

/-- A reading with pieces in front of those that are read. -/
def ahead (pieces : List Piece) (reading : Option (List Piece × List Char)) :
    Option (List Piece × List Char) :=
  reading.map fun read => (pieces ++ read.1, read.2)

@[simp]
theorem ahead_some (pieces more : List Piece) (after : List Char) :
    ahead pieces (some (more, after)) = some (pieces ++ more, after) :=
  rfl

@[simp]
theorem ahead_nil (reading : Option (List Piece × List Char)) : ahead [] reading = reading := by
  cases reading <;> rfl

@[simp]
theorem ahead_ahead (first second : List Piece) (reading : Option (List Piece × List Char)) :
    ahead first (ahead second reading) = ahead (first ++ second) reading := by
  cases reading <;> simp [ahead]

/-- The text cannot turn what stands in front of it into an interpolation. -/
def StaysApart (tail : List Char) : Prop :=
  ∀ char, tail.head? = some char → isSigil char = false ∧ char ≠ '{'

theorem staysApart_quote (rest : List Char) : StaysApart ('"' :: rest) := by
  intro char first
  cases first
  decide

/-- A character that stands for itself wherever it is in a string. -/
def isPlain (char : Char) : Bool :=
  !isSigil char && char ≠ '"' && char ≠ '\\' && char ≠ '\n' && char ≠ '\r' && char ≠ '{'

/-- The characters that are not plain. -/
def specialChars : List Char :=
  ['$', '%', '"', '\\', '\n', '\r', '{']

/-- A class of characters without a special one has plain characters only. -/
theorem isPlain_of_class (class? : Char → Bool) (plain : specialChars.any class? = false)
    {char : Char} (member : class? char = true) : isPlain char = true := by
  have ordinary : char ∉ specialChars := by
    intro special
    have found : specialChars.any class? = true := List.any_eq_true.mpr ⟨char, special, member⟩
    exact absurd (plain.symm.trans found) (by decide)
  simp only [specialChars, List.mem_cons, List.not_mem_nil, or_false, not_or] at ordinary
  simp [isPlain, isSigil, ordinary]

section Reader

variable {char : Char} {rest : List Char}

theorem readString_quote (rest : List Char) : readString ('"' :: rest) = some ([], rest) := by
  rw [readString]

theorem readString_escape {letter : Char} (escape : escaped? letter = some char) :
    readString ('\\' :: letter :: rest) = ahead [.char char] (readString rest) := by
  rw [readString, escape]
  cases readString rest <;> rfl

/-- A character without a meaning of its own in front of the rest is read as
itself. -/
theorem readString_of_ordinary (notQuote : char ≠ '"') (notEscape : char ≠ '\\')
    (notBreak : char ≠ '\n' ∧ char ≠ '\r')
    (single : isSigil char = true → rest.head? ≠ some '{')
    (double : isSigil char = true → ∀ more, rest ≠ char :: '{' :: more) :
    readString (char :: rest) = ahead [.char char] (readString rest) := by
  have unbroken : ¬ (char = '\n' ∨ char = '\r' ∨ char = '\\') := by
    rintro (same | same | same)
    · exact notBreak.1 same
    · exact notBreak.2 same
    · exact notEscape same
  -- The cases are the reader's own, in its order; only the last one is left.
  rw [readString.eq_def]
  split
  · next empty => cases empty
  · next same => exact absurd (List.cons.inj same).1 notQuote
  · next same => exact absurd (List.cons.inj same).1 notEscape
  · next more same =>
      obtain ⟨rfl, rfl⟩ := List.cons.inj same
      exact absurd rfl (double rfl more)
  · next more same =>
      obtain ⟨rfl, rfl⟩ := List.cons.inj same
      exact absurd rfl (double rfl more)
  · next same =>
      obtain ⟨rfl, rfl⟩ := List.cons.inj same
      exact absurd rfl (single rfl)
  · next same =>
      obtain ⟨rfl, rfl⟩ := List.cons.inj same
      exact absurd rfl (single rfl)
  · next same =>
      obtain ⟨rfl, rfl⟩ := List.cons.inj same
      rw [if_neg unbroken]
      cases readString rest <;> rfl

theorem readString_plain (plain : isPlain char = true) (rest : List Char) :
    readString (char :: rest) = ahead [.char char] (readString rest) := by
  simp only [isPlain, Bool.and_eq_true, Bool.not_eq_true', decide_eq_true_eq] at plain
  obtain ⟨⟨⟨⟨⟨sigil, quote⟩, escape⟩, line⟩, carriage⟩, -⟩ := plain
  refine readString_of_ordinary quote escape ⟨line, carriage⟩ ?_ ?_
  · simp [sigil]
  · simp [sigil]

/-- A doubled sigil in front of a brace is the sigil. -/
theorem readString_doubled (sigil : isSigil char = true) (rest : List Char) :
    readString (char :: char :: '{' :: rest) =
      ahead [.char char] (readString ('{' :: rest)) := by
  have brace : readString ('{' :: rest) = ahead [.char '{'] (readString rest) :=
    readString_of_ordinary (by decide) (by decide) (by decide) (by simp [isSigil])
      (by simp [isSigil])
  rw [brace]
  simp only [isSigil, Bool.or_eq_true, beq_iff_eq] at sigil
  rcases sigil with rfl | rfl
  · rw [readString]
    cases readString rest <;> rfl
  · rw [readString]
    cases readString rest <;> rfl

end Reader

section Quoting

variable {tail : List Char}

/-- What quoting makes of a character starts with a backslash or with the character
itself. -/
theorem quoteChar_cases (char : Char) (next : Option Char) :
    (∃ letter, escaped? letter = some char ∧ quoteChar char next = ['\\', letter]) ∨
      (char ≠ '"' ∧ char ≠ '\\' ∧ char ≠ '\n' ∧ char ≠ '\r') ∧
        quoteChar char next =
          if isSigil char && next == some '{' then [char, char] else [char] := by
  unfold quoteChar
  split
  · exact .inl ⟨'\\', rfl, rfl⟩
  · exact .inl ⟨'"', rfl, rfl⟩
  · exact .inl ⟨'n', rfl, rfl⟩
  · exact .inl ⟨'r', rfl, rfl⟩
  · exact .inl ⟨'t', rfl, rfl⟩
  · next escape quote line carriage _ => exact .inr ⟨⟨quote, escape, line, carriage⟩, rfl⟩

/-- Quoted text starts with a brace only where the value does. -/
theorem head_quoteChars (apart : StaysApart tail) {chars : List Char}
    (brace : (quoteChars chars ++ tail).head? = some '{') : chars.head? = some '{' := by
  cases chars with
  | nil => exact absurd rfl (apart '{' brace).2
  | cons char rest =>
      rw [quoteChars_cons] at brace
      rcases quoteChar_cases char rest.head? with ⟨letter, -, quoted⟩ | ⟨-, quoted⟩
      · rw [quoted] at brace
        exact absurd brace (by simp)
      · rw [quoted] at brace
        split at brace <;> simpa using brace

/-- In quoted text no single sigil stands in front of a brace at the start. -/
theorem quoteChars_ne_sigil_brace (apart : StaysApart tail) {chars more : List Char}
    {sigil : Char} (isSign : isSigil sigil = true) :
    quoteChars chars ++ tail ≠ sigil :: '{' :: more := by
  intro same
  cases chars with
  | nil =>
      have first : tail.head? = some sigil := by
        rw [quoteChars_nil, List.nil_append] at same
        rw [same]
        rfl
      exact absurd (isSign.symm.trans (apart sigil first).1) (by decide)
  | cons char rest =>
      rw [quoteChars_cons] at same
      rcases quoteChar_cases char rest.head? with ⟨letter, -, quoted⟩ | ⟨-, quoted⟩
      · rw [quoted] at same
        obtain ⟨rfl, -⟩ := List.cons.inj same
        exact absurd isSign (by decide)
      · rw [quoted] at same
        split at same
        · obtain ⟨rfl, doubled⟩ := List.cons.inj same
          obtain ⟨rfl, -⟩ := List.cons.inj doubled
          exact absurd isSign (by decide)
        · next notDoubled =>
            -- The sigil stands alone because the value does not go on with a brace.
            obtain ⟨rfl, follows⟩ := List.cons.inj same
            have brace : rest.head? = some '{' := by
              have goesOn : quoteChars rest ++ tail = '{' :: more := follows
              exact head_quoteChars apart (by rw [goesOn]; rfl)
            exact notDoubled (by simp [isSign, brace])

/-- A quoted value is read back as its characters, in front of any text that stays
apart from it. -/
theorem readString_quoteChars (apart : StaysApart tail) (chars : List Char) :
    readString (quoteChars chars ++ tail) = ahead (chars.map .char) (readString tail) := by
  induction chars with
  | nil => simp
  | cons char rest ih =>
      rw [quoteChars_cons, List.append_assoc, List.map_cons, ← List.singleton_append,
        ← ahead_ahead, ← ih]
      rcases quoteChar_cases char rest.head? with
        ⟨letter, escape, quoted⟩ | ⟨⟨quote, backslash, line, carriage⟩, quoted⟩
      · rw [quoted]
        exact readString_escape escape
      · rw [quoted]
        split
        · next doubled =>
            simp only [Bool.and_eq_true, beq_iff_eq] at doubled
            obtain ⟨sigil, brace⟩ := doubled
            obtain ⟨more, rfl⟩ := List.head?_eq_some_iff.mp brace
            rw [quoteChars_cons]
            exact readString_doubled sigil _
        · next notDoubled =>
            -- What follows is quoted text too, and it must not make a brace or a sigil
            -- with a brace appear behind the character.
            refine readString_of_ordinary quote backslash ⟨line, carriage⟩ ?_ ?_
            · intro sigil brace
              exact notDoubled (by simp [sigil, head_quoteChars apart brace])
            · intro sigil more
              exact quoteChars_ne_sigil_brace apart sigil

/-- A quoted value is read back up to its closing quote, whatever stands behind that. -/
theorem readString_closed (chars rest : List Char) :
    readString (quoteChars chars ++ '"' :: rest) = some (chars.map .char, rest) := by
  rw [readString_quoteChars (staysApart_quote rest), readString_quote, ahead_some,
    List.append_nil]

end Quoting

/-- The characters that a segment stands for. -/
def Segment.content : Segment → List Char
  | .verbatim text => text.toList
  | .quoted value => value.toList

/-- The characters of segments inside their literal. -/
def inside (segments : List Segment) : List Char :=
  segments.flatMap fun segment => segment.text.toList

/-- Verbatim text is plain, and what follows a quoted value stays apart from it. -/
def Legible : List Segment → Prop
  | [] => True
  | .verbatim text :: rest => text.toList.all isPlain = true ∧ Legible rest
  | .quoted _ :: rest => StaysApart (inside rest) ∧ Legible rest

section Literals

theorem StaysApart.append {chars rest : List Char} (apart : StaysApart chars)
    (also : StaysApart rest) : StaysApart (chars ++ rest) := by
  cases chars with
  | nil => exact also
  | cons char _ => exact apart

theorem readString_of_all_isPlain {chars : List Char} (plain : chars.all isPlain = true)
    (tail : List Char) :
    readString (chars ++ tail) = ahead (chars.map .char) (readString tail) := by
  induction chars with
  | nil => simp
  | cons char rest ih =>
      simp only [List.all_cons, Bool.and_eq_true] at plain
      rw [List.cons_append, readString_plain plain.1, ih plain.2, ahead_ahead]
      rfl

/-- A legible literal is read back as its contents. -/
theorem readString_inside {segments : List Segment} (legible : Legible segments)
    (after : List Char) :
    readString (inside segments ++ '"' :: after) =
      some ((segments.flatMap Segment.content).map .char, after) := by
  induction segments with
  | nil => exact readString_quote after
  | cons segment rest ih =>
      have split : inside (segment :: rest) ++ '"' :: after =
          segment.text.toList ++ (inside rest ++ '"' :: after) := by
        simp [inside]
      rw [split]
      cases segment with
      | verbatim text =>
          obtain ⟨plain, legible⟩ := legible
          rw [Segment.text, readString_of_all_isPlain plain, ih legible, ahead_some]
          simp [Segment.content]
      | quoted value =>
          obtain ⟨apart, legible⟩ := legible
          have text : (Segment.quoted value).text.toList = quoteChars value.toList := by
            simp [Segment.text, quote]
          rw [text, readString_quoteChars (apart.append (staysApart_quote after)), ih legible,
            ahead_some]
          simp [Segment.content]

end Literals

section Documents

theorem readText_code {char : Char} (code : char ≠ '"') (rest : List Char) :
    readText (char :: rest) = (readText rest).map (.code char :: ·) := by
  rw [readText]
  exact code

theorem readText_string {pieces : List Piece} {chars after : List Char}
    (read : readString chars = some (pieces, after)) :
    readText ('"' :: chars) = (readText after).map (.string pieces :: ·) := by
  rw [readText]
  split
  · next none => exact absurd (none.symm.trans read) (by simp)
  · next found =>
      obtain ⟨rfl, rfl⟩ := Prod.mk.inj (Option.some.inj (found.symm.trans read))
      rfl

/-- Wherever the fragment stands, it is read as the items. -/
def Fragment.ReadAs (fragment : Fragment) (items : List Item) : Prop :=
  ∀ rest, readText (fragment.text.toList ++ rest) = (readText rest).map (items ++ ·)

theorem Fragment.readAs_code (text : String) (code : text.toList.all (· ≠ '"') = true) :
    (Fragment.code text).ReadAs (text.toList.map .code) := by
  intro rest
  rw [Fragment.text]
  generalize text.toList = chars at code
  induction chars with
  | nil => simp
  | cons char more ih =>
      simp only [List.all_cons, Bool.and_eq_true, decide_eq_true_eq] at code
      rw [List.cons_append, readText_code code.1, ih code.2, Option.map_map]
      rfl

theorem Fragment.text_literal (segments : List Segment) (rest : List Char) :
    (Fragment.literal segments).text.toList ++ rest = '"' :: (inside segments ++ '"' :: rest) := by
  simp [Fragment.text, String.toList_join, inside, List.flatMap_map]

theorem Fragment.readAs_literal {segments : List Segment} {pieces : List Piece}
    (read : ∀ after, readString (inside segments ++ '"' :: after) = some (pieces, after)) :
    (Fragment.literal segments).ReadAs [.string pieces] := by
  intro rest
  rw [Fragment.text_literal, readText_string (read rest)]
  rfl

theorem Fragment.readAs_of_legible (segments : List Segment) (legible : Legible segments) :
    (Fragment.literal segments).ReadAs
      [.string ((segments.flatMap Segment.content).map .char)] :=
  readAs_literal (readString_inside legible)

end Documents

end Hcl

end ServiceGroups
