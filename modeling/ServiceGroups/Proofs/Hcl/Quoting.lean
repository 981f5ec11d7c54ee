import ServiceGroups.Proofs.Hcl.Reading

/-!
# Quoting a value

The reader undoes quoting: up to the quote behind a quoted value it meets the characters of the
value and nothing else, whatever follows.  So a quoted value and the text behind its closing quote
are those of the text that they make up.
-/

namespace ServiceGroups

namespace Hcl

/-- The characters of a quoted value with its closing quote and a text behind it. -/
theorem toList_quote_append (value rest : String) :
    (quote value ++ "\"" ++ rest).toList = quoteChars value.toList ++ '"' :: rest.toList := by
  simp [quote]

theorem readString_quote_append (value rest : String) :
    readString (quote value ++ "\"" ++ rest).toList =
      some (value.toList.map .char, rest.toList) := by
  rw [toList_quote_append, readString_closed]

/-- Neither an escape nor a character that is left as it is breaks the line. -/
theorem not_break_of_mem_quoteChar {char written : Char} {next : Option Char}
    (member : written ∈ quoteChar char next) : written ≠ '\n' ∧ written ≠ '\r' := by
  rcases quoteChar_cases char next with
    ⟨letter, escape, quoted⟩ | ⟨⟨-, -, line, carriage⟩, quoted⟩
  · have unbroken : letter ≠ '\n' ∧ letter ≠ '\r' := by
      constructor <;> rintro rfl <;> exact nomatch escape
    rw [quoted, List.mem_cons, List.mem_singleton] at member
    rcases member with rfl | rfl
    · decide
    · exact unbroken
  · have same : written = char := by
      rw [quoted] at member
      split at member <;> simpa using member
    exact same ▸ ⟨line, carriage⟩

theorem not_break_of_mem_quote {value : String} {written : Char}
    (member : written ∈ (quote value).toList) : written ≠ '\n' ∧ written ≠ '\r' := by
  rw [quote, String.toList_ofList, quoteChars, List.mem_flatMap] at member
  obtain ⟨_, -, inside⟩ := member
  exact not_break_of_mem_quoteChar inside

theorem quoteChar_of_plain {char : Char} (plain : isPlain char = true) (other : char ≠ '\t')
    (next : Option Char) : quoteChar char next = [char] := by
  simp only [isPlain, Bool.and_eq_true, Bool.not_eq_true', decide_eq_true_eq] at plain
  obtain ⟨⟨⟨⟨⟨sigil, quote⟩, escape⟩, line⟩, carriage⟩, -⟩ := plain
  unfold quoteChar
  split
  · exact absurd rfl escape
  · exact absurd rfl quote
  · exact absurd rfl line
  · exact absurd rfl carriage
  · exact absurd rfl other
  · simp [sigil]

/-- Plain text is left as it is, but for tabs: they are escaped without need. -/
theorem quote_of_plain {text : String} (plain : text.toList.all isPlain = true)
    (untabbed : '\t' ∉ text.toList) : quote text = text := by
  apply String.toList_injective
  rw [quote, String.toList_ofList]
  generalize text.toList = chars at plain untabbed
  induction chars with
  | nil => rfl
  | cons char rest ih =>
      rw [List.all_cons, Bool.and_eq_true] at plain
      rw [List.mem_cons, not_or] at untabbed
      rw [quoteChars_cons, quoteChar_of_plain plain.1 (Ne.symm untabbed.1),
        ih plain.2 untabbed.2, List.singleton_append]

/-- Two quoted values that go on with their closing quotes in the same way are one value. -/
theorem quote_append_inj {value other rest more : String}
    (same : quote value ++ "\"" ++ rest = quote other ++ "\"" ++ more) :
    value = other ∧ rest = more := by
  have read : some (value.toList.map Piece.char, rest.toList) =
      some (other.toList.map Piece.char, more.toList) := by
    rw [← readString_quote_append, same, readString_quote_append]
  obtain ⟨pieces, after⟩ := Prod.mk.inj (Option.some.inj read)
  have chars : value.toList = other.toList :=
    (List.map_inj_right fun _ _ => Piece.char.inj).mp pieces
  exact ⟨String.toList_inj.mp chars, String.toList_inj.mp after⟩

/-- Reading up to the closing quote is the inverse of quoting. -/
theorem reading_inverts_quoting :
    (∀ value rest : String, readString (quote value ++ "\"" ++ rest).toList =
        some (value.toList.map .char, rest.toList)) ∧
      (∀ value : String, ∀ written ∈ (quote value).toList, written ≠ '\n' ∧ written ≠ '\r') ∧
        Function.Injective quote := by
  refine ⟨readString_quote_append, fun _ _ => not_break_of_mem_quote, fun value other same => ?_⟩
  have closed : quote value ++ "\"" ++ "" = quote other ++ "\"" ++ "" := by rw [same]
  exact (quote_append_inj closed).1

-- Only the sigil right in front of a brace is doubled.
example : quote "$$\x7b%$%\x7b$" = "$$$\x7b%$%%\x7b$" := by decide

end Hcl

end ServiceGroups
