import Mathlib.Data.List.DropRight
import ServiceGroups.Text.Blank

/-!
# Trimmed text

What trimming leaves of a text that is not blank throughout begins and ends with a
character that is no blank.
-/

namespace ServiceGroups

namespace Text

/-- The text is not empty, and there is no blank at either end of it. -/
structure IsTidy (text : String) : Prop where
  begins : ∃ char, text.toList.head? = some char ∧ isBlank char = false
  ends : ∃ char, text.toList.getLast? = some char ∧ isBlank char = false

theorem isAllBlank_eq_false_of_mem {text : String} {char : Char} (member : char ∈ text.toList)
    (plain : isBlank char = false) : isAllBlank text = false :=
  List.all_eq_false.mpr ⟨char, member, by simp [plain]⟩

theorem isTidy_trim {text : String} (present : isAllBlank text = false) : IsTidy (trim text) := by
  let rest := text.toList.dropWhile isBlank
  have remains : rest ≠ [] := by
    intro nothing
    rw [isAllBlank, List.all_eq_true.mpr (List.dropWhile_eq_nil_iff.mp nothing)] at present
    cases present
  have first := List.head_dropWhile_not isBlank remains
  have trimmed : (trim text).toList = rest.rdropWhile isBlank := String.toList_ofList
  have left : rest.rdropWhile isBlank ≠ [] := by
    intro nothing
    have blank := List.rdropWhile_eq_nil_iff.mp nothing _ (List.head_mem remains)
    rw [first] at blank
    cases blank
  -- What is left is a front part of the rest, so that it begins as the rest does.
  have front := (List.rdropWhile_prefix isBlank rest).head left
  have last := List.rdropWhile_last_not isBlank rest left
  constructor
  · refine ⟨_, ?_, first⟩
    rw [trimmed, List.head?_eq_some_head left, front]
  · refine ⟨_, ?_, Bool.eq_false_iff.mpr last⟩
    rw [trimmed, List.getLast?_eq_some_getLast left]

end Text

end ServiceGroups
