import Mathlib.Algebra.Group.Nat.Defs
import Mathlib.Data.List.Basic
import ServiceGroups.Orchestrator

/-!
# Names of jobs

The written form of an identifier has a fixed length and determines the identifier.
A job's name ends in one, so that it determines the name of its group and the
account's identity inside the cloud.
-/

namespace ServiceGroups

namespace Text

theorem hexDigit_injective {first second : Nat} (firstSmall : first < 16)
    (secondSmall : second < 16) (same : hexDigit first = hexDigit second) : first = second := by
  have all : ∀ first < 16, ∀ second < 16, hexDigit first = hexDigit second → first = second := by
    decide
  exact all first firstSmall second secondSmall same

@[simp]
theorem length_hexFixed (width value : Nat) : (hexFixed width value).length = width := by
  induction width generalizing value with
  | zero => rfl
  | succ width ih => simp [hexFixed, ih]

/-- Digits of a fixed width determine the number that they are enough for. -/
theorem hexFixed_injective {width first second : Nat} (firstFits : first < 16 ^ width)
    (secondFits : second < 16 ^ width) (same : hexFixed width first = hexFixed width second) :
    first = second := by
  induction width generalizing first second with
  | zero => omega
  | succ width ih =>
      rw [Nat.pow_succ] at firstFits secondFits
      obtain ⟨front, last⟩ := List.append_inj same (by simp)
      have high : first / 16 = second / 16 :=
        ih (Nat.div_lt_of_lt_mul (by omega)) (Nat.div_lt_of_lt_mul (by omega)) front
      have low : first % 16 = second % 16 :=
        hexDigit_injective (Nat.mod_lt first (by decide)) (Nat.mod_lt second (by decide))
          (List.head_eq_of_cons_eq last)
      omega

theorem decimalText_injective {first second : Nat} (same : decimalText first = decimalText second) :
    first = second := by
  have digits := String.ofList_injective same
  rw [← Nat.ofDigitChars_toDigits (b := 10) (n := first) (by decide) (by decide), digits,
    Nat.ofDigitChars_toDigits (by decide) (by decide)]

end Text

namespace Uuid

theorem length_digits (id : Uuid) : id.digits.length = 32 :=
  Text.length_hexFixed 32 _

theorem digits_injective {first second : Uuid} (same : first.digits = second.digits) :
    first = second := by
  have fits (id : Uuid) : id.value.toNat < 16 ^ 32 := by
    have bound := id.value.isLt
    omega
  have values := BitVec.eq_of_toNat_eq (Text.hexFixed_injective (fits first) (fits second) same)
  cases first
  cases second
  exact congrArg mk values

theorem groups_append (id : Uuid) :
    (id.digits.drop 0).take 8 ++ (id.digits.drop 8).take 4 ++ (id.digits.drop 12).take 4 ++
      (id.digits.drop 16).take 4 ++ (id.digits.drop 20).take 12 = id.digits := by
  rw [List.drop_zero, ← List.take_add, ← List.take_add, ← List.take_add, ← List.take_add]
  exact List.take_of_length_le (Nat.le_of_eq id.length_digits)

theorem length_text (id : Uuid) : id.text.toList.length = 36 := by
  simp [text, length_digits]

theorem text_injective {first second : Uuid} (same : first.text = second.text) :
    first = second := by
  have chars := congrArg String.toList same
  simp only [text, String.toList_ofList] at chars
  have lengths (start count : Nat) : ((first.digits.drop start).take count).length =
      ((second.digits.drop start).take count).length := by
    simp [length_digits]
  -- Groups of digits with the same place have the same length, so the two texts can be
  -- taken apart from the end.
  apply digits_injective
  rw [← groups_append first, ← groups_append second]
  obtain ⟨chars, last⟩ := List.append_inj' chars (by simp [lengths])
  obtain ⟨chars, fourth⟩ := List.append_inj' chars (by simp [lengths])
  obtain ⟨chars, third⟩ := List.append_inj' chars (by simp [lengths])
  obtain ⟨one, second⟩ := List.append_inj' chars (by simp [lengths])
  rw [one, (List.cons.inj second).2, (List.cons.inj third).2, (List.cons.inj fourth).2,
    (List.cons.inj last).2]

end Uuid

namespace Orchestrator

/-- The name of a job determines its group and the account inside the cloud. -/
theorem jobName_injective {firstName secondName : String} {firstId secondId : Uuid}
    (same : jobName firstName firstId = jobName secondName secondId) :
    firstName = secondName ∧ firstId = secondId := by
  have chars := congrArg String.toList same
  simp only [jobName, String.toList_append] at chars
  obtain ⟨front, ids⟩ := List.append_inj' chars (by simp only [Uuid.length_text])
  obtain ⟨names, -⟩ := List.append_inj' front rfl
  exact ⟨String.toList_injective names, Uuid.text_injective (String.toList_injective ids)⟩

end Orchestrator

end ServiceGroups
