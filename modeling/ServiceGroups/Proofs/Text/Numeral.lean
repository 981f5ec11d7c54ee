import Mathlib.Algebra.Group.Nat.Defs
import Mathlib.Data.List.Induction
import ServiceGroups.Text.Numeral

/-!
# Decimal numerals

A numeral is made of one digit or more, and it is read from the left.  Numbers that are
written with a fixed width, or with zeros in front, are read back.
-/

namespace ServiceGroups

namespace Text

theorem le_iff_toNat_le {first second : Char} : first ≤ second ↔ first.toNat ≤ second.toNat :=
  UInt32.le_iff_toNat_le

/-- What holds of all codes below a bound holds of the characters with such a code. -/
theorem of_codes (holds : Char → Prop) {bound : Nat}
    (codes : ∀ code < bound, holds (Char.ofNat code)) {char : Char} (small : char.toNat < bound) :
    holds char := by
  have here := codes char.toNat small
  rwa [Char.ofNat_toNat] at here

/-- The character is a decimal digit. -/
def IsDecimal (char : Char) : Prop :=
  (digitValue? char).isSome = true

instance (char : Char) : Decidable (IsDecimal char) :=
  inferInstanceAs (Decidable ((digitValue? char).isSome = true))

theorem toNat_of_isDecimal {char : Char} (decimal : IsDecimal char) :
    48 ≤ char.toNat ∧ char.toNat ≤ 57 := by
  unfold IsDecimal digitValue? at decimal
  split at decimal
  · next range => exact ⟨le_iff_toNat_le.mp range.1, le_iff_toNat_le.mp range.2⟩
  · cases decimal

theorem foldlM_digits_append (digits : List Char) (char : Char) (start : Nat) :
    (digits ++ [char]).foldlM (fun value char => (digitValue? char).map (10 * value + ·)) start =
      (digits.foldlM (fun value char => (digitValue? char).map (10 * value + ·)) start).bind
        fun value => (digitValue? char).map (10 * value + ·) := by
  simp [List.foldlM_append]

theorem foldlM_digits_eq_some {digits : List Char} {start value : Nat}
    (read : digits.foldlM (fun value char => (digitValue? char).map (10 * value + ·)) start =
      some value) : ∀ char ∈ digits, IsDecimal char := by
  induction digits generalizing start with
  | nil => exact fun _ member => absurd member List.not_mem_nil
  | cons char rest ih =>
      simp only [List.foldlM_cons, Option.bind_eq_bind, Option.bind_eq_some_iff,
        Option.map_eq_some_iff] at read
      obtain ⟨next, ⟨digit, found, -⟩, rest⟩ := read
      intro other member
      rcases List.mem_cons.mp member with rfl | member
      · rw [IsDecimal, found]
        rfl
      · exact ih rest other member

theorem digits_of_decimal? {digits : List Char} {value : Nat}
    (read : decimal? digits = some value) : digits ≠ [] ∧ ∀ char ∈ digits, IsDecimal char := by
  unfold decimal? at read
  split at read
  · cases read
  · next present =>
      refine ⟨fun empty => ?_, foldlM_digits_eq_some read⟩
      rw [empty] at present
      exact present rfl

theorem decimal?_eq_foldlM {digits : List Char} (present : digits ≠ []) :
    decimal? digits =
      digits.foldlM (fun value char => (digitValue? char).map (10 * value + ·)) 0 := by
  cases digits with
  | nil => exact absurd rfl present
  | cons char rest => rfl

theorem digitValue?_digit : ∀ value < 10,
    digitValue? (Char.ofNat ('0'.toNat + value)) = some value := by
  decide

theorem foldlM_decimalFixed (width value : Nat) :
    (decimalFixed width value).foldlM
      (fun value char => (digitValue? char).map (10 * value + ·)) 0 =
        some (value % 10 ^ width) := by
  induction width generalizing value with
  | zero => simp [decimalFixed, Nat.mod_one]
  | succ width ih =>
      rw [decimalFixed, foldlM_digits_append, ih, Option.bind_some,
        digitValue?_digit _ (Nat.mod_lt value (by decide)), Option.map_some, Nat.pow_succ',
        Nat.mod_mul]
      simp [Nat.add_comm]

@[simp]
theorem length_decimalFixed (width value : Nat) : (decimalFixed width value).length = width := by
  induction width generalizing value with
  | zero => rfl
  | succ width ih => simp [decimalFixed, ih]

/-- A number that is written with enough digits is read back. -/
theorem decimal?_decimalFixed {width value : Nat} (positive : 0 < width)
    (fits : value < 10 ^ width) : decimal? (decimalFixed width value) = some value := by
  have present : decimalFixed width value ≠ [] := by
    intro empty
    have length := length_decimalFixed width value
    rw [empty] at length
    exact absurd length (by simp; omega)
  rw [decimal?_eq_foldlM present, foldlM_decimalFixed, Nat.mod_eq_of_lt fits]

theorem foldlM_replicate_zero (count : Nat) (rest : List Char) :
    (List.replicate count '0' ++ rest).foldlM
        (fun value char => (digitValue? char).map (10 * value + ·)) 0 =
      rest.foldlM (fun value char => (digitValue? char).map (10 * value + ·)) 0 := by
  induction count with
  | zero => rfl
  | succ count ih =>
      rw [List.replicate_succ, List.cons_append, List.foldlM_cons]
      exact ih

theorem exists_digitChar_of_mem_toDigits {base : Nat} (least : 2 ≤ base) {value : Nat}
    {char : Char} (member : char ∈ Nat.toDigits base value) :
    ∃ digit < base, char = digit.digitChar := by
  induction value using Nat.strongRecOn with
  | ind value ih =>
      by_cases small : value < base
      · rw [Nat.toDigits_of_lt_base small] at member
        exact ⟨value, small, List.mem_singleton.mp member⟩
      · have positive : 0 < value := by omega
        rw [Nat.toDigits_of_base_le least (by omega), List.mem_append] at member
        rcases member with front | last
        · exact ih (value / base) (Nat.div_lt_self positive least) front
        · have bound := Nat.mod_lt value (show 0 < base by omega)
          exact ⟨value % base, bound, List.mem_singleton.mp last⟩

theorem digitValue?_digitChar : ∀ value < 10, digitValue? value.digitChar = some value := by
  decide

theorem foldlM_toDigits (value : Nat) :
    (Nat.toDigits 10 value).foldlM
      (fun value char => (digitValue? char).map (10 * value + ·)) 0 = some value := by
  induction value using Nat.strongRecOn with
  | ind value ih =>
      by_cases small : value < 10
      · rw [Nat.toDigits_of_lt_base small]
        simp [digitValue?_digitChar value small]
      · rw [Nat.toDigits_of_base_le (by decide) (by omega), foldlM_digits_append,
          ih (value / 10) (by omega), Option.bind_some,
          digitValue?_digitChar _ (Nat.mod_lt value (by decide)), Option.map_some,
          Nat.div_add_mod]

/-- A number that is written with zeros in front is read back. -/
theorem decimal?_decimalPadded (width value : Nat) :
    decimal? (decimalPadded width value) = some value := by
  have present : decimalPadded width value ≠ [] := by
    rw [decimalPadded]
    exact fun empty => Nat.toDigits_ne_nil (List.append_eq_nil_iff.mp empty).2
  rw [decimal?_eq_foldlM present, decimalPadded, foldlM_replicate_zero, foldlM_toDigits]

theorem boundedDecimal?_decimalText {bound value : Nat} (small : value ≤ bound) :
    boundedDecimal? bound (decimalText value) = some value := by
  rw [boundedDecimal?, decimalText, String.toList_ofList]
  split
  · next rest same =>
      have digits := foldlM_digits_eq_some (foldlM_toDigits value)
      have plus : IsDecimal '+' := digits _ (same ▸ List.mem_cons_self)
      exact absurd plus (by decide)
  · rw [decimal?_eq_foldlM Nat.toDigits_ne_nil, foldlM_toDigits]
    simpa [Option.filter] using small

theorem word64?_decimalText (word : UInt64) : word64? (decimalText word.toNat) = some word := by
  have small : word.toNat ≤ Nat.pow 2 64 - 1 := Nat.le_sub_one_of_lt word.toNat_lt
  rw [word64?, boundedDecimal?_decimalText small, Option.map_some, UInt64.ofNat_toNat]

theorem word32?_decimalText (word : UInt32) : word32? (decimalText word.toNat) = some word := by
  have small : word.toNat ≤ Nat.pow 2 32 - 1 := Nat.le_sub_one_of_lt word.toNat_lt
  rw [word32?, boundedDecimal?_decimalText small, Option.map_some, UInt32.ofNat_toNat]

end Text

end ServiceGroups
