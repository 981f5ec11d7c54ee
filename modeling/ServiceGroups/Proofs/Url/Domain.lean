import ServiceGroups.Proofs.Text.Form
import ServiceGroups.Proofs.Text.Numeral
import ServiceGroups.Url.Domain

/-!
# Domains in ASCII

Lower case and Punycode are a lawful way to write domains: of a label its ASCII characters are
written as they are, whatever else is in it.
-/

namespace ServiceGroups

namespace Text

theorem exists_mem_splitAtEach {separator char : Char} (other : char ≠ separator)
    {chars : List Char} (member : char ∈ chars) :
    ∃ piece ∈ splitAtEach separator chars, char ∈ piece := by
  induction chars with
  | nil => cases member
  | cons first rest ih =>
      obtain ⟨piece, pieces, split⟩ :=
        List.exists_cons_of_ne_nil (splitAtEach_ne_nil separator rest)
      rw [splitAtEach, split]
      simp only
      rcases List.mem_cons.mp member with rfl | later
      · rw [if_neg other]
        exact ⟨_, List.mem_cons_self, List.mem_cons_self⟩
      · obtain ⟨found, among, inside⟩ := ih later
        rw [split] at among
        split
        · exact ⟨found, List.mem_cons_of_mem _ among, inside⟩
        · rcases List.mem_cons.mp among with rfl | further
          · exact ⟨_, List.mem_cons_self, List.mem_cons_of_mem _ inside⟩
          · exact ⟨found, List.mem_cons_of_mem _ further, inside⟩

theorem mem_intercalate_of_mem {char separator : Char} {pieces : List (List Char)}
    {piece : List Char} (among : piece ∈ pieces) (inside : char ∈ piece) :
    char ∈ List.intercalate [separator] pieces := by
  induction pieces with
  | nil => cases among
  | cons first rest ih =>
      cases rest with
      | nil =>
          cases List.mem_singleton.mp among
          simpa using inside
      | cons next others =>
          rw [List.intercalate_cons_cons, List.append_assoc, List.mem_append]
          rcases List.mem_cons.mp among with rfl | later
          · exact .inl inside
          · exact .inr (List.mem_append_right _ (ih later))

end Text

namespace Punycode

/-- What is written stays written. -/
theorem prefix_pass (code : Nat) (encoder : Encoder) (char : Char) :
    encoder.written <+: (pass code encoder char).written := by
  unfold pass
  split
  · exact List.prefix_rfl
  · split
    · exact List.prefix_append _ _
    · exact List.prefix_rfl

theorem prefix_foldl_pass (code : Nat) (label : List Char) (encoder : Encoder) :
    encoder.written <+: (label.foldl (pass code) encoder).written := by
  induction label generalizing encoder with
  | nil => exact List.prefix_rfl
  | cons char rest ih => exact (prefix_pass code encoder char).trans (ih _)

theorem prefix_handleAll (label : List Char) (codes : List Nat) (next : Nat)
    (encoder : Encoder) : encoder.written <+: (handleAll label codes next encoder).written := by
  induction codes generalizing next encoder with
  | nil => exact List.prefix_rfl
  | cons code rest ih =>
      let skipped :=
        { encoder with delta := encoder.delta + (code - next) * (encoder.handled + 1) }
      let passed := label.foldl (pass code) skipped
      exact (prefix_foldl_pass code label skipped).trans
        (ih (code + 1) { passed with delta := passed.delta + 1 })

/-- The ASCII characters of a label are written as they are. -/
theorem mem_encodeLabel {label : List Char} {char : Char} (ascii : isAscii char = true)
    (member : char ∈ label) : char ∈ encodeLabel label := by
  unfold encodeLabel
  split
  · exact member
  · have basic : char ∈ label.filter isAscii := List.mem_filter.mpr ⟨member, ascii⟩
    have some : (label.filter isAscii).isEmpty = false := by
      rw [List.isEmpty_eq_false_iff]
      exact List.ne_nil_of_mem basic
    refine List.mem_append_right _ ((prefix_handleAll _ _ _ _).mem ?_)
    simp only [some]
    exact List.mem_append_left _ basic

end Punycode

namespace Host

instance : LawfulDomains where
  keeps_controls := by
    intro domain written char mapped member control
    cases mapped
    have same : char.toLower = char :=
      Text.of_codes (fun char => char.toLower = char) (by decide) (Nat.lt_succ_of_le control)
    have lower : char ∈ domain.map Char.toLower := List.mem_map.mpr ⟨char, member, same⟩
    have notPoint : char ≠ '.' := by
      rintro rfl
      exact absurd control (by decide)
    obtain ⟨label, among, inside⟩ := Text.exists_mem_splitAtEach notPoint lower
    have ascii : Punycode.isAscii char = true := decide_eq_true (by omega)
    exact Text.mem_intercalate_of_mem (List.mem_map_of_mem among)
      (Punycode.mem_encodeLabel ascii inside)
  fixes_plain := by
    intro domain plain
    have known : ∀ char ∈ domain, Punycode.isAscii char = true ∧ char.toLower = char ∧
        char ≠ '.' := by
      intro char member
      have here := plain char member
      have small : char.toNat < 128 := by
        have last : 'z'.toNat = 122 ∧ '9'.toNat = 57 := by decide
        rcases here with lower | digit
        · have most : char.toNat ≤ 'z'.toNat := of_decide_eq_true (Bool.and_eq_true_iff.mp lower).2
          omega
        · have most : char.toNat ≤ '9'.toNat := of_decide_eq_true (Bool.and_eq_true_iff.mp digit).2
          omega
      exact Text.of_codes (fun char => char.isLower ∨ char.isDigit →
        Punycode.isAscii char = true ∧ char.toLower = char ∧ char ≠ '.') (by decide) small here
    have lower : domain.map Char.toLower = domain :=
      (List.map_congr_left fun char member => (known char member).2.1).trans (List.map_id _)
    have whole : Text.splitAtEach '.' domain = [domain] :=
      Text.splitAtEach_of_absent fun member => (known '.' member).2.2 rfl
    have written : Punycode.encodeLabel domain = domain :=
      if_pos (List.all_eq_true.mpr fun char member => (known char member).1)
    refine congrArg some ?_
    rw [encodeDomain, lower, whole, List.map_singleton, written]
    simp

end Host

end ServiceGroups
