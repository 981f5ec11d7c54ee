import ServiceGroups.Proofs.Text.Form
import ServiceGroups.Proofs.Text.Numeral
import ServiceGroups.Proofs.Text.Place
import ServiceGroups.Url.Host

/-!
# Hosts of web addresses

However domains are written in ASCII, the written form of a host starts no fragment.  A control
character in a host, or a blank, is no part of a percent code, and no lawful way to write
domains loses it, so that the host is refused.  So is an empty host.
-/

namespace ServiceGroups

theorem not_mem_toDigits {base : Nat} (least : 2 ≤ base) (most : base ≤ 16) (value : Nat) :
    '#' ∉ Nat.toDigits base value := by
  have all : ∀ digit < 16, Nat.digitChar digit ≠ '#' := by decide
  intro member
  obtain ⟨digit, small, same⟩ := Text.exists_digitChar_of_mem_toDigits least member
  exact all digit (Nat.lt_of_lt_of_le small most) same.symm

namespace SocketAddress

theorem not_mem_ipv4Text (host : Ipv4) : '#' ∉ ipv4Text host := by
  simp [ipv4Text, not_mem_toDigits]

theorem not_mem_groupsText (groups : List UInt16) : '#' ∉ groupsText groups := by
  intro member
  rcases Text.mem_intercalate member with same | ⟨piece, among, inside⟩
  · exact absurd same (by decide)
  · obtain ⟨value, -, rfl⟩ := List.mem_map.mp among
    exact not_mem_toDigits (by decide) (by decide) _ inside

theorem not_mem_compressedText (host : Ipv6) : '#' ∉ compressedText host := by
  unfold compressedText
  simp only
  split <;> simp [not_mem_groupsText]

end SocketAddress

namespace Text

/-- A byte that has no part in percent codes is still there after decoding. -/
theorem mem_percentDecodeBytes {content : List UInt8} {byte : UInt8} (notSign : byte ≠ 0x25)
    (notDigit : hexByte? byte = none) (member : byte ∈ content) :
    byte ∈ percentDecodeBytes content := by
  fun_induction percentDecodeBytes content with
  | case1 => exact member
  | case2 high low rest upper lower readLow readHigh ih =>
      simp only [List.mem_cons] at member
      rcases member with rfl | rfl | rfl | later
      · exact absurd rfl notSign
      · rw [notDigit] at readHigh
        cases readHigh
      · rw [notDigit] at readLow
        cases readLow
      · exact List.mem_cons_of_mem _ (ih later)
  | case3 high low rest _ ih =>
      rcases List.mem_cons.mp member with rfl | later
      · exact absurd rfl notSign
      · exact List.mem_cons_of_mem _ (ih later)
  | case4 first rest _ ih =>
      rcases List.mem_cons.mp member with rfl | later
      · exact List.mem_cons_self
      · exact List.mem_cons_of_mem _ (ih later)

theorem mem_bytes_iff {text : String} {char : Char} (ascii : char.toNat < 128) :
    UInt8.ofNat char.toNat ∈ bytes text ↔ char ∈ text.toList := by
  have code : (UInt8.ofNat char.toNat).toNat = char.toNat :=
    UInt8.toNat_ofNat_of_lt' (Nat.lt_trans ascii (by decide))
  rw [bytes_eq_flatMap, List.mem_flatMap]
  constructor
  · rintro ⟨other, among, encoded⟩
    have same := toNat_eq_of_mem_utf8EncodeChar encoded (by omega)
    rw [code] at same
    exact Char.toNat_inj.mp same ▸ among
  · intro member
    refine ⟨char, member, ?_⟩
    rw [utf8EncodeChar_of_ascii ascii]
    exact List.mem_cons_self

end Text

namespace Host

variable [Domains]

/-- A host as it is written starts no fragment. -/
theorem not_mem_read? {chars : List Char} {host : String} (read : read? chars = some host) :
    '#' ∉ host.toList := by
  unfold read? at read
  split at read
  · next rest =>
      split at read
      · obtain ⟨written, made, rfl⟩ := Option.map_eq_some_iff.mp read
        unfold bracketed? at made
        split at made
        · cases made
          simp [SocketAddress.not_mem_compressedText]
        · cases made
      · cases read
  · obtain ⟨written, made, rfl⟩ := Option.map_eq_some_iff.mp read
    rw [String.toList_ofList]
    simp only [domain?, Option.bind_eq_bind, Option.bind_eq_some_iff] at made
    obtain ⟨decoded, -, written, -, made⟩ := made
    split at made
    · cases made
    · next allowed =>
        split at made
        · obtain ⟨address, -, rfl⟩ := Option.map_eq_some_iff.mp made
          exact SocketAddress.not_mem_ipv4Text address
        · cases made
          intro member
          apply allowed
          rw [Bool.or_eq_true]
          exact .inr (List.any_eq_true.mpr ⟨'#', member, by decide⟩)

variable [LawfulDomains]

theorem domain?_eq_none_of_control {chars : List Char} {char : Char}
    (control : char.toNat ≤ 0x20) (member : char ∈ chars) : domain? chars = none := by
  obtain ⟨notDigit, notSign⟩ :=
    Text.of_codes (fun char => Text.hexByte? (UInt8.ofNat char.toNat) = none ∧
      UInt8.ofNat char.toNat ≠ 0x25) (by decide) (Nat.lt_succ_of_le control)
  have ascii : char.toNat < 128 := by omega
  cases read : Text.percentDecode? (String.ofList chars) with
  | none =>
      rw [domain?, read]
      rfl
  | some decoded =>
      have kept : char ∈ decoded.toList := by
        rw [← Text.mem_bytes_iff ascii, Text.ofBytes?_eq_some.mp read]
        refine Text.mem_percentDecodeBytes notSign notDigit ((Text.mem_bytes_iff ascii).mpr ?_)
        rwa [String.toList_ofList]
      rw [domain?, read]
      cases mapped : Domains.toAscii? decoded.toList with
      | none => simp [mapped]
      | some written =>
          simp only [Option.bind_eq_bind, Option.bind_some, mapped]
          refine if_pos ?_
          rw [Bool.or_eq_true]
          refine .inr (List.any_eq_true.mpr
            ⟨char, LawfulDomains.keeps_controls mapped kept control, ?_⟩)
          simp [isForbidden, control]

/-- A host is refused if control characters or blanks stand behind it. -/
theorem read?_append_eq_none {chars behind : List Char} (present : behind ≠ [])
    (control : ∀ char ∈ behind, char.toNat ≤ 0x20) : read? (chars ++ behind) = none := by
  obtain ⟨before, last, rfl⟩ : ∃ before last, behind = before ++ [last] :=
    ⟨_, _, (List.dropLast_concat_getLast present).symm⟩
  have small : last.toNat ≤ 0x20 := control last (by simp)
  have notBracket : last ≠ ']' := by
    rintro rfl
    exact absurd small (by decide)
  unfold read?
  split
  · next rest same =>
      have ends : rest.getLast? = some last := by
        have whole : ('[' :: rest).getLast? = some last := by
          rw [← same]
          simp [← List.append_assoc]
        cases rest with
        | nil =>
            cases whole
            exact absurd small (by decide)
        | cons first others => exact whole
      rw [ends, if_neg (by simpa using notBracket)]
  · rw [domain?_eq_none_of_control small (by simp), Option.map_none]

theorem toAscii?_nil : Domains.toAscii? [] = some [] :=
  LawfulDomains.fixes_plain (by simp)

theorem read?_nil : read? [] = none := by
  have decoded : Text.percentDecode? (String.ofList []) = some "" := by decide
  have empty : "".toList = [] := by decide
  simp [read?, domain?, decoded, empty, toAscii?_nil]

/-- The version of an interface may be taken for a host. -/
theorem read?_version : read? "v1".toList = some "v1" := by
  have chars : "v1".toList = ['v', '1'] := by decide
  have decoded : Text.percentDecode? (String.ofList ['v', '1']) = some "v1" := by decide +kernel
  have plain : Domains.toAscii? ['v', '1'] = some ['v', '1'] := by
    refine LawfulDomains.fixes_plain ?_
    rw [List.forall_mem_cons, List.forall_mem_singleton]
    exact ⟨.inl (by decide), .inr (by decide)⟩
  have domain : domain? ['v', '1'] = some ['v', '1'] := by
    simp only [domain?, decoded, Option.bind_eq_bind, Option.bind_some, chars, plain]
    decide
  rw [chars, read?]
  · rw [domain]
    decide
  · simp

end Host

end ServiceGroups
