import ServiceGroups.Proofs.Text.Numeral
import ServiceGroups.Proofs.Url.Host
import ServiceGroups.Proofs.Url.Reading

/-!
# A path behind an address

An address that is read on its own leads to a scheme, a host and a port.  If the slashes at
its end are replaced by a path, what comes out leads to the same place or is refused: the
slash of the path ends the place as the end of the address did, and blanks that were ignored
at the end of the address are not ignored in front of a path.
-/

namespace ServiceGroups

namespace Url

section Places

variable {isSecure : Bool} {place behind : List Char}

theorem afterUser_append (absent : '@' ∉ behind) :
    afterUser (place ++ behind) = afterUser place ++ behind := by
  have plain : ∀ char ∈ behind.reverse, (char != '@') = true := fun char member =>
    bne_iff_ne.mpr fun same => absent (same ▸ List.mem_reverse.mp member)
  rw [afterUser, List.reverse_append, List.takeWhile_append_of_pos plain, List.reverse_append,
    List.reverse_reverse]
  rfl

/-- What is put behind a place belongs to its port if there is a colon, and otherwise to its
host. -/
theorem hostPart_append (inBrackets : Bool) (place : List Char) (absent : ':' ∉ behind) :
    (hostPart inBrackets place = place ∧
        hostPart inBrackets (place ++ behind) = place ++ behind) ∨
      ∃ digits, place = hostPart inBrackets place ++ ':' :: digits ∧
        hostPart inBrackets (place ++ behind) = hostPart inBrackets place := by
  induction place generalizing inBrackets with
  | nil =>
      refine .inl ⟨rfl, ?_⟩
      rw [List.nil_append]
      induction behind generalizing inBrackets with
      | nil => rfl
      | cons char rest ih =>
          rw [List.mem_cons, not_or] at absent
          rw [hostPart, if_neg fun colon => absent.1 colon.1.symm]
          exact congrArg (char :: ·) (ih absent.2 _)
  | cons char rest ih =>
      simp only [List.cons_append, hostPart]
      split
      · next colon => exact .inr ⟨rest, by rw [colon.1, List.nil_append], rfl⟩
      · rcases ih (if char = '[' then true else if char = ']' then false else inBrackets) with
          ⟨here, longer⟩ | ⟨digits, here, longer⟩
        · exact .inl ⟨congrArg (char :: ·) here, congrArg (char :: ·) longer⟩
        · exact .inr ⟨digits, congrArg (char :: ·) here, congrArg (char :: ·) longer⟩

theorem readPort_append_eq_none {digits : List Char} (present : behind ≠ [])
    (control : ∀ char ∈ behind, char.toNat ≤ 0x20) :
    readPort isSecure (digits ++ behind) = none := by
  obtain ⟨char, member⟩ := List.exists_mem_of_ne_nil behind present
  have unread : Text.decimal? (digits ++ behind) = none := by
    refine Option.eq_none_iff_forall_ne_some.mpr fun value read => ?_
    have decimal := (Text.digits_of_decimal? read).2 char (List.mem_append_right _ member)
    have code := (Text.toNat_of_isDecimal decimal).1
    have small := control char member
    omega
  have filled : (digits ++ behind).isEmpty = false := by
    simp [present]
  rw [readPort, filled, unread]
  rfl

/-- Slashes are not part of the place in front of them. -/
theorem takeWhile_append_slashes (alone : StandsAlone place) (slashes : Nat) :
    (place ++ List.replicate slashes '/').takeWhile
      (fun char => !isSlash char && char != '?' && char != '#') = place := by
  cases slashes with
  | zero =>
      rw [List.replicate_zero, List.append_nil]
      exact List.takeWhile_eq_self_iff.mpr alone
  | succ count => exact takeWhile_of_standsAlone alone _

variable [Host.Domains] [Host.LawfulDomains]

/-- A place is refused if control characters or blanks stand behind it. -/
theorem readAuthority_append_eq_none (present : behind ≠ [])
    (control : ∀ char ∈ behind, char.toNat ≤ 0x20) :
    readAuthority isSecure (place ++ behind) = none := by
  have absent (char : Char) (large : 0x20 < char.toNat) : char ∉ behind := fun member =>
    Nat.not_le_of_lt large (control char member)
  rw [readAuthority, afterUser_append (absent '@' (by decide))]
  rcases hostPart_append false (afterUser place) (absent ':' (by decide)) with
    ⟨-, whole⟩ | ⟨digits, split, front⟩
  · rw [whole, Host.read?_append_eq_none present control]
    rfl
  · have port : (afterUser place ++ behind).drop ((hostPart false (afterUser place)).length + 1) =
        digits ++ behind := by
      generalize hostPart false (afterUser place) = host at split
      rw [split]
      simp
    simp only [front, port, readPort_append_eq_none present control]
    cases Host.read? (hostPart false (afterUser place)) <;> rfl

/-- If a path behind a place is read, the place ends there as it ends without the path. -/
theorem takeWhile_of_readAuthority {rest : List Char} {parts : String × Option UInt16}
    (control : ∀ char ∈ behind, char.toNat ≤ 0x20)
    (read : readAuthority isSecure ((place ++ behind ++ '/' :: rest).takeWhile
      fun char => !isSlash char && char != '?' && char != '#') = some parts) (slashes : Nat) :
    (place ++ behind ++ '/' :: rest).takeWhile
        (fun char => !isSlash char && char != '?' && char != '#') =
      (place ++ List.replicate slashes '/').takeWhile
        fun char => !isSlash char && char != '?' && char != '#' := by
  by_cases alone : StandsAlone place
  · have standsAlone : StandsAlone (place ++ behind) := by
      intro char member
      rcases List.mem_append.mp member with front | back
      · exact alone char front
      · exact Text.of_codes (fun char => (!isSlash char && char != '?' && char != '#') = true)
          (by decide) (Nat.lt_succ_of_le (control char back))
    rw [takeWhile_of_standsAlone standsAlone] at read ⊢
    have nothing : behind = [] := by
      by_contra present
      rw [readAuthority_append_eq_none present control] at read
      cases read
    rw [takeWhile_append_slashes alone, nothing, List.append_nil]
  · -- The place ends inside what both have in common.
    have within (more : List Char) : (place ++ more).takeWhile
        (fun char => !isSlash char && char != '?' && char != '#') =
          place.takeWhile fun char => !isSlash char && char != '?' && char != '#' := by
      rw [List.takeWhile_append, if_neg]
      intro whole
      exact alone (List.takeWhile_eq_self_iff.mp
        ((List.takeWhile_prefix _).eq_of_length whole))
    rw [List.append_assoc, within, within]

/-- Where the place of an address ends does not depend on the path: the address itself may end
there, with any slashes, or go on. -/
theorem readAfterSlashes_host_port {slashes : Nat} {rest : List Char} {home url : Url}
    (control : ∀ char ∈ behind, char.toNat ≤ 0x20)
    (read : readAfterSlashes isSecure (place ++ List.replicate slashes '/') = some home)
    (reads : readAfterSlashes isSecure (place ++ behind ++ '/' :: rest) = some url) :
    (url.isSecure, url.host, url.port) = (home.isSecure, home.host, home.port) := by
  obtain ⟨secure, authority⟩ := readAfterSlashes_eq_some read
  obtain ⟨secures, authorities⟩ := readAfterSlashes_eq_some reads
  rw [takeWhile_of_readAuthority control authorities slashes, authority] at authorities
  rw [secure, secures]
  exact congrArg (isSecure, ·) (Option.some.inj authorities).symm

end Places

section Addresses

variable {text longer : String} {base rest : List Char} {slashes : Nat}

/-- An address is the common part and its slashes, but for blanks that only the common part
ends in. -/
theorem exists_cleaned_of_slashes (whole : text.toList = base ++ List.replicate slashes '/')
    (present : base.dropWhile isControlOrSpace ≠ []) :
    ∃ kept blanks, cleaned text = kept ++ List.replicate slashes '/' ∧
      (base.dropWhile isControlOrSpace).filter (!isLineChar ·) = kept ++ blanks ∧
      ∀ char ∈ blanks, char.toNat ≤ 0x20 := by
  cases slashes with
  | zero =>
      let front := base.dropWhile isControlOrSpace
      have parts : front.rdropWhile isControlOrSpace ++ front.rtakeWhile isControlOrSpace =
          front :=
        List.rdropWhile_append_rtakeWhile
      refine ⟨(front.rdropWhile isControlOrSpace).filter (!isLineChar ·),
        (front.rtakeWhile isControlOrSpace).filter (!isLineChar ·), ?_, ?_, ?_⟩
      · rw [cleaned_eq, whole, List.replicate_zero, List.append_nil, List.append_nil]
      · exact (congrArg (List.filter _) parts.symm).trans (List.filter_append _ _)
      · intro char member
        have blank := List.mem_rtakeWhile_imp (List.mem_of_mem_filter member)
        exact of_decide_eq_true blank
  | succ count =>
      have last : (List.replicate count '/').rdropWhile isControlOrSpace =
          List.replicate count '/' := by
        refine List.rdropWhile_eq_self_iff.mpr fun filled => ?_
        rw [List.getLast_replicate]
        decide
      refine ⟨_, [], ?_, (List.append_nil _).symm, fun _ member => nomatch member⟩
      rw [cleaned_of_slash (whole.trans (by rw [List.replicate_succ])) present, last,
        List.filter_replicate_of_pos (by decide), List.replicate_succ]

variable [Host.Domains] [Host.LawfulDomains]

/-- With a path in place of the slashes at its end, an address leads where it led before. -/
theorem read?_host_port (whole : text.toList = base ++ List.replicate slashes '/')
    (goesOn : longer.toList = base ++ '/' :: rest) {home url : Url}
    (read : read? text = some (.web home)) (reads : read? longer = some (.web url)) :
    (url.isSecure, url.host, url.port) = (home.isSecure, home.host, home.port) := by
  obtain ⟨scheme, after, isSecure, split, web, made⟩ := exists_splitScheme_of_read? read
  obtain ⟨front, chars, noColon, letter, allowed, rfl⟩ := splitScheme_eq_some.mp split
  have present : base.dropWhile isControlOrSpace ≠ [] := by
    intro nothing
    have colon : ':' ∈ text.toList := mem_of_mem_cleaned (by simp [chars])
    rw [whole, List.mem_append] at colon
    rcases colon with inside | among
    · exact absurd (List.dropWhile_eq_nil_iff.mp nothing ':' inside) (by decide)
    · exact absurd (List.eq_of_mem_replicate among) (by decide)
  obtain ⟨kept, blanks, shape, common, control⟩ := exists_cleaned_of_slashes whole present
  -- The colon behind the scheme is in the part that both addresses have in common.
  obtain ⟨remains, rfl, rfl⟩ : ∃ remains, kept = front ++ ':' :: remains ∧
      after = remains ++ List.replicate slashes '/' := by
    have notAmong : ':' ∉ List.replicate slashes '/' := fun among =>
      absurd (List.eq_of_mem_replicate among) (by decide)
    rw [shape] at chars
    rcases List.append_eq_append_iff.mp chars with ⟨missing, -, others⟩ | ⟨missing, same, others⟩
    · exact absurd (others ▸ List.mem_append_right _ List.mem_cons_self) notAmong
    · cases missing with
      | nil =>
          rw [List.nil_append] at others
          exact absurd (others ▸ List.mem_cons_self) notAmong
      | cons colon remains =>
          obtain ⟨rfl, more⟩ := List.cons.inj others
          exact ⟨remains, same, more⟩
  have longSplit : splitScheme (cleaned longer) = some (front.map Char.toLower,
      remains ++ blanks ++ '/' :: (rest.rdropWhile isControlOrSpace).filter (!isLineChar ·)) := by
    refine splitScheme_eq_some.mpr ⟨front, ?_, noColon, letter, allowed, rfl⟩
    rw [cleaned_of_slash goesOn present, common]
    simp
  rw [read?_of_splitScheme longSplit web] at reads
  obtain ⟨found, longMade, same⟩ := Option.map_eq_some_iff.mp reads
  cases same
  by_cases nothing : remains.dropWhile isSlash = []
  · -- Without a place the address itself would not have been read.
    have empty : (remains ++ List.replicate slashes '/').dropWhile isSlash = [] := by
      rw [List.dropWhile_append_of_pos (List.dropWhile_eq_nil_iff.mp nothing)]
      exact List.dropWhile_eq_nil_iff.mpr fun char member =>
        List.eq_of_mem_replicate member ▸ by decide
    rw [empty] at made
    have authority := (readAfterSlashes_eq_some made).2
    rw [List.takeWhile_nil, readAuthority_nil] at authority
    cases authority
  · rw [List.dropWhile_append, if_neg (by simpa using nothing)] at made
    rw [List.append_assoc, List.dropWhile_append, if_neg (by simpa using nothing),
      ← List.append_assoc] at longMade
    exact readAfterSlashes_host_port control made longMade

end Addresses

/-- An address that is a scheme, a place and slashes is read as the host and port of the
place. -/
theorem exists_read?_of_place [Host.Domains] [Host.LawfulDomains] {text : String} {scheme place : List Char} {slashes : Nat}
    {isSecure : Bool} (web : webScheme? scheme = some isSecure) (alone : StandsAlone place)
    {host : String} {port : Option UInt16}
    (authority : readAuthority isSecure (place.filter (!isLineChar ·)) = some (host, port))
    (whole : text.toList = scheme ++ "://".toList ++ place ++ List.replicate slashes '/') :
    ∃ home, read? text = some (.web home) ∧
      (home.isSecure, home.host, home.port) = (isSecure, host, port) := by
  have base : (scheme ++ "://".toList ++ place).dropWhile isControlOrSpace =
      scheme ++ "://".toList ++ place := by
    rw [List.append_assoc, dropWhile_of_webScheme? web]
  have present : (scheme ++ "://".toList ++ place).dropWhile isControlOrSpace ≠ [] := by
    rw [base]
    simp
  obtain ⟨kept, blanks, shape, common, control⟩ := exists_cleaned_of_slashes whole present
  rw [base, List.filter_append, List.filter_append, (facts_of_webScheme? web).2.1] at common
  have standing := alone.filter (!isLineChar ·)
  generalize place.filter (!isLineChar ·) = named at authority common standing
  -- Blanks at the end would be part of the place, and the place would be refused.
  have tidy {front : List Char} (parts : named = front ++ blanks) : blanks = [] := by
    by_contra some
    rw [parts, readAuthority_append_eq_none some control] at authority
    cases authority
  obtain rfl : kept = scheme ++ "://".toList ++ named := by
    rcases List.append_eq_append_iff.mp common with ⟨more, same, parts⟩ | ⟨more, -, parts⟩
    · rw [same, parts, tidy parts, List.append_nil]
      rfl
    · have unread : readAuthority isSecure ([] ++ named) = none :=
        readAuthority_append_eq_none (ne_nil_of_readAuthority authority) fun char member =>
          control char (parts ▸ List.mem_append_right _ member)
      rw [List.nil_append, authority] at unread
      cases unread
  rw [List.append_assoc] at shape
  rw [read?_of_cleaned web standing (ne_nil_of_readAuthority authority) shape, readAfterSlashes,
    takeWhile_append_slashes standing, authority]
  exact ⟨_, rfl, rfl⟩

end Url

end ServiceGroups
