import ServiceGroups.Proofs.Url.Origin

/-!
# Addresses with and without a place

Slashes behind the scheme of an address are skipped, however many there are, and so are tabs
and line breaks.  If anything else stands there, it is the place of the address, and a path
behind the address leads there only if the address does by itself.  Otherwise the address leads
nowhere, but with a path behind it the first segment of the path becomes the place.
-/

namespace ServiceGroups

namespace Url

/-- The character has a meaning behind a scheme: it is neither skipped nor ignored. -/
def IsPlaceChar (char : Char) : Prop :=
  isSlash char = false ∧ isLineChar char = false

instance : DecidablePred IsPlaceChar :=
  fun char => inferInstanceAs (Decidable (isSlash char = false ∧ isLineChar char = false))

/-- Something that has a meaning stands behind the first colon of the address. -/
def NamesPlace (address : String) : Prop :=
  ∃ char ∈ (Text.splitAtFirst ':' address.toList).2, IsPlaceChar char

instance (address : String) : Decidable (NamesPlace address) :=
  List.decidableBEx IsPlaceChar (Text.splitAtFirst ':' address.toList).2

theorem exists_readAfterSlashes [Host.Domains] {isSecure : Bool} {chars : List Char} {host : String}
    {port : Option UInt16}
    (authority : readAuthority isSecure (chars.takeWhile
      fun char => !isSlash char && char != '?' && char != '#') = some (host, port)) :
    ∃ url, readAfterSlashes isSecure chars = some url ∧
      (url.isSecure, url.host, url.port) = (isSecure, host, port) := by
  rw [readAfterSlashes, authority]
  exact ⟨_, rfl, rfl⟩

section Addresses

variable {isSecure : Bool} {scheme after rest : List Char} {address longer : String}
  {slashes : Nat} (web : webScheme? scheme = some isSecure)

include web

/-- An address with a scheme of the web is read from what is no slash behind the scheme. -/
theorem read?_of_webScheme [Host.Domains] {text : String} (shape : cleaned text = scheme ++ ':' :: rest) :
    read? text = (readAfterSlashes isSecure (rest.dropWhile isSlash)).map .web := by
  obtain ⟨-, -, noColon, letter, allowed, lower⟩ := facts_of_webScheme? web
  exact read?_of_splitScheme
    (splitScheme_eq_some.mpr ⟨scheme, shape, noColon, letter, allowed, lower.symm⟩) web

theorem filter_scheme_append (rest : List Char) :
    ((scheme ++ ':' :: rest).dropWhile isControlOrSpace).filter (!isLineChar ·) =
      scheme ++ ':' :: rest.filter (!isLineChar ·) := by
  rw [dropWhile_of_webScheme? web, List.filter_append, (facts_of_webScheme? web).2.1,
    List.filter_cons_of_pos (by decide)]

theorem scheme_append_ne_nil (rest : List Char) :
    (scheme ++ ':' :: rest).dropWhile isControlOrSpace ≠ [] := by
  rw [dropWhile_of_webScheme? web]
  simp

theorem cleaned_of_path (goesOn : longer.toList = scheme ++ ':' :: after ++ '/' :: rest) :
    cleaned longer = scheme ++ ':' :: (after.filter (!isLineChar ·) ++
      '/' :: (rest.rdropWhile isControlOrSpace).filter (!isLineChar ·)) := by
  rw [cleaned_of_slash goesOn (scheme_append_ne_nil web after), filter_scheme_append web,
    List.append_assoc, List.cons_append]

/-- Of what stands behind the scheme, only blanks at the end can be missing without a path. -/
theorem exists_cleaned_of_webScheme
    (whole : address.toList = scheme ++ ':' :: after ++ List.replicate slashes '/') :
    ∃ kept blanks, cleaned address = scheme ++ ':' :: (kept ++ List.replicate slashes '/') ∧
      after.filter (!isLineChar ·) = kept ++ blanks ∧ ∀ char ∈ blanks, char.toNat ≤ 0x20 := by
  obtain ⟨front, blanks, shape, common, control⟩ :=
    exists_cleaned_of_slashes whole (scheme_append_ne_nil web after)
  rw [filter_scheme_append web] at common
  have notBlank : ':' ∉ blanks := fun member => absurd (control ':' member) (by decide)
  rcases List.append_eq_append_iff.mp common with ⟨more, same, parts⟩ | ⟨more, -, parts⟩
  · cases more with
    | nil =>
        rw [List.nil_append] at parts
        exact absurd (parts ▸ List.mem_cons_self) notBlank
    | cons colon kept =>
        obtain ⟨rfl, behind⟩ := List.cons.inj parts
        refine ⟨kept, blanks, ?_, behind, control⟩
        rw [shape, same, List.append_assoc, List.cons_append]
  · rw [parts] at notBlank
    exact absurd (List.mem_append_right _ List.mem_cons_self) notBlank

variable (whole : address.toList = scheme ++ ':' :: after ++ List.replicate slashes '/')
  (goesOn : longer.toList = scheme ++ ':' :: after ++ '/' :: rest)

include whole

theorem namesPlace_iff : NamesPlace address ↔ ∃ char ∈ after, IsPlaceChar char := by
  have split : (Text.splitAtFirst ':' address.toList).2 = after ++ List.replicate slashes '/' := by
    rw [whole, List.append_assoc, List.cons_append,
      Text.splitAtFirst_append (facts_of_webScheme? web).2.2.1]
  rw [NamesPlace, split]
  constructor
  · rintro ⟨char, member, meant⟩
    rcases List.mem_append.mp member with inside | among
    · exact ⟨char, inside, meant⟩
    · rw [List.eq_of_mem_replicate among] at meant
      exact absurd meant (by decide)
  · rintro ⟨char, member, meant⟩
    exact ⟨char, List.mem_append_left _ member, meant⟩

variable [Host.Domains] [Host.LawfulDomains]

include goesOn

/-- If an address with a place is read with a path behind it, it is read without the path. -/
theorem exists_read?_of_namesPlace (named : NamesPlace address) {url : Url}
    (reads : read? longer = some (.web url)) : ∃ home, read? address = some (.web home) := by
  obtain ⟨kept, blanks, shape, parts, control⟩ := exists_cleaned_of_webScheme web whole
  rw [read?_of_webScheme web (cleaned_of_path web goesOn)] at reads
  obtain ⟨found, made, -⟩ := Option.map_eq_some_iff.mp reads
  have stops : (after.filter (!isLineChar ·)).dropWhile isSlash ≠ [] := by
    obtain ⟨char, member, notSlash, notLine⟩ := (namesPlace_iff web whole).mp named
    intro nothing
    have slash := List.dropWhile_eq_nil_iff.mp nothing char
      (List.mem_filter.mpr ⟨member, by rw [notLine]; rfl⟩)
    rw [notSlash] at slash
    cases slash
  rw [List.dropWhile_append, if_neg (by simpa using stops), parts, List.dropWhile_append] at made
  rw [read?_of_webScheme web shape, List.dropWhile_append]
  by_cases skipped : kept.dropWhile isSlash = []
  · -- What is left in front of the path are blanks, which are no place.
    have blank : blanks.dropWhile isSlash = blanks := by
      refine List.dropWhile_eq_self_iff.mpr fun filled slash => ?_
      have visible : ∀ char : Char, isSlash char = true → 0x20 < char.toNat := by
        intro char slash
        simp only [isSlash, Bool.or_eq_true, beq_iff_eq] at slash
        rcases slash with rfl | rfl <;> decide
      exact absurd (control _ (List.getElem_mem filled)) (Nat.not_le.mpr (visible _ slash))
    rw [if_pos (by simpa using skipped), blank] at made
    have authority := (readAfterSlashes_eq_some made).2
    rw [← List.nil_append (blanks ++ _), ← List.append_assoc] at authority
    rw [takeWhile_of_readAuthority control authority 0, List.replicate_zero, List.append_nil,
      List.takeWhile_nil, readAuthority_nil] at authority
    cases authority
  · rw [if_neg (by simpa using skipped)] at made ⊢
    have authority := (readAfterSlashes_eq_some made).2
    rw [takeWhile_of_readAuthority control authority slashes] at authority
    obtain ⟨home, read, -⟩ := exists_readAfterSlashes authority
    exact ⟨home, by rw [read]; rfl⟩

omit goesOn in
/-- An address without a place is not read. -/
theorem read?_of_not_namesPlace (bare : ¬ NamesPlace address) : read? address = none := by
  obtain ⟨kept, blanks, shape, parts, -⟩ := exists_cleaned_of_webScheme web whole
  have skipped : (kept ++ List.replicate slashes '/').dropWhile isSlash = [] := by
    refine List.dropWhile_eq_nil_iff.mpr fun char member => ?_
    rcases List.mem_append.mp member with inside | among
    · have both : char ∈ after.filter (!isLineChar ·) := parts ▸ List.mem_append_left _ inside
      obtain ⟨listed, notLine⟩ := List.mem_filter.mp both
      by_contra notSlash
      exact bare ((namesPlace_iff web whole).mpr
        ⟨char, listed, Bool.eq_false_iff.mpr notSlash, by simpa using notLine⟩)
    · rw [List.eq_of_mem_replicate among]
      decide
  have unread : readAfterSlashes isSecure [] = none := by
    rw [readAfterSlashes, List.takeWhile_nil, readAuthority_nil]
    rfl
  rw [read?_of_webScheme web shape, skipped, unread]
  rfl

/-- If an address has no place, the first segment of the path behind it is taken for one. -/
theorem exists_read?_of_not_namesPlace (bare : ¬ NamesPlace address) {segment more : List Char}
    (path : rest = segment ++ '/' :: more) (alone : StandsAlone segment)
    (plain : segment.filter (!isLineChar ·) = segment) {host : String} {port : Option UInt16}
    (authority : readAuthority isSecure segment = some (host, port)) :
    ∃ url, read? longer = some (.web url) ∧
      (url.isSecure, url.host, url.port) = (isSecure, host, port) := by
  have skipped : ∀ char ∈ after.filter (!isLineChar ·), isSlash char = true := by
    intro char member
    obtain ⟨listed, notLine⟩ := List.mem_filter.mp member
    by_contra notSlash
    exact bare ((namesPlace_iff web whole).mpr
      ⟨char, listed, Bool.eq_false_iff.mpr notSlash, by simpa using notLine⟩)
  have tail : (rest.rdropWhile isControlOrSpace).filter (!isLineChar ·) =
      segment ++ '/' :: (more.rdropWhile isControlOrSpace).filter (!isLineChar ·) := by
    rw [path, rdropWhile_append_cons (by decide), List.filter_append, plain,
      List.filter_cons_of_pos (by decide)]
  obtain ⟨first, others, rfl⟩ := List.exists_cons_of_ne_nil (ne_nil_of_readAuthority authority)
  have notSlash : isSlash first = false := by
    have here := alone first List.mem_cons_self
    simp only [Bool.and_eq_true, Bool.not_eq_true'] at here
    exact here.1.1
  rw [read?_of_webScheme web (cleaned_of_path web goesOn), tail,
    List.dropWhile_append_of_pos skipped, List.dropWhile_cons_of_pos (by decide),
    List.cons_append, List.dropWhile_cons_of_neg (by simp [notSlash]), ← List.cons_append]
  rw [← takeWhile_of_standsAlone alone] at authority
  obtain ⟨url, read, parts⟩ := exists_readAfterSlashes authority
  exact ⟨url, by rw [read]; rfl, parts⟩

end Addresses

end Url

end ServiceGroups
