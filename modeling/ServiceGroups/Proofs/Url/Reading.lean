import Mathlib.Data.List.DropRight
import ServiceGroups.Proofs.Text.Form
import ServiceGroups.Proofs.Text.Numeral
import ServiceGroups.Proofs.Url.Host
import ServiceGroups.Url.Reader

/-!
# Reading web addresses

An address is a scheme, a place and what follows the place.  Where the place ends is decided
by the first slash, question mark or number sign behind it, so that a path put behind it does
not change what is read as host and port.  Segments of ordinary characters are read as they
are.
-/

namespace ServiceGroups

namespace Url

/-- The character stands for itself in a segment of a path. -/
def isOrdinary (char : Char) : Bool :=
  char.toNat < 128 && isPathPlain (UInt8.ofNat char.toNat) &&
    ['/', '\\', '%', '.', '?', '#'].all (char != ·)

theorem lt_toNat_of_isOrdinary {char : Char} (ordinary : isOrdinary char = true) :
    0x20 < char.toNat := by
  by_contra small
  have special : isOrdinary char = false :=
    Text.of_codes (isOrdinary · = false) (by decide) (Nat.lt_succ_of_le (Nat.le_of_not_lt small))
  rw [ordinary] at special
  cases special

section Segments

variable {segment : List Char}

theorem ne_of_isOrdinary {char other : Char} (ordinary : isOrdinary char = true)
    (special : isOrdinary other = false) : char ≠ other := by
  rintro rfl
  rw [ordinary] at special
  cases special

theorem not_mem_of_ordinary {other : Char} (ordinary : ∀ char ∈ segment, isOrdinary char = true)
    (special : isOrdinary other = false) : other ∉ segment :=
  fun member => ne_of_isOrdinary (ordinary other member) special rfl

theorem plainDots_of_absent (absent : '%' ∉ segment) : plainDots segment = segment := by
  induction segment with
  | nil => rfl
  | cons char rest ih =>
      rw [List.mem_cons, not_or] at absent
      rw [plainDots, ih absent.2]
      rintro last more rfl
      exact absurd rfl absent.1

theorem percentEncode_of_ordinary (ordinary : ∀ char ∈ segment, isOrdinary char = true) :
    Text.percentEncode isPathPlain (String.ofList segment) = String.ofList segment := by
  have each (char : Char) (member : char ∈ segment) :
      char.toNat < 128 ∧ isPathPlain (UInt8.ofNat char.toNat) = true := by
    have here := ordinary char member
    simp only [isOrdinary, Bool.and_eq_true, decide_eq_true_eq] at here
    exact here.1
  rw [Text.percentEncode, Text.bytes_of_ascii fun char member => (each char member).1]
  congr 1
  induction segment with
  | nil => rfl
  | cons char rest ih =>
      obtain ⟨small, plain⟩ := each char List.mem_cons_self
      have same : Char.ofNat (UInt8.ofNat char.toNat).toNat = char := by
        rw [UInt8.toNat_ofNat_of_lt' (Nat.lt_trans small (by decide)), Char.ofNat_toNat]
      rw [List.map_cons, Text.percentEncodeBytes, List.flatMap_cons, if_pos plain, same]
      exact congrArg (char :: ·)
        (ih (fun other among => ordinary other (List.mem_cons_of_mem _ among))
          fun other among => each other (List.mem_cons_of_mem _ among))

theorem addSegment_of_ordinary (ordinary : ∀ char ∈ segment, isOrdinary char = true)
    (done : List String) (isLast : Bool) :
    addSegment done segment isLast = done ++ [String.ofList segment] := by
  have noDot : '.' ∉ segment := not_mem_of_ordinary ordinary (by decide)
  rw [addSegment, plainDots_of_absent (not_mem_of_ordinary ordinary (by decide))]
  split
  · exact absurd List.mem_cons_self noDot
  · exact absurd List.mem_cons_self noDot
  · rw [percentEncode_of_ordinary ordinary]

theorem addSegments_of_ordinary {segments : List (List Char)}
    (ordinary : ∀ segment ∈ segments, ∀ char ∈ segment, isOrdinary char = true)
    (done : List String) : addSegments done segments = done ++ segments.map String.ofList := by
  induction segments generalizing done with
  | nil => simp [addSegments]
  | cons segment rest ih =>
      have here := addSegment_of_ordinary (ordinary segment List.mem_cons_self) done
      cases rest with
      | nil => simpa [addSegments] using here true
      | cons next others =>
          rw [addSegments, here false,
            ih fun other member => ordinary other (List.mem_cons_of_mem _ member)]
          · simp
          · exact List.cons_ne_nil _ _

end Segments

/-- The characters of a path. -/
def pathChars (segments : List String) : List Char :=
  '/' :: List.intercalate ['/'] (segments.map String.toList)

/-- The path is written as its segments, each behind a slash. -/
theorem toList_pathText {url : Url} (present : url.path ≠ []) :
    url.pathText.toList = pathChars url.path := by
  rw [pathText, String.toList_join, pathChars]
  generalize url.path = segments at present
  induction segments with
  | nil => exact absurd rfl present
  | cons segment rest ih =>
      cases rest with
      | nil => simp
      | cons next others =>
          rw [List.map_cons, List.flatMap_cons, ih (List.cons_ne_nil _ _)]
          simp [List.intercalate_cons_cons]

/-- The segments make a path of ordinary characters. -/
structure Ordinary (segments : List String) : Prop where
  present : segments ≠ []
  chars : ∀ segment ∈ segments, ∀ char ∈ segment.toList, isOrdinary char = true

namespace Ordinary

theorem of_all {segments : List String} (present : segments ≠ [])
    (plain : segments.all (·.toList.all isOrdinary) = true) : Ordinary segments where
  present := present
  chars segment member := List.all_eq_true.mp (List.all_eq_true.mp plain segment member)

theorem append {first second : List String} (front : Ordinary first) (back : Ordinary second) :
    Ordinary (first ++ second) where
  present := by simp [front.present]
  chars segment member := (List.mem_append.mp member).elim (front.chars segment)
    (back.chars segment)

variable {segments : List String} (ordinary : Ordinary segments)

include ordinary

theorem of_mem_pathChars {char : Char} (member : char ∈ pathChars segments) :
    char = '/' ∨ isOrdinary char = true := by
  rcases List.mem_cons.mp member with slash | inside
  · exact .inl slash
  · refine (Text.mem_intercalate inside).imp_right fun ⟨piece, among, within⟩ => ?_
    obtain ⟨segment, listed, rfl⟩ := List.mem_map.mp among
    exact ordinary.chars segment listed char within

theorem not_mem_pathChars {char : Char} (special : isOrdinary char = false) (other : char ≠ '/') :
    char ∉ pathChars segments := by
  intro member
  rcases ordinary.of_mem_pathChars member with slash | plain
  · exact other slash
  · rw [plain] at special
    cases special

/-- A path of ordinary segments is read as these segments. -/
theorem addSegments_pathChars :
    addSegments [] (splitAtSlashes ((pathChars segments).drop 1)) = segments := by
  have unchanged : ((pathChars segments).drop 1).map
      (fun char => if char = '\\' then '/' else char) =
        List.intercalate ['/'] (segments.map String.toList) := by
    refine (List.map_congr_left fun char member => ?_).trans (List.map_id _)
    have notBackslash : char ≠ '\\' := by
      rintro rfl
      exact ordinary.not_mem_pathChars (by decide) (by decide) (List.mem_cons_of_mem _ member)
    exact if_neg notBackslash
  have noSlash : ∀ piece ∈ segments.map String.toList, '/' ∉ piece := by
    intro piece member
    obtain ⟨segment, listed, rfl⟩ := List.mem_map.mp member
    exact not_mem_of_ordinary (ordinary.chars segment listed) (by decide)
  rw [splitAtSlashes, unchanged,
    Text.splitAtEach_intercalate (by simpa using ordinary.present) noSlash,
    addSegments_of_ordinary, List.nil_append, List.map_map]
  · simp
  · intro piece member
    obtain ⟨segment, listed, rfl⟩ := List.mem_map.mp member
    exact ordinary.chars segment listed

theorem splitTail_pathChars : splitTail (pathChars segments) = (pathChars segments, none) := by
  have noFragment : (pathChars segments).takeWhile (· != '#') = pathChars segments :=
    List.takeWhile_eq_self_iff.mpr fun char member => bne_iff_ne.mpr fun same =>
      ordinary.not_mem_pathChars (by decide) (by decide) (same ▸ member)
  have noQuery : (pathChars segments).takeWhile (· != '?') = pathChars segments :=
    List.takeWhile_eq_self_iff.mpr fun char member => bne_iff_ne.mpr fun same =>
      ordinary.not_mem_pathChars (by decide) (by decide) (same ▸ member)
  simp only [splitTail, noFragment, noQuery, List.drop_length]
  rfl

end Ordinary

section Authorities

variable [Host.Domains]

theorem readAuthority_nil [Host.LawfulDomains] {isSecure : Bool} :
    readAuthority isSecure [] = none := by
  have place : hostPart false (afterUser []) = [] := by decide
  rw [readAuthority, place, Host.read?_nil]
  rfl

/-- What has been read of an authority is the host and the port of the address. -/
theorem readAfterSlashes_eq_some {isSecure : Bool} {chars : List Char} {url : Url}
    (read : readAfterSlashes isSecure chars = some url) :
    url.isSecure = isSecure ∧
      readAuthority isSecure
          (chars.takeWhile fun char => !isSlash char && char != '?' && char != '#') =
        some (url.host, url.port) := by
  simp only [readAfterSlashes, Option.bind_eq_bind, Option.bind_eq_some_iff] at read
  obtain ⟨⟨host, port⟩, authority, made⟩ := read
  cases made
  exact ⟨rfl, authority⟩

end Authorities

/-- The place ends where the address goes on with a path. -/
def StandsAlone (place : List Char) : Prop :=
  ∀ char ∈ place, (!isSlash char && char != '?' && char != '#') = true

theorem StandsAlone.filter {place : List Char} (alone : StandsAlone place) (keeps : Char → Bool) :
    StandsAlone (place.filter keeps) :=
  fun char member => alone char (List.mem_of_mem_filter member)

theorem takeWhile_of_standsAlone {place : List Char} (alone : StandsAlone place)
    (rest : List Char) :
    (place ++ '/' :: rest).takeWhile (fun char => !isSlash char && char != '?' && char != '#') =
      place := by
  rw [List.takeWhile_append_of_pos alone]
  simp [isSlash]

theorem readAfterSlashes_of_standsAlone [Host.Domains] {isSecure : Bool} {place : List Char}
    (alone : StandsAlone place) {host : String} {port : Option UInt16}
    (read : readAuthority isSecure place = some (host, port)) {segments : List String}
    (ordinary : Ordinary segments) :
    readAfterSlashes isSecure (place ++ pathChars segments) =
      some ⟨isSecure, host, port, segments, none⟩ := by
  have authority : (place ++ pathChars segments).takeWhile
      (fun char => !isSlash char && char != '?' && char != '#') = place :=
    takeWhile_of_standsAlone alone _
  rw [readAfterSlashes, authority, List.drop_left, ordinary.splitTail_pathChars, read]
  simp only [Option.bind_eq_bind, Option.bind_some, ordinary.addSegments_pathChars,
    Option.map_none]

/-- May the character stand in a scheme? -/
def isSchemeChar (char : Char) : Bool :=
  char.isAlphanum || char == '+' || char == '-' || char == '.'

/-- The scheme is what stands in front of the first colon, if it has the form of one. -/
theorem splitScheme_eq_some {chars scheme rest : List Char} :
    splitScheme chars = some (scheme, rest) ↔
      ∃ front, chars = front ++ ':' :: rest ∧ ':' ∉ front ∧
        front.head?.any Char.isAlpha = true ∧ front.all isSchemeChar = true ∧
        scheme = front.map Char.toLower := by
  constructor
  · intro split
    unfold splitScheme at split
    simp only [Option.ite_none_right_eq_some, Option.some.injEq, Prod.mk.injEq, Bool.and_eq_true,
      decide_eq_true_eq] at split
    obtain ⟨⟨⟨shorter, letter⟩, allowed⟩, rfl, rfl⟩ := split
    have absent : ':' ∉ chars.takeWhile (· != ':') := fun member => by
      simpa using List.mem_takeWhile_imp member
    have whole : chars.takeWhile (· != ':') ++ chars.dropWhile (· != ':') = chars :=
      List.takeWhile_append_dropWhile
    have remains : chars.dropWhile (· != ':') ≠ [] := by
      intro nothing
      rw [nothing, List.append_nil] at whole
      rw [whole] at shorter
      exact Nat.lt_irrefl _ shorter
    have colon := List.head_dropWhile_not (· != ':') remains
    obtain ⟨first, rest, same⟩ := List.exists_cons_of_ne_nil remains
    simp only [same, List.head_cons, bne_eq_false_iff_eq] at colon
    rw [same, colon] at whole
    have dropped : chars.drop ((chars.takeWhile (· != ':')).length + 1) = rest := by
      generalize chars.takeWhile (· != ':') = front at whole ⊢
      subst whole
      simp
    exact ⟨_, dropped ▸ whole.symm, absent, letter, allowed, rfl⟩
  · rintro ⟨front, rfl, absent, letter, allowed, rfl⟩
    have before : ∀ char ∈ front, (char != ':') = true := fun char member =>
      bne_iff_ne.mpr fun same => absent (same ▸ member)
    have taken : (front ++ ':' :: rest).takeWhile (· != ':') = front := by
      rw [List.takeWhile_append_of_pos before]
      simp
    have allowed' : front.all (fun char =>
        char.isAlphanum || char == '+' || char == '-' || char == '.') = true := allowed
    simp [splitScheme, taken, letter, allowed']

theorem cleaned_eq (text : String) :
    cleaned text = ((text.toList.dropWhile isControlOrSpace).rdropWhile isControlOrSpace).filter
      (!isLineChar ·) :=
  rfl

theorem mem_of_mem_cleaned {text : String} {char : Char} (member : char ∈ cleaned text) :
    char ∈ text.toList := by
  rw [cleaned_eq] at member
  exact (List.dropWhile_suffix _).mem
    ((List.rdropWhile_prefix _ _).mem (List.mem_of_mem_filter member))

theorem rdropWhile_append_cons {drops : Char → Bool} {middle : Char}
    (stays : drops middle = false) (front rest : List Char) :
    (front ++ middle :: rest).rdropWhile drops = front ++ middle :: rest.rdropWhile drops := by
  induction rest using List.reverseRecOn with
  | nil =>
      rw [List.rdropWhile_concat_neg _ _ _ (Bool.eq_false_iff.mp stays)]
      simp
  | append_singleton rest last ih =>
      rw [← List.cons_append, ← List.append_assoc, List.rdropWhile_concat, ih,
        List.rdropWhile_concat]
      split <;> simp

/-- What is dropped from the ends of an address with a slash stands before what comes first and
behind the slash. -/
theorem cleaned_of_slash {text : String} {base rest : List Char}
    (whole : text.toList = base ++ '/' :: rest) (present : base.dropWhile isControlOrSpace ≠ []) :
    cleaned text = (base.dropWhile isControlOrSpace).filter (!isLineChar ·) ++
      '/' :: (rest.rdropWhile isControlOrSpace).filter (!isLineChar ·) := by
  have front : (base ++ '/' :: rest).dropWhile isControlOrSpace =
      base.dropWhile isControlOrSpace ++ '/' :: rest := by
    rw [List.dropWhile_append, if_neg (by simpa using present)]
  rw [cleaned_eq, whole, front, rdropWhile_append_cons (by decide), List.filter_append,
    List.filter_cons_of_pos (by decide)]

/-- A path of ordinary segments is left as it is. -/
theorem Ordinary.cleaned_pathChars {segments : List String} (ordinary : Ordinary segments)
    {text : String} {base : List Char} (whole : text.toList = base ++ pathChars segments)
    (present : base.dropWhile isControlOrSpace ≠ []) :
    cleaned text =
      (base.dropWhile isControlOrSpace).filter (!isLineChar ·) ++ pathChars segments := by
  have visible : ∀ char ∈ pathChars segments, 0x20 < char.toNat := by
    intro char member
    rcases ordinary.of_mem_pathChars member with rfl | plain
    · decide
    · exact lt_toNat_of_isOrdinary plain
  let rest := List.intercalate ['/'] (segments.map String.toList)
  have kept : rest.rdropWhile isControlOrSpace = rest := by
    refine List.rdropWhile_eq_self_iff.mpr fun filled => ?_
    have large := visible _ (List.mem_cons_of_mem _ (List.getLast_mem filled))
    simpa [isControlOrSpace] using large
  have whole' : rest.filter (!isLineChar ·) = rest := by
    refine List.filter_eq_self.mpr fun char member => ?_
    have large := visible char (List.mem_cons_of_mem _ member)
    rw [Bool.not_eq_true', Bool.eq_false_iff]
    intro line
    simp only [isLineChar, Bool.or_eq_true, beq_iff_eq] at line
    rcases line with (rfl | rfl) | rfl <;> exact absurd large (by decide)
  rw [cleaned_of_slash whole present, kept, whole']
  rfl

section Schemes

variable [Host.Domains]

/-- Without a base an address of the web is read from its place on. -/
theorem read?_of_splitScheme {text : String} {scheme rest : List Char} {isSecure : Bool}
    (split : splitScheme (cleaned text) = some (scheme, rest))
    (web : webScheme? scheme = some isSecure) :
    read? text = (readAfterSlashes isSecure (rest.dropWhile isSlash)).map .web := by
  rw [read?, readFrom, split]
  simp only [web, Option.filter_none]

/-- An address of the web that is read has a scheme of the web. -/
theorem exists_splitScheme_of_read? {text : String} {url : Url}
    (read : read? text = some (.web url)) :
    ∃ scheme rest isSecure, splitScheme (cleaned text) = some (scheme, rest) ∧
      webScheme? scheme = some isSecure ∧
      readAfterSlashes isSecure (rest.dropWhile isSlash) = some url := by
  cases split : splitScheme (cleaned text) with
  | none =>
      rw [read?, readFrom, split] at read
      cases read
  | some parts =>
      obtain ⟨scheme, rest⟩ := parts
      cases web : webScheme? scheme with
      | none =>
          rw [read?, readFrom, split] at read
          simp only [web] at read
          cases read
      | some isSecure =>
          rw [read?_of_splitScheme split web] at read
          obtain ⟨found, made, same⟩ := Option.map_eq_some_iff.mp read
          cases same
          exact ⟨scheme, rest, isSecure, rfl, web, made⟩

end Schemes

/-- The scheme of a web address has the form of a scheme as it is. -/
theorem facts_of_webScheme? {scheme : List Char} {isSecure : Bool}
    (web : webScheme? scheme = some isSecure) :
    scheme.dropWhile isControlOrSpace = scheme ∧ scheme.filter (!isLineChar ·) = scheme ∧
      ':' ∉ scheme ∧ scheme.head?.any Char.isAlpha = true ∧ scheme.all isSchemeChar = true ∧
      scheme.map Char.toLower = scheme := by
  have known : scheme = "http".toList ∨ scheme = "https".toList := by
    unfold webScheme? at web
    split at web
    · exact .inl ‹_›
    · split at web
      · exact .inr ‹_›
      · cases web
  rcases known with rfl | rfl <;> decide

section Composed

variable {text : String} {scheme place : List Char} {isSecure : Bool}

theorem dropWhile_of_webScheme? (web : webScheme? scheme = some isSecure) (rest : List Char) :
    (scheme ++ rest).dropWhile isControlOrSpace = scheme ++ rest := by
  obtain ⟨front, -, -, letter, -, -⟩ := facts_of_webScheme? web
  have filled : scheme ≠ [] := by
    rintro rfl
    cases letter
  rw [List.dropWhile_append, front, if_neg (by simpa using filled)]

variable [Host.Domains]

/-- Of what is left of an address, the slashes behind the scheme are skipped and no others. -/
theorem read?_of_cleaned {tail : List Char} (web : webScheme? scheme = some isSecure)
    (alone : StandsAlone place) (present : place ≠ [])
    (shape : cleaned text = scheme ++ "://".toList ++ (place ++ tail)) :
    read? text = (readAfterSlashes isSecure (place ++ tail)).map .web := by
  obtain ⟨-, -, noColon, letter, allowed, lower⟩ := facts_of_webScheme? web
  have split : splitScheme (cleaned text) = some (scheme, '/' :: '/' :: (place ++ tail)) := by
    refine splitScheme_eq_some.mpr ⟨scheme, ?_, noColon, letter, allowed, lower.symm⟩
    rw [shape]
    simp
  have slashes : ('/' :: '/' :: (place ++ tail)).dropWhile isSlash = place ++ tail := by
    obtain ⟨first, more, rfl⟩ := List.exists_cons_of_ne_nil present
    have here := alone first List.mem_cons_self
    simp only [Bool.and_eq_true, Bool.not_eq_true'] at here
    rw [List.dropWhile_cons_of_pos (by decide), List.dropWhile_cons_of_pos (by decide),
      List.cons_append, List.dropWhile_cons_of_neg (by simp [here.1.1])]
  rw [read?_of_splitScheme split web, slashes]

variable [Host.LawfulDomains]

theorem ne_nil_of_readAuthority {named : List Char} {parts : String × Option UInt16}
    (authority : readAuthority isSecure named = some parts) : named ≠ [] := by
  rintro rfl
  rw [readAuthority_nil] at authority
  cases authority

/-- An address of a scheme, a place and a path of ordinary segments leads to that path. -/
theorem read?_of_place (web : webScheme? scheme = some isSecure) (alone : StandsAlone place)
    {host : String} {port : Option UInt16}
    (authority : readAuthority isSecure (place.filter (!isLineChar ·)) = some (host, port))
    {segments : List String} (ordinary : Ordinary segments)
    (whole : text.toList = scheme ++ "://".toList ++ place ++ pathChars segments) :
    read? text = some (.web ⟨isSecure, host, port, segments, none⟩) := by
  have base : (scheme ++ "://".toList ++ place).dropWhile isControlOrSpace =
      scheme ++ "://".toList ++ place := by
    rw [List.append_assoc, dropWhile_of_webScheme? web]
  have present : (scheme ++ "://".toList ++ place).dropWhile isControlOrSpace ≠ [] := by
    rw [base]
    simp
  have shape : cleaned text =
      scheme ++ "://".toList ++ (place.filter (!isLineChar ·) ++ pathChars segments) := by
    rw [ordinary.cleaned_pathChars whole present, base, List.filter_append,
      List.filter_append, (facts_of_webScheme? web).2.1, ← List.append_assoc]
    rfl
  rw [read?_of_cleaned web (alone.filter _) (ne_nil_of_readAuthority authority) shape,
    readAfterSlashes_of_standsAlone (alone.filter _) authority ordinary]
  rfl

end Composed

end Url

end ServiceGroups
