import ServiceGroups.Proofs.Text.Numeral
import ServiceGroups.SocketAddress

/-!
# Written socket addresses

A socket address that is written down is read back.  Every part of the written form is followed
by a character that the part cannot contain, so each reader stops where the writer did; the
groups that are left out are the only ones that reading fills in.
-/

namespace ServiceGroups

namespace SocketAddress

/-- The text does not go on with a digit, of whatever base. -/
def EndsDigits (chars : List Char) : Prop :=
  ∀ char, chars.head? = some char → Text.hexValue? char = none

section Digits

theorem endsDigits_cons {char : Char} (rest : List Char) (other : Text.hexValue? char = none) :
    EndsDigits (char :: rest) := by
  intro head same
  obtain rfl : char = head := Option.some.inj same
  exact other

theorem endsDigits_nil : EndsDigits [] :=
  nofun

theorem hexValue?_digitChar : ∀ digit < 16, Text.hexValue? digit.digitChar = some digit := by
  decide

variable {base : Nat}

theorem head?_toDigits_ne_zero (least : 2 ≤ base) (most : base ≤ 16) {value : Nat}
    (positive : 0 < value) : (Nat.toDigits base value).head? ≠ some '0' := by
  have plain : ∀ digit < 16, 0 < digit → digit.digitChar ≠ '0' := by decide
  induction value using Nat.strongRecOn with
  | ind value ih =>
      by_cases small : value < base
      · rw [Nat.toDigits_of_lt_base small]
        exact fun same => plain value (by omega) positive (Option.some.inj same)
      · have front : 0 < value / base := Nat.div_pos (by omega) (by omega)
        intro same
        rw [Nat.toDigits_of_base_le least (by omega), List.head?_append,
          Option.or_eq_some_iff] at same
        rcases same with first | ⟨empty, -⟩
        · exact ih (value / base) (Nat.div_lt_self positive least) front first
        · exact Nat.toDigits_ne_nil (List.head?_eq_none_iff.mp empty)

theorem foldl_toDigits (least : 2 ≤ base) (most : base ≤ 16) (value : Nat) :
    (Nat.toDigits base value).foldl
      (fun sum char => base * sum + (Text.hexValue? char).getD 0) 0 = value := by
  induction value using Nat.strongRecOn with
  | ind value ih =>
      by_cases small : value < base
      · rw [Nat.toDigits_of_lt_base small]
        simp [hexValue?_digitChar value (by omega)]
      · have last := Nat.mod_lt value (show 0 < base by omega)
        rw [Nat.toDigits_of_base_le least (by omega), List.foldl_append,
          ih (value / base) (Nat.div_lt_self (by omega) least), List.foldl_cons, List.foldl_nil,
          hexValue?_digitChar _ (by omega), Option.getD_some, Nat.div_add_mod]

/-- Digits are read up to where they end. -/
theorem number_toDigits {limit value : Nat} {width : Option Nat} {zeroPrefix : Bool}
    {rest : List Char} (least : 2 ≤ base) (most : base ≤ 16) (small : value < limit)
    (short : width.all ((Nat.toDigits base value).length ≤ ·) = true) (ends : EndsDigits rest) :
    number base width zeroPrefix limit (Nat.toDigits base value ++ rest) = some (value, rest) := by
  have digit : ∀ char ∈ Nat.toDigits base value,
      (Text.hexValue? char).any (· < base) = true := by
    intro char member
    obtain ⟨digit, below, rfl⟩ := Text.exists_digitChar_of_mem_toDigits least member
    simpa [hexValue?_digitChar digit (by omega)] using below
  have stops : rest.takeWhile (fun char => (Text.hexValue? char).any (· < base)) = [] := by
    cases rest with
    | nil => rfl
    | cons char rest => exact List.takeWhile_cons_of_neg (by simp [ends char rfl])
  have run : (Nat.toDigits base value ++ rest).takeWhile
      (fun char => (Text.hexValue? char).any (· < base)) = Nat.toDigits base value := by
    rw [List.takeWhile_append_of_pos digit, stops, List.append_nil]
  have zeroFree : (zeroPrefix || (Nat.toDigits base value).head? != some '0' ||
      decide ((Nat.toDigits base value).length ≤ 1)) = true := by
    rcases Nat.eq_zero_or_pos value with rfl | positive
    · simp
    · simp [head?_toDigits_ne_zero least most positive]
  simp only [number, run, short, zeroFree, foldl_toDigits least most, small, Bool.not_true,
    Bool.or_false, List.isEmpty_eq_false_iff.mpr Nat.toDigits_ne_nil, List.drop_left, if_true,
    Bool.false_eq_true, if_false]

theorem number_of_endsDigits {width : Option Nat} {zeroPrefix : Bool} {limit : Nat}
    {chars : List Char} (ends : EndsDigits chars) :
    number base width zeroPrefix limit chars = none := by
  cases chars with
  | nil => rfl
  | cons char rest => simp [number, ends char rfl]

end Digits

section Parts

variable {rest : List Char}

theorem octet_toDigits (value : UInt8) (ends : EndsDigits rest) :
    octet (Nat.toDigits 10 value.toNat ++ rest) = some (value, rest) := by
  have small : value.toNat < 256 := value.toNat_lt
  have short : (Nat.toDigits 10 value.toNat).length ≤ 3 :=
    (Nat.length_toDigits_le_iff (by decide) (by decide)).mpr (by omega)
  rw [octet, number_toDigits (by decide) (by decide) small (by simpa using short) ends,
    Option.map_some, UInt8.ofNat_toNat]

theorem port_toDigits (value : UInt16) (ends : EndsDigits rest) :
    port (Nat.toDigits 10 value.toNat ++ rest) = some (value, rest) := by
  rw [port, number_toDigits (by decide) (by decide) value.toNat_lt rfl ends, Option.map_some,
    UInt16.ofNat_toNat]

theorem group_toDigits (value : UInt16) (ends : EndsDigits rest) :
    group (Nat.toDigits 16 value.toNat ++ rest) = some (value, rest) := by
  have small : value.toNat < 65536 := value.toNat_lt
  have short : (Nat.toDigits 16 value.toNat).length ≤ 4 :=
    (Nat.length_toDigits_le_iff (by decide) (by decide)).mpr (by omega)
  rw [group, number_toDigits (by decide) (by decide) small (by simpa using short) ends,
    Option.map_some, UInt16.ofNat_toNat]

theorem given_self (char : Char) (rest : List Char) : given char (char :: rest) = some rest :=
  if_pos rfl

theorem ipv4_ipv4Text (host : Ipv4) (ends : EndsDigits rest) :
    ipv4 (ipv4Text host ++ rest) = some (host, rest) := by
  have dot (rest : List Char) : EndsDigits ('.' :: rest) := endsDigits_cons rest (by decide)
  simp only [ipv4Text, List.append_assoc, List.cons_append, ipv4, octet_toDigits _ (dot _),
    octet_toDigits _ ends, given_self, Option.bind_eq_bind, Option.bind_some]

theorem ipv4_of_endsDigits {chars : List Char} (ends : EndsDigits chars) : ipv4 chars = none := by
  rw [ipv4, octet, number_of_endsDigits ends]
  rfl

theorem group_of_endsDigits {chars : List Char} (ends : EndsDigits chars) :
    group chars = none := by
  rw [group, number_of_endsDigits ends]
  rfl

theorem drop_length_takeWhile (digit : Char → Bool) (chars : List Char) :
    chars.drop (chars.takeWhile digit).length = chars.dropWhile digit :=
  calc chars.drop (chars.takeWhile digit).length
      = (chars.takeWhile digit ++ chars.dropWhile digit).drop
          (chars.takeWhile digit).length := by rw [List.takeWhile_append_dropWhile]
    _ = chars.dropWhile digit := List.drop_left

theorem eq_dropWhile_of_number {base limit value : Nat} {width : Option Nat} {zeroPrefix : Bool}
    {chars left : List Char}
    (read : number base width zeroPrefix limit chars = some (value, left)) :
    left = chars.dropWhile fun char => (Text.hexValue? char).any (· < base) := by
  unfold number at read
  simp only [drop_length_takeWhile] at read
  split at read
  · cases read
  · obtain ⟨-, same⟩ := Option.ite_none_right_eq_some.mp read
    exact (congrArg Prod.snd (Option.some.inj same)).symm

/-- Behind the digits at the front there is no dot, if there is none in the text or right behind
it. -/
theorem given_dot_of_dropWhile {digit : Char → Bool} {text : List Char} (plain : '.' ∉ text)
    (ends : EndsDigits rest) (undotted : rest.head? ≠ some '.')
    (digits : ∀ char, Text.hexValue? char = none → digit char = false) :
    given '.' ((text ++ rest).dropWhile digit) = none := by
  induction text with
  | nil =>
      cases rest with
      | nil => rfl
      | cons char rest =>
          rw [List.nil_append, List.dropWhile_cons_of_neg (by simp [digits char (ends char rfl)])]
          exact if_neg fun same => undotted (congrArg some same)
  | cons char text ih =>
      obtain ⟨other, plain⟩ := not_or.mp (List.mem_cons.not.mp plain)
      rw [List.cons_append, List.dropWhile_cons]
      split
      · exact ih plain
      · exact if_neg fun same => other same.symm

/-- A group in base sixteen is not taken for the beginning of four octets. -/
theorem ipv4_toDigits (value : UInt16) (ends : EndsDigits rest)
    (undotted : rest.head? ≠ some '.') :
    ipv4 (Nat.toDigits 16 value.toNat ++ rest) = none := by
  have plain : '.' ∉ Nat.toDigits 16 value.toNat := by
    have all : ∀ digit < 16, '.' ≠ Nat.digitChar digit := by decide
    intro member
    obtain ⟨digit, small, same⟩ := Text.exists_digitChar_of_mem_toDigits (by decide) member
    exact all digit small same
  cases read : octet (Nat.toDigits 16 value.toNat ++ rest) with
  | none => simp [ipv4, read]
  | some result =>
      obtain ⟨⟨first, left⟩, numbered, rfl⟩ := Option.map_eq_some_iff.mp read
      have stuck : given '.' left = none := by
        rw [eq_dropWhile_of_number numbered]
        exact given_dot_of_dropWhile plain ends undotted fun char other => by simp [other]
      simp [ipv4, read, stuck]

end Parts

section Runs

variable {rest : List Char}

/-- The text goes on with no further group: the groups that are left out follow, or the scope, or
the bracket that closes the address. -/
def EndsGroups (chars : List Char) : Prop :=
  (∃ rest, chars = ':' :: ':' :: rest) ∨ (∃ rest, chars = '%' :: rest) ∨
    ∃ rest, chars = ']' :: rest

theorem EndsGroups.endsDigits (ends : EndsGroups rest) :
    EndsDigits rest ∧ rest.head? ≠ some '.' := by
  rcases ends with ⟨rest, rfl⟩ | ⟨rest, rfl⟩ | ⟨rest, rfl⟩ <;>
    exact ⟨endsDigits_cons _ (by decide), by simp⟩

/-- The groups after the first, each behind a colon. -/
def laterText (groups : List UInt16) : List Char :=
  groups.flatMap fun value => ':' :: Nat.toDigits 16 value.toNat

theorem groupsText_cons (value : UInt16) (groups : List UInt16) :
    groupsText (value :: groups) = Nat.toDigits 16 value.toNat ++ laterText groups := by
  induction groups generalizing value with
  | nil => simp [groupsText, laterText, List.intercalate]
  | cons next groups ih =>
      have later := ih next
      simp only [groupsText, List.map_cons, List.intercalate] at later
      simp [groupsText, laterText, List.intercalate, later]

/-- Behind a group that is not the last in the text there are neither digits nor a dot. -/
theorem endsDigits_laterText (groups : List UInt16) (ends : EndsGroups rest) :
    EndsDigits (laterText groups ++ rest) ∧ (laterText groups ++ rest).head? ≠ some '.' := by
  cases groups with
  | nil => exact ends.endsDigits
  | cons value groups => exact ⟨endsDigits_cons _ (by decide), by simp [laterText]⟩

theorem groupRun_of_endsDigits {isFirst : Bool} {chars : List Char} (room : Nat)
    (ends : ∀ start, (if isFirst = true then some chars else given ':' chars) = some start →
      EndsDigits start) : groupRun room isFirst chars = ⟨[], false, chars⟩ := by
  cases room with
  | zero => rfl
  | succ room =>
      cases found : (if isFirst = true then some chars else given ':' chars) with
      | none => simp [groupRun, found]
      | some start =>
          simp [groupRun, found, ipv4_of_endsDigits (ends start found),
            group_of_endsDigits (ends start found)]

theorem groupRun_of_endsGroups (room : Nat) (isFirst : Bool) (ends : EndsGroups rest) :
    groupRun room isFirst rest = ⟨[], false, rest⟩ := by
  refine groupRun_of_endsDigits room fun start found => ?_
  cases isFirst with
  | true =>
      cases found
      exact ends.endsDigits.1
  | false =>
      rcases ends with ⟨rest, rfl⟩ | ⟨rest, rfl⟩ | ⟨rest, rfl⟩
      · cases found
        exact endsDigits_cons rest (by decide)
      · cases found
      · cases found

theorem groupRun_toDigits {isFirst : Bool} {chars : List Char} {room : Nat} (value : UInt16)
    (starts : (if isFirst = true then some chars else given ':' chars) =
      some (Nat.toDigits 16 value.toNat ++ rest))
    (ends : EndsDigits rest) (undotted : rest.head? ≠ some '.') :
    groupRun (room + 1) isFirst chars =
      ⟨value :: (groupRun room false rest).read, (groupRun room false rest).endsEmbedded,
        (groupRun room false rest).rest⟩ := by
  simp only [groupRun, starts, ipv4_toDigits value ends undotted, ite_self,
    group_toDigits value ends]

theorem groupRun_laterText (groups : List UInt16) (ends : EndsGroups rest) {room : Nat}
    (fits : groups.length ≤ room) :
    groupRun room false (laterText groups ++ rest) = ⟨groups, false, rest⟩ := by
  induction groups generalizing room with
  | nil => exact groupRun_of_endsGroups room false ends
  | cons value groups ih =>
      cases room with
      | zero => cases fits
      | succ room =>
          obtain ⟨digits, undotted⟩ := endsDigits_laterText groups ends
          rw [groupRun_toDigits value (by simp [laterText, given]) digits undotted,
            ih (Nat.le_of_succ_le_succ fits)]

/-- A run of groups that fit is read up to its end. -/
theorem groupRun_groupsText (groups : List UInt16) (ends : EndsGroups rest) {room : Nat}
    (fits : groups.length ≤ room) :
    groupRun room true (groupsText groups ++ rest) = ⟨groups, false, rest⟩ := by
  cases groups with
  | nil => exact groupRun_of_endsGroups room true ends
  | cons value groups =>
      cases room with
      | zero => cases fits
      | succ room =>
          obtain ⟨digits, undotted⟩ := endsDigits_laterText groups ends
          rw [groupRun_toDigits value (by rw [groupsText_cons, List.append_assoc]; rfl) digits
            undotted, groupRun_laterText groups ends (Nat.le_of_succ_le_succ fits)]

/-- Four octets behind a colon end a run that has room for two groups. -/
theorem groupRun_ipv4Text (host : Ipv4) (ends : EndsGroups rest) (room : Nat) :
    groupRun (room + 2) false (':' :: (ipv4Text host ++ rest)) = ⟨embedded host, true, rest⟩ := by
  simp [groupRun, given, ipv4_ipv4Text host ends.endsDigits.1]

end Runs

section Zeros

theorem eq_replicate_append_of_le_zeroRun {groups : List UInt16} {length : Nat}
    (zeros : length ≤ zeroRun groups) :
    groups = List.replicate length 0 ++ groups.drop length := by
  induction length generalizing groups with
  | zero => rfl
  | succ length ih =>
      cases groups with
      | nil => cases zeros
      | cons value groups =>
          simp only [zeroRun, List.takeWhile_cons] at zeros
          split at zeros
          · next zero =>
              obtain rfl : value = 0 := by simpa using zero
              rw [List.replicate_succ, List.cons_append, List.drop_succ_cons,
                ← ih (Nat.le_of_succ_le_succ zeros)]
          · cases zeros

/-- What is left out are zeros. -/
theorem longestZeroRun_le (groups : List UInt16) :
    (longestZeroRun groups).2 ≤ zeroRun (groups.drop (longestZeroRun groups).1) := by
  unfold longestZeroRun
  refine List.foldlRecOn
    (motive := fun best : Nat × Nat => best.2 ≤ zeroRun (groups.drop best.1)) _ _
    (Nat.zero_le _) ?_
  intro best zeros start _
  simp only
  split
  · exact Nat.le_refl _
  · exact zeros

theorem eq_of_longestZeroRun {groups : List UInt16} {start length : Nat}
    (run : longestZeroRun groups = (start, length)) :
    groups = groups.take start ++ (List.replicate length 0 ++ groups.drop (start + length)) := by
  have zeros := longestZeroRun_le groups
  rw [run] at zeros
  have left := eq_replicate_append_of_le_zeroRun zeros
  rw [List.drop_drop] at left
  rw [← left, List.take_append_drop]

end Zeros

section Hosts

variable {rest : List Char}

theorem ofGroups?_groups (host : Ipv6) : ofGroups? host.groups = some host :=
  dif_pos host.eight

theorem ipv6_groupsText (host : Ipv6) (ends : EndsGroups rest) :
    ipv6 (groupsText host.groups ++ rest) = some (host, rest) := by
  rw [ipv6, groupRun_groupsText host.groups ends (Nat.le_of_eq host.eight)]
  simp only [host.eight, if_true, ofGroups?_groups, Option.map_some]

/-- The groups that are left out are filled in. -/
theorem ipv6_abridged {host : Ipv6} {front back : List UInt16} {gap : Nat} (long : 2 ≤ gap)
    (whole : host.groups = front ++ (List.replicate gap 0 ++ back)) (ends : EndsGroups rest) :
    ipv6 (groupsText front ++ ':' :: ':' :: (groupsText back ++ rest)) = some (host, rest) := by
  have eight : front.length + (gap + back.length) = 8 := by
    rw [← host.eight, whole]
    simp
  have first : groupRun 8 true (groupsText front ++ ':' :: ':' :: (groupsText back ++ rest)) =
      ⟨front, false, ':' :: ':' :: (groupsText back ++ rest)⟩ :=
    groupRun_groupsText front (.inl ⟨_, rfl⟩) (by omega)
  have last : groupRun (7 - front.length) true (groupsText back ++ rest) = ⟨back, false, rest⟩ :=
    groupRun_groupsText back ends (by omega)
  have missing : 8 - front.length - back.length = gap := by omega
  rw [ipv6, first]
  simp only [show front.length ≠ 8 by omega, if_false, Bool.false_eq_true, given_self,
    Option.bind_eq_bind, Option.bind_some, last, missing]
  rw [List.append_assoc, ← whole, ofGroups?_groups, Option.map_some]

theorem ipv6_compressedText (host : Ipv6) (ends : EndsGroups rest) :
    ipv6 (compressedText host ++ rest) = some (host, rest) := by
  cases run : longestZeroRun host.groups with
  | mk start length =>
      simp only [compressedText, run]
      split
      · next long =>
          rw [List.append_assoc, List.cons_append, List.cons_append]
          exact ipv6_abridged long (eq_of_longestZeroRun run) ends
      · exact ipv6_groupsText host ends

theorem groups_of_mapped? {host : Ipv6} {inner : Ipv4} (mapped : mapped? host = some inner) :
    host.groups = [0, 0, 0, 0, 0, 0xffff] ++ embedded inner := by
  have joined (value : UInt16) :
      (value / 256).toUInt8.toUInt16 * 256 + (value % 256).toUInt8.toUInt16 = value := by
    apply UInt16.toNat_inj.mp
    have bound := value.toNat_lt
    simp
    omega
  unfold mapped? at mapped
  split at mapped
  · next upper lower shape =>
      cases mapped
      rw [shape, embedded]
      simp only [joined]
      rfl
  · cases mapped

/-- A mapped address is read back from its four octets. -/
theorem ipv6_mapped {host : Ipv6} {inner : Ipv4} (mapped : mapped? host = some inner)
    (ends : EndsGroups rest) :
    ipv6 ("::ffff:".toList ++ ipv4Text inner ++ rest) = some (host, rest) := by
  have front : groupRun 8 true ("::ffff:".toList ++ ipv4Text inner ++ rest) =
      ⟨[], false, ':' :: ':' :: ("ffff:".toList ++ (ipv4Text inner ++ rest))⟩ :=
    groupRun_of_endsGroups 8 true (.inl ⟨_, rfl⟩)
  have back : groupRun 7 true ("ffff:".toList ++ (ipv4Text inner ++ rest)) =
      ⟨0xffff :: embedded inner, true, rest⟩ := by
    have colon : EndsDigits (':' :: (ipv4Text inner ++ rest)) := endsDigits_cons _ (by decide)
    rw [groupRun_toDigits 0xffff rfl colon (by simp), groupRun_ipv4Text inner ends 4]
  have whole : ofGroups? ([] ++ List.replicate (8 - 0 - 3) 0 ++ 0xffff :: embedded inner) =
      some host := by
    rw [← ofGroups?_groups host, groups_of_mapped? mapped]
    rfl
  rw [ipv6, front]
  simp only [List.length_nil, given_self, Option.bind_eq_bind, Option.bind_some, back]
  exact congrArg (Option.map (·, rest)) whole

theorem ipv6_ipv6Text (host : Ipv6) (ends : EndsGroups rest) :
    ipv6 (ipv6Text host ++ rest) = some (host, rest) := by
  unfold ipv6Text
  split
  · next inner mapped => exact ipv6_mapped mapped ends
  · exact ipv6_compressedText host ends

end Hosts

theorem scope_text (value : UInt32) (rest : List Char) :
    scope ((if value = 0 then [] else '%' :: Nat.toDigits 10 value.toNat) ++ ']' :: rest) =
      some (value, ']' :: rest) := by
  split
  · next zero =>
      rw [zero]
      rfl
  · have digits : number 10 none true (Nat.pow 2 32) (Nat.toDigits 10 value.toNat ++ ']' :: rest) =
        some (value.toNat, ']' :: rest) :=
      number_toDigits (by decide) (by decide) value.toNat_lt rfl (endsDigits_cons rest (by decide))
    rw [List.cons_append, scope, digits, Option.map_some, UInt32.ofNat_toNat]

/-- A written socket address is read back. -/
theorem read?_text (address : SocketAddress) : read? address.text = some address := by
  cases address with
  | v4 host value =>
      have digits := port_toDigits value endsDigits_nil
      rw [List.append_nil] at digits
      have colon : EndsDigits (':' :: Nat.toDigits 10 value.toNat) :=
        endsDigits_cons _ (by decide)
      have read : readV4? (ipv4Text host ++ ':' :: Nat.toDigits 10 value.toNat) =
          some (.v4 host value) := by
        simp [readV4?, ipv4_ipv4Text host colon, given_self, digits]
      rw [read?, text, String.toList_ofList, read, Option.some_or]
  | v6 host number value =>
      have digits := port_toDigits value endsDigits_nil
      rw [List.append_nil] at digits
      have bracket (rest : List Char) : readV4? ('[' :: rest) = none := by
        rw [readV4?, ipv4_of_endsDigits (endsDigits_cons rest (by decide))]
        rfl
      have close : EndsGroups ((if number = 0 then [] else '%' :: Nat.toDigits 10 number.toNat) ++
          ']' :: ':' :: Nat.toDigits 10 value.toNat) := by
        split
        · exact .inr (.inr ⟨_, rfl⟩)
        · exact .inr (.inl ⟨_, rfl⟩)
      rw [read?, text, String.toList_ofList, List.cons_append, List.cons_append, bracket,
        Option.none_or]
      simp [readV6?, ipv6_ipv6Text host close, scope_text, given_self, digits]

end SocketAddress

end ServiceGroups
