import Mathlib.Data.List.TakeWhile
import ServiceGroups.Http.Draft
import ServiceGroups.Proofs.Text.Form

/-!
# Names of groups

A name that passes the check is short and made of few characters, none of which has a
meaning in an address.  A group can therefore be asked for under its name as it is.
-/

namespace ServiceGroups

namespace Http

/-- A target that begins with a slash and has neither query nor fragment is a path. -/
theorem Target.path_append {base name : String} (rooted : ∃ rest, base.toList = '/' :: rest)
    (basePlain : base.toList.all (fun char => char != '?' && char != '#') = true)
    (namePlain : name.toList.all (fun char => char != '?' && char != '#') = true) :
    Target.path (base ++ name) = base.toList ++ name.toList := by
  obtain ⟨rest, begins⟩ := rooted
  have whole : Target.resource (base ++ name) = base.toList ++ name.toList := by
    rw [Target.resource, String.toList_append, begins]
    rfl
  rw [Target.path, whole, List.takeWhile_eq_self_iff]
  intro char member
  rcases List.mem_append.mp member with front | back
  · exact List.all_eq_true.mp basePlain char front
  · exact List.all_eq_true.mp namePlain char back

/-- The text holds no character with a meaning in addresses. -/
def StandsPlain (name : String) : Prop :=
  ∀ char ∈ ['/', '?', '#', '%'], char ∉ name.toList

section Addresses

variable {base collection name : String}

/-- The segments of an address are the collection and the plain name behind it. -/
theorem segments_of_plain (plain : StandsPlain name)
    (address : base.toList = '/' :: ("v1".toList ++ '/' :: (collection.toList ++ ['/'])))
    (basePlain : base.toList.all (fun char => char != '?' && char != '#') = true)
    (noSlash : '/' ∉ collection.toList) :
    Text.splitAtEach '/' (Target.path (base ++ name)) =
      [[], "v1".toList, collection.toList, name.toList] := by
  have namePlain : name.toList.all (fun char => char != '?' && char != '#') = true := by
    refine List.all_eq_true.mpr fun char member => ?_
    have noQuery : '?' ∉ name.toList := plain '?' (by decide)
    have noFragment : '#' ∉ name.toList := plain '#' (by decide)
    simp only [Bool.and_eq_true, bne_iff_ne, ne_eq]
    exact ⟨fun same => noQuery (same ▸ member), fun same => noFragment (same ▸ member)⟩
  rw [Target.path_append ⟨_, address⟩ basePlain namePlain]
  calc Text.splitAtEach '/' (base.toList ++ name.toList)
      = Text.splitAtEach '/'
          ([] ++ '/' :: ("v1".toList ++ '/' :: (collection.toList ++ '/' :: name.toList))) := by
        simp [address]
    _ = [] ::
          Text.splitAtEach '/' ("v1".toList ++ '/' :: (collection.toList ++ '/' :: name.toList)) :=
        Text.splitAtEach_append List.not_mem_nil _
    _ = [] :: "v1".toList :: Text.splitAtEach '/' (collection.toList ++ '/' :: name.toList) := by
        rw [Text.splitAtEach_append (by decide)]
    _ = [[], "v1".toList, collection.toList, name.toList] := by
        rw [Text.splitAtEach_append noSlash, Text.splitAtEach_of_absent (plain '/' (by decide))]

end Addresses

/-- A letter or a digit of ASCII. -/
def IsLetterOrDigit (char : Char) : Prop :=
  'A' ≤ char ∧ char ≤ 'Z' ∨ 'a' ≤ char ∧ char ≤ 'z' ∨ '0' ≤ char ∧ char ≤ '9'

theorem isLetterOrDigit_of_isAlphanum {char : Char} (alphanum : char.isAlphanum = true) :
    IsLetterOrDigit char := by
  rcases (Bool.or_eq_true _ _).mp alphanum with letter | digit
  · rcases (Bool.or_eq_true _ _).mp letter with upper | lower
    · exact .inl (of_decide_eq_true upper)
    · obtain ⟨low, high⟩ := (Bool.and_eq_true _ _).mp lower
      exact .inr (.inl ⟨of_decide_eq_true low, of_decide_eq_true high⟩)
  · obtain ⟨low, high⟩ := (Bool.and_eq_true _ _).mp digit
    exact .inr (.inr ⟨of_decide_eq_true low, of_decide_eq_true high⟩)

/-- The name has 1 to 64 characters, which are letters, digits, hyphens and underscores,
and begins with a letter or a digit. -/
structure IsWellNamed (name : String) : Prop where
  short : name.length ≤ 64
  begins : ∃ first rest, name.toList = first :: rest ∧ IsLetterOrDigit first
  chars : ∀ char ∈ name.toList, IsLetterOrDigit char ∨ char = '-' ∨ char = '_'

theorem isWellNamed_of_checkGroupName {name : String} (checked : checkGroupName name = .ok ()) :
    IsWellNamed name := by
  have named : isGroupName name = true := by
    unfold checkGroupName at checked
    split at checked
    · assumption
    · cases checked
  simp only [isGroupName, Bool.and_eq_true, decide_eq_true_eq] at named
  obtain ⟨⟨begins, short⟩, chars⟩ := named
  obtain ⟨first, head, alphanum⟩ := Option.any_eq_true _ _ |>.mp begins
  obtain ⟨rest, same⟩ := List.head?_eq_some_iff.mp head
  refine ⟨Nat.le_trans (Text.length_le_utf8ByteSize name) short,
    ⟨first, rest, same, isLetterOrDigit_of_isAlphanum alphanum⟩, fun char member => ?_⟩
  have allowed := List.all_eq_true.mp chars char member
  simp only [isGroupNameChar, Bool.or_eq_true, beq_iff_eq] at allowed
  rcases allowed with (alphanum | hyphen) | underscore
  · exact .inl (isLetterOrDigit_of_isAlphanum alphanum)
  · exact .inr (.inl hyphen)
  · exact .inr (.inr underscore)

namespace IsWellNamed

variable {name : String} (wellNamed : IsWellNamed name)

include wellNamed

theorem standsPlain : StandsPlain name := by
  intro char special member
  have allowed := wellNamed.chars char member
  unfold IsLetterOrDigit at allowed
  simp only [List.mem_cons, List.not_mem_nil, or_false] at special
  rcases special with rfl | rfl | rfl | rfl <;> exact absurd allowed (by decide)

theorem ne_empty : name ≠ "" := by
  rintro rfl
  obtain ⟨first, rest, same, -⟩ := wellNamed.begins
  cases same

theorem percentDecode? : Text.percentDecode? name = some name :=
  Text.percentDecode?_of_no_sign (wellNamed.standsPlain '%' (by decide))

/-- The address of a group is its name behind that of all groups. -/
theorem ofTarget? : Route.ofTarget? ("/v1/tsg/" ++ name) = some (.group name) := by
  have base : "/v1/tsg/".toList = '/' :: ("v1".toList ++ '/' :: ("tsg".toList ++ ['/'])) := by
    decide
  rw [Route.ofTarget?, segments_of_plain wellNamed.standsPlain base (by decide) (by decide)]
  simp only [List.map_cons, List.map_nil, String.ofList_toList]
  exact if_neg wellNamed.ne_empty

end IsWellNamed

end Http

end ServiceGroups
