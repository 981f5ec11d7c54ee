import ServiceGroups.Text.Hexadecimal

/-!
# Universally unique identifiers

Accounts, templates and groups are named by 128-bit identifiers.  Reading
accepts the plain and hyphenated forms in either case, the hyphenated form in
braces, and the hyphenated form as a resource name; writing always gives the
hyphenated form in lower case.  The order is that of the bytes, which is the
order of the number they spell.
-/

namespace ServiceGroups

/-- A 128-bit identifier. -/
structure Uuid where
  value : BitVec 128
deriving DecidableEq, Repr

namespace Uuid

def nil : Uuid :=
  ⟨0⟩

/-- The identifier spelled by hexadecimal digits of either case. -/
def ofDigits? (digits : List Char) : Option Uuid :=
  if digits.length = 32 then
    (Text.hexNumber? digits).map fun number => ⟨BitVec.ofNat 128 number⟩
  else none

/-- The digits of a hyphenated form: groups of 8, 4, 4, 4 and 12. -/
def hyphenatedDigits? (chars : List Char) : Option (List Char) :=
  let group (start count : Nat) := (chars.drop start).take count
  if chars.length = 36 ∧ chars[8]? = some '-' ∧ chars[13]? = some '-' ∧
      chars[18]? = some '-' ∧ chars[23]? = some '-' then
    some (group 0 8 ++ group 9 4 ++ group 14 4 ++ group 19 4 ++ group 24 12)
  else none

def ofHyphenated? (chars : List Char) : Option Uuid :=
  (hyphenatedDigits? chars).bind ofDigits?

/-- The scheme in front of an identifier used as a resource name. -/
def resourceScheme : List Char :=
  "urn:uuid:".toList

/-- Read an identifier from any of its four written forms. -/
def read? (text : String) : Option Uuid :=
  let chars := text.toList
  match chars.length with
  | 32 => ofDigits? chars
  | 36 => ofHyphenated? chars
  | 38 =>
    if chars.head? = some '{' ∧ chars.getLast? = some '}' then
      ofHyphenated? ((chars.drop 1).take 36)
    else none
  | 45 =>
    if (chars.take 9).map Char.toLower = resourceScheme then
      ofHyphenated? (chars.drop 9)
    else none
  | _ => none

def digits (id : Uuid) : List Char :=
  Text.hexFixed 32 id.value.toNat

def text (id : Uuid) : String :=
  let group (start count : Nat) := (id.digits.drop start).take count
  String.ofList (group 0 8 ++ '-' :: group 8 4 ++ '-' :: group 12 4 ++ '-' ::
    group 16 4 ++ '-' :: group 20 12)

instance : Ord Uuid where
  compare first second := compare first.value.toNat second.value.toNat

end Uuid

end ServiceGroups
