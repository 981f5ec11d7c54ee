import ServiceGroups.Text.Form

/-!
# Media types

A body is read as JSON only when its media type says so: `application/json`, or
an application type whose suffix is `json`.  A media type is a type, a slash, a
subtype with an optional suffix after its last plus sign, and parameters after
semicolons; a parameter's value may be quoted.  Between quotes a backslash is a
character like any other, and a quote that comes first does not end the value.
Case does not matter.
-/

namespace ServiceGroups

namespace Http

namespace MediaType

def isTokenChar (char : Char) : Bool :=
  char.isAlphanum || "!#$%&'*+-.^_`|~".toList.contains char

def isQuotedChar (char : Char) : Bool :=
  0x1f < char.toNat && char.toNat != 0x7f

/-- Where a reader of parameters is. -/
inductive ParameterPart where
  | nameStart
  | name
  | valueStart
  | value
  | quotedStart
  | quoted
  | afterQuoted
deriving DecidableEq, Repr

namespace ParameterPart

def step (part : ParameterPart) (char : Char) : Option ParameterPart :=
  match part with
  | .nameStart =>
    if char = ' ' then some .nameStart else if isTokenChar char then some .name else none
  | .name =>
    if char = '=' then some .valueStart else if isTokenChar char then some .name else none
  | .valueStart =>
    if char = '"' then some .quotedStart else if isTokenChar char then some .value else none
  | .value =>
    if char = ';' then some .nameStart else if isTokenChar char then some .value else none
  | .quotedStart => if isQuotedChar char then some .quoted else none
  | .quoted =>
    if char = '"' then some .afterQuoted else if isQuotedChar char then some .quoted else none
  | .afterQuoted =>
    if char = ';' then some .nameStart else if char = ' ' then some .afterQuoted else none

def mayEnd : ParameterPart → Bool
  | .nameStart | .valueStart | .value | .afterQuoted => true
  | _ => false

end ParameterPart

/-- Are the characters after the first semicolon well-formed parameters? -/
def areParameters (chars : List Char) : Bool :=
  (chars.foldlM ParameterPart.step ParameterPart.nameStart).any ParameterPart.mayEnd

/-- A subtype and its suffix: the parts around the last plus sign that is not
the first character. -/
def splitSuffix (subtype : List Char) : List Char × Option (List Char) :=
  let suffix := (subtype.reverse.takeWhile (· != '+')).reverse
  let front := subtype.take (subtype.length - suffix.length - 1)
  if subtype.contains '+' && !front.isEmpty then (front, some suffix) else (subtype, none)

def isJson (text : String) : Bool :=
  let chars := text.toList.map Char.toLower
  let (kind, rest) := (chars.takeWhile isTokenChar, chars.dropWhile isTokenChar)
  match rest with
  | '/' :: rest =>
    let (subtype, rest) := (rest.takeWhile isTokenChar, rest.dropWhile isTokenChar)
    let wellFormed :=
      match rest with
      | [] => true
      | ';' :: parameters => !subtype.isEmpty && areParameters parameters
      | _ => false
    let (name, suffix) := splitSuffix subtype
    wellFormed && kind == "application".toList &&
      (name == "json".toList || suffix == some "json".toList)
  | _ => false

end MediaType

end Http

end ServiceGroups
