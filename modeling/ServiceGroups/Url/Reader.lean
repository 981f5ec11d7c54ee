import ServiceGroups.Text.Numeral
import ServiceGroups.Url.Basic
import ServiceGroups.Url.Host

/-!
# Reading web addresses

An address is read on its own or relative to another one.  Blanks around it and
line breaks inside it do not count, a backslash is a slash, and dot segments are
resolved while the path is read.  An address of a foreign scheme is recognised
but has no parts here.
-/

namespace ServiceGroups

namespace Url

/-- What was read: a web address, or an address of a foreign scheme. -/
inductive Destination where
  | web (url : Url)
  | foreign
deriving DecidableEq, Repr

def isControlOrSpace (char : Char) : Bool :=
  char.toNat ≤ 0x20

/-- Is the character a tab or part of a line break? -/
def isLineChar (char : Char) : Bool :=
  char == '\t' || char == '\n' || char == '\r'

def cleaned (text : String) : List Char :=
  let front := text.toList.dropWhile isControlOrSpace
  ((front.reverse.dropWhile isControlOrSpace).reverse).filter (!isLineChar ·)

def isSlash (char : Char) : Bool :=
  char == '/' || char == '\\'

def isPathPlain (byte : UInt8) : Bool :=
  0x20 < byte && byte < 0x7f && !("\"#<>?`\x7b\x7d".toList.map Char.toNat).contains byte.toNat

def isQueryPlain (byte : UInt8) : Bool :=
  0x20 < byte && byte < 0x7f && !("\"#<>'".toList.map Char.toNat).contains byte.toNat

/-- A segment with its encoded points decoded and without case. -/
def plainDots (segment : List Char) : List Char :=
  match segment with
  | '%' :: '2' :: last :: rest =>
    if last = 'e' ∨ last = 'E' then '.' :: plainDots rest
    else '%' :: '2' :: last :: plainDots rest
  | char :: rest => char :: plainDots rest
  | [] => []

/-- Add a segment to a path; dot segments stay or go up instead. -/
def addSegment (done : List String) (segment : List Char) (isLast : Bool) : List String :=
  match plainDots segment with
  | ['.'] => if isLast then done ++ [""] else done
  | ['.', '.'] => if isLast then done.dropLast ++ [""] else done.dropLast
  | _ => done ++ [Text.percentEncode isPathPlain (String.ofList segment)]

def addSegments (done : List String) : List (List Char) → List String
  | [] => done
  | [segment] => addSegment done segment true
  | segment :: rest => addSegments (addSegment done segment false) rest

def splitAtSlashes (chars : List Char) : List (List Char) :=
  Text.splitAtEach '/' (chars.map fun char => if char = '\\' then '/' else char)

/-- Path, query and fragment of the characters after a host. -/
def splitTail (chars : List Char) : List Char × Option (List Char) :=
  let body := chars.takeWhile (· != '#')
  let path := body.takeWhile (· != '?')
  let rest := body.drop path.length
  (path, if rest.isEmpty then none else some (rest.drop 1))

def encodeQuery (query : List Char) : String :=
  Text.percentEncode isQueryPlain (String.ofList query)

/-- A port: absent when empty or usual for the scheme. -/
def readPort (isSecure : Bool) (digits : List Char) : Option (Option UInt16) :=
  if digits.isEmpty then some none
  else
    ((Text.decimal? digits).filter (· < 65536)).map fun port =>
      if UInt16.ofNat port = usualPort isSecure then none else some (UInt16.ofNat port)

/-- The characters up to the colon before a port; colons in brackets do not
count. -/
def hostPart : (inBrackets : Bool) → List Char → List Char
  | _, [] => []
  | inBrackets, char :: rest =>
    if char = ':' ∧ !inBrackets then []
    else
      let inside := if char = '[' then true else if char = ']' then false else inBrackets
      char :: hostPart inside rest

def afterUser (authority : List Char) : List Char :=
  (authority.reverse.takeWhile (· != '@')).reverse

variable [Host.Domains]

def readAuthority (isSecure : Bool) (authority : List Char) :
    Option (String × Option UInt16) := do
  let place := afterUser authority
  let host := hostPart false place
  let name ← Host.read? host
  let port ← readPort isSecure (place.drop (host.length + 1))
  some (name, port)

def readAfterSlashes (isSecure : Bool) (chars : List Char) : Option Url := do
  let authority := chars.takeWhile fun char => !isSlash char && char != '?' && char != '#'
  let (host, port) ← readAuthority isSecure authority
  let (path, query) := splitTail (chars.drop authority.length)
  some
    { isSecure, host, port
      path := addSegments [] (splitAtSlashes (path.drop 1))
      query := query.map encodeQuery }

/-- The scheme in front of the first colon, in lower case, and what follows. -/
def splitScheme (chars : List Char) : Option (List Char × List Char) :=
  let front := chars.takeWhile (· != ':')
  let isSchemeChar (char : Char) : Bool :=
    char.isAlphanum || char == '+' || char == '-' || char == '.'
  if front.length < chars.length && front.head?.any Char.isAlpha && front.all isSchemeChar then
    some (front.map Char.toLower, chars.drop (front.length + 1))
  else none

/-- Is the scheme one of the web, and is it secure? -/
def webScheme? (scheme : List Char) : Option Bool :=
  if scheme = "http".toList then some false
  else if scheme = "https".toList then some true
  else none

def readRelative (base : Url) (chars : List Char) : Option Url :=
  let (path, query) := splitTail chars
  match path with
  | [] =>
    some { base with query := (query.map encodeQuery).or base.query }
  | first :: rest =>
    if isSlash first then
      if rest.head?.any isSlash then
        readAfterSlashes base.isSecure (chars.dropWhile isSlash)
      else
        some { base with
          path := addSegments [] (splitAtSlashes rest)
          query := query.map encodeQuery }
    else
      some { base with
        path := addSegments base.path.dropLast (splitAtSlashes path)
        query := query.map encodeQuery }

/-- Read an address, relative to a base if there is one. -/
def readFrom (base : Option Url) (text : String) : Option Destination :=
  let chars := cleaned text
  match splitScheme chars with
  | none => (base.bind fun base => readRelative base chars).map .web
  | some (scheme, rest) =>
    match webScheme? scheme with
    | none => some .foreign
    | some isSecure =>
      let isRelative := !((rest.take 2).length == 2 && (rest.take 2).all (· == '/'))
      match base.filter (fun base => base.isSecure == isSecure && isRelative) with
      | some base => (readRelative base rest).map .web
      | none => (readAfterSlashes isSecure (rest.dropWhile isSlash)).map .web

def read? (text : String) : Option Destination :=
  readFrom none text

def join (base : Url) (text : String) : Option Destination :=
  readFrom (some base) text

end Url

end ServiceGroups
