import ServiceGroups.Base64
import ServiceGroups.Hcl.Document
import ServiceGroups.Json.Value

/-!
# Patterns of job texts

A pattern is a job text with places for the members of a value.  A place says
how the member is written there: as it is, quoted, or in base64.  Some blocks of
a pattern are left out if a member is missing or empty, and some are written
again for each item of a member; in these `this` is the item and `@key` its key.
-/

namespace ServiceGroups

namespace Pattern

/-- A part of a literal: fixed text, or a place. -/
inductive Segment where
  | fixed (text : String)
  | plain (name : String)
  | quoted (name : String)
  | encoded (name : String)
  /-- A key and a value in base64, with an equals sign between them. -/
  | encodedPair (key value : String)
deriving DecidableEq, Repr

/-- A part of a pattern: code, or a double-quoted literal. -/
inductive Piece where
  | code (text : String)
  | literal (segments : List Segment)
deriving DecidableEq, Repr

/-- Pieces that are written once, or if a member is filled, or for each of its items. -/
inductive Block where
  | once (pieces : List Piece)
  | when (name : String) (pieces : List Piece)
  | each (name : String) (pieces : List Piece)
deriving DecidableEq, Repr

/-- What the names of a pattern stand for. -/
abbrev Scope : Type :=
  String → Json.Value

/-- Names of members; a name of nothing stands for null. -/
def Scope.ofMembers (value : Json.Value) : Scope :=
  fun name => (value.member? name).getD .null

/-- The names where an item stands for itself. -/
def Scope.ofItem (key item : Json.Value) : Scope := fun name =>
  if name = "this" then item
  else if name = "@key" then key
  else ofMembers item name

/-- How a value is written as it is; lists and objects are not. -/
def written : Json.Value → String
  | .string text => text
  | .number number => String.ofList (Json.numberText number)
  | .boolean value => if value then "true" else "false"
  | _ => ""

/-- Is a value there, and is it more than nothing? -/
def isFilled : Json.Value → Bool
  | .null => false
  | .boolean value => value
  | .number number => number != .whole 0
  | .string text => text != ""
  | .array items => !items.isEmpty
  | .object members => !members.isEmpty

/-- The items of a value with their keys; only those of an object have one. -/
def items : Json.Value → List (Json.Value × Json.Value)
  | .array items => items.map ((.null, ·))
  | .object members => members.map fun member => (.string member.1, member.2)
  | _ => []

def Segment.expand (scope : Scope) : Segment → Hcl.Segment
  | .fixed text => .verbatim text
  | .plain name => .verbatim (written (scope name))
  | .quoted name => .quoted (written (scope name))
  | .encoded name => .verbatim (Base64.encode (written (scope name)))
  | .encodedPair key value =>
    .verbatim (Base64.encodePair (written (scope key)) (written (scope value)))

def Piece.expand (scope : Scope) : Piece → Hcl.Fragment
  | .code text => .code text
  | .literal segments => .literal (segments.map (Segment.expand scope))

def Block.expand (scope : Scope) : Block → List Hcl.Fragment
  | .once pieces => pieces.map (Piece.expand scope)
  | .when name pieces =>
    if isFilled (scope name) then pieces.map (Piece.expand scope) else []
  | .each name pieces =>
    (items (scope name)).flatMap fun (key, item) =>
      pieces.map (Piece.expand (.ofItem key item))

/-- The fragments of a pattern for the members of a value. -/
def expand (pattern : List Block) (value : Json.Value) : List Hcl.Fragment :=
  pattern.flatMap (Block.expand (.ofMembers value))

end Pattern

end ServiceGroups
