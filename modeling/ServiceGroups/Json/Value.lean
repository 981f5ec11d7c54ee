import ServiceGroups.Dictionary
import ServiceGroups.Text.Hexadecimal

/-!
# JSON values and their text

Records, job specifications and answers are JSON.  A value is printed without
blanks and with the members of an object in the order they are held; members
that came from text are held in increasing order of their keys.  Numbers are
whole or decimal, and a decimal keeps the spelling it was read with.
-/

namespace ServiceGroups

namespace Json

/-- A number: whole, or a decimal in the spelling it was read with. -/
inductive Number where
  | whole (value : Int)
  | decimal (spelling : String)
deriving DecidableEq, Repr

/-- A JSON value. -/
inductive Value where
  | null
  | boolean (value : Bool)
  | number (value : Number)
  | string (value : String)
  | array (items : List Value)
  | object (members : List (String × Value))
deriving Repr, Inhabited

namespace Value

def whole (value : Int) : Value :=
  .number (.whole value)

def natural (value : Nat) : Value :=
  .number (.whole value)

def optionalText : Option String → Value
  | none => .null
  | some text => .string text

def texts (items : List String) : Value :=
  .array (items.map .string)

def dictionary (content : Dictionary) : Value :=
  .object (content.entries.map fun entry => (entry.1, .string entry.2))

def member? (key : String) : Value → Option Value
  | .object members => members.lookup key
  | _ => none

def text? : Value → Option String
  | .string text => some text
  | _ => none

end Value

/-- How a character is written inside a JSON string. -/
def stringChar (char : Char) : List Char :=
  match char with
  | '"' => ['\\', '"']
  | '\\' => ['\\', '\\']
  | '\n' => ['\\', 'n']
  | '\r' => ['\\', 'r']
  | '\t' => ['\\', 't']
  | '\x08' => ['\\', 'b']
  | '\x0c' => ['\\', 'f']
  | _ =>
    if char.toNat < 0x20 then '\\' :: 'u' :: Text.hexFixed 4 char.toNat else [char]

def stringText (text : String) : List Char :=
  '"' :: (text.toList.flatMap stringChar ++ ['"'])

def numberText : Number → List Char
  | .whole value =>
    if value < 0 then '-' :: Nat.toDigits 10 value.natAbs else Nat.toDigits 10 value.natAbs
  | .decimal spelling => spelling.toList

mutual

def Value.chars : Value → List Char
  | .null => "null".toList
  | .boolean true => "true".toList
  | .boolean false => "false".toList
  | .number value => numberText value
  | .string text => stringText text
  | .array items => '[' :: (itemsChars items ++ [']'])
  | .object members => '{' :: (membersChars members ++ ['}'])

def itemsChars : List Value → List Char
  | [] => []
  | [item] => item.chars
  | item :: rest => item.chars ++ ',' :: itemsChars rest

def membersChars : List (String × Value) → List Char
  | [] => []
  | [(key, value)] => stringText key ++ ':' :: value.chars
  | (key, value) :: rest => stringText key ++ ':' :: (value.chars ++ ',' :: membersChars rest)

end

mutual

/-- Print a value onto reversed text already written. -/
def Value.onto (written : List Char) : Value → List Char
  | .array items => ']' :: itemsOnto ('[' :: written) items
  | .object members => '\x7d' :: membersOnto ('\x7b' :: written) members
  | .null => Value.null.chars.reverse ++ written
  | .boolean value => (Value.boolean value).chars.reverse ++ written
  | .number value => (numberText value).reverse ++ written
  | .string text => (stringText text).reverse ++ written

def itemsOnto (written : List Char) : List Value → List Char
  | [] => written
  | [item] => item.onto written
  | item :: rest => itemsOnto (',' :: item.onto written) rest

def membersOnto (written : List Char) : List (String × Value) → List Char
  | [] => written
  | [(key, value)] => value.onto (':' :: ((stringText key).reverse ++ written))
  | (key, value) :: rest =>
    membersOnto (',' :: value.onto (':' :: ((stringText key).reverse ++ written))) rest

end

mutual

theorem Value.onto_eq (written : List Char) :
    (value : Value) → value.onto written = value.chars.reverse ++ written
  | .null => rfl
  | .boolean true => rfl
  | .boolean false => rfl
  | .number _ => by simp [Value.onto, Value.chars]
  | .string _ => by simp [Value.onto, Value.chars]
  | .array items => by simp [Value.onto, Value.chars, itemsOnto_eq _ items]
  | .object members => by simp [Value.onto, Value.chars, membersOnto_eq _ members]

theorem itemsOnto_eq (written : List Char) :
    (items : List Value) → itemsOnto written items = (itemsChars items).reverse ++ written
  | [] => rfl
  | [item] => by simp [itemsOnto, itemsChars, Value.onto_eq written item]
  | item :: next :: rest => by
    simp [itemsOnto, itemsChars, Value.onto_eq written item, itemsOnto_eq _ (next :: rest)]

theorem membersOnto_eq (written : List Char) :
    (members : List (String × Value)) →
      membersOnto written members = (membersChars members).reverse ++ written
  | [] => rfl
  | [(key, value)] => by simp [membersOnto, membersChars, Value.onto_eq _ value]
  | (key, value) :: next :: rest => by
    simp [membersOnto, membersChars, Value.onto_eq _ value, membersOnto_eq _ (next :: rest)]

end

def Value.text (value : Value) : String :=
  String.ofList (value.onto []).reverse

theorem Value.text_toList (value : Value) : value.text.toList = value.chars := by
  simp [Value.text, Value.onto_eq]

/-- A line break and the indentation of a nesting depth. -/
def lineBreak (depth : Nat) : List Char :=
  '\n' :: List.replicate (2 * depth) ' '

mutual

/-- The characters of a value over several lines, two blanks per depth. -/
def Value.prettyChars (depth : Nat) : Value → List Char
  | .array [] => ['[', ']']
  | .array items =>
    '[' :: (prettyItems (depth + 1) items ++ lineBreak depth ++ [']'])
  | .object [] => ['{', '}']
  | .object members =>
    '{' :: (prettyMembers (depth + 1) members ++ lineBreak depth ++ ['}'])
  | plain => plain.chars

def prettyItems (depth : Nat) : List Value → List Char
  | [] => []
  | [item] => lineBreak depth ++ item.prettyChars depth
  | item :: rest => lineBreak depth ++ item.prettyChars depth ++ ',' :: prettyItems depth rest

def prettyMembers (depth : Nat) : List (String × Value) → List Char
  | [] => []
  | [(key, value)] =>
    lineBreak depth ++ stringText key ++ ':' :: ' ' :: value.prettyChars depth
  | (key, value) :: rest =>
    lineBreak depth ++ stringText key ++ ':' :: ' ' ::
      (value.prettyChars depth ++ ',' :: prettyMembers depth rest)

end

def Value.prettyText (value : Value) : String :=
  String.ofList (value.prettyChars 0)

end Json

end ServiceGroups
