import ServiceGroups.Instant.Printer
import ServiceGroups.Instant.Reader
import ServiceGroups.Json.Node
import ServiceGroups.Uuid

/-!
# Records in JSON

A record is a row of named fields, each of a shape that says which JSON stands
for its values.  Reading accepts an object with the members in any order, or an
array with the values in field order; members that are not fields are skipped.
The first problem met decides the answer: broken text is `malformed`, anything
else is `mismatched`.  A field may have a fallback for when it is left out.
-/

namespace ServiceGroups

namespace Json

/-- Why text does not decode: it is not JSON as far as it had to be read, or it
is JSON of the wrong kind. -/
inductive Fault where
  | malformed
  | mismatched
deriving DecidableEq, Repr

/-- The kinds of values a field can hold. -/
inductive Shape where
  | uuid
  | text
  | instant
  | word32
  | word64
  | flag
  | texts
  | dictionary
  | optional (inner : Shape)
deriving DecidableEq, Repr

/-- The values of a shape. -/
abbrev Shape.Carrier : Shape → Type
  | .uuid => Uuid
  | .text => String
  | .instant => Instant
  | .word32 => UInt32
  | .word64 => UInt64
  | .flag => Bool
  | .texts => List String
  | .dictionary => Dictionary
  | .optional inner => Option inner.Carrier

/-- Why a node is not of the wanted kind.  A string or number is read to its
end before its kind is judged; a container is judged by its first character. -/
def Node.fault : Node → Fault
  | .number none | .string none | .broken => .malformed
  | _ => .mismatched

def Node.text : Node → Except Fault String
  | .string (some text) => .ok text
  | node => .error node.fault

def Node.wholeBelow (limit : Nat) : Node → Except Fault Nat
  | .number (some (.whole value)) =>
    if 0 ≤ value ∧ value < limit then .ok value.toNat else .error .mismatched
  | node => .error node.fault

def textsOf (closed : Bool) (read : List String) : List Node → Except Fault (List String)
  | [] => if closed then .ok read.reverse else .error .malformed
  | node :: rest => do textsOf closed ((← node.text) :: read) rest

/-- Entries one after the other; of equal keys the last one counts. -/
def entriesOf (closed : Bool) (read : Dictionary) :
    List (Option String × Node) → Except Fault Dictionary
  | [] => if closed then .ok read else .error .malformed
  | (none, _) :: _ => .error .malformed
  | (some key, node) :: rest => do
    entriesOf closed (read.insert key (← node.text)) rest

/-- A value that a text may stand for. -/
def Node.textAs (read? : String → Option α) (node : Node) : Except Fault α := do
  match read? (← node.text) with
  | some value => .ok value
  | none => .error .mismatched

namespace Shape

/-- Read a value of the shape from a node. -/
def decode : (shape : Shape) → Node → Except Fault shape.Carrier
  | .uuid, node => node.textAs Uuid.read?
  | .text, node => node.text
  | .instant, node => node.textAs Instant.read?
  | .word32, node => (node.wholeBelow (Nat.pow 2 32)).map UInt32.ofNat
  | .word64, node => (node.wholeBelow (Nat.pow 2 64)).map UInt64.ofNat
  | .flag, .boolean value => .ok value
  | .flag, node => .error node.fault
  | .texts, .array items closed => textsOf closed [] items
  | .texts, node => .error node.fault
  | .dictionary, .object members closed => entriesOf closed .empty members
  | .dictionary, node => .error node.fault
  | .optional _, .null => .ok none
  | .optional inner, node => (inner.decode node).map some

/-- The JSON that stands for a value of the shape. -/
def encode : (shape : Shape) → shape.Carrier → Value
  | .uuid, value => .string value.text
  | .text, value => .string value
  | .instant, value => .string value.text
  | .word32, value => .natural value.toNat
  | .word64, value => .natural value.toNat
  | .flag, value => .boolean value
  | .texts, value => .texts value
  | .dictionary, value => .dictionary value
  | .optional _, none => .null
  | .optional inner, some value => inner.encode value

end Shape

/-- A named field, with the value it has when it is left out, if it may be. -/
structure Field where
  name : String
  shape : Shape
  fallback : Option shape.Carrier

def Field.required (name : String) (shape : Shape) : Field :=
  ⟨name, shape, none⟩

def Field.default (name : String) (shape : Shape) (value : shape.Carrier) : Field :=
  ⟨name, shape, some value⟩

def Row : List Field → Type
  | [] => Unit
  | field :: fields => field.shape.Carrier × Row fields

def Slots : List Field → Type
  | [] => Unit
  | field :: fields => Option field.shape.Carrier × Slots fields

namespace Slots

def empty : (fields : List Field) → Slots fields
  | [] => ()
  | _ :: fields => (none, empty fields)

/-- Fill the slot of a member.  A second value for a field is a mismatch before
the value is looked at; a member that is no field is skipped. -/
def put (key : String) (node : Node) :
    (fields : List Field) → Slots fields → Except Fault (Slots fields)
  | [], slots => if node.isIntact then .ok slots else .error .malformed
  | field :: fields, (held, others) =>
    if field.name = key then
      if held.isSome then .error .mismatched
      else do
        let value ← field.shape.decode node
        .ok (some value, others)
    else do
      let others ← put key node fields others
      .ok (held, others)

def putAll {fields : List Field} (slots : Slots fields) :
    List (Option String × Node) → Except Fault (Slots fields)
  | [] => .ok slots
  | (none, _) :: _ => .error .malformed
  | (some key, node) :: rest => do putAll (← put key node fields slots) rest

/-- The full row, with fallbacks for empty slots; some field without a fallback
may be missing. -/
def toRow? : (fields : List Field) → Slots fields → Option (Row fields)
  | [], _ => some ()
  | field :: fields, (held, others) => do
    let value ← held.or field.fallback
    let rest ← toRow? fields others
    some (value, rest)

end Slots

/-- Values in field order.  Fields left at the end take their fallbacks; values
beyond the last field break the text. -/
def Row.ofItems (closed : Bool) :
    (fields : List Field) → List Node → Except Fault (Row fields)
  | [], [] => if closed then .ok () else .error .malformed
  | [], _ :: _ => .error .malformed
  | field :: fields, [] =>
    if closed then
      match field.fallback with
      | some value => do
        let rest ← ofItems closed fields []
        .ok (value, rest)
      | none => .error .mismatched
    else .error .malformed
  | field :: fields, node :: items => do
    let value ← field.shape.decode node
    let rest ← ofItems closed fields items
    .ok (value, rest)

def Row.ofNode (fields : List Field) : Node → Except Fault (Row fields)
  | .object members closed => do
    let slots ← (Slots.empty fields).putAll members
    if !closed then .error .malformed
    else
      match slots.toRow? fields with
      | some row => .ok row
      | none => .error .mismatched
  | .array items closed => Row.ofItems closed fields items
  | node => .error node.fault

/-- The members that stand for a row, in field order. -/
def Row.members : (fields : List Field) → Row fields → List (String × Value)
  | [], _ => []
  | field :: fields, (value, rest) =>
    (field.name, field.shape.encode value) :: Row.members fields rest

/-- A type whose values are rows of fields. -/
class Record (α : Type) where
  fields : List Field
  toRow : α → Row fields
  ofRow : Row fields → α
  ofRow_toRow : ∀ record, ofRow (toRow record) = record
  toRow_ofRow : ∀ row, toRow (ofRow row) = row

/-- A type whose values have a JSON form. -/
class Form (α : Type) where
  encode : α → Value
  decode : Node → Except Fault α

/-- Records are written as objects with every field. -/
instance [Record α] : Form α where
  encode record := .object (Row.members _ (Record.toRow record))
  decode node := (Row.ofNode _ node).map Record.ofRow

def encode [Form α] (value : α) : Value :=
  Form.encode value

/-- Decode a text that holds one value and nothing after it. -/
def decode (α : Type) [Form α] (text : String) : Except Fault α := do
  let (root, trailing) := readNode text
  let value ← Form.decode root
  if trailing then .error .malformed else .ok value

mutual

/-- The node of a value that was read in full. -/
def Value.toNode : Value → Node
  | .null => .null
  | .boolean value => .boolean value
  | .number value => .number (some value)
  | .string value => .string (some value)
  | .array items => .array (itemNodes items) true
  | .object members => .object (memberNodes members) true

def itemNodes : List Value → List Node
  | [] => []
  | item :: rest => item.toNode :: itemNodes rest

def memberNodes : List (String × Value) → List (Option String × Node)
  | [] => []
  | (key, value) :: rest => (some key, value.toNode) :: memberNodes rest

end

def decodeValue (α : Type) [Form α] (value : Value) : Except Fault α :=
  Form.decode value.toNode

end Json

end ServiceGroups
