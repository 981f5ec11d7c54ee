import ServiceGroups.Json.Token

/-!
# Reading JSON as far as it goes

A reader that looks for records has to report the first problem of a text,
whether that is a wrong value or broken text.  So text is read into nodes that
also say how far it could be read: a container that was not closed ends where
the text broke, and nothing follows it.  Every container around a broken place
is unclosed, which makes it easy to see whether a node is intact.
-/

namespace ServiceGroups

namespace Json

/-- What was read of a value. -/
inductive Node where
  | null
  | boolean (value : Bool)
  | number (value : Option Number)
  | string (value : Option String)
  | array (items : List Node) (closed : Bool)
  | object (members : List (Option String × Node)) (closed : Bool)
  | broken
deriving Inhabited

def Node.isIntact : Node → Bool
  | .array _ closed => closed
  | .object _ closed => closed
  | .broken => false
  | _ => true

/-- A container whose content is being read, content in reverse. -/
inductive Frame where
  | array (items : List Node)
  | object (members : List (Option String × Node))
  | member (members : List (Option String × Node)) (key : Option String)

/-- What must come next. -/
inductive Awaited where
  | value
  | firstItem
  | firstKey
  | key
  | colon
  | separator
  | finished (root : Node) (trailing : Bool)

/-- A reader of tokens: the containers around the present place, innermost
first, and what must come next. -/
structure Reader where
  frames : List Frame
  awaited : Awaited

namespace Reader

def start : Reader :=
  ⟨[], .value⟩

/-- Hand a finished value to the innermost container. -/
def supply (node : Node) : List Frame → Reader
  | [] => ⟨[], .finished node false⟩
  | .array items :: frames => ⟨.array (node :: items) :: frames, .separator⟩
  | .object members :: frames => ⟨.object members :: frames, .separator⟩
  | .member members key :: frames => ⟨.object ((key, node) :: members) :: frames, .separator⟩

/-- What was read of a container when the text broke inside it; `inner` is what
was read of the broken value, if one had begun. -/
def Frame.unclosed (inner : Option Node) : Frame → Node
  | .array items => .array (inner.toList ++ items).reverse false
  | .object members => .object members.reverse false
  | .member members key => .object ((key, inner.getD .broken) :: members).reverse false

/-- What was read of the whole text when it broke. -/
def collapse (frames : List Frame) : Node :=
  (frames.foldl (fun inner frame => some (Frame.unclosed inner frame)) none).getD .broken

def abandon (reader : Reader) : Reader :=
  ⟨[], .finished (collapse reader.frames) false⟩

def value (reader : Reader) (token : Token) : Reader :=
  match token with
  | .null => supply .null reader.frames
  | .boolean value => supply (.boolean value) reader.frames
  | .number value => supply (.number value) reader.frames
  | .string value => supply (.string value) reader.frames
  | .openArray => ⟨.array [] :: reader.frames, .firstItem⟩
  | .openObject => ⟨.object [] :: reader.frames, .firstKey⟩
  | _ => reader.abandon

def key (reader : Reader) (token : Token) : Reader :=
  match token, reader.frames with
  | .string key, .object members :: frames => ⟨.member members key :: frames, .colon⟩
  | _, _ => reader.abandon

/-- A token after a value inside a container. -/
def separator (reader : Reader) (token : Token) : Reader :=
  match token, reader.frames with
  | .comma, .array items :: frames => ⟨.array items :: frames, .value⟩
  | .comma, .object members :: frames => ⟨.object members :: frames, .key⟩
  | .closeArray, .array items :: frames => supply (.array items.reverse true) frames
  | .closeObject, .object members :: frames => supply (.object members.reverse true) frames
  | _, _ => reader.abandon

def step (reader : Reader) (token : Token) : Reader :=
  match reader.awaited with
  | .value => reader.value token
  | .firstItem =>
    match token with
    | .closeArray => reader.separator token
    | _ => reader.value token
  | .firstKey =>
    match token with
    | .closeObject => reader.separator token
    | _ => reader.key token
  | .key => reader.key token
  | .colon =>
    match token with
    | .colon => ⟨reader.frames, .value⟩
    | _ => reader.abandon
  | .separator => reader.separator token
  | .finished root _ => ⟨reader.frames, .finished root true⟩

/-- What was read when the tokens have ended: the value, and whether anything
followed it. -/
def finish (reader : Reader) : Node × Bool :=
  match reader.awaited with
  | .finished root trailing => (root, trailing)
  | _ => (collapse reader.frames, false)

end Reader

/-- What a text holds: a value read as far as it goes, and whether anything
follows the value. -/
def readNode (text : String) : Node × Bool :=
  ((tokens text).foldl Reader.step Reader.start).finish

/-- Put a member in its place, replacing the value of an equal key. -/
def insertMember (key : String) (value : Value) :
    List (String × Value) → List (String × Value)
  | [] => [(key, value)]
  | member :: rest =>
    if key < member.1 then (key, value) :: member :: rest
    else if key = member.1 then (key, value) :: rest
    else member :: insertMember key value rest

mutual

/-- The value of a node that is intact, readable throughout and nested no more
than `depth` deep. -/
def Node.value? (depth : Nat) : Node → Option Value
  | .null => some .null
  | .boolean value => some (.boolean value)
  | .number value => value.map .number
  | .string value => value.map .string
  | .array items true =>
    match depth with
    | 0 => none
    | depth + 1 => (itemValues? depth items).map .array
  | .object members true =>
    match depth with
    | 0 => none
    | depth + 1 => (memberValues? depth members []).map .object
  | _ => none

def itemValues? (depth : Nat) : List Node → Option (List Value)
  | [] => some []
  | item :: rest => do
    let value ← item.value? depth
    let values ← itemValues? depth rest
    some (value :: values)

/-- The values of members, put among those already read; the last member under
a key counts. -/
def memberValues? (depth : Nat) :
    List (Option String × Node) → List (String × Value) → Option (List (String × Value))
  | [], values => some values
  | (key, node) :: rest, values => do
    let key ← key
    let value ← node.value? depth
    memberValues? depth rest (insertMember key value values)

end

/-- Containers nested deeper than this are not read as values. -/
def maxDepth : Nat :=
  127

/-- The value a text holds, if the text is JSON and holds nothing else. -/
def Value.read? (text : String) : Option Value :=
  match readNode text with
  | (root, false) => root.value? maxDepth
  | _ => none

end Json

end ServiceGroups
