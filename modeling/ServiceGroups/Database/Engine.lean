import ServiceGroups.Database.Schema
import ServiceGroups.Database.Store
import ServiceGroups.Text.Utf

/-!
# What statements mean

The database holds rows for each table, and a statement reads them or turns them
into others.  A write happens only if every constraint holds afterwards: columns
have their types, required columns are not null, no two rows agree in the columns of
a key, and every reference finds its row.  A write that breaks a constraint is
refused with the code of the constraint and changes nothing.  Text is compared byte
by byte, and instants are kept as they are given.
-/

namespace ServiceGroups

namespace Database

/-- The rows of each table. -/
abbrev Contents : Type :=
  String → List Row

namespace Contents

def empty : Contents :=
  fun _ => []

/-- The contents with other rows in one table. -/
def set (contents : Contents) (table : String) (rows : List Row) : Contents :=
  fun other => if other = table then rows else contents other

end Contents

section Data

/-- Text is stored unless it holds the character zero. -/
def isStorableText (text : String) : Bool :=
  !text.toList.contains '\x00'

mutual

def isStorableJson : Json.Value → Bool
  | .null => true
  | .boolean _ => true
  | .number _ => true
  | .string text => isStorableText text
  | .array items => areStorableItems items
  | .object members => areStorableMembers members

def areStorableItems : List Json.Value → Bool
  | [] => true
  | item :: rest => isStorableJson item && areStorableItems rest

def areStorableMembers : List (String × Json.Value) → Bool
  | [] => true
  | (key, value) :: rest =>
    isStorableText key && isStorableJson value && areStorableMembers rest

end

/-- May the value be bound at all? -/
def Datum.isStorable : Datum → Bool
  | .text value => isStorableText value
  | .texts values => values.all isStorableText
  | .json value => isStorableJson value
  | .integer value => decide (-Nat.pow 2 31 ≤ value ∧ value < Nat.pow 2 31)
  | .long value => decide (-Nat.pow 2 63 ≤ value ∧ value < Nat.pow 2 63)
  | _ => true

def ColumnType.admits : ColumnType → Datum → Bool
  | .uuid, .uuid _ => true
  | .text, .text _ => true
  | .texts, .texts _ => true
  | .flag, .flag _ => true
  | .integer, .integer _ => true
  | .instant, .instant _ => true
  | .json, .json _ => true
  | _, _ => false

/-- Equality of values in keys, references and conditions.  Null equals nothing. -/
def Datum.equals : Datum → Datum → Bool
  | .uuid first, .uuid second => first == second
  | .text first, .text second => first == second
  | _, _ => false

/-- The order of values in listings. -/
def Datum.order : Datum → Datum → Ordering
  | .uuid first, .uuid second => compare first second
  | .text first, .text second => compareOfLessAndEq (Text.bytes first) (Text.bytes second)
  | .instant first, .instant second => compare first second
  | _, _ => .eq

end Data

namespace Row

/-- The value in a column. -/
def value (row : Row) (column : String) : Datum :=
  (row.lookup column).getD .null

def agrees (columns : List String) (first second : Row) : Bool :=
  columns.all fun column => (first.value column).equals (second.value column)

/-- Do columns of the row have the bound values? -/
def fits (bindings : List (String × Datum)) (row : Row) : Bool :=
  bindings.all fun binding => (row.value binding.1).equals binding.2

/-- The row with some columns replaced by those of another. -/
def replace (columns : List String) (row given : Row) : Row :=
  row.map fun entry => if entry.1 ∈ columns then (entry.1, given.value entry.1) else entry

def project (columns : List String) (row : Row) : Row :=
  columns.map fun column => (column, row.value column)

/-- The order of rows by columns, the first of which counts most. -/
def order : List String → Row → Row → Ordering
  | [], _, _ => .eq
  | column :: rest, first, second =>
    ((first.value column).order (second.value column)).then (order rest first second)

end Row

section Constraints

/-- The constraint of its column that a value breaks. -/
def Column.breach? (column : Column) (row : Row) : Option String :=
  match row.value column.name with
  | .null => if column.isPrimary || column.isRequired then some "23502" else none
  | .integer value =>
    if !column.type.admits (.integer value) then some "42804"
    else if column.isNatural && decide (value < 0) then some "23514"
    else none
  | value => if column.type.admits value then none else some "42804"

/-- Does the reference of the column find no row? -/
def Column.dangles (contents : Contents) (row : Row) (column : Column) : Bool :=
  match column.reference with
  | none => false
  | some reference =>
    !(contents reference.table).any fun other =>
      (other.value reference.column).equals (row.value column.name)

namespace TableSchema

def columnBreach? (table : TableSchema) (row : Row) : Option String :=
  table.columns.findSome? (·.breach? row)

/-- The first constraint that a row breaks among the other rows of its table. -/
def breach? (table : TableSchema) (contents : Contents) (others : List Row) (row : Row) :
    Option String :=
  (table.columnBreach? row).or
    (if table.keys.any fun key => others.any (Row.agrees key · row) then some "23505"
    else if table.columns.any (Column.dangles contents row) then some "23503"
    else none)

end TableSchema

end Constraints

/-- Insert a row, or update the row that the rule finds in its way.  An update leaves a
row alone that does not agree with the given one as the rule wants. -/
def insertRow (table : TableSchema) (contents : Contents) (row : Row)
    (rule : Option OnConflict) : Except String (Nat × Contents) :=
  let rows := contents table.name
  match table.columnBreach? row, rule.bind fun rule =>
      (rows.find? (Row.agrees rule.key · row)).map (Prod.mk rule) with
  | some code, _ => .error code
  | none, some (rule, old) =>
    if Row.agrees rule.agreeing old row then
      let next := old.replace rule.replaced row
      match table.breach? contents (rows.filter (!Row.agrees rule.key · row)) next with
      | some code => .error code
      | none => .ok (1, contents.set table.name
          (rows.map fun other => if Row.agrees rule.key other row then next else other))
    else .ok (0, contents)
  | none, none =>
    match table.breach? contents rows row with
    | some code => .error code
    | none => .ok (1, contents.set table.name (rows ++ [row]))

/-- Does the row refer to one of the rows that go?  References that cascade and those
that do not are told apart. -/
def refersTo (columns : List Column) (cascades : Bool) (target : String) (gone : List Row)
    (row : Row) : Bool :=
  columns.any fun column =>
    column.reference.any fun reference =>
      reference.cascades == cascades && reference.table == target &&
        gone.any fun other => (other.value reference.column).equals (row.value column.name)

def columnsOf (table : String) : List Column :=
  ((schema.find? (·.name == table)).map TableSchema.columns).getD []

/-- Does a row of a table go when some rows of the target go?  A cascade takes one step,
because only references to accounts cascade. -/
def goesWith (target : String) (gone : List Row) (hit : Row → Bool) (table : String)
    (row : Row) : Bool :=
  if table = target then hit row else refersTo (columnsOf table) true target gone row

/-- Delete rows, unless a row that stays refers to one that goes. -/
def deleteRows (contents : Contents) (target : String) (hit : Row → Bool) :
    Except String (Nat × Contents) :=
  let gone := (contents target).filter hit
  let goes := goesWith target gone hit
  let left : Contents := fun table => (contents table).filter (!goes table ·)
  let isHeld := schema.any fun table => schema.any fun other =>
    (left table.name).any (refersTo table.columns false other.name
      ((contents other.name).filter (goes other.name)))
  if isHeld then .error "23503" else .ok (gone.length, left)

/-- The page of a listing that the bound values ask for. -/
def pageOf (rows : List Row) : List Datum → List Row
  | [.long limit, .long offset] => (rows.drop offset.toNat).take limit.toNat
  | _ => []

/-- Rows with the bound values, in order, as far as the page reaches. -/
def selectRows (rows : List Row) (columns equal order : List String) (isPaged : Bool)
    (values : List Datum) : List Row :=
  let found := (rows.filter (Row.fits (equal.zip values))).mergeSort fun first second =>
    (Row.order order first second).isLE
  let page := if isPaged then pageOf found (values.drop equal.length) else found
  page.map (Row.project columns)

/-- What is answered to a write, and the contents after it. -/
def settle (contents : Contents) : Except String (Nat × Contents) → Answer × Contents
  | .ok (count, next) => (.affected count, next)
  | .error code => (.refused code "constraint violated", contents)

/-- Execute a statement on the contents. -/
def execute (contents : Contents) (request : Request) : Answer × Contents :=
  if request.values.all Datum.isStorable then
    match request.statement with
    | .insert name columns rule =>
      match schema.find? (·.name == name) with
      | none => (.refused "42P01" "no such table", contents)
      | some table =>
        settle contents (insertRow table contents (columns.zip request.values) rule)
    | .select name columns equal order isPaged =>
      (.rows (selectRows (contents name) columns equal order isPaged request.values), contents)
    | .delete name equal =>
      settle contents (deleteRows contents name (Row.fits (equal.zip request.values)))
    | .script _ => (.affected 0, contents)
  else (.refused "22021" "value cannot be stored", contents)

/-- What the database answers when a call is made, and its contents afterwards. -/
def answerTo (contents : Contents) (call : StoreCall) : Answer × Contents :=
  match requestFor call with
  | .ok request => execute contents request
  | .error _ => (.affected 0, contents)

/-- A call on a database with the contents. -/
def serve (contents : Contents) (call : StoreCall) : Except Failure call.Reply × Contents :=
  let (answer, next) := answerTo contents call
  ((perform ⟨[answer], []⟩ call).1, next)

end Database

end ServiceGroups
