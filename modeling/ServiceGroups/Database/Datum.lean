import ServiceGroups.Failure
import ServiceGroups.Group
import ServiceGroups.Session
import ServiceGroups.Template

/-!
# Values and rows of the database

A bound value or a column of a row is a datum of one of the column types.  A
row is turned into a record column by column, in a fixed order; the first column
that is missing, null or of another type names the failure.
-/

namespace ServiceGroups

namespace Database

/-- A value of a column. -/
inductive Datum where
  | null
  | uuid (value : Uuid)
  | text (value : String)
  | texts (value : List String)
  | flag (value : Bool)
  /-- A 32-bit integer. -/
  | integer (value : Int)
  /-- A 64-bit integer. -/
  | long (value : Int)
  | instant (value : Instant)
  | json (value : Json.Value)

/-- A row: values by column. -/
abbrev Row : Type :=
  List (String × Datum)

def Datum.optionalText : Option String → Datum
  | none => .null
  | some value => .text value

namespace Row

/-- The value of a column, read as wanted. -/
def column {α : Type} (row : Row) (name : String) (read? : Datum → Option α) :
    Except Failure α :=
  match (row.lookup name).bind read? with
  | some value => .ok value
  | none => .error (.backend name "column does not decode")

def uuid (row : Row) (name : String) : Except Failure Uuid :=
  row.column name fun
    | .uuid value => some value
    | _ => none

def text (row : Row) (name : String) : Except Failure String :=
  row.column name fun
    | .text value => some value
    | _ => none

/-- A column of text that may be null. -/
def optionalText (row : Row) (name : String) : Except Failure (Option String) :=
  row.column name fun
    | .text value => some (some value)
    | .null => some none
    | _ => none

def texts (row : Row) (name : String) : Except Failure (List String) :=
  row.column name fun
    | .texts value => some value
    | _ => none

def flag (row : Row) (name : String) : Except Failure Bool :=
  row.column name fun
    | .flag value => some value
    | _ => none

def integer (row : Row) (name : String) : Except Failure Int :=
  row.column name fun
    | .integer value => some value
    | _ => none

def instant (row : Row) (name : String) : Except Failure Instant :=
  row.column name fun
    | .instant value => some value
    | _ => none

/-- A column of JSON that holds a dictionary. -/
def dictionary (row : Row) (name : String) : Except Failure Dictionary :=
  row.column name fun
    | .json value => (Json.Shape.dictionary.decode value.toNode).toOption
    | _ => none

end Row

def accountOfRow (row : Row) : Except Failure Account := do
  let id ← row.uuid "account_id"
  let name ← row.text "account_name"
  let cloudId ← row.uuid "triton_uuid"
  let createdAt ← row.instant "created_at"
  let updatedAt ← row.instant "updated_at"
  return ⟨⟨id⟩, name, cloudId, createdAt, updatedAt⟩

def credentialOfRow (row : Row) : Except Failure Credential := do
  let id ← row.uuid "account_id"
  let name ← row.text "account_name"
  let keyId ← row.text "key_id"
  let keyMaterial ← row.text "key_material"
  return ⟨⟨id⟩, name, keyId, keyMaterial⟩

/-- The template of a row.  The JSON columns are read first. -/
def templateOfRow (row : Row) : Except Failure Template := do
  let tags ← row.dictionary "tags"
  let metadata ← row.dictionary "metadata"
  let id ← row.uuid "template_id"
  let accountId ← row.uuid "account_id"
  let name ← row.text "name"
  let package ← row.text "package"
  let imageId ← row.text "image_id"
  let firewallEnabled ← row.flag "firewall_enabled"
  let networks ← row.texts "networks"
  let userData ← row.optionalText "user_data"
  let createdAt ← row.instant "created_at"
  return ⟨id, ⟨accountId⟩, name, package, imageId, firewallEnabled, networks, userData, tags,
    metadata, createdAt⟩

/-- A stored capacity, which must not be negative. -/
def capacityOf (stored : Int) : Except Failure UInt32 :=
  if 0 ≤ stored then .ok (UInt32.ofNat stored.toNat)
  else .error (.backendMessage ("invalid capacity in db: -" ++
    Text.decimalText stored.natAbs))

/-- The group of a row.  The capacity is read first. -/
def groupOfRow (row : Row) : Except Failure Group := do
  let stored ← row.integer "capacity"
  let capacity ← capacityOf stored
  let id ← row.uuid "group_id"
  let accountId ← row.uuid "account_id"
  let name ← row.text "group_name"
  let templateId ← row.uuid "template_id"
  let createdAt ← row.instant "created_at"
  let updatedAt ← row.instant "updated_at"
  return ⟨id, ⟨accountId⟩, name, templateId, capacity, createdAt, updatedAt⟩

def accountValues (account : Account) : List Datum :=
  [.uuid account.id.uuid, .text account.name, .uuid account.cloudId,
    .instant account.createdAt, .instant account.updatedAt]

def credentialValues (credential : Credential) : List Datum :=
  [.uuid credential.accountId.uuid, .text credential.accountName, .text credential.keyId,
    .text credential.keyMaterial]

def templateValues (template : Template) : List Datum :=
  [.uuid template.id, .uuid template.accountId.uuid, .text template.name,
    .text template.package, .text template.imageId, .flag template.firewallEnabled,
    .texts template.networks, .optionalText template.userData,
    .json (.dictionary template.tags), .json (.dictionary template.metadata),
    .instant template.createdAt]

/-- The capacity of a group as it is stored, if it fits. -/
def storedCapacity (group : Group) : Except Failure Int :=
  if group.capacity.toNat < Nat.pow 2 31 then .ok group.capacity.toNat
  else
    .error (.invalidInput ("capacity too large: " ++ Text.decimalText group.capacity.toNat))

def groupValues (group : Group) (capacity : Int) : List Datum :=
  [.uuid group.id, .uuid group.accountId.uuid, .text group.name, .uuid group.templateId,
    .integer capacity, .instant group.createdAt, .instant group.updatedAt]

/-- The largest page that is read at once. -/
def maxPage : Nat :=
  1000

/-- Limit and offset of a page as they are bound. -/
def pageValues (page : Page) : Except Failure (List Datum) :=
  if page.offset.toNat < Nat.pow 2 63 then
    .ok [.long (min page.limit.toNat maxPage), .long page.offset.toNat]
  else
    .error (.invalidInput ("offset out of range: " ++ Text.decimalText page.offset.toNat))

end Database

end ServiceGroups
