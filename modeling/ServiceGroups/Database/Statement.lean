import ServiceGroups.Text.Numeral

/-!
# Statements of the database

The database is addressed by a handful of statements: inserting a row, with or
without a rule for when its key is taken, selecting rows by equality of columns,
and deleting rows by equality of columns.  A statement is kept as data, so that
its meaning can be given beside its text.  Values are bound to numbered places,
from one on, in the order in which they are written.
-/

namespace ServiceGroups

namespace Database

/-- What an insert does when a row with the same key exists: the columns it
replaces, and columns in which both rows must agree for that. -/
structure OnConflict where
  key : List String
  replaced : List String
  agreeing : List String
deriving DecidableEq, Repr

/-- A statement. -/
inductive Statement where
  | insert (table : String) (columns : List String) (onConflict : Option OnConflict)
  | select (table : String) (columns : List String) (equal : List String)
    (order : List String) (isPaged : Bool)
  | delete (table : String) (equal : List String)
  | script (text : String)
deriving DecidableEq, Repr

namespace Statement

def place (number : Nat) : String :=
  "$" ++ Text.decimalText number

def listed (items : List String) : String :=
  String.intercalate ", " items

def bindings (columns : List String) : String :=
  String.intercalate " AND "
    (columns.zipIdx.map fun (column, index) => column ++ " = " ++ place (index + 1))

/-- Columns longer than a line stand apart from their parentheses. -/
def columnList (columns : List String) : String :=
  if 5 < columns.length then "( " ++ listed columns ++ " )" else "(" ++ listed columns ++ ")"

/-- The rule for a key that is taken. -/
def onConflictText (table : String) (rule : OnConflict) : String :=
  let guard :=
    if rule.agreeing.isEmpty then ""
    else " WHERE " ++ String.intercalate " AND "
      (rule.agreeing.map fun column => table ++ "." ++ column ++ " = EXCLUDED." ++ column)
  " ON CONFLICT (" ++ listed rule.key ++ ") DO UPDATE SET " ++
    listed (rule.replaced.map fun column => column ++ " = EXCLUDED." ++ column) ++ guard

def text : Statement → String
  | .insert table columns onConflict =>
    "INSERT INTO " ++ table ++ " " ++ columnList columns ++ " VALUES (" ++
      listed ((List.range columns.length).map fun index => place (index + 1)) ++ ")" ++
      (match onConflict with
        | none => ""
        | some rule => onConflictText table rule)
  | .select table columns equal order isPaged =>
    "SELECT " ++ listed columns ++ " FROM " ++ table ++ " WHERE " ++ bindings equal ++
      (if order.isEmpty then "" else " ORDER BY " ++ listed (order.map (· ++ " ASC"))) ++
      (if isPaged then
        " LIMIT " ++ place (equal.length + 1) ++ " OFFSET " ++ place (equal.length + 2)
      else "")
  | .delete table equal => "DELETE FROM " ++ table ++ " WHERE " ++ bindings equal
  | .script text => text

end Statement

def accountColumns : List String :=
  ["account_id", "account_name", "triton_uuid", "created_at", "updated_at"]

def credentialColumns : List String :=
  ["account_id", "account_name", "key_id", "key_material"]

def templateColumns : List String :=
  ["template_id", "account_id", "name", "package", "image_id", "firewall_enabled",
    "networks", "user_data", "tags", "metadata", "created_at"]

def groupColumns : List String :=
  ["group_id", "account_id", "group_name", "template_id", "capacity", "created_at",
    "updated_at"]

/-- Write an account; its time of creation is never replaced. -/
def upsertAccount : Statement :=
  .insert "tsg_accounts" accountColumns
    (some ⟨["account_id"], ["account_name", "triton_uuid", "updated_at"], []⟩)

def selectAccount : Statement :=
  .select "tsg_accounts" accountColumns ["account_id"] [] false

def upsertCredential : Statement :=
  .insert "tsg_triton_credentials" credentialColumns
    (some ⟨["account_id"], ["account_name", "key_id", "key_material"], []⟩)

def selectCredential : Statement :=
  .select "tsg_triton_credentials" credentialColumns ["account_id"] [] false

/-- Write a template; one of another account is left alone. -/
def upsertTemplate : Statement :=
  .insert "tsg_templates" templateColumns
    (some ⟨["template_id"], ["name", "package", "image_id", "firewall_enabled", "networks",
      "user_data", "tags", "metadata"], ["account_id"]⟩)

def selectTemplate : Statement :=
  .select "tsg_templates" templateColumns ["account_id", "template_id"] [] false

def selectTemplates : Statement :=
  .select "tsg_templates" templateColumns ["account_id"] ["created_at", "template_id"] true

def deleteTemplate : Statement :=
  .delete "tsg_templates" ["account_id", "template_id"]

def insertGroup : Statement :=
  .insert "tsg_groups" groupColumns none

/-- Write a group; its identity and time of creation are never replaced. -/
def upsertGroup : Statement :=
  .insert "tsg_groups" groupColumns
    (some ⟨["account_id", "group_name"], ["template_id", "capacity", "updated_at"], []⟩)

def selectGroup : Statement :=
  .select "tsg_groups" groupColumns ["account_id", "group_name"] [] false

def selectGroups : Statement :=
  .select "tsg_groups" groupColumns ["account_id"] ["group_name"] true

def deleteGroup : Statement :=
  .delete "tsg_groups" ["account_id", "group_name"]

def createTables : Statement :=
  .script
    ("CREATE TABLE IF NOT EXISTS tsg_accounts ( account_id UUID PRIMARY KEY, " ++
      "account_name TEXT NOT NULL, triton_uuid UUID NOT NULL, " ++
      "created_at TIMESTAMPTZ NOT NULL DEFAULT now(), " ++
      "updated_at TIMESTAMPTZ NOT NULL DEFAULT now() ); " ++
      "CREATE TABLE IF NOT EXISTS tsg_triton_credentials ( account_id UUID PRIMARY KEY " ++
      "REFERENCES tsg_accounts (account_id) ON DELETE CASCADE, " ++
      "account_name TEXT NOT NULL, key_id TEXT NOT NULL, key_material TEXT NOT NULL ); " ++
      "CREATE TABLE IF NOT EXISTS tsg_templates ( template_id UUID PRIMARY KEY, " ++
      "account_id UUID NOT NULL REFERENCES tsg_accounts (account_id) ON DELETE CASCADE, " ++
      "name TEXT NOT NULL, package TEXT NOT NULL, image_id TEXT NOT NULL, " ++
      "firewall_enabled BOOLEAN NOT NULL DEFAULT FALSE, " ++
      "networks TEXT[] NOT NULL DEFAULT '\x7b\x7d', user_data TEXT, " ++
      "tags JSONB NOT NULL DEFAULT '\x7b\x7d'::jsonb, " ++
      "metadata JSONB NOT NULL DEFAULT '\x7b\x7d'::jsonb, " ++
      "created_at TIMESTAMPTZ NOT NULL DEFAULT now() ); " ++
      "CREATE INDEX IF NOT EXISTS tsg_templates_account_idx ON tsg_templates " ++
      "(account_id, created_at); " ++
      "CREATE TABLE IF NOT EXISTS tsg_groups ( group_id UUID PRIMARY KEY, " ++
      "account_id UUID NOT NULL REFERENCES tsg_accounts (account_id) ON DELETE CASCADE, " ++
      "group_name TEXT NOT NULL, " ++
      "template_id UUID NOT NULL REFERENCES tsg_templates (template_id), " ++
      "capacity INTEGER NOT NULL CHECK (capacity >= 0), " ++
      "created_at TIMESTAMPTZ NOT NULL DEFAULT now(), " ++
      "updated_at TIMESTAMPTZ NOT NULL DEFAULT now(), UNIQUE (account_id, group_name) );")

end Database

end ServiceGroups
