import ServiceGroups.Database.Statement

/-!
# The tables of the database

The tables as data: the columns with their types and constraints, in the order in
which the script creates them.  The script is the text of this data, so that a
constraint that is enforced is one that the script declares.
-/

namespace ServiceGroups

namespace Database

/-- The types of columns. -/
inductive ColumnType where
  | uuid
  | text
  | texts
  | flag
  | integer
  | instant
  | json
deriving DecidableEq, Repr

def ColumnType.word : ColumnType → String
  | .uuid => "UUID"
  | .text => "TEXT"
  | .texts => "TEXT[]"
  | .flag => "BOOLEAN"
  | .integer => "INTEGER"
  | .instant => "TIMESTAMPTZ"
  | .json => "JSONB"

/-- A row must find one with its value in a column of another table; where the
reference cascades, the row goes when that one goes. -/
structure Reference where
  table : String
  column : String
  cascades : Bool
deriving DecidableEq, Repr

/-- A column and its constraints. -/
structure Column where
  name : String
  type : ColumnType
  isPrimary : Bool := false
  isRequired : Bool := false
  reference : Option Reference := none
  default : Option String := none
  /-- Are negative numbers refused? -/
  isNatural : Bool := false
deriving DecidableEq, Repr

/-- A table: its columns, and lists of columns in which no two rows agree. -/
structure TableSchema where
  name : String
  columns : List Column
  unique : List (List String) := []
deriving DecidableEq, Repr

def Reference.text (reference : Reference) : String :=
  " REFERENCES " ++ reference.table ++ " (" ++ reference.column ++ ")" ++
    (if reference.cascades then " ON DELETE CASCADE" else "")

def Column.text (column : Column) : String :=
  column.name ++ " " ++ column.type.word ++
    (if column.isPrimary then " PRIMARY KEY" else "") ++
    (if column.isRequired then " NOT NULL" else "") ++
    ((column.reference.map Reference.text).getD "") ++
    ((column.default.map (" DEFAULT " ++ ·)).getD "") ++
    (if column.isNatural then " CHECK (" ++ column.name ++ " >= 0)" else "")

def TableSchema.text (table : TableSchema) : String :=
  "CREATE TABLE IF NOT EXISTS " ++ table.name ++ " ( " ++
    Statement.listed (table.columns.map Column.text ++
      table.unique.map fun columns => "UNIQUE (" ++ Statement.listed columns ++ ")") ++ " );"

/-- The columns in which no two rows agree. -/
def TableSchema.keys (table : TableSchema) : List (List String) :=
  (table.columns.filter Column.isPrimary).map (fun column => [column.name]) ++ table.unique

/-- A reference to the account that owns the row. -/
def ownerReference : Reference :=
  ⟨"tsg_accounts", "account_id", true⟩

def accountsTable : TableSchema where
  name := "tsg_accounts"
  columns :=
    [{ name := "account_id", type := .uuid, isPrimary := true },
      { name := "account_name", type := .text, isRequired := true },
      { name := "triton_uuid", type := .uuid, isRequired := true },
      { name := "created_at", type := .instant, isRequired := true, default := some "now()" },
      { name := "updated_at", type := .instant, isRequired := true, default := some "now()" }]

def credentialsTable : TableSchema where
  name := "tsg_triton_credentials"
  columns :=
    [{ name := "account_id", type := .uuid, isPrimary := true, reference := some ownerReference },
      { name := "account_name", type := .text, isRequired := true },
      { name := "key_id", type := .text, isRequired := true },
      { name := "key_material", type := .text, isRequired := true }]

def templatesTable : TableSchema where
  name := "tsg_templates"
  columns :=
    [{ name := "template_id", type := .uuid, isPrimary := true },
      { name := "account_id", type := .uuid, isRequired := true,
        reference := some ownerReference },
      { name := "name", type := .text, isRequired := true },
      { name := "package", type := .text, isRequired := true },
      { name := "image_id", type := .text, isRequired := true },
      { name := "firewall_enabled", type := .flag, isRequired := true, default := some "FALSE" },
      { name := "networks", type := .texts, isRequired := true,
        default := some "'\x7b\x7d'" },
      { name := "user_data", type := .text },
      { name := "tags", type := .json, isRequired := true,
        default := some "'\x7b\x7d'::jsonb" },
      { name := "metadata", type := .json, isRequired := true,
        default := some "'\x7b\x7d'::jsonb" },
      { name := "created_at", type := .instant, isRequired := true, default := some "now()" }]

def groupsTable : TableSchema where
  name := "tsg_groups"
  columns :=
    [{ name := "group_id", type := .uuid, isPrimary := true },
      { name := "account_id", type := .uuid, isRequired := true,
        reference := some ownerReference },
      { name := "group_name", type := .text, isRequired := true },
      { name := "template_id", type := .uuid, isRequired := true,
        reference := some ⟨"tsg_templates", "template_id", false⟩ },
      { name := "capacity", type := .integer, isRequired := true, isNatural := true },
      { name := "created_at", type := .instant, isRequired := true, default := some "now()" },
      { name := "updated_at", type := .instant, isRequired := true, default := some "now()" }]
  unique := [["account_id", "group_name"]]

/-- All tables; a table only refers to tables before it. -/
def schema : List TableSchema :=
  [accountsTable, credentialsTable, templatesTable, groupsTable]

-- The index makes listings fast and has no other meaning.
example :
    createTables = .script (String.intercalate " "
      [accountsTable.text, credentialsTable.text, templatesTable.text,
        "CREATE INDEX IF NOT EXISTS tsg_templates_account_idx ON tsg_templates " ++
          "(account_id, created_at);",
        groupsTable.text]) := by
  decide +kernel

-- Every insert gives every column of its table.
example :
    accountsTable.columns.map Column.name = accountColumns ∧
      credentialsTable.columns.map Column.name = credentialColumns ∧
      templatesTable.columns.map Column.name = templateColumns ∧
      groupsTable.columns.map Column.name = groupColumns := by
  decide

end Database

end ServiceGroups
