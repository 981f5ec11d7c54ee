import ServiceGroups.Database.Engine
import ServiceGroups.Proofs.Text.ByteOrder

/-!
# Records as rows

Every record has a row with all its fields, and reading the row gives the record
back.  The row breaks no constraint of its columns, whatever the record holds.  Rows
agree in the columns of a key exactly when the records have the same key.
-/

namespace ServiceGroups

section Dictionaries

/-- A key above all others goes to the end. -/
theorem Dictionary.insertEntry_of_above {key value : String} {entries : List (String × String)}
    (above : ∀ other ∈ entries.map Prod.fst, other < key) :
    insertEntry key value entries = entries ++ [(key, value)] := by
  induction entries with
  | nil => rfl
  | cons entry rest ih =>
      obtain ⟨first, others⟩ := List.forall_mem_cons.mp above
      have notBelow : ¬ key < entry.1 := String.lt_asymm first
      have notEqual : key ≠ entry.1 := fun same => String.lt_irrefl _ (same ▸ first)
      rw [insertEntry, if_neg notBelow, if_neg notEqual, ih others, List.cons_append]

/-- Entries in increasing order are read one behind the other. -/
theorem Json.entriesOf_increasing (entries : List (String × String)) (read : Dictionary)
    (increasing : KeysIncrease (read.entries ++ entries)) :
    ∃ dictionary, Json.entriesOf true read
        (Json.memberNodes (entries.map fun entry => (entry.1, .string entry.2))) =
          .ok dictionary ∧ dictionary.entries = read.entries ++ entries := by
  induction entries generalizing read with
  | nil => exact ⟨read, rfl, (List.append_nil _).symm⟩
  | cons entry rest ih =>
      have above : ∀ other ∈ read.entries.map Prod.fst, other < entry.1 := by
        intro other member
        rw [KeysIncrease, List.map_append, List.pairwise_append] at increasing
        exact increasing.2.2 other member entry.1 List.mem_cons_self
      have inserted : (read.insert entry.1 entry.2).entries = read.entries ++ [entry] :=
        Dictionary.insertEntry_of_above above
      have more : KeysIncrease ((read.insert entry.1 entry.2).entries ++ rest) := by
        rwa [inserted, List.append_assoc]
      obtain ⟨dictionary, decoded, content⟩ := ih _ more
      refine ⟨dictionary, decoded, ?_⟩
      rw [content, inserted, List.append_assoc]
      rfl

/-- A dictionary is read back from its JSON form. -/
theorem Json.decode_dictionary (dictionary : Dictionary) :
    Json.Shape.dictionary.decode (Json.Value.dictionary dictionary).toNode = .ok dictionary := by
  obtain ⟨read, decoded, content⟩ :=
    Json.entriesOf_increasing dictionary.entries .empty dictionary.increasing
  have same : read = dictionary := by
    cases read
    cases dictionary
    exact Dictionary.mk.injEq .. ▸ content
  rw [Json.Value.dictionary, Json.Value.toNode, Json.Shape.decode]
  exact same ▸ decoded

end Dictionaries

namespace Database

def accountRow (account : Account) : Row :=
  accountColumns.zip (accountValues account)

def credentialRow (credential : Credential) : Row :=
  credentialColumns.zip (credentialValues credential)

def templateRow (template : Template) : Row :=
  templateColumns.zip (templateValues template)

def groupRow (group : Group) : Row :=
  groupColumns.zip (groupValues group group.capacity.toNat)

section Reading

theorem accountOfRow_accountRow (account : Account) :
    accountOfRow (accountRow account) = .ok account :=
  rfl

theorem credentialOfRow_credentialRow (credential : Credential) :
    credentialOfRow (credentialRow credential) = .ok credential :=
  rfl

/-- A column that holds the JSON form of a dictionary is read as the dictionary. -/
theorem dictionary_of_lookup {row : Row} {name : String} {content : Dictionary}
    (held : row.lookup name = some (.json (.dictionary content))) :
    row.dictionary name = .ok content := by
  rw [Row.dictionary, Row.column, held, Option.bind_some]
  simp only [Json.decode_dictionary, Except.toOption]

theorem templateOfRow_templateRow (template : Template) :
    templateOfRow (templateRow template) = .ok template := by
  have tags : (templateRow template).dictionary "tags" = .ok template.tags :=
    dictionary_of_lookup rfl
  have metadata : (templateRow template).dictionary "metadata" = .ok template.metadata :=
    dictionary_of_lookup rfl
  have userData : (templateRow template).optionalText "user_data" = .ok template.userData := by
    have held : (templateRow template).lookup "user_data" =
        some (.optionalText template.userData) := rfl
    rw [Row.optionalText, Row.column, held, Option.bind_some]
    cases template.userData with
    | none => rfl
    | some text => rfl
  rw [templateOfRow, tags, metadata, userData]
  rfl

theorem capacityOf_toNat (capacity : UInt32) : capacityOf capacity.toNat = .ok capacity := by
  rw [capacityOf, if_pos (Int.natCast_nonneg _), Int.toNat_natCast, UInt32.ofNat_toNat]

theorem groupOfRow_groupRow (group : Group) : groupOfRow (groupRow group) = .ok group := by
  have capacity : (groupRow group).integer "capacity" = .ok group.capacity.toNat := rfl
  rw [groupOfRow, capacity]
  simp only [bind, Except.bind, capacityOf_toNat]
  rfl

end Reading

section Columns

variable (contents : Contents)

theorem accountRow_columnBreach? (account : Account) :
    accountsTable.columnBreach? (accountRow account) = none :=
  rfl

theorem credentialRow_columnBreach? (credential : Credential) :
    credentialsTable.columnBreach? (credentialRow credential) = none :=
  rfl

theorem templateRow_columnBreach? (template : Template) :
    templatesTable.columnBreach? (templateRow template) = none := by
  cases template with
  | mk id accountId name package imageId firewallEnabled networks userData =>
      cases userData with
      | none => rfl
      | some text => rfl

theorem groupRow_columnBreach? (group : Group) :
    groupsTable.columnBreach? (groupRow group) = none := by
  have natural : decide ((group.capacity.toNat : Int) < 0) = false :=
    decide_eq_false (Int.not_lt.mpr (Int.natCast_nonneg _))
  have capacity : Column.breach?
      { name := "capacity", type := .integer, isRequired := true, isNatural := true }
      (groupRow group) =
        if decide ((group.capacity.toNat : Int) < 0) then some "23514" else none := rfl
  rw [natural] at capacity
  rw [TableSchema.columnBreach?, List.findSome?_eq_none_iff]
  simp only [groupsTable, List.forall_mem_cons, List.not_mem_nil, false_implies, implies_true,
    and_true]
  exact ⟨rfl, rfl, rfl, rfl, capacity, rfl, rfl⟩

end Columns

section Keys

theorem equals_owner (first second : AccountId) :
    Datum.equals (.uuid first.uuid) (.uuid second.uuid) = decide (first = second) := by
  cases first
  cases second
  rw [Datum.equals, Bool.eq_iff_iff]
  simp

theorem equals_uuid (first second : Uuid) :
    Datum.equals (.uuid first) (.uuid second) = decide (first = second) :=
  rfl

theorem agrees_accountRow (first second : Account) :
    Row.agrees ["account_id"] (accountRow first) (accountRow second) =
      (decide (first.id = second.id) && true) := by
  rw [← equals_owner]
  rfl

theorem agrees_credentialRow (first second : Credential) :
    Row.agrees ["account_id"] (credentialRow first) (credentialRow second) =
      (decide (first.accountId = second.accountId) && true) := by
  rw [← equals_owner]
  rfl

theorem agrees_templateRow (first second : Template) :
    Row.agrees ["template_id"] (templateRow first) (templateRow second) =
      (decide (first.id = second.id) && true) :=
  rfl

theorem agrees_templateRow_owner (first second : Template) :
    Row.agrees ["account_id"] (templateRow first) (templateRow second) =
      (decide (first.accountId = second.accountId) && true) := by
  rw [← equals_owner]
  rfl

theorem agrees_groupRow_id (first second : Group) :
    Row.agrees ["group_id"] (groupRow first) (groupRow second) =
      (decide (first.id = second.id) && true) :=
  rfl

theorem agrees_groupRow (first second : Group) :
    Row.agrees ["account_id", "group_name"] (groupRow first) (groupRow second) =
      (decide ((first.accountId, first.name) = (second.accountId, second.name)) && true) := by
  have both : Row.agrees ["account_id", "group_name"] (groupRow first) (groupRow second) =
      (decide (first.accountId = second.accountId) &&
        (decide (first.name = second.name) && true)) := by
    rw [← equals_owner]
    rfl
  rw [both, Bool.and_true, Bool.and_true, Bool.eq_iff_iff]
  simp

end Keys

section Conditions

theorem fits_accountRow (id : AccountId) (account : Account) :
    Row.fits [("account_id", .uuid id.uuid)] (accountRow account) =
      (decide (account.id = id) && true) := by
  rw [← equals_owner]
  rfl

theorem fits_credentialRow (id : AccountId) (credential : Credential) :
    Row.fits [("account_id", .uuid id.uuid)] (credentialRow credential) =
      (decide (credential.accountId = id) && true) := by
  rw [← equals_owner]
  rfl

theorem fits_templateRow (owner : AccountId) (id : Uuid) (template : Template) :
    Row.fits [("account_id", .uuid owner.uuid), ("template_id", .uuid id)]
        (templateRow template) =
      (decide (template.id = id) && decide (template.accountId = owner)) := by
  rw [← equals_owner, ← equals_uuid, Bool.and_comm, ← Bool.and_true (Datum.equals (.uuid template.id) _)]
  rfl

theorem fits_groupRow (owner : AccountId) (name : String) (group : Group) :
    Row.fits [("account_id", .uuid owner.uuid), ("group_name", .text name)] (groupRow group) =
      (decide ((group.accountId, group.name) = (owner, name)) && true) := by
  have both : Row.fits [("account_id", .uuid owner.uuid), ("group_name", .text name)]
      (groupRow group) =
        (decide (group.accountId = owner) && (decide (group.name = name) && true)) := by
    rw [← equals_owner]
    rfl
  rw [both, Bool.and_true, Bool.and_true, Bool.eq_iff_iff]
  simp

theorem fits_templateRow_owner (owner : AccountId) (template : Template) :
    Row.fits [("account_id", .uuid owner.uuid)] (templateRow template) =
      (template.accountId == owner) := by
  have owned : (template.accountId == owner) = decide (template.accountId = owner) := rfl
  rw [owned, ← equals_owner, ← Bool.and_true (Datum.equals _ _)]
  rfl

theorem fits_groupRow_owner (owner : AccountId) (group : Group) :
    Row.fits [("account_id", .uuid owner.uuid)] (groupRow group) =
      (group.accountId == owner) := by
  have owned : (group.accountId == owner) = decide (group.accountId = owner) := rfl
  rw [owned, ← equals_owner, ← Bool.and_true (Datum.equals _ _)]
  rfl

end Conditions

section Order

theorem order_templateRow (first second : Template) :
    (Row.order ["created_at", "template_id"] (templateRow first) (templateRow second)).isLE =
      Store.templateBefore first second := by
  have order : Row.order ["created_at", "template_id"] (templateRow first) (templateRow second) =
      (compare first.createdAt second.createdAt).then
        ((compare first.id second.id).then .eq) := rfl
  rw [order, Ordering.then_eq]
  rfl

theorem order_groupRow (first second : Group) :
    (Row.order ["group_name"] (groupRow first) (groupRow second)).isLE =
      Store.groupBefore first second := by
  have order : Row.order ["group_name"] (groupRow first) (groupRow second) =
      (compareOfLessAndEq (Text.bytes first.name) (Text.bytes second.name)).then .eq := rfl
  rw [order, Ordering.then_eq, Text.isLE_compareOfLessAndEq_bytes, Store.groupBefore]

end Order

section Updates

theorem replace_accountRow (old new : Account) :
    (accountRow old).replace ["account_name", "triton_uuid", "updated_at"] (accountRow new) =
      accountRow { new with id := old.id, createdAt := old.createdAt } :=
  rfl

theorem replace_credentialRow (old new : Credential) :
    (credentialRow old).replace ["account_name", "key_id", "key_material"] (credentialRow new) =
      credentialRow { new with accountId := old.accountId } :=
  rfl

theorem replace_templateRow (old new : Template) :
    (templateRow old).replace ["name", "package", "image_id", "firewall_enabled", "networks",
        "user_data", "tags", "metadata"] (templateRow new) =
      templateRow { new with
        id := old.id, accountId := old.accountId, createdAt := old.createdAt } :=
  rfl

theorem replace_groupRow (old new : Group) :
    (groupRow old).replace ["template_id", "capacity", "updated_at"] (groupRow new) =
      groupRow { new with
        id := old.id, accountId := old.accountId, name := old.name,
        createdAt := old.createdAt } :=
  rfl

end Updates

section Selection

theorem project_accountRow (account : Account) :
    (accountRow account).project accountColumns = accountRow account :=
  rfl

theorem project_credentialRow (credential : Credential) :
    (credentialRow credential).project credentialColumns = credentialRow credential :=
  rfl

theorem project_templateRow (template : Template) :
    (templateRow template).project templateColumns = templateRow template :=
  rfl

theorem project_groupRow (group : Group) :
    (groupRow group).project groupColumns = groupRow group :=
  rfl

end Selection

end Database

end ServiceGroups
