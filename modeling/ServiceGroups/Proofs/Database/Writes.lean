import ServiceGroups.Proofs.Database.Reads

/-!
# Writing to the mirror

A write of the store and the statement for it are refused for the same reasons and
otherwise change the same row.  An upsert in the database keeps the time of creation of
an account or a template, so that it is the store's only for a value that carries the
time that is stored.  A template of another account is reported by the store as used
and by the database as missing.
-/

namespace ServiceGroups

namespace Store

/-- The call leaves nothing for the stores to differ in: it keeps the time of creation of
what it overwrites, and deletes no template of another account that is used. -/
def Settles (store : Store) : StoreCall → Prop
  | .upsertAccount row => ∀ old, store.accounts.find? row.id = some old →
      old.createdAt = row.createdAt
  | .upsertTemplate row => ∀ old, store.templates.find? row.id = some old →
      old.accountId = row.accountId → old.createdAt = row.createdAt
  | .deleteTemplate owner id => store.templateInUse id = true →
      ∀ template, store.templates.find? id = some template → template.accountId = owner
  | _ => True

end Store

namespace Database

variable {store : Store} {contents : Contents}

theorem execute_insert (contents : Contents) (name : String) (columns : List String)
    (rule : Option OnConflict) {values : List Datum} {table : TableSchema}
    (known : schema.find? (·.name == name) = some table)
    (storable : values.all Datum.isStorable = true) :
    execute contents ⟨.insert name columns rule, values⟩ =
      settle contents (insertRow table contents (columns.zip values) rule) := by
  rw [execute, if_pos storable]
  simp only [known]

theorem execute_delete (contents : Contents) (name : String) (equal : List String) {values : List Datum}
    (storable : values.all Datum.isStorable = true) :
    execute contents ⟨.delete name equal, values⟩ =
      settle contents (deleteRows contents name (Row.fits (equal.zip values))) := by
  rw [execute, if_pos storable]

/-- A write that succeeds on both sides follows if the database is a mirror afterwards. -/
theorem follows_write {call : StoreCall} {request : Request} {reply : call.Reply}
    {next : Store} {nextContents : Contents} {count : Nat}
    (performed : store.perform call = (.ok reply, next))
    (asked : requestFor call = .ok request)
    (executed : execute contents request = (.affected count, nextContents))
    (replied : replyOf call (.affected count) = .ok reply)
    (mirrors : Mirrors next nextContents) : Follows store contents call := by
  have served : serve contents call = (.ok reply, nextContents) := by
    rw [serve_eq asked, executed, replied]
  constructor
  · rw [performed, served]
    rfl
  · rw [performed, served]
    exact mirrors

/-- A write that is refused on both sides follows if the failures are of one kind. -/
theorem follows_refusal {call : StoreCall} {request : Request} {answer : Answer}
    {failure refusal : Failure} {nextContents : Contents} (mirrors : Mirrors store nextContents)
    (performed : store.perform call = (.error failure, store))
    (asked : requestFor call = .ok request)
    (executed : execute contents request = (answer, nextContents))
    (replied : replyOf call answer = .error refusal)
    (kind : failure.kind = refusal.kind) : Follows store contents call := by
  have served : serve contents call = (.error refusal, nextContents) := by
    rw [serve_eq asked, executed, replied]
  constructor
  · rw [performed, served]
    exact kind
  · rw [performed, served]
    exact mirrors

section Upserts

def accountRule : OnConflict :=
  ⟨["account_id"], ["account_name", "triton_uuid", "updated_at"], []⟩

def credentialRule : OnConflict :=
  ⟨["account_id"], ["account_name", "key_id", "key_material"], []⟩

def templateRule : OnConflict :=
  ⟨["template_id"], ["name", "package", "image_id", "firewall_enabled", "networks",
    "user_data", "tags", "metadata"], ["account_id"]⟩

def groupRule : OnConflict :=
  ⟨["account_id", "group_name"], ["template_id", "capacity", "updated_at"], []⟩

theorem templateValues_isStorable {template : Template}
    (admits : store.Admits (.upsertTemplate template)) :
    (templateValues template).all Datum.isStorable = true := by
  have text (value : String) (member : value ∈ (StoreCall.upsertTemplate template).texts) :
      isStorableText value = true :=
    isStorableText_of_not_mem (admits.texts value member)
  have name := text template.name (by simp [StoreCall.texts])
  have package := text template.package (by simp [StoreCall.texts])
  have imageId := text template.imageId (by simp [StoreCall.texts])
  have networks : template.networks.all isStorableText = true := by
    rw [List.all_eq_true]
    intro network member
    exact text network (by simp [StoreCall.texts, member])
  have userData : (Datum.optionalText template.userData).isStorable = true := by
    cases given : template.userData with
    | none => rfl
    | some content => exact text content (by simp [StoreCall.texts, given])
  have tags : isStorableJson (.dictionary template.tags) = true := by
    refine areStorableMembers_entries fun entry member => ⟨text _ ?_, text _ ?_⟩
    · simp only [StoreCall.texts, List.mem_append, List.mem_flatMap]
      exact .inl (.inr ⟨entry, member, by simp⟩)
    · simp only [StoreCall.texts, List.mem_append, List.mem_flatMap]
      exact .inl (.inr ⟨entry, member, by simp⟩)
  have metadata : isStorableJson (.dictionary template.metadata) = true := by
    refine areStorableMembers_entries fun entry member => ⟨text _ ?_, text _ ?_⟩
    · simp only [StoreCall.texts, List.mem_append, List.mem_flatMap]
      exact .inr ⟨entry, member, by simp⟩
    · simp only [StoreCall.texts, List.mem_append, List.mem_flatMap]
      exact .inr ⟨entry, member, by simp⟩
  rw [List.all_eq_true]
  simp only [templateValues, List.forall_mem_cons, List.not_mem_nil, false_implies, implies_true,
    and_true]
  exact ⟨rfl, rfl, name, package, imageId, rfl, networks, userData, tags, metadata, rfl⟩

variable (consistent : store.Consistent) (mirrors : Mirrors store contents)

include consistent mirrors

theorem follows_upsertAccount {account : Account}
    (admits : store.Admits (.upsertAccount account))
    (settles : store.Settles (.upsertAccount account)) :
    Follows store contents (.upsertAccount account) := by
  have storable : (accountValues account).all Datum.isStorable = true := by
    have name := isStorableText_of_not_mem (admits.texts account.name List.mem_cons_self)
    simp [accountValues, Datum.isStorable, name]
  have kept : ∀ old, store.accounts.find? account.id = some old →
      Row.agrees accountRule.agreeing (accountRow old) (accountRow account) = true ∧
        (accountRow old).replace accountRule.replaced (accountRow account) =
          accountRow account := by
    intro old found
    refine ⟨rfl, (replace_accountRow old account).trans ?_⟩
    rw [consistent.keyed.accounts _ old found, settles old found]
  have inserted : insertRow accountsTable contents (accountRow account) (some accountRule) =
      .ok (1, contents.set "tsg_accounts"
        ((store.accounts.put account.id account).values.map accountRow)) :=
    upsert_of_kept accountRule mirrors.accounts (spelled_accounts consistent) accountRow_columnBreach?
      (fun value other => agrees_accountRow other value) rfl kept
  have executed := (execute_insert contents "tsg_accounts" accountColumns (some accountRule) rfl
    storable).trans (congrArg (settle contents) inserted)
  exact follows_write rfl rfl executed rfl (mirrors.putAccounts _)

theorem follows_upsertCredential {credential : Credential}
    (admits : store.Admits (.upsertCredential credential)) :
    Follows store contents (.upsertCredential credential) := by
  have storable : (credentialValues credential).all Datum.isStorable = true := by
    have text (value : String) (member : value ∈ [credential.accountName, credential.keyId,
        credential.keyMaterial]) : isStorableText value = true :=
      isStorableText_of_not_mem (admits.texts value member)
    simp [credentialValues, Datum.isStorable, text]
  have kept : ∀ old, store.credentials.find? credential.accountId = some old →
      Row.agrees credentialRule.agreeing (credentialRow old) (credentialRow credential) = true ∧
        (credentialRow old).replace credentialRule.replaced (credentialRow credential) =
          credentialRow credential := by
    intro old found
    refine ⟨rfl, (replace_credentialRow old credential).trans ?_⟩
    rw [consistent.keyed.credentials _ old found]
  have inserted := upsert_of_kept credentialRule mirrors.credentials
    (spelled_credentials consistent) credentialRow_columnBreach?
    (fun value other => agrees_credentialRow other value) rfl kept
  have executed := (execute_insert contents "tsg_triton_credentials" credentialColumns
    (some credentialRule) rfl storable).trans (congrArg (settle contents) inserted)
  rw [credentialRow_dangles consistent mirrors] at executed
  cases held : store.accounts.contains credential.accountId with
  | true =>
      rw [held] at executed
      have performed := store.perform_of_checked (.upsertCredential credential)
        (store.requireAccount_of_contains held)
      exact follows_write performed rfl executed rfl (mirrors.putCredentials _)
  | false =>
      rw [held] at executed
      have performed := store.perform_of_refused (.upsertCredential credential)
        (store.requireAccount_of_missing held)
      exact follows_refusal mirrors performed rfl executed rfl rfl

/-- A template of another account is left alone: both sides report a conflict, unless the
account is missing. -/
theorem follows_upsertTemplate_of_foreign {template old : Template}
    (admits : store.Admits (.upsertTemplate template))
    (found : store.templates.find? template.id = some old)
    (foreign : old.accountId ≠ template.accountId) :
    Follows store contents (.upsertTemplate template) := by
  have picks : Table.Picks Template.id templateRow
      (Row.agrees templateRule.key · (templateRow template)) template.id :=
    fun other => agrees_templateRow other template
  have met : (contents templatesTable.name).find?
      (Row.agrees templateRule.key · (templateRow template)) = some (templateRow old) := by
    have rows : contents templatesTable.name = store.templates.values.map templateRow :=
      mirrors.templates
    rw [rows, Table.find?_rows (spelled_templates consistent) picks, found]
    rfl
  have disagreeing : Row.agrees templateRule.agreeing (templateRow old)
      (templateRow template) = false := by
    rw [templateRule, agrees_templateRow_owner, decide_eq_false foreign]
    rfl
  have executed := (execute_insert contents "tsg_templates" templateColumns (some templateRule) rfl
    (templateValues_isStorable admits)).trans (congrArg (settle contents)
      (insertRow_of_disagreeing (templateRow_columnBreach? template) met disagreeing))
  cases held : store.accounts.contains template.accountId with
  | false =>
      have performed := store.perform_of_refused (.upsertTemplate template)
        (store.requireAccount_of_missing held)
      exact follows_refusal mirrors performed rfl executed rfl rfl
  | true =>
      have performed := store.perform_of_checked (.upsertTemplate template)
        (store.requireAccount_of_contains held)
      have refused : store.putTemplate template = (.error (.conflict ("template " ++
          template.id.text ++ " belongs to another account")), store) :=
        if_pos (by simp [found, foreign])
      rw [Store.commit, refused] at performed
      exact follows_refusal mirrors performed rfl executed rfl rfl

/-- A template whose identity no other account has is added, or replaced. -/
theorem follows_upsertTemplate_of_owned {template : Template}
    (admits : store.Admits (.upsertTemplate template))
    (settles : store.Settles (.upsertTemplate template))
    (owned : ∀ old, store.templates.find? template.id = some old →
      old.accountId = template.accountId) :
    Follows store contents (.upsertTemplate template) := by
  have kept : ∀ old, store.templates.find? template.id = some old →
      Row.agrees templateRule.agreeing (templateRow old) (templateRow template) = true ∧
        (templateRow old).replace templateRule.replaced (templateRow template) =
          templateRow template := by
    intro old found
    refine ⟨?_, (replace_templateRow old template).trans ?_⟩
    · rw [templateRule, agrees_templateRow_owner, decide_eq_true (owned old found)]
      rfl
    · rw [consistent.keyed.templates _ old found, owned old found,
        settles old found (owned old found)]
  have inserted := upsert_of_kept templateRule mirrors.templates
    (spelled_templates consistent) templateRow_columnBreach?
    (fun value other => agrees_templateRow other value) rfl kept
  rw [templateRow_dangles consistent mirrors] at inserted
  have executed := (execute_insert contents "tsg_templates" templateColumns (some templateRule) rfl
    (templateValues_isStorable admits)).trans (congrArg (settle contents) inserted)
  cases held : store.accounts.contains template.accountId with
  | false =>
      rw [held] at executed
      have performed := store.perform_of_refused (.upsertTemplate template)
        (store.requireAccount_of_missing held)
      exact follows_refusal mirrors performed rfl executed rfl rfl
  | true =>
      rw [held] at executed
      have performed := store.perform_of_checked (.upsertTemplate template)
        (store.requireAccount_of_contains held)
      have committed : store.putTemplate template = (.ok (),
          { store with templates := store.templates.put template.id template }) := by
        refine if_neg ?_
        rw [Option.any_eq_true]
        rintro ⟨old, found, foreign⟩
        exact of_decide_eq_true foreign (owned old found)
      rw [Store.commit, committed] at performed
      exact follows_write performed rfl executed rfl (mirrors.putTemplates _)

theorem follows_upsertTemplate {template : Template}
    (admits : store.Admits (.upsertTemplate template))
    (settles : store.Settles (.upsertTemplate template)) :
    Follows store contents (.upsertTemplate template) := by
  by_cases taken : ∃ old, store.templates.find? template.id = some old ∧
      old.accountId ≠ template.accountId
  · obtain ⟨old, found, foreign⟩ := taken
    exact follows_upsertTemplate_of_foreign consistent mirrors admits found foreign
  · refine follows_upsertTemplate_of_owned consistent mirrors admits settles ?_
    intro old found
    exact Classical.byContradiction fun foreign => taken ⟨old, found, foreign⟩

end Upserts

section Groups

theorem groupValues_isStorable {group : Group} (accepts : store.Accepts group)
    (name : '\x00' ∉ group.name.toList) :
    (groupValues group group.capacity.toNat).all Datum.isStorable = true := by
  have capacity : Datum.isStorable (.integer group.capacity.toNat) = true := by
    have fits := accepts.capacity
    have bound : Nat.pow 2 31 = 2147483648 := rfl
    simp only [Datum.isStorable, decide_eq_true_eq, bound] at fits ⊢
    omega
  rw [List.all_eq_true]
  simp only [groupValues, List.forall_mem_cons, List.not_mem_nil, false_implies, implies_true,
    and_true]
  exact ⟨rfl, rfl, isStorableText_of_not_mem name, rfl, capacity, rfl, rfl⟩

variable (consistent : store.Consistent) (mirrors : Mirrors store contents)

include consistent

/-- The account and the template of a group that may be written exist. -/
theorem account_of_accepts {group : Group} (accepts : store.Accepts group) :
    store.accounts.contains group.accountId = true ∧
      store.templates.contains group.templateId = true := by
  obtain ⟨template, found, own⟩ := accepts.template
  refine ⟨own ▸ consistent.templateOwned _ template found, ?_⟩
  rw [Table.contains, found]
  rfl

/-- A group of a new name agrees with no other group in a key. -/
theorem groups_unclashed {group : Group} (accepts : store.Accepts group)
    (absent : store.groups.find? (group.accountId, group.name) = none) :
    groupsTable.keys.any (fun key =>
      (store.groups.values.map groupRow).any (Row.agrees key · (groupRow group))) = false := by
  have keys : groupsTable.keys = [["group_id"], ["account_id", "group_name"]] := rfl
  have names : (store.groups.values.map groupRow).any
      (Row.agrees ["account_id", "group_name"] · (groupRow group)) = false := by
    have picks : Table.Picks (fun other => (other.accountId, other.name)) groupRow
        (Row.agrees ["account_id", "group_name"] · (groupRow group))
        (group.accountId, group.name) :=
      fun other => agrees_groupRow other group
    rw [Table.any_rows (spelled_groups consistent) picks, Table.contains, absent]
    rfl
  have ids : (store.groups.values.map groupRow).any
      (Row.agrees ["group_id"] · (groupRow group)) = false := by
    rw [List.any_map, List.any_eq_false]
    intro other member same
    rw [Function.comp_apply, agrees_groupRow_id, Bool.and_true, decide_eq_true_eq] at same
    obtain ⟨key, found⟩ := Table.mem_values.mp member
    rw [accepts.identity key other found same, absent] at found
    cases found
  rw [keys, List.any_cons, List.any_cons, List.any_nil, ids, names]
  rfl

/-- A group that takes the place of an old one agrees with none of the others in a key. -/
theorem groups_unclashed_succeeding {group old : Group}
    (found : store.groups.find? (group.accountId, group.name) = some old) :
    groupsTable.keys.any (fun key =>
      ((store.groups.values.map groupRow).filter
        (!Row.agrees groupRule.key · (groupRow group))).any
          (Row.agrees key · (groupRow (Store.succeeding (some old) group)))) = false := by
  have keys : groupsTable.keys = [["group_id"], ["account_id", "group_name"]] := rfl
  have others (row : Row) (member : row ∈ (store.groups.values.map groupRow).filter
      (!Row.agrees groupRule.key · (groupRow group))) :
      ∃ other key, row = groupRow other ∧ store.groups.find? key = some other ∧
        key ≠ (group.accountId, group.name) := by
    obtain ⟨inside, apart⟩ := List.mem_filter.mp member
    obtain ⟨other, listed, rfl⟩ := List.mem_map.mp inside
    obtain ⟨key, present⟩ := Table.mem_values.mp listed
    rw [groupRule, agrees_groupRow, Bool.and_true, Bool.not_eq_true', decide_eq_false_iff_not,
      consistent.keyed.groups key other present] at apart
    exact ⟨other, key, rfl, present, apart⟩
  rw [keys, List.any_cons, List.any_cons, List.any_nil, Bool.or_false, Bool.or_eq_false_iff,
    List.any_eq_false, List.any_eq_false]
  constructor
  · intro row member same
    obtain ⟨other, key, rfl, present, apart⟩ := others row member
    rw [agrees_groupRow_id, Bool.and_true, decide_eq_true_eq] at same
    exact apart (consistent.groupIds _ _ other old present found same)
  · intro row member same
    obtain ⟨other, key, rfl, present, apart⟩ := others row member
    rw [agrees_groupRow, Bool.and_true, decide_eq_true_eq,
      consistent.keyed.groups key other present] at same
    exact apart (by simpa using same)

include mirrors

theorem groupRow_not_dangles {group : Group} (accepts : store.Accepts group) :
    groupsTable.columns.any (Column.dangles contents (groupRow group)) = false := by
  obtain ⟨account, template⟩ := account_of_accepts consistent accepts
  rw [groupRow_dangles consistent mirrors, account, template]
  rfl

theorem follows_insertGroup {group : Group} (admits : store.Admits (.insertGroup group)) :
    Follows store contents (.insertGroup group) := by
  have accepts := admits.groups group rfl
  have storable := groupValues_isStorable accepts (admits.texts group.name List.mem_cons_self)
  have asked : requestFor (.insertGroup group) =
      .ok ⟨insertGroup, groupValues group group.capacity.toNat⟩ := by
    simp only [requestFor, storedCapacity, if_pos accepts.capacity, bind, Except.bind]
  have execution := execute_insert contents "tsg_groups" groupColumns none rfl storable
  have performed := store.perform_of_checked (.insertGroup group)
    (store.requireAccount_of_contains (account_of_accepts consistent accepts).1)
  have rows : contents groupsTable.name = store.groups.values.map groupRow := mirrors.groups
  cases found : store.groups.find? (group.accountId, group.name) with
  | none =>
      have unclashed := groups_unclashed consistent accepts found
      have grown : contents groupsTable.name ++ [groupRow group] =
          (store.groups.put (group.accountId, group.name) group).values.map groupRow := by
        rw [rows, Table.values_put_of_none found, List.map_append]
        rfl
      have inserted := insertRow_of_unclashed none (groupRow_columnBreach? group)
        (by simp) (rows ▸ unclashed)
      rw [groupRow_not_dangles consistent mirrors accepts, grown] at inserted
      have executed := execution.trans (congrArg (settle contents) inserted)
      have committed : store.addGroup group = (.ok (), { store with
          groups := store.groups.put (group.accountId, group.name) group }) :=
        if_neg (by simp [Table.contains, found])
      rw [Store.commit, committed] at performed
      exact follows_write performed asked executed rfl (mirrors.putGroups _)
  | some old =>
      have clash : groupsTable.keys.any (fun key =>
          (contents groupsTable.name).any (Row.agrees key · (groupRow group))) = true := by
        have picks : Table.Picks (fun other => (other.accountId, other.name)) groupRow
            (Row.agrees ["account_id", "group_name"] · (groupRow group))
            (group.accountId, group.name) :=
          fun other => agrees_groupRow other group
        refine List.any_eq_true.mpr ⟨["account_id", "group_name"], by decide, ?_⟩
        rw [rows, Table.any_rows (spelled_groups consistent) picks, Table.contains, found]
        rfl
      have executed := execution.trans (congrArg (settle contents)
        (insertRow_of_clash groupRow_columnBreach? clash))
      have refused : store.addGroup group = (.error (.conflict ("service group " ++
          group.name ++ " already exists")), store) :=
        if_pos (by simp [Table.contains, found])
      rw [Store.commit, refused] at performed
      exact follows_refusal mirrors performed asked executed rfl rfl

theorem follows_upsertGroup {group : Group} (admits : store.Admits (.upsertGroup group)) :
    Follows store contents (.upsertGroup group) := by
  have accepts := admits.groups group rfl
  have storable := groupValues_isStorable accepts (admits.texts group.name List.mem_cons_self)
  have asked : requestFor (.upsertGroup group) =
      .ok ⟨upsertGroup, groupValues group group.capacity.toNat⟩ := by
    simp only [requestFor, storedCapacity, if_pos accepts.capacity, bind, Except.bind]
  have performed := store.perform_of_checked (.upsertGroup group)
    (store.requireAccount_of_contains (account_of_accepts consistent accepts).1)
  have picks (value : Group) :
      Table.Picks (fun other => (other.accountId, other.name)) groupRow
        (Row.agrees groupRule.key · (groupRow value)) (value.accountId, value.name) :=
    fun other => agrees_groupRow other value
  have inserted : insertRow groupsTable contents (groupRow group) (some groupRule) =
      .ok (1, contents.set "tsg_groups" ((store.groups.put (group.accountId, group.name)
        (Store.succeeding (store.groups.find? (group.accountId, group.name))
          group)).values.map groupRow)) := by
    cases found : store.groups.find? (group.accountId, group.name) with
    | none =>
        have added := upsert_of_absent groupRule mirrors.groups
          (spelled_groups consistent) groupRow_columnBreach? picks found
          (groups_unclashed consistent accepts found)
        rw [groupRow_not_dangles consistent mirrors accepts] at added
        exact added
    | some old =>
        have key := consistent.keyed.groups _ old found
        have owner : old.accountId = group.accountId := congrArg Prod.fst key
        have name : old.name = group.name := congrArg Prod.snd key
        have replaced : (groupRow old).replace groupRule.replaced (groupRow group) =
            groupRow (Store.succeeding (some old) group) := by
          refine (replace_groupRow old group).trans ?_
          rw [owner, name]
          rfl
        have merged := upsert_of_present groupRule mirrors.groups
          (spelled_groups consistent) groupRow_columnBreach? picks found rfl replaced
          (groups_unclashed_succeeding consistent found)
        have holds : groupsTable.columns.any
            (Column.dangles contents (groupRow (Store.succeeding (some old) group))) =
              false := by
          obtain ⟨account, template⟩ := account_of_accepts consistent accepts
          rw [groupRow_dangles consistent mirrors, Store.succeeding_accountId,
            Store.succeeding_templateId, account, template]
          rfl
        rw [holds] at merged
        exact merged
  have executed := (execute_insert contents "tsg_groups" groupColumns (some groupRule) rfl
    storable).trans (congrArg (settle contents) inserted)
  exact follows_write performed asked executed rfl (mirrors.putGroups _)

end Groups

section Deletions

theorem filter_not_of_filter_eq_nil {rows : List Row} {hit : Row → Bool}
    (none : rows.filter hit = []) : rows.filter (!hit ·) = rows := by
  rw [List.filter_eq_nil_iff] at none
  rw [List.filter_eq_self]
  intro row member
  simpa using none row member

/-- A deletion of a template picks its row, if it is of the account. -/
theorem picks_template (owner : AccountId) (id : Uuid) : Table.Picks Template.id templateRow
    (Row.fits (["account_id", "template_id"].zip [.uuid owner.uuid, .uuid id])) id
      fun template => decide (template.accountId = owner) :=
  fun template => fits_templateRow owner id template

variable (consistent : store.Consistent) (mirrors : Mirrors store contents)

include consistent mirrors

theorem follows_deleteGroup {owner : AccountId} {name : String}
    (admits : store.Admits (.deleteGroup owner name)) :
    Follows store contents (.deleteGroup owner name) := by
  have text : isStorableText name = true :=
    isStorableText_of_not_mem (admits.texts name List.mem_cons_self)
  have storable : [.uuid owner.uuid, .text name].all Datum.isStorable = true := by
    simp [Datum.isStorable, text]
  have picks : Table.Picks (fun group => (group.accountId, group.name)) groupRow
      (Row.fits (["account_id", "group_name"].zip [.uuid owner.uuid, .text name]))
      (owner, name) :=
    fun group => fits_groupRow owner name group
  have executed := (execute_delete contents "tsg_groups" ["account_id", "group_name"]
    storable).trans
      (congrArg (settle contents) deleteRows_groups)
  have hits := Table.filter_rows (spelled_groups consistent) picks
  have performed := store.perform_of_checked (.deleteGroup owner name) rfl
  rw [mirrors.groups, hits] at executed
  cases found : store.groups.find? (owner, name) with
  | none =>
      rw [found] at hits executed
      rw [filter_not_of_filter_eq_nil hits] at executed
      have refused : store.dropGroup owner name =
          (.error (.notFound ("service group " ++ name)), store) :=
        if_neg (by simp [Table.contains, found])
      rw [Store.commit, refused] at performed
      exact follows_refusal (mirrors.putGroups store.groups) performed rfl executed rfl rfl
  | some group =>
      rw [found, Table.rows_erase (spelled_groups consistent) picks found rfl] at executed
      have dropped : store.dropGroup owner name = (.ok (), { store with
          groups := store.groups.erase (owner, name) }) :=
        if_pos (by simp [Table.contains, found])
      rw [Store.commit, dropped] at performed
      exact follows_write performed rfl executed rfl (mirrors.putGroups _)

omit consistent in
/-- A group that uses the template is found by the rows as by the store. -/
theorem used_eq (template : Template) :
    ((contents "tsg_groups").any fun row => [templateRow template].any fun other =>
      (other.value "template_id").equals (row.value "template_id")) =
        store.templateInUse template.id := by
  rw [mirrors.groups, List.any_map, Store.templateInUse]
  congr 1
  funext group
  have compared : (([templateRow template].any fun other =>
      (other.value "template_id").equals ((groupRow group).value "template_id"))) =
        (decide (template.id = group.templateId) || false) := rfl
  have turned : (group.templateId == template.id) = decide (template.id = group.templateId) :=
    decide_eq_decide.mpr eq_comm
  rw [Function.comp_apply, compared, Bool.or_false, turned]

/-- A template of the account is deleted, unless a group uses it. -/
theorem follows_deleteTemplate_of_own {template : Template} {id : Uuid}
    (found : store.templates.find? id = some template) :
    Follows store contents (.deleteTemplate template.accountId id) := by
  have passes : decide (template.accountId = template.accountId) = true := decide_eq_true rfl
  have picks := picks_template template.accountId id
  have storable : [.uuid template.accountId.uuid, .uuid id].all Datum.isStorable = true := rfl
  have execution := (execute_delete contents "tsg_templates" ["account_id", "template_id"]
    storable).trans (congrArg (settle contents) deleteRows_templates)
  have used := used_eq mirrors template
  rw [consistent.keyed.templates id template found] at used
  rw [mirrors.templates, Table.filter_rows (spelled_templates consistent) picks, found,
    Option.filter_some, if_pos passes,
    Table.rows_erase (spelled_templates consistent) picks found passes] at execution
  have executed := execution.trans (congrArg (settle contents) (if_congr (iff_of_eq
    (congrArg (· = true) used)) rfl rfl))
  cases inUse : store.templateInUse id with
  | true =>
      rw [inUse] at executed
      have performed := store.perform_of_refused (.deleteTemplate template.accountId id)
        (if_pos inUse)
      exact follows_refusal mirrors performed rfl executed rfl rfl
  | false =>
      rw [inUse] at executed
      have performed := store.perform_of_checked (.deleteTemplate template.accountId id)
        (if_neg (by simp [inUse]))
      have dropped : store.dropTemplate template.accountId id = (.ok (), { store with
          templates := store.templates.erase id }) :=
        if_pos (by simp [found])
      rw [Store.commit, dropped] at performed
      exact follows_write performed rfl executed rfl (mirrors.putTemplates _)

/-- Without such a template of the account, both sides report that it is missing. -/
theorem follows_deleteTemplate_of_missing {owner : AccountId} {id : Uuid}
    (settles : store.Settles (.deleteTemplate owner id))
    (absent : ∀ template, store.templates.find? id = some template →
      template.accountId ≠ owner) :
    Follows store contents (.deleteTemplate owner id) := by
  have missing : (store.templates.find? id).filter
      (fun template => decide (template.accountId = owner)) = none := by
    rw [Option.filter_eq_none_iff]
    intro template found passes
    exact absent template found (of_decide_eq_true passes)
  have unused : store.templateInUse id = false := by
    rw [Bool.eq_false_iff]
    intro inUse
    obtain ⟨key, group, present, rfl⟩ := Store.templateInUse_iff.mp inUse
    obtain ⟨template, found, -⟩ := consistent.supplied key group present
    exact absent template found (settles inUse template found)
  have storable : [.uuid owner.uuid, .uuid id].all Datum.isStorable = true := rfl
  have execution := (execute_delete contents "tsg_templates" ["account_id", "template_id"]
    storable).trans (congrArg (settle contents) deleteRows_templates)
  have hits := Table.filter_rows (spelled_templates consistent) (picks_template owner id)
  rw [missing] at hits
  rw [mirrors.templates, hits, filter_not_of_filter_eq_nil hits] at execution
  have performed := store.perform_of_checked (.deleteTemplate owner id)
    (if_neg (by simp [unused]))
  have refused : store.dropTemplate owner id =
      (.error (.notFound ("template " ++ id.text)), store) := by
    refine if_neg ?_
    rw [Option.any_eq_true]
    rintro ⟨template, found, passes⟩
    exact absent template found (of_decide_eq_true passes)
  rw [Store.commit, refused] at performed
  have executed : execute contents ⟨deleteTemplate, [.uuid owner.uuid, .uuid id]⟩ =
      (.affected 0, contents.set "tsg_templates" (store.templates.values.map templateRow)) := by
    refine execution.trans ?_
    simp [settle]
  exact follows_refusal (mirrors.putTemplates store.templates) performed rfl executed rfl rfl

theorem follows_deleteTemplate {owner : AccountId} {id : Uuid}
    (settles : store.Settles (.deleteTemplate owner id)) :
    Follows store contents (.deleteTemplate owner id) := by
  by_cases own : ∃ template, store.templates.find? id = some template ∧
      template.accountId = owner
  · obtain ⟨template, found, rfl⟩ := own
    exact follows_deleteTemplate_of_own consistent mirrors found
  · refine follows_deleteTemplate_of_missing consistent mirrors settles ?_
    exact fun template found owned => own ⟨template, found, owned⟩

end Deletions

end Database

end ServiceGroups
