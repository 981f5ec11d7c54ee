import ServiceGroups.Proofs.Database.Mirror

/-!
# Reading from the mirror

Calls that both stores are meant for have text and pages that can be bound, and write
groups only where they may be written.  A read of a store and of a database that
mirrors it finds the same values: one row for a key, and listings in the same order.
-/

namespace ServiceGroups

open Database (Mirrors Follows)

/-- All text in the arguments of a call. -/
def StoreCall.texts : StoreCall → List String
  | .upsertAccount row => [row.name]
  | .upsertCredential row => [row.accountName, row.keyId, row.keyMaterial]
  | .upsertTemplate row =>
    [row.name, row.package, row.imageId] ++ row.networks ++ row.userData.toList ++
      row.tags.entries.flatMap (fun entry => [entry.1, entry.2]) ++
      row.metadata.entries.flatMap (fun entry => [entry.1, entry.2])
  | .insertGroup row => [row.name]
  | .upsertGroup row => [row.name]
  | .group _ name => [name]
  | .deleteGroup _ name => [name]
  | _ => []

/-- The page that a call lists. -/
def StoreCall.page? : StoreCall → Option Page
  | .templates _ page => some page
  | .groups _ page => some page
  | _ => none

/-- The group that a call writes. -/
def StoreCall.written? : StoreCall → Option Group
  | .insertGroup row => some row
  | .upsertGroup row => some row
  | _ => none

namespace Store

/-- A group may be written: its capacity fits, its template is stored for its account,
and its identity is not that of another group. -/
structure Accepts (store : Store) (group : Group) : Prop where
  capacity : group.capacity.toNat < Nat.pow 2 31
  template : ∃ template, store.templates.find? group.templateId = some template ∧
    template.accountId = group.accountId
  identity : ∀ key other, store.groups.find? key = some other → other.id = group.id →
    key = (group.accountId, group.name)

/-- A call that both stores are meant for: no text holds the character zero, pages are
small, and groups may be written. -/
structure Admits (store : Store) (call : StoreCall) : Prop where
  texts : ∀ text ∈ call.texts, '\x00' ∉ text.toList
  pages : ∀ page ∈ call.page?,
    page.limit.toNat ≤ Database.maxPage ∧ page.offset.toNat < Nat.pow 2 63
  groups : ∀ group ∈ call.written?, store.Accepts group

end Store

namespace Database

variable {store : Store} {contents : Contents}

section Reads

/-- The first row of a selection is read as the value that is found. -/
theorem mapM_ofRow {ν : Type} {rowOf : ν → Row} {ofRow : Row → Except Failure ν}
    (read : ∀ value, ofRow (rowOf value) = .ok value) (found : Option ν) :
    (found.map rowOf).mapM ofRow = .ok found := by
  cases found with
  | none => rfl
  | some value =>
      rw [Option.map_some, Option.mapM_some, read]
      rfl

/-- Rows are read as the values one after the other. -/
theorem list_mapM_ofRow {ν : Type} {rowOf : ν → Row} {ofRow : Row → Except Failure ν}
    (read : ∀ value, ofRow (rowOf value) = .ok value) (values : List ν) :
    (values.map rowOf).mapM ofRow = .ok values := by
  induction values with
  | nil => rfl
  | cons value rest ih =>
      rw [List.map_cons, List.mapM_cons, read, ih]
      rfl

/-- A selection by key finds the row of the value under the key. -/
theorem head?_selectRows {κ ν : Type} [DecidableEq κ] {table : Table κ ν} {keyOf : ν → κ}
    {rowOf : ν → Row} {columns equal : List String} {values : List Datum} {key : κ}
    {also : ν → Bool} (spelled : table.Spelled keyOf)
    (picks : Table.Picks keyOf rowOf (Row.fits (equal.zip values)) key also)
    (projected : ∀ value, (rowOf value).project columns = rowOf value) :
    (selectRows (table.values.map rowOf) columns equal [] false values).head? =
      ((table.find? key).filter also).map rowOf := by
  rw [selectRows_unordered, Table.filter_rows spelled picks]
  cases (table.find? key).filter also with
  | none => rfl
  | some value => exact congrArg some (projected value)

theorem filter_always {ν : Type} (found : Option ν) :
    found.filter (fun _ => true) = found := by
  cases found <;> rfl

theorem isStorableText_of_not_mem {text : String} (absent : '\x00' ∉ text.toList) :
    isStorableText text = true := by
  simpa [isStorableText] using absent

theorem areStorableMembers_entries {entries : List (String × String)}
    (storable : ∀ entry ∈ entries, isStorableText entry.1 = true ∧
      isStorableText entry.2 = true) :
    areStorableMembers (entries.map fun entry => (entry.1, .string entry.2)) = true := by
  induction entries with
  | nil => rfl
  | cons entry rest ih =>
      obtain ⟨⟨key, value⟩, others⟩ := List.forall_mem_cons.mp storable
      simp [areStorableMembers, isStorableJson, key, value, ih others]

theorem execute_select {name : String} {columns equal order : List String} {isPaged : Bool}
    {values : List Datum} (storable : values.all Datum.isStorable = true) :
    execute contents ⟨.select name columns equal order isPaged, values⟩ =
      (.rows (selectRows (contents name) columns equal order isPaged values), contents) := by
  rw [execute, if_pos storable]

/-- A read that finds the same on both sides follows. -/
theorem follows_read {call : StoreCall} {request : Request} {reply : call.Reply} {rows : List Row}
    (mirrors : Mirrors store contents)
    (performed : store.perform call = (.ok reply, store))
    (asked : requestFor call = .ok request)
    (executed : execute contents request = (.rows rows, contents))
    (read : replyOf call (.rows rows) = .ok reply) : Follows store contents call := by
  have served : serve contents call = (.ok reply, contents) := by
    rw [serve_eq asked, executed, read]
  constructor
  · rw [performed, served]
    rfl
  · rw [performed, served]
    exact mirrors

/-- The values of a small page are its limit and its offset, and can be stored with those of
its account. -/
theorem pageValues_of_admits {call : StoreCall} {page : Page} (admits : store.Admits call)
    (listed : call.page? = some page) (owner : AccountId) :
    pageValues page = .ok [.long page.limit.toNat, .long page.offset.toNat] ∧
      [.uuid owner.uuid, .long page.limit.toNat, .long page.offset.toNat].all
        Datum.isStorable = true := by
  obtain ⟨limit, offset⟩ := admits.pages page listed
  have bound : Nat.pow 2 63 = 9223372036854775808 := rfl
  have largest : maxPage = 1000 := rfl
  have least : min (page.limit.toNat : Int) (maxPage : Int) = page.limit.toNat :=
    Int.min_eq_left (Int.ofNat_le.mpr limit)
  refine ⟨by rw [pageValues, if_pos offset, least], ?_⟩
  simp only [List.all_cons, List.all_nil, Datum.isStorable, bound, Bool.and_true, Bool.true_and,
    Bool.and_eq_true, decide_eq_true_eq] at offset ⊢
  omega

variable (consistent : store.Consistent) (mirrors : Mirrors store contents)

include consistent mirrors

theorem follows_account (id : AccountId) : Follows store contents (.account id) := by
  have picks : Table.Picks Account.id accountRow
      (Row.fits (["account_id"].zip [.uuid id.uuid])) id :=
    fun account => fits_accountRow id account
  have first := head?_selectRows (spelled_accounts consistent) picks project_accountRow
  refine follows_read mirrors rfl rfl rfl ?_
  rw [mirrors.accounts]
  simp only [replyOf, givenRows, bind, Except.bind, first, mapM_ofRow accountOfRow_accountRow,
    filter_always]

theorem follows_credential (id : AccountId) : Follows store contents (.credential id) := by
  have picks : Table.Picks Credential.accountId credentialRow
      (Row.fits (["account_id"].zip [.uuid id.uuid])) id :=
    fun credential => fits_credentialRow id credential
  have first := head?_selectRows (spelled_credentials consistent) picks project_credentialRow
  refine follows_read mirrors rfl rfl rfl ?_
  rw [mirrors.credentials]
  simp only [replyOf, givenRows, bind, Except.bind, first,
    mapM_ofRow credentialOfRow_credentialRow, filter_always]

theorem follows_template (owner : AccountId) (id : Uuid) :
    Follows store contents (.template owner id) := by
  have picks : Table.Picks Template.id templateRow
      (Row.fits (["account_id", "template_id"].zip [.uuid owner.uuid, .uuid id])) id
      fun template => decide (template.accountId = owner) :=
    fun template => fits_templateRow owner id template
  have first := head?_selectRows (spelled_templates consistent) picks project_templateRow
  refine follows_read mirrors rfl rfl rfl ?_
  rw [mirrors.templates]
  simp only [replyOf, givenRows, bind, Except.bind, first, mapM_ofRow templateOfRow_templateRow]

theorem follows_group {owner : AccountId} {name : String}
    (admits : store.Admits (.group owner name)) :
    Follows store contents (.group owner name) := by
  have storable : isStorableText name = true := isStorableText_of_not_mem
    (admits.texts name List.mem_cons_self)
  have picks : Table.Picks (fun group => (group.accountId, group.name)) groupRow
      (Row.fits (["account_id", "group_name"].zip [.uuid owner.uuid, .text name]))
      (owner, name) :=
    fun group => fits_groupRow owner name group
  have first := head?_selectRows (spelled_groups consistent) picks project_groupRow
  refine follows_read mirrors rfl rfl (execute_select ?_) ?_
  · simp [Datum.isStorable, storable]
  · rw [mirrors.groups]
    simp only [replyOf, givenRows, bind, Except.bind, first, mapM_ofRow groupOfRow_groupRow,
      filter_always]

omit consistent in
theorem follows_templates {owner : AccountId} {page : Page}
    (admits : store.Admits (.templates owner page)) :
    Follows store contents (.templates owner page) := by
  obtain ⟨values, storable⟩ := pageValues_of_admits admits rfl owner
  have asked : requestFor (.templates owner page) = .ok ⟨selectTemplates,
      [.uuid owner.uuid, .long page.limit.toNat, .long page.offset.toNat]⟩ := by
    simp only [requestFor, values, bind, Except.bind]
  refine follows_read mirrors rfl asked (execute_select storable) ?_
  rw [mirrors.templates, selectRows_listing _ _ (fits_templateRow_owner owner)
    order_templateRow project_templateRow]
  simp only [replyOf, givenRows, bind, Except.bind, list_mapM_ofRow templateOfRow_templateRow]
  rfl

omit consistent in
theorem follows_groups {owner : AccountId} {page : Page}
    (admits : store.Admits (.groups owner page)) :
    Follows store contents (.groups owner page) := by
  obtain ⟨values, storable⟩ := pageValues_of_admits admits rfl owner
  have asked : requestFor (.groups owner page) = .ok ⟨selectGroups,
      [.uuid owner.uuid, .long page.limit.toNat, .long page.offset.toNat]⟩ := by
    simp only [requestFor, values, bind, Except.bind]
  refine follows_read mirrors rfl asked (execute_select storable) ?_
  rw [mirrors.groups, selectRows_listing _ _ (fits_groupRow_owner owner) order_groupRow
    project_groupRow]
  simp only [replyOf, givenRows, bind, Except.bind, list_mapM_ofRow groupOfRow_groupRow]
  rfl

end Reads

end Database

end ServiceGroups
