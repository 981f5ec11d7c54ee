import ServiceGroups.Proofs.Database.Writes

/-!
# The two stores agree

A store and a database that mirrors it stay so from call to call, and answer alike on
the way.  Started empty, they answer every sequence of calls alike that both are meant
for and that leaves nothing for them to differ in.  The store forgets the time of
creation of an account or template that is written again, where the database keeps it.
-/

namespace ServiceGroups

namespace Table

variable {κ ν : Type} [DecidableEq κ] {table : Table κ ν} {key other : κ} {value : ν}

theorem contains_put_of_contains (held : table.contains other = true) :
    (table.put key value).contains other = true := by
  rw [contains, find?_put]
  split
  · rfl
  · exact held

end Table

namespace Store

variable {store next : Store}

theorem consistent_empty : Store.empty.Consistent where
  keyed := keyed_empty
  supplied := by
    intro key group found
    cases found
  credentialOwned := by
    intro id credential found
    cases found
  templateOwned := by
    intro id template found
    cases found
  groupIds := by
    intro key other first second found
    cases found

namespace Consistent

theorem putAccount (consistent : store.Consistent) (account : Account) :
    ({ store with accounts := store.accounts.put account.id account } : Store).Consistent where
  keyed := consistent.keyed.step (.putAccount account rfl)
  supplied := consistent.supplied
  credentialOwned id credential found :=
    Table.contains_put_of_contains (consistent.credentialOwned id credential found)
  templateOwned id template found :=
    Table.contains_put_of_contains (consistent.templateOwned id template found)
  groupIds := consistent.groupIds

theorem putCredential (consistent : store.Consistent) (credential : Credential)
    (holder : store.accounts.contains credential.accountId) :
    ({ store with credentials :=
      store.credentials.put credential.accountId credential } : Store).Consistent where
  keyed := consistent.keyed.step (.putCredential credential rfl holder)
  supplied := consistent.supplied
  credentialOwned := Table.forall_find?_put consistent.credentialOwned holder
  templateOwned := consistent.templateOwned
  groupIds := consistent.groupIds

theorem putTemplate (consistent : store.Consistent) (template : Template)
    (holder : store.accounts.contains template.accountId)
    (keepsOwner : ∀ old, store.templates.find? template.id = some old →
      old.accountId = template.accountId) :
    ({ store with templates :=
      store.templates.put template.id template } : Store).Consistent where
  keyed := consistent.keyed.step (.putTemplate template rfl holder keepsOwner)
  supplied := by
    intro key group found
    obtain ⟨old, used, same⟩ := consistent.supplied key group found
    by_cases replaced : group.templateId = template.id
    · refine ⟨template, by simp [replaced], ?_⟩
      exact (keepsOwner old (replaced ▸ used)).symm.trans same
    · exact ⟨old, by simp [replaced, used], same⟩
  credentialOwned := consistent.credentialOwned
  templateOwned := Table.forall_find?_put consistent.templateOwned holder
  groupIds := consistent.groupIds

theorem eraseTemplate (consistent : store.Consistent) {id : Uuid} {template : Template}
    (present : store.templates.find? id = some template)
    (unused : store.templateInUse id = false) :
    ({ store with templates := store.templates.erase id } : Store).Consistent where
  keyed := consistent.keyed.step (.eraseTemplate id template present rfl unused)
  supplied := by
    intro key group found
    have other : group.templateId ≠ id := by
      intro uses
      have inUse := templateInUse_iff.mpr ⟨key, group, found, uses⟩
      exact absurd (unused.symm.trans inUse) (by decide)
    simpa [other] using consistent.supplied key group found
  credentialOwned := consistent.credentialOwned
  templateOwned id template found :=
    consistent.templateOwned id template (Table.find?_of_find?_erase found)
  groupIds := consistent.groupIds

theorem putGroup (consistent : store.Consistent) (group : Group)
    (holder : store.accounts.contains group.accountId)
    (used : ∃ template, store.templates.find? group.templateId = some template ∧
      template.accountId = group.accountId)
    (free : ∀ key other, store.groups.find? key = some other → other.id = group.id →
      key = (group.accountId, group.name)) :
    ({ store with groups :=
      store.groups.put (group.accountId, group.name) group } : Store).Consistent where
  keyed := consistent.keyed.step (.putGroup group rfl holder)
  supplied := Table.forall_find?_put consistent.supplied used
  credentialOwned := consistent.credentialOwned
  templateOwned := consistent.templateOwned
  groupIds := by
    intro key other first second found foundOther same
    rw [Table.find?_put] at found foundOther
    split at found <;> split at foundOther
    · next here there => exact here.trans there.symm
    · next here _ =>
        cases found
        exact here.trans (free other second foundOther same.symm).symm
    · next _ there =>
        cases foundOther
        exact (free key first found same).trans there.symm
    · exact consistent.groupIds key other first second found foundOther same

/-- A group takes the place of an old one under the identity of the old one. -/
theorem succeedGroup (consistent : store.Consistent) {group : Group}
    (accepts : store.Accepts group) (holder : store.accounts.contains group.accountId) :
    ({ store with
        groups := store.groups.put (group.accountId, group.name)
          (succeeding (store.groups.find? (group.accountId, group.name)) group) } :
      Store).Consistent := by
  generalize replaced : store.groups.find? (group.accountId, group.name) = existing
  have free : ∀ key other, store.groups.find? key = some other →
      other.id = (succeeding existing group).id → key = (group.accountId, group.name) := by
    intro key other found same
    cases existing with
    | none => exact accepts.identity key other found same
    | some old => exact consistent.groupIds key _ other old found replaced same
  have put := consistent.putGroup (succeeding existing group)
  simp only [succeeding_accountId, succeeding_name, succeeding_templateId] at put
  exact put holder accepts.template free

theorem eraseGroup (consistent : store.Consistent) (owner : AccountId) (name : String) :
    ({ store with groups := store.groups.erase (owner, name) } : Store).Consistent where
  keyed := consistent.keyed.step (.eraseGroup name)
  supplied key group found :=
    consistent.supplied key group (Table.find?_of_find?_erase found)
  credentialOwned := consistent.credentialOwned
  templateOwned := consistent.templateOwned
  groupIds key other first second found foundOther :=
    consistent.groupIds key other first second (Table.find?_of_find?_erase found)
      (Table.find?_of_find?_erase foundOther)

/-- Calls that both stores are meant for leave a consistent store. -/
theorem perform (consistent : store.Consistent) {call : StoreCall} (admits : store.Admits call) :
    (store.perform call).2.Consistent := by
  rcases performed : store.perform call with ⟨failure | reply, next⟩
  · rw [store.perform_of_error performed]
    exact consistent
  · obtain ⟨checked, committed⟩ := store.perform_eq_ok.mp performed
    cases call with
    | upsertAccount account =>
        cases committed
        exact consistent.putAccount account
    | upsertCredential credential =>
        cases committed
        exact consistent.putCredential credential (store.requireAccount_eq_ok.mp checked)
    | upsertTemplate template =>
        obtain ⟨rfl, keepsOwner⟩ := store.putTemplate_eq_ok committed
        exact consistent.putTemplate template (store.requireAccount_eq_ok.mp checked) keepsOwner
    | deleteTemplate owner id =>
        obtain ⟨rfl, template, present, _⟩ := store.dropTemplate_eq_ok committed
        exact consistent.eraseTemplate present (store.precheck_deleteTemplate checked)
    | insertGroup group =>
        have accepts := admits.groups group rfl
        obtain ⟨rfl, _⟩ := store.addGroup_eq_ok committed
        exact consistent.putGroup group (store.requireAccount_eq_ok.mp checked) accepts.template
          accepts.identity
    | upsertGroup group =>
        cases committed
        exact consistent.succeedGroup (admits.groups group rfl)
          (store.requireAccount_eq_ok.mp checked)
    | deleteGroup owner name =>
        obtain ⟨rfl, _⟩ := store.dropGroup_eq_ok committed
        exact consistent.eraseGroup owner name
    | account | credential | template | templates | group | groups =>
        cases committed
        exact consistent

end Consistent

/-- Both stores are meant for every call of the sequence. -/
def AdmitsEach : Store → List StoreCall → Prop
  | _, [] => True
  | store, call :: rest => store.Admits call ∧ AdmitsEach (store.perform call).2 rest

/-- No call of the sequence leaves anything for the stores to differ in. -/
def SettlesEach : Store → List StoreCall → Prop
  | _, [] => True
  | store, call :: rest => store.Settles call ∧ SettlesEach (store.perform call).2 rest

end Store

namespace Database

/-- The store and the database answer every call of the sequence alike. -/
def AgreeOn : Store → Contents → List StoreCall → Prop
  | _, _, [] => True
  | store, contents, call :: rest =>
    Alike (store.perform call).1 (serve contents call).1 ∧
      AgreeOn (store.perform call).2 (serve contents call).2 rest

variable {store : Store} {contents : Contents}

/-- Every call follows. -/
theorem follows (consistent : store.Consistent) (mirrors : Mirrors store contents)
    {call : StoreCall} (admits : store.Admits call) (settles : store.Settles call) :
    Follows store contents call := by
  cases call with
  | upsertAccount account => exact follows_upsertAccount consistent mirrors admits settles
  | account id => exact follows_account consistent mirrors id
  | upsertCredential credential => exact follows_upsertCredential consistent mirrors admits
  | credential id => exact follows_credential consistent mirrors id
  | upsertTemplate template => exact follows_upsertTemplate consistent mirrors admits settles
  | template owner id => exact follows_template consistent mirrors owner id
  | templates owner page => exact follows_templates mirrors admits
  | deleteTemplate owner id => exact follows_deleteTemplate consistent mirrors settles
  | insertGroup group => exact follows_insertGroup consistent mirrors admits
  | upsertGroup group => exact follows_upsertGroup consistent mirrors admits
  | group owner name => exact follows_group consistent mirrors admits
  | groups owner page => exact follows_groups mirrors admits
  | deleteGroup owner name => exact follows_deleteGroup consistent mirrors admits

theorem mirrors_empty : Mirrors Store.empty Contents.empty where
  accounts := rfl
  credentials := rfl
  templates := rfl
  groups := rfl

/-- From a mirror on, the calls are answered alike. -/
theorem agreeOn_of_mirrors (calls : List StoreCall) (consistent : store.Consistent)
    (mirrors : Mirrors store contents) (admitted : store.AdmitsEach calls)
    (settled : store.SettlesEach calls) : AgreeOn store contents calls := by
  induction calls generalizing store contents with
  | nil => trivial
  | cons call rest ih =>
      obtain ⟨admits, admitted⟩ := admitted
      obtain ⟨settles, settled⟩ := settled
      have step := follows consistent mirrors admits settles
      exact ⟨step.alike, ih (consistent.perform admits) step.mirrors admitted settled⟩

/-- Started empty, the store and the database answer alike every sequence of calls that
both are meant for, if each call keeps the time of creation of the account or template it
overwrites and deletes no used template of another account. -/
theorem stores_agree (calls : List StoreCall) (admitted : Store.empty.AdmitsEach calls)
    (settled : Store.empty.SettlesEach calls) : AgreeOn Store.empty Contents.empty calls :=
  agreeOn_of_mirrors calls Store.consistent_empty mirrors_empty admitted settled

namespace Sample

/-- An account under the first identity. -/
def account (name : String) (createdAt : Instant) : Account :=
  ⟨⟨⟨1⟩⟩, name, ⟨1⟩, createdAt, .epoch⟩

/-- A template of the account. -/
def template : Template :=
  ⟨⟨7⟩, ⟨⟨1⟩⟩, "web", "small", "image", false, [], none, .empty, .empty, .epoch⟩

/-- A group of the template. -/
def group : Group :=
  ⟨⟨8⟩, ⟨⟨1⟩⟩, "web", ⟨7⟩, 1, .epoch, .epoch⟩

/-- An account makes a template and a group, and is then renamed. -/
def renamed : List StoreCall :=
  [.upsertAccount (account "first" .epoch), .upsertTemplate template, .insertGroup group,
    .upsertAccount (account "second" .epoch), .groups ⟨⟨1⟩⟩ ⟨10, 0⟩]

/-- A moment after the epoch. -/
def later : Instant :=
  ⟨1, 0, by decide, by decide⟩

/-- An account is written with another time of creation, and then read. -/
def recreation : List StoreCall :=
  [.upsertAccount (account "first" .epoch), .upsertAccount (account "first" later),
    .account ⟨⟨1⟩⟩]

/-- Calls that neither write a group nor list a page are meant for both stores if their
text is. -/
theorem admits_of_texts {store : Store} {call : StoreCall} (unpaged : call.page? = none)
    (unwritten : call.written? = none)
    (texts : ∀ text ∈ call.texts, '\x00' ∉ text.toList) : store.Admits call where
  texts := texts
  pages := by simp [unpaged]
  groups := by simp [unwritten]

/-- The group may be written where its template is and no group yet. -/
theorem accepts_group {store : Store} (supply : store.templates.find? ⟨7⟩ = some template)
    (noGroups : store.groups = .empty) : store.Accepts group where
  capacity := by decide
  template := ⟨template, supply, rfl⟩
  identity := by
    intro key other found
    rw [noGroups] at found
    cases found

theorem admitsEach_renamed : Store.empty.AdmitsEach renamed := by
  refine ⟨?_, ?_, ?_, ?_, ?_, trivial⟩
  · exact admits_of_texts rfl rfl (by decide)
  · exact admits_of_texts rfl rfl (by decide)
  · exact ⟨by decide, by simp [StoreCall.page?], fun written same => by
      obtain rfl : group = written := Option.some.inj same
      exact accepts_group rfl rfl⟩
  · exact admits_of_texts rfl rfl (by decide)
  · exact ⟨by decide, by simp [StoreCall.page?, maxPage], by simp [StoreCall.written?]⟩

theorem settlesEach_renamed : Store.empty.SettlesEach renamed := by
  refine ⟨?_, ?_, trivial, ?_, trivial, trivial⟩
  · rintro _ ⟨⟩
  · rintro _ ⟨⟩
  · rintro _ ⟨⟩
    rfl

end Sample

open Sample in
/-- In a sample, a renamed account keeps its time of creation and both stores agree. -/
theorem renamed_account_agrees :
    Store.empty.AdmitsEach renamed ∧ Store.empty.SettlesEach renamed ∧
      AgreeOn Store.empty Contents.empty renamed :=
  ⟨admitsEach_renamed, settlesEach_renamed,
    stores_agree renamed admitsEach_renamed settlesEach_renamed⟩

namespace Sample

/-- What both are left with before the account is read. -/
def afterRecreation : Store × Contents :=
  (recreation.take 2).foldl
    (fun state call => ((state.1.perform call).2, (serve state.2 call).2))
    (Store.empty, Contents.empty)

theorem admitsEach_recreation : Store.empty.AdmitsEach recreation := by
  refine ⟨?_, ?_, ?_, trivial⟩ <;> exact admits_of_texts rfl rfl (by decide)

end Sample

open Sample in
/-- Calls that both stores are meant for can be answered differently: the store gives back
the time of creation that was written last, and the database the one written first. -/
theorem stores_disagree :
    ¬ ∀ calls, Store.empty.AdmitsEach calls → AgreeOn Store.empty Contents.empty calls := by
  intro agree
  obtain ⟨-, -, same, -⟩ := agree recreation admitsEach_recreation
  have overwritten : (afterRecreation.1.perform (.account ⟨⟨1⟩⟩)).1 =
      .ok (some (account "first" later)) := rfl
  have kept : (serve afterRecreation.2 (.account ⟨⟨1⟩⟩)).1.toOption =
      some (some (account "first" .epoch)) := by
    decide +kernel
  cases answered : (serve afterRecreation.2 (.account ⟨⟨1⟩⟩)).1 with
  | error failure =>
      rw [answered] at kept
      cases kept
  | ok found =>
      rw [answered] at kept
      change Alike (afterRecreation.1.perform (.account ⟨⟨1⟩⟩)).1
        (serve afterRecreation.2 (.account ⟨⟨1⟩⟩)).1 at same
      rw [overwritten, answered] at same
      exact absurd (same.trans (Option.some.inj kept)) (by decide)

end Database

end ServiceGroups
