import ServiceGroups.Proofs.Store.Listing

/-!
# The rows of one account

Two stores agree for an account when the account's own rows are the same in both.
A call made for another account keeps the agreement of a store with what the call
leaves.  A call made for the account itself has the same reply on stores that agree
and leaves them in agreement, except where it looks at the rows of other accounts:
writing a template asks whether another account has its identity, and deleting one
asks whether any group uses it.
-/

namespace ServiceGroups

namespace Store

/-- The rows of the account are the same in both stores. -/
structure AgreeFor (owner : AccountId) (first second : Store) : Prop where
  account : first.accounts.find? owner = second.accounts.find? owner
  credential : first.credentials.find? owner = second.credentials.find? owner
  template : ∀ id, (first.templates.find? id).filter (·.accountId = owner) =
    (second.templates.find? id).filter (·.accountId = owner)
  group : ∀ name, first.groups.find? (owner, name) = second.groups.find? (owner, name)

/-- The identity is that of a template of another account. -/
def takenByOther (store : Store) (owner : AccountId) (id : Uuid) : Bool :=
  (store.templates.find? id).any (·.accountId ≠ owner)

/-- What a call asks about the rows of other accounts has the same answer in both
stores. -/
def AnswerAlike (first second : Store) : StoreCall → Prop
  | .upsertTemplate template =>
    first.takenByOther template.accountId template.id =
      second.takenByOther template.accountId template.id
  | .deleteTemplate _ id => first.templateInUse id = second.templateInUse id
  | _ => True

namespace AgreeFor

variable {owner : AccountId} {first second third : Store}

theorem refl (owner : AccountId) (store : Store) : AgreeFor owner store store :=
  ⟨rfl, rfl, fun _ => rfl, fun _ => rfl⟩

theorem symm (agree : AgreeFor owner first second) : AgreeFor owner second first :=
  ⟨agree.account.symm, agree.credential.symm, fun id => (agree.template id).symm,
    fun name => (agree.group name).symm⟩

theorem trans (left : AgreeFor owner first second) (right : AgreeFor owner second third) :
    AgreeFor owner first third :=
  ⟨left.account.trans right.account, left.credential.trans right.credential,
    fun id => (left.template id).trans (right.template id),
    fun name => (left.group name).trans (right.group name)⟩

theorem template_iff (agree : AgreeFor owner first second) {id : Uuid} {template : Template}
    (own : template.accountId = owner) :
    first.templates.find? id = some template ↔ second.templates.find? id = some template := by
  have same := agree.template id
  constructor
  · intro found
    have kept : (first.templates.find? id).filter (·.accountId = owner) = some template := by
      simp [found, own]
    exact (Option.filter_eq_some_iff.mp (same ▸ kept)).1
  · intro found
    have kept : (second.templates.find? id).filter (·.accountId = owner) = some template := by
      simp [found, own]
    exact (Option.filter_eq_some_iff.mp (same.symm ▸ kept)).1

theorem templatesOf (agree : AgreeFor owner first second) (firstKeyed : first.Keyed)
    (secondKeyed : second.Keyed) : first.templatesOf owner = second.templatesOf owner := by
  refine templatesOf_eq_of_mem_iff firstKeyed secondKeyed fun template => ?_
  rw [mem_templatesOf, mem_templatesOf]
  exact and_congr_left fun own => exists_congr fun id => agree.template_iff own

theorem groupsOf (agree : AgreeFor owner first second) (firstKeyed : first.Keyed)
    (secondKeyed : second.Keyed) : first.groupsOf owner = second.groupsOf owner := by
  refine groupsOf_eq_of_mem_iff firstKeyed secondKeyed fun group => ?_
  rw [mem_groupsOf, mem_groupsOf]
  refine and_congr_left fun own => ?_
  constructor
  · rintro ⟨key, found⟩
    have spelled : key = (owner, group.name) := by rw [← firstKeyed.groups key group found, own]
    exact ⟨key, by rw [spelled, ← agree.group, ← spelled, found]⟩
  · rintro ⟨key, found⟩
    have spelled : key = (owner, group.name) := by rw [← secondKeyed.groups key group found, own]
    exact ⟨key, by rw [spelled, agree.group, ← spelled, found]⟩

end AgreeFor

theorem filter_of_other {owner other : AccountId} {template : Template}
    (own : template.accountId = owner) (others : other ≠ owner) :
    (some template).filter (·.accountId = other) = none := by
  simp only [Option.filter_eq_none_iff, Option.some.injEq]
  rintro _ rfl
  simpa [own] using others.symm

/-- A step made for one account leaves the rows of every other account alone. -/
theorem Step.agreeFor_other {owner other : AccountId} {store next : Store}
    (step : store.Step owner next) (others : other ≠ owner) : AgreeFor other store next := by
  cases step with
  | unchanged => exact .refl other store
  | putAccount account own =>
      refine ⟨?_, rfl, fun _ => rfl, fun _ => rfl⟩
      simp [own, others]
  | putCredential credential own holder =>
      refine ⟨rfl, ?_, fun _ => rfl, fun _ => rfl⟩
      simp [own, others]
  | putTemplate template own holder keepsOwner =>
      refine ⟨rfl, rfl, fun id => ?_, fun _ => rfl⟩
      rw [Table.find?_put]
      split
      · next same =>
          -- Neither the new row nor the one that it replaces is the other account's.
          subst same
          rw [filter_of_other own others]
          cases found : store.templates.find? template.id with
          | none => rfl
          | some old => exact filter_of_other (keepsOwner old found) others
      · rfl
  | eraseTemplate id template present own unused =>
      refine ⟨rfl, rfl, fun otherId => ?_, fun _ => rfl⟩
      rw [Table.find?_erase]
      split
      · next same =>
          subst same
          rw [present, filter_of_other own others]
          rfl
      · rfl
  | putGroup group own holder =>
      refine ⟨rfl, rfl, fun _ => rfl, fun name => ?_⟩
      simp [own, others]
  | eraseGroup name =>
      refine ⟨rfl, rfl, fun _ => rfl, fun otherName => ?_⟩
      simp [others]

namespace AgreeFor

variable {owner : AccountId} {first second : Store}

theorem requireAccount (agree : AgreeFor owner first second) :
    first.requireAccount owner = second.requireAccount owner := by
  unfold Store.requireAccount Table.contains
  rw [agree.account]

/-- Two stores are left in agreement, with the same reply, by a call that checks
the same of both, if its work on them does. -/
theorem perform_of_commit {call : StoreCall} (agree : AgreeFor owner first second)
    (checked : first.precheck call = second.precheck call)
    (replies : (first.commit call).1 = (second.commit call).1)
    (next : AgreeFor owner (first.commit call).2 (second.commit call).2) :
    (first.perform call).1 = (second.perform call).1 ∧
      AgreeFor owner (first.perform call).2 (second.perform call).2 := by
  unfold perform
  rw [checked]
  cases second.precheck call with
  | error failure => exact ⟨rfl, agree⟩
  | ok _ => exact ⟨replies, next⟩

theorem putTemplate (agree : AgreeFor owner first second) (template : Template) :
    AgreeFor owner { first with templates := first.templates.put template.id template }
      { second with templates := second.templates.put template.id template } := by
  refine ⟨agree.account, agree.credential, fun id => ?_, agree.group⟩
  simp only [Table.find?_put]
  split
  · rfl
  · exact agree.template id

theorem putGroup (agree : AgreeFor owner first second) (key : AccountId × String)
    (group : Group) :
    AgreeFor owner { first with groups := first.groups.put key group }
      { second with groups := second.groups.put key group } := by
  refine ⟨agree.account, agree.credential, agree.template, fun name => ?_⟩
  simp only [Table.find?_put]
  split
  · rfl
  · exact agree.group name

theorem eraseTemplate (agree : AgreeFor owner first second) (id : Uuid) :
    AgreeFor owner { first with templates := first.templates.erase id }
      { second with templates := second.templates.erase id } := by
  refine ⟨agree.account, agree.credential, fun other => ?_, agree.group⟩
  simp only [Table.find?_erase]
  split
  · rfl
  · exact agree.template other

theorem eraseGroup (agree : AgreeFor owner first second) (key : AccountId × String) :
    AgreeFor owner { first with groups := first.groups.erase key }
      { second with groups := second.groups.erase key } := by
  refine ⟨agree.account, agree.credential, agree.template, fun name => ?_⟩
  simp only [Table.find?_erase]
  split
  · rfl
  · exact agree.group name

theorem any_template (agree : AgreeFor owner first second) (id : Uuid) :
    (first.templates.find? id).any (·.accountId = owner) =
      (second.templates.find? id).any (·.accountId = owner) := by
  have same := congrArg Option.isSome (agree.template id)
  simpa only [Option.isSome_filter] using same

theorem contains_group (agree : AgreeFor owner first second) (name : String) :
    first.groups.contains (owner, name) = second.groups.contains (owner, name) := by
  unfold Table.contains
  rw [agree.group]

/-- A call made for the account has the same reply on stores that agree for it and
leaves them in agreement, if what it asks about other accounts has the same answer. -/
theorem perform (agree : AgreeFor owner first second) (firstKeyed : first.Keyed)
    (secondKeyed : second.Keyed) (call : StoreCall) (own : call.owner = owner)
    (alike : AnswerAlike first second call) :
    (first.perform call).1 = (second.perform call).1 ∧
      AgreeFor owner (first.perform call).2 (second.perform call).2 := by
  cases call with
  | upsertAccount account =>
      obtain rfl : account.id = owner := own
      exact agree.perform_of_commit rfl rfl { agree with account := by simp [Store.commit] }
  | account id =>
      obtain rfl : id = owner := own
      refine agree.perform_of_commit rfl ?_ agree
      rw [Store.commit, Store.commit, agree.account]
  | upsertCredential credential =>
      obtain rfl : credential.accountId = owner := own
      exact agree.perform_of_commit agree.requireAccount rfl
        { agree with credential := by simp [Store.commit] }
  | credential id =>
      obtain rfl : id = owner := own
      refine agree.perform_of_commit rfl ?_ agree
      rw [Store.commit, Store.commit, agree.credential]
  | upsertTemplate template =>
      obtain rfl : template.accountId = owner := own
      have same : first.takenByOther template.accountId template.id =
        second.takenByOther template.accountId template.id := alike
      unfold takenByOther at same
      refine agree.perform_of_commit agree.requireAccount ?_ ?_ <;>
        simp only [Store.commit, Store.putTemplate, same] <;> split
      · rfl
      · rfl
      · exact agree
      · exact agree.putTemplate template
  | template account id =>
      obtain rfl : account = owner := own
      refine agree.perform_of_commit rfl ?_ agree
      rw [Store.commit, Store.commit, agree.template]
  | templates account page =>
      obtain rfl : account = owner := own
      refine agree.perform_of_commit rfl ?_ agree
      rw [Store.commit, Store.commit, agree.templatesOf firstKeyed secondKeyed]
  | deleteTemplate account id =>
      obtain rfl : account = owner := own
      have same : first.templateInUse id = second.templateInUse id := alike
      refine agree.perform_of_commit (by simp only [Store.precheck, same]) ?_ ?_ <;>
        simp only [Store.commit, Store.dropTemplate, agree.any_template] <;> split
      · rfl
      · rfl
      · exact agree.eraseTemplate id
      · exact agree
  | insertGroup group =>
      obtain rfl : group.accountId = owner := own
      refine agree.perform_of_commit agree.requireAccount ?_ ?_ <;>
        simp only [Store.commit, Store.addGroup, agree.contains_group] <;> split
      · rfl
      · rfl
      · exact agree
      · exact agree.putGroup _ group
  | upsertGroup group =>
      obtain rfl : group.accountId = owner := own
      refine agree.perform_of_commit agree.requireAccount rfl ?_
      rw [Store.commit, Store.commit, Store.putGroup, Store.putGroup, agree.group]
      exact agree.putGroup _ _
  | group account name =>
      obtain rfl : account = owner := own
      refine agree.perform_of_commit rfl ?_ agree
      rw [Store.commit, Store.commit, agree.group]
  | groups account page =>
      obtain rfl : account = owner := own
      refine agree.perform_of_commit rfl ?_ agree
      rw [Store.commit, Store.commit, agree.groupsOf firstKeyed secondKeyed]
  | deleteGroup account name =>
      obtain rfl : account = owner := own
      refine agree.perform_of_commit rfl ?_ ?_ <;>
        simp only [Store.commit, Store.dropGroup, agree.contains_group] <;> split
      · rfl
      · rfl
      · exact agree.eraseGroup _
      · exact agree

end AgreeFor

/-- Every group has its template, and the two are of one account. -/
def Supplied (store : Store) : Prop :=
  ∀ key group, store.groups.find? key = some group →
    ∃ template, store.templates.find? group.templateId = some template ∧
      template.accountId = group.accountId

/-- Where groups have templates of their own accounts, only groups of its account
use a template. -/
theorem Supplied.key_eq {store : Store} (supplied : store.Supplied) (keyed : store.Keyed)
    {owner : AccountId} {key : AccountId × String} {group : Group} {template : Template}
    (found : store.groups.find? key = some group)
    (uses : store.templates.find? group.templateId = some template)
    (own : template.accountId = owner) : key = (owner, group.name) := by
  obtain ⟨other, used, same⟩ := supplied key group found
  rw [uses] at used
  cases used
  rw [← keyed.groups key group found, ← same, own]

/-- Whether a template of the account is in use is a matter of the account's rows
alone. -/
theorem AgreeFor.templateInUse_of_own {owner : AccountId} {first second : Store}
    (agree : AgreeFor owner first second) (firstKeyed : first.Keyed) (secondKeyed : second.Keyed)
    (firstSupplied : first.Supplied) (secondSupplied : second.Supplied) {id : Uuid}
    {template : Template} (found : first.templates.find? id = some template)
    (own : template.accountId = owner) : first.templateInUse id = second.templateInUse id := by
  have foundSecond := (agree.template_iff own).mp found
  rw [Bool.eq_iff_iff, templateInUse_iff, templateInUse_iff]
  constructor
  · rintro ⟨key, group, present, rfl⟩
    have spelled := firstSupplied.key_eq firstKeyed present found own
    exact ⟨key, group, by rw [spelled, ← agree.group, ← spelled, present], rfl⟩
  · rintro ⟨key, group, present, rfl⟩
    have spelled := secondSupplied.key_eq secondKeyed present foundSecond own
    exact ⟨key, group, by rw [spelled, agree.group, ← spelled, present], rfl⟩

end Store

end ServiceGroups
