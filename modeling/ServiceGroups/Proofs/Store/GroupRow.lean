import ServiceGroups.Proofs.Store.Step

/-!
# What a call does to the group of a name

Of all calls, three can touch the group that an account has under a name: an insertion
finds none and leaves one, a write leaves one with the identity of the one that it
finds, and a deletion leaves none.
-/

namespace ServiceGroups

namespace Store

/-- How a call and its answer change the row of a group. -/
inductive GroupRow (key : AccountId × String) (before after : Option Group) :
    (call : StoreCall) → Except Failure call.Reply → Prop where
  | kept {call : StoreCall} {answer : Except Failure call.Reply} (same : after = before) :
      GroupRow key before after call answer
  | inserted {group : Group} (spells : (group.accountId, group.name) = key)
      (free : before = none) (present : after = some group) :
      GroupRow key before after (.insertGroup group) (.ok ())
  | written {group : Group} (spells : (group.accountId, group.name) = key)
      (present : after = some (succeeding before group)) :
      GroupRow key before after (.upsertGroup group) (.ok ())
  | deleted {owner : AccountId} {name : String} (spells : (owner, name) = key)
      (gone : after = none) : GroupRow key before after (.deleteGroup owner name) (.ok ())

variable (store : Store)

theorem find?_groups_put (key other : AccountId × String) (group : Group)
    (different : key ≠ other) :
    (store.groups.put other group).find? key = store.groups.find? key := by
  rw [Table.find?_put, if_neg different]

/-- Every call changes the row of a group in one of these ways. -/
theorem perform_groupRow (call : StoreCall) (key : AccountId × String) :
    GroupRow key (store.groups.find? key) ((store.perform call).2.groups.find? key) call
      (store.perform call).1 := by
  rcases performed : store.perform call with ⟨failure | reply, next⟩
  · rw [store.perform_of_error performed]
    exact .kept rfl
  · obtain ⟨-, committed⟩ := store.perform_eq_ok.mp performed
    cases call with
    | insertGroup group =>
        obtain ⟨rfl, free⟩ := store.addGroup_eq_ok committed
        by_cases own : key = (group.accountId, group.name)
        · subst own
          exact .inserted rfl (by simpa [Table.contains] using free) (by simp)
        · exact .kept (store.find?_groups_put key _ group own)
    | upsertGroup group =>
        cases committed
        by_cases own : key = (group.accountId, group.name)
        · subst own
          exact .written rfl (by simp)
        · exact .kept (store.find?_groups_put key _ _ own)
    | deleteGroup owner name =>
        obtain ⟨rfl, -⟩ := store.dropGroup_eq_ok committed
        by_cases own : key = (owner, name)
        · subst own
          exact .deleted rfl (by simp)
        · exact .kept (by rw [Table.find?_erase, if_neg own])
    | upsertAccount account | upsertCredential credential =>
        cases committed
        exact .kept rfl
    | upsertTemplate template =>
        obtain ⟨rfl, -⟩ := store.putTemplate_eq_ok committed
        exact .kept rfl
    | deleteTemplate owner id =>
        obtain ⟨rfl, -⟩ := store.dropTemplate_eq_ok committed
        exact .kept rfl
    | account | credential | template | templates | group | groups =>
        cases committed
        exact .kept rfl

namespace GroupRow

variable {key : AccountId × String} {before after : Option Group} {call : StoreCall}
variable {answer : Except Failure call.Reply}

/-- A row that stays present keeps its identity and its time of creation. -/
theorem keeps_identity (row : GroupRow key before after call answer) {old new : Group}
    (found : before = some old) (present : after = some new) :
    new.id = old.id ∧ new.createdAt = old.createdAt := by
  cases row with
  | kept same =>
      cases found.symm.trans (same.symm.trans present)
      exact ⟨rfl, rfl⟩
  | inserted spells free now => cases found.symm.trans free
  | written spells now =>
      subst found
      cases present.symm.trans now
      exact ⟨rfl, rfl⟩
  | deleted spells gone => cases present.symm.trans gone

end GroupRow

/-- An insertion that succeeds finds no row and leaves one. -/
theorem insertGroup_eq_ok {group : Group}
    (done : (store.perform (.insertGroup group)).1 = .ok ()) :
    store.groups.find? (group.accountId, group.name) = none ∧
      (store.perform (.insertGroup group)).2.groups.find? (group.accountId, group.name) =
        some group := by
  have performed : store.perform (.insertGroup group) =
      (.ok (), (store.perform (.insertGroup group)).2) := Prod.ext done rfl
  obtain ⟨-, committed⟩ := store.perform_eq_ok.mp performed
  obtain ⟨next, free⟩ := store.addGroup_eq_ok committed
  rw [next]
  exact ⟨by simpa [Table.contains] using free, by simp⟩

end Store

end ServiceGroups
