import Mathlib.Data.List.Nodup
import ServiceGroups.Proofs.Store.Keyed

/-!
# Listings

A listing holds exactly the rows of its account, each once and in the order of the
listing.  That order is total, and rows that come before one another are the same
row.  A listing is therefore determined by the rows it holds, in whatever order the
store keeps them.
-/

namespace ServiceGroups

namespace Table

variable {κ ν : Type} [DecidableEq κ]

theorem lookup_eq_some {rows : List (κ × ν)} (distinct : (rows.map Prod.fst).Nodup) {key : κ}
    {value : ν} : rows.lookup key = some value ↔ (key, value) ∈ rows := by
  induction rows with
  | nil => simp
  | cons row rest ih =>
      obtain ⟨headFresh, restDistinct⟩ := List.nodup_cons.mp distinct
      rw [lookup_cons_eq, List.mem_cons]
      split
      · next same =>
          have notRest : (row.1, value) ∉ rest := fun member =>
            headFresh (List.mem_map.mpr ⟨_, member, rfl⟩)
          simp [notRest, same, Prod.ext_iff, eq_comm]
      · next other => simp [ih restDistinct, Prod.ext_iff, other]

theorem find?_eq_some {table : Table κ ν} {key : κ} {value : ν} :
    table.find? key = some value ↔ (key, value) ∈ table.rows :=
  lookup_eq_some table.distinct

theorem mem_values {table : Table κ ν} {value : ν} :
    value ∈ table.values ↔ ∃ key, table.find? key = some value := by
  simp [values, find?_eq_some]

/-- Values that spell their keys are distinct. -/
theorem nodup_values {table : Table κ ν} {keyOf : ν → κ}
    (spelled : ∀ key value, table.find? key = some value → keyOf value = key) :
    table.values.Nodup := by
  have keys : table.values.map keyOf = table.rows.map Prod.fst := by
    rw [values, List.map_map]
    refine List.map_congr_left fun row member => ?_
    exact spelled row.1 row.2 (find?_eq_some.mpr member)
  exact List.Nodup.of_map keyOf (keys ▸ table.distinct)

end Table

instance : Std.TransOrd Uuid :=
  inferInstanceAs (Std.TransCmp (compareOn fun id : Uuid => id.value.toNat))

instance : Std.LawfulEqOrd Uuid where
  eq_of_compare {first second} same := by
    have numbers : first.value.toNat = second.value.toNat := Std.LawfulEqOrd.eq_of_compare same
    have values : first.value = second.value := BitVec.eq_of_toNat_eq numbers
    cases first
    cases second
    exact congrArg Uuid.mk values

instance : Std.TransOrd Instant :=
  inferInstanceAs (Std.TransCmp
    (compareLex (compareOn Instant.seconds) (compareOn Instant.nanos)))

namespace Store

theorem templateBefore_eq (first second : Template) :
    templateBefore first second =
      (compareLex (compareOn Template.createdAt) (compareOn Template.id) first second).isLE :=
  rfl

theorem templateBefore_trans (first second third : Template)
    (left : templateBefore first second) (right : templateBefore second third) :
    templateBefore first third := by
  rw [templateBefore_eq] at *
  exact Std.TransCmp.isLE_trans left right

theorem templateBefore_total (first second : Template) :
    templateBefore first second || templateBefore second first := by
  simp only [templateBefore_eq, Bool.or_eq_true]
  rw [← Std.OrientedCmp.isGE_iff_isLE (a := first)]
  cases compareLex (compareOn Template.createdAt) (compareOn Template.id) first second <;> simp

theorem id_eq_of_templateBefore {first second : Template} (left : templateBefore first second)
    (right : templateBefore second first) : first.id = second.id := by
  rw [templateBefore_eq] at left right
  have same := Std.OrientedCmp.isLE_antisymm left right
  exact Std.LawfulEqOrd.eq_of_compare (Ordering.then_eq_eq.mp same).2

theorem groupBefore_trans (first second third : Group) (left : groupBefore first second)
    (right : groupBefore second third) : groupBefore first third := by
  simp only [groupBefore, decide_eq_true_eq] at *
  exact String.le_trans left right

theorem groupBefore_total (first second : Group) :
    groupBefore first second || groupBefore second first := by
  simpa [groupBefore] using String.le_total first.name second.name

theorem name_eq_of_groupBefore {first second : Group} (left : groupBefore first second)
    (right : groupBefore second first) : first.name = second.name := by
  simp only [groupBefore, decide_eq_true_eq] at *
  exact String.le_antisymm left right

/-- A list sorted by a total order is determined by its members, if members that
come before one another are the same. -/
theorem mergeSort_eq_of_mem_iff {α : Type} {before : α → α → Bool} {first second : List α}
    (trans : ∀ a b c, before a b → before b c → before a c)
    (total : ∀ a b, before a b || before b a)
    (antisymm : ∀ a b, a ∈ first → b ∈ first → before a b → before b a → a = b)
    (firstDistinct : first.Nodup) (secondDistinct : second.Nodup)
    (same : ∀ row, row ∈ first ↔ row ∈ second) :
    first.mergeSort before = second.mergeSort before := by
  have members : first.Perm second :=
    (List.perm_ext_iff_of_nodup firstDistinct secondDistinct).mpr same
  have sorted : (first.mergeSort before).Perm (second.mergeSort before) :=
    (List.mergeSort_perm first before).trans
      (members.trans (List.mergeSort_perm second before).symm)
  refine List.Perm.eq_of_pairwise ?_
    (List.pairwise_mergeSort trans total first) (List.pairwise_mergeSort trans total second)
    sorted
  intro a b inFirst inSecond left right
  rw [List.mem_mergeSort] at inFirst inSecond
  exact antisymm a b inFirst ((same b).mpr inSecond) left right

variable {store : Store}

theorem mem_templatesOf {owner : AccountId} {template : Template} :
    template ∈ store.templatesOf owner ↔
      (∃ id, store.templates.find? id = some template) ∧ template.accountId = owner := by
  simp [templatesOf, Table.mem_values]

theorem mem_groupsOf {owner : AccountId} {group : Group} :
    group ∈ store.groupsOf owner ↔
      (∃ key, store.groups.find? key = some group) ∧ group.accountId = owner := by
  simp [groupsOf, Table.mem_values]

theorem templateInUse_iff {id : Uuid} :
    store.templateInUse id = true ↔
      ∃ key group, store.groups.find? key = some group ∧ group.templateId = id := by
  simp only [templateInUse, List.any_eq_true, Table.mem_values, beq_iff_eq]
  constructor
  · rintro ⟨group, ⟨key, found⟩, uses⟩
    exact ⟨key, group, found, uses⟩
  · rintro ⟨key, group, found, uses⟩
    exact ⟨group, ⟨key, found⟩, uses⟩

/-- Two stores that hold the same templates of an account list them alike. -/
theorem templatesOf_eq_of_mem_iff {first second : Store} {owner : AccountId}
    (firstKeyed : first.Keyed) (secondKeyed : second.Keyed)
    (same : ∀ template, template ∈ first.templatesOf owner ↔ template ∈ second.templatesOf owner) :
    first.templatesOf owner = second.templatesOf owner := by
  refine mergeSort_eq_of_mem_iff templateBefore_trans templateBefore_total ?_
    (.filter _ (Table.nodup_values firstKeyed.templates))
    (.filter _ (Table.nodup_values secondKeyed.templates)) ?_
  · intro a b inFirst inFirst' left right
    obtain ⟨id, found⟩ := Table.mem_values.mp (List.mem_of_mem_filter inFirst)
    obtain ⟨id', found'⟩ := Table.mem_values.mp (List.mem_of_mem_filter inFirst')
    -- Rows that come before one another have the same identity, and so the same key.
    have sameId : id = id' := by
      rw [← firstKeyed.templates id a found, ← firstKeyed.templates id' b found']
      exact id_eq_of_templateBefore left right
    rw [sameId, found'] at found
    exact (Option.some.inj found).symm
  · intro template
    simpa only [templatesOf, List.mem_mergeSort] using same template

theorem groupsOf_eq_of_mem_iff {first second : Store} {owner : AccountId}
    (firstKeyed : first.Keyed) (secondKeyed : second.Keyed)
    (same : ∀ group, group ∈ first.groupsOf owner ↔ group ∈ second.groupsOf owner) :
    first.groupsOf owner = second.groupsOf owner := by
  refine mergeSort_eq_of_mem_iff groupBefore_trans groupBefore_total ?_
    (.filter _ (Table.nodup_values firstKeyed.groups))
    (.filter _ (Table.nodup_values secondKeyed.groups)) ?_
  · intro a b inFirst inFirst' left right
    obtain ⟨listed, own⟩ := List.mem_filter.mp inFirst
    obtain ⟨listed', own'⟩ := List.mem_filter.mp inFirst'
    obtain ⟨key, found⟩ := Table.mem_values.mp listed
    obtain ⟨key', found'⟩ := Table.mem_values.mp listed'
    have sameKey : key = key' := by
      rw [← firstKeyed.groups key a found, ← firstKeyed.groups key' b found',
        name_eq_of_groupBefore left right, eq_of_beq own, eq_of_beq own']
    rw [sameKey, found'] at found
    exact (Option.some.inj found).symm
  · intro group
    simpa only [groupsOf, List.mem_mergeSort] using same group

end Store

end ServiceGroups
