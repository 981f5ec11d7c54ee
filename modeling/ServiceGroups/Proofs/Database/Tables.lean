import ServiceGroups.Proofs.Store.Listing

/-!
# Tables as lists of their values

Where values spell their own keys, a table is no more than the list of its values: a
value is found by its key, putting a value replaces the one with its key or goes to
the end, and erasing a key drops the value with the key.  The same is then true of any
list of rows that the values are written as, if a test of the rows tells the key.
-/

namespace ServiceGroups

namespace Table

variable {κ ν : Type} [DecidableEq κ] {table : Table κ ν} {keyOf : ν → κ}

/-- Every value spells the key it lies under. -/
def Spelled (table : Table κ ν) (keyOf : ν → κ) : Prop :=
  ∀ row ∈ table.rows, keyOf row.2 = row.1

theorem spelled_of_find? (spelled : ∀ key value, table.find? key = some value →
    keyOf value = key) : table.Spelled keyOf :=
  fun row member => spelled row.1 row.2 (find?_eq_some.mpr member)

/-- At most one value has a key, and it is the one that is found under it. -/
theorem filter_values (spelled : table.Spelled keyOf) (key : κ) (also : ν → Bool) :
    table.values.filter (fun value => decide (keyOf value = key) && also value) =
      ((table.find? key).filter also).toList := by
  have rows (rows : List (κ × ν)) (spelled : ∀ row ∈ rows, keyOf row.2 = row.1)
      (distinct : (rows.map Prod.fst).Nodup) :
      (rows.map Prod.snd).filter (fun value => decide (keyOf value = key) && also value) =
        ((rows.lookup key).filter also).toList := by
    induction rows with
    | nil => rfl
    | cons row rest ih =>
        obtain ⟨first, others⟩ := List.forall_mem_cons.mp spelled
        obtain ⟨fresh, distinct⟩ := List.nodup_cons.mp distinct
        rw [List.map_cons, List.filter_cons, lookup_cons_eq, ih others distinct, first]
        by_cases same : row.1 = key
        · -- The key does not come again.
          have gone : rest.lookup key = none := by
            rw [List.lookup_eq_none_iff]
            intro other member
            have keys : other.1 ≠ row.1 := fun equal =>
              fresh (equal ▸ List.mem_map_of_mem member)
            simpa [same ▸ keys] using Ne.symm (same ▸ keys)
          rw [gone, if_pos same.symm]
          by_cases wanted : also row.2 <;> simp [same, wanted, Option.filter]
        · simp [same, Ne.symm same]
  exact rows table.rows spelled table.distinct

/-- A value under a new key goes to the end. -/
theorem values_put_of_none {key : κ} (absent : table.find? key = none) (value : ν) :
    (table.put key value).values = table.values ++ [value] := by
  have rows (rows : List (κ × ν)) (absent : rows.lookup key = none) :
      (putRow key value rows).map Prod.snd = rows.map Prod.snd ++ [value] := by
    induction rows with
    | nil => rfl
    | cons row rest ih =>
        rw [lookup_cons_eq] at absent
        by_cases same : key = row.1
        · rw [if_pos same] at absent
          cases absent
        · rw [if_neg same] at absent
          rw [putRow, if_neg (Ne.symm same), List.map_cons, ih absent]
          rfl
  exact rows table.rows absent

/-- A value under a key that is present replaces the one that was there. -/
theorem values_put_of_some (spelled : table.Spelled keyOf) {key : κ} {old : ν}
    (found : table.find? key = some old) (value : ν) :
    (table.put key value).values =
      table.values.map fun other => if keyOf other = key then value else other := by
  have rows (rows : List (κ × ν)) (spelled : ∀ row ∈ rows, keyOf row.2 = row.1)
      (distinct : (rows.map Prod.fst).Nodup) (found : rows.lookup key = some old) :
      (putRow key value rows).map Prod.snd =
        (rows.map Prod.snd).map fun other => if keyOf other = key then value else other := by
    induction rows with
    | nil => cases found
    | cons row rest ih =>
        obtain ⟨first, others⟩ := List.forall_mem_cons.mp spelled
        obtain ⟨fresh, distinct⟩ := List.nodup_cons.mp distinct
        rw [lookup_cons_eq] at found
        by_cases same : row.1 = key
        · -- No other row has the key, so that the rest stays as it is.
          have kept : (rest.map Prod.snd).map
              (fun other => if keyOf other = key then value else other) =
                rest.map Prod.snd := by
            rw [List.map_map]
            refine List.map_congr_left fun other member => ?_
            have different : keyOf other.2 ≠ key := by
              intro equal
              have keys : other.1 = row.1 :=
                (others other member).symm.trans (equal.trans same.symm)
              exact fresh (keys ▸ List.mem_map_of_mem member)
            exact if_neg different
          rw [putRow, if_pos same, List.map_cons, List.map_cons, List.map_cons, kept,
            if_pos (first.trans same)]
        · rw [if_neg (Ne.symm same)] at found
          have different : keyOf row.2 ≠ key := fun equal => same (first.symm.trans equal)
          rw [putRow, if_neg same, List.map_cons, List.map_cons, List.map_cons,
            if_neg different, ih others distinct found]
  exact rows table.rows spelled table.distinct found

/-- Erasing a key drops the value with the key. -/
theorem values_erase (spelled : table.Spelled keyOf) (key : κ) :
    (table.erase key).values =
      table.values.filter fun value => !decide (keyOf value = key) := by
  rw [values, values, List.filter_map]
  refine congrArg (List.map Prod.snd) (List.filter_congr fun row member => ?_)
  rw [Function.comp_apply, spelled row member, decide_not]

section Rows

variable {β : Type} {rowOf : ν → β} {hit : β → Bool} {key : κ} {also : ν → Bool}

/-- A test of rows picks the values that have a key and pass another test. -/
def Picks (keyOf : ν → κ) (rowOf : ν → β) (hit : β → Bool) (key : κ)
    (also : ν → Bool := fun _ => true) : Prop :=
  ∀ value, hit (rowOf value) = (decide (keyOf value = key) && also value)

theorem filter_rows (spelled : table.Spelled keyOf) (picks : Picks keyOf rowOf hit key also) :
    (table.values.map rowOf).filter hit =
      (((table.find? key).filter also).map rowOf).toList := by
  have same : hit ∘ rowOf = fun value => decide (keyOf value = key) && also value :=
    funext picks
  rw [List.filter_map, same, filter_values spelled, Option.toList_map]

theorem find?_rows (spelled : table.Spelled keyOf) (picks : Picks keyOf rowOf hit key) :
    (table.values.map rowOf).find? hit = (table.find? key).map rowOf := by
  rw [← List.head?_filter, filter_rows spelled picks]
  cases table.find? key with
  | none => rfl
  | some value => rfl

theorem any_rows (spelled : table.Spelled keyOf) (picks : Picks keyOf rowOf hit key) :
    (table.values.map rowOf).any hit = table.contains key := by
  rw [← List.isSome_find?, find?_rows spelled picks, Option.isSome_map]
  rfl

/-- If the value under the key passes the test, the rows that are not hit are those of
the table without the key. -/
theorem rows_erase (spelled : table.Spelled keyOf) (picks : Picks keyOf rowOf hit key also)
    {old : ν} (found : table.find? key = some old) (passes : also old = true) :
    (table.values.map rowOf).filter (!hit ·) = (table.erase key).values.map rowOf := by
  rw [List.filter_map, values_erase spelled key]
  refine congrArg (List.map rowOf) (List.filter_congr fun value member => ?_)
  rw [Function.comp_apply, picks value]
  by_cases same : keyOf value = key
  · obtain ⟨other, present⟩ := mem_values.mp member
    have under : other = key :=
      (spelled (other, value) (find?_eq_some.mp present)).symm.trans same
    rw [under, found] at present
    cases present
    simp [same, passes]
  · simp [same]

theorem rows_put (spelled : table.Spelled keyOf) (picks : Picks keyOf rowOf hit key)
    {old : ν} (found : table.find? key = some old) (value : ν) :
    (table.values.map rowOf).map (fun row => if hit row then rowOf value else row) =
      (table.put key value).values.map rowOf := by
  rw [values_put_of_some spelled found, List.map_map, List.map_map]
  refine List.map_congr_left fun other _ => ?_
  simp only [Function.comp_apply, picks other, Bool.and_true, decide_eq_true_eq]
  exact (apply_ite rowOf _ _ _).symm

end Rows

end Table

end ServiceGroups
