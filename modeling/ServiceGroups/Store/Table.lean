/-!
# Tables

A table is a finite map kept as a list of rows with distinct keys.  Putting a
row under a key that is present replaces the row in its place, so the keys stay
distinct; a new row goes to the end.
-/

namespace ServiceGroups

/-- Rows under distinct keys. -/
structure Table (κ ν : Type) where
  rows : List (κ × ν)
  distinct : (rows.map Prod.fst).Nodup

namespace Table

variable {κ ν : Type} [DecidableEq κ]

def empty : Table κ ν :=
  ⟨[], List.nodup_nil⟩

instance : Inhabited (Table κ ν) :=
  ⟨empty⟩

def find? (table : Table κ ν) (key : κ) : Option ν :=
  table.rows.lookup key

def contains (table : Table κ ν) (key : κ) : Bool :=
  (table.find? key).isSome

def values (table : Table κ ν) : List ν :=
  table.rows.map Prod.snd

/-- Rows with one more row under a key, or with the row under it replaced. -/
def putRow (key : κ) (value : ν) : List (κ × ν) → List (κ × ν)
  | [] => [(key, value)]
  | row :: rest =>
    if row.1 = key then (key, value) :: rest else row :: putRow key value rest

theorem mem_keys_putRow {key other : κ} {value : ν} {rows : List (κ × ν)} :
    other ∈ (putRow key value rows).map Prod.fst ↔
      other = key ∨ other ∈ rows.map Prod.fst := by
  induction rows with
  | nil => simp [putRow]
  | cons row rest ih =>
    unfold putRow
    split
    · next equal => simp [equal]
    · simp only [List.map_cons, List.mem_cons, ih]
      constructor
      · rintro (h | h | h) <;> simp [h]
      · rintro (h | h | h) <;> simp [h]

theorem nodup_keys_putRow {key : κ} {value : ν} {rows : List (κ × ν)}
    (distinct : (rows.map Prod.fst).Nodup) :
    ((putRow key value rows).map Prod.fst).Nodup := by
  induction rows with
  | nil => simp [putRow]
  | cons row rest ih =>
    have headFresh := (List.nodup_cons.mp distinct).1
    have restDistinct := (List.nodup_cons.mp distinct).2
    unfold putRow
    split
    · next equal => exact List.nodup_cons.mpr ⟨equal ▸ headFresh, restDistinct⟩
    · next notEqual =>
      refine List.nodup_cons.mpr ⟨?_, ih restDistinct⟩
      rw [mem_keys_putRow]
      rintro (equal | member)
      · exact notEqual equal
      · exact headFresh member

def put (table : Table κ ν) (key : κ) (value : ν) : Table κ ν :=
  ⟨putRow key value table.rows, nodup_keys_putRow table.distinct⟩

def erase (table : Table κ ν) (key : κ) : Table κ ν :=
  ⟨table.rows.filter (·.1 ≠ key), table.distinct.sublist (List.filter_sublist.map _)⟩

theorem lookup_cons_eq (row : κ × ν) (rows : List (κ × ν)) (key : κ) :
    (row :: rows).lookup key = if key = row.1 then some row.2 else rows.lookup key := by
  obtain ⟨rowKey, rowValue⟩ := row
  by_cases same : key = rowKey
  · simp [same]
  · simp [List.lookup_cons, same, beq_false_of_ne same]

theorem lookup_putRow (key other : κ) (value : ν) (rows : List (κ × ν)) :
    (putRow key value rows).lookup other =
      if other = key then some value else rows.lookup other := by
  induction rows with
  | nil => simp [putRow, lookup_cons_eq]
  | cons row rest ih =>
    unfold putRow
    by_cases replaced : row.1 = key
    · by_cases same : other = key <;> simp [replaced, lookup_cons_eq, same]
    · simp only [replaced, if_false, lookup_cons_eq, ih]
      by_cases found : other = row.1
      · simp [found, replaced]
      · simp [found]

@[simp]
theorem find?_put (table : Table κ ν) (key other : κ) (value : ν) :
    (table.put key value).find? other = if other = key then some value else table.find? other :=
  lookup_putRow key other value table.rows

theorem lookup_filter_ne (key other : κ) (rows : List (κ × ν)) :
    (rows.filter (·.1 ≠ key)).lookup other =
      if other = key then none else rows.lookup other := by
  induction rows with
  | nil => simp
  | cons row rest ih =>
    by_cases removed : row.1 = key
    · rw [List.filter_cons_of_neg (by simp [removed]), ih, lookup_cons_eq]
      by_cases same : other = key <;> simp [removed, same]
    · rw [List.filter_cons_of_pos (by simp [removed]), lookup_cons_eq, lookup_cons_eq, ih]
      by_cases found : other = row.1
      · simp [found, removed]
      · simp [found]

@[simp]
theorem find?_erase (table : Table κ ν) (key other : κ) :
    (table.erase key).find? other = if other = key then none else table.find? other :=
  lookup_filter_ne key other table.rows

end Table

end ServiceGroups
