import ServiceGroups.Proofs.Database.Rows
import ServiceGroups.Proofs.Database.Tables

/-!
# Statements on rows of a table

Where the rows of a database table are the values of a keyed table, an insert with a
rule for taken keys puts a value under its key, unless a reference of the row finds
nothing.  A deletion is held back only by groups that use a template.
-/

namespace ServiceGroups

namespace Database

namespace Contents

variable (contents : Contents) (name : String) (rows : List Row)

@[simp]
theorem set_same : contents.set name rows name = rows :=
  if_pos rfl

theorem set_other {other : String} (different : other ≠ name) :
    contents.set name rows other = contents other :=
  if_neg different

end Contents

section Inserts

variable {κ ν : Type} [DecidableEq κ] {table : Table κ ν} {keyOf : ν → κ} {rowOf : ν → Row}
  {schema : TableSchema} {contents : Contents} {rule : OnConflict}

/-- A row that keeps its columns and agrees with no other in a key breaks at most a
reference. -/
theorem breach?_of_unclashed {others : List Row} {row : Row}
    (columns : schema.columnBreach? row = none)
    (unclashed : schema.keys.any (fun key => others.any (Row.agrees key · row)) = false) :
    schema.breach? contents others row =
      if schema.columns.any (Column.dangles contents row) then some "23503" else none := by
  simp only [TableSchema.breach?, columns, unclashed, Option.none_or, Bool.false_eq_true,
    if_false]

/-- Where no row of the table agrees with the new one in a key, an insert is refused only
for a reference. -/
theorem insertRow_of_unclashed {row : Row} (rule : Option OnConflict)
    (columns : schema.columnBreach? row = none)
    (free : ∀ given ∈ rule, (contents schema.name).find? (Row.agrees given.key · row) = none)
    (unclashed : schema.keys.any (fun key =>
      (contents schema.name).any (Row.agrees key · row)) = false) :
    insertRow schema contents row rule =
      if schema.columns.any (Column.dangles contents row) then .error "23503"
      else .ok (1, contents.set schema.name (contents schema.name ++ [row])) := by
  have noConflict : (rule.bind fun given =>
      ((contents schema.name).find? (Row.agrees given.key · row)).map (Prod.mk given)) =
        none := by
    cases rule with
    | none => rfl
    | some given => rw [Option.bind_some, free given rfl, Option.map_none]
  rw [insertRow, columns, noConflict]
  simp only [breach?_of_unclashed columns unclashed]
  cases schema.columns.any (Column.dangles contents row) with
  | true => rfl
  | false => rfl

/-- An insert that meets a row with its key turns it into the next one, unless a reference
of the next one finds nothing. -/
theorem insertRow_of_met {row old next : Row}
    (columns : schema.columnBreach? row = none)
    (met : (contents schema.name).find? (Row.agrees rule.key · row) = some old)
    (agreeing : Row.agrees rule.agreeing old row = true)
    (replaced : old.replace rule.replaced row = next)
    (nextColumns : schema.columnBreach? next = none)
    (unclashed : schema.keys.any (fun key =>
      ((contents schema.name).filter (!Row.agrees rule.key · row)).any
        (Row.agrees key · next)) = false) :
    insertRow schema contents row (some rule) =
      if schema.columns.any (Column.dangles contents next) then .error "23503"
      else .ok (1, contents.set schema.name ((contents schema.name).map fun other =>
        if Row.agrees rule.key other row then next else other)) := by
  rw [insertRow, columns, Option.bind_some, met, Option.map_some]
  simp only [agreeing, if_true, replaced, breach?_of_unclashed nextColumns unclashed]
  cases schema.columns.any (Column.dangles contents next) with
  | true => rfl
  | false => rfl

/-- An insert leaves a row alone that does not agree with it as the rule wants. -/
theorem insertRow_of_disagreeing {row old : Row}
    (columns : schema.columnBreach? row = none)
    (met : (contents schema.name).find? (Row.agrees rule.key · row) = some old)
    (disagreeing : Row.agrees rule.agreeing old row = false) :
    insertRow schema contents row (some rule) = .ok (0, contents) := by
  rw [insertRow, columns, Option.bind_some, met, Option.map_some]
  simp only [disagreeing, Bool.false_eq_true, if_false]

variable (mirrored : contents schema.name = table.values.map rowOf)
  (spelled : table.Spelled keyOf) (columns : ∀ value, schema.columnBreach? (rowOf value) = none)
  (picks : ∀ value, Table.Picks keyOf rowOf (Row.agrees rule.key · (rowOf value)) (keyOf value))

include mirrored spelled columns picks

variable (rule) in
/-- An upsert under a new key adds the value. -/
theorem upsert_of_absent {value : ν} (absent : table.find? (keyOf value) = none)
    (unclashed : schema.keys.any (fun key =>
      (table.values.map rowOf).any (Row.agrees key · (rowOf value))) = false) :
    insertRow schema contents (rowOf value) (some rule) =
      if schema.columns.any (Column.dangles contents (rowOf value)) then .error "23503"
      else .ok (1, contents.set schema.name
        ((table.put (keyOf value) value).values.map rowOf)) := by
  have free : (contents schema.name).find? (Row.agrees rule.key · (rowOf value)) = none := by
    rw [mirrored, Table.find?_rows spelled (picks value), absent]
    rfl
  have grown : contents schema.name ++ [rowOf value] =
      (table.put (keyOf value) value).values.map rowOf := by
    rw [mirrored, Table.values_put_of_none absent, List.map_append]
    rfl
  rw [insertRow_of_unclashed _ (columns value) (by simpa using free) (mirrored ▸ unclashed),
    grown]

variable (rule) in
/-- An upsert under a key that is present puts the merged value in its place. -/
theorem upsert_of_present {value old next : ν} (present : table.find? (keyOf value) = some old)
    (agreeing : Row.agrees rule.agreeing (rowOf old) (rowOf value) = true)
    (replaced : (rowOf old).replace rule.replaced (rowOf value) = rowOf next)
    (unclashed : schema.keys.any (fun key =>
      ((table.values.map rowOf).filter (!Row.agrees rule.key · (rowOf value))).any
        (Row.agrees key · (rowOf next))) = false) :
    insertRow schema contents (rowOf value) (some rule) =
      if schema.columns.any (Column.dangles contents (rowOf next)) then .error "23503"
      else .ok (1, contents.set schema.name
        ((table.put (keyOf value) next).values.map rowOf)) := by
  have met : (contents schema.name).find? (Row.agrees rule.key · (rowOf value)) =
      some (rowOf old) := by
    rw [mirrored, Table.find?_rows spelled (picks value), present]
    rfl
  rw [insertRow_of_met (columns value) met agreeing replaced (columns next)
    (mirrored ▸ unclashed), mirrored,
    Table.rows_put spelled (picks value) present]

variable (rule) in
/-- Where the table has one key and an upsert loses nothing of the value, the value is put
under its key, unless a reference finds nothing. -/
theorem upsert_of_kept {value : ν} (only : schema.keys = [rule.key])
    (kept : ∀ old, table.find? (keyOf value) = some old →
      Row.agrees rule.agreeing (rowOf old) (rowOf value) = true ∧
        (rowOf old).replace rule.replaced (rowOf value) = rowOf value) :
    insertRow schema contents (rowOf value) (some rule) =
      if schema.columns.any (Column.dangles contents (rowOf value)) then .error "23503"
      else .ok (1, contents.set schema.name
        ((table.put (keyOf value) value).values.map rowOf)) := by
  cases found : table.find? (keyOf value) with
  | none =>
      refine upsert_of_absent rule mirrored spelled columns picks found ?_
      rw [only, List.any_cons, List.any_nil, Bool.or_false,
        Table.any_rows spelled (picks value), Table.contains, found]
      rfl
  | some old =>
      obtain ⟨agreeing, replaced⟩ := kept old found
      refine upsert_of_present rule mirrored spelled columns picks found agreeing replaced ?_
      rw [only, List.any_cons, List.any_nil, Bool.or_false, List.any_eq_false]
      intro row member
      simpa using (List.mem_filter.mp member).2

omit mirrored spelled picks in
/-- A row that agrees with another in a key is not inserted. -/
theorem insertRow_of_clash {value : ν}
    (clash : schema.keys.any (fun key =>
      (contents schema.name).any (Row.agrees key · (rowOf value))) = true) :
    insertRow schema contents (rowOf value) none = .error "23505" := by
  rw [insertRow, columns, Option.bind_none]
  simp only [TableSchema.breach?, columns, clash, Option.none_or, if_true]

end Inserts

section Deletions

variable {contents : Contents} {hit : Row → Bool}

/-- References that cascade are references to accounts. -/
theorem refersTo_cascading {table : TableSchema} (member : table ∈ schema) {target : String}
    (notAccounts : target ≠ "tsg_accounts") (gone : List Row) (row : Row) :
    refersTo table.columns true target gone row = false := by
  have onlyAccounts : ∀ table ∈ schema, ∀ column ∈ table.columns,
      ∀ reference ∈ column.reference, reference.cascades = true →
        reference.table = "tsg_accounts" := by
    decide
  rw [refersTo, List.any_eq_false]
  intro column inside
  cases found : column.reference with
  | none => exact Bool.false_ne_true
  | some reference =>
      have toAccounts := onlyAccounts table member column inside reference found
      intro refers
      simp only [Option.any_some, Bool.and_eq_true, beq_iff_eq] at refers
      exact notAccounts (refers.1.2.symm.trans (toAccounts refers.1.1))

/-- No row of another table goes with rows that are not accounts. -/
theorem goesWith_eq {target : String} (notAccounts : target ≠ "tsg_accounts")
    (gone : List Row) :
    goesWith target gone hit = fun table row => if table = target then hit row else false := by
  funext table row
  rw [goesWith, columnsOf]
  split
  · rfl
  · cases found : schema.find? (·.name == table) with
    | none => rfl
    | some other =>
        exact refersTo_cascading (List.mem_of_find?_eq_some found) notAccounts gone row

/-- The only references that hold a row back are those of groups to their templates. -/
theorem held_eq (left gone : Contents) :
    (schema.any fun table => schema.any fun other =>
      (left table.name).any (refersTo table.columns false other.name (gone other.name))) =
      (left "tsg_groups").any fun row => (gone "tsg_templates").any fun other =>
        (other.value "template_id").equals (row.value "template_id") := by
  have accounts (target : String) (gone : List Row) :
      refersTo accountsTable.columns false target gone = fun _ => false := rfl
  have credentials (target : String) (gone : List Row) :
      refersTo credentialsTable.columns false target gone = fun _ => false := rfl
  have templates (target : String) (gone : List Row) :
      refersTo templatesTable.columns false target gone = fun _ => false := rfl
  have groups (target : String) (gone : List Row) :
      refersTo groupsTable.columns false target gone = fun row =>
        "tsg_templates" == target && gone.any fun other =>
          (other.value "template_id").equals (row.value "template_id") := by
    funext row
    simp [refersTo, groupsTable, ownerReference]
  have names : accountsTable.name = "tsg_accounts" ∧
      credentialsTable.name = "tsg_triton_credentials" ∧
      templatesTable.name = "tsg_templates" ∧ groupsTable.name = "tsg_groups" :=
    ⟨rfl, rfl, rfl, rfl⟩
  have never (rows : List Row) : (rows.any fun _ => false) = false := by simp
  simp [schema, accounts, credentials, templates, groups, names, never]

/-- A deletion of rows that are not accounts changes their table alone, and is refused
if a group that stays uses a template that goes. -/
theorem deleteRows_eq {target : String} (notAccounts : target ≠ "tsg_accounts") :
    deleteRows contents target hit =
      if (contents.set target ((contents target).filter (!hit ·)) "tsg_groups").any fun row =>
          (Contents.empty.set target ((contents target).filter hit) "tsg_templates").any
            fun other => (other.value "template_id").equals (row.value "template_id")
      then .error "23503"
      else .ok (((contents target).filter hit).length,
        contents.set target ((contents target).filter (!hit ·))) := by
  have left (table : String) : ((contents table).filter fun row =>
      !(if table = target then hit row else false)) =
        contents.set target ((contents target).filter (!hit ·)) table := by
    by_cases same : table = target <;> simp [Contents.set, same]
  have gone (table : String) : ((contents table).filter fun row =>
      if table = target then hit row else false) =
        Contents.empty.set target ((contents target).filter hit) table := by
    by_cases same : table = target <;> simp [Contents.set, Contents.empty, same]
  simp only [deleteRows, goesWith_eq notAccounts, left, gone, held_eq]

theorem deleteRows_groups :
    deleteRows contents "tsg_groups" hit =
      .ok (((contents "tsg_groups").filter hit).length,
        contents.set "tsg_groups" ((contents "tsg_groups").filter (!hit ·))) := by
  have noTemplates : Contents.empty.set "tsg_groups" ((contents "tsg_groups").filter hit)
      "tsg_templates" = [] := rfl
  rw [deleteRows_eq (by decide), noTemplates]
  simp

theorem deleteRows_templates :
    deleteRows contents "tsg_templates" hit =
      if (contents "tsg_groups").any fun row =>
          ((contents "tsg_templates").filter hit).any fun other =>
            (other.value "template_id").equals (row.value "template_id")
      then .error "23503"
      else .ok (((contents "tsg_templates").filter hit).length,
        contents.set "tsg_templates" ((contents "tsg_templates").filter (!hit ·))) := by
  rw [deleteRows_eq (by decide), Contents.set_same, Contents.set_other _ _ _ (by decide)]

end Deletions

section Selections

variable {ν : Type} {rowOf : ν → Row}

/-- Without an order rows are given in the order in which they are kept. -/
theorem selectRows_unordered (rows : List Row) (columns equal : List String)
    (values : List Datum) :
    selectRows rows columns equal [] false values =
      (rows.filter (Row.fits (equal.zip values))).map (Row.project columns) := by
  have sorted : ((rows.filter (Row.fits (equal.zip values))).mergeSort fun first second =>
      (Row.order [] first second).isLE) = rows.filter (Row.fits (equal.zip values)) :=
    List.mergeSort_of_pairwise (List.pairwise_of_forall fun _ _ => rfl)
  simp only [selectRows, sorted, Bool.false_eq_true, if_false]

/-- A listing is a page of the values that fit, in the order that the values have. -/
theorem selectRows_listing {values : List ν} {before : ν → ν → Bool} {own : ν → Bool}
    {columns order : List String} {column : String} {owner : Datum} (limit offset : Nat)
    (fits : ∀ value, Row.fits [(column, owner)] (rowOf value) = own value)
    (ordered : ∀ first second,
      (Row.order order (rowOf first) (rowOf second)).isLE = before first second)
    (projected : ∀ value, (rowOf value).project columns = rowOf value) :
    selectRows (values.map rowOf) columns [column] order true
        [owner, .long limit, .long offset] =
      ((((values.filter own).mergeSort before).drop offset).take limit).map rowOf := by
  have found : (values.map rowOf).filter (Row.fits [(column, owner)]) =
      (values.filter own).map rowOf := by
    rw [List.filter_map]
    exact congrArg (List.map rowOf) (List.filter_congr fun value _ => fits value)
  have sorted : ((values.filter own).map rowOf).mergeSort
      (fun first second => (Row.order order first second).isLE) =
        ((values.filter own).mergeSort before).map rowOf :=
    (List.map_mergeSort fun first _ second _ => (ordered first second).symm).symm
  have given (rows : List ν) : (rows.map rowOf).map (Row.project columns) = rows.map rowOf := by
    rw [List.map_map]
    exact List.map_congr_left fun value _ => projected value
  simp only [selectRows, List.zip_cons_cons, List.zip_nil_left, found, sorted, if_true,
    List.length_singleton, List.drop_succ_cons, List.drop_zero, pageOf, Int.toNat_natCast,
    ← List.map_drop, ← List.map_take, given]

end Selections

end Database

end ServiceGroups
