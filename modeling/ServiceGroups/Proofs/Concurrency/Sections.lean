import ServiceGroups.Proofs.Concurrency.Crowd
import ServiceGroups.Proofs.Store.Listing

/-!
# Calls made section by section

A call has two sections, and between them any other call may do anything.  What the
first section has checked may therefore be out of date when the second one writes.
Accounts, however, are never removed, so that the row of an account is never written
without its account; and a section that refuses a call changes nothing.
-/

namespace ServiceGroups

/-- A call that is made section by section. -/
inductive Attempt where
  | begun (call : StoreCall)
  /-- The first section has let the call pass. -/
  | checked (call : StoreCall)
  | ended (call : StoreCall) (answer : Except Failure call.Reply)

namespace Attempt

/-- The next section of a call.  The first one only looks at the store. -/
def advance (attempt : Attempt) (store : Store) : Attempt × Store :=
  match attempt with
  | begun call =>
    match store.precheck call with
    | .ok _ => (checked call, store)
    | .error failure => (ended call (.error failure), store)
  | checked call =>
    let (answer, next) := store.commit call
    (ended call answer, next)
  | ended call answer => (ended call answer, store)

def Succeeded : Attempt → Prop
  | ended _ (.ok _) => True
  | _ => False

/-- Calls that are made together on the empty store, after any turns. -/
def together (calls : List StoreCall) (turns : List Nat) : Crowd Attempt Store :=
  (Crowd.mk (calls.map begun) Store.empty).run (fun _ => advance) turns

/-- The sections of a call, with no other call between them, are the call. -/
theorem advance_advance (call : StoreCall) (store : Store) :
    let first := (begun call).advance store
    first.1.advance first.2 = (ended call (store.perform call).1, (store.perform call).2) := by
  cases checking : store.precheck call with
  | error failure =>
      rw [store.perform_of_refused call checking]
      simp only [advance, checking]
  | ok _ =>
      rw [store.perform_of_checked call checking]
      simp only [advance, checking]

theorem succeeded_advance {attempt : Attempt} (succeeded : attempt.Succeeded) (store : Store) :
    (attempt.advance store).1.Succeeded := by
  cases attempt with
  | begun | checked => cases succeeded
  | ended => exact succeeded

/-- A section changes the store only by the success of its call. -/
theorem store_advance (attempt : Attempt) (store : Store) :
    (attempt.advance store).2 = store ∨ (attempt.advance store).1.Succeeded := by
  cases attempt with
  | begun call =>
      left
      simp only [advance]
      split <;> rfl
  | checked call =>
      rcases committed : store.commit call with ⟨failure | reply, next⟩
      · left
        simp only [advance, committed]
        exact store.commit_of_error committed
      · right
        simp only [advance, committed]
        trivial
  | ended => exact .inl rfl

end Attempt

namespace Store

variable {store next : Store}

/-- Every credential, every template and every group belongs to an account that is there. -/
structure Rooted (store : Store) : Prop where
  credentials : ∀ id credential, store.credentials.find? id = some credential →
    store.accounts.contains credential.accountId
  templates : ∀ id template, store.templates.find? id = some template →
    store.accounts.contains template.accountId
  groups : ∀ key group, store.groups.find? key = some group →
    store.accounts.contains group.accountId

theorem rooted_empty : Store.empty.Rooted := by
  constructor <;> intro _ _ found <;> cases found

theorem Rooted.write (rooted : store.Rooted) (write : store.Write next) : next.Rooted := by
  cases write with
  | unchanged => exact rooted
  | putAccount account =>
      exact ⟨fun id row found => contains_put (rooted.credentials id row found) account,
        fun id row found => contains_put (rooted.templates id row found) account,
        fun key row found => contains_put (rooted.groups key row found) account⟩
  | putCredential credential holder =>
      exact { rooted with credentials := Table.forall_find?_put rooted.credentials holder }
  | putTemplate template holder =>
      exact { rooted with templates := Table.forall_find?_put rooted.templates holder }
  | eraseTemplate id =>
      exact { rooted with
        templates := fun _ _ found => rooted.templates _ _ (Table.find?_of_find?_erase found) }
  | putGroup group holder =>
      exact { rooted with groups := Table.forall_find?_put rooted.groups holder }
  | eraseGroup key =>
      exact { rooted with
        groups := fun _ _ found => rooted.groups _ _ (Table.find?_of_find?_erase found) }

/-- No two groups have the same account and the same name. -/
theorem Keyed.nodup_names (keyed : store.Keyed) :
    (store.groups.values.map fun group => (group.accountId, group.name)).Nodup := by
  have keys : store.groups.values.map (fun group => (group.accountId, group.name)) =
      store.groups.rows.map Prod.fst := by
    rw [Table.values, List.map_map]
    refine List.map_congr_left fun row member => ?_
    exact keyed.groups row.1 row.2 (Table.find?_eq_some.mpr member)
  exact keys ▸ store.groups.distinct

end Store

namespace Attempt

variable {attempt : Attempt} {store : Store}

/-- What the first section has found of the account that the call requires still holds. -/
def Fits : Attempt → Store → Prop
  | checked call, store => store.Hosts call
  | _, _ => True

theorem write_advance (fits : attempt.Fits store) : store.Write (attempt.advance store).2 := by
  cases attempt with
  | begun call =>
      simp only [advance]
      split <;> exact .unchanged
  | checked call =>
      simp only [advance]
      rcases committed : store.commit call with ⟨failure | reply, next⟩
      · rw [store.commit_of_error committed]
        exact .unchanged
      · exact Store.commit_write fits committed
  | ended => exact .unchanged

theorem fits_advance (attempt : Attempt) (store : Store) :
    (attempt.advance store).1.Fits (attempt.advance store).2 := by
  cases attempt with
  | begun call =>
      simp only [advance]
      split
      · next passed => exact Store.hosts_of_precheck passed
      · trivial
  | checked call => trivial
  | ended => trivial

/-- Other calls do not take back what a first section has found. -/
theorem Fits.write {next : Store} (fits : attempt.Fits store) (write : store.Write next) :
    attempt.Fits next := by
  cases attempt with
  | checked call => exact fun id required => write.contains (fits id required)
  | begun | ended => trivial

theorem together_holds (calls : List StoreCall) (turns : List Nat) :
    (together calls turns).Holds (fun store => store.Keyed ∧ store.Rooted)
      (fun _ attempt store => attempt.Fits store) := by
  refine Crowd.Holds.run ?_ ?_ ⟨⟨Store.keyed_empty, Store.rooted_empty⟩, ?_⟩ turns
  · intro index attempt store ⟨keyed, rooted⟩ fits
    have write := write_advance fits
    exact ⟨⟨keyed.write write, rooted.write write⟩, fits_advance attempt store⟩
  · intro index attempt store other bystander _ fits bystanderFits
    exact bystanderFits.write (write_advance fits)
  · intro index attempt found
    obtain ⟨call, -, rfl⟩ := List.mem_map.mp (List.mem_of_getElem? found)
    trivial

/-- No section of a call that is answered with an error has changed the store. -/
theorem together_concat_of_error {calls : List StoreCall} {earlier later : List Nat} {index : Nat}
    {call : StoreCall} {failure : Failure}
    (failed : (together calls (earlier ++ index :: later)).agents[index]? =
      some (ended call (.error failure))) :
    (together calls (earlier ++ [index])).shared = (together calls earlier).shared := by
  have moved : together calls (earlier ++ [index]) =
      (together calls earlier).turn (fun _ => advance) index := Crowd.run_concat earlier index
  have onward : together calls (earlier ++ index :: later) =
      (together calls (earlier ++ [index])).run (fun _ => advance) later := by
    rw [List.append_cons]
    exact Crowd.run_append (earlier ++ [index]) later
  rw [onward, moved] at failed
  rw [moved]
  cases present : (together calls earlier).agents[index]? with
  | none => rw [Crowd.turn_of_none present]
  | some attempt =>
      rcases store_advance attempt (together calls earlier).shared with same | succeeded
      · rw [Crowd.turn_of_some present]
        exact same
      · -- A success is never taken back, so that the call is not answered with an error.
        have now : ((together calls earlier).turn (fun _ => advance) index).agents[index]? =
            some (attempt.advance (together calls earlier).shared).1 :=
          Crowd.agents_turn_self present
        obtain ⟨last, found, lastSucceeded⟩ := Crowd.exists_of_persists Succeeded
          (fun _ _ store succeeded => succeeded_advance succeeded store) now succeeded later
        rw [found] at failed
        cases failed
        cases lastSucceeded

/-- The turns of calls that are made one after another. -/
def inOrder (count : Nat) : List Nat :=
  (List.range count).flatMap fun index => [index, index]

/-- Calls whose sections are not mixed leave what they leave one after another. -/
theorem together_inOrder (calls : List StoreCall) :
    (together calls (inOrder calls.length)).shared =
      calls.foldl (fun store call => (store.perform call).2) .empty := by
  -- For the induction, calls that have ended stand before the calls that are still to be made.
  have behind (done : List Attempt) (store : Store) :
      ((Crowd.mk (done ++ calls.map begun) store).run (fun _ => advance)
        ((List.range' done.length calls.length).flatMap fun index => [index, index])).shared =
        calls.foldl (fun store call => (store.perform call).2) store := by
    induction calls generalizing done store with
    | nil => rfl
    | cons call calls ih =>
        have both := advance_advance call store
        simp only at both
        rw [List.length_cons, List.range'_succ, List.flatMap_cons, List.map_cons]
        have twice : ((Crowd.mk (done ++ begun call :: calls.map begun) store).run
            (fun _ => advance) [done.length, done.length]) =
              ⟨(done ++ [ended call (store.perform call).1]) ++ calls.map begun,
                (store.perform call).2⟩ := by
          simp only [Crowd.run, List.foldl_cons, List.foldl_nil, Crowd.turn_append, both,
            List.append_assoc, List.singleton_append]
        rw [Crowd.run_append, twice, List.foldl_cons, ← ih, List.length_append]
        rfl
  have whole := behind [] .empty
  rw [List.length_nil, ← List.range_eq_range'] at whole
  exact whole

/-- Whatever calls are made together on the empty store, and whatever turns their sections
take, every row lies under the key that its fields spell, every credential, template and
group belongs to an account that is there, and no account has two groups of one name.  No
section of a call that is answered with an error has changed anything.  That calls are made
one after another is a special case. -/
theorem rows_are_sound_after_any_turns (calls : List StoreCall) :
    (∀ turns,
      (together calls turns).shared.Keyed ∧ (together calls turns).shared.Rooted ∧
        ((together calls turns).shared.groups.values.map
          fun group => (group.accountId, group.name)).Nodup ∧
        ∀ earlier index later call failure, turns = earlier ++ index :: later →
          (together calls turns).agents[index]? = some (ended call (.error failure)) →
          (together calls (earlier ++ [index])).shared = (together calls earlier).shared) ∧
      (together calls (inOrder calls.length)).shared =
        calls.foldl (fun store call => (store.perform call).2) .empty := by
  refine ⟨fun turns => ?_, together_inOrder calls⟩
  obtain ⟨keyed, rooted⟩ := (together_holds calls turns).shared
  refine ⟨keyed, rooted, keyed.nodup_names, ?_⟩
  rintro earlier index later call failure rfl failed
  exact together_concat_of_error failed

namespace Sample

def holder : Account :=
  ⟨⟨⟨1⟩⟩, "holder", ⟨2⟩, .epoch, .epoch⟩

def group : Group :=
  ⟨⟨3⟩, ⟨⟨1⟩⟩, "web", ⟨4⟩, 1, .epoch, .epoch⟩

/-- The account is written and the group is inserted twice. -/
def calls : List StoreCall :=
  [.upsertAccount holder, .insertGroup group, .insertGroup group]

end Sample

open Sample in
/-- Of two insertions that have both found the account, the later one is refused and changes
nothing. -/
theorem later_insertion_changes_nothing :
    (together calls [0, 0, 1, 2, 1, 2]).agents[2]? =
        some (ended (.insertGroup group)
          (.error (.conflict "service group web already exists"))) ∧
      (together calls [0, 0, 1, 2, 1, 2]).shared = (together calls [0, 0, 1, 2, 1]).shared := by
  have refused : (together calls [0, 0, 1, 2, 1, 2]).agents[2]? =
      some (ended (.insertGroup group) (.error (.conflict "service group web already exists"))) :=
    rfl
  obtain ⟨-, -, -, unchanged⟩ := (rows_are_sound_after_any_turns calls).1 [0, 0, 1, 2, 1, 2]
  exact ⟨refused, unchanged [0, 0, 1, 2, 1] 2 [] _ _ rfl refused⟩

end Attempt

end ServiceGroups
