import ServiceGroups.Dictionary
import ServiceGroups.Store.Table

/-!
# Lookups in dictionaries

An insertion is seen under its key only.  Because the keys increase, a dictionary is determined
by what is found under each key.
-/

namespace ServiceGroups

namespace Dictionary

open Table (lookup_cons_eq)

theorem lookup_insertEntry (key value other : String) (entries : List (String × String)) :
    (insertEntry key value entries).lookup other =
      if other = key then some value else entries.lookup other := by
  induction entries with
  | nil => simp [insertEntry, lookup_cons_eq]
  | cons entry rest ih =>
      unfold insertEntry
      split
      · simp [lookup_cons_eq]
      · split
        · next same =>
            by_cases found : other = key
            · simp [lookup_cons_eq, found]
            · simp [lookup_cons_eq, found, same ▸ found]
        · next different =>
            by_cases found : other = entry.1
            · have apart : ¬ entry.1 = key := fun same => different same.symm
              simp [lookup_cons_eq, found, apart]
            · simp [lookup_cons_eq, found, ih]

theorem get?_insert (key value other : String) (dictionary : Dictionary) :
    (dictionary.insert key value).get? other =
      if other = key then some value else dictionary.get? other :=
  lookup_insertEntry key value other dictionary.entries

theorem lookup_eq_none_of_below {key : String} {entries : List (String × String)}
    (below : ∀ other ∈ entries.map Prod.fst, key < other) : entries.lookup key = none := by
  induction entries with
  | nil => rfl
  | cons entry rest ih =>
      obtain ⟨first, others⟩ := List.forall_mem_cons.mp below
      have apart : key ≠ entry.1 := fun same => String.lt_irrefl _ (same ▸ first)
      simp [lookup_cons_eq, apart, ih others]

theorem entries_eq_of_lookup {first second : List (String × String)}
    (firstIncrease : KeysIncrease first) (secondIncrease : KeysIncrease second)
    (same : ∀ key, first.lookup key = second.lookup key) : first = second := by
  induction first generalizing second with
  | nil =>
      cases second with
      | nil => rfl
      | cons entry rest => simpa [lookup_cons_eq] using same entry.1
  | cons entry rest ih =>
      cases second with
      | nil => simpa [lookup_cons_eq] using same entry.1
      | cons other others =>
          obtain ⟨below, restIncrease⟩ := List.pairwise_cons.mp firstIncrease
          obtain ⟨otherBelow, othersIncrease⟩ := List.pairwise_cons.mp secondIncrease
          rcases Std.lt_trichotomy entry.1 other.1 with before | equal | after
          · have apart : entry.1 ≠ other.1 := fun same => String.lt_irrefl _ (same ▸ before)
            have absent : others.lookup entry.1 = none :=
              lookup_eq_none_of_below fun key member =>
                String.lt_trans before (otherBelow key member)
            have found := same entry.1
            simp [lookup_cons_eq, apart, absent] at found
          · have values : entry.2 = other.2 := by
              have found := same entry.1
              simpa [lookup_cons_eq, equal] using found
            have others_eq := ih restIncrease othersIncrease fun key => by
              by_cases head : key = entry.1
              · have absent : rest.lookup key = none :=
                  lookup_eq_none_of_below (by rwa [head])
                have otherAbsent : others.lookup key = none :=
                  lookup_eq_none_of_below (by rwa [head, equal])
                rw [absent, otherAbsent]
              · have otherHead : key ≠ other.1 := by rwa [← equal]
                have found := same key
                simpa [lookup_cons_eq, head, otherHead] using found
            rw [others_eq, Prod.ext equal values]
          · have apart : other.1 ≠ entry.1 := fun same => String.lt_irrefl _ (same ▸ after)
            have absent : rest.lookup other.1 = none :=
              lookup_eq_none_of_below fun key member =>
                String.lt_trans after (below key member)
            have found := same other.1
            simp [lookup_cons_eq, apart, absent] at found

/-- Dictionaries with the same entry under every key are equal. -/
theorem eq_of_get? {first second : Dictionary}
    (same : ∀ key, first.get? key = second.get? key) : first = second := by
  cases first with
  | mk entries increasing =>
      cases second with
      | mk others othersIncrease =>
          obtain rfl := entries_eq_of_lookup increasing othersIncrease same
          rfl

end Dictionary

end ServiceGroups
