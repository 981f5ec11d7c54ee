/-!
# Dictionaries of text

Tags and metadata are finite maps from text to text.  Their entries are kept in
strictly increasing order of the keys, which is the order of the keys' bytes,
so a dictionary has exactly one representation and is always listed in the
same order.  Inserting under a present key replaces its value.
-/

namespace ServiceGroups

def KeysIncrease (entries : List (String × String)) : Prop :=
  (entries.map Prod.fst).Pairwise (· < ·)

instance (entries : List (String × String)) : Decidable (KeysIncrease entries) :=
  inferInstanceAs (Decidable ((entries.map Prod.fst).Pairwise (· < ·)))

/-- A finite map from text to text. -/
structure Dictionary where
  entries : List (String × String)
  increasing : KeysIncrease entries
deriving DecidableEq

namespace Dictionary

def empty : Dictionary :=
  ⟨[], List.Pairwise.nil⟩

instance : Inhabited Dictionary :=
  ⟨empty⟩

/-- Put an entry in its place, replacing the value of an equal key. -/
def insertEntry (key value : String) : List (String × String) → List (String × String)
  | [] => [(key, value)]
  | entry :: rest =>
    if key < entry.1 then (key, value) :: entry :: rest
    else if key = entry.1 then (key, value) :: rest
    else entry :: insertEntry key value rest

theorem mem_keys_insertEntry {key value other : String} {entries : List (String × String)} :
    other ∈ (insertEntry key value entries).map Prod.fst ↔
      other = key ∨ other ∈ entries.map Prod.fst := by
  induction entries with
  | nil => simp [insertEntry]
  | cons entry rest ih =>
    unfold insertEntry
    split
    · simp
    · split
      · next equal => simp [equal]
      · simp only [List.map_cons, List.mem_cons, ih]
        constructor
        · rintro (h | h | h) <;> simp [h]
        · rintro (h | h | h) <;> simp [h]

theorem keysIncrease_insertEntry {key value : String} {entries : List (String × String)}
    (increasing : KeysIncrease entries) : KeysIncrease (insertEntry key value entries) := by
  induction entries with
  | nil => simp [insertEntry, KeysIncrease]
  | cons entry rest ih =>
    have headBelow : ∀ other ∈ rest.map Prod.fst, entry.1 < other :=
      (List.pairwise_cons.mp increasing).1
    have restIncrease : KeysIncrease rest := (List.pairwise_cons.mp increasing).2
    unfold insertEntry
    split
    · next below =>
      refine List.pairwise_cons.mpr ⟨?_, increasing⟩
      intro other otherMem
      rcases List.mem_cons.mp otherMem with rfl | otherMem
      · exact below
      · exact String.lt_trans below (headBelow other otherMem)
    · split
      · next equal =>
        subst equal
        exact List.pairwise_cons.mpr ⟨headBelow, restIncrease⟩
      · next notBelow notEqual =>
        refine List.pairwise_cons.mpr ⟨?_, ih restIncrease⟩
        intro other otherMem
        rcases mem_keys_insertEntry.mp otherMem with rfl | otherMem
        · rcases Std.lt_trichotomy other entry.1 with below | equal | above
          · exact absurd below notBelow
          · exact absurd equal notEqual
          · exact above
        · exact headBelow other otherMem

def insert (key value : String) (dictionary : Dictionary) : Dictionary :=
  ⟨insertEntry key value dictionary.entries, keysIncrease_insertEntry dictionary.increasing⟩

/-- The dictionary of a list of entries; of equal keys the last one counts. -/
def ofList (entries : List (String × String)) : Dictionary :=
  entries.foldl (fun dictionary entry => dictionary.insert entry.1 entry.2) empty

def get? (dictionary : Dictionary) (key : String) : Option String :=
  dictionary.entries.lookup key

end Dictionary

end ServiceGroups
