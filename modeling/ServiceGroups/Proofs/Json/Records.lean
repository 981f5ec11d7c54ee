import ServiceGroups.Proofs.Json.Shapes

/-!
# The fields of records

A node says something about a field with the member of that name, or with the item in its
place; a field that is left out is as its fallback spelled out.  An accepted node is read field
by field, so nodes that say alike about every field are read as the same row.
-/

namespace ServiceGroups

namespace Json

/-- The value of the first member with the name. -/
def memberOf? (name : String) (members : List (Option String × Node)) : Option Node :=
  (members.find? fun member => member.1 = some name).map Prod.snd

/-- What a node says about a field. -/
def Node.part? (place : Nat) (name : String) : Node → Option Node
  | .object members _ => memberOf? name members
  | .array items _ => items[place]?
  | _ => none

namespace Field

/-- A field that is left out is as its fallback spelled out. -/
def node? (field : Field) (part : Option Node) : Option Node :=
  part.or (field.fallback.map fun value => (field.shape.encode value).toNode)

def Reads (field : Field) (part : Option Node) (value : field.shape.Carrier) : Prop :=
  ∃ node, field.node? part = some node ∧ field.shape.decode node = .ok value

/-- Both parts stand for the same value of the field, perhaps in two ways. -/
def Alike (field : Field) (first second : Option Node) : Prop :=
  ∃ one two, field.node? first = some one ∧ field.node? second = some two ∧
    field.shape.Alike one two

theorem Alike.eq {field : Field} {first second : Option Node} {one two : field.shape.Carrier}
    (alike : field.Alike first second) (firstReads : field.Reads first one)
    (secondReads : field.Reads second two) : one = two := by
  obtain ⟨node, other, said, otherSaid, shapes⟩ := alike
  obtain ⟨_, same, read⟩ := firstReads
  obtain ⟨_, otherSame, otherRead⟩ := secondReads
  rw [said] at same
  rw [otherSaid] at otherSame
  cases same
  cases otherSame
  exact shapes.eq read otherRead

theorem reads_some {field : Field} {node : Node} {value : field.shape.Carrier}
    (read : field.shape.decode node = .ok value) : field.Reads (some node) value :=
  ⟨node, rfl, read⟩

theorem reads_fallback {field : Field} {value : field.shape.Carrier}
    (flat : field.shape.isFlat = true) (fallback : field.fallback = some value) :
    field.Reads none value := by
  refine ⟨(field.shape.encode value).toNode, ?_, Shape.decode_encode _ flat value⟩
  rw [node?, fallback]
  rfl

end Field

section Rows

/-- Every value of the row is read from its part. -/
def Row.Reads : (fields : List Field) → (Nat → String → Option Node) → Row fields → Prop
  | [], _, _ => True
  | field :: fields, part, (value, rest) =>
    field.Reads (part 0 field.name) value ∧ Reads fields (fun place => part (place + 1)) rest

theorem Row.Reads.congr {part other : Nat → String → Option Node} : {fields : List Field} →
    {row : Row fields} → Reads fields part row →
    (∀ field ∈ fields, ∀ place, part place field.name = other place field.name) →
    Reads fields other row
  | [], _, _, _ => trivial
  | field :: fields, (value, rest), ⟨first, others⟩, same => by
      refine ⟨?_, ?_⟩
      · rwa [← same field List.mem_cons_self]
      · exact Reads.congr others fun next member place =>
          same next (List.mem_cons_of_mem _ member) (place + 1)

theorem Row.Reads.eq {part other : Nat → String → Option Node} : {fields : List Field} →
    {one two : Row fields} → Reads fields part one → Reads fields other two →
    (∀ place (field : Field), fields[place]? = some field →
      field.Alike (part place field.name) (other place field.name)) → one = two
  | [], _, _, _, _, _ => rfl
  | field :: fields, (value, rest), (value', rest'), ⟨first, others⟩, ⟨first', others'⟩, alike => by
      have head : value = value' := (alike 0 field rfl).eq first first'
      have tail : rest = rest' :=
        Reads.eq others others' fun place next found => alike (place + 1) next found
      rw [head, tail]

theorem Row.reads_items {closed : Bool} : {fields : List Field} → {items : List Node} →
    {row : Row fields} → (∀ field ∈ fields, field.shape.isFlat = true) →
    Row.ofItems closed fields items = .ok row →
    Row.Reads fields (fun place _ => items[place]?) row
  | [], _, _, _, _ => trivial
  | field :: fields, [], row, flat, accepted => by
      obtain ⟨first, others⟩ := List.forall_mem_cons.mp flat
      rw [Row.ofItems] at accepted
      split at accepted
      · split at accepted
        · next value fallback =>
            obtain ⟨rest, restRead, same⟩ := exists_of_bind_eq_ok accepted
            cases same
            refine ⟨Field.reads_fallback first fallback, ?_⟩
            exact (Row.reads_items others restRead).congr fun _ _ _ => rfl
        · cases accepted
      · cases accepted
  | field :: fields, item :: items, row, flat, accepted => by
      obtain ⟨first, others⟩ := List.forall_mem_cons.mp flat
      rw [Row.ofItems] at accepted
      obtain ⟨value, valueRead, accepted⟩ := exists_of_bind_eq_ok accepted
      obtain ⟨rest, restRead, same⟩ := exists_of_bind_eq_ok accepted
      cases same
      exact ⟨Field.reads_some valueRead, Row.reads_items others restRead⟩

end Rows

section Members

variable {field : Field} {fields : List Field}

/-- The slot of the first field in front of the other slots. -/
def Slots.cons (held : Option field.shape.Carrier) (others : Slots fields) :
    Slots (field :: fields) :=
  (held, others)

/-- Without a member for the first field, its slot stays as it is. -/
theorem Slots.putAll_others (held : Option field.shape.Carrier) (others : Slots fields)
    {members : List (Option String × Node)}
    (foreign : ∀ member ∈ members, member.1 ≠ some field.name) :
    (Slots.cons held others).putAll members =
      (others.putAll members).map (Slots.cons held) := by
  induction members generalizing others with
  | nil => rfl
  | cons member rest ih =>
      obtain ⟨notMine, restForeign⟩ := List.forall_mem_cons.mp foreign
      obtain ⟨name, node⟩ := member
      cases name with
      | none => rfl
      | some name =>
          have apart : ¬ field.name = name := fun same => notMine (congrArg some same.symm)
          rw [Slots.putAll, Slots.putAll, Slots.cons, Slots.put, if_neg apart]
          cases put : Slots.put name node fields others with
          | error fault => rfl
          | ok filled => exact ih filled restForeign

/-- What the members of an object leave in the slot of the first field.  At most one member is
for the field, and it is only read when the slot was empty. -/
theorem Slots.putAll_cons {held : Option field.shape.Carrier} {others : Slots fields}
    {members : List (Option String × Node)} {filled : Slots (field :: fields)}
    (done : (Slots.cons held others).putAll members = .ok filled) :
    ∃ held' others', filled = Slots.cons held' others' ∧
      others.putAll (members.filter fun member => member.1 ≠ some field.name) = .ok others' ∧
      (held' = held ∧ memberOf? field.name members = none ∨
        held = none ∧ ∃ node value, memberOf? field.name members = some node ∧
          field.shape.decode node = .ok value ∧ held' = some value) := by
  induction members generalizing held others with
  | nil =>
      cases done
      exact ⟨held, others, rfl, rfl, .inl ⟨rfl, rfl⟩⟩
  | cons member rest ih =>
      obtain ⟨name, node⟩ := member
      cases name with
      | none => cases done
      | some name =>
          rw [Slots.putAll] at done
          obtain ⟨next, put, done⟩ := exists_of_bind_eq_ok done
          by_cases mine : field.name = name
          · rw [Slots.cons, Slots.put, if_pos mine] at put
            split at put
            · cases put
            · next vacant =>
                obtain ⟨value, read, same⟩ := exists_of_bind_eq_ok put
                cases same
                obtain ⟨held', others', rfl, othersRead, slot⟩ := ih done
                have empty : held = none := by simpa using vacant
                rcases slot with ⟨rfl, -⟩ | ⟨absurdity, -⟩
                · refine ⟨_, others', rfl, ?_, .inr ⟨empty, node, value, ?_, read, rfl⟩⟩
                  · rw [List.filter_cons_of_neg (by simp [mine])]
                    exact othersRead
                  · simp [memberOf?, mine]
                · cases absurdity
          · have apart : ¬ name = field.name := fun same => mine same.symm
            rw [Slots.cons, Slots.put, if_neg mine] at put
            obtain ⟨nextOthers, putOthers, same⟩ := exists_of_bind_eq_ok put
            cases same
            obtain ⟨held', others', rfl, othersRead, slot⟩ := ih done
            have found : memberOf? field.name ((some name, node) :: rest) =
                memberOf? field.name rest := by simp [memberOf?, apart]
            refine ⟨held', others', rfl, ?_, by rw [found]; exact slot⟩
            rw [List.filter_cons_of_pos (by simp [apart]), Slots.putAll, putOthers]
            exact othersRead

theorem memberOf?_filter {name other : String} (apart : name ≠ other)
    (members : List (Option String × Node)) :
    memberOf? name (members.filter fun member => member.1 ≠ some other) =
      memberOf? name members := by
  rw [memberOf?, memberOf?, List.find?_filter]
  congr 2
  funext member
  by_cases same : member.1 = some name
  · simp [same, apart]
  · simp [same]

/-- The names of the fields differ, and absence is not optional itself. -/
structure AreSound (fields : List Field) : Prop where
  distinct : (fields.map Field.name).Nodup
  flat : ∀ field ∈ fields, field.shape.isFlat = true

theorem AreSound.tail (sound : AreSound (field :: fields)) : AreSound fields :=
  ⟨(List.nodup_cons.mp sound.distinct).2, (List.forall_mem_cons.mp sound.flat).2⟩

theorem AreSound.apart (sound : AreSound (field :: fields)) {other : Field}
    (member : other ∈ fields) : other.name ≠ field.name := by
  intro same
  have new : field.name ∉ fields.map Field.name := (List.nodup_cons.mp sound.distinct).1
  exact new (same ▸ List.mem_map_of_mem member)

theorem Row.reads_members : {fields : List Field} → {members : List (Option String × Node)} →
    {slots : Slots fields} → {row : Row fields} → AreSound fields →
    (Slots.empty fields).putAll members = .ok slots → slots.toRow? fields = some row →
    Row.Reads fields (fun _ name => memberOf? name members) row
  | [], _, _, _, _, _, _ => trivial
  | field :: fields, members, slots, row, sound, done, full => by
      have begun : (Slots.cons none (Slots.empty fields)).putAll members = .ok slots := done
      obtain ⟨held, others, rfl, othersDone, slot⟩ := Slots.putAll_cons begun
      simp only [Slots.cons, Slots.toRow?, Option.bind_eq_bind, Option.bind_eq_some_iff] at full
      obtain ⟨value, filled, rest, restFull, same⟩ := full
      cases same
      refine ⟨?_, ?_⟩
      · change field.Reads (memberOf? field.name members) value
        rcases slot with ⟨rfl, absent⟩ | ⟨-, node, read, found, decoded, rfl⟩
        · rw [absent]
          exact Field.reads_fallback (sound.flat field List.mem_cons_self) filled
        · cases filled
          rw [found]
          exact Field.reads_some decoded
      · refine (Row.reads_members sound.tail othersDone restFull).congr fun other member _ => ?_
        exact memberOf?_filter (sound.apart member) members

/-- An accepted node is read field by field. -/
theorem Row.reads_part? {fields : List Field} {node : Node} {row : Row fields}
    (sound : AreSound fields) (accepted : Row.ofNode fields node = .ok row) :
    Row.Reads fields (fun place name => node.part? place name) row := by
  cases node with
  | object members closed =>
      obtain ⟨slots, done, accepted⟩ := exists_of_bind_eq_ok accepted
      cases closed with
      | false => cases accepted
      | true =>
          cases full : slots.toRow? fields with
          | none =>
              rw [full] at accepted
              cases accepted
          | some filled =>
              rw [full] at accepted
              cases accepted
              exact Row.reads_members sound done full
  | array items closed => exact Row.reads_items sound.flat accepted
  | null => cases accepted
  | boolean _ => cases accepted
  | number _ => cases accepted
  | string _ => cases accepted
  | broken => cases accepted

end Members

section RoundTrip

theorem exists_field_of_mem_members : {fields : List Field} → {row : Row fields} →
    {member : Option String × Node} → member ∈ memberNodes (row.members fields) →
    ∃ field ∈ fields, member.1 = some field.name
  | [], _, _, member => absurd member List.not_mem_nil
  | field :: fields, (value, rest), _, member => by
      rcases List.mem_cons.mp member with rfl | member
      · exact ⟨field, List.mem_cons_self, rfl⟩
      · obtain ⟨other, inside, same⟩ := exists_field_of_mem_members member
        exact ⟨other, List.mem_cons_of_mem _ inside, same⟩

theorem Row.putAll_members : {fields : List Field} → AreSound fields → (row : Row fields) →
    ∃ slots, (Slots.empty fields).putAll (memberNodes (row.members fields)) = .ok slots ∧
      slots.toRow? fields = some row
  | [], _, _ => ⟨(), rfl, rfl⟩
  | field :: fields, sound, (value, rest) => by
      obtain ⟨slots, done, full⟩ := Row.putAll_members sound.tail rest
      have read := Shape.decode_encode field.shape (sound.flat field List.mem_cons_self) value
      have foreign : ∀ member ∈ memberNodes (rest.members fields),
          member.1 ≠ some field.name := by
        intro member inside same
        obtain ⟨other, otherInside, named⟩ := exists_field_of_mem_members inside
        rw [same] at named
        exact sound.apart otherInside (Option.some.inj named).symm
      have filled := Slots.putAll_others (some value) (Slots.empty fields) foreign
      rw [done] at filled
      refine ⟨Slots.cons (some value) slots, ?_, ?_⟩
      · change (Slots.put field.name _ (field :: fields) (Slots.cons none (Slots.empty fields)) >>=
          fun slots => slots.putAll (memberNodes (rest.members fields))) = _
        rw [Slots.cons, Slots.put, if_pos rfl]
        simp only [Option.isSome_none, Bool.false_eq_true, if_false, read]
        exact filled
      · simp only [Slots.cons, Slots.toRow?, full]
        rfl

/-- A row is read back from its members. -/
theorem Row.ofNode_members {fields : List Field} (sound : AreSound fields) (row : Row fields) :
    Row.ofNode fields (.object (memberNodes (row.members fields)) true) = .ok row := by
  obtain ⟨slots, done, full⟩ := Row.putAll_members sound row
  rw [Row.ofNode, done]
  simp only [bind, Except.bind, full]
  rfl

end RoundTrip

end Json

end ServiceGroups
