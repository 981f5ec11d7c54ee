import Mathlib.Control.Monad.Basic
import ServiceGroups.Proofs.Database.Rows
import ServiceGroups.Proofs.Dictionary
import ServiceGroups.Proofs.Except
import ServiceGroups.Proofs.Instant.Accepted
import ServiceGroups.Proofs.Instant.Printing
import ServiceGroups.Proofs.Json.Writing

/-!
# The values of fields

A value of every shape is read back from the JSON that stands for it.  Nodes may stand for one
value in several ways: identifiers and instants have several spellings, and the members of a
dictionary may come in any order.  Nodes that differ in no more than this are read alike.
-/

namespace ServiceGroups

namespace Json

section RoundTrip

theorem decode_texts (read items : List String) :
    textsOf true read (itemNodes (items.map .string)) = .ok (read.reverse ++ items) := by
  induction items generalizing read with
  | nil => simp [textsOf, itemNodes]
  | cons item rest ih =>
      have first : (Value.string item).toNode.text = .ok item := rfl
      have others := ih (item :: read)
      rw [List.reverse_cons, List.append_assoc, List.singleton_append] at others
      rw [List.map_cons, itemNodes, textsOf, first]
      exact others

theorem arePlainItems_texts (items : List String) :
    ArePlainItems (items.map Value.string) := by
  induction items with
  | nil => trivial
  | cons item rest ih => exact ⟨trivial, ih⟩

theorem arePlainMembers_dictionary (entries : List (String × String)) :
    ArePlainMembers (entries.map fun entry => (entry.1, Value.string entry.2)) := by
  induction entries with
  | nil => trivial
  | cons entry rest ih => exact ⟨trivial, ih⟩

theorem Node.textAs_eq_ok {α : Type} {read? : String → Option α} {text : String} {value : α} :
    (Node.string (some text)).textAs read? = .ok value ↔ read? text = some value := by
  cases found : read? text with
  | none => simp [Node.textAs, Node.text, bind, Except.bind, found]
  | some value => simp [Node.textAs, Node.text, bind, Except.bind, found]

namespace Shape

theorem isPlain_encode : (shape : Shape) → (value : shape.Carrier) →
    (shape.encode value).IsPlain
  | .uuid, _ => trivial
  | .text, _ => trivial
  | .instant, _ => trivial
  | .word32, value => ⟨value.toNat, by have := value.toNat_lt; omega, rfl⟩
  | .word64, value => ⟨value.toNat, value.toNat_lt, rfl⟩
  | .flag, _ => trivial
  | .texts, value => arePlainItems_texts value
  | .dictionary, value => arePlainMembers_dictionary value.entries
  | .optional _, none => trivial
  | .optional inner, some value => isPlain_encode inner value

/-- Absence is not optional itself, so `null` stands for absence only. -/
def isFlat : Shape → Bool
  | .optional (.optional _) => false
  | .optional inner => inner.isFlat
  | _ => true

theorem wholeBelow_natural {limit value : Nat} (small : value < limit) :
    (Value.natural value).toNode.wholeBelow limit = .ok value := by
  have range : 0 ≤ (value : Int) ∧ (value : Int) < limit := by omega
  exact if_pos range

theorem decode_optional (inner : Shape) {node : Node} (present : node ≠ .null) :
    (Shape.optional inner).decode node = (inner.decode node).map some := by
  cases node with
  | null => exact absurd rfl present
  | _ => rfl

theorem encode_ne_null {inner : Shape} (flat : (Shape.optional inner).isFlat = true)
    (value : inner.Carrier) : (inner.encode value).toNode ≠ .null := by
  cases inner with
  | optional _ => cases flat
  | _ => exact Node.noConfusion

/-- A value is read back from the JSON that stands for it. -/
theorem decode_encode : (shape : Shape) → shape.isFlat = true → (value : shape.Carrier) →
    shape.decode (shape.encode value).toNode = .ok value
  | .uuid, _, value => Node.textAs_eq_ok.mpr value.read?_text
  | .text, _, _ => rfl
  | .instant, _, value => Node.textAs_eq_ok.mpr value.read?_text
  | .word32, _, value => by
      rw [decode, encode, wholeBelow_natural value.toNat_lt]
      exact congrArg Except.ok UInt32.ofNat_toNat
  | .word64, _, value => by
      rw [decode, encode, wholeBelow_natural value.toNat_lt]
      exact congrArg Except.ok UInt64.ofNat_toNat
  | .flag, _, _ => rfl
  | .texts, _, value => decode_texts [] value
  | .dictionary, _, value => decode_dictionary value
  | .optional _, _, none => rfl
  | .optional inner, flat, some value => by
      have innerFlat : inner.isFlat = true := by
        cases inner with
        | optional _ => cases flat
        | _ => rfl
      have read := decode_optional inner (encode_ne_null flat value)
      rw [decode_encode inner innerFlat value] at read
      exact read

end Shape

end RoundTrip

section Likeness

/-- Reading a dictionary, only the members with a key decide what is found under the key. -/
theorem get?_entriesOf {members : List (Option String × Node)} {read dictionary : Dictionary}
    (accepted : entriesOf true read members = .ok dictionary) (key : String) {other : Dictionary}
    (same : other.get? key = read.get? key) :
    ∃ result, entriesOf true other (members.filter fun member => member.1 = some key) =
      .ok result ∧ result.get? key = dictionary.get? key := by
  induction members generalizing read other with
  | nil =>
      cases accepted
      exact ⟨other, rfl, same⟩
  | cons member rest ih =>
      obtain ⟨name, node⟩ := member
      cases name with
      | none => cases accepted
      | some name =>
          cases text : node.text with
          | error fault =>
              rw [entriesOf, text] at accepted
              cases accepted
          | ok value =>
              have others : entriesOf true (read.insert name value) rest = .ok dictionary := by
                rw [entriesOf, text] at accepted
                exact accepted
              by_cases mine : name = key
              · have inserted : (other.insert name value).get? key =
                    (read.insert name value).get? key := by
                  rw [Dictionary.get?_insert, Dictionary.get?_insert, same]
                obtain ⟨result, found, sameFound⟩ := ih others inserted
                refine ⟨result, ?_, sameFound⟩
                rw [List.filter_cons_of_pos (by simp [mine]), entriesOf, text]
                exact found
              · have untouched : other.get? key = (read.insert name value).get? key := by
                  rw [Dictionary.get?_insert, if_neg fun equal => mine equal.symm, same]
                rw [List.filter_cons_of_neg (by simp [mine])]
                exact ih others untouched

/-- Members in another order make the same dictionary, if those with one key stay in order. -/
theorem entriesOf_eq {first second : List (Option String × Node)} {one two : Dictionary}
    (same : ∀ key : String, (first.filter fun member => member.1 = some key) =
      second.filter fun member => member.1 = some key)
    (firstAccepted : entriesOf true .empty first = .ok one)
    (secondAccepted : entriesOf true .empty second = .ok two) : one = two := by
  refine Dictionary.eq_of_get? fun key => ?_
  obtain ⟨result, read, found⟩ := get?_entriesOf firstAccepted key rfl
  obtain ⟨otherResult, otherRead, otherFound⟩ := get?_entriesOf secondAccepted key rfl
  rw [same key, otherRead] at read
  cases read
  rw [← found, otherFound]

/-- The nodes differ in no more than the spelling of an identifier, the offset and the fraction
of an instant, or the order of a dictionary. -/
inductive Shape.Alike : Shape → Node → Node → Prop where
  | same (shape : Shape) (node : Node) : Alike shape node node
  | uuid {id : Uuid} {first second : String} (firstSpells : id.Spells first.toList)
      (secondSpells : id.Spells second.toList) :
      Alike .uuid (.string (some first)) (.string (some second))
  | instant {first second : String} (writeSame : Instant.WriteSame first second) :
      Alike .instant (.string (some first)) (.string (some second))
  | dictionary {first second : List (Option String × Node)}
      (same : ∀ key : String, (first.filter fun member => member.1 = some key) =
        second.filter fun member => member.1 = some key) :
      Alike .dictionary (.object first true) (.object second true)
  | optional {inner : Shape} {first second : Node} (alike : Alike inner first second) :
      Alike (.optional inner) first second

theorem Shape.alike_of_uuid {first second : String} {id : Uuid}
    (read : Uuid.read? first = some id) (otherRead : Uuid.read? second = some id) :
    Shape.uuid.Alike (.string (some first)) (.string (some second)) :=
  .uuid (Uuid.read?_eq_some.mp read) (Uuid.read?_eq_some.mp otherRead)

theorem Shape.alike_of_instant {first second : String} {instant : Instant}
    (read : Instant.read? first = some instant) (otherRead : Instant.read? second = some instant) :
    Shape.instant.Alike (.string (some first)) (.string (some second)) :=
  .instant (Instant.writeSame_of_read? read otherRead)

/-- Members with different keys may come in any order. -/
theorem Shape.alike_of_perm {first second : List (Option String × Node)}
    (perm : first.Perm second) (distinct : (first.map Prod.fst).Nodup) :
    Shape.dictionary.Alike (.object first true) (.object second true) := by
  refine .dictionary fun key => ?_
  induction perm with
  | nil => rfl
  | cons member _ ih =>
      rw [List.filter_cons, List.filter_cons, ih (List.nodup_cons.mp distinct).2]
  | swap member other rest =>
      have apart : other.1 ≠ member.1 := by
        intro same
        exact (List.nodup_cons.mp distinct).1 (List.mem_cons.mpr (.inl same))
      by_cases mine : member.1 = some key
      · have notOther : other.1 ≠ some key := fun same => apart (same.trans mine.symm)
        simp [mine, notOther]
      · simp [List.filter_cons, mine]
  | trans one _ ih otherIh =>
      exact (ih distinct).trans (otherIh ((one.map Prod.fst).nodup_iff.mp distinct))

theorem Shape.Alike.null_iff {shape : Shape} {first second : Node}
    (alike : shape.Alike first second) : first = .null ↔ second = .null := by
  induction alike with
  | same => rfl
  | uuid => simp
  | instant => simp
  | dictionary => simp
  | optional _ ih => exact ih

theorem Shape.Alike.eq {shape : Shape} {first second : Node} {one two : shape.Carrier}
    (alike : shape.Alike first second) (firstRead : shape.decode first = .ok one)
    (secondRead : shape.decode second = .ok two) : one = two := by
  induction alike with
  | same shape node =>
      rw [firstRead] at secondRead
      cases secondRead
      rfl
  | uuid firstSpells secondSpells =>
      have firstId := Node.textAs_eq_ok.mp firstRead
      have secondId := Node.textAs_eq_ok.mp secondRead
      rw [Uuid.read?_of_spells firstSpells] at firstId
      rw [Uuid.read?_of_spells secondSpells] at secondId
      cases firstId
      cases secondId
      rfl
  | instant writeSame =>
      exact writeSame.eq (Node.textAs_eq_ok.mp firstRead) (Node.textAs_eq_ok.mp secondRead)
  | dictionary same => exact entriesOf_eq same firstRead secondRead
  | @optional inner first second alike ih =>
      by_cases absent : first = .null
      · obtain rfl := alike.null_iff.mp absent
        subst absent
        cases firstRead
        cases secondRead
        rfl
      · rw [Shape.decode_optional inner absent] at firstRead
        rw [Shape.decode_optional inner fun null => absent (alike.null_iff.mpr null)] at secondRead
        obtain ⟨value, valueRead, rfl⟩ := exists_of_map_eq_ok firstRead
        obtain ⟨other, otherRead, rfl⟩ := exists_of_map_eq_ok secondRead
        exact congrArg some (ih valueRead otherRead)

end Likeness

end Json

end ServiceGroups
