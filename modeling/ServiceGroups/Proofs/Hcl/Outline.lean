import ServiceGroups.Proofs.Hcl.Lookup

/-!
# The outline of a document

A document is read as the code and the strings of its fragments, one after another.
With every string emptied it is read as before, but for what was in the strings; that
is its outline, and a search for code goes by the outline alone.  Only a literal that is
not made of values and plain text could start an interpolation.
-/

namespace ServiceGroups

namespace Hcl

/-- An item without what its string holds. -/
def Item.emptied : Item → Item
  | .code char => .code char
  | .string _ => .string []

/-- Does an interpolation start inside the item? -/
def Item.interpolates : Item → Bool
  | .code _ => false
  | .string pieces => pieces.any fun piece => piece.char?.isNone

/-- The string behind the first place where a name is given a value. -/
def string? (name text : String) : Option String := do
  let items ← readText text.toList
  match ← afterCode (name ++ " = ").toList items with
  | .string pieces :: _ => plainText? pieces
  | _ => none

/-- The strings of the list behind the first place where a name is given one. -/
def list? (name text : String) : Option (List String) := do
  let items ← readText text.toList
  let list ← afterCode (name ++ " = [").toList items
  (listStrings list).mapM plainText?

/-- Code has no quote in it, and a literal is legible. -/
def Fragment.Legible : Fragment → Prop
  | .code text => text.toList.all (· ≠ '"') = true
  | .literal segments => Hcl.Legible segments

/-- What a legible fragment is read as. -/
def Fragment.items : Fragment → List Item
  | .code text => text.toList.map .code
  | .literal segments => [.string ((segments.flatMap Segment.content).map .char)]

/-- A fragment without what its literal holds. -/
def Fragment.emptied : Fragment → Fragment
  | .code text => .code text
  | .literal _ => .literal []

/-- The text that a literal stands for; code stands for none. -/
def Fragment.literal? : Fragment → Option String
  | .code _ => none
  | .literal segments => some (String.ofList (segments.flatMap Segment.content))

/-- The texts that the literals of a document stand for, in order. -/
def literalTexts (fragments : List Fragment) : List String :=
  fragments.filterMap Fragment.literal?

theorem Fragment.literal?_word (text : String) : (Fragment.word text).literal? = some text := by
  simp [Fragment.word, Fragment.literal?, Segment.content]

theorem Fragment.literal?_value (value : String) :
    (Fragment.value value).literal? = some value := by
  simp [Fragment.value, Fragment.literal?, Segment.content]

theorem Fragment.Legible.code (text : String) (code : text.toList.all (· ≠ '"') = true) :
    (Fragment.code text).Legible :=
  code

theorem Fragment.Legible.word (text : String) (plain : text.toList.all isPlain = true) :
    (Fragment.word text).Legible :=
  ⟨plain, trivial⟩

theorem Fragment.Legible.value (value : String) : (Fragment.value value).Legible := by
  have apart : StaysApart (inside []) := by simp [inside, StaysApart]
  exact ⟨apart, trivial⟩

theorem Fragment.Legible.readAs {fragment : Fragment} (legible : fragment.Legible) :
    fragment.ReadAs fragment.items := by
  cases fragment with
  | code text => exact Fragment.readAs_code text legible
  | literal segments => exact Fragment.readAs_of_legible segments legible

/-- In front of any text, the fragments are read as the items. -/
def ReadAs (fragments : List Fragment) (items : List Item) : Prop :=
  ∀ rest, readText ((documentText fragments).toList ++ rest) =
    (readText rest).map (items ++ ·)

namespace ReadAs

variable {fragments : List Fragment} {items : List Item}

theorem nil : ReadAs [] [] :=
  fun rest => by simp [documentText]

theorem cons {fragment : Fragment} {first : List Item} (others : ReadAs fragments items)
    (one : fragment.ReadAs first) : ReadAs (fragment :: fragments) (first ++ items) := by
  intro rest
  rw [documentText_cons, List.append_assoc, one, others, Option.map_map]
  congr 1
  funext more
  exact (List.append_assoc first items more).symm

theorem append {second : List Fragment} {more : List Item} (front : ReadAs fragments items)
    (back : ReadAs second more) : ReadAs (fragments ++ second) (items ++ more) := by
  intro rest
  rw [documentText_append, List.append_assoc, front, back, Option.map_map]
  congr 1
  funext after
  exact (List.append_assoc items more after).symm

theorem of_legible (legible : ∀ fragment ∈ fragments, fragment.Legible) :
    ReadAs fragments (fragments.flatMap Fragment.items) := by
  induction fragments with
  | nil => exact nil
  | cons fragment rest ih =>
      obtain ⟨one, others⟩ := List.forall_mem_cons.mp legible
      exact (ih others).cons one.readAs

theorem readText (read : ReadAs fragments items) :
    Hcl.readText (documentText fragments).toList = some items := by
  have whole := read []
  rw [List.append_nil] at whole
  simpa [Hcl.readText] using whole

end ReadAs

theorem Fragment.Legible.emptied {fragment : Fragment} (legible : fragment.Legible) :
    fragment.emptied.Legible := by
  cases fragment with
  | code text => exact legible
  | literal segments => trivial

theorem Fragment.items_value (value : String) :
    (Fragment.value value).items = [.string (value.toList.map .char)] := by
  simp [Fragment.value, Fragment.items, Segment.content]

theorem Fragment.items_emptied (fragment : Fragment) :
    fragment.emptied.items = fragment.items.map Item.emptied := by
  cases fragment with
  | code text => simp [Fragment.emptied, Fragment.items, Item.emptied]
  | literal segments => rfl

/-- Emptied fragments are read as emptied items. -/
theorem flatMap_items_emptied (fragments : List Fragment) :
    (fragments.map Fragment.emptied).flatMap Fragment.items =
      (fragments.flatMap Fragment.items).map Item.emptied := by
  simp only [List.flatMap_map, List.map_flatMap, Fragment.items_emptied]

/-- The code is the same in the outline. -/
theorem code_mem_emptied {char : Char} {items : List Item} :
    .code char ∈ items.map Item.emptied ↔ .code char ∈ items := by
  rw [List.mem_map]
  constructor
  · rintro ⟨item, member, same⟩
    cases item with
    | code code => exact same ▸ member
    | string pieces => cases same
  · exact fun member => ⟨.code char, member, rfl⟩

/-- No interpolation starts in what legible fragments are read as. -/
theorem filter_interpolates_items (fragments : List Fragment) :
    (fragments.flatMap Fragment.items).filter Item.interpolates = [] := by
  rw [List.filter_eq_nil_iff]
  intro item member
  obtain ⟨fragment, -, inside⟩ := List.mem_flatMap.mp member
  cases fragment with
  | code text =>
      obtain ⟨char, -, rfl⟩ := List.mem_map.mp inside
      exact Bool.false_ne_true
  | literal segments =>
      rw [List.mem_singleton.mp inside]
      simp [Item.interpolates, Piece.char?]

/-- The strings that fragments are read as are the texts of their literals. -/
theorem mapM_plainText?_items (fragments : List Fragment) :
    ((fragments.flatMap Fragment.items).filterMap Item.string?).mapM plainText? =
      some (literalTexts fragments) := by
  induction fragments with
  | nil => rfl
  | cons fragment rest ih =>
      rw [List.flatMap_cons, List.filterMap_append, List.mapM_append, ih]
      cases fragment with
      | code text =>
          rw [Fragment.items, filterMap_string?_code]
          rfl
      | literal segments => simp [Fragment.items, Item.string?, literalTexts, Fragment.literal?]

section Search

theorem stripCode_emptied (pattern : List Char) (items : List Item) :
    stripCode pattern (items.map Item.emptied) =
      (stripCode pattern items).map (List.map Item.emptied) := by
  induction pattern generalizing items with
  | nil => rfl
  | cons char pattern ih =>
      cases items with
      | nil => rfl
      | cons item rest =>
          cases item with
          | string pieces => rfl
          | code code =>
              rw [List.map_cons, Item.emptied, stripCode, stripCode]
              split
              · exact ih rest
              · rfl

/-- What a search finds depends on the outline only. -/
theorem afterCode_emptied (pattern : List Char) (items : List Item) :
    afterCode pattern (items.map Item.emptied) =
      (afterCode pattern items).map (List.map Item.emptied) := by
  induction items with
  | nil => rfl
  | cons item rest ih =>
      have here := stripCode_emptied pattern (item :: rest)
      rw [List.map_cons] at here ⊢
      rw [afterCode, afterCode, here, ih, Option.map_or]

/-- Code alone has nothing to be emptied. -/
theorem eq_code_of_emptied {items : List Item} {codes : List Char}
    (same : items.map Item.emptied = codes.map .code) : items = codes.map .code := by
  induction items generalizing codes with
  | nil => rw [← same, List.map_nil]
  | cons item rest ih =>
      cases codes with
      | nil => cases same
      | cons code codes =>
          obtain ⟨first, others⟩ := List.cons.inj same
          cases item with
          | code char => rw [List.map_cons, ih others, ← first, Item.emptied]
          | string pieces => cases first

variable {name text : String} {pattern left : List Char} {front rest : List Item}

/-- A search that ends in the outline of the items in front ends there, whatever their
strings hold. -/
theorem afterCode_of_outline
    (found : afterCode pattern (front.map Item.emptied) = some (left.map .code)) (rest : List Item) :
    afterCode pattern (front ++ rest) = some (left.map .code ++ rest) := by
  rw [afterCode_emptied, Option.map_eq_some_iff] at found
  obtain ⟨items, ends, same⟩ := found
  rw [afterCode_append ends, eq_code_of_emptied same]

theorem label?_of_outline {value : List Char}
    (read : readText text.toList = some (front ++ .string (value.map .char) :: rest))
    (found : afterCode "job ".toList (front.map Item.emptied) = some ([].map .code)) :
    label? text = some (String.ofList value) := by
  rw [label?, read]
  simp only [Option.bind_eq_bind, Option.bind_some, afterCode_of_outline found, List.map_nil,
    List.nil_append, plainText?_chars]

theorem string?_of_outline {value : List Char}
    (read : readText text.toList = some (front ++ .string (value.map .char) :: rest))
    (found : afterCode (name ++ " = ").toList (front.map Item.emptied) = some ([].map .code)) :
    string? name text = some (String.ofList value) := by
  rw [string?, read]
  simp only [Option.bind_eq_bind, Option.bind_some, afterCode_of_outline found, List.map_nil,
    List.nil_append, plainText?_chars]

theorem list?_of_outline (read : readText text.toList = some (front ++ rest))
    (found : afterCode (name ++ " = [").toList (front.map Item.emptied) = some (left.map .code)) :
    list? name text = (listStrings (left.map .code ++ rest)).mapM plainText? := by
  rw [list?, read]
  simp only [Option.bind_eq_bind, Option.bind_some, afterCode_of_outline found]

end Search

end Hcl

end ServiceGroups
