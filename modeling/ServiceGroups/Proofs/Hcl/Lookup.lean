import ServiceGroups.Proofs.Hcl.Reading

/-!
# Finding things in a job text

Once a job text is read as code and strings, its label is the string after the code
of a job block, and the values of a list are the strings up to the closing bracket.
Code that stands inside a string is never found, and where a search ends does not
depend on what is behind.
-/

namespace ServiceGroups

namespace Hcl

/-- The character of a piece, unless it starts an interpolation. -/
def Piece.char? : Piece → Option Char
  | .char value => some value
  | .interpolation _ => none

/-- The text of a string without interpolations. -/
def plainText? (pieces : List Piece) : Option String :=
  (pieces.mapM Piece.char?).map String.ofList

/-- The string of an item. -/
def Item.string? : Item → Option (List Piece)
  | .code _ => none
  | .string pieces => some pieces

/-- What follows characters of code, if the items start with them. -/
def stripCode : List Char → List Item → Option (List Item)
  | [], items => some items
  | char :: pattern, .code code :: items =>
    if char = code then stripCode pattern items else none
  | _, _ => none

/-- What follows the first place where the items have characters of code. -/
def afterCode (pattern : List Char) : List Item → Option (List Item)
  | [] => none
  | item :: rest => (stripCode pattern (item :: rest)).or (afterCode pattern rest)

/-- The label of the job that a text describes. -/
def label? (text : String) : Option String := do
  let items ← readText text.toList
  match ← afterCode "job ".toList items with
  | .string pieces :: _ => plainText? pieces
  | _ => none

/-- The strings of a list up to its closing bracket. -/
def listStrings (items : List Item) : List (List Piece) :=
  (items.takeWhile (· ≠ .code ']')).filterMap Item.string?

/-- The arguments of the program that a text describes. -/
def arguments? (text : String) : Option (List String) := do
  let items ← readText text.toList
  let list ← afterCode "args = [".toList items
  (listStrings list).mapM plainText?

@[simp]
theorem plainText?_chars (chars : List Char) :
    plainText? (chars.map .char) = some (String.ofList chars) := by
  have read : (chars.map Piece.char).mapM Piece.char? = some chars := by
    induction chars with
    | nil => rfl
    | cons char rest ih => simp [ih, Piece.char?]
  rw [plainText?, read]
  rfl

theorem plainText?_toList (text : String) :
    plainText? (text.toList.map .char) = some text := by
  simp

theorem filterMap_string?_code (codes : List Char) :
    (codes.map Item.code).filterMap Item.string? = [] := by
  simp [List.filterMap_map, Item.string?, Function.comp_def]

/-- The strings of a list stand in front of code with the closing bracket. -/
theorem listStrings_append {items : List Item} (unclosed : .code ']' ∉ items)
    (codes : List Char) :
    listStrings (items ++ codes.map .code) = items.filterMap Item.string? := by
  have inside : ∀ item ∈ items, decide (item ≠ .code ']') = true := by
    intro item member
    exact decide_eq_true fun same => unclosed (same ▸ member)
  rw [listStrings, List.takeWhile_append_of_pos inside, List.takeWhile_map,
    List.filterMap_append, filterMap_string?_code, List.append_nil]

section Search

variable {pattern : List Char} {items left : List Item}

theorem stripCode_append (found : stripCode pattern items = some left) (rest : List Item) :
    stripCode pattern (items ++ rest) = some (left ++ rest) := by
  fun_induction stripCode pattern items with
  | case1 items => rw [stripCode, Option.some.inj found]
  | case2 code pattern items ih => rw [List.cons_append, stripCode, if_pos rfl, ih found]
  | case3 => cases found
  | case4 => cases found

theorem length_le_of_stripCode (found : stripCode pattern items = some left) :
    pattern.length ≤ items.length := by
  fun_induction stripCode pattern items with
  | case1 => exact Nat.zero_le _
  | case2 code pattern items ih => exact Nat.succ_le_succ (ih found)
  | case3 => cases found
  | case4 => cases found

theorem length_le_of_afterCode (found : afterCode pattern items = some left) :
    pattern.length ≤ items.length := by
  induction items with
  | nil => cases found
  | cons item more ih =>
      rw [afterCode, Option.or_eq_some_iff] at found
      rcases found with here | ⟨-, later⟩
      · exact length_le_of_stripCode here
      · exact Nat.le_succ_of_le (ih later)

/-- What items with room for the pattern do not start with, they do not start with in
front of others. -/
theorem stripCode_append_eq_none (absent : stripCode pattern items = none)
    (room : pattern.length ≤ items.length) (rest : List Item) :
    stripCode pattern (items ++ rest) = none := by
  induction pattern generalizing items with
  | nil => cases absent
  | cons char pattern ih =>
      cases items with
      | nil => cases room
      | cons item more =>
          cases item with
          | string pieces => rfl
          | code code =>
              rw [stripCode] at absent
              rw [List.cons_append, stripCode]
              split at absent
              · next same => rw [if_pos same, ih absent (Nat.le_of_succ_le_succ room)]
              · next other => rw [if_neg other]

/-- A search that ends among the items in front does not depend on those behind. -/
theorem afterCode_append (found : afterCode pattern items = some left) (rest : List Item) :
    afterCode pattern (items ++ rest) = some (left ++ rest) := by
  induction items with
  | nil => cases found
  | cons item more ih =>
      rw [afterCode, Option.or_eq_some_iff] at found
      rw [List.cons_append, afterCode]
      rcases found with here | ⟨absent, later⟩
      · rw [← List.cons_append, stripCode_append here, Option.some_or]
      · -- The place that is found leaves room for the pattern in front of it too.
        have room := Nat.le_succ_of_le (length_le_of_afterCode later)
        rw [← List.cons_append, stripCode_append_eq_none absent room, Option.none_or, ih later]

end Search

theorem documentText_cons (fragment : Fragment) (fragments : List Fragment) :
    (documentText (fragment :: fragments)).toList =
      fragment.text.toList ++ (documentText fragments).toList := by
  simp [documentText, String.toList_join]

theorem documentText_append (first second : List Fragment) :
    (documentText (first ++ second)).toList =
      (documentText first).toList ++ (documentText second).toList := by
  simp [documentText, String.toList_join]

end Hcl

end ServiceGroups
