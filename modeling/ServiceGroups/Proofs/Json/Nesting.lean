import ServiceGroups.Json.Node
import ServiceGroups.Proofs.Json.Lexing

/-!
# How nodes are written

A node that is read in full is written by its tokens: a container by its brackets, with its
content between them and commas in between.  The reader puts the tokens together to the node
again.
-/

namespace ServiceGroups

namespace Json

mutual

/-- The tokens of a node. -/
def Node.tokens : Node → List Token
  | .null => [.null]
  | .boolean value => [.boolean value]
  | .number value => [.number value]
  | .string value => [.string value]
  | .array items _ => .openArray :: (itemTokens items ++ [.closeArray])
  | .object members _ => .openObject :: (memberTokens members ++ [.closeObject])
  | .broken => [.broken]

def itemTokens : List Node → List Token
  | [] => []
  | [item] => item.tokens
  | item :: rest => item.tokens ++ .comma :: itemTokens rest

def memberTokens : List (Option String × Node) → List Token
  | [] => []
  | [(key, node)] => .string key :: .colon :: node.tokens
  | (key, node) :: rest => .string key :: .colon :: (node.tokens ++ .comma :: memberTokens rest)

end

mutual

/-- Every container in the node is closed. -/
def Node.IsWhole : Node → Prop
  | .array items closed => closed = true ∧ AreWholeItems items
  | .object members closed => closed = true ∧ AreWholeMembers members
  | .broken => False
  | _ => True

def AreWholeItems : List Node → Prop
  | [] => True
  | item :: rest => item.IsWhole ∧ AreWholeItems rest

def AreWholeMembers : List (Option String × Node) → Prop
  | [] => True
  | (_, node) :: rest => node.IsWhole ∧ AreWholeMembers rest

end

theorem itemTokens_cons (item next : Node) (rest : List Node) :
    itemTokens (item :: next :: rest) = item.tokens ++ .comma :: itemTokens (next :: rest) :=
  rfl

theorem memberTokens_cons (key : Option String) (node : Node) (next : Option String × Node)
    (rest : List (Option String × Node)) :
    memberTokens ((key, node) :: next :: rest) =
      .string key :: .colon :: (node.tokens ++ .comma :: memberTokens (next :: rest)) :=
  rfl

theorem Node.exists_tokens_eq (node : Node) :
    ∃ first rest, node.tokens = first :: rest ∧ first ≠ .closeArray := by
  cases node <;> exact ⟨_, _, rfl, Token.noConfusion⟩

theorem exists_itemTokens_eq (item : Node) (rest : List Node) :
    ∃ first more, itemTokens (item :: rest) = first :: more ∧ first ≠ .closeArray := by
  obtain ⟨first, more, same, opens⟩ := item.exists_tokens_eq
  cases rest with
  | nil => exact ⟨first, more, same, opens⟩
  | cons next rest => exact ⟨first, _, by rw [itemTokens_cons, same, List.cons_append], opens⟩

namespace Reader

variable (frames : List Frame)

/-- The first item of an array is read like any other. -/
theorem read_firstItem (item : Node) (rest : List Node) :
    (itemTokens (item :: rest)).foldl step ⟨frames, .firstItem⟩ =
      (itemTokens (item :: rest)).foldl step ⟨frames, .value⟩ := by
  obtain ⟨first, more, same, opens⟩ := exists_itemTokens_eq item rest
  have begun : step ⟨frames, .firstItem⟩ first = step ⟨frames, .value⟩ first := by
    cases first with
    | closeArray => exact absurd rfl opens
    | _ => rfl
  rw [same, List.foldl_cons, List.foldl_cons, begun]

theorem read_firstKey (member : Option String × Node) (rest : List (Option String × Node)) :
    (memberTokens (member :: rest)).foldl step ⟨frames, .firstKey⟩ =
      (memberTokens (member :: rest)).foldl step ⟨frames, .key⟩ := by
  cases rest <;> rfl

mutual

/-- Where a value is awaited, the tokens of a node supply it. -/
theorem read_node (frames : List Frame) : (node : Node) → node.IsWhole →
    node.tokens.foldl step ⟨frames, .value⟩ = supply node frames
  | .null, _ => rfl
  | .boolean _, _ => rfl
  | .number _, _ => rfl
  | .string _, _ => rfl
  | .array [] true, _ => rfl
  | .array (item :: rest) true, whole => by
      have items := read_items frames [] (item :: rest) whole.2 (List.cons_ne_nil _ _)
      rw [← read_firstItem] at items
      rw [Node.tokens, List.foldl_cons, List.foldl_append]
      change List.foldl step (List.foldl step ⟨.array [] :: frames, .firstItem⟩ _) _ = _
      rw [items]
      simp [step, separator]
  | .object [] true, _ => rfl
  | .object (member :: rest) true, whole => by
      have members := read_members frames [] (member :: rest) whole.2 (List.cons_ne_nil _ _)
      rw [← read_firstKey] at members
      rw [Node.tokens, List.foldl_cons, List.foldl_append]
      change List.foldl step (List.foldl step ⟨.object [] :: frames, .firstKey⟩ _) _ = _
      rw [members]
      simp [step, separator]

theorem read_items (frames : List Frame) (before : List Node) : (items : List Node) →
    AreWholeItems items → items ≠ [] →
    (itemTokens items).foldl step ⟨.array before :: frames, .value⟩ =
      ⟨.array (items.reverse ++ before) :: frames, .separator⟩
  | [item], whole, _ => by
      rw [itemTokens, read_node _ item whole.1]
      rfl
  | item :: next :: rest, whole, _ => by
      have others := read_items frames (item :: before) (next :: rest) whole.2
        (List.cons_ne_nil _ _)
      rw [itemTokens_cons, List.foldl_append, read_node _ item whole.1, List.foldl_cons]
      change List.foldl step ⟨.array (item :: before) :: frames, .value⟩ _ = _
      rw [others]
      simp

theorem read_members (frames : List Frame) (before : List (Option String × Node)) :
    (members : List (Option String × Node)) → AreWholeMembers members → members ≠ [] →
    (memberTokens members).foldl step ⟨.object before :: frames, .key⟩ =
      ⟨.object (members.reverse ++ before) :: frames, .separator⟩
  | [(key, node)], whole, _ => by
      have value := read_node (.member before key :: frames) node whole.1
      exact value
  | (key, node) :: next :: rest, whole, _ => by
      have value := read_node (.member before key :: frames) node whole.1
      have others := read_members frames ((key, node) :: before) (next :: rest) whole.2
        (List.cons_ne_nil _ _)
      rw [memberTokens_cons, List.foldl_cons, List.foldl_cons, List.foldl_append]
      change List.foldl step (List.foldl step ⟨.member before key :: frames, .value⟩ _) _ = _
      rw [value, List.foldl_cons]
      change List.foldl step ⟨.object ((key, node) :: before) :: frames, .key⟩ _ = _
      rw [others]
      simp

end

end Reader

/-- The text is a written form of the node: its tokens, with blanks between them. -/
structure Written (node : Node) (text : String) : Prop where
  lexes : Lexes node.tokens text.toList
  whole : node.IsWhole

/-- A node is read from each of its written forms. -/
theorem Written.readNode_eq {node : Node} {text : String} (written : Written node text) :
    readNode text = (node, false) := by
  rw [readNode, tokens_eq written.lexes]
  exact congrArg Reader.finish (Reader.read_node [] node written.whole)

end Json

end ServiceGroups
