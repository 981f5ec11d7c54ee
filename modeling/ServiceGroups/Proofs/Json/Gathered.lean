import ServiceGroups.Proofs.Json.Nesting
import ServiceGroups.Proofs.Json.Scanned

/-!
# Which texts are nodes

The reader loses nothing: the open containers and the values in them account for every token
that has been read.  So a node that was read in full is written by exactly the tokens of the
text.
-/

namespace ServiceGroups

namespace Json

/-- Items with a comma behind each. -/
def itemsBefore (items : List Node) : List Token :=
  items.flatMap fun item => item.tokens ++ [.comma]

def membersBefore (members : List (Option String × Node)) : List Token :=
  members.flatMap fun member => .string member.1 :: .colon :: (member.2.tokens ++ [.comma])

theorem itemTokens_append (items : List Node) (last : Node) :
    itemTokens (items ++ [last]) = itemsBefore items ++ last.tokens := by
  induction items with
  | nil => rfl
  | cons item rest ih =>
      cases rest with
      | nil => simp [itemTokens, itemsBefore]
      | cons next rest =>
          rw [List.cons_append] at ih
          rw [List.cons_append, List.cons_append, itemTokens_cons, ih]
          simp [itemsBefore]

theorem memberTokens_append (members : List (Option String × Node)) (key : Option String)
    (last : Node) :
    memberTokens (members ++ [(key, last)]) =
      membersBefore members ++ .string key :: .colon :: last.tokens := by
  induction members with
  | nil => rfl
  | cons member rest ih =>
      obtain ⟨name, node⟩ := member
      cases rest with
      | nil => simp [memberTokens, membersBefore]
      | cons next rest =>
          rw [List.cons_append] at ih
          rw [List.cons_append, List.cons_append, memberTokens_cons, ih]
          simp [membersBefore]

theorem areWholeItems_iff {items : List Node} :
    AreWholeItems items ↔ ∀ item ∈ items, item.IsWhole := by
  induction items with
  | nil => simp [AreWholeItems]
  | cons item rest ih => simp [AreWholeItems, ih]

theorem areWholeMembers_iff {members : List (Option String × Node)} :
    AreWholeMembers members ↔ ∀ member ∈ members, member.2.IsWhole := by
  induction members with
  | nil => simp [AreWholeMembers]
  | cons member rest ih =>
      obtain ⟨key, node⟩ := member
      simp [AreWholeMembers, ih]

namespace Reader

/-- The containers around a place where a value may stand, and the tokens that opened them. -/
inductive Opened : List Frame → List Token → Prop where
  | nothing : Opened [] []
  | array {items : List Node} {frames : List Frame} {tokens : List Token}
      (whole : ∀ item ∈ items, item.IsWhole) (outer : Opened frames tokens) :
      Opened (.array items :: frames) (tokens ++ .openArray :: itemsBefore items.reverse)
  | member {members : List (Option String × Node)} {key : Option String} {frames : List Frame}
      {tokens : List Token} (whole : ∀ member ∈ members, member.2.IsWhole)
      (outer : Opened frames tokens) :
      Opened (.member members key :: frames)
        (tokens ++ .openObject :: (membersBefore members.reverse ++ [.string key, .colon]))

/-- The reader accounts for the tokens that it has read. -/
inductive Gathered : Reader → List Token → Prop where
  | value {frames : List Frame} {tokens : List Token} (opened : Opened frames tokens) :
      Gathered ⟨frames, .value⟩ tokens
  | firstItem {frames : List Frame} {tokens : List Token} (opened : Opened frames tokens) :
      Gathered ⟨.array [] :: frames, .firstItem⟩ (tokens ++ [.openArray])
  | firstKey {frames : List Frame} {tokens : List Token} (opened : Opened frames tokens) :
      Gathered ⟨.object [] :: frames, .firstKey⟩ (tokens ++ [.openObject])
  | key {members : List (Option String × Node)} {frames : List Frame} {tokens : List Token}
      (whole : ∀ member ∈ members, member.2.IsWhole) (opened : Opened frames tokens) :
      Gathered ⟨.object members :: frames, .key⟩
        (tokens ++ .openObject :: membersBefore members.reverse)
  | colon {members : List (Option String × Node)} {key : Option String} {frames : List Frame}
      {tokens : List Token} (whole : ∀ member ∈ members, member.2.IsWhole)
      (opened : Opened frames tokens) :
      Gathered ⟨.member members key :: frames, .colon⟩
        (tokens ++ .openObject :: (membersBefore members.reverse ++ [.string key]))
  | item {item : Node} {items : List Node} {frames : List Frame} {tokens : List Token}
      (whole : ∀ other ∈ item :: items, other.IsWhole) (opened : Opened frames tokens) :
      Gathered ⟨.array (item :: items) :: frames, .separator⟩
        (tokens ++ .openArray :: itemTokens (item :: items).reverse)
  | member {member : Option String × Node} {members : List (Option String × Node)}
      {frames : List Frame} {tokens : List Token}
      (whole : ∀ other ∈ member :: members, other.2.IsWhole) (opened : Opened frames tokens) :
      Gathered ⟨.object (member :: members) :: frames, .separator⟩
        (tokens ++ .openObject :: memberTokens (member :: members).reverse)
  | finished {root : Node} (whole : root.IsWhole) :
      Gathered ⟨[], .finished root false⟩ root.tokens
  | lost {frames : List Frame} {root : Node} {trailing : Bool} {tokens : List Token}
      (damaged : root.isIntact = false ∨ trailing = true) :
      Gathered ⟨frames, .finished root trailing⟩ tokens

section Steps

variable {frames : List Frame} {tokens : List Token}

theorem gathered_supply {node : Node} (whole : node.IsWhole) (opened : Opened frames tokens) :
    Gathered (supply node frames) (tokens ++ node.tokens) := by
  cases opened with
  | nothing => exact .finished whole
  | @array items frames tokens others outer =>
      have all : ∀ other ∈ node :: items, other.IsWhole := List.forall_mem_cons.mpr ⟨whole, others⟩
      have gathered := Gathered.item all outer
      rw [List.reverse_cons, itemTokens_append] at gathered
      simpa [supply] using gathered
  | @member members key frames tokens others outer =>
      have all : ∀ other ∈ (key, node) :: members, other.2.IsWhole :=
        List.forall_mem_cons.mpr ⟨whole, others⟩
      have gathered := Gathered.member all outer
      rw [List.reverse_cons, memberTokens_append] at gathered
      simpa [supply] using gathered

theorem isIntact_collapse (frames : List Frame) : (collapse frames).isIntact = false := by
  have damaged (inner : Option Node) (frame : Frame) :
      (Frame.unclosed inner frame).isIntact = false := by
    cases frame <;> rfl
  have folded (inner : Node) (frames : List Frame) (before : inner.isIntact = false) :
      ((frames.foldl (fun inner frame => some (Frame.unclosed inner frame))
        (some inner)).getD .broken).isIntact = false := by
    induction frames generalizing inner with
    | nil => exact before
    | cons frame rest ih => exact ih _ (damaged _ frame)
  cases frames with
  | nil => rfl
  | cons frame rest => exact folded _ rest (damaged none frame)

theorem gathered_abandon (reader : Reader) (tokens : List Token) :
    Gathered reader.abandon tokens :=
  .lost (.inl (isIntact_collapse reader.frames))

theorem gathered_value {awaited : Awaited} {token : Token} (opened : Opened frames tokens) :
    Gathered (value ⟨frames, awaited⟩ token) (tokens ++ [token]) := by
  cases token with
  | null => exact gathered_supply trivial opened
  | boolean held => exact gathered_supply trivial opened
  | number held => exact gathered_supply trivial opened
  | string held => exact gathered_supply trivial opened
  | openArray => exact .firstItem opened
  | openObject => exact .firstKey opened
  | _ => exact gathered_abandon _ _

theorem gathered_key {awaited : Awaited} {token : Token} {members : List (Option String × Node)}
    (whole : ∀ member ∈ members, member.2.IsWhole) (opened : Opened frames tokens) :
    Gathered (key ⟨.object members :: frames, awaited⟩ token)
      (tokens ++ .openObject :: membersBefore members.reverse ++ [token]) := by
  cases token with
  | string name =>
      have gathered : Gathered (key ⟨.object members :: frames, awaited⟩ (.string name)) _ :=
        .colon whole opened
      simpa using gathered
  | _ => exact gathered_abandon _ _

theorem gathered_separator {awaited : Awaited} {token : Token} {item : Node} {items : List Node}
    (whole : ∀ other ∈ item :: items, other.IsWhole) (opened : Opened frames tokens) :
    Gathered (separator ⟨.array (item :: items) :: frames, awaited⟩ token)
      (tokens ++ .openArray :: itemTokens (item :: items).reverse ++ [token]) := by
  cases token with
  | comma =>
      have gathered : Gathered (separator ⟨.array (item :: items) :: frames, awaited⟩ .comma) _ :=
        .value (.array whole opened)
      rw [List.reverse_cons, itemTokens_append]
      simpa [itemsBefore] using gathered
  | closeArray =>
      have closed : (Node.array (item :: items).reverse true).IsWhole :=
        ⟨rfl, areWholeItems_iff.mpr fun other member => whole other (List.mem_reverse.mp member)⟩
      have gathered := gathered_supply closed opened
      simpa [separator, Node.tokens] using gathered
  | _ => exact gathered_abandon _ _

theorem gathered_memberSeparator {awaited : Awaited} {token : Token}
    {member : Option String × Node} {members : List (Option String × Node)}
    (whole : ∀ other ∈ member :: members, other.2.IsWhole) (opened : Opened frames tokens) :
    Gathered (separator ⟨.object (member :: members) :: frames, awaited⟩ token)
      (tokens ++ .openObject :: memberTokens (member :: members).reverse ++ [token]) := by
  cases token with
  | comma =>
      have gathered :
          Gathered (separator ⟨.object (member :: members) :: frames, awaited⟩ .comma) _ :=
        .key whole opened
      rw [List.reverse_cons, memberTokens_append]
      simpa [membersBefore] using gathered
  | closeObject =>
      have closed : (Node.object (member :: members).reverse true).IsWhole :=
        ⟨rfl, areWholeMembers_iff.mpr fun other inside => whole other (List.mem_reverse.mp inside)⟩
      have gathered := gathered_supply closed opened
      simpa [separator, Node.tokens] using gathered
  | _ => exact gathered_abandon _ _

/-- A container may be closed before anything stands in it. -/
theorem gathered_firstItem {token : Token} (opened : Opened frames tokens) :
    Gathered (step ⟨.array [] :: frames, .firstItem⟩ token)
      (tokens ++ [.openArray] ++ [token]) := by
  by_cases closes : token = .closeArray
  · subst closes
    have closed : (Node.array [] true).IsWhole := ⟨rfl, trivial⟩
    have gathered := gathered_supply closed opened
    rw [List.append_assoc]
    exact gathered
  · have begun : Opened (.array [] :: frames) (tokens ++ .openArray :: itemsBefore [].reverse) :=
      .array (by simp) opened
    have gathered : Gathered (value ⟨.array [] :: frames, .firstItem⟩ token) _ :=
      gathered_value begun
    cases token with
    | closeArray => exact absurd rfl closes
    | _ => exact gathered

theorem gathered_firstKey {token : Token} (opened : Opened frames tokens) :
    Gathered (step ⟨.object [] :: frames, .firstKey⟩ token)
      (tokens ++ [.openObject] ++ [token]) := by
  by_cases closes : token = .closeObject
  · subst closes
    have closed : (Node.object [] true).IsWhole := ⟨rfl, trivial⟩
    have gathered := gathered_supply closed opened
    rw [List.append_assoc]
    exact gathered
  · have none : ∀ member ∈ ([] : List (Option String × Node)), member.2.IsWhole := by simp
    have gathered : Gathered (key ⟨.object [] :: frames, .firstKey⟩ token) _ :=
      gathered_key none opened
    cases token with
    | closeObject => exact absurd rfl closes
    | _ => exact gathered

theorem gathered_step {reader : Reader} {token : Token} (gathered : Gathered reader tokens) :
    Gathered (step reader token) (tokens ++ [token]) := by
  cases gathered with
  | value opened => exact gathered_value opened
  | firstItem opened => exact gathered_firstItem opened
  | firstKey opened => exact gathered_firstKey opened
  | key whole opened => exact gathered_key whole opened
  | @colon members key frames tokens whole opened =>
      cases token with
      | colon =>
          have gathered : Gathered (step ⟨.member members key :: frames, .colon⟩ .colon) _ :=
            .value (.member whole opened)
          simpa using gathered
      | _ => exact gathered_abandon _ _
  | item whole opened => exact gathered_separator whole opened
  | member whole opened => exact gathered_memberSeparator whole opened
  | finished whole => exact .lost (.inr rfl)
  | lost damaged => exact .lost (.inr rfl)

theorem gathered_foldl (tokens : List Token) : Gathered (tokens.foldl step start) tokens := by
  induction tokens using List.reverseRecOn with
  | nil => exact .value .nothing
  | append_singleton tokens token ih =>
      rw [List.foldl_append]
      exact gathered_step ih

theorem tokens_of_finish {reader : Reader} {root : Node} (gathered : Gathered reader tokens)
    (done : reader.finish = (root, false)) (intact : root.isIntact = true) :
    root.IsWhole ∧ root.tokens = tokens := by
  cases gathered with
  | finished whole =>
      cases done
      exact ⟨whole, rfl⟩
  | lost damaged =>
      cases done
      rcases damaged with broken | trailing
      · rw [broken] at intact
        cases intact
      · cases trailing
  | _ =>
      cases done
      rw [isIntact_collapse] at intact
      cases intact

end Steps

end Reader

mutual

theorem broken_not_mem_tokens : (node : Node) → node.IsWhole → .broken ∉ node.tokens
  | .null, _ => by simp [Node.tokens]
  | .boolean _, _ => by simp [Node.tokens]
  | .number _, _ => by simp [Node.tokens]
  | .string _, _ => by simp [Node.tokens]
  | .array items _, whole => by
      have inside := broken_not_mem_itemTokens items whole.2
      simp [Node.tokens, inside]
  | .object members _, whole => by
      have inside := broken_not_mem_memberTokens members whole.2
      simp [Node.tokens, inside]

theorem broken_not_mem_itemTokens : (items : List Node) → AreWholeItems items →
    .broken ∉ itemTokens items
  | [], _ => by simp [itemTokens]
  | [item], whole => broken_not_mem_tokens item whole.1
  | item :: next :: rest, whole => by
      have first := broken_not_mem_tokens item whole.1
      have others := broken_not_mem_itemTokens (next :: rest) whole.2
      simp [itemTokens_cons, first, others]

theorem broken_not_mem_memberTokens : (members : List (Option String × Node)) →
    AreWholeMembers members → .broken ∉ memberTokens members
  | [], _ => by simp [memberTokens]
  | [(_, node)], whole => by
      have first := broken_not_mem_tokens node whole.1
      simp [memberTokens, first]
  | (_, node) :: next :: rest, whole => by
      have first := broken_not_mem_tokens node whole.1
      have others := broken_not_mem_memberTokens (next :: rest) whole.2
      simp [memberTokens_cons, first, others]

end

/-- A text is a written form of the node that is read from it, if the node is intact. -/
theorem written_of_readNode {node : Node} {text : String} (read : readNode text = (node, false))
    (intact : node.isIntact = true) : Written node text := by
  obtain ⟨whole, same⟩ := Reader.tokens_of_finish (Reader.gathered_foldl (tokens text)) read intact
  have noBreak := broken_not_mem_tokens node whole
  rw [same] at noBreak
  refine ⟨?_, whole⟩
  rw [same]
  exact lexes_tokens noBreak

end Json

end ServiceGroups
