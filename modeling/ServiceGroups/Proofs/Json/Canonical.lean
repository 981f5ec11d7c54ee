import ServiceGroups.Group
import ServiceGroups.Job.Spec
import ServiceGroups.Proofs.Json.Gathered
import ServiceGroups.Proofs.Json.Records
import ServiceGroups.Session
import ServiceGroups.Template

/-!
# Canonical forms

What is stored and sent is written in one canonical form, and reading this form gives the value
back.  The other texts of a value lead to the same form: blanks, the order of members, objects or
arrays, fallbacks, and the spelling of identifiers and instants make no difference.
-/

namespace ServiceGroups

/-- Digits in lower case with hyphens. -/
inductive Uuid.IsCanonical (id : Uuid) : List Char → Prop where
  | intro {digits : List Char} (lower : ∀ char ∈ digits, char ∈ "0123456789abcdef".toList)
      (spelled : digits.map Char.toLower = id.digits) : IsCanonical id (hyphenated digits)

theorem Uuid.isCanonical_text (id : Uuid) : id.IsCanonical id.text.toList := by
  have lower : ∀ value < 16, Text.hexDigit value ∈ "0123456789abcdef".toList := by decide
  rw [toList_text]
  refine .intro (fun char member => ?_) id.digits_lower
  obtain ⟨digit, small, rfl⟩ := Text.mem_hexFixed member
  exact lower digit small

namespace Json

/-- Identifiers and instants are spelled canonically. -/
def Shape.IsCanonical : (shape : Shape) → shape.Carrier → Node → Prop
  | .uuid, id, node => ∃ text, node = .string (some text) ∧ id.IsCanonical text.toList
  | .instant, moment, node => ∃ text, node = .string (some text) ∧
      moment.IsCanonical text.toList
  | .optional inner, some value, node => inner.IsCanonical value node
  | _, _, _ => True

theorem Shape.isCanonical_encode : (shape : Shape) → (value : shape.Carrier) →
    shape.IsCanonical value (shape.encode value).toNode
  | .uuid, value => ⟨value.text, rfl, value.isCanonical_text⟩
  | .instant, value => ⟨value.text, rfl, value.isCanonical_text⟩
  | .optional inner, some value => isCanonical_encode inner value
  | .optional _, none => trivial
  | .text, _ => trivial
  | .word32, _ => trivial
  | .word64, _ => trivial
  | .flag, _ => trivial
  | .texts, _ => trivial
  | .dictionary, _ => trivial

/-- The members are the fields of the row, each once and in order, with canonical values. -/
def Row.AreCanonical : (fields : List Field) → Row fields → List (Option String × Node) → Prop
  | [], _, members => members = []
  | field :: fields, (value, rest), members =>
    ∃ node others, members = (some field.name, node) :: others ∧
      field.shape.IsCanonical value node ∧ AreCanonical fields rest others

theorem Row.areCanonical_members : (fields : List Field) → (row : Row fields) →
    Row.AreCanonical fields row (memberNodes (row.members fields))
  | [], _ => rfl
  | field :: fields, (value, rest) =>
    ⟨_, _, rfl, Shape.isCanonical_encode field.shape value, areCanonical_members fields rest⟩

theorem Row.keys_members : (fields : List Field) → (row : Row fields) →
    (memberNodes (row.members fields)).map Prod.fst = fields.map fun field => some field.name
  | [], _ => rfl
  | field :: fields, (_, rest) => congrArg (some field.name :: ·) (keys_members fields rest)

theorem Row.arePlain_members : (fields : List Field) → (row : Row fields) →
    ArePlainMembers (row.members fields)
  | [], _ => trivial
  | field :: fields, (value, rest) =>
    ⟨Shape.isPlain_encode field.shape value, arePlain_members fields rest⟩

/-- The text of a node decides what is decoded. -/
theorem Written.decode_eq {α : Type} [Form α] {node : Node} {text : String}
    (written : Written node text) : decode α text = Form.decode node := by
  rw [decode, written.readNode_eq]
  cases read : (Form.decode node : Except Fault α) with
  | error fault => simp [read]; rfl
  | ok value => simp [read]; rfl

/-- Values have a canonical text that is read back.  Every accepted text is a written form of a
node, and accepted texts of nodes that are alike have the same value and so the same canonical
text. -/
structure IsStable (α : Type) [Form α] (Alike : Node → Node → Prop)
    (IsCanonical : α → Node → Prop) : Prop where
  canonical : ∀ value : α, ∃ node, Written node (encode value).text ∧ IsCanonical value node
  roundTrip : ∀ value : α, decode α (encode value).text = .ok value
  written : ∀ {text : String} {value : α}, decode α text = .ok value → ∃ node, Written node text
  agree : ∀ {node other : Node} {first second : String} {one two : α}, Alike node other →
    Written node first → Written other second → decode α first = .ok one →
    decode α second = .ok two → one = two ∧ (encode one).text = (encode two).text

theorem written_of_decode {α : Type} [Form α]
    (intact : ∀ {node : Node} {value : α}, Form.decode node = .ok value → node.isIntact = true)
    {text : String} {value : α} (read : decode α text = .ok value) : ∃ node, Written node text := by
  cases found : readNode text with
  | mk root trailing =>
      rw [decode, found] at read
      obtain ⟨held, decoded, read⟩ := exists_of_bind_eq_ok read
      cases trailing with
      | true => cases read
      | false => exact ⟨root, written_of_readNode found (intact decoded)⟩

theorem isStable_of_form {α : Type} [Form α] {Alike : Node → Node → Prop}
    {IsCanonical : α → Node → Prop} (plain : ∀ value : α, (encode value).IsPlain)
    (canonical : ∀ value : α, IsCanonical value (encode value).toNode)
    (roundTrip : ∀ value : α, Form.decode (encode value).toNode = .ok value)
    (intact : ∀ {node : Node} {value : α}, Form.decode node = .ok value → node.isIntact = true)
    (agree : ∀ {node other : Node} {one two : α}, Alike node other →
      Form.decode node = .ok one → Form.decode other = .ok two → one = two) :
    IsStable α Alike IsCanonical where
  canonical value := ⟨(encode value).toNode, written_text (plain value), canonical value⟩
  roundTrip value := by
    rw [(written_text (plain value)).decode_eq]
    exact roundTrip value
  written read := written_of_decode intact read
  agree alike firstWritten secondWritten firstRead secondRead := by
    rw [firstWritten.decode_eq] at firstRead
    rw [secondWritten.decode_eq] at secondRead
    obtain rfl := agree alike firstRead secondRead
    exact ⟨rfl, rfl⟩

theorem Row.closed_of_ofItems {closed : Bool} : {fields : List Field} → {items : List Node} →
    {row : Row fields} → Row.ofItems closed fields items = .ok row → closed = true
  | [], [], _, accepted => by
      cases closed with
      | true => rfl
      | false => cases accepted
  | field :: fields, [], _, accepted => by
      cases closed with
      | true => rfl
      | false => cases accepted
  | field :: fields, item :: items, _, accepted => by
      rw [Row.ofItems] at accepted
      obtain ⟨value, -, accepted⟩ := exists_of_bind_eq_ok accepted
      obtain ⟨rest, restRead, -⟩ := exists_of_bind_eq_ok accepted
      exact Row.closed_of_ofItems restRead

theorem Row.isIntact_of_ofNode {fields : List Field} {node : Node} {row : Row fields}
    (accepted : Row.ofNode fields node = .ok row) : node.isIntact = true := by
  cases node with
  | object members closed =>
      obtain ⟨slots, -, accepted⟩ := exists_of_bind_eq_ok accepted
      cases closed with
      | true => rfl
      | false => cases accepted
  | array items closed => exact Row.closed_of_ofItems accepted
  | broken => cases accepted
  | _ => rfl

/-- The nodes say alike about every field. -/
def Node.Alike (fields : List Field) (first second : Node) : Prop :=
  ∀ (place : Nat) (field : Field), fields[place]? = some field →
    field.Alike (first.part? place field.name) (second.part? place field.name)

/-- The node is an object with every field once, in canonical spelling. -/
def Record.IsCanonical {α : Type} [Record α] (record : α) (node : Node) : Prop :=
  ∃ members, node = .object members true ∧ (members.map Prod.fst).Nodup ∧
    Row.AreCanonical (Record.fields α) (Record.toRow record) members

theorem isCanonical_encode {α : Type} [Record α] (sound : AreSound (Record.fields α))
    (record : α) : Record.IsCanonical record (encode record).toNode := by
  refine ⟨_, rfl, ?_, Row.areCanonical_members _ (Record.toRow record)⟩
  have apart := List.pairwise_map.mp sound.distinct
  rw [Row.keys_members]
  exact List.pairwise_map.mpr (apart.imp fun differ same => differ (Option.some.inj same))

theorem isStable_record {α : Type} [Record α] (sound : AreSound (Record.fields α)) :
    IsStable α (Node.Alike (Record.fields α)) Record.IsCanonical := by
  refine isStable_of_form ?_ ?_ ?_ ?_ ?_
  · exact fun record => Row.arePlain_members _ (Record.toRow record)
  · exact isCanonical_encode sound
  · intro record
    have read : Row.ofNode _ (encode record).toNode = .ok (Record.toRow record) :=
      Row.ofNode_members sound (Record.toRow record)
    have decoded : Form.decode (encode record).toNode =
        (Row.ofNode (Record.fields α) (encode record).toNode).map Record.ofRow := rfl
    rw [decoded, read]
    exact congrArg Except.ok (Record.ofRow_toRow record)
  · intro node record accepted
    obtain ⟨row, read, -⟩ := exists_of_map_eq_ok accepted
    exact Row.isIntact_of_ofNode read
  · intro node other one two alike firstRead secondRead
    obtain ⟨row, read, rfl⟩ := exists_of_map_eq_ok firstRead
    obtain ⟨otherRow, otherRead, rfl⟩ := exists_of_map_eq_ok secondRead
    exact congrArg Record.ofRow
      ((Row.reads_part? sound read).eq (Row.reads_part? sound otherRead) alike)

theorem isStable_accountId :
    IsStable AccountId Shape.uuid.Alike
      (fun id node => Shape.uuid.IsCanonical id.uuid node) := by
  refine isStable_of_form ?_ ?_ ?_ ?_ ?_
  · exact fun id => Shape.isPlain_encode .uuid id.uuid
  · exact fun id => Shape.isCanonical_encode .uuid id.uuid
  · intro id
    have decoded : (Form.decode (encode id).toNode : Except Fault AccountId) =
        (Shape.uuid.decode (encode id).toNode).map AccountId.mk := rfl
    have read : Shape.uuid.decode (encode id).toNode = .ok id.uuid :=
      Shape.decode_encode .uuid rfl id.uuid
    rw [decoded, read]
    rfl
  · intro node id accepted
    obtain ⟨value, read, -⟩ := exists_of_map_eq_ok accepted
    cases node with
    | string _ => rfl
    | _ => cases read
  · intro node other one two alike firstRead secondRead
    obtain ⟨id, read, rfl⟩ := exists_of_map_eq_ok firstRead
    obtain ⟨otherId, otherRead, rfl⟩ := exists_of_map_eq_ok secondRead
    exact congrArg AccountId.mk (alike.eq read otherRead)

/-- The data of the service and the receipts of the scheduler have canonical forms. -/
theorem forms_are_stable :
    IsStable AccountId Shape.uuid.Alike (fun id node => Shape.uuid.IsCanonical id.uuid node) ∧
      IsStable Account (Node.Alike (Record.fields Account)) Record.IsCanonical ∧
      IsStable Credential (Node.Alike (Record.fields Credential)) Record.IsCanonical ∧
      IsStable Template (Node.Alike (Record.fields Template)) Record.IsCanonical ∧
      IsStable Group (Node.Alike (Record.fields Group)) Record.IsCanonical ∧
      IsStable Session (Node.Alike (Record.fields Session)) Record.IsCanonical ∧
      IsStable Page (Node.Alike (Record.fields Page)) Record.IsCanonical ∧
      IsStable Evaluation (Node.Alike (Record.fields Evaluation)) Record.IsCanonical := by
  have account : AreSound (Record.fields Account) := ⟨by decide, by decide⟩
  have credential : AreSound (Record.fields Credential) := ⟨by decide, by decide⟩
  have template : AreSound (Record.fields Template) := ⟨by decide, by decide⟩
  have group : AreSound (Record.fields Group) := ⟨by decide, by decide⟩
  have session : AreSound (Record.fields Session) := ⟨by decide, by decide⟩
  have page : AreSound (Record.fields Page) := ⟨by decide, by decide⟩
  have evaluation : AreSound (Record.fields Evaluation) := ⟨by decide, by decide⟩
  exact ⟨isStable_accountId, isStable_record account, isStable_record credential,
    isStable_record template, isStable_record group, isStable_record session,
    isStable_record page, isStable_record evaluation⟩

/-- A template with its members out of order, a member that is no field, and fallbacks left
out. -/
def looseTemplate : Value :=
  .object [("created_at", .string "2024-05-01T12:30:00.500000+02:00"), ("remark", .null),
    ("tags", .object [("role", .string "web"), ("env", .string "prod")]),
    ("name", .string "web"), ("package", .string "g4"), ("image_id", .string "base"),
    ("account_id", .string "00000000-0000-0000-0000-0000000000ab"),
    ("template_id", .string "urn:uuid:00000000-0000-0000-0000-0000000000CD")]

/-- The same template with its values in a row and everything spelled out. -/
def strictTemplate : Value :=
  .array [.string "000000000000000000000000000000cd", .string "000000000000000000000000000000AB",
    .string "web", .string "g4", .string "base", .boolean false, .array [], .null,
    .object [("env", .string "prod"), ("role", .string "web")], .object [],
    .string "2024-05-01t10:30:00.5z"]

/-- What both spell. -/
def sampleTemplate : Template :=
  ⟨⟨0xcd⟩, ⟨⟨0xab⟩⟩, "web", "g4", "base", false, [], none,
    .ofList [("env", "prod"), ("role", "web")], .empty,
    ⟨1714559400, 500000000, by decide, by decide⟩⟩

theorem looseTemplate_alike :
    Node.Alike (Record.fields Template) looseTemplate.toNode strictTemplate.toNode := by
  have id : Uuid.read? "urn:uuid:00000000-0000-0000-0000-0000000000CD" = some ⟨0xcd⟩ ∧
      Uuid.read? "000000000000000000000000000000cd" = some ⟨0xcd⟩ := by decide +kernel
  have account : Uuid.read? "00000000-0000-0000-0000-0000000000ab" = some ⟨0xab⟩ ∧
      Uuid.read? "000000000000000000000000000000AB" = some ⟨0xab⟩ := by decide +kernel
  have created : Instant.read? "2024-05-01T12:30:00.500000+02:00" =
        some sampleTemplate.createdAt ∧
      Instant.read? "2024-05-01t10:30:00.5z" = some sampleTemplate.createdAt := by decide +kernel
  intro place field found
  match place with
  | 0 =>
      cases found
      exact ⟨_, _, rfl, rfl, Shape.alike_of_uuid id.1 id.2⟩
  | 1 =>
      cases found
      exact ⟨_, _, rfl, rfl, Shape.alike_of_uuid account.1 account.2⟩
  | 2 | 3 | 4 | 5 | 6 | 7 | 9 =>
      cases found
      exact ⟨_, _, rfl, rfl, .same _ _⟩
  | 8 =>
      cases found
      exact ⟨_, _, rfl, rfl, Shape.alike_of_perm (.swap _ _ _) (by decide)⟩
  | 10 =>
      cases found
      exact ⟨_, _, rfl, rfl, Shape.alike_of_instant created.1 created.2⟩
  | place + 11 => cases found

/-- Both are accepted, as the template that has the stricter form. -/
theorem looseTemplate_is_strict :
    ∃ one two : Template, decode Template looseTemplate.text = .ok one ∧
      decode Template strictTemplate.text = .ok two ∧ one = two ∧
      (encode one).text = (encode two).text := by
  have loose : Written looseTemplate.toNode looseTemplate.text :=
    written_text (by simp [looseTemplate, Value.IsPlain, ArePlainMembers])
  have strict : Written strictTemplate.toNode strictTemplate.text :=
    written_text (by simp [strictTemplate, Value.IsPlain, ArePlainItems, ArePlainMembers])
  have read : decode Template looseTemplate.text = .ok sampleTemplate := by
    rw [loose.decode_eq]
    decide +kernel
  have otherRead : decode Template strictTemplate.text = .ok sampleTemplate := by
    rw [strict.decode_eq]
    decide +kernel
  exact ⟨_, _, read, otherRead,
    forms_are_stable.2.2.2.1.agree looseTemplate_alike loose strict read otherRead⟩

end Json

end ServiceGroups
