import ServiceGroups.Group
import ServiceGroups.Http.MediaType
import ServiceGroups.Http.Refusal
import ServiceGroups.Http.Route
import ServiceGroups.Session
import ServiceGroups.Template
import ServiceGroups.Text.Blank
import ServiceGroups.Text.Numeral
import ServiceGroups.Text.Quoted

/-!
# What requests ask for

A body is a draft of what is to be created or changed.  Reading it checks its
media type, its size and its JSON, in that order; checking it means the rules
for names, capacities and required fields.  A query selects a page.
-/

namespace ServiceGroups

namespace Http

/-- The largest body that is read, in bytes. -/
def maxBodySize : Nat :=
  2097152

def readBody (α : Type) [Json.Form α] (request : Request) : Except Unreadable α :=
  let mediaType := (request.headers.find? "content-type").bind readable?
  if !mediaType.any MediaType.isJson then .error .mediaType
  else if maxBodySize < request.body.utf8ByteSize then .error .tooLarge
  else
    match Json.decode α request.body with
    | .ok draft => .ok draft
    | .error .malformed => .error .malformed
    | .error .mismatched => .error .mismatched

/-- The one value of a paging parameter; it must not be given twice. -/
def pageParameter (name : String) (pairs : List (Option String × Option String)) :
    Except Unreadable (Option UInt64) :=
  match pairs.filter (·.1 == some name) with
  | [] => .ok none
  | [(_, value)] =>
    match value.bind Text.word64? with
    | some number => .ok (some number)
    | none => .error .query
  | _ => .error .query

def readPage (target : String) : Except Unreadable Page := do
  let pairs := Text.formDecode (String.ofList (Target.query target))
  let limit ← pageParameter "limit" pairs
  let offset ← pageParameter "offset" pairs
  .ok ⟨limit.getD Page.first.limit, offset.getD Page.first.offset⟩

/-- The free segment of a path, decoded. -/
def readSegment (segment : String) : Except Unreadable String :=
  match Text.percentDecode? segment with
  | some text => .ok text
  | none => .error .address

def readIdentity (segment : String) : Except Unreadable Uuid :=
  match (Text.percentDecode? segment).bind Uuid.read? with
  | some id => .ok id
  | none => .error .address

/-- A group to be created. -/
structure GroupDraft where
  name : String
  templateId : Uuid
  capacity : UInt32
deriving DecidableEq

instance : Json.Record GroupDraft where
  fields := [.required "group_name" .text, .required "template_id" .uuid,
    .required "capacity" .word32]
  toRow draft := (draft.name, draft.templateId, draft.capacity, ())
  ofRow := fun (name, templateId, capacity, ()) => ⟨name, templateId, capacity⟩
  ofRow_toRow _ := rfl
  toRow_ofRow _ := rfl

/-- A change of a group: what is absent stays as it is. -/
structure GroupChange where
  templateId : Option Uuid
  capacity : Option UInt32
deriving DecidableEq

instance : Json.Record GroupChange where
  fields := [.default "template_id" (.optional .uuid) none,
    .default "capacity" (.optional .word32) none]
  toRow change := (change.templateId, change.capacity, ())
  ofRow := fun (templateId, capacity, ()) => ⟨templateId, capacity⟩
  ofRow_toRow _ := rfl
  toRow_ofRow _ := rfl

/-- A template to be created. -/
structure TemplateDraft where
  name : String
  package : String
  imageId : String
  firewallEnabled : Bool
  networks : List String
  userData : Option String
  tags : Dictionary
  metadata : Dictionary
deriving DecidableEq

instance : Json.Record TemplateDraft where
  fields := [.required "name" .text, .required "package" .text, .required "image_id" .text,
    .default "firewall_enabled" .flag false, .default "networks" .texts [],
    .default "user_data" (.optional .text) none, .default "tags" .dictionary .empty,
    .default "metadata" .dictionary .empty]
  toRow draft := (draft.name, draft.package, draft.imageId, draft.firewallEnabled,
    draft.networks, draft.userData, draft.tags, draft.metadata, ())
  ofRow := fun (name, package, imageId, firewallEnabled, networks, userData, tags, metadata,
      ()) =>
    ⟨name, package, imageId, firewallEnabled, networks, userData, tags, metadata⟩
  ofRow_toRow _ := rfl
  toRow_ofRow _ := rfl

def maxGroupName : Nat :=
  64

/-- May the character stand in the name of a group? -/
def isGroupNameChar (char : Char) : Bool :=
  char.isAlphanum || char == '-' || char == '_'

/-- Names of groups end up in job identities and addresses. -/
def isGroupName (name : String) : Bool :=
  name.toList.head?.any Char.isAlphanum && name.utf8ByteSize ≤ maxGroupName &&
    name.toList.all isGroupNameChar

def checkGroupName (name : String) : Except Refusal Unit :=
  if isGroupName name then .ok ()
  else
    .error (.invalidInput ("group_name must be 1-" ++ Text.decimalText maxGroupName ++
      " characters of [A-Za-z0-9_-] starting with a letter or digit: " ++ Text.quoted name))

/-- Check a capacity, before any call of the scheduler. -/
def checkCapacity (capacity : UInt32) : Except Refusal Unit :=
  if capacity.toNat ≤ Group.maxCapacity then .ok ()
  else
    .error (.invalidInput ("capacity must be at most " ++ Text.decimalText Group.maxCapacity ++
      ": " ++ Text.decimalText capacity.toNat))

/-- Check a field that must not be blank. -/
def checkPresent (field value : String) : Except Refusal Unit :=
  if Text.isAllBlank value then .error (.invalidInput (field ++ " is required")) else .ok ()

def TemplateDraft.check (draft : TemplateDraft) : Except Refusal Unit := do
  checkPresent "name" draft.name
  checkPresent "package" draft.package
  checkPresent "image_id" draft.imageId
  if draft.networks.any Text.isAllBlank then
    .error (.invalidInput "networks must not contain empty ids")
  else .ok ()

end Http

end ServiceGroups
