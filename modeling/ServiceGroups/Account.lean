import ServiceGroups.Json.Record

/-!
# Accounts and their credentials

An account is the tenant that templates and groups belong to.  It also has an
identity inside the cloud, which is part of the name of every job, and one
credential with the key that jobs use on its behalf.  The key material never
appears in a debugging view.
-/

namespace ServiceGroups

/-- The identity of an account. -/
structure AccountId where
  uuid : Uuid
deriving DecidableEq, Repr

namespace AccountId

def read? (text : String) : Option AccountId :=
  (Uuid.read? text).map AccountId.mk

/-- What is said about text that is no account identity. -/
def readFailure (text : String) : String :=
  "invalid uuid: " ++ text

def text (id : AccountId) : String :=
  id.uuid.text

def isNil (id : AccountId) : Bool :=
  id.uuid == Uuid.nil

end AccountId

instance : Json.Form AccountId where
  encode id := Json.Shape.uuid.encode id.uuid
  decode node := (Json.Shape.uuid.decode node).map AccountId.mk

/-- A tenant. -/
structure Account where
  id : AccountId
  name : String
  /-- The account's identity inside the cloud, part of every job's name. -/
  cloudId : Uuid
  createdAt : Instant
  updatedAt : Instant
deriving DecidableEq

instance : Json.Record Account where
  fields := [.required "account_id" .uuid, .required "account_name" .text,
    .required "triton_uuid" .uuid, .required "created_at" .instant,
    .required "updated_at" .instant]
  toRow account := (account.id.uuid, account.name, account.cloudId, account.createdAt,
    account.updatedAt, ())
  ofRow := fun (id, name, cloudId, createdAt, updatedAt, ()) =>
    ⟨⟨id⟩, name, cloudId, createdAt, updatedAt⟩
  ofRow_toRow _ := rfl
  toRow_ofRow _ := rfl

/-- The key an account uses with the cloud. -/
structure Credential where
  accountId : AccountId
  accountName : String
  keyId : String
  keyMaterial : String
deriving DecidableEq

instance : Json.Record Credential where
  fields := [.required "account_id" .uuid, .required "account_name" .text,
    .required "key_id" .text, .required "key_material" .text]
  toRow credential := (credential.accountId.uuid, credential.accountName, credential.keyId,
    credential.keyMaterial, ())
  ofRow := fun (accountId, accountName, keyId, keyMaterial, ()) =>
    ⟨⟨accountId⟩, accountName, keyId, keyMaterial⟩
  ofRow_toRow _ := rfl
  toRow_ofRow _ := rfl

end ServiceGroups
