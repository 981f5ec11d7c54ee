import ServiceGroups.Account

/-!
# Service groups

A service group keeps a number of machines of one template running for an
account.  Its name is unique within the account.
-/

namespace ServiceGroups

/-- A service group. -/
structure Group where
  id : Uuid
  accountId : AccountId
  name : String
  templateId : Uuid
  /-- How many machines should run. -/
  capacity : UInt32
  createdAt : Instant
  updatedAt : Instant
deriving DecidableEq

instance : Json.Record Group where
  fields := [.required "group_id" .uuid, .required "account_id" .uuid,
    .required "group_name" .text, .required "template_id" .uuid,
    .required "capacity" .word32, .required "created_at" .instant,
    .required "updated_at" .instant]
  toRow group := (group.id, group.accountId.uuid, group.name, group.templateId,
    group.capacity, group.createdAt, group.updatedAt, ())
  ofRow := fun (id, accountId, name, templateId, capacity, createdAt, updatedAt, ()) =>
    ⟨id, ⟨accountId⟩, name, templateId, capacity, createdAt, updatedAt⟩
  ofRow_toRow _ := rfl
  toRow_ofRow _ := rfl

def Group.maxCapacity : Nat :=
  Nat.pow 2 31 - 1

end ServiceGroups
