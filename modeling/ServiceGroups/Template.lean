import ServiceGroups.Account

/-!
# Machine templates

A template is the shape that every machine of a service group shares: package,
image, networks, start-up data, tags and metadata.
-/

namespace ServiceGroups

/-- The shape of a machine, owned by an account. -/
structure Template where
  id : Uuid
  accountId : AccountId
  name : String
  package : String
  imageId : String
  firewallEnabled : Bool
  networks : List String
  userData : Option String
  tags : Dictionary
  metadata : Dictionary
  createdAt : Instant
deriving DecidableEq

instance : Json.Record Template where
  fields := [.required "template_id" .uuid, .required "account_id" .uuid,
    .required "name" .text, .required "package" .text, .required "image_id" .text,
    .default "firewall_enabled" .flag false, .default "networks" .texts [],
    .default "user_data" (.optional .text) none, .default "tags" .dictionary .empty,
    .default "metadata" .dictionary .empty, .required "created_at" .instant]
  toRow template := (template.id, template.accountId.uuid, template.name, template.package,
    template.imageId, template.firewallEnabled, template.networks, template.userData,
    template.tags, template.metadata, template.createdAt, ())
  ofRow := fun (id, accountId, name, package, imageId, firewallEnabled, networks, userData, tags,
      metadata, createdAt, ()) =>
    ⟨id, ⟨accountId⟩, name, package, imageId, firewallEnabled, networks, userData, tags,
      metadata, createdAt⟩
  ofRow_toRow _ := rfl
  toRow_ofRow _ := rfl

end ServiceGroups
