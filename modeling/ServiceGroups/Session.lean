import ServiceGroups.Account

/-!
# Sessions and pages

A session says for whom a request is made and which data centre it is about.  A
page selects a slice of a listing.
-/

namespace ServiceGroups

/-- On whose behalf and where an operation takes place. -/
structure Session where
  accountId : AccountId
  datacenter : String
  cloudUrl : String
deriving DecidableEq

instance : Json.Record Session where
  fields := [.required "account_id" .uuid, .required "datacenter" .text,
    .required "triton_url" .text]
  toRow session := (session.accountId.uuid, session.datacenter, session.cloudUrl, ())
  ofRow := fun (accountId, datacenter, cloudUrl, ()) => ⟨⟨accountId⟩, datacenter, cloudUrl⟩
  ofRow_toRow _ := rfl
  toRow_ofRow _ := rfl

/-- A slice of a listing: how many rows, after how many. -/
structure Page where
  limit : UInt64
  offset : UInt64
deriving DecidableEq

instance : Json.Record Page where
  fields := [.required "limit" .word64, .required "offset" .word64]
  toRow page := (page.limit, page.offset, ())
  ofRow := fun (limit, offset, ()) => ⟨limit, offset⟩
  ofRow_toRow _ := rfl
  toRow_ofRow _ := rfl

def Page.first : Page :=
  ⟨100, 0⟩

def Page.slice (page : Page) (rows : List α) : List α :=
  (rows.drop page.offset.toNat).take page.limit.toNat

end ServiceGroups
