import ServiceGroups.Group
import ServiceGroups.Template
import ServiceGroups.Text.Quoted

/-!
# What a job is made of

The details of a job gather everything its text needs: the machine shape and
capacity of a group, the account's credential and the release of the scaling
program.  They live for one rendering, and their debugging view leaves out the
key material and whatever a user may have put into the machine's data.
-/

namespace ServiceGroups

namespace Job

/-- The inputs of a job's text. -/
structure Details where
  datacenter : String
  jobName : String
  desiredCount : UInt32
  packageId : String
  imageId : String
  groupName : String
  templateId : String
  userData : Option String
  firewallEnabled : Bool
  networks : List String
  tags : Dictionary
  metadata : Dictionary
  account : String
  cloudUrl : String
  keyId : String
  keyMaterial : String
  release : String
deriving DecidableEq

namespace Details

/-- Text, unless it is empty. -/
def nonEmpty? (text : Option String) : Option String :=
  text.filter (· ≠ "")

/-- The machine shape of a template and the capacity of a group.  What belongs
to the account is left empty. -/
def ofTemplate (template : Template) (group : Group) : Details where
  datacenter := ""
  jobName := ""
  desiredCount := group.capacity
  packageId := template.package
  imageId := template.imageId
  groupName := group.name
  templateId := template.id.text
  userData := nonEmpty? template.userData
  firewallEnabled := template.firewallEnabled
  networks := template.networks
  tags := template.tags
  metadata := template.metadata
  account := ""
  cloudUrl := ""
  keyId := ""
  keyMaterial := ""
  release := ""

end Details

instance : Json.Record Details where
  fields := [.required "datacenter" .text, .required "job_name" .text,
    .required "desired_count" .word32, .required "package_id" .text,
    .required "image_id" .text, .required "service_group_name" .text,
    .required "template_id" .text, .required "user_data" (.optional .text),
    .required "firewall_enabled" .flag, .required "networks" .texts,
    .required "tags" .dictionary, .required "metadata" .dictionary,
    .required "triton_account" .text, .required "triton_url" .text,
    .required "triton_key_id" .text, .required "triton_key_material" .text,
    .required "tsg_cli_version" .text]
  toRow details := (details.datacenter, details.jobName, details.desiredCount,
    details.packageId, details.imageId, details.groupName, details.templateId,
    details.userData, details.firewallEnabled, details.networks, details.tags,
    details.metadata, details.account, details.cloudUrl, details.keyId,
    details.keyMaterial, details.release, ())
  ofRow := fun (datacenter, jobName, desiredCount, packageId, imageId, groupName, templateId,
      userData, firewallEnabled, networks, tags, metadata, account, cloudUrl, keyId,
      keyMaterial, release, ()) =>
    ⟨datacenter, jobName, desiredCount, packageId, imageId, groupName, templateId, userData,
      firewallEnabled, networks, tags, metadata, account, cloudUrl, keyId, keyMaterial,
      release⟩
  ofRow_toRow _ := rfl
  toRow_ofRow _ := rfl

end Job

def debugField (name shown : String) : String :=
  name ++ ": " ++ shown

/-- A debugging view: a name and fields between braces. -/
def debugView (name : String) (fields : List String) : String :=
  name ++ " \x7b " ++ String.intercalate ", " fields ++ " \x7d"

def debugTexts (items : List String) : String :=
  "[" ++ String.intercalate ", " (items.map Text.quoted) ++ "]"

def AccountId.debugText (id : AccountId) : String :=
  "AccountId(" ++ id.text ++ ")"

/-- The debugging view of a credential, without its key material. -/
def Credential.debugText (credential : Credential) : String :=
  debugView "TritonCredential"
    [debugField "account_id" credential.accountId.debugText,
      debugField "account_name" (Text.quoted credential.accountName),
      debugField "key_id" (Text.quoted credential.keyId),
      debugField "key_material" (Text.quoted "<redacted>")]

/-- The debugging view of a job's details, without secrets and user data. -/
def Job.Details.debugText (details : Job.Details) : String :=
  debugView "OrchestratorJob"
    [debugField "datacenter" (Text.quoted details.datacenter),
      debugField "job_name" (Text.quoted details.jobName),
      debugField "desired_count" (Text.decimalText details.desiredCount.toNat),
      debugField "package_id" (Text.quoted details.packageId),
      debugField "image_id" (Text.quoted details.imageId),
      debugField "service_group_name" (Text.quoted details.groupName),
      debugField "template_id" (Text.quoted details.templateId),
      debugField "networks" (debugTexts details.networks),
      debugField "triton_account" (Text.quoted details.account),
      debugField "triton_key_id" (Text.quoted details.keyId), ".."]

end ServiceGroups
