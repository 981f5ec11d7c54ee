import ServiceGroups.Proofs.Job.Arguments
import ServiceGroups.Proofs.Job.Naming
import ServiceGroups.Proofs.Operation
import ServiceGroups.Proofs.Store.Step

/-!
# A scheduler that keeps a ledger

The ledger is the table of registered jobs.  Its scheduler grants every call: it
reads the label of a job text as the identity of the job and keeps the text as its
form, enters a job that is registered and strikes one that is deregistered.  What an
operation does to the ledger follows from its stages.
-/

namespace ServiceGroups

/-- The registered jobs, under their identities. -/
abbrev Ledger : Type :=
  Table String Job.Spec

namespace Ledger

/-- The job that a text describes. -/
def job (text : String) : Job.Spec :=
  ⟨(Hcl.label? text).getD "", .string text⟩

/-- The scheduler that keeps a ledger. -/
def scheduler : Scheduler Ledger where
  answer
    | .parse text, jobs => (.ok (job text), jobs)
    | .validate _, jobs => (.ok (), jobs)
    | .register job, jobs => (.ok ⟨""⟩, jobs.put job.id job)
    | .deregister id _, jobs => (.ok ⟨""⟩, jobs.erase id)
    | .force _, jobs => (.ok ⟨""⟩, jobs)

theorem answer_ne_error (call : JobsCall) (jobs final : Ledger) (reason : Failure) :
    scheduler.answer call jobs ≠ (.error reason, final) := by
  intro refusal
  cases call <;> cases refusal

end Ledger

theorem Scheduler.Grants.final_eq {σ : Type} {scheduler : Scheduler σ} {calls : List JobsCall}
    {state final : σ} (grants : scheduler.Grants calls state final) :
    final = calls.foldl (fun state call => (scheduler.answer call state).2) state := by
  induction grants with
  | nil => rfl
  | cons answered rest ih => rw [ih, List.foldl_cons, answered]

namespace Ledger

variable {operation : Operation} {text : String} {jobs final : Ledger} {calls : List JobsCall}

theorem final_eq (completes : scheduler.Completes operation text jobs final calls) :
    final = ((operation.stages (job text)).map Stage.call).foldl
      (fun jobs call => (scheduler.answer call jobs).2) jobs := by
  cases completes with
  | intro parsed grants =>
      cases parsed
      exact grants.final_eq

/-- An operation that registers a job enters it and leaves the rest of the ledger. -/
theorem find?_of_registers (registers : operation ≠ .delete)
    (completes : scheduler.Completes operation text jobs final calls) (id : String) :
    final.find? id = if id = (job text).id then some (job text) else jobs.find? id := by
  rw [final_eq completes]
  cases operation with
  | submit => exact Table.find?_put jobs _ _ _
  | update =>
      refine (Table.find?_put (jobs.erase (job text).id) _ _ _).trans ?_
      rw [Table.find?_erase]
      split <;> rfl
  | delete => exact absurd rfl registers

/-- Deletion strikes the job and leaves the rest of the ledger. -/
theorem find?_of_deletes (completes : scheduler.Completes .delete text jobs final calls)
    (id : String) : final.find? id = if id = (job text).id then none else jobs.find? id := by
  rw [final_eq completes]
  refine (Table.find?_erase ((jobs.erase (job text).id).put (job text).id (job text)) _ _).trans ?_
  rw [Table.find?_put, Table.find?_erase]
  split <;> rfl

end Ledger

namespace Job

theorem Details.Describes.sound {details : Details} {release : String} {session : Session}
    {groupName : String} {count : UInt32} {template : Template} {account : Account}
    {credential : Credential}
    (describes : details.Describes release session groupName count template account credential)
    (valid : Settings.isRelease release = true) : details.Sound where
  release := by
    rw [describes.release]
    exact Settings.all_isPlain_of_isRelease valid
  templateId := by
    rw [describes.templateId]
    exact template.id.text_all_isPlain

/-- The values that the program of a job is given for an option. -/
def Spec.values (job : Spec) (option : String) : List String :=
  match job.form with
  | .string text => optionValues text option
  | _ => []

/-- The job asks for as many machines as the group and for machines of the template. -/
structure Spec.AsksFor (job : Spec) (group : Group) (template : Template) : Prop where
  count : job.values "--count" = [Text.decimalText group.capacity.toNat]
  templateId : job.values "--template-id" = [group.templateId.text]
  packageId : job.values "--pkg-id" = [template.package]
  imageId : job.values "--img-id" = [template.imageId]

/-- What a job asks for does not depend on the identity of the group. -/
theorem Spec.AsksFor.succeeding {job : Spec} {group : Group} {template : Template}
    (asks : job.AsksFor group template) (existing : Option Group) :
    job.AsksFor (Store.succeeding existing group) template where
  count := by rw [Store.succeeding_capacity, asks.count]
  templateId := by rw [Store.succeeding_templateId, asks.templateId]
  packageId := asks.packageId
  imageId := asks.imageId

/-- A job asks for one number of machines of one template. -/
theorem Spec.AsksFor.unique {job : Spec} {group other : Group} {template otherTemplate : Template}
    (asks : job.AsksFor group template) (otherAsks : job.AsksFor other otherTemplate) :
    group.templateId = other.templateId ∧ group.capacity = other.capacity := by
  have templates := List.singleton_inj.mp (asks.templateId.symm.trans otherAsks.templateId)
  have counts := List.singleton_inj.mp (asks.count.symm.trans otherAsks.count)
  exact ⟨Uuid.text_injective templates, UInt32.toNat_inj.mp (Text.decimalText_injective counts)⟩

theorem job_id_of_sound {details : Details} (sound : details.Sound) :
    (Ledger.job details.render).id = details.jobName := by
  rw [Ledger.job, Details.label?_render sound]
  rfl

/-- The job of a group's details asks for what they describe. -/
theorem asksFor_of_describes {details : Details} {release : String} {session : Session}
    {group : Group} {template : Template} {account : Account} {credential : Credential}
    (describes : details.Describes release session group.name group.capacity template account
      credential) (sound : details.Sound) (used : template.id = group.templateId) :
    (Ledger.job details.render).AsksFor group template := by
  have value {option value : String} (member : (option, value) ∈ details.machineOptions) :
      (Ledger.job details.render).values option = [value] :=
    Details.optionValues_of_mem_machineOptions sound member
  refine ⟨value ?_, value ?_, value ?_, value ?_⟩
  · simp [Details.machineOptions, describes.desiredCount]
  · simp [Details.machineOptions, describes.templateId, used]
  · simp [Details.machineOptions, describes.packageId]
  · simp [Details.machineOptions, describes.imageId]

end Job

end ServiceGroups
