import ServiceGroups.Proofs.Http.Agreement

/-!
# Jobs of different groups stay apart

The name of a job determines its group, and the label in the job's text is read back as that
name, whatever stands behind it.  A scheduler that takes the label for the identity of a job
is therefore never asked to register, run or remove the job of one group when an operation
is about another.
-/

namespace ServiceGroups

namespace Hcl

/-- The label of the job block that a text begins with, blanks aside. -/
def leadingLabel? (text : String) : Option String := do
  let inside ← List.isPrefixOf? "job \"".toList (text.toList.dropWhile Text.isBlank)
  let (pieces, _) ← readString inside
  plainText? pieces

end Hcl

/-- The label does not depend on anything that follows it, not even on the release. -/
theorem Job.Details.leadingLabel?_render (details : Job.Details) :
    Hcl.leadingLabel? details.render = some details.jobName := by
  have split : ∃ rest, details.render.toList =
      '\n' :: ("job \"".toList ++ (Hcl.quoteChars details.jobName.toList ++ '"' :: rest)) := by
    refine ⟨(Hcl.documentText (details.document.drop 2)).toList, ?_⟩
    have front : details.document =
        .code "\njob " :: .value details.jobName :: details.document.drop 2 := rfl
    rw [render_eq, front, Hcl.documentText_cons, Hcl.documentText_cons, Hcl.Fragment.value,
      Hcl.Fragment.text_literal]
    simp [Hcl.Fragment.text, Hcl.inside, Hcl.Segment.text, Hcl.quote]
  obtain ⟨rest, split⟩ := split
  have trimmed : details.render.toList.dropWhile Text.isBlank =
      "job \"".toList ++ (Hcl.quoteChars details.jobName.toList ++ '"' :: rest) := by
    rw [split]
    rfl
  have inside : List.isPrefixOf? "job \"".toList (details.render.toList.dropWhile Text.isBlank) =
      some (Hcl.quoteChars details.jobName.toList ++ '"' :: rest) := by
    rw [trimmed]
    rfl
  rw [Hcl.leadingLabel?, inside]
  simp only [Option.bind_eq_bind, Option.bind_some, Hcl.readString_closed, Hcl.plainText?_toList]

/-- The job that a call registers, runs or removes. -/
def JobsCall.affected? : JobsCall → Option String
  | .register job => some job.id
  | .deregister id _ => some id
  | .force id => some id
  | _ => none

namespace Scheduler

variable {σ : Type} {scheduler : Scheduler σ}

/-- A job that the scheduler has parsed has the label of its text as its identity. -/
def ReadsLabels (scheduler : Scheduler σ) : Prop :=
  ∀ text label job state next, Hcl.leadingLabel? text = some label →
    scheduler.answer (.parse text) state = (.ok job, next) → job.id = label

theorem Follows.exists_stage {stages : List Stage} {state final : σ}
    {result : Except Failure Unit} {calls : List JobsCall}
    (follows : scheduler.Follows stages state result final calls) :
    ∀ call ∈ calls, ∃ stage ∈ stages, stage.call = call := by
  intro call member
  cases follows with
  | granted grants => exact List.mem_map.mp member
  | @refused before later stage reason middle _ split grants refusal =>
      obtain ⟨made, among, same⟩ := List.mem_map.mp member
      refine ⟨made, ?_, same⟩
      rw [split, List.append_cons]
      exact List.mem_append_left _ among

end Scheduler

namespace Operation

variable {operation : Operation} {id : String}

theorem affected_of_mem_stages {job : Job.Spec} {stage : Stage}
    (member : stage ∈ operation.stages job) (affects : stage.call.affected? = some id) :
    id = job.id := by
  have calls : stage.call = .validate job ∨ stage.call = .register job ∨
      stage.call = .force job.id ∨ stage.call = .deregister job.id true := by
    cases operation <;> simp [stages, registering, removing] at member <;> grind
  rcases calls with same | same | same | same <;> rw [same] at affects <;> cases affects <;> rfl

/-- Whatever the scheduler refuses, an operation affects no job but the one that it had
parsed. -/
theorem affected_of_performs {σ : Type} {scheduler : Scheduler σ}
    (reads : scheduler.ReadsLabels) {details : Job.Details} {state final : σ}
    {result : Except Failure Unit} {calls : List JobsCall}
    (performs : scheduler.Performs operation details.render state result final calls) :
    ∀ call ∈ calls, call.affected? = some id → id = details.jobName := by
  intro call member affects
  cases performs with
  | unparsed refusal =>
      cases List.mem_singleton.mp member
      cases affects
  | @parsed job next _ _ calls granted follows =>
      have named : job.id = details.jobName :=
        reads _ _ _ _ _ details.leadingLabel?_render granted
      rcases List.mem_cons.mp member with rfl | later
      · cases affects
      · obtain ⟨stage, among, rfl⟩ := follows.exists_stage call later
        rw [← named]
        exact affected_of_mem_stages among affects

/-- An operation affects no job but that of the group under the session's account. -/
theorem affected_of_action {σ : Type} {scheduler : Scheduler σ} (reads : scheduler.ReadsLabels)
    (store : Store) (state : σ) (operation : Operation) (release : String) (session : Session)
    (group : Group) :
    ∀ call ∈ (Action.outcome scheduler store state
        (operation.action release session group)).calls,
      call.affected? = some id → ∃ account, store.accounts.find? session.accountId = some account ∧
        id = Orchestrator.jobName group.name account.cloudId := by
  intro call member affects
  obtain ⟨-, missing, present⟩ :=
    action_follows_sequence scheduler store state operation release session group
  by_cases provided : ∃ template account credential,
      store.Provides session group template account credential
  · obtain ⟨template, account, credential, provides⟩ := provided
    obtain ⟨details, describes, performs⟩ := present template account credential provides
    refine ⟨account, provides.accountFound, ?_⟩
    rw [affected_of_performs reads performs call member affects, describes.jobName]
    rfl
  · obtain ⟨what, ended⟩ := missing provided
    rw [ended] at member
    cases member

/-- Names of jobs are the same for the same group alone, and the label in the text of a job
is its name.  If accounts differ inside the cloud and the scheduler names jobs by their
labels, no operation on one group registers, runs or removes the job of another. -/
theorem jobs_are_never_shared :
    (∀ (name otherName : String) (cloudId otherId : Uuid),
      Orchestrator.jobName name cloudId = Orchestrator.jobName otherName otherId ↔
        name = otherName ∧ cloudId = otherId) ∧
    (∀ (release : String) (session : Session) (template : Template) (group : Group)
      (account : Account) (credential : Credential),
      Hcl.leadingLabel?
          (Orchestrator.fillDetails release session template group account credential).render =
        some (Orchestrator.jobName group.name account.cloudId)) ∧
    ∀ {σ : Type} (scheduler : Scheduler σ), scheduler.ReadsLabels →
      ∀ store : Store, store.DistinctClouds →
      ∀ (state : σ) (operation : Operation) (release : String) (session : Session)
        (group other : Group) (otherId : String),
        (session.accountId, group.name) ≠ (other.accountId, other.name) →
        store.jobId? other = some otherId →
        ∀ call ∈ (Action.outcome scheduler store state
            (operation.action release session group)).calls,
          call.affected? ≠ some otherId := by
  refine ⟨?_, ?_, ?_⟩
  · intro name otherName cloudId otherId
    refine ⟨Orchestrator.jobName_injective, ?_⟩
    rintro ⟨rfl, rfl⟩
    rfl
  · intro release session template group account credential
    exact Job.Details.leadingLabel?_render _
  · intro σ scheduler reads store distinct state operation release session group other otherId
      different named call member affects
    obtain ⟨account, present, rfl⟩ :=
      affected_of_action reads store state operation release session group call member affects
    obtain ⟨otherAccount, otherPresent, same⟩ := Option.map_eq_some_iff.mp named
    obtain ⟨names, clouds⟩ := Orchestrator.jobName_injective same
    have owners := distinct _ _ _ _ otherPresent present clouds
    exact different (by rw [names, owners])

namespace Sample

/-- A scheduler that names jobs by their labels and does not run any. -/
def reluctant : Scheduler Unit where
  answer
    | .parse text, state =>
      match Hcl.leadingLabel? text with
      | some label => (.ok ⟨label, .string text⟩, state)
      | none => (.error (.invalidInput "no job"), state)
    | .validate _, state => (.ok (), state)
    | .register _, state => (.ok ⟨""⟩, state)
    | .deregister _ _, state => (.ok ⟨""⟩, state)
    | .force _, state => (.error (.backendMessage "unavailable"), state)

theorem readsLabels_reluctant : reluctant.ReadsLabels := by
  intro text label job state next labelled parsed
  simp only [reluctant, labelled, Prod.mk.injEq, Except.ok.injEq] at parsed
  rw [← parsed.1]

/-- Two tenants, of whom the first has a template. -/
def stocked : Store :=
  { Http.Sample.twoTenants with
    templates := Table.empty.put ⟨7⟩
      ⟨⟨7⟩, ⟨⟨1⟩⟩, "web", "small", "image", false, [], none, .empty, .empty, .epoch⟩ }

/-- A group of the template, owned by a tenant. -/
def groupOf (owner : BitVec 128) : Group :=
  ⟨⟨owner⟩, ⟨⟨owner⟩⟩, "web", ⟨7⟩, 1, .epoch, .epoch⟩

def session : Session :=
  ⟨⟨⟨1⟩⟩, "central", "https://cloud.example"⟩

/-- What a tenant's submission leaves, which fails when the job is to be run. -/
def submission : Outcome (Except Failure Unit) Unit :=
  Action.outcome reluctant stocked () (Operation.submit.action "0.2.1" session (groupOf 1))

/-- The submission gets as far as asking for a run of the tenant's own job. -/
theorem force_mem_submission : .force (Orchestrator.jobName "web" ⟨1⟩) ∈ submission.calls := by
  obtain ⟨details, describes, performs⟩ :=
    (Operation.action_follows_sequence reluctant stocked () .submit "0.2.1" session
      (groupOf 1)).2.2 _ _ _ ⟨rfl, rfl, rfl, rfl⟩
  have parsed : reluctant.answer (.parse details.render) () =
      (.ok ⟨details.jobName, .string details.render⟩, ()) := by
    simp only [reluctant, details.leadingLabel?_render]
  have named : Orchestrator.jobName "web" ⟨1⟩ = details.jobName := describes.jobName.symm
  rw [named, submission]
  generalize Action.outcome reluctant stocked () (Operation.submit.action "0.2.1" session
    (groupOf 1)) = outcome at performs ⊢
  obtain ⟨result, store, state, calls⟩ := outcome
  cases performs with
  | unparsed refusal =>
      rw [parsed] at refusal
      cases refusal
  | parsed granted follows =>
      rw [parsed] at granted
      cases granted
      cases follows with
      | granted grants => simp [Operation.stages, Operation.registering]
      | @refused before later stage _ _ _ split _ refusal =>
          -- Only the call that runs the job is refused.
          have among :
              stage ∈ Operation.submit.stages ⟨details.jobName, .string details.render⟩ := by
            rw [split]
            exact List.mem_append_right _ List.mem_cons_self
          simp only [Operation.stages, Operation.registering, List.mem_cons, List.not_mem_nil,
            or_false] at among
          rcases among with rfl | rfl | rfl
          · cases refusal
          · cases refusal
          · simp

end Sample

open Sample in
/-- A submission that fails late spares the job of the other tenant's group, which has the
same name. -/
theorem submission_spares_namesake :
    reluctant.ReadsLabels ∧ stocked.DistinctClouds ∧
      (session.accountId, (groupOf 1).name) ≠ ((groupOf 2).accountId, (groupOf 2).name) ∧
      .force (Orchestrator.jobName "web" ⟨1⟩) ∈ submission.calls ∧
      ∃ otherId, stocked.jobId? (groupOf 2) = some otherId ∧
        ∀ call ∈ submission.calls, call.affected? ≠ some otherId := by
  have distinct : stocked.DistinctClouds := Http.Sample.distinctClouds_twoTenants
  have different : (session.accountId, (groupOf 1).name) ≠
      ((groupOf 2).accountId, (groupOf 2).name) := by decide
  have named : stocked.jobId? (groupOf 2) = some (Orchestrator.jobName "web" ⟨2⟩) := rfl
  refine ⟨readsLabels_reluctant, distinct, different, force_mem_submission, _, named, ?_⟩
  exact jobs_are_never_shared.2.2 reluctant readsLabels_reluctant stocked distinct () .submit
    "0.2.1" session (groupOf 1) (groupOf 2) _ different named

end Operation

end ServiceGroups
