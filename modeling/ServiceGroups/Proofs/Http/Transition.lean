import ServiceGroups.Proofs.Http.Ownership
import ServiceGroups.Proofs.Http.Reachable

/-!
# What a request changes

A request changes the store in one of five ways or not at all.  Where it writes or
removes a group, the scheduler has granted the whole operation on the group's job.
Invariants of the service are case analyses over these ways.
-/

namespace ServiceGroups

namespace Http

/-- How a request can change the store and the state of the scheduler. -/
inductive Transition {σ : Type} (release : String) (moment : Moment) (scheduler : Scheduler σ)
    (store : Store) (state : σ) : Store → σ → Prop where
  | unchanged : Transition release moment scheduler store state store state
  /-- The scheduler refused a call. -/
  | stopped {reason : Failure} {call : JobsCall} {middle final : σ}
      (refusal : scheduler.answer call middle = (.error reason, final)) :
      Transition release moment scheduler store state store final
  | templateCreated (template : Template) (fresh : template.id = moment.freshId)
      (keepsOwner : ∀ old, store.templates.find? template.id = some old →
        old.accountId = template.accountId) :
      Transition release moment scheduler store state
        { store with templates := store.templates.put template.id template } state
  | templateDeleted (id : Uuid) (unused : store.templateInUse id = false) :
      Transition release moment scheduler store state
        { store with templates := store.templates.erase id } state
  | groupWritten {operation : Operation} (registers : operation ≠ .delete) (session : Session)
      (group : Group) (template : Template) {account : Account} {credential : Credential}
      {details : Job.Details} {final : σ} {calls : List JobsCall}
      (own : group.accountId = session.accountId)
      (provides : store.Provides session group template account credential)
      (describes : details.Describes release session group.name group.capacity template account
        credential)
      (completes : scheduler.Completes operation details.render state final calls) :
      Transition release moment scheduler store state
        { store with
          groups := store.groups.put (group.accountId, group.name)
            (Store.succeeding (store.groups.find? (group.accountId, group.name)) group) } final
  | groupDeleted (session : Session) (group : Group) {template : Template} {account : Account}
      {credential : Credential} {details : Job.Details} {final : σ} {calls : List JobsCall}
      (found : store.groups.find? (session.accountId, group.name) = some group)
      (provides : store.Provides session group template account credential)
      (describes : details.Describes release session group.name 0 template account credential)
      (completes : scheduler.Completes .delete details.render state final calls) :
      Transition release moment scheduler store state
        { store with groups := store.groups.erase (session.accountId, group.name) } final

variable {σ : Type} {release : String} {moment : Moment} {scheduler : Scheduler σ}
variable {store : Store} {state : σ}

theorem Effect.transition {plan : Plan} {outcome : Outcome (Except Denial Response) σ}
    (effect : Effect release scheduler store state plan outcome)
    (arises : plan.Arises moment store) (keyed : store.Keyed) :
    Transition release moment scheduler store state outcome.store outcome.state := by
  cases effect with
  | settled | denied => exact .unchanged
  | stopped _ step refusal calls => exact .stopped refusal
  | wrote performed =>
      cases arises with
      | createTemplate session draft checked =>
          obtain ⟨-, committed⟩ := store.perform_eq_ok.mp performed
          obtain ⟨rfl, keepsOwner⟩ := store.putTemplate_eq_ok committed
          exact .templateCreated _ rfl keepsOwner
      | deleteTemplate session id =>
          obtain ⟨checked, committed⟩ := store.perform_eq_ok.mp performed
          obtain ⟨rfl, -⟩ := store.dropTemplate_eq_ok committed
          exact .templateDeleted id (store.precheck_deleteTemplate checked)
  | @changed _ session group _ _ _ _ _ _ _ _ _ _ provides describes completes performed =>
      have holder := provides.holder
      cases arises with
      | createGroup _ draft name named sized free =>
          rw [perform_insertGroup holder free] at performed
          obtain rfl : _ = _ := congrArg Prod.snd performed
          have written : Transition release moment scheduler store state _ _ :=
            .groupWritten (by decide) _ _ _ rfl provides describes completes
          have absent : store.groups.find? ((draft.group moment session name).accountId,
            (draft.group moment session name).name) = none := free
          rw [absent] at written
          exact written
      | updateGroup _ change name old checked found =>
          have own : old.accountId = session.accountId :=
            congrArg Prod.fst (keyed.groups _ old found)
          rw [perform_upsertGroup (by simpa [GroupChange.apply, own] using holder)] at performed
          obtain rfl : _ = _ := congrArg Prod.snd performed
          exact .groupWritten (by decide) _ _ _ own provides describes completes
      | deleteGroup _ name _ found =>
          obtain rfl : group.name = name := congrArg Prod.snd (keyed.groups _ group found)
          rw [perform_deleteGroup found] at performed
          obtain rfl : _ = _ := congrArg Prod.snd performed
          exact .groupDeleted _ _ found provides describes completes

/-- Handling a request makes one of the changes. -/
theorem Service.handle_transition (service : Service) (moment : Moment) (request : Request)
    (scheduler : Scheduler σ) (state : σ) (keyed : store.Keyed) :
    Transition service.release moment scheduler store state
      ((service.handle moment request).run scheduler store state).store
      ((service.handle moment request).run scheduler store state).state := by
  have arises := (service.task moment request).plan_arises moment store
  have effect := arises.effect scheduler state keyed service.release
  rw [service.run_handle, outcome_task]
  exact effect.transition arises keyed

theorem Transition.supplied {next : Store} {final : σ}
    (transition : Transition release moment scheduler store state next final)
    (supplied : store.Supplied) : next.Supplied := by
  cases transition with
  | unchanged | stopped => exact supplied
  | templateCreated template fresh keepsOwner =>
      intro key group found
      obtain ⟨old, used, same⟩ := supplied key group found
      simp only [Table.find?_put]
      split
      · next replaced =>
          -- The new template belongs to the account that the old one belonged to.
          exact ⟨template, rfl, (keepsOwner old (replaced ▸ used)).symm.trans same⟩
      · exact ⟨old, used, same⟩
  | templateDeleted id unused =>
      intro key group found
      have other : group.templateId ≠ id := by
        intro uses
        have inUse : store.templateInUse id = true :=
          Store.templateInUse_iff.mpr ⟨key, group, found, uses⟩
        exact absurd (unused.symm.trans inUse) (by decide)
      simp only [Table.find?_erase, other, if_false]
      exact supplied key group found
  | groupWritten registers session group template own provides describes completes =>
      refine Table.forall_find?_put supplied ⟨template, ?_, ?_⟩
      · rw [Store.succeeding_templateId]
        exact provides.templateFound
      · rw [Store.succeeding_accountId]
        exact provides.templateOwned.trans own.symm
  | groupDeleted session group found provides describes completes =>
      intro key other present
      exact supplied key other (Table.find?_of_find?_erase present)

/-- In a served store every group has its template. -/
theorem Served.supplied {store : Store} (served : Served store) : store.Supplied := by
  induction served with
  | start only =>
      intro key group found
      rw [only.noGroups] at found
      cases found
  | request before service moment request scheduler state ih =>
      exact (service.handle_transition moment request scheduler state before.keyed).supplied ih

end Http

end ServiceGroups
