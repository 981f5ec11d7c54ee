import ServiceGroups.Proofs.Http.Confidentiality

/-!
# Tenants are left alone

Whatever is done for one account, by a call of the store or by a request that names
the account, leaves the rows of every other account as they are, and no template
ever changes its owner.
-/

namespace ServiceGroups

/-- Templates that are in the store before and after a step keep their owner. -/
theorem Store.Step.templates_keep_owner {owner : AccountId} {store next : Store}
    (step : store.Step owner next) (id : Uuid) (old new : Template)
    (found : store.templates.find? id = some old)
    (foundNext : next.templates.find? id = some new) : new.accountId = old.accountId := by
  have same (kept : next.templates.find? id = store.templates.find? id) :
      new.accountId = old.accountId := by
    rw [kept, found] at foundNext
    exact congrArg Template.accountId (Option.some.inj foundNext).symm
  cases step with
  | unchanged | putAccount | putCredential | putGroup | eraseGroup => exact same rfl
  | putTemplate template own holder keepsOwner =>
      rw [Table.find?_put] at foundNext
      split at foundNext
      · next replaced =>
          cases foundNext
          exact own.trans (keepsOwner old (replaced ▸ found)).symm
      · next other => exact same (by rw [Table.find?_put, if_neg other])
  | eraseTemplate erased =>
      have present := Table.find?_of_find?_erase foundNext
      rw [found] at present
      exact congrArg Template.accountId (Option.some.inj present).symm

namespace Http

/-- One call or one request, made for the account, turns the store into another. -/
inductive MadeFor (owner : AccountId) (store : Store) : Store → Prop where
  | call (call : StoreCall) (own : call.owner = owner) :
      MadeFor owner store (store.perform call).2
  | request (service : Service) (moment : Moment) (request : Request)
      (carries : requestAccount request.headers = .ok owner) {σ : Type}
      (scheduler : Scheduler σ) (state : σ) :
      MadeFor owner store ((service.handle moment request).run scheduler store state).store

namespace MadeFor

variable {owner : AccountId} {store next : Store}

theorem step (made : MadeFor owner store next) (keyed : store.Keyed) :
    store.Step owner next := by
  cases made with
  | call call own => exact own ▸ store.perform_step call
  | request service moment request carries scheduler state =>
      exact service.handle_step moment request scheduler state keyed carries

end MadeFor

/-- What a call or a request does for one account leaves the account row, the
credential, the templates and the groups of every other account as they were, and
every template that is still there belongs to whom it belonged before. -/
theorem other_tenants_are_untouched {owner : AccountId} {store next : Store}
    (reachable : Reachable store) (made : MadeFor owner store next) :
    (∀ other, other ≠ owner → store.AgreeFor other next) ∧
      ∀ id old new, store.templates.find? id = some old →
        next.templates.find? id = some new → new.accountId = old.accountId := by
  have step := made.step reachable.keyed
  exact ⟨fun other others => step.agreeFor_other others, step.templates_keep_owner⟩

namespace Sample

/-- The template of the first tenant, claimed by the second. -/
def claimed : Template :=
  ⟨⟨7⟩, stranger, "web", "large", "image", false, [], none, .empty, .empty, .epoch⟩

end Sample

open Sample in
/-- A tenant that writes a template under the identity of another tenant's leaves
that template and its owner alone. -/
theorem claimed_template_is_untouched :
    Reachable withTemplate ∧
      MadeFor stranger withTemplate (withTemplate.perform (.upsertTemplate claimed)).2 ∧
      withTemplate.AgreeFor ⟨⟨1⟩⟩ (withTemplate.perform (.upsertTemplate claimed)).2 := by
  have made : MadeFor stranger withTemplate (withTemplate.perform (.upsertTemplate claimed)).2 :=
    .call (.upsertTemplate claimed) rfl
  have others : (⟨⟨1⟩⟩ : AccountId) ≠ stranger := by decide
  exact ⟨reachable_withTemplate, made,
    (other_tenants_are_untouched reachable_withTemplate made).1 _ others⟩

end Http

end ServiceGroups
