import ServiceGroups.Proofs.Http.Plan
import ServiceGroups.Proofs.Store.Keyed

/-!
# What a request leaves behind

On a store whose rows lie under their own keys, carrying out a task ends in one of
five ways.  A write that follows an operation is never refused: the operation has
found the account, and the check before it has settled whether the group exists.
-/

namespace ServiceGroups

/-- The store with the group that an operation is about, or without the one it has deleted. -/
def Operation.leaves (store : Store) (session : Session) (group : Group) : Operation → Store
  | delete => { store with groups := store.groups.erase (session.accountId, group.name) }
  | _ => { store with groups := store.groups.put (session.accountId, group.name) group }

namespace Http

/-- The ways carrying out a plan can end. -/
inductive Effect {σ : Type} (release : String) (scheduler : Scheduler σ) (store : Store)
    (state : σ) : Plan → Outcome (Except Denial Response) σ → Prop where
  /-- The plan was an answer. -/
  | settled (result : Except Denial Response) :
      Effect release scheduler store state (.settle result) ⟨result, store, state, []⟩
  /-- The write was refused, or the operation before it ended without a call. -/
  | denied (plan : Plan) (failure : Failure) :
      Effect release scheduler store state plan ⟨.error (.failed failure), store, state, []⟩
  /-- The write was made. -/
  | wrote {call : StoreCall} {response : Response} {reply : call.Reply} {next : Store}
      (performed : store.perform call = (.ok reply, next)) :
      Effect release scheduler store state (.write call response)
        ⟨.ok response, next, state, []⟩
  /-- The scheduler refused a call of the operation. -/
  | stopped (plan : Plan) (step : String) {reason : Failure} {call : JobsCall}
      {middle final : σ} (refusal : scheduler.answer call middle = (.error reason, final))
      (calls : List JobsCall) :
      Effect release scheduler store state plan
        ⟨.error (.failed (.orchestrator step reason)), store, final, calls⟩
  /-- The operation was completed and then the write was made. -/
  | changed {operation : Operation} {session : Session} {group : Group} {call : StoreCall}
      {response : Response} {reply : call.Reply} {next : Store} {template : Template}
      {account : Account} {credential : Credential} {details : Job.Details} {final : σ}
      {calls : List JobsCall}
      (provides : store.Provides session group template account credential)
      (describes : details.Describes release session group.name (operation.count group)
        template account credential)
      (completes : scheduler.Completes operation details.render state final calls)
      (performed : store.perform call = (.ok reply, next)) :
      Effect release scheduler store state (.change operation session group call response)
        ⟨.ok response, next, final, calls⟩

section Acceptance

variable {store : Store} {group : Group}

theorem perform_insertGroup (holder : store.accounts.contains group.accountId)
    (free : store.groups.find? (group.accountId, group.name) = none) :
    store.perform (.insertGroup group) =
      (.ok (), { store with
        groups := store.groups.put (group.accountId, group.name) group }) := by
  refine store.perform_eq_ok.mpr ⟨store.requireAccount_eq_ok.mpr holder, ?_⟩
  simp [Store.commit, Store.addGroup, Table.contains, free]

theorem perform_upsertGroup (holder : store.accounts.contains group.accountId) :
    store.perform (.upsertGroup group) =
      (.ok (), { store with
        groups := store.groups.put (group.accountId, group.name)
          (Store.succeeding (store.groups.find? (group.accountId, group.name)) group) }) :=
  store.perform_eq_ok.mpr ⟨store.requireAccount_eq_ok.mpr holder, rfl⟩

theorem perform_deleteGroup {owner : AccountId} {name : String}
    (found : store.groups.find? (owner, name) = some group) :
    store.perform (.deleteGroup owner name) =
      (.ok (), { store with groups := store.groups.erase (owner, name) }) := by
  refine store.perform_eq_ok.mpr ⟨rfl, ?_⟩
  simp [Store.commit, Store.dropGroup, Table.contains, found]

variable {session : Session}

/-- An update of a group writes what it has made of the row: the row that is written over has
the identity and the time of creation already. -/
theorem perform_upsertGroup_of_found (keyed : store.Keyed) {name : String}
    (holder : store.accounts.contains session.accountId)
    (found : store.groups.find? (session.accountId, name) = some group) (change : GroupChange)
    (moment : Moment) :
    store.perform (.upsertGroup (change.apply moment.now group)) =
      (.ok (), Operation.update.leaves store session (change.apply moment.now group)) := by
  obtain ⟨owner, rfl⟩ := Prod.mk.inj (keyed.groups _ _ found)
  have held : store.accounts.contains (change.apply moment.now group).accountId :=
    owner.symm ▸ holder
  rw [← owner] at found
  rw [perform_upsertGroup held, Operation.leaves, ← owner]
  · exact congrArg (fun existing => (Except.ok (), { store with
      groups := store.groups.put (group.accountId, group.name)
        (Store.succeeding existing (change.apply moment.now group)) })) found
  · exact nofun

theorem perform_deleteGroup_of_found (keyed : store.Keyed) {name : String}
    (found : store.groups.find? (session.accountId, name) = some group) :
    store.perform (.deleteGroup session.accountId group.name) =
      (.ok (), Operation.delete.leaves store session group) := by
  obtain rfl : group.name = name := congrArg Prod.snd (keyed.groups _ _ found)
  exact perform_deleteGroup found

/-- Once the account of the session is known, the write after an operation is accepted and
puts the row of the group in place, or removes it. -/
theorem Plan.Arises.accepted {moment : Moment} {operation : Operation} {call : StoreCall}
    {response : Response}
    (arises : (Plan.change operation session group call response).Arises moment store)
    (keyed : store.Keyed) (holder : store.accounts.contains session.accountId) :
    ∃ reply, store.perform call = (.ok reply, operation.leaves store session group) := by
  cases arises with
  | createGroup _ draft name named sized free => exact ⟨_, perform_insertGroup holder free⟩
  | updateGroup _ change name old checked found =>
      exact ⟨_, perform_upsertGroup_of_found keyed holder found change moment⟩
  | deleteGroup _ name _ found => exact ⟨_, perform_deleteGroup_of_found keyed found⟩

theorem find?_leaves (operation : Operation) :
    (operation.leaves store session group).groups.find? (session.accountId, group.name) =
      if operation = .delete then none else some group := by
  cases operation with
  | submit | update => exact (Table.find?_put _ _ _ _).trans (if_pos rfl)
  | delete => exact (Table.find?_erase _ _ _).trans (if_pos rfl)

end Acceptance

variable {σ : Type} (scheduler : Scheduler σ) {store : Store} (state : σ)

/-- Carrying out a plan on a store with rows under their own keys ends in one of
the five ways. -/
theorem Plan.Arises.effect {moment : Moment} {plan : Plan} (arises : plan.Arises moment store)
    (keyed : store.Keyed) (release : String) :
    Effect release scheduler store state plan
      (Action.outcome scheduler store state (plan.handling release)) := by
  cases plan with
  | settle result => exact .settled result
  | write call response =>
      rw [outcome_write]
      rcases performed : store.perform call with ⟨failure | reply, next⟩
      · rw [store.perform_of_error performed]
        exact .denied _ failure
      · exact .wrote performed
  | change operation session group call response =>
      have ends := Operation.action_ends scheduler store state operation release session group
      generalize run : Action.outcome scheduler store state
        (operation.action release session group) = outcome at ends
      cases ends with
      | missing what =>
          rw [outcome_change_of_error scheduler store state release run]
          exact .denied _ _
      | refused step refusal calls =>
          rw [outcome_change_of_error scheduler store state release run]
          exact .stopped _ step refusal calls
      | completed provides describes completes =>
          -- The operation has found the account, so that the write is not refused.
          rw [outcome_change_of_ok scheduler store state release run]
          obtain ⟨reply, performed⟩ := arises.accepted keyed provides.holder
          rw [performed]
          exact .changed provides describes completes performed

end Http

end ServiceGroups
