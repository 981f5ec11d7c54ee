import ServiceGroups.Proofs.Concurrency.Parts
import ServiceGroups.Proofs.Concurrency.Traffic
import ServiceGroups.Proofs.Http.CleanErrors
import ServiceGroups.Proofs.Http.WellFormed

/-!
# Groups are created once

A request to create a group looks for the name long before it inserts the group, and a
request to change one writes back a copy of what it has loaded.  Whatever turns any number
of requests take, each group is nevertheless created once and keeps its identity: only an
insertion that finds no row can answer a creation with success, and a write leaves the
identity of the row that it finds.
-/

namespace ServiceGroups

/-- The call finds rows, or adds a group. -/
def StoreCall.ReadsOrInserts (call : StoreCall) : Prop :=
  call.isRead = true ∨ ∃ group, call = .insertGroup group

/-- The call has added a group under the key. -/
def StoreCall.Inserts (key : AccountId × String) :
    (call : StoreCall) → Except Failure call.Reply → Prop
  | .insertGroup row, .ok _ => (row.accountId, row.name) = key
  | _, _ => False

/-- A call that reads or inserts leaves every group that is there. -/
theorem Store.find?_of_readsOrInserts {store : Store} {call : StoreCall}
    (allowed : call.ReadsOrInserts) {key : AccountId × String} {group : Group}
    (found : store.groups.find? key = some group) :
    (store.perform call).2.groups.find? key = some group := by
  have row := store.perform_groupRow call key
  generalize (store.perform call).1 = answer at row
  rcases allowed with reads | ⟨added, rfl⟩
  · rw [perform_of_isRead reads, found]
  · cases row with
    | kept same => rw [same, found]
    | inserted spells free present => cases found.symm.trans free

/-- An operation on the job of a group only reads the store. -/
theorem Operation.action_only (operation : Operation) (release : String) (session : Session)
    (group : Group) : (operation.action release session group).Only (·.isRead = true) := by
  have lookUp (call : StoreCall) (reads : call.isRead = true) :
      (askStore call).Only (·.isRead = true) := .askStore reads
  have findTemplate : (Orchestrator.findTemplate session group).Only (·.isRead = true) :=
    (lookUp (.template session.accountId group.templateId) rfl).bind fun found =>
      .require _ found
  have jobDetails (template : Template) (group : Group) :
      (Orchestrator.jobDetails release session template group).Only (·.isRead = true) :=
    (lookUp (.account session.accountId) rfl).bind fun found =>
      (Action.Only.require _ found).bind fun account =>
        (lookUp (.credential account.id) rfl).bind fun found =>
          (Action.Only.require _ found).bind fun _ => .done _
  rw [action_eq]
  refine findTemplate.bind fun template => ?_
  have prepareJob (group : Group) :
      (Orchestrator.prepareJob release session template group).Only (·.isRead = true) :=
    (jobDetails template group).bind fun details => .step _ (.parse details.render)
  exact (prepareJob _).bind fun job => .follow (operation.stages job)

namespace Http

/-- The request asks that a group of the name be created for the account. -/
structure Service.Creates (service : Service) (request : Request) (owner : AccountId)
    (name : String) : Prop where
  method : request.method = "POST"
  route : service.route? request = some .groups
  account : requestAccount request.headers = .ok owner
  draft : ∃ draft, readBody GroupDraft request = .ok draft ∧ Text.trim draft.name = name

/-- The request is denied, or its task is the creation of the group. -/
theorem Service.Creates.task {service : Service} {request : Request} {owner : AccountId}
    {name : String} (creates : service.Creates request owner name) (moment : Moment) :
    (∃ denial, service.task moment request = .settled (.error denial)) ∨
      ∃ session draft, (session.accountId, Text.trim draft.name) = (owner, name) ∧
        service.task moment request = .createGroup session draft := by
  obtain ⟨draft, read, named⟩ := creates.draft
  have served : serves .groups request = true := by
    rw [serves, creates.method]
    rfl
  rw [Service.task, creates.route]
  simp only
  split
  · exact .inl ⟨_, rfl⟩
  · rw [Service.innerTask, if_pos served, Service.readTask, creates.method, read]
    cases reads : requestSession service.defaults request.headers with
    | error refusal => exact .inl ⟨_, rfl⟩
    | ok session =>
        have own := accountId_of_requestSession service.defaults creates.account reads
        exact .inr ⟨session, draft, by rw [own, named], rfl⟩

section Handlers

theorem denial_status_ne (denial : Denial) : (responseOf (.error denial)).status ≠ 201 := by
  intro created
  have failed : (responseOf (.error denial)).isSuccess = false := denial.response_isSuccess
  rw [Response.isSuccess, created] at failed
  cases failed

/-- The last part of a creation, once the name is known to be free. -/
def insertion (release : String) (session : Session) (group : Group) : Handling Response := do
  Handling.ofAction (Orchestrator.submit release session group)
  Handling.ask (.insertGroup group)
  return .json 201 (Json.encode group)

variable (release : String) (moment : Moment) (session : Session) (draft : GroupDraft)

theorem insertion_meets (group : Group) :
    (insertion release session group).Meets (StoreCall.Inserts (group.accountId, group.name))
      fun result => (responseOf result).status ≠ 201 := by
  refine .bind denial_status_ne fun _ => ⟨fun answer missed => ?_⟩
  cases answer with
  | error failure => exact denial_status_ne _
  | ok _ =>
      have met : StoreCall.Inserts (group.accountId, group.name) (.insertGroup group) (.ok ()) := rfl
      exact absurd met missed

theorem insertion_only (group : Group) :
    (insertion release session group).Only StoreCall.ReadsOrInserts := by
  have submits : (Orchestrator.submit release session group).Only StoreCall.ReadsOrInserts :=
    (Operation.submit.action_only release session group).mono fun _ reads => .inl reads
  refine (Action.Only.mapFailure _ submits).bind fun _ => ?_
  exact (Action.Only.mapFailure _ (.askStore (.inr ⟨group, rfl⟩))).bind fun _ => .done _

/-- The creation of a group succeeds only by an insertion. -/
theorem createGroup_meets :
    (createGroup release moment session draft).Meets
      (StoreCall.Inserts (session.accountId, Text.trim draft.name))
      fun result => (responseOf result).status ≠ 201 := by
  have meets := insertion_meets release session
    (draft.group moment session (Text.trim draft.name))
  refine .bind denial_status_ne fun _ => ?_
  refine .bind denial_status_ne fun _ => ?_
  refine .bind denial_status_ne fun existing => ?_
  split
  · exact .bind denial_status_ne fun _ => meets
  · exact meets

/-- The creation of a group makes no other writes than insertions. -/
theorem createGroup_only :
    (createGroup release moment session draft).Only StoreCall.ReadsOrInserts := by
  have only := insertion_only release session
    (draft.group moment session (Text.trim draft.name))
  refine (Action.Only.done _).bind fun _ => ?_
  refine (Action.Only.done _).bind fun _ => ?_
  refine (Action.Only.mapFailure _ (.askStore (.inl rfl))).bind fun existing => ?_
  split
  · exact (Action.Only.done _).bind fun _ => only
  · exact only

end Handlers

section Requests

variable {service : Service} {request : Request} {owner : AccountId} {name : String}

theorem Service.Creates.handle_meets (creates : service.Creates request owner name)
    (moment : Moment) :
    (service.handle moment request).Meets (StoreCall.Inserts (owner, name))
      fun response => response.status ≠ 201 := by
  have meets : ((service.task moment request).handling service.release moment).Meets
      (StoreCall.Inserts (owner, name)) fun result => (responseOf result).status ≠ 201 := by
    rcases creates.task moment with ⟨denial, asks⟩ | ⟨session, draft, key, asks⟩
    · rw [asks]
      exact ⟨denial_status_ne denial⟩
    · rw [asks, ← key]
      exact createGroup_meets service.release moment session draft
  rw [service.handle_eq, respond_eq]
  refine Program.Meets.bind (Program.Meets.bind ?_)
  simp only [Program.Meets, finish_status]
  exact meets.run

theorem Service.Creates.handle_only (creates : service.Creates request owner name)
    (moment : Moment) : (service.handle moment request).Only StoreCall.ReadsOrInserts := by
  have only : ((service.task moment request).handling service.release moment).Only
      StoreCall.ReadsOrInserts := by
    rcases creates.task moment with ⟨denial, asks⟩ | ⟨session, draft, -, asks⟩
    · rw [asks]
      exact .done _
    · rw [asks]
      exact createGroup_only service.release moment session draft
  rw [service.handle_eq, respond_eq]
  exact Program.Only.bind (Program.Only.bind only.run fun _ => trivial) fun _ => trivial

end Requests

/-- The program of a number has added a group under the key. -/
def Inserted (log : List Event) (index : Nat) (key : AccountId × String) : Prop :=
  ∃ group, (group.accountId, group.name) = key ∧
    Event.mk index (.insertGroup group) (.ok ()) ∈ log

/-- Two programs have each added a group of the name, and between the two additions a group
of the name was deleted. -/
def DeletedBetween (log : List Event) (owner : AccountId) (name : String) (first second : Nat) :
    Prop :=
  ∃ before between after earlier later,
    log = before ++ ⟨first, .insertGroup earlier, .ok ()⟩ :: between ++
      ⟨second, .insertGroup later, .ok ()⟩ :: after ∧
    (earlier.accountId, earlier.name) = (owner, name) ∧
    (later.accountId, later.name) = (owner, name) ∧
    ∃ index, Event.mk index (.deleteGroup owner name) (.ok ()) ∈ between

theorem inserted_of_event {log : List Event} {event : Event} {key : AccountId × String}
    (member : event ∈ log) (inserts : StoreCall.Inserts key event.call event.answer) :
    Inserted log event.index key := by
  obtain ⟨index, call, answer⟩ := event
  cases call with
  | insertGroup group =>
      cases answer with
      | ok _ => exact ⟨group, inserts, member⟩
      | error failure => cases inserts
  | _ => cases inserts

theorem Inserted.append {log : List Event} {index : Nat} {key : AccountId × String}
    (inserted : Inserted log index key) (more : List Event) : Inserted (log ++ more) index key := by
  obtain ⟨group, spells, member⟩ := inserted
  exact ⟨group, spells, List.mem_append_left more member⟩

/-- If two programs have each added a group of one name, one was deleted between. -/
theorem deletedBetween_of_inserted {start final : Store} {log : List Event}
    (recorded : Recorded start log final) {owner : AccountId} {name : String}
    {first second : Nat} (different : first ≠ second)
    (inserted : Inserted log first (owner, name))
    (insertedToo : Inserted log second (owner, name)) :
    DeletedBetween log owner name first second ∨ DeletedBetween log owner name second first := by
  obtain ⟨one, spells, member⟩ := inserted
  obtain ⟨other, spellsToo, memberToo⟩ := insertedToo
  obtain ⟨front, back, rfl⟩ := List.append_of_mem member
  -- The other insertion comes before the one or behind it.
  rcases List.mem_append.mp memberToo with before | behind
  · obtain ⟨start, between, rfl⟩ := List.append_of_mem before
    exact .inr ⟨start, between, back, other, one, rfl, spellsToo, spells,
      recorded.exists_deletion_between spellsToo spells⟩
  · rcases List.mem_cons.mp behind with same | behind
    · cases same
      exact absurd rfl different
    · obtain ⟨between, rest, rfl⟩ := List.append_of_mem behind
      have shape : front ++ ⟨first, .insertGroup one, .ok ()⟩ ::
          (between ++ ⟨second, .insertGroup other, .ok ()⟩ :: rest) =
            front ++ ⟨first, .insertGroup one, .ok ()⟩ :: between ++
              ⟨second, .insertGroup other, .ok ()⟩ :: rest := by
        rw [List.append_assoc, List.cons_append]
      exact .inl ⟨front, between, rest, one, other, shape, spells, spellsToo,
        (shape ▸ recorded).exists_deletion_between spells spellsToo⟩

section Traffic

variable {σ : Type} (service : Service) (scheduler : Scheduler σ) (store : Store) (state : σ)
variable (requests : List (Moment × Request))

/-- Requests under way together, after any turns. -/
def Service.underway (turns : List Nat) : Crowd (Program Response) (Scene σ) :=
  (Crowd.mk (requests.map fun sent => service.handle sent.1 sent.2) ⟨store, state, []⟩).run
    (Program.takeTurn scheduler) turns

/-- What is left of a creation only reads and inserts, and the creation has inserted its group
or cannot succeed before it does. -/
def Service.Fits (index : Nat) (program : Program Response) (scene : Scene σ) : Prop :=
  ∀ sent owner name, requests[index]? = some sent → service.Creates sent.2 owner name →
    program.Only StoreCall.ReadsOrInserts ∧
      (Inserted scene.log index (owner, name) ∨
        program.Meets (StoreCall.Inserts (owner, name)) fun response => response.status ≠ 201)

/-- The request of a number asks for the group of the name, and is answered with 201. -/
structure Service.Created (crowd : Crowd (Program Response) (Scene σ)) (owner : AccountId)
    (name : String) (index : Nat) : Prop where
  asked : ∃ sent, requests[index]? = some sent ∧ service.Creates sent.2 owner name
  answered : ∃ response, crowd.agents[index]? = some (.done response) ∧ response.status = 201

theorem Service.underway_holds (turns : List Nat) :
    (service.underway scheduler store state requests turns).Holds
      (fun scene => Recorded store scene.log scene.store) (service.Fits requests) := by
  refine Crowd.Holds.run ?_ ?_ ⟨.nothing store, ?_⟩ turns
  · intro index program scene recorded fits
    refine ⟨recorded_takeTurn recorded, fun sent owner name asked creates => ?_⟩
    obtain ⟨only, inserted | meets⟩ := fits sent owner name asked creates
    · exact ⟨only_takeTurn only, .inl (inserted.append _)⟩
    · refine ⟨only_takeTurn only, ?_⟩
      rcases meets_takeTurn scheduler scene index meets with
        ⟨event, member, same, inserts⟩ | later
      · have inserted := inserted_of_event member inserts
        rw [same] at inserted
        exact .inl inserted
      · exact .inr later
  · intro index program scene other bystander _ _ fits sent owner name asked creates
    obtain ⟨only, inserted | meets⟩ := fits sent owner name asked creates
    · exact ⟨only, .inl (inserted.append _)⟩
    · exact ⟨only, .inr meets⟩
  · intro index program found sent owner name asked creates
    rw [List.getElem?_map, asked] at found
    cases found
    exact ⟨creates.handle_only sent.1, .inr (creates.handle_meets sent.1)⟩

variable {service scheduler store state requests}

theorem Service.Created.inserted {turns : List Nat} {owner : AccountId} {name : String}
    {index : Nat} (created : service.Created requests
      (service.underway scheduler store state requests turns) owner name index) :
    Inserted (service.underway scheduler store state requests turns).shared.log index
      (owner, name) := by
  obtain ⟨sent, asked, creates⟩ := created.asked
  obtain ⟨response, found, success⟩ := created.answered
  have holds := service.underway_holds scheduler store state requests turns
  obtain ⟨-, inserted | meets⟩ := holds.agents index _ found sent owner name asked creates
  · exact inserted
  · exact absurd success meets

/-- A turn makes at most one call, of a kind that the program makes. -/
theorem Service.store_underway_concat {allowed : StoreCall → Prop} {turns : List Nat}
    {index : Nat} (only : ∀ program,
      (service.underway scheduler store state requests turns).agents[index]? = some program →
        program.Only allowed) :
    let before := (service.underway scheduler store state requests turns).shared.store
    let after := (service.underway scheduler store state requests (turns ++ [index])).shared.store
    after = before ∨ ∃ call, allowed call ∧ after = (before.perform call).2 := by
  intro before after
  have moved : service.underway scheduler store state requests (turns ++ [index]) =
      (service.underway scheduler store state requests turns).turn (Program.takeTurn scheduler)
        index := Crowd.run_concat turns index
  simp only [before, after, moved]
  cases present : (service.underway scheduler store state requests turns).agents[index]? with
  | none => exact .inl (by rw [Crowd.turn_of_none present])
  | some program =>
      rw [Crowd.turn_of_some present]
      exact store_takeTurn (only program present)

/-- The turn of a creation leaves every group that is there. -/
theorem Service.find?_of_creation {turns : List Nat} {index : Nat} {sent : Moment × Request}
    {owner : AccountId} {name : String} (asked : requests[index]? = some sent)
    (creates : service.Creates sent.2 owner name) {key : AccountId × String} {group : Group}
    (found : (service.underway scheduler store state requests turns).shared.store.groups.find? key =
      some group) :
    (service.underway scheduler store state requests
      (turns ++ [index])).shared.store.groups.find? key = some group := by
  have holds := service.underway_holds scheduler store state requests turns
  have only (program : Program Response) (present : (service.underway scheduler store state
      requests turns).agents[index]? = some program) : program.Only StoreCall.ReadsOrInserts :=
    (holds.agents index program present sent owner name asked creates).1
  rcases Service.store_underway_concat only with same | ⟨call, allowed, made⟩
  · rw [same, found]
  · rw [made]
    exact Store.find?_of_readsOrInserts allowed found

/-- A group that is there after each of some turns keeps its identity. -/
theorem Service.keeps_identity {turns more : List Nat} {key : AccountId × String}
    {old new : Group}
    (found : (service.underway scheduler store state requests turns).shared.store.groups.find? key =
      some old)
    (stays : ∀ during, during <+: more → ((service.underway scheduler store state requests
      (turns ++ during)).shared.store.groups.find? key).isSome)
    (present : (service.underway scheduler store state requests
      (turns ++ more)).shared.store.groups.find? key = some new) :
    new.id = old.id ∧ new.createdAt = old.createdAt := by
  induction more generalizing turns old with
  | nil =>
      rw [List.append_nil, found] at present
      cases present
      exact ⟨rfl, rfl⟩
  | cons index more ih =>
      obtain ⟨next, after⟩ := Option.isSome_iff_exists.mp
        (stays [index] (List.prefix_append [index] more))
      have step : next.id = old.id ∧ next.createdAt = old.createdAt := by
        rcases Service.store_underway_concat fun program _ =>
          program.only_of_forall fun _ => trivial with same | ⟨call, -, made⟩
        · rw [same, found] at after
          cases after
          exact ⟨rfl, rfl⟩
        · rw [made] at after
          exact (Store.perform_groupRow _ call key).keeps_identity found after
      rw [List.append_cons] at present
      have rest := ih after (fun during front => ?_) present
      · exact ⟨rest.1.trans step.1, rest.2.trans step.2⟩
      · rw [← List.append_cons]
        exact stays (index :: during) (List.cons_prefix_cons.mpr ⟨rfl, front⟩)

variable (service scheduler store state requests)

/-- Whatever turns any number of requests take, from any store and with any behaviour of the
scheduler: if two creations of a group of one name are both answered with 201, a group of the
name was deleted between their insertions; the turn of a creation leaves every group as it
is; and a group keeps its identity and its time of creation as long as it is there. -/
theorem Service.groups_are_created_once :
    (∀ turns owner name first second, first ≠ second →
      let crowd := service.underway scheduler store state requests turns
      service.Created requests crowd owner name first →
      service.Created requests crowd owner name second →
      DeletedBetween crowd.shared.log owner name first second ∨
        DeletedBetween crowd.shared.log owner name second first) ∧
    (∀ turns index sent owner name key group, requests[index]? = some sent →
      service.Creates sent.2 owner name →
      (service.underway scheduler store state requests turns).shared.store.groups.find? key =
        some group →
      (service.underway scheduler store state requests
        (turns ++ [index])).shared.store.groups.find? key = some group) ∧
    ∀ turns more key old new,
      (service.underway scheduler store state requests turns).shared.store.groups.find? key =
        some old →
      (∀ during, during <+: more → ((service.underway scheduler store state requests
        (turns ++ during)).shared.store.groups.find? key).isSome) →
      (service.underway scheduler store state requests
        (turns ++ more)).shared.store.groups.find? key = some new →
      new.id = old.id ∧ new.createdAt = old.createdAt := by
  refine ⟨?_, ?_, ?_⟩
  · intro turns owner name first second different crowd created createdToo
    have recorded := (service.underway_holds scheduler store state requests turns).shared
    exact deletedBetween_of_inserted recorded different created.inserted createdToo.inserted
  · intro turns index sent owner name key group asked creates found
    exact find?_of_creation asked creates found
  · intro turns more key old new found stays present
    exact keeps_identity found stays present

end Traffic

namespace Sample

/-- The first tenant makes a group, deletes it and makes it again. -/
def threeRequests : List (Moment × Request) :=
  [(moment 8, groupRequest), (moment 9, groupDeletion), (moment 10, groupRequest)]

/-- The second creation is about to insert its group when the first has inserted its own. -/
def lateTurns : List Nat :=
  List.replicate 8 2 ++ List.replicate 9 0

def three (turns : List Nat) : Crowd (Program Response) (Scene Unit) :=
  service.underway granting withTemplate () threeRequests turns

/-- The status of the response of a program that is over. -/
def statusOf? : Program Response → Option Nat
  | .done response => some response.status
  | .step _ _ => none

theorem creates_web : service.Creates groupRequest ⟨⟨1⟩⟩ "web" where
  method := rfl
  route := by decide +kernel
  account := by decide +kernel
  draft := ⟨⟨"web", ⟨7⟩, 1⟩, by decide +kernel, by decide +kernel⟩

theorem created_of_status {turns : List Nat} {index : Nat} {sent : Moment × Request}
    (asked : threeRequests[index]? = some sent) (same : sent.2 = groupRequest)
    (success : ((three turns).agents.map statusOf?)[index]? = some (some 201)) :
    service.Created threeRequests (three turns) ⟨⟨1⟩⟩ "web" index := by
  refine ⟨⟨sent, asked, same ▸ creates_web⟩, ?_⟩
  rw [List.getElem?_map] at success
  obtain ⟨program, found, status⟩ := Option.map_eq_some_iff.mp success
  cases program with
  | done response => exact ⟨response, found, Option.some.inj status⟩
  | step call next => cases status

def row (turns : List Nat) : Option Group :=
  (three turns).shared.store.groups.find? (⟨⟨1⟩⟩, "web")

/-- The group is deleted before the second creation inserts its own. -/
def turnsWithDeletion : List Nat :=
  lateTurns ++ List.replicate 11 1 ++ [2]

theorem statuses_with_deletion :
    (three turnsWithDeletion).agents.map statusOf? = [some 201, some 204, some 201] := by
  decide +kernel

theorem row_lateTurns : row lateTurns = some web := by
  decide +kernel

theorem row_stays (during : List Nat) (front : during <+: [1]) :
    (row (lateTurns ++ during)).isSome := by
  rcases List.prefix_cons_iff.mp front with rfl | ⟨rest, rfl, nothing⟩
  · rw [List.append_nil, row_lateTurns]
    rfl
  · rw [List.prefix_nil.mp nothing]
    decide +kernel

end Sample

open Sample in
/-- A group that has been deleted can be created again, but an insertion under the name of one
that is there leaves it, and the deletion of a group does not change it before it removes it. -/
theorem group_is_created_again_once_deleted :
    service.Created threeRequests (three turnsWithDeletion) ⟨⟨1⟩⟩ "web" 0 ∧
      service.Created threeRequests (three turnsWithDeletion) ⟨⟨1⟩⟩ "web" 2 ∧
      (DeletedBetween (three turnsWithDeletion).shared.log ⟨⟨1⟩⟩ "web" 0 2 ∨
        DeletedBetween (three turnsWithDeletion).shared.log ⟨⟨1⟩⟩ "web" 2 0) ∧
      row lateTurns = some web ∧ row (lateTurns ++ [2]) = some web ∧
      ∀ new, row (lateTurns ++ [1]) = some new → new.id = web.id := by
  have created : service.Created threeRequests (three turnsWithDeletion) ⟨⟨1⟩⟩ "web" 0 :=
    created_of_status rfl rfl (by rw [statuses_with_deletion]; rfl)
  have createdToo : service.Created threeRequests (three turnsWithDeletion) ⟨⟨1⟩⟩ "web" 2 :=
    created_of_status rfl rfl (by rw [statuses_with_deletion]; rfl)
  obtain ⟨apart, leaves, keeps⟩ :=
    Service.groups_are_created_once service granting withTemplate () threeRequests
  refine ⟨created, createdToo, apart _ _ _ 0 2 (by decide) created createdToo, row_lateTurns,
    leaves lateTurns 2 _ _ _ _ _ rfl creates_web row_lateTurns, fun new present => ?_⟩
  exact (keeps lateTurns [1] _ web new row_lateTurns row_stays present).1

end Http

end ServiceGroups
