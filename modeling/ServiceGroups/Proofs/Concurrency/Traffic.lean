import ServiceGroups.Http.Service
import ServiceGroups.Proofs.Concurrency.Crowd
import ServiceGroups.Proofs.Concurrency.Interleaving
import ServiceGroups.Proofs.Obligation
import ServiceGroups.Proofs.Store.GroupRow

/-!
# Requests under way together

Any number of requests share a store and a scheduler and take turns, each of which is one
call.  A log keeps the calls of the store with their answers.  The store is what the calls
of the log make of the store at the start, so that what has happened to a row can be read
off the log.
-/

namespace ServiceGroups

variable {α σ : Type}

/-- A call of the store that was made in the turn of a program, and its answer. -/
structure Event where
  index : Nat
  call : StoreCall
  answer : Except Failure call.Reply

/-- What programs share, and what they have asked the store. -/
structure Scene (σ : Type) where
  store : Store
  state : σ
  log : List Event

/-- The event of a program's next call, if that is one of the store. -/
def Program.events (index : Nat) (store : Store) : Program α → List Event
  | .step (.store call) _ => [⟨index, call, (store.perform call).1⟩]
  | _ => []

def Program.takeTurn (scheduler : Scheduler σ) (index : Nat) (program : Program α)
    (scene : Scene σ) : Program α × Scene σ :=
  let progress := program.advance scheduler scene.store scene.state
  (progress.rest,
    ⟨progress.store, progress.state, scene.log ++ program.events index scene.store⟩)

/-- The events lead from one store to another. -/
inductive Recorded : Store → List Event → Store → Prop where
  | nothing (store : Store) : Recorded store [] store
  | event {store final : Store} {log : List Event} (index : Nat) (call : StoreCall)
      (rest : Recorded (store.perform call).2 log final) :
      Recorded store (⟨index, call, (store.perform call).1⟩ :: log) final

namespace Recorded

variable {start middle final : Store} {log more : List Event}

theorem append (recorded : Recorded start log middle) (others : Recorded middle more final) :
    Recorded start (log ++ more) final := by
  induction recorded with
  | nothing => exact others
  | event index call rest ih => exact .event index call (ih others)

theorem split (recorded : Recorded start (log ++ more) final) :
    ∃ middle, Recorded start log middle ∧ Recorded middle more final := by
  induction log generalizing start with
  | nil => exact ⟨start, .nothing start, recorded⟩
  | cons event log ih =>
      cases recorded with
      | event index call rest =>
          obtain ⟨middle, front, back⟩ := ih rest
          exact ⟨middle, .event index call front, back⟩

theorem of_cons {event : Event} (recorded : Recorded start (event :: log) final) :
    (start.perform event.call).1 = event.answer ∧
      Recorded (start.perform event.call).2 log final := by
  cases recorded with
  | event index call rest => exact ⟨rfl, rest⟩

/-- A row that is gone at the end was deleted. -/
theorem exists_deletion (recorded : Recorded start log final) {owner : AccountId}
    {name : String} {group : Group} (present : start.groups.find? (owner, name) = some group)
    (gone : final.groups.find? (owner, name) = none) :
    ∃ index, Event.mk index (.deleteGroup owner name) (.ok ()) ∈ log := by
  induction recorded generalizing group with
  | nothing => cases present.symm.trans gone
  | @event store final log index call rest ih =>
      have row := store.perform_groupRow call (owner, name)
      cases after : (store.perform call).2.groups.find? (owner, name) with
      | some next =>
          obtain ⟨other, member⟩ := ih after gone
          exact ⟨other, List.mem_cons_of_mem _ member⟩
      | none =>
          -- Of the changes of a row, only a deletion takes it away.
          rw [present, after] at row
          generalize (store.perform call).1 = answer at row
          cases row with
          | kept same => cases same
          | inserted spells free now => cases now
          | written spells now => cases now
          | deleted spells =>
              cases spells
              exact ⟨index, List.mem_cons_self⟩

/-- Between two insertions under a key that both succeed the row was deleted. -/
theorem exists_deletion_between {before between after : List Event} {first second : Nat}
    {earlier later : Group} {owner : AccountId} {name : String}
    (earlierSpells : (earlier.accountId, earlier.name) = (owner, name))
    (laterSpells : (later.accountId, later.name) = (owner, name))
    (recorded : Recorded start (before ++ ⟨first, .insertGroup earlier, .ok ()⟩ :: between ++
      ⟨second, .insertGroup later, .ok ()⟩ :: after) final) :
    ∃ index, Event.mk index (.deleteGroup owner name) (.ok ()) ∈ between := by
  obtain ⟨last, front, back⟩ := recorded.split
  obtain ⟨middle, -, inserting⟩ := front.split
  obtain ⟨inserted, meanwhile⟩ := inserting.of_cons
  obtain ⟨insertedLater, -⟩ := back.of_cons
  obtain ⟨-, present⟩ := middle.insertGroup_eq_ok inserted
  obtain ⟨gone, -⟩ := last.insertGroup_eq_ok insertedLater
  rw [earlierSpells] at present
  rw [laterSpells] at gone
  exact meanwhile.exists_deletion present gone

end Recorded

section Turns

variable {scheduler : Scheduler σ} {program : Program α} {scene : Scene σ} {index : Nat}

theorem recorded_takeTurn {start : Store} (recorded : Recorded start scene.log scene.store) :
    Recorded start (program.takeTurn scheduler index scene).2.log
      (program.takeTurn scheduler index scene).2.store := by
  refine recorded.append ?_
  cases program with
  | done result => exact .nothing scene.store
  | step call next =>
      cases call with
      | store call => exact .event index call (.nothing _)
      | jobs call => exact .nothing scene.store

theorem only_takeTurn {allowed : StoreCall → Prop} (only : program.Only allowed) :
    (program.takeTurn scheduler index scene).1.Only allowed := by
  cases program with
  | done result => exact only
  | step call next =>
      cases call with
      | store call => exact only.2 _
      | jobs call => exact only _

variable (scheduler scene index) in
/-- In its turn a program meets its goal, or the goal is still ahead. -/
theorem meets_takeTurn {goal : (call : StoreCall) → Except Failure call.Reply → Prop}
    {expected : α → Prop} (meets : program.Meets goal expected) :
    (∃ event ∈ (program.takeTurn scheduler index scene).2.log,
      event.index = index ∧ goal event.call event.answer) ∨
      (program.takeTurn scheduler index scene).1.Meets goal expected := by
  cases program with
  | done result => exact .inr meets
  | step call next =>
      cases call with
      | store call =>
          by_cases met : goal call (scene.store.perform call).1
          · exact .inl ⟨⟨index, call, _⟩, List.mem_append_right _ List.mem_cons_self, rfl, met⟩
          · exact .inr (meets _ met)
      | jobs call => exact .inr (meets _)

/-- The store after the turn of a program that makes a call of a kind, or no call. -/
theorem store_takeTurn {allowed : StoreCall → Prop} (only : program.Only allowed) :
    (program.takeTurn scheduler index scene).2.store = scene.store ∨
      ∃ call, allowed call ∧
        (program.takeTurn scheduler index scene).2.store = (scene.store.perform call).2 := by
  cases program with
  | done result => exact .inl rfl
  | step call next =>
      cases call with
      | store call => exact .inr ⟨call, only.1, rfl⟩
      | jobs call => exact .inl rfl

end Turns

end ServiceGroups
