import ServiceGroups.Proofs.Concurrency.Tolerance

/-!
# Tables that calls work on

A read finds the same in stores that have its table in common, and a write changes one
table.  Of reads of different tables, a write disturbs at most one.
-/

namespace ServiceGroups

/-- Calls that first read the store and then go to the scheduler. -/
def callsOf (reads : List StoreCall) (jobs : List JobsCall) : List Call :=
  reads.map Call.store ++ jobs.map Call.jobs

/-- The tables of a store. -/
inductive Store.Part where
  | accounts
  | credentials
  | templates
  | groups
deriving DecidableEq, Repr

/-- The table that a call works on. -/
def StoreCall.part : StoreCall → Store.Part
  | .upsertAccount _ | .account _ => .accounts
  | .upsertCredential _ | .credential _ => .credentials
  | .upsertTemplate _ | .template _ _ | .templates _ _ | .deleteTemplate _ _ => .templates
  | .insertGroup _ | .upsertGroup _ | .group _ _ | .groups _ _ | .deleteGroup _ _ => .groups

/-- The call finds rows and changes none. -/
def StoreCall.isRead : StoreCall → Bool
  | .account _ | .credential _ | .template _ _ | .templates _ _ | .group _ _ | .groups _ _ => true
  | _ => false

/-- The calls read, and no two of them the same table. -/
structure ReadsOnce (reads : List StoreCall) : Prop where
  areReads : ∀ call ∈ reads, call.isRead = true
  distinct : (reads.map StoreCall.part).Nodup

theorem ReadsOnce.sublist {reads fewer : List StoreCall} (once : ReadsOnce reads)
    (among : fewer.Sublist reads) : ReadsOnce fewer where
  areReads call member := once.areReads call (among.subset member)
  distinct := once.distinct.sublist (among.map _)

theorem readsOnce_single {call : StoreCall} (reads : call.isRead = true) : ReadsOnce [call] where
  areReads := by simpa using reads
  distinct := by simp

theorem readsOnce_nil : ReadsOnce [] where
  areReads := by simp
  distinct := List.nodup_nil

namespace Store

/-- The table is the same in both stores. -/
def SamePart (first second : Store) : Part → Prop
  | .accounts => first.accounts = second.accounts
  | .credentials => first.credentials = second.credentials
  | .templates => first.templates = second.templates
  | .groups => first.groups = second.groups

variable {store other : Store}

theorem perform_of_isRead {call : StoreCall} (reads : call.isRead = true) :
    (store.perform call).2 = store := by
  cases call with
  | account | credential | template | templates | group | groups => rfl
  | _ => cases reads

/-- A read finds the same where its table is the same. -/
theorem perform_of_samePart {call : StoreCall} (reads : call.isRead = true)
    (same : other.SamePart store call.part) :
    other.perform call = ((store.perform call).1, other) := by
  cases call with
  | account id =>
      have tables : other.accounts = store.accounts := same
      rw [perform_account, perform_account, tables]
  | credential id =>
      have tables : other.credentials = store.credentials := same
      rw [perform_credential, perform_credential, tables]
  | template owner id =>
      have tables : other.templates = store.templates := same
      rw [perform_template, perform_template, tables]
  | templates owner page =>
      have tables : other.templates = store.templates := same
      rw [perform_templates, perform_templates, templatesOf, templatesOf, tables]
  | group owner name =>
      have tables : other.groups = store.groups := same
      rw [perform_group, perform_group, tables]
  | groups owner page =>
      have tables : other.groups = store.groups := same
      rw [perform_groups, perform_groups, groupsOf, groupsOf, tables]
  | _ => cases reads

/-- A call changes at most the table that it works on. -/
theorem samePart_perform (call : StoreCall) {part : Part} (different : part ≠ call.part) :
    (store.perform call).2.SamePart store part := by
  rcases performed : store.perform call with ⟨failure | reply, next⟩
  · rw [store.perform_of_error performed]
    cases part <;> rfl
  · obtain ⟨checked, committed⟩ := store.perform_eq_ok.mp performed
    cases call with
    | upsertAccount account =>
        cases committed
        cases part <;> first | rfl | exact absurd rfl different
    | upsertCredential credential =>
        cases committed
        cases part <;> first | rfl | exact absurd rfl different
    | upsertTemplate template =>
        obtain ⟨rfl, _⟩ := store.putTemplate_eq_ok committed
        cases part <;> first | rfl | exact absurd rfl different
    | deleteTemplate owner id =>
        obtain ⟨rfl, _⟩ := store.dropTemplate_eq_ok committed
        cases part <;> first | rfl | exact absurd rfl different
    | insertGroup group =>
        obtain ⟨rfl, _⟩ := store.addGroup_eq_ok committed
        cases part <;> first | rfl | exact absurd rfl different
    | upsertGroup group =>
        cases committed
        cases part <;> first | rfl | exact absurd rfl different
    | deleteGroup owner name =>
        obtain ⟨rfl, _⟩ := store.dropGroup_eq_ok committed
        cases part <;> first | rfl | exact absurd rfl different
    | account | credential | template | templates | group | groups =>
        cases committed
        cases part <;> rfl

variable (store) in
theorem perform_of_templates {call : StoreCall} (works : call.part = .templates) :
    (store.perform call).2 =
      { store with templates := (store.perform call).2.templates } := by
  have same (part : Part) (different : part ≠ .templates) :
      (store.perform call).2.SamePart store part :=
    samePart_perform call (works ▸ different)
  have accounts := same .accounts (by decide)
  have credentials := same .credentials (by decide)
  have groups := same .groups (by decide)
  exact Store.ext accounts credentials rfl groups

variable (store) in
theorem perform_of_groups {call : StoreCall} (works : call.part = .groups) :
    (store.perform call).2 = { store with groups := (store.perform call).2.groups } := by
  have same (part : Part) (different : part ≠ .groups) :
      (store.perform call).2.SamePart store part :=
    samePart_perform call (works ▸ different)
  have accounts := same .accounts (by decide)
  have credentials := same .credentials (by decide)
  have templates := same .templates (by decide)
  exact Store.ext accounts credentials templates rfl

end Store

section Tolerance

variable {α : Type} {store : Store} {reads : List StoreCall} {jobs : List JobsCall}
  {ending last : Ending α} {more : List Call}

@[simp]
theorem jobsCalls_map_store : jobsCalls (reads.map Call.store) = [] := by
  have none : Call.jobs? ∘ Call.store = fun _ => none := rfl
  rw [jobsCalls, List.filterMap_map, none]
  simp

@[simp]
theorem jobsCalls_map_jobs : jobsCalls (jobs.map Call.jobs) = jobs := by
  have all : Call.jobs? ∘ Call.jobs = some := rfl
  rw [jobsCalls, List.filterMap_map, all, List.filterMap_some]

@[simp]
theorem jobsCalls_callsOf : jobsCalls (callsOf reads jobs) = jobs := by
  have split : jobsCalls (callsOf reads jobs) =
      jobsCalls (reads.map Call.store) ++ jobsCalls (jobs.map Call.jobs) :=
    List.filterMap_append
  rw [split, jobsCalls_map_store, jobsCalls_map_jobs, List.nil_append]

theorem callsOf_cons (read : StoreCall) :
    callsOf (read :: reads) jobs = .store read :: callsOf reads jobs :=
  rfl

theorem mem_callsOf {call : StoreCall} : Call.store call ∈ callsOf reads jobs ↔ call ∈ reads := by
  simp [callsOf]

/-- What follows a read is the later reads and the calls of the scheduler. -/
theorem suffix_callsOf {call : StoreCall} {rest : List Call}
    (inside : Call.store call :: rest <:+ callsOf reads jobs) :
    ∃ later, call :: later <:+ reads ∧ rest = callsOf later jobs := by
  induction reads with
  | nil =>
      have member := inside.subset List.mem_cons_self
      rw [mem_callsOf] at member
      cases member
  | cons first reads ih =>
      rcases List.suffix_cons_iff.mp inside with whole | shorter
      · cases whole
        exact ⟨reads, List.suffix_refl _, rfl⟩
      · obtain ⟨later, within, same⟩ := ih shorter
        exact ⟨later, within.trans (List.suffix_cons _ _), same⟩

/-- Reads that have the same answers after the other walk tolerate it. -/
theorem tolerates_of_undisturbed (undisturbed : ∀ call ∈ reads,
    (last.left store).perform call = ((store.perform call).1, last.left store)) :
    Tolerates store (callsOf reads jobs) ending more last := by
  intro call rest inside
  exact .inl (undisturbed call (mem_callsOf.mp (inside.subset List.mem_cons_self)))

/-- The reads other than that of the table that the other walk writes are not disturbed. -/
theorem answers_of_parts (areReads : ∀ call ∈ reads, call.isRead = true) (write : StoreCall)
    (apart : write.part ∉ reads.map StoreCall.part) :
    store.Answers (store.perform write).2 (callsOf reads jobs) := by
  intro call member
  have within := mem_callsOf.mp member
  have different : call.part ≠ write.part := by
    intro same
    exact apart (same ▸ List.mem_map_of_mem within)
  exact Store.perform_of_samePart (areReads call within) (Store.samePart_perform write different)

/-- Where each table is read at most once, at most one read is disturbed, and it is
tolerated if what follows it commutes with the other walk. -/
theorem tolerates_of_readsOnce (once : ReadsOnce reads)
    (commute : ∀ later, later <:+ reads → store.Answers (last.left store) (callsOf later jobs) →
      Commutes store (callsOf later jobs) ending more last) :
    Tolerates store (callsOf reads jobs) ending more last := by
  intro call rest inside
  obtain ⟨later, within, rfl⟩ := suffix_callsOf inside
  have given := once.sublist within.sublist
  obtain ⟨isRead, areReads⟩ := List.forall_mem_cons.mp given.areReads
  obtain ⟨fresh, -⟩ := List.nodup_cons.mp given.distinct
  cases last with
  | settles result =>
      refine .inl (Prod.ext rfl ?_)
      exact Store.perform_of_isRead isRead
  | writes write respond =>
      by_cases same : call.part = write.part
      · refine .inr (commute later ((List.suffix_cons _ _).trans within) ?_)
        exact answers_of_parts areReads write (same ▸ fresh)
      · exact .inl (Store.perform_of_samePart isRead (Store.samePart_perform write same))

end Tolerance

end ServiceGroups
