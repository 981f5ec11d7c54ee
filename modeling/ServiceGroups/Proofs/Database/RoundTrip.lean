import ServiceGroups.Http.Draft
import ServiceGroups.Proofs.Database.Rows
import ServiceGroups.Proofs.Except

/-!
# What is bound is read back

A write binds its values in the order of the columns it names, and every selection lists all
columns of its table, so that whatever selection a written row fits gives the record back.  On
the way numbers are never changed: a number that does not fit its column or its bound is refused
before a statement is sent, and a capacity below zero is refused where it is read.
-/

namespace ServiceGroups

namespace Database

namespace Request

/-- The table and the row that a request writes: its values under the columns it names, one for
each. -/
def written? (request : Request) : Option (String × Row) :=
  match request.statement with
  | .insert table columns _ =>
    if columns.length = request.values.length then some (table, columns.zip request.values)
    else none
  | _ => none

/-- What a request gives of a row of a table, if it selects the row: the columns it lists.  It has
a value for each column it compares, and two more for a page. -/
def selected? (request : Request) (table : String) (row : Row) : Option Row :=
  match request.statement with
  | .select name columns equal _ isPaged =>
    if name = table ∧ request.values.length = equal.length + (if isPaged then 2 else 0) ∧
      Row.fits (equal.zip request.values) row = true then some (row.project columns)
    else none
  | _ => none

/-- The values that a request binds for its limit and its offset. -/
def page? (request : Request) : Option (List Datum) :=
  match request.statement with
  | .select _ _ equal _ true => some (request.values.drop equal.length)
  | _ => none

end Request

/-- The calls that read an account back. -/
def readsAccount (account : Account) : StoreCall → Prop
  | .account id => id = account.id
  | _ => False

def readsCredential (credential : Credential) : StoreCall → Prop
  | .credential id => id = credential.accountId
  | _ => False

/-- The calls that read a template back: by its identity, or in a listing. -/
def readsTemplate (template : Template) : StoreCall → Prop
  | .template owner id => owner = template.accountId ∧ id = template.id
  | .templates owner page => owner = template.accountId ∧ page.offset.toNat < Nat.pow 2 63
  | _ => False

/-- The calls that read a group back: by its name, or in a listing. -/
def readsGroup (group : Group) : StoreCall → Prop
  | .group owner name => owner = group.accountId ∧ name = group.name
  | .groups owner page => owner = group.accountId ∧ page.offset.toNat < Nat.pow 2 63
  | _ => False

/-- The write sends a row.  The calls that are meant to read it select it, and whatever a call
selects of it is read as the value. -/
def ReadsBack {α : Type} (write : StoreCall) (reads : StoreCall → Prop)
    (ofRow : Row → Except Failure α) (value : α) : Prop :=
  ∃ request table row, requestFor write = .ok request ∧ request.written? = some (table, row) ∧
    (∀ read, reads read → ∃ asked given, requestFor read = .ok asked ∧
      asked.selected? table row = some given) ∧
    ∀ read asked given, requestFor read = .ok asked →
      asked.selected? table row = some given → ofRow given = .ok value

/-- The write binds the capacity unchanged if the capacity is accepted in requests, and is
otherwise refused with nothing sent. -/
structure BindsCapacity (write : StoreCall) (capacity : UInt32) : Prop where
  accepted : Http.checkCapacity capacity = .ok () →
    ∃ request table row, requestFor write = .ok request ∧
      request.written? = some (table, row) ∧
      row.lookup "capacity" = some (.integer capacity.toNat) ∧
      (Datum.integer capacity.toNat).isStorable = true
  refused : Http.checkCapacity capacity ≠ .ok () →
    ∃ detail, ∀ connection, perform connection write = (.error (.invalidInput detail), connection)

/-- The listing binds the limit, cut at a thousand, and the offset unchanged if it fits,
and is otherwise refused with nothing sent. -/
structure BindsPage (list : StoreCall) (page : Page) : Prop where
  accepted : page.offset.toNat < Nat.pow 2 63 →
    ∃ request, requestFor list = .ok request ∧
      request.page? = some [.long (min page.limit.toNat 1000 : Nat),
        .long page.offset.toNat] ∧
      (Datum.long (min page.limit.toNat 1000 : Nat)).isStorable = true ∧
      (Datum.long page.offset.toNat).isStorable = true
  refused : Nat.pow 2 63 ≤ page.offset.toNat →
    ∃ detail, ∀ connection, perform connection list = (.error (.invalidInput detail), connection)

section Sending

variable {call : StoreCall} {failure : Failure} {request : Request}

theorem perform_of_refused (refused : requestFor call = .error failure)
    (connection : Connection) : perform connection call = (.error failure, connection) := by
  rw [perform, refused]

theorem perform_of_requestFor (asks : requestFor call = .ok request) (connection : Connection) :
    perform connection call =
      (replyOf call (connection.send request).1, (connection.send request).2) := by
  rw [perform, asks]

theorem sent_send (connection : Connection) (request : Request) :
    (connection.send request).2.sent = connection.sent ++ [request] := by
  rw [Connection.send]
  split <;> rfl

/-- A call that binds values sends its request and nothing else, and it replies with what the
answer of the database comes to. -/
structure SendsOnce (call : StoreCall) (request : Request) (connection : Connection) : Prop where
  sent : (perform connection call).2.sent = connection.sent ++ [request]
  replies : perform connection call =
    (replyOf call (connection.send request).1, (connection.send request).2)

theorem sendsOnce (asks : requestFor call = .ok request) (connection : Connection) :
    SendsOnce call request connection where
  sent := by rw [perform_of_requestFor asks, sent_send]
  replies := perform_of_requestFor asks connection

end Sending

section Selections

/-- Every selection lists all columns of its table. -/
theorem columns_of_requestFor {read : StoreCall} {asked : Request}
    (asks : requestFor read = .ok asked) {name : String} {columns equal order : List String}
    {isPaged : Bool} (statement : asked.statement = .select name columns equal order isPaged) :
    columns = (columnsOf name).map Column.name := by
  cases read with
  | account | credential | template | group =>
      cases asks
      cases statement
      decide
  | templates owner page | groups owner page =>
      simp only [requestFor, bind, Except.bind] at asks
      split at asks
      · cases asks
      · cases asks
        cases statement
        decide
  | upsertAccount | upsertCredential | upsertTemplate | deleteTemplate | deleteGroup =>
      cases asks
      cases statement
  | insertGroup | upsertGroup =>
      simp only [requestFor, bind, Except.bind] at asks
      split at asks
      · cases asks
      · cases asks
        cases statement

/-- What a call selects of a row are all columns of the table. -/
theorem eq_project_of_selected {read : StoreCall} {asked : Request} {table : String}
    {row given : Row} (asks : requestFor read = .ok asked)
    (selected : asked.selected? table row = some given) :
    given = row.project ((columnsOf table).map Column.name) := by
  unfold Request.selected? at selected
  split at selected
  · next name columns equal order isPaged statement =>
      obtain ⟨⟨same, -⟩, projected⟩ := Option.ite_none_right_eq_some.mp selected
      rw [← Option.some.inj projected, columns_of_requestFor asks statement, same]
  · cases selected

theorem columns_of_tables :
    (columnsOf "tsg_accounts").map Column.name = accountColumns ∧
      (columnsOf "tsg_triton_credentials").map Column.name = credentialColumns ∧
      (columnsOf "tsg_templates").map Column.name = templateColumns ∧
      (columnsOf "tsg_groups").map Column.name = groupColumns := by
  decide

end Selections

section Pages

theorem pageValues_of_fitting {page : Page} (fits : page.offset.toNat < Nat.pow 2 63) :
    pageValues page = .ok [.long (min page.limit.toNat 1000 : Nat),
      .long page.offset.toNat] := by
  have cut : min (page.limit.toNat : Int) (maxPage : Nat) = (min page.limit.toNat 1000 : Nat) := by
    simp only [maxPage]
    omega
  rw [pageValues, if_pos fits, cut]

theorem requestFor_listing (owner : AccountId) {page : Page}
    (fits : page.offset.toNat < Nat.pow 2 63) :
    requestFor (.templates owner page) = .ok ⟨selectTemplates, [.uuid owner.uuid,
        .long (min page.limit.toNat 1000 : Nat), .long page.offset.toNat]⟩ ∧
      requestFor (.groups owner page) = .ok ⟨selectGroups, [.uuid owner.uuid,
        .long (min page.limit.toNat 1000 : Nat), .long page.offset.toNat]⟩ := by
  simp only [requestFor, pageValues_of_fitting fits]
  exact ⟨rfl, rfl⟩

theorem bindsPage (owner : AccountId) (page : Page) :
    BindsPage (.templates owner page) page ∧ BindsPage (.groups owner page) page := by
  have storable (fits : page.offset.toNat < Nat.pow 2 63) :
      (Datum.long (min page.limit.toNat 1000 : Nat)).isStorable = true ∧
        (Datum.long page.offset.toNat).isStorable = true := by
    have bound : Nat.pow 2 63 = 9223372036854775808 := rfl
    simp only [Datum.isStorable, decide_eq_true_eq, bound] at fits ⊢
    omega
  have unsent (large : Nat.pow 2 63 ≤ page.offset.toNat) :
      pageValues page = .error (.invalidInput
        ("offset out of range: " ++ Text.decimalText page.offset.toNat)) :=
    if_neg (Nat.not_lt.mpr large)
  constructor
  · exact
      { accepted := fun fits => ⟨_, (requestFor_listing owner fits).1, rfl, storable fits⟩
        refused := fun large => ⟨_, perform_of_refused (by rw [requestFor, unsent large]; rfl)⟩ }
  · exact
      { accepted := fun fits => ⟨_, (requestFor_listing owner fits).2, rfl, storable fits⟩
        refused := fun large => ⟨_, perform_of_refused (by rw [requestFor, unsent large]; rfl)⟩ }

end Pages

section Records

/-- A row that has all columns of its table, and from which the value is read, is given back whole
by whatever selects it. -/
theorem readsBack_of_whole {α : Type} {write : StoreCall} {reads : StoreCall → Prop}
    {ofRow : Row → Except Failure α} {value : α} {request : Request} {table : String} {row : Row}
    (whole : row.project ((columnsOf table).map Column.name) = row)
    (read : ofRow row = .ok value) (asks : requestFor write = .ok request)
    (written : request.written? = some (table, row))
    (selects : ∀ read, reads read → ∃ asked given, requestFor read = .ok asked ∧
      asked.selected? table row = some given) :
    ReadsBack write reads ofRow value := by
  refine ⟨request, table, row, asks, written, selects, ?_⟩
  intro _ asked given asks selected
  rw [eq_project_of_selected asks selected, whole, read]

theorem account_readsBack (account : Account) :
    ReadsBack (.upsertAccount account) (readsAccount account) accountOfRow account := by
  have whole : (accountRow account).project ((columnsOf "tsg_accounts").map Column.name) =
      accountRow account := by
    rw [columns_of_tables.1, project_accountRow]
  refine readsBack_of_whole whole (accountOfRow_accountRow account) rfl rfl fun read reads => ?_
  cases read with
  | account id =>
      obtain rfl : id = account.id := reads
      exact ⟨_, _, rfl, if_pos ⟨rfl, rfl, by simpa using fits_accountRow account.id account⟩⟩
  | _ => exact reads.elim

theorem credential_readsBack (credential : Credential) :
    ReadsBack (.upsertCredential credential) (readsCredential credential) credentialOfRow
      credential := by
  have whole : (credentialRow credential).project
      ((columnsOf "tsg_triton_credentials").map Column.name) = credentialRow credential := by
    rw [columns_of_tables.2.1, project_credentialRow]
  refine readsBack_of_whole whole (credentialOfRow_credentialRow credential) rfl rfl
    fun read reads => ?_
  cases read with
  | credential id =>
      obtain rfl : id = credential.accountId := reads
      exact ⟨_, _, rfl,
        if_pos ⟨rfl, rfl, by simpa using fits_credentialRow credential.accountId credential⟩⟩
  | _ => exact reads.elim

theorem template_readsBack (template : Template) :
    ReadsBack (.upsertTemplate template) (readsTemplate template) templateOfRow template := by
  have whole : (templateRow template).project ((columnsOf "tsg_templates").map Column.name) =
      templateRow template := by
    rw [columns_of_tables.2.2.1, project_templateRow]
  refine readsBack_of_whole whole (templateOfRow_templateRow template) rfl rfl
    fun read reads => ?_
  cases read with
  | template owner id =>
      obtain ⟨rfl, rfl⟩ := reads
      exact ⟨_, _, rfl, if_pos ⟨rfl, rfl, by
        simpa using fits_templateRow template.accountId template.id template⟩⟩
  | templates owner page =>
      obtain ⟨rfl, fits⟩ := reads
      exact ⟨_, _, (requestFor_listing template.accountId fits).1,
        if_pos ⟨rfl, rfl, by simpa using fits_templateRow_owner template.accountId template⟩⟩
  | _ => exact reads.elim

variable {group : Group}

theorem storedCapacity_eq_ok (fits : group.capacity.toNat ≤ Group.maxCapacity) :
    storedCapacity group = .ok (group.capacity.toNat : Int) :=
  if_pos (Nat.lt_succ_of_le fits)

/-- A write of a group whose capacity fits sends its row. -/
theorem exists_written_group (fits : group.capacity.toNat ≤ Group.maxCapacity)
    {write : StoreCall} (writes : write = .insertGroup group ∨ write = .upsertGroup group) :
    ∃ request, requestFor write = .ok request ∧
      request.written? = some ("tsg_groups", groupRow group) := by
  rcases writes with rfl | rfl
  · exact ⟨_, by rw [requestFor, storedCapacity_eq_ok fits]; rfl, rfl⟩
  · exact ⟨_, by rw [requestFor, storedCapacity_eq_ok fits]; rfl, rfl⟩

theorem group_readsBack (fits : group.capacity.toNat ≤ Group.maxCapacity)
    {write : StoreCall} (writes : write = .insertGroup group ∨ write = .upsertGroup group) :
    ReadsBack write (readsGroup group) groupOfRow group := by
  obtain ⟨request, asks, written⟩ := exists_written_group fits writes
  have whole : (groupRow group).project ((columnsOf "tsg_groups").map Column.name) =
      groupRow group := by
    rw [columns_of_tables.2.2.2, project_groupRow]
  refine readsBack_of_whole whole (groupOfRow_groupRow group) asks written fun read reads => ?_
  cases read with
  | group owner name =>
      obtain ⟨rfl, rfl⟩ := reads
      exact ⟨_, _, rfl,
        if_pos ⟨rfl, rfl, by simpa using fits_groupRow group.accountId group.name group⟩⟩
  | groups owner page =>
      obtain ⟨rfl, small⟩ := reads
      exact ⟨_, _, (requestFor_listing group.accountId small).2,
        if_pos ⟨rfl, rfl, by simpa using fits_groupRow_owner group.accountId group⟩⟩
  | _ => exact reads.elim

theorem checkCapacity_eq_ok {capacity : UInt32} :
    Http.checkCapacity capacity = .ok () ↔ capacity.toNat ≤ Group.maxCapacity := by
  unfold Http.checkCapacity
  split
  · next small => exact iff_of_true rfl small
  · next large => exact iff_of_false nofun large

theorem bindsCapacity {write : StoreCall}
    (writes : write = .insertGroup group ∨ write = .upsertGroup group) :
    BindsCapacity write group.capacity where
  accepted checked := by
    have fits := checkCapacity_eq_ok.mp checked
    obtain ⟨request, asks, written⟩ := exists_written_group fits writes
    refine ⟨request, "tsg_groups", groupRow group, asks, written, rfl, ?_⟩
    have bound : Nat.pow 2 31 = 2147483648 := rfl
    have largest : Group.maxCapacity = 2147483647 := rfl
    simp only [Datum.isStorable, decide_eq_true_eq, bound]
    omega
  refused unchecked := by
    have large : ¬ group.capacity.toNat < Nat.pow 2 31 := fun small =>
      unchecked (checkCapacity_eq_ok.mpr (Nat.le_of_lt_succ small))
    have unsent : storedCapacity group = .error (.invalidInput
        ("capacity too large: " ++ Text.decimalText group.capacity.toNat)) := if_neg large
    rcases writes with rfl | rfl
    · exact ⟨_, perform_of_refused (by rw [requestFor, unsent]; rfl)⟩
    · exact ⟨_, perform_of_refused (by rw [requestFor, unsent]; rfl)⟩

end Records

section Capacities

variable {row : Row} {stored : Int}

/-- A group is read with a capacity that its row holds. -/
theorem exists_capacity_of_groupOfRow {group : Group} (read : groupOfRow row = .ok group) :
    ∃ stored, row.integer "capacity" = .ok stored ∧ capacityOf stored = .ok group.capacity := by
  obtain ⟨stored, held, read⟩ := exists_of_bind_eq_ok read
  obtain ⟨capacity, accepted, read⟩ := exists_of_bind_eq_ok read
  obtain ⟨id, -, read⟩ := exists_of_bind_eq_ok read
  obtain ⟨owner, -, read⟩ := exists_of_bind_eq_ok read
  obtain ⟨name, -, read⟩ := exists_of_bind_eq_ok read
  obtain ⟨template, -, read⟩ := exists_of_bind_eq_ok read
  obtain ⟨createdAt, -, read⟩ := exists_of_bind_eq_ok read
  obtain ⟨updatedAt, -, read⟩ := exists_of_bind_eq_ok read
  cases read
  exact ⟨stored, held, accepted⟩

variable (held : row.lookup "capacity" = some (.integer stored))

include held

theorem integer_of_lookup : row.integer "capacity" = .ok stored := by
  rw [Row.integer, Row.column, held, Option.bind_some]

/-- A capacity below zero is refused, whatever else the row holds. -/
theorem groupOfRow_of_negative (negative : stored < 0) :
    ∃ detail, groupOfRow row = .error (.backendMessage detail) := by
  rw [groupOfRow, integer_of_lookup held]
  simp only [bind, Except.bind, capacityOf, if_neg (Int.not_le.mpr negative)]
  exact ⟨_, rfl⟩

/-- A capacity that is read is the one that is stored. -/
theorem capacity_of_groupOfRow (storable : (Datum.integer stored).isStorable = true)
    {group : Group} (read : groupOfRow row = .ok group) :
    (group.capacity.toNat : Int) = stored := by
  have natural : 0 ≤ stored := by
    refine Int.not_lt.mp fun negative => ?_
    obtain ⟨detail, refused⟩ := groupOfRow_of_negative held negative
    rw [refused] at read
    cases read
  have kept : group.capacity = UInt32.ofNat stored.toNat := by
    obtain ⟨other, given, accepted⟩ := exists_capacity_of_groupOfRow read
    cases given.symm.trans (integer_of_lookup held)
    rw [capacityOf, if_pos natural] at accepted
    exact (Except.ok.inj accepted).symm
  have bound : Nat.pow 2 31 = 2147483648 := rfl
  simp only [Datum.isStorable, decide_eq_true_eq, bound] at storable
  rw [kept, UInt32.toNat_ofNat_of_lt' (by simp only [UInt32.size]; omega)]
  exact Int.toNat_of_nonneg natural

end Capacities

/-- Every call sends the request that its values are bound in.  Records are read back from the
rows that are bound for them, by every selection; capacities, limits and offsets are bound and
read unchanged, or refused. -/
theorem bound_values_are_read_back :
    (∀ call request, requestFor call = .ok request →
      ∀ connection, SendsOnce call request connection) ∧
      (∀ account, ReadsBack (.upsertAccount account) (readsAccount account) accountOfRow
        account) ∧
      (∀ credential, ReadsBack (.upsertCredential credential) (readsCredential credential)
        credentialOfRow credential) ∧
      (∀ template, ReadsBack (.upsertTemplate template) (readsTemplate template) templateOfRow
        template) ∧
      (∀ group write, write = .insertGroup group ∨ write = .upsertGroup group →
        BindsCapacity write group.capacity ∧
          (group.capacity.toNat < Nat.pow 2 31 →
            ReadsBack write (readsGroup group) groupOfRow group)) ∧
      (∀ (row : Row) stored, row.lookup "capacity" = some (.integer stored) →
        (stored < 0 → ∃ detail, groupOfRow row = .error (.backendMessage detail)) ∧
          ((Datum.integer stored).isStorable = true → ∀ group, groupOfRow row = .ok group →
            (group.capacity.toNat : Int) = stored)) ∧
      ∀ owner page, BindsPage (.templates owner page) page ∧ BindsPage (.groups owner page) page :=
  ⟨fun _ _ => sendsOnce, account_readsBack, credential_readsBack, template_readsBack,
    fun _ _ writes => ⟨bindsCapacity writes,
      fun small => group_readsBack (Nat.le_of_lt_succ small) writes⟩,
    fun _ _ held => ⟨groupOfRow_of_negative held,
      fun storable _ read => capacity_of_groupOfRow held storable read⟩,
    bindsPage⟩

namespace Sample

/-- A group with as many machines as a group may have. -/
def largest : Group :=
  ⟨⟨3⟩, ⟨⟨1⟩⟩, "web", ⟨7⟩, 2147483647, .epoch, .epoch⟩

/-- A group with one machine more. -/
def tooLarge : Group :=
  { largest with capacity := 2147483648 }

end Sample

open Sample in
/-- The largest capacity is read back, the next one is not sent, and one below zero is not
read; the last offset is sent. -/
theorem largest_values_are_bound :
    (largest.capacity.toNat < Nat.pow 2 31 ∧
        ReadsBack (.insertGroup largest) (readsGroup largest) groupOfRow largest) ∧
      (Http.checkCapacity tooLarge.capacity ≠ .ok () ∧
        ∃ detail, ∀ connection, perform connection (.upsertGroup tooLarge) =
          (.error (.invalidInput detail), connection)) ∧
      (∃ detail, groupOfRow [("capacity", .integer (-1))] = .error (.backendMessage detail)) ∧
      ∃ request, requestFor (.groups ⟨⟨1⟩⟩ ⟨1001, 9223372036854775807⟩) = .ok request ∧
        request.page? = some [.long 1000, .long 9223372036854775807] ∧
        SendsOnce (.groups ⟨⟨1⟩⟩ ⟨1001, 9223372036854775807⟩) request ⟨[.rows []], []⟩ := by
  obtain ⟨sends, -, -, -, groups, rows, pages⟩ := bound_values_are_read_back
  have fits : largest.capacity.toNat < Nat.pow 2 31 := by decide
  have refused : Http.checkCapacity tooLarge.capacity ≠ .ok () := fun accepted =>
    absurd (checkCapacity_eq_ok.mp accepted) (by decide)
  refine ⟨⟨fits, (groups largest _ (.inl rfl)).2 fits⟩,
    ⟨refused, (groups tooLarge _ (.inr rfl)).1.refused refused⟩,
    (rows _ (-1) rfl).1 (by decide), ?_⟩
  obtain ⟨request, asks, bound, -⟩ :=
    (pages ⟨⟨1⟩⟩ ⟨1001, 9223372036854775807⟩).2.accepted (by decide)
  exact ⟨request, asks, bound, sends _ _ asks _⟩

end Database

end ServiceGroups
