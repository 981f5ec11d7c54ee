import ServiceGroups.Proofs.Http.Reading
import ServiceGroups.Proofs.Text.Form
import ServiceGroups.Proofs.Text.Numeral

/-!
# Listings page by page

A listing holds the rows of its account and no others, each once, and it increases strictly:
templates by the time of their creation and then by identity, groups by the bytes of their
names.  It does not depend on the order in which the store keeps its rows.  A page holds the
rows between two places of the listing, so that pages laid end to end are the listing again.
-/

namespace ServiceGroups

namespace Page

variable {α : Type} (rows : List α)

/-- The rows of a page are those of the listing from its offset on, up to its limit. -/
theorem getElem?_slice (page : Page) (place : Nat) :
    (page.slice rows)[place]? =
      if place < page.limit.toNat then rows[page.offset.toNat + place]? else none := by
  rw [slice, List.getElem?_take, List.getElem?_drop]

/-- The page with a number, when the listing is cut into pages of a size. -/
def numbered (size : UInt64) (number : Nat) : Page :=
  ⟨size, UInt64.ofNat (number * size.toNat)⟩

/-- So many pages of a size have offsets that can be asked for. -/
def Addressable (size : UInt64) (count : Nat) : Prop :=
  ∀ number < count, number * size.toNat < 2 ^ 64

theorem flatMap_numbered {size : UInt64} {count : Nat} (addressable : Addressable size count) :
    (List.range count).flatMap (fun number => (numbered size number).slice rows) =
      rows.take (count * size.toNat) := by
  induction count with
  | zero => simp
  | succ count ih =>
      have offset : (numbered size count).offset.toNat = count * size.toNat :=
        UInt64.toNat_ofNat_of_lt' (addressable count (Nat.lt_succ_self count))
      rw [List.range_succ, List.flatMap_append,
        ih fun number less => addressable number (Nat.lt_succ_of_lt less), List.flatMap_singleton,
        slice, offset, Nat.succ_mul, List.take_add]
      rfl

/-- How many pages of a size it takes to hold so many rows. -/
def count (size : UInt64) (length : Nat) : Nat :=
  (length + size.toNat - 1) / size.toNat

section Count

variable {size : UInt64} {length : Nat}

theorem le_count_mul (positive : 0 < size) : length ≤ count size length * size.toNat := by
  have some : 0 < size.toNat := UInt64.lt_iff_toNat_lt.mp positive
  have above := Nat.lt_mul_div_succ (length + size.toNat - 1) some
  rw [Nat.mul_add, Nat.mul_one, Nat.mul_comm] at above
  rw [count]
  omega

/-- The pages of a listing that can be counted can be asked for. -/
theorem addressable_count (positive : 0 < size) (countable : length < 2 ^ 64) :
    Addressable size (count size length) := by
  intro number less
  have some : 0 < size.toNat := UInt64.lt_iff_toNat_lt.mp positive
  have whole : number * size.toNat + size.toNat ≤ count size length * size.toNat := by
    rw [← Nat.succ_mul]
    exact Nat.mul_le_mul_right _ less
  have bound : count size length * size.toNat ≤ length + size.toNat - 1 := Nat.div_mul_le_self _ _
  omega

end Count

end Page

/-- The template is listed before the other: it is older, or as old with a smaller
identity. -/
def Template.Precedes (first second : Template) : Prop :=
  compare first.createdAt second.createdAt = .lt ∨
    compare first.createdAt second.createdAt = .eq ∧ compare first.id second.id = .lt

/-- The group is listed before the other: the bytes of its name are smaller. -/
def Group.Precedes (first second : Group) : Prop :=
  Text.bytes first.name < Text.bytes second.name

/-- The list holds what belongs to it, each once, and increases. -/
structure Lists {α : Type} (belongs : α → Prop) (precedes : α → α → Prop) (rows : List α) :
    Prop where
  complete : ∀ row, row ∈ rows ↔ belongs row
  distinct : rows.Nodup
  increasing : rows.Pairwise precedes

/-- The answers are the slices of the rows, and laid end to end they are the rows. -/
structure ArePages {α : Type} (rows : List α) (answer : Page → List α) : Prop where
  slice : ∀ (page : Page) (place : Nat), (answer page)[place]? =
    if place < page.limit.toNat then rows[page.offset.toNat + place]? else none
  joined : ∀ (size : UInt64) (count : Nat), Page.Addressable size count →
    (List.range count).flatMap (fun number => answer (.numbered size number)) =
      rows.take (count * size.toNat)
  whole : ∀ size : UInt64, 0 < size → rows.length < 2 ^ 64 →
    Page.Addressable size (Page.count size rows.length) ∧
      (List.range (Page.count size rows.length)).flatMap
        (fun number => answer (.numbered size number)) = rows

theorem arePages_slice {α : Type} (rows : List α) : ArePages rows fun page => page.slice rows where
  slice := Page.getElem?_slice rows
  joined _ _ := Page.flatMap_numbered rows
  whole _ positive countable := by
    have addressable := Page.addressable_count positive countable
    refine ⟨addressable, (Page.flatMap_numbered rows addressable).trans ?_⟩
    exact List.take_of_length_le (Page.le_count_mul positive)

namespace Store

variable {store : Store}

/-- Templates in the order of the listing precede one another unless they have the same
identity. -/
theorem precedes_of_templateBefore {first second : Template}
    (ordered : templateBefore first second = true) (different : first.id ≠ second.id) :
    first.Precedes second := by
  rw [templateBefore, Ordering.isLE_iff_eq_lt_or_eq_eq, Ordering.then_eq_lt,
    Ordering.then_eq_eq] at ordered
  rcases ordered with (earlier | sameTime) | ⟨-, sameId⟩
  · exact .inl earlier
  · exact .inr sameTime
  · exact absurd (Std.LawfulEqOrd.eq_of_compare sameId) different

theorem lists_templatesOf (keyed : store.Keyed) (owner : AccountId) :
    Lists (fun template => (∃ id, store.templates.find? id = some template) ∧
      template.accountId = owner) Template.Precedes (store.templatesOf owner) := by
  have distinct : (store.templatesOf owner).Nodup :=
    (List.mergeSort_perm _ _).nodup_iff.mpr (.filter _ (Table.nodup_values keyed.templates))
  have sorted : (store.templatesOf owner).Pairwise fun first second =>
      templateBefore first second = true :=
    List.pairwise_mergeSort templateBefore_trans templateBefore_total _
  refine ⟨fun _ => mem_templatesOf, distinct, ?_⟩
  refine (sorted.and distinct).imp_of_mem fun {first second} firstIn secondIn ordered => ?_
  refine precedes_of_templateBefore ordered.1 fun sameId => ordered.2 ?_
  obtain ⟨⟨id, found⟩, -⟩ := mem_templatesOf.mp firstIn
  obtain ⟨⟨id', found'⟩, -⟩ := mem_templatesOf.mp secondIn
  rw [← keyed.templates id first found, sameId, keyed.templates id' second found', found'] at found
  exact (Option.some.inj found).symm

theorem lists_groupsOf (keyed : store.Keyed) (owner : AccountId) :
    Lists (fun group => (∃ key, store.groups.find? key = some group) ∧ group.accountId = owner)
      Group.Precedes (store.groupsOf owner) := by
  have distinct : (store.groupsOf owner).Nodup :=
    (List.mergeSort_perm _ _).nodup_iff.mpr (.filter _ (Table.nodup_values keyed.groups))
  have sorted : (store.groupsOf owner).Pairwise fun first second =>
      groupBefore first second = true :=
    List.pairwise_mergeSort groupBefore_trans groupBefore_total _
  refine ⟨fun _ => mem_groupsOf, distinct, ?_⟩
  refine (sorted.and distinct).imp_of_mem fun {first second} firstIn secondIn ordered => ?_
  have names : first.name ≤ second.name := of_decide_eq_true ordered.1
  rw [Group.Precedes, Text.bytes_lt_iff]
  refine Std.lt_of_le_of_ne names fun sameName => ordered.2 ?_
  obtain ⟨⟨key, found⟩, own⟩ := mem_groupsOf.mp firstIn
  obtain ⟨⟨key', found'⟩, own'⟩ := mem_groupsOf.mp secondIn
  have sameKey : key = key' := by
    rw [← keyed.groups key first found, ← keyed.groups key' second found', own, own', sameName]
  rw [sameKey, found'] at found
  exact (Option.some.inj found).symm

/-- The listing depends on the rows alone and not on the order in which they are kept. -/
theorem templatesOf_eq_of_find? (keyed : store.Keyed) {other : Store}
    (same : ∀ id, other.templates.find? id = store.templates.find? id) (owner : AccountId) :
    other.templatesOf owner = store.templatesOf owner := by
  have otherKeyed : Keyed { store with templates := other.templates } :=
    { keyed with templates := fun id template found =>
        keyed.templates id template ((same id).symm.trans found) }
  change templatesOf { store with templates := other.templates } owner = _
  refine templatesOf_eq_of_mem_iff otherKeyed keyed fun template => ?_
  simp only [mem_templatesOf, same]

theorem groupsOf_eq_of_find? (keyed : store.Keyed) {other : Store}
    (same : ∀ key, other.groups.find? key = store.groups.find? key) (owner : AccountId) :
    other.groupsOf owner = store.groupsOf owner := by
  have otherKeyed : Keyed { store with groups := other.groups } :=
    { keyed with groups := fun key group found =>
        keyed.groups key group ((same key).symm.trans found) }
  change groupsOf { store with groups := other.groups } owner = _
  refine groupsOf_eq_of_mem_iff otherKeyed keyed fun group => ?_
  simp only [mem_groupsOf, same]

end Store

namespace Http

/-- The address of a page of a listing. -/
def pageTarget (listing : String) (page : Page) : String :=
  listing ++ "?" ++ Text.formEncode [("limit", Text.decimalText page.limit.toNat),
    ("offset", Text.decimalText page.offset.toNat)]

theorem Target.resource_pageTarget {path : List Char} {listing : String}
    (rooted : listing.toList = '/' :: path) (page : Page) :
    Target.resource (pageTarget listing page) = (pageTarget listing page).toList := by
  rw [Target.resource, pageTarget, String.toList_append, String.toList_append, rooted]
  rfl

theorem Target.path_pageTarget {path : List Char} {listing : String}
    (rooted : listing.toList = '/' :: path)
    (plain : ∀ char ∈ listing.toList, (char != '?' && char != '#') = true) (page : Page) :
    Target.path (pageTarget listing page) = listing.toList := by
  rw [Target.path, resource_pageTarget rooted, pageTarget, String.toList_append,
    String.toList_append, List.append_assoc, List.takeWhile_append_of_pos plain]
  simp

theorem Target.query_pageTarget {path : List Char} {listing : String}
    (rooted : listing.toList = '/' :: path)
    (plain : ∀ char ∈ listing.toList, (char != '?' && char != '#') = true) (page : Page) :
    String.ofList (Target.query (pageTarget listing page)) =
      Text.formEncode [("limit", Text.decimalText page.limit.toNat),
        ("offset", Text.decimalText page.offset.toNat)] := by
  have noFragment : ∀ char ∈ (pageTarget listing page).toList, (char != '#') = true := by
    intro char member
    rw [pageTarget, String.toList_append, String.toList_append, List.mem_append,
      List.mem_append] at member
    rcases member with (front | mark) | back
    · exact ((Bool.and_eq_true _ _).mp (plain char front)).2
    · cases List.mem_singleton.mp mark
      rfl
    · exact bne_iff_ne.mpr fun same => Text.not_mem_formEncode _ (same ▸ back)
  have noQuery : ∀ char ∈ listing.toList, (char != '?') = true := fun char member =>
    ((Bool.and_eq_true _ _).mp (plain char member)).1
  rw [Target.query, resource_pageTarget rooted, List.takeWhile_eq_self_iff.mpr noFragment,
    pageTarget, String.toList_append, String.toList_append, List.append_assoc,
    List.dropWhile_append_of_pos noQuery]
  simp

theorem readPage_pageTarget {path : List Char} {listing : String}
    (rooted : listing.toList = '/' :: path)
    (plain : ∀ char ∈ listing.toList, (char != '?' && char != '#') = true) (page : Page) :
    readPage (pageTarget listing page) = .ok page := by
  rw [readPage, Target.query_pageTarget rooted plain, Text.formDecode_formEncode]
  simp [pageParameter, Text.word64?_decimalText, bind, Except.bind]

/-- Every page of the templates has an address. -/
theorem exists_target_templates (page : Page) :
    ∃ target, Route.ofTarget? target = some .templates ∧ readPage target = .ok page := by
  have plain : ∀ char ∈ "/v1/templates".toList, (char != '?' && char != '#') = true :=
    List.all_eq_true.mp (by decide)
  refine ⟨pageTarget "/v1/templates" page, ?_, readPage_pageTarget rfl plain page⟩
  rw [Route.ofTarget?, Target.path_pageTarget rfl plain]
  decide

theorem exists_target_groups (page : Page) :
    ∃ target, Route.ofTarget? target = some .groups ∧ readPage target = .ok page := by
  have plain : ∀ char ∈ "/v1/tsg".toList, (char != '?' && char != '#') = true :=
    List.all_eq_true.mp (by decide)
  refine ⟨pageTarget "/v1/tsg" page, ?_, readPage_pageTarget rfl plain page⟩
  rw [Route.ofTarget?, Target.path_pageTarget rfl plain]
  decide

/-- The account is answered the pages of its rows, by a call of the store and on a route of
the service, and every page can be asked for. -/
structure AnswersPages {α : Type} [Json.Form α] (store : Store) (owner : AccountId)
    (route : Route) (ask : Page → Except Failure (List α) × Store) (answer : Page → List α) :
    Prop where
  asked : ∀ page, ask page = (.ok (answer page), store)
  addressed : ∀ page, ∃ target, Route.ofTarget? target = some route ∧ readPage target = .ok page
  shown : ∀ (page : Page) (service : Service) (request : Request),
    service.Gets request owner route → readPage request.target = .ok page →
    ∀ {σ : Type} (scheduler : Scheduler σ) (state : σ) (moment : Moment),
      ((service.handle moment request).run scheduler store state).result.body =
        .json (.array ((answer page).map Json.encode))

/-- What a request for a listing is answered, whatever resource stands for the listing. -/
theorem Service.listing_body (resource : Resource) {service : Service} {request : Request}
    {owner : AccountId} (gets : service.Gets request owner resource.collection) {page : Page}
    (paged : readPage request.target = .ok page) {σ : Type} (scheduler : Scheduler σ)
    (store : Store) (state : σ) (moment : Moment) :
    ((service.handle moment request).run scheduler store state).result.body =
      .json (.array (page.slice (resource.values store owner))) := by
  have guarded : resource.collection.isGuarded = true := by cases resource <;> rfl
  rw [gets.listing moment rfl paged, gets.finish_body guarded]
  rfl

theorem answersPages_templates (store : Store) (owner : AccountId) :
    AnswersPages store owner .templates (fun page => store.perform (.templates owner page))
      fun page => page.slice (store.templatesOf owner) where
  asked _ := rfl
  addressed := exists_target_templates
  shown page service request gets paged σ scheduler state moment := by
    rw [Page.map_slice]
    exact Service.listing_body (.template .nil) gets paged scheduler store state moment

theorem answersPages_groups (store : Store) (owner : AccountId) :
    AnswersPages store owner .groups (fun page => store.perform (.groups owner page))
      fun page => page.slice (store.groupsOf owner) where
  asked _ := rfl
  addressed := exists_target_groups
  shown page service request gets paged σ scheduler state moment := by
    rw [Page.map_slice]
    exact Service.listing_body (.group "") gets paged scheduler store state moment

/-- Whatever has led to the store, an account's listing of templates and that of groups hold
exactly the rows of the account, each once and in strict order, and do not depend on how the
store keeps them.  Every page is the slice of the listing that it asks for, and pages laid end
to end are the listing. -/
theorem Reachable.listings_are_exact {store : Store} (reachable : Reachable store)
    (owner : AccountId) :
    (Lists (fun template => (∃ id, store.templates.find? id = some template) ∧
          template.accountId = owner) Template.Precedes (store.templatesOf owner) ∧
      (∀ other : Store, (∀ id, other.templates.find? id = store.templates.find? id) →
        other.templatesOf owner = store.templatesOf owner) ∧
      ∃ answer : Page → List Template, ArePages (store.templatesOf owner) answer ∧
        AnswersPages store owner .templates (fun page => store.perform (.templates owner page))
          answer) ∧
    Lists (fun group => (∃ key, store.groups.find? key = some group) ∧ group.accountId = owner)
        Group.Precedes (store.groupsOf owner) ∧
      (∀ other : Store, (∀ key, other.groups.find? key = store.groups.find? key) →
        other.groupsOf owner = store.groupsOf owner) ∧
      ∃ answer : Page → List Group, ArePages (store.groupsOf owner) answer ∧
        AnswersPages store owner .groups (fun page => store.perform (.groups owner page))
          answer := by
  have keyed := reachable.keyed
  refine ⟨⟨Store.lists_templatesOf keyed owner, ?_, ?_⟩, Store.lists_groupsOf keyed owner, ?_, ?_⟩
  · exact fun _ same => Store.templatesOf_eq_of_find? keyed same owner
  · exact ⟨_, arePages_slice _, answersPages_templates store owner⟩
  · exact fun _ same => Store.groupsOf_eq_of_find? keyed same owner
  · exact ⟨_, arePages_slice _, answersPages_groups store owner⟩

namespace Sample

/-- A template of a tenant, as old as any. -/
def templateOf (owner id : BitVec 128) : Template :=
  ⟨⟨id⟩, ⟨⟨owner⟩⟩, "web", "small", "image", false, [], none, .empty, .empty, .epoch⟩

/-- The first tenant has two templates, written in the order opposite to that of their
identities, and the second tenant has one. -/
def shelved : Store :=
  [templateOf 1 9, templateOf 2 5, templateOf 1 3].foldl
    (fun store template => (store.perform (.upsertTemplate template)).2) twoTenants

theorem reachable_shelved : Reachable shelved :=
  (((Reachable.holding _).call _).call _).call _

end Sample

open Sample in
/-- Pages of one row, laid end to end, show the templates of the first tenant in order. -/
theorem shelved_templates_by_pages :
    Reachable shelved ∧ (shelved.templatesOf ⟨⟨1⟩⟩).map Template.id = [⟨3⟩, ⟨9⟩] ∧
      ∃ answer : Page → List Template,
        (∀ page, shelved.perform (.templates ⟨⟨1⟩⟩ page) = (.ok (answer page), shelved)) ∧
        answer ⟨1, 0⟩ ++ answer ⟨1, 1⟩ = shelved.templatesOf ⟨⟨1⟩⟩ := by
  have stored : shelved.templates.values.filter (·.accountId == ⟨⟨1⟩⟩) =
      [templateOf 1 9, templateOf 1 3] := rfl
  have swapped {first second : Template} (later : Store.templateBefore first second = false) :
      [first, second].mergeSort Store.templateBefore = [second, first] := by
    simp [List.mergeSort, List.MergeSort.Internal.splitInTwo, later]
  have ids : (shelved.templatesOf ⟨⟨1⟩⟩).map Template.id = [⟨3⟩, ⟨9⟩] := by
    rw [Store.templatesOf, stored, swapped (by decide)]
    rfl
  obtain ⟨⟨-, -, answer, pages, answers⟩, -⟩ :=
    reachable_shelved.listings_are_exact ⟨⟨1⟩⟩
  refine ⟨reachable_shelved, ids, answer, answers.asked, ?_⟩
  have length : (shelved.templatesOf ⟨⟨1⟩⟩).length = 2 := by
    rw [← List.length_map Template.id, ids]
    rfl
  obtain ⟨-, whole⟩ := pages.whole 1 (by decide) (by rw [length]; decide)
  rw [length] at whole
  simpa [Page.count, List.range_succ, Page.numbered] using whole

end Http

end ServiceGroups
