import ServiceGroups.Orchestrator
import ServiceGroups.Proofs.Http.GroupNames
import ServiceGroups.Proofs.Nomad.Sent
import ServiceGroups.Proofs.Url.Domain
import ServiceGroups.Proofs.Url.Origin
import ServiceGroups.Proofs.Uuid

/-!
# Where requests go

A request for the job of a group goes to the host and port of the configured address and
names the job in one segment of its path, without a change: the accepted names and the
identifiers are made of characters that stand for themselves.  The query gives back the
configured namespace and region, whatever texts they are.
-/

namespace ServiceGroups

namespace Url

theorem isOrdinary_of_isLetterOrDigit {char : Char} (plain : Http.IsLetterOrDigit char) :
    isOrdinary char = true := by
  have small : char.toNat < 128 := by
    simp only [Http.IsLetterOrDigit, Text.le_iff_toNat_le] at plain
    have last : 'Z'.toNat = 90 ∧ 'z'.toNat = 122 ∧ '9'.toNat = 57 := by decide
    omega
  exact Text.of_codes (fun char => Http.IsLetterOrDigit char → isOrdinary char = true)
    (by unfold Http.IsLetterOrDigit; decide) small plain

theorem isOrdinary_of_mem_text {id : Uuid} {char : Char} (member : char ∈ id.text.toList) :
    isOrdinary char = true := by
  have digits : ∀ value < 16, isOrdinary (Text.hexDigit value) = true := by decide
  rcases Uuid.mem_text member with rfl | ⟨value, small, rfl⟩
  · decide
  · exact digits value small

/-- The name of a job is made of characters that stand for themselves. -/
theorem isOrdinary_of_mem_jobName {name : String} {owner : Uuid}
    (accepted : Http.checkGroupName name = .ok ()) {char : Char}
    (member : char ∈ (Orchestrator.jobName name owner).toList) : isOrdinary char = true := by
  simp only [Orchestrator.jobName, String.toList_append, List.mem_append] at member
  rcases member with (inName | underscore) | inId
  · rcases (Http.isWellNamed_of_checkGroupName accepted).chars char inName with
      plain | rfl | rfl
    · exact isOrdinary_of_isLetterOrDigit plain
    · decide
    · decide
  · obtain rfl : char = '_' := List.mem_singleton.mp underscore
    decide
  · exact isOrdinary_of_mem_text inId

theorem query_withPairs {url : Url} (plain : url.query = none) (pairs : String) :
    (url.withPairs pairs).query = if pairs = "" then none else some pairs := by
  simp [withPairs, plain]

theorem not_mem_of_readAuthority [Host.Domains] {isSecure : Bool} {authority : List Char} {host : String}
    {port : Option UInt16} (read : readAuthority isSecure authority = some (host, port)) :
    '#' ∉ host.toList := by
  simp only [readAuthority, Option.bind_eq_bind, Option.bind_eq_some_iff] at read
  obtain ⟨name, named, found, -, same⟩ := read
  cases same
  exact Host.not_mem_read? named

/-- Only the host, the path and the query of an address could start a fragment. -/
theorem not_mem_text {url : Url} (host : '#' ∉ url.host.toList)
    (path : '#' ∉ url.pathText.toList) (query : ∀ query ∈ url.query, '#' ∉ query.toList) :
    '#' ∉ url.text.toList := by
  have schemes : '#' ∉ url.scheme.toList := by
    unfold scheme
    split <;> decide
  simp only [text, String.toList_append, List.mem_append, not_or]
  refine ⟨⟨⟨⟨⟨schemes, by decide⟩, host⟩, ?_⟩, path⟩, ?_⟩
  · split
    · exact List.not_mem_nil
    · next port _ =>
        have digits : '#' ∉ (Text.decimalText port.toNat).toList := by
          rw [Text.decimalText, String.toList_ofList]
          exact not_mem_toDigits (by decide) (by decide) _
        rw [String.toList_append, List.mem_append, not_or]
        exact ⟨by decide, digits⟩
  · split
    · exact List.not_mem_nil
    · next asked same =>
        rw [String.toList_append, List.mem_append, not_or]
        exact ⟨by decide, query asked same⟩

end Url

namespace Nomad

/-- The address is `http://` or `https://`, then a place that is read as the host and the
port, and then any number of slashes. -/
def IsServer [Host.Domains] (address : String) (isSecure : Bool) (host : String)
    (port : Option UInt16) : Prop :=
  ∃ scheme place slashes,
    address.toList = scheme ++ "://".toList ++ place ++ List.replicate slashes '/' ∧
      Url.webScheme? scheme = some isSecure ∧ Url.StandsAlone place ∧
      Url.readAuthority isSecure (place.filter (!Url.isLineChar ·)) = some (host, port)

namespace Demand

/-- The segments of the path for a demand. -/
def path : Demand → List String
  | .leader => ["v1", "status", "leader"]
  | .call (.parse _) => ["v1", "jobs", "parse"]
  | .call (.validate _) => ["v1", "validate", "job"]
  | .call (.register _) => ["v1", "jobs"]
  | .call (.deregister id _) => ["v1", "job", id]
  | .call (.force id) => ["v1", "job", id, "periodic", "force"]

/-- Whether to purge, for a demand that says so. -/
def purge? : Demand → Option String
  | .call (.deregister _ true) => some "true"
  | .call (.deregister _ false) => some "false"
  | _ => none

/-- The pairs of the query for a demand: those of namespace, region and purge that there are. -/
def pairs (settings : SchedulerSettings) (demand : Demand) : List (String × String) :=
  settings.space.toList.map ("namespace", ·) ++ settings.region.toList.map ("region", ·) ++
    demand.purge?.toList.map ("purge", ·)

/-- A job that the demand names is that of a group with an accepted name. -/
def NamesGroup : Demand → Prop
  | .call (.deregister id _) | .call (.force id) =>
    ∃ name owner, Http.checkGroupName name = .ok () ∧ id = Orchestrator.jobName name owner
  | _ => True

variable {demand : Demand}

theorem ordinary_path (named : demand.NamesGroup) : Url.Ordinary demand.path := by
  have jobs : Url.Ordinary ["v1", "job"] := .of_all (by decide) (by decide)
  have identified {id : String} (group : ∃ name owner, Http.checkGroupName name = .ok () ∧
      id = Orchestrator.jobName name owner) : Url.Ordinary [id] := by
    obtain ⟨name, owner, accepted, rfl⟩ := group
    refine ⟨List.cons_ne_nil _ _, fun segment member char among => ?_⟩
    rw [List.mem_singleton.mp member] at among
    exact Url.isOrdinary_of_mem_jobName accepted among
  rcases demand with _ | (_ | _ | _ | ⟨id, purge⟩ | id)
  · exact .of_all (by decide) (by decide)
  · exact (.of_all (by decide) (by decide) : Url.Ordinary ["v1", "jobs", "parse"])
  · exact (.of_all (by decide) (by decide) : Url.Ordinary ["v1", "validate", "job"])
  · exact (.of_all (by decide) (by decide) : Url.Ordinary ["v1", "jobs"])
  · exact jobs.append (identified named)
  · exact jobs.append ((identified named).append
      (.of_all (by decide) (by decide) : Url.Ordinary ["periodic", "force"]))

theorem exists_path_eq (demand : Demand) :
    ∃ next others, demand.path = "v1" :: next :: others := by
  rcases demand with _ | (_ | _ | _ | _ | _) <;> exact ⟨_, _, rfl⟩

theorem toList_endpoint (demand : Demand) :
    demand.query.endpoint.toList = Url.pathChars demand.path := by
  have job (id : String) : ("/v1/job/" ++ id).toList = Url.pathChars ["v1", "job", id] := by
    have front : "/v1/job/".toList = '/' :: ("v1".toList ++ '/' :: ("job".toList ++ ['/'])) := by
      decide
    rw [String.toList_append, front]
    simp [Url.pathChars, List.intercalate_cons_cons]
  rcases demand with _ | (_ | _ | _ | ⟨id, purge⟩ | id)
  · decide
  · exact (by decide : "/v1/jobs/parse".toList = Url.pathChars ["v1", "jobs", "parse"])
  · exact (by decide : "/v1/validate/job".toList = Url.pathChars ["v1", "validate", "job"])
  · exact (by decide : "/v1/jobs".toList = Url.pathChars ["v1", "jobs"])
  · exact job id
  · rw [query, Query.ofCall, String.toList_append, job]
    simp [Url.pathChars, path, List.intercalate_cons_cons]

/-- An endpoint begins with one slash. -/
theorem slash_endpoint (demand : Demand) :
    '/' :: demand.query.endpoint.toList.dropWhile (· == '/') = Url.pathChars demand.path := by
  obtain ⟨next, others, begins⟩ := demand.exists_path_eq
  have first : "v1".toList = ['v', '1'] := by decide
  rw [demand.toList_endpoint, begins, Url.pathChars, List.map_cons, List.map_cons,
    List.intercalate_cons_cons, first]
  rfl

theorem pairs_eq (settings : SchedulerSettings) (demand : Demand) :
    (Client.ofSettings settings).pairs demand.query = demand.pairs settings := by
  have own : demand.query.pairs = demand.purge?.toList.map ("purge", ·) := by
    rcases demand with _ | (_ | _ | _ | ⟨id, _ | _⟩ | id) <;> rfl
  rw [Client.pairs, pairs, own, Option.toList_map, Option.toList_map]
  rfl

end Demand

/-- The request goes to a host and a port, to a path as it is written, without a fragment, and
with the pairs as its query. -/
structure Request.GoesTo (request : Request) (isSecure : Bool) (host : String)
    (port : Option UInt16) (path : List String) (pairs : List (String × String)) : Prop where
  server : request.url.isSecure = isSecure ∧ request.url.host = host ∧ request.url.port = port
  segments : request.url.path = path
  written : request.url.pathText.toList = Url.pathChars path
  fragment : '#' ∉ request.url.text.toList
  query : match request.url.query with
    | none => pairs = []
    | some query => pairs ≠ [] ∧
        Text.formDecode query = pairs.map fun pair => (some pair.1, some pair.2)

namespace Client

section Servers

variable [Host.Domains] [Host.LawfulDomains] {settings : SchedulerSettings} {isSecure : Bool}
variable {host : String} {port : Option UInt16}

/-- By itself the address of a server is read as its host and port. -/
theorem read?_address (server : IsServer settings.address isSecure host port) :
    ∃ home, Url.read? settings.address = some (.web home) ∧
      (home.isSecure, home.host, home.port) = (isSecure, host, port) := by
  obtain ⟨scheme, place, slashes, whole, web, alone, authority⟩ := server
  exact Url.exists_read?_of_place web alone authority whole

theorem read?_endpointText (server : IsServer settings.address isSecure host port)
    {demand : Demand} (named : demand.NamesGroup) :
    Url.read? ((ofSettings settings).endpointText demand.query.endpoint) =
      some (.web ⟨isSecure, host, port, demand.path, none⟩) := by
  obtain ⟨scheme, place, slashes, whole, web, alone, authority⟩ := server
  have present : place ≠ [] := by
    rintro rfl
    exact Url.ne_nil_of_readAuthority authority rfl
  have tidy : (scheme ++ "://".toList ++ place).rdropWhile (· == '/') =
      scheme ++ "://".toList ++ place := by
    refine List.rdropWhile_eq_self_iff.mpr fun filled => ?_
    rw [List.getLast_append_of_ne_nil _ present]
    have last := alone _ (List.getLast_mem present)
    intro slash
    rw [beq_iff_eq.mp slash] at last
    exact absurd last (by decide)
  have base : (ofSettings settings).baseUrl.toList = scheme ++ "://".toList ++ place := by
    have slashed : ∀ char ∈ List.replicate slashes '/', (char == '/') = true := fun char member =>
      beq_iff_eq.mpr (List.eq_of_mem_replicate member)
    rw [toList_baseUrl, whole, List.rdropWhile, List.reverse_append, List.reverse_replicate,
      List.dropWhile_append_of_pos slashed]
    exact tidy
  refine Url.read?_of_place web alone authority (demand.ordinary_path named) ?_
  rw [toList_endpointText, base, demand.slash_endpoint]

theorem exists_request? (server : IsServer settings.address isSecure host port)
    {demand : Demand} (named : demand.NamesGroup) :
    ∃ first, (ofSettings settings).request? demand.query = some first ∧
      first.GoesTo isSecure host port demand.path (demand.pairs settings) := by
  have read := read?_endpointText server named
  have ordinary := demand.ordinary_path named
  have written (url : Url) (same : url.path = demand.path) :
      url.pathText.toList = Url.pathChars demand.path :=
    same ▸ Url.toList_pathText (same ▸ ordinary.present)
  refine ⟨_, by rw [request?, read], ⟨rfl, rfl, rfl⟩, rfl, written _ rfl, ?_, ?_⟩
  · obtain ⟨-, place, -, -, -, -, authority⟩ := server
    refine Url.not_mem_text (Url.not_mem_of_readAuthority authority) ?_ fun query asked => ?_
    · rw [written _ rfl]
      exact ordinary.not_mem_pathChars (by decide) (by decide)
    · rw [Url.query_withPairs rfl, Option.mem_def, Option.ite_none_left_eq_some] at asked
      cases asked.2
      exact Text.not_mem_formEncode _
  · rw [Url.query_withPairs rfl, demand.pairs_eq]
    by_cases nothing : demand.pairs settings = []
    · rw [if_pos (Text.formEncode_eq_empty.mpr nothing)]
      exact nothing
    · rw [if_neg fun empty => nothing (Text.formEncode_eq_empty.mp empty)]
      exact ⟨nothing, Text.formDecode_formEncode _⟩

/-- The address of an `http` or `https` server leads to that server.  Whatever a client is asked
for, the first request it sends goes there too, to the path of the demand with its job in one
segment, and with the pairs of the demand as its query. -/
theorem requests_address_their_job (server : IsServer settings.address isSecure host port)
    {demand : Demand} (named : demand.NamesGroup) :
    (∃ home, Url.read? settings.address = some (.web home) ∧
      (home.isSecure, home.host, home.port) = (isSecure, host, port)) ∧
    ∃ first : Request, first.GoesTo isSecure host port demand.path (demand.pairs settings) ∧
      ∀ wire,
        ((ofSettings settings).CanSend wire → ∃ later,
          ((ofSettings settings).meet demand wire).sent = wire.sent ++ first :: later) ∧
        (¬ (ofSettings settings).CanSend wire →
          ((ofSettings settings).meet demand wire).sent = wire.sent) := by
  obtain ⟨first, asked, goesTo⟩ := exists_request? server named
  refine ⟨read?_address server, first, goesTo, fun wire => ⟨fun can => ?_, sent_of_not_canSend⟩⟩
  obtain ⟨places, requests, sends, sent⟩ := sent_of_canSend asked can
  obtain ⟨later, rfl⟩ := sends.exists_cons
  exact ⟨later, sent⟩

end Servers

namespace Sample

def shared : SchedulerSettings :=
  ⟨"http://nomad.example:4646//", none, some "a&b = c#", some "é+%2F", .ofMillis 0⟩

def webJob : String :=
  Orchestrator.jobName "web" ⟨7⟩

end Sample

open Sample in
/-- The job of a group is purged under an address with slashes at its end, in a namespace and
a region that need encoding. -/
theorem purge_addresses_its_job :
    IsServer shared.address false "nomad.example" (some 4646) ∧
      (Demand.call (.deregister webJob true)).NamesGroup ∧
      ∃ first : Request,
        first.GoesTo false "nomad.example" (some 4646) ["v1", "job", webJob]
          [("namespace", "a&b = c#"), ("region", "é+%2F"), ("purge", "true")] ∧
        ∃ later, ((ofSettings shared).meet (.call (.deregister webJob true))
          (.scripted [])).sent = first :: later := by
  have server : IsServer shared.address false "nomad.example" (some 4646) :=
    ⟨"http".toList, "nomad.example:4646".toList, 2, by decide, by decide,
      List.all_eq_true.mp (by decide), by decide +kernel⟩
  have named : (Demand.call (.deregister webJob true)).NamesGroup :=
    ⟨"web", ⟨7⟩, by decide, rfl⟩
  obtain ⟨-, first, goesTo, sends⟩ := requests_address_their_job server named
  exact ⟨server, named, first, goesTo, (sends (.scripted [])).1 ⟨rfl, rfl⟩⟩

end Client

end Nomad

end ServiceGroups
