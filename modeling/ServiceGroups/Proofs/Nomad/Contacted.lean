import ServiceGroups.Proofs.Nomad.Address
import ServiceGroups.Proofs.Nomad.Token
import ServiceGroups.Proofs.Settings.Validity
import ServiceGroups.Proofs.Url.Place

/-!
# The server that is contacted

Settings are accepted if the address of the job scheduler begins with a scheme of the web.  If
the address names a place behind the scheme, whatever is sent first goes where the address leads
by itself.  If it does not, the address leads nowhere, but the first segment of the endpoint is
taken for a host, and requests are sent there.
-/

namespace ServiceGroups

namespace Nomad

/-- Behind its slash the endpoint goes on with the version of the interface. -/
theorem Demand.exists_version (demand : Demand) :
    ∃ more, demand.query.endpoint.toList.dropWhile (· == '/') = "v1".toList ++ '/' :: more := by
  obtain ⟨next, others, begins⟩ := demand.exists_path_eq
  have path := demand.slash_endpoint
  rw [begins, Url.pathChars, List.map_cons, List.map_cons, List.intercalate_cons_cons,
    List.append_assoc] at path
  exact ⟨_, (List.cons.inj path).2⟩

namespace Client

section Configured

variable {settings : SchedulerSettings}

/-- The address is a scheme of the web, what is kept behind its colon, and slashes. -/
theorem exists_parts (web : Settings.hasWebScheme settings.address = true) :
    ∃ scheme after slashes isSecure, Url.webScheme? scheme = some isSecure ∧
      settings.address.toList = scheme ++ ':' :: after ++ List.replicate slashes '/' ∧
      (ofSettings settings).baseUrl.toList = scheme ++ ':' :: after := by
  obtain ⟨scheme, rest, known, whole⟩ := Settings.exists_scheme_of_hasWebScheme web
  obtain ⟨isSecure, secure⟩ : ∃ isSecure, Url.webScheme? scheme = some isSecure := by
    rcases known with rfl | rfl
    · exact ⟨false, by decide⟩
    · exact ⟨true, by decide⟩
  have base : (ofSettings settings).baseUrl.toList =
      scheme ++ ':' :: ('/' :: '/' :: rest).rdropWhile (· == '/') := by
    have colon : scheme ++ "://".toList ++ rest = scheme ++ ':' :: ('/' :: '/' :: rest) := by
      simp
    rw [toList_baseUrl, whole, colon, Url.rdropWhile_append_cons (by decide)]
  obtain ⟨slashes, address⟩ := exists_slashes settings
  rw [base] at address
  exact ⟨scheme, _, slashes, isSecure, secure, address, base⟩

variable [Host.Domains] [Host.LawfulDomains]

/-- Under an address with a place, requests go where the address leads by itself. -/
theorem exists_home_of_namesPlace (web : Settings.hasWebScheme settings.address = true)
    (named : Url.NamesPlace settings.address) {query : Query} {first : Request}
    (asked : (ofSettings settings).request? query = some first) :
    ∃ home, Url.read? settings.address = some (.web home) ∧ first.url.origin = home.origin := by
  obtain ⟨scheme, after, slashes, isSecure, secure, whole, base⟩ := exists_parts web
  obtain ⟨url, reads, -⟩ := exists_url_of_request? asked
  have goesOn := toList_endpointText (ofSettings settings) query.endpoint
  rw [base] at goesOn
  obtain ⟨home, read⟩ := Url.exists_read?_of_namesPlace secure whole goesOn named reads
  exact ⟨home, read, origin_of_request? read asked⟩

theorem read?_address_of_not_namesPlace (web : Settings.hasWebScheme settings.address = true)
    (bare : ¬ Url.NamesPlace settings.address) : Url.read? settings.address = none := by
  obtain ⟨scheme, after, slashes, isSecure, secure, whole, -⟩ := exists_parts web
  exact Url.read?_of_not_namesPlace secure whole bare

/-- Under an address without a place, every demand is a request to the host `v1`. -/
theorem exists_request?_of_not_namesPlace (web : Settings.hasWebScheme settings.address = true)
    (bare : ¬ Url.NamesPlace settings.address) (demand : Demand) :
    ∃ first, (ofSettings settings).request? demand.query = some first ∧
      first.url.host = "v1" ∧ first.url.port = none := by
  obtain ⟨scheme, after, slashes, isSecure, secure, whole, base⟩ := exists_parts web
  obtain ⟨more, version⟩ := demand.exists_version
  have goesOn := toList_endpointText (ofSettings settings) demand.query.endpoint
  rw [base] at goesOn
  have place : Url.hostPart false (Url.afterUser "v1".toList) = "v1".toList := by decide
  have authority : Url.readAuthority isSecure "v1".toList = some ("v1", none) := by
    rw [Url.readAuthority, place, Host.read?_version]
    rfl
  obtain ⟨url, read, parts⟩ := Url.exists_read?_of_not_namesPlace secure whole goesOn bare version
    (List.all_eq_true.mp (by decide)) (by decide) authority
  rw [Prod.mk.injEq, Prod.mk.injEq] at parts
  exact ⟨_, by rw [request?, read], parts.2⟩

end Configured

section Contact

variable [Host.Domains]

/-- If anything is sent, the address is read as a web address, and the first request goes to its
scheme, host and port. -/
def GoesHome (settings : SchedulerSettings) (demand : Demand) (wire : Wire) : Prop :=
  ∀ first later,
    ((ofSettings settings).meet demand wire).sent = wire.sent ++ first :: later →
      ∃ home, Url.read? settings.address = some (.web home) ∧ first.url.origin = home.origin

/-- With accepted settings the first request goes where the address leads exactly if the address
names a place, or nothing can be sent.  Where it names none, requests go to the host `v1`. -/
theorem goesHome_iff_namesPlace [Host.LawfulDomains] {settings : Settings} (valid : settings.validate = .ok ())
    (demand : Demand) (wire : Wire) :
    (GoesHome settings.scheduler demand wire ↔
      Url.NamesPlace settings.scheduler.address ∨
        ¬ (ofSettings settings.scheduler).CanSend wire) ∧
      (¬ Url.NamesPlace settings.scheduler.address →
        Url.read? settings.scheduler.address = none ∧
          ∀ first later,
            ((ofSettings settings.scheduler).meet demand wire).sent =
                wire.sent ++ first :: later →
              first.url.host = "v1" ∧ first.url.port = none) := by
  have web := (Settings.validate_eq_ok.mp valid).webScheme
  refine ⟨⟨fun goesHome => ?_, ?_⟩, fun bare => ⟨read?_address_of_not_namesPlace web bare, ?_⟩⟩
  · by_contra neither
    obtain ⟨bare, cannot⟩ := not_or.mp neither
    obtain ⟨first, asked, -⟩ := exists_request?_of_not_namesPlace web bare demand
    obtain ⟨places, requests, sends, sent⟩ := sent_of_canSend asked (not_not.mp cannot)
    obtain ⟨later, rfl⟩ := sends.exists_cons
    obtain ⟨home, read, -⟩ := goesHome first later sent
    rw [read?_address_of_not_namesPlace web bare] at read
    cases read
  · rintro (named | cannot) first later sent
    · exact exists_home_of_namesPlace web named (request?_of_sent sent)
    · rw [sent_of_not_canSend cannot] at sent
      exact absurd (List.append_right_eq_self.mp sent.symm) (List.cons_ne_nil _ _)
  · intro first later sent
    obtain ⟨request, asked, atVersion⟩ := exists_request?_of_not_namesPlace web bare demand
    rw [request?_of_sent sent] at asked
    exact Option.some.inj asked ▸ atVersion

end Contact

namespace Sample

/-- Settings with an address of the scheduler, and otherwise of no interest. -/
def configured (address : String) : Settings where
  listener := ⟨.v4 ⟨127, 0, 0, 1⟩ 3000, .ofMillis 1⟩
  database := ⟨"postgres://localhost/tsg", 1, .ofMillis 1⟩
  scheduler := ⟨address, none, none, none, .ofMillis 1⟩
  cloud := ⟨"us-east-1", "https://us-east-1.api.joyent.com"⟩
  release := "0.1.0"

end Sample

open Sample in
/-- Slashes too many in front of a server, a name of a user and a query lead to the server. -/
theorem crowded_address_is_contacted :
    (configured "https:////me@Nomad.example:8443?x=/").validate = .ok () ∧
      Url.NamesPlace "https:////me@Nomad.example:8443?x=/" ∧
      GoesHome (configured "https:////me@Nomad.example:8443?x=/").scheduler .leader
        (.scripted []) ∧
      ((ofSettings (configured "https:////me@Nomad.example:8443?x=/").scheduler).meet .leader
        (.scripted [])).sent.map (·.url.origin) = [(true, "nomad.example", 8443)] := by
  have valid : (configured "https:////me@Nomad.example:8443?x=/").validate = .ok () :=
    Settings.validate_eq_ok.mpr
      ⟨by decide, by decide, by decide, by decide, by decide +kernel, by decide, by decide,
        by decide, by decide⟩
  have named : Url.NamesPlace "https:////me@Nomad.example:8443?x=/" := by decide +kernel
  exact ⟨valid, named,
    (goesHome_iff_namesPlace valid .leader (.scripted [])).1.mpr (.inl named), by decide +kernel⟩

open Sample in
/-- A scheme alone is accepted as an address, and a request is sent to a host that was never
configured. -/
theorem bare_scheme_contacts_another_host :
    (configured "http://").validate = .ok () ∧ Url.read? "http://" = none ∧
      ((ofSettings (configured "http://").scheduler).meet .leader (.scripted [])).sent.map
        (fun request => request.url.text) = ["http://v1/status/leader"] ∧
      ¬ GoesHome (configured "http://").scheduler .leader (.scripted []) := by
  have valid : (configured "http://").validate = .ok () :=
    Settings.validate_eq_ok.mpr
      ⟨by decide, by decide, by decide, by decide, by decide +kernel, by decide, by decide,
        by decide, by decide⟩
  refine ⟨valid, by decide +kernel, by decide +kernel, fun goesHome => ?_⟩
  have unread : Url.read? "http://" = none := by decide +kernel
  have sent : ∃ first, ((ofSettings (configured "http://").scheduler).meet .leader
      (.scripted [])).sent = [first] := by
    refine List.length_eq_one_iff.mp ?_
    decide +kernel
  obtain ⟨first, only⟩ := sent
  obtain ⟨home, read, -⟩ := goesHome first [] only
  exact absurd (unread.symm.trans read) nofun

end Client

end Nomad

end ServiceGroups
