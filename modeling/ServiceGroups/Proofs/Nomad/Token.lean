import ServiceGroups.Proofs.Nomad.Sent
import ServiceGroups.Proofs.Url.Domain
import ServiceGroups.Proofs.Url.Origin

/-!
# Where the token goes

The first request of a client goes to the configured address.  Each request that follows a
redirect carries the token as the first one does, so that the token stays at the configured
address exactly if every redirect that is followed leads there.
-/

namespace ServiceGroups

namespace Nomad

namespace Client

section Home

variable [Host.Domains] {settings : SchedulerSettings} {home : Url}

theorem token_of_request? {query : Query} {first : Request}
    (asked : (ofSettings settings).request? query = some first) :
    first.token = settings.token := by
  obtain ⟨url, -, rfl⟩ := exists_url_of_request? asked
  rfl

variable [Host.LawfulDomains]

/-- Any request goes first to the scheme, host and port of the configured address. -/
theorem origin_of_request? (address : Url.read? settings.address = some (.web home))
    {query : Query} {first : Request} (asked : (ofSettings settings).request? query = some first) :
    first.url.origin = home.origin := by
  obtain ⟨slashes, whole⟩ := exists_slashes settings
  obtain ⟨url, read, rfl⟩ := exists_url_of_request? asked
  have same := Url.read?_host_port whole (toList_endpointText _ _) address read
  obtain ⟨secure, host, port⟩ : url.isSecure = home.isSecure ∧ url.host = home.host ∧
      url.port = home.port := by
    simpa using same
  simp only [Url.origin, Url.contactedPort, Url.withPairs, secure, host, port]

variable {token : String}

/-- All requests that a client sends carry its token.  They go to the configured scheme, host
and port, all of them, exactly if each redirect that is followed leads there. -/
theorem token_stays_iff_redirects_do (secret : settings.token = some token)
    (address : Url.read? settings.address = some (.web home)) (demand : Demand) (wire : Wire) :
    ∃ places requests,
      ((ofSettings settings).meet demand wire).sent = wire.sent ++ requests ∧
        (requests = [] ∧ places = [] ∨
          ∃ first, (ofSettings settings).request? demand.query = some first ∧
            first.url.origin = home.origin ∧ wire.Sends first places requests) ∧
        (∀ request ∈ requests, request.token = some token) ∧
        ((∀ request ∈ requests, request.token = some token → request.url.origin = home.origin) ↔
          ∀ place ∈ places, place.origin = home.origin) := by
  obtain ⟨places, requests, sent, shape⟩ := exists_sent (ofSettings settings) demand wire
  refine ⟨places, requests, sent, ?_⟩
  rcases shape with ⟨rfl, rfl⟩ | ⟨first, asked, sends⟩
  · exact ⟨.inl ⟨rfl, rfl⟩, nofun, fun _ => nofun, fun _ => nofun⟩
  · have atHome := origin_of_request? address asked
    obtain ⟨urls, tokens⟩ := sends.urls_and_tokens
    have carried : ∀ request ∈ requests, request.token = some token := fun request member =>
      (tokens request member).trans ((token_of_request? asked).trans secret)
    refine ⟨.inr ⟨first, asked, atHome, sends⟩, carried, ?_⟩
    calc (∀ request ∈ requests, request.token = some token → request.url.origin = home.origin)
        ↔ ∀ request ∈ requests, request.url.origin = home.origin :=
          forall₂_congr fun request member => by simp [carried request member]
      _ ↔ ∀ url ∈ requests.map Request.url, url.origin = home.origin := by simp
      _ ↔ ∀ place ∈ places, place.origin = home.origin := by simp [urls, atHome]

end Home

namespace Sample

def guarded : SchedulerSettings :=
  ⟨"http://nomad.example:4646", some "s3cret", none, none, .ofMillis 0⟩

def guardedHome : Url :=
  ⟨false, "nomad.example", some 4646, [""], none⟩

/-- Another path of the same server is named, which answers. -/
def movedWithin : Wire :=
  .scripted [.reply 307 (some "/v1/leader") "", .reply 200 none "\"10.0.0.1:4647\""]

/-- Another host is named, which answers. -/
def ledAway : Wire :=
  .scripted [.reply 302 (some "http://other.example/v1/status/leader") "",
    .reply 200 none "\"10.0.0.1:4647\""]

end Sample

open Sample in
/-- After a redirect inside the configured server the token is still there only. -/
theorem token_stays_within_server :
    guarded.token = some "s3cret" ∧ Url.read? guarded.address = some (.web guardedHome) ∧
      (∀ request ∈ ((ofSettings guarded).meet .leader movedWithin).sent,
        request.token = some "s3cret" → request.url.origin = guardedHome.origin) ∧
      ((ofSettings guarded).meet .leader movedWithin).sent.length = 2 := by
  have address : Url.read? guarded.address = some (.web guardedHome) := by decide +kernel
  have asked : ((ofSettings guarded).meet .leader movedWithin).sent.map Request.url =
      [{ guardedHome with path := ["v1", "status", "leader"] },
        { guardedHome with path := ["v1", "leader"] }] := by
    decide +kernel
  obtain ⟨places, requests, sent, shape, -, stays⟩ :=
    token_stays_iff_redirects_do rfl address .leader movedWithin
  refine ⟨rfl, address, ?_, by simpa using congrArg List.length asked⟩
  rw [sent] at asked ⊢
  refine stays.mpr fun place member => ?_
  rcases shape with ⟨-, rfl⟩ | ⟨first, -, -, sends⟩
  · cases member
  · -- The redirect that is followed leads to the second of the two addresses.
    have urls := sends.urls_and_tokens.1.symm.trans asked
    rw [(List.cons.inj urls).2, List.mem_singleton] at member
    exact member ▸ rfl

open Sample in
/-- The token is sent to a host that was never configured. -/
theorem token_reaches_another_host :
    Url.read? guarded.address = some (.web guardedHome) ∧
      ((ofSettings guarded).meet .leader ledAway).sent.map
          (fun request => (request.url.host, request.token)) =
        [("nomad.example", some "s3cret"), ("other.example", some "s3cret")] ∧
      ¬ ∀ request ∈ ((ofSettings guarded).meet .leader ledAway).sent,
        request.token.isSome = true → request.url.origin = guardedHome.origin := by
  decide +kernel

end Client

end Nomad

end ServiceGroups
