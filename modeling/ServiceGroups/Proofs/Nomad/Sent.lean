import Mathlib.Data.List.DropRight
import ServiceGroups.Proofs.Nomad.Exchange

/-!
# The requests of a client

Whatever a client is asked for, it sends one request and then one more for each redirect
that it follows.  Nothing is sent if the token cannot be sent, if the address of the request
is none, or if the wire reaches nothing.
-/

namespace ServiceGroups

namespace Nomad

/-- What a client can be asked for. -/
inductive Demand where
  | leader
  | call (call : JobsCall)

def Demand.query : Demand → Query
  | .leader => .leader
  | .call asked => .ofCall asked

namespace Client

variable [Host.Domains]

/-- The wire after the client has done what it was asked for. -/
def meet (client : Client) : Demand → Wire → Wire
  | .leader, wire => (client.leader wire).2
  | .call asked, wire => (client.call asked wire).2

theorem meet_eq (client : Client) (demand : Demand) (wire : Wire) :
    client.meet demand wire = (client.fetch demand.query wire).2 := by
  cases demand <;> rfl

end Client

namespace Wire

theorem send_of_reachable {wire next : Wire} {request : Request}
    (reachable : wire.isReachable = true) {delivery : Delivery}
    (sends : wire.send request = (delivery, next)) :
    next.isReachable = true ∧ next.sent = wire.sent ++ [request] := by
  rw [send, if_pos reachable] at sends
  split at sends <;> cases sends <;> exact ⟨reachable, rfl⟩

variable [Host.Domains]

/-- The requests are sent one after another: the first one, and for each redirect that is
followed one to the place where it leads. -/
inductive Sends : Wire → Request → List Url → List Request → Prop where
  | stops {wire : Wire} {request : Request} : Sends wire request [] [request]
  | follows {wire between : Wire} {request : Request} {status : Nat} {place body : String}
      {url : Url} {places : List Url} {later : List Request}
      (reply : wire.send request = (.reply status (some place) body, between))
      (redirects : isRedirect status = true)
      (leads : request.url.join place = some (.web url))
      (rest : Sends between (request.redirected status url) places later) :
      Sends wire request (url :: places) (request :: later)

variable {wire : Wire} {request : Request} {places : List Url} {requests : List Request}

theorem sent_of_exchange (reachable : wire.isReachable = true) (redirects : Nat)
    (request : Request) :
    ∃ places requests, wire.Sends request places requests ∧
      (exchange redirects wire request).2.sent = wire.sent ++ requests := by
  fun_induction exchange redirects wire request with
  | case1 | case2 | case3 => exact ⟨[], _, .stops, (send_of_reachable reachable ‹_›).2⟩
  | case4 _ _ _ _ _ _ reply _ leads _ ih =>
      obtain ⟨place, kept, joined⟩ := Option.bind_eq_some_iff.mp leads
      obtain ⟨rfl, redirects⟩ := Option.filter_eq_some_iff.mp kept
      obtain ⟨reached, sent⟩ := send_of_reachable reachable reply
      obtain ⟨places, later, rest, made⟩ := ih reached
      refine ⟨_, _, .follows reply redirects joined rest, ?_⟩
      rw [made, sent, List.append_assoc, List.singleton_append]
  | case5 _ _ _ _ _ _ sends => exact ⟨[], _, .stops, (send_of_reachable reachable sends).2⟩

theorem exchange_of_unreachable (unreachable : wire.isReachable = false) (redirects : Nat)
    (request : Request) : exchange redirects wire request = (none, wire) := by
  have dropped : wire.send request = (.dropped, wire) := by
    rw [send, unreachable]
    exact if_neg Bool.false_ne_true
  cases redirects <;> rw [exchange, dropped]

namespace Sends

theorem exists_cons (sends : wire.Sends request places requests) :
    ∃ later, requests = request :: later := by
  cases sends <;> exact ⟨_, rfl⟩

/-- The requests go to the place of the first one and to those where redirects lead, and the
token goes along. -/
theorem urls_and_tokens (sends : wire.Sends request places requests) :
    requests.map Request.url = request.url :: places ∧
      ∀ sent ∈ requests, sent.token = request.token := by
  induction sends with
  | stops => exact ⟨rfl, fun sent member => List.mem_singleton.mp member ▸ rfl⟩
  | @follows _ _ request status _ _ url _ _ reply redirects leads rest ih =>
      obtain ⟨url_eq, token_eq⟩ : (request.redirected status url).url = url ∧
          (request.redirected status url).token = request.token := by
        by_cases keeps : KeepsRequest status
        · rw [Request.redirected_of_keeps keeps]
          exact ⟨rfl, rfl⟩
        · rw [Request.redirected_of_not_keeps keeps]
          exact ⟨rfl, rfl⟩
      rw [url_eq, token_eq] at ih
      refine ⟨congrArg (request.url :: ·) ih.1, fun sent member => ?_⟩
      rcases List.mem_cons.mp member with rfl | later
      · rfl
      · exact ih.2 sent later

end Sends

end Wire

namespace Client

variable {client : Client} {demand : Demand}

/-- The configured address without the slashes at its end. -/
theorem toList_baseUrl (settings : SchedulerSettings) :
    (ofSettings settings).baseUrl.toList = settings.address.toList.rdropWhile (· == '/') :=
  String.toList_ofList

theorem exists_slashes (settings : SchedulerSettings) :
    ∃ slashes, settings.address.toList =
      (ofSettings settings).baseUrl.toList ++ List.replicate slashes '/' := by
  have dropped : settings.address.toList.rtakeWhile (· == '/') =
      List.replicate (settings.address.toList.rtakeWhile (· == '/')).length '/' :=
    List.eq_replicate_of_mem fun char member => by
      simpa using List.mem_rtakeWhile_imp member
  refine ⟨(settings.address.toList.rtakeWhile (· == '/')).length, ?_⟩
  rw [toList_baseUrl, ← dropped, List.rdropWhile_append_rtakeWhile]

theorem toList_endpointText (client : Client) (endpoint : String) :
    (client.endpointText endpoint).toList =
      client.baseUrl.toList ++ '/' :: endpoint.toList.dropWhile (· == '/') := by
  simp [endpointText, Text.trimStartChar]

/-- The token can stand in a header, and the wire reaches the scheduler. -/
def CanSend (client : Client) (wire : Wire) : Prop :=
  wire.isReachable = true ∧ client.checkToken = .ok ()

variable [Host.Domains]

/-- A request is made for the address that its endpoint is read as. -/
theorem exists_url_of_request? {query : Query} {request : Request}
    (asked : client.request? query = some request) :
    ∃ url, Url.read? (client.endpointText query.endpoint) = some (.web url) ∧
      request = ⟨query.method, url.withPairs (Text.formEncode (client.pairs query)),
        client.token, query.body⟩ := by
  unfold request? at asked
  split at asked
  · next url read =>
      cases asked
      exact ⟨url, read, rfl⟩
  · cases asked

theorem sent_of_canSend {first : Request} (asked : client.request? demand.query = some first)
    {wire : Wire} (can : client.CanSend wire) :
    ∃ places requests, wire.Sends first places requests ∧
      (client.meet demand wire).sent = wire.sent ++ requests := by
  rw [meet_eq, fetch, can.2]
  simp only [asked]
  exact Wire.sent_of_exchange can.1 _ _

theorem sent_of_request?_eq_none (refused : client.request? demand.query = none) (wire : Wire) :
    (client.meet demand wire).sent = wire.sent := by
  rw [meet_eq, fetch]
  split
  · rfl
  · rw [refused]

theorem sent_of_not_canSend {wire : Wire} (cannot : ¬ client.CanSend wire) :
    (client.meet demand wire).sent = wire.sent := by
  rw [meet_eq, fetch]
  split
  · rfl
  · next checked =>
      have unreachable : wire.isReachable = false :=
        Bool.eq_false_iff.mpr fun reachable => cannot ⟨reachable, checked⟩
      split
      · rfl
      · rw [Wire.exchange_of_unreachable unreachable]

/-- What a client sends are the requests of one exchange, if there are any. -/
theorem exists_sent (client : Client) (demand : Demand) (wire : Wire) :
    ∃ places requests, (client.meet demand wire).sent = wire.sent ++ requests ∧
      (requests = [] ∧ places = [] ∨
        ∃ first, client.request? demand.query = some first ∧
          wire.Sends first places requests) := by
  cases asked : client.request? demand.query with
  | none =>
      refine ⟨[], [], ?_, .inl ⟨rfl, rfl⟩⟩
      rw [sent_of_request?_eq_none asked, List.append_nil]
  | some first =>
      by_cases can : client.CanSend wire
      · obtain ⟨places, requests, sends, sent⟩ := sent_of_canSend asked can
        exact ⟨places, requests, sent, .inr ⟨first, rfl, sends⟩⟩
      · refine ⟨[], [], ?_, .inl ⟨rfl, rfl⟩⟩
        rw [sent_of_not_canSend can, List.append_nil]

/-- The first request that a client sends is the one it makes for the demand. -/
theorem request?_of_sent {wire : Wire} {first : Request} {later : List Request}
    (sent : (client.meet demand wire).sent = wire.sent ++ first :: later) :
    client.request? demand.query = some first := by
  obtain ⟨places, requests, made, shape⟩ := exists_sent client demand wire
  obtain rfl : requests = first :: later := List.append_cancel_left (made.symm.trans sent)
  rcases shape with ⟨nothing, -⟩ | ⟨request, asked, sends⟩
  · cases nothing
  · obtain ⟨others, same⟩ := sends.exists_cons
    rw [asked, (List.cons.inj same).1]

end Client

end Nomad

end ServiceGroups
