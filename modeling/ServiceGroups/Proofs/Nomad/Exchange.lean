import ServiceGroups.Nomad.Client

/-!
# Exchanges over the wire

An exchange sends a request and, while redirects come back, the requests that follow
them, until an answer decides.  Each redirect changes the place of the request; those
that say to look elsewhere also turn it into a mere reading without a body, and from
then on it stays one.
-/

namespace ServiceGroups

namespace Nomad

/-- A redirect that leaves the method and the body of a request as they are. -/
def KeepsRequest (status : Nat) : Prop :=
  status = 307 ∨ status = 308

instance : DecidablePred KeepsRequest :=
  fun status => inferInstanceAs (Decidable (status = 307 ∨ status = 308))

namespace Request

theorem redirected_of_keeps {request : Request} {status : Nat} {url : Url}
    (keeps : KeepsRequest status) :
    request.redirected status url = { request with url } :=
  if_pos keeps

theorem redirected_of_not_keeps {request : Request} {status : Nat} {url : Url}
    (loses : ¬ KeepsRequest status) :
    request.redirected status url = { request with url, method := .get, body := none } :=
  if_neg loses

/-- The request asks for the same thing as another one, wherever it is sent. -/
def SameTask (request other : Request) : Prop :=
  request.method = other.method ∧ request.body = other.body

end Request

namespace Wire

section Replies

variable {wire next : Wire} {request : Request} {status : Nat} {location : Option String}
variable {body : String}

theorem sent_of_reply (reply : wire.send request = (.reply status location body, next)) :
    next.sent = wire.sent ++ [request] := by
  unfold send at reply
  split at reply
  · split at reply
    · cases reply
    · cases reply
      rfl
  · cases reply

theorem script_of_reply (reply : wire.send request = (.reply status location body, next)) :
    wire.script = .reply status location body :: next.script := by
  unfold send at reply
  split at reply
  · split at reply
    · cases reply
    · next same =>
        cases reply
        exact same
  · cases reply

end Replies

variable [Host.Domains]

/-- The request is sent over the wire, redirects of the given statuses are followed, and
then the answer comes back for the last request sent. -/
inductive Settles : Wire → Request → List Nat → Request → Answer → Wire → Prop where
  | answered {wire next : Wire} {request : Request} {status : Nat} {location : Option String}
      {body : String} (reply : wire.send request = (.reply status location body, next))
      (stays : (location.filter fun _ => isRedirect status).bind (request.url.join ·) = none) :
      Settles wire request [] request ⟨status, bodyOf status body⟩ next
  | redirected {wire between next : Wire} {request last : Request} {status : Nat}
      {place body : String} {url : Url} {later : List Nat} {answer : Answer}
      (reply : wire.send request = (.reply status (some place) body, between))
      (redirects : isRedirect status = true)
      (leads : request.url.join place = some (.web url))
      (rest : Settles between (request.redirected status url) later last answer next) :
      Settles wire request (status :: later) last answer next

variable {wire next : Wire} {request last : Request} {statuses : List Nat} {answer : Answer}

theorem settles_of_exchange {redirects : Nat}
    (exchanged : exchange redirects wire request = (some (last, answer), next)) :
    ∃ statuses, wire.Settles request statuses last answer next := by
  fun_induction exchange redirects wire request with
  | case1 _ _ _ _ _ _ _ reply _ stays =>
      obtain ⟨found, rfl⟩ := Prod.mk.inj exchanged
      cases Option.some.inj found
      exact ⟨[], .answered reply stays⟩
  | case2 | case3 | case5 => cases exchanged
  | case4 _ _ status _ _ _ reply url leads _ ih =>
      obtain ⟨place, kept, joined⟩ := Option.bind_eq_some_iff.mp leads
      obtain ⟨rfl, redirects⟩ := Option.filter_eq_some_iff.mp kept
      obtain ⟨later, rest⟩ := ih exchanged
      exact ⟨status :: later, .redirected reply redirects joined rest⟩

namespace Settles

/-- After redirects that keep it the request is as it was but for its place. -/
theorem sameTask_of_keeps (settles : wire.Settles request statuses last answer next)
    (keep : ∀ status ∈ statuses, KeepsRequest status) : last.SameTask request := by
  induction settles with
  | answered reply stays => exact ⟨rfl, rfl⟩
  | redirected reply redirects leads rest ih =>
      rw [Request.redirected_of_keeps (keep _ List.mem_cons_self)] at ih
      exact ih fun status member => keep status (List.mem_cons_of_mem _ member)

/-- A mere reading is one wherever it is sent. -/
theorem reads_of_reads (settles : wire.Settles request statuses last answer next)
    (reads : request.method = .get ∧ request.body = none) :
    last.method = .get ∧ last.body = none := by
  induction settles with
  | answered reply stays => exact reads
  | @redirected _ _ _ request _ status _ _ _ _ _ reply redirects leads rest ih =>
      apply ih
      by_cases keeps : KeepsRequest status
      · rw [Request.redirected_of_keeps keeps]
        exact reads
      · rw [Request.redirected_of_not_keeps keeps]
        exact ⟨rfl, rfl⟩

/-- A redirect that does not keep the request makes it a mere reading for good. -/
theorem reads_of_not_keeps (settles : wire.Settles request statuses last answer next)
    (loses : ¬ ∀ status ∈ statuses, KeepsRequest status) :
    last.method = .get ∧ last.body = none := by
  induction settles with
  | answered reply stays => exact absurd (fun _ member => nomatch member) loses
  | @redirected _ _ _ request _ status _ _ _ _ _ reply redirects leads rest ih =>
      by_cases keeps : KeepsRequest status
      · apply ih
        intro all
        apply loses
        simpa [keeps] using all
      · rw [Request.redirected_of_not_keeps keeps] at rest
        exact rest.reads_of_reads ⟨rfl, rfl⟩

/-- The last request asks for what the first asked for exactly if every redirect on the way
kept it or there was nothing to lose. -/
theorem sameTask_iff (settles : wire.Settles request statuses last answer next) :
    last.SameTask request ↔
      (∀ status ∈ statuses, KeepsRequest status) ∨
        request.method = .get ∧ request.body = none := by
  constructor
  · rintro ⟨sameMethod, sameBody⟩
    by_cases keep : ∀ status ∈ statuses, KeepsRequest status
    · exact .inl keep
    · obtain ⟨method, body⟩ := settles.reads_of_not_keeps keep
      exact .inr ⟨sameMethod ▸ method, sameBody ▸ body⟩
  · rintro (keep | reads)
    · exact settles.sameTask_of_keeps keep
    · obtain ⟨method, body⟩ := settles.reads_of_reads reads
      exact ⟨method.trans reads.1.symm, body.trans reads.2.symm⟩

/-- The redirects that are followed are among the replies of the script. -/
theorem mem_script (settles : wire.Settles request statuses last answer next) :
    ∀ status ∈ statuses, isRedirect status = true ∧
      ∃ location body, .reply status location body ∈ wire.script := by
  induction settles with
  | answered reply stays => exact fun _ member => nomatch member
  | redirected reply redirects leads rest ih =>
      have script := script_of_reply reply
      intro status member
      rw [script]
      rcases List.mem_cons.mp member with rfl | member
      · exact ⟨redirects, _, _, List.mem_cons_self⟩
      · obtain ⟨redirects, location, body, among⟩ := ih status member
        exact ⟨redirects, location, body, List.mem_cons_of_mem _ among⟩

/-- The answer came back for the request that was sent last. -/
theorem sent_eq (settles : wire.Settles request statuses last answer next) :
    ∃ before, next.sent = before ++ [last] := by
  induction settles with
  | answered reply stays => exact ⟨_, sent_of_reply reply⟩
  | redirected reply redirects leads rest ih => exact ih

end Settles

end Wire

end Nomad

end ServiceGroups
