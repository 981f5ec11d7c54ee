import Mathlib.Control.Monad.Basic
import ServiceGroups.Proofs.Nomad.Exchange
import ServiceGroups.Url.Domain

/-!
# What a success stands for

A call succeeds when the last request of its exchange is answered with success and the
body of that answer decodes.  Whether that request still asked for what the call asked for
depends on the redirects alone: one that says to look elsewhere leaves a mere reading, and
the answer to the reading passes for the success of the call.
-/

namespace ServiceGroups

namespace Nomad

/-- No call is a mere reading, so that every call has something to lose. -/
theorem Query.method_ofCall_ne_get (call : JobsCall) : (Query.ofCall call).method ≠ .get := by
  cases call <;> exact Method.noConfusion

namespace Client

section Successes

variable [Host.Domains]

/-- The request for the query is sent, redirects of the given statuses are followed, and the
last request is answered with success. -/
inductive Succeeds (client : Client) (query : Query) (wire : Wire) :
    List Nat → Request → Answer → Wire → Prop where
  | intro {first last : Request} {statuses : List Nat} {answer : Answer} {next : Wire}
      (asked : client.request? query = some first)
      (settles : wire.Settles first statuses last answer next)
      (success : Http.isSuccessStatus answer.status = true) :
      Succeeds client query wire statuses last answer next

variable {client : Client} {query : Query} {wire next : Wire}

theorem sameTask_of_request? {first : Request} (asked : client.request? query = some first) :
    first.method = query.method ∧ first.body = query.body := by
  unfold request? at asked
  split at asked
  · cases asked
    exact ⟨rfl, rfl⟩
  · cases asked

theorem succeeds_of_fetch {body : String} (fetched : client.fetch query wire = (.ok body, next)) :
    ∃ statuses last answer,
      client.Succeeds query wire statuses last answer next ∧ answer.body = body := by
  unfold fetch at fetched
  split at fetched
  · cases fetched
  · split at fetched
    · cases fetched
    · next first asked =>
        obtain ⟨judged, ended⟩ := Prod.mk.inj fetched
        rcases exchanged : exchange maxRedirects wire first with ⟨_ | ⟨last, answer⟩, final⟩
        · rw [exchanged] at judged
          cases judged
        · rw [exchanged] at judged ended
          obtain rfl : final = next := ended
          obtain ⟨statuses, settles⟩ := Wire.settles_of_exchange exchanged
          unfold judge at judged
          split at judged
          · cases judged
          · next same =>
              cases same
              split at judged
              · next success =>
                  exact ⟨statuses, last, answer, ⟨asked, settles, success⟩, Except.ok.inj judged⟩
              · cases judged

/-- What is made of the body of an answer is made of the answer to the last request. -/
theorem succeeds_of_bind {α : Type} (meaning : String → Except Failure α) {value : α}
    (bound : (client.fetch query wire).1.bind meaning = .ok value) :
    ∃ statuses last answer,
      client.Succeeds query wire statuses last answer (client.fetch query wire).2 ∧
        meaning answer.body = .ok value := by
  rcases fetched : client.fetch query wire with ⟨failure | body, final⟩
  · rw [fetched] at bound
    cases bound
  · rw [fetched] at bound
    obtain ⟨statuses, last, answer, succeeds, rfl⟩ := succeeds_of_fetch fetched
    exact ⟨statuses, last, answer, succeeds, bound⟩

namespace Succeeds

variable {statuses : List Nat} {last : Request} {answer : Answer}

theorem performed_iff (succeeds : client.Succeeds query wire statuses last answer next) :
    last.method = query.method ∧ last.body = query.body ↔
      (∀ status ∈ statuses, KeepsRequest status) ∨ query.method = .get ∧ query.body = none := by
  obtain ⟨asked, settles, success⟩ := succeeds
  obtain ⟨method, body⟩ := sameTask_of_request? asked
  have same := settles.sameTask_iff
  rwa [Request.SameTask, method, body] at same

theorem mem_script (succeeds : client.Succeeds query wire statuses last answer next) :
    ∀ status ∈ statuses, isRedirect status = true ∧
      ∃ location body, .reply status location body ∈ wire.script := by
  obtain ⟨asked, settles, success⟩ := succeeds
  exact settles.mem_script

theorem sent_eq (succeeds : client.Succeeds query wire statuses last answer next) :
    ∃ before, next.sent = before ++ [last] := by
  obtain ⟨asked, settles, success⟩ := succeeds
  exact settles.sent_eq

end Succeeds

/-- A call that succeeds gives what the answer to the last request says.  That request had
the method and the body of the call exactly if no redirect was followed that turns a request
into a reading; asking for the leader is a reading from the start. -/
theorem success_is_performed_unless_turned_to_reading (client : Client) (wire : Wire) :
    (∀ (call : JobsCall) (reply : call.Reply), (client.call call wire).1 = .ok reply →
      ∃ statuses last answer,
        client.Succeeds (.ofCall call) wire statuses last answer (client.call call wire).2 ∧
        replyOf call answer.body = .ok reply ∧
        (∃ before, (client.call call wire).2.sent = before ++ [last]) ∧
        (last.method = (Query.ofCall call).method ∧ last.body = (Query.ofCall call).body ↔
          ∀ status ∈ statuses, status = 307 ∨ status = 308)) ∧
    ∀ text, (client.leader wire).1 = .ok text →
      ∃ statuses last answer,
        client.Succeeds .leader wire statuses last answer (client.leader wire).2 ∧
        (decodeBody PlainText .leader answer.body).map PlainText.text = .ok text ∧
        (∃ before, (client.leader wire).2.sent = before ++ [last]) ∧
        last.method = Query.leader.method ∧ last.body = Query.leader.body := by
  constructor
  · intro call reply bound
    obtain ⟨statuses, last, answer, succeeds, decoded⟩ :=
      succeeds_of_bind (replyOf call) bound
    refine ⟨statuses, last, answer, succeeds, decoded, succeeds.sent_eq, ?_⟩
    rw [succeeds.performed_iff]
    simp only [Query.method_ofCall_ne_get, false_and, or_false, KeepsRequest]
  · intro text bound
    obtain ⟨statuses, last, answer, succeeds, decoded⟩ := succeeds_of_bind _ bound
    exact ⟨statuses, last, answer, succeeds, decoded, succeeds.sent_eq,
      succeeds.performed_iff.mpr (.inr ⟨rfl, rfl⟩)⟩

end Successes

namespace Sample

def nearby : Client :=
  ⟨"http://nomad.example:4646", none, none, none⟩

def job : Job.Spec :=
  ⟨"web", .object [("ID", .string "web")]⟩

/-- The registration is sent on to another server, which carries it out. -/
def sentOn : Wire :=
  .scripted [.reply 307 (some "http://other.example:4646/v1/jobs") "",
    .reply 200 none "\x7b\"EvalID\":\"e1\"\x7d"]

/-- The registration is answered by pointing to the secure address, where the same path
lists the jobs; there are none. -/
def pointedElsewhere : Wire :=
  .scripted [.reply 302 (some "https://nomad.example:4646/v1/jobs") "", .reply 200 none "[]"]

end Sample

open Sample in
/-- A registration that is sent on as it is has been performed. -/
theorem registration_sent_on_is_performed :
    (nearby.call (.register job) sentOn).1 = .ok ⟨"e1"⟩ ∧
      ∃ before last, (nearby.call (.register job) sentOn).2.sent = before ++ [last] ∧
        last.method = .post ∧ last.body = (Query.ofCall (.register job)).body := by
  have succeeded : (nearby.call (.register job) sentOn).1 = .ok ⟨"e1"⟩ := by decide +kernel
  obtain ⟨statuses, last, answer, succeeds, decoded, ⟨before, sent⟩, performed⟩ :=
    (success_is_performed_unless_turned_to_reading nearby sentOn).1 (.register job) ⟨"e1"⟩
      succeeded
  refine ⟨succeeded, before, last, sent, performed.mpr fun status member => ?_⟩
  -- Of the two replies only the first is a redirect.
  obtain ⟨redirects, location, body, among⟩ := succeeds.mem_script status member
  simp only [Wire.scripted, sentOn, List.mem_cons, Delivery.reply.injEq, List.not_mem_nil,
    or_false] at among
  rcases among with ⟨rfl, -⟩ | ⟨rfl, -⟩
  · exact .inl rfl
  · cases redirects

open Sample in
/-- A registration passes for done although the request that was answered with success only
asked for the jobs. -/
theorem registration_succeeds_by_reading :
    (nearby.call (.register job) pointedElsewhere).1 = .ok ⟨""⟩ ∧
      (nearby.call (.register job) pointedElsewhere).2.sent.map
          (fun sent => (sent.method, sent.body.isSome)) = [(.post, true), (.get, false)] := by
  decide +kernel

end Client

end Nomad

end ServiceGroups
