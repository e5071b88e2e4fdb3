import Repeater.Proofs.Relay.Attempts
import Repeater.Proofs.Relay.Replay
import Repeater.Proofs.Server.Guard
import Repeater.Proofs.Server.Replayed

/-!
# What it is to be relayed

A request that is handed to the relay leaves the server as it is and counts once as one that came in. If its body
can be taken in, every backend of the roster is tried with its method; if not, it is refused. This holds on every
path of the relay, and on the path of the administrative requests it holds of those under other methods, whether
or not they carry a key.

## Results

* `isRelayed_of_route`            — every request on a route of the relay is relayed;
* `said_of_case`                  — its status and its text do not depend on its path;
* `isRelayed_iff_of_backendsPath` — which requests on the path of the administrative ones are relayed;
* `head_not_relayed`              — a request for the head of the list is not.
-/

namespace Repeater

-- ---------------------------------------------------------------------------
-- Trying every backend
-- ---------------------------------------------------------------------------

namespace Relay

/-- Every backend of a list is tried with a method, in order: the request that is built for it has the method, and
so has the first one that is read of its attempt, if any is. -/
structure Tries (setting : Setting) (backends : List String) (method : String) : Prop where
  built : ∀ backend d, Destination.resolve backend setting.request.target = .ok d →
    (d.outgoing setting.request).method = method
  read : ∀ {σ : Type} (net : Network σ) (st : σ) (schedule : List Nat),
    ((Flight.start setting backends).run net st schedule).1.result?.isSome = true →
    ∀ i < backends.length, ∀ x ∈ ((Flight.start setting backends).sent net st schedule i).head?,
      x.delivery.method = method
  outcomes : ∀ {σ : Type} (net : Network σ) (st : σ) (schedule : List Nat) (result : Result),
    ComesTo net setting backends st schedule result → result.verdict.outcomes.map Outcome.backend = backends

theorem Trail.method_of_head {σ : Type} {net : Network σ} {s : Setting} {backend : String} {sent : List Transfer}
    (h : Trail net s (.start s backend) sent) {x : Transfer} (hx : x ∈ sent.head?) :
    x.delivery.method = s.request.method := by
  cases hd : Destination.resolve backend s.request.target with
  | error fault =>
    have hnone : sent = [] := h.eq_nil_start_iff.2 fun d hok => by
      rw [hd] at hok
      cases hok
    rw [hnone] at hx
    cases hx
  | ok d =>
    rcases h.cases_start hd with ⟨-, hsent⟩ | ⟨e, δ, st, rest, hrequest, hsent, -⟩
    · rw [hsent] at hx
      cases hx
    · rw [hsent] at hx
      cases hx
      exact (delivery_of_request? hd hrequest).1

theorem tries_start (setting : Setting) (backends : List String) :
    Tries setting backends setting.request.method where
  built _ d _ := d.outgoing_method setting.request
  read _ _ _ hdone _ hi _ hx :=
    (trail_of_result? hdone (List.getElem?_eq_getElem hi)).method_of_head hx
  outcomes _ _ _ _ h := backends_of_comesTo h

end Relay

namespace Server

open Relay

variable {σ : Type} {net : Network σ} {st : σ} {s : Server} {freshId : String} {a : Arrival}

-- ---------------------------------------------------------------------------
-- The relay of one request
-- ---------------------------------------------------------------------------

/-- A request is relayed, whatever the network is and in whatever order the attempts take their steps. -/
structure IsRelayed (s : Server) (freshId : String) (a : Arrival) : Prop where
  kept : ∀ {σ : Type} (net : Network σ) (st : σ), (answer s net freshId a st).2.1 = s
  counted : ∀ {σ : Type} (net : Network σ) (st : σ) v served,
    Handled net st (receive s freshId a) v served → List.count .inbound served.marks = 1
  tried : Fits bodyLimit a.body → (∃ setting, (receive s freshId a).plan = .relay setting s.roster.entries ∧
      Tries setting s.roster.entries a.method) ∧
    ∀ {σ : Type} (net : Network σ) (st : σ) v served, Handled net st (receive s freshId a) v served →
      ∃ verdict, v = some verdict ∧ verdict.outcomes.map Outcome.backend = s.roster.entries
  refused : ¬Fits bodyLimit a.body → ∀ {σ : Type} (net : Network σ) (st : σ) v served,
    Handled net st (receive s freshId a) v served → v = none ∧ Says a.method served.response 413 "request body too large"

/-- A relay counts its request once, and its attempts do not count it again. -/
theorem count_inbound_relayed {setting : Setting} {backends : List String} {schedule : List Nat} {result : Result}
    (h : ComesTo net setting backends st schedule result) :
    List.count .inbound (relayed setting backends result).marks = 1 := by
  have hmarks := marks_of_reaches (Flight.reaches_run _ net st schedule) h
  have hnone : Series.inbound ∉ result.marks := by
    rw [hmarks, List.mem_flatMap]
    rintro ⟨backend, -, hmem⟩
    exact inbound_notMem_attemptMarks backend setting.request.target hmem
  show List.count .inbound (.inbound :: result.marks) = 1
  rw [List.count_cons_self, List.count_eq_zero.2 hnone]

/-- **Every request on a route of the relay is relayed.** -/
theorem isRelayed_of_route (hroute : (route s.admin.dynamicBackends a.method a.target.path).isRelay = true)
    (freshId : String) : IsRelayed s freshId a where
  kept net st := by
    by_cases hfits : Fits bodyLimit a.body
    · obtain ⟨r, -, hplan⟩ := plan_of_fits hroute hfits freshId
      rw [answer_of_relay hplan]
    · obtain ⟨e, hplan⟩ := plan_of_not_fits hroute hfits freshId
      rw [answer_of_told hplan]
  counted net st v served h := by
    by_cases hfits : Fits bodyLimit a.body
    · obtain ⟨r, -, hplan⟩ := plan_of_fits hroute hfits freshId
      obtain ⟨schedule, result, hresult, -, rfl⟩ := h.of_relay hplan
      exact count_inbound_relayed hresult
    · obtain ⟨e, hplan⟩ := plan_of_not_fits hroute hfits freshId
      obtain ⟨-, rfl⟩ := h.of_told hplan
      rfl
  tried hfits := by
    obtain ⟨setting, hplan, hmethod, -⟩ := setting_of_fits hroute hfits freshId
    refine ⟨⟨setting, hplan, hmethod ▸ tries_start setting s.roster.entries⟩, fun net st v served h => ?_⟩
    obtain ⟨schedule, result, hresult, rfl, -⟩ := h.of_relay hplan
    exact ⟨_, rfl, backends_of_comesTo hresult⟩
  refused hfits _ net st v served h := by
    obtain ⟨e, hplan⟩ := plan_of_not_fits hroute hfits freshId
    obtain ⟨rfl, rfl⟩ := h.of_told hplan
    have hsaid := (receive s freshId a).says_sent 413 "request body too large"
    rw [show (receive s freshId a).arrival.method = a.method from method_identified freshId a] at hsaid
    exact ⟨rfl, hsaid⟩

-- ---------------------------------------------------------------------------
-- What the caller is told, whatever the path
-- ---------------------------------------------------------------------------

/-- Status and text of a response depend on the method, and not on what the path allows. -/
theorem Reception.said_sent {r r' : Reception} (h : r.arrival.method = r'.arrival.method) (response : Http.Response) :
    (r.sent response).status = (r'.sent response).status ∧ (r.sent response).body = (r'.sent response).body := by
  have hfinish (method : String) (allow : Option String) :
      (finish method allow response).status = response.status ∧
        (finish method allow response).body = (finish method none response).body := by
    unfold finish
    split <;> exact ⟨rfl, rfl⟩
  have hsame (r : Reception) : (r.sent response).status = response.status ∧
      (r.sent response).body = (finish r.arrival.method none response).body :=
    hfinish r.arrival.method r.allow
  rw [(hsame r).1, (hsame r').1, (hsame r).2, (hsame r').2, h]
  exact ⟨rfl, rfl⟩

/-- **What is said of a relay does not depend on the path** of the request, nor on the server: two requests with
one method, of which both were refused, or both failed, or both succeeded, get the same status and text. -/
theorem said_of_case {σ' : Type} {net' : Network σ'} {st' : σ'} {s' : Server} {freshId' : String} {b : Arrival}
    {v v' : Option Verdict} {served served' : Served}
    (hroute : (route s.admin.dynamicBackends a.method a.target.path).isRelay = true)
    (hroute' : (route s'.admin.dynamicBackends b.method b.target.path).isRelay = true) (hmethod : b.method = a.method)
    (h : Handled net st (receive s freshId a) v served) (h' : Handled net' st' (receive s' freshId' b) v' served')
    (hcase : v.map Verdict.isFailure = v'.map Verdict.isFailure) :
    served.response.status = served'.response.status ∧ served.response.body = served'.response.body := by
  have hsame : (receive s freshId a).arrival.method = (receive s' freshId' b).arrival.method :=
    (method_identified freshId a).trans (hmethod.symm.trans (method_identified freshId' b).symm)
  rw [response_of_handled hroute h, response_of_handled hroute' h', callerResponse_congr hcase]
  exact Reception.said_sent hsame _

-- ---------------------------------------------------------------------------
-- The path of the administrative requests
-- ---------------------------------------------------------------------------

theorem not_isRelay_of_isAdmin {r : Route} (h : r.isAdmin = true) : r.isRelay = false := by
  cases r with
  | list | register | unregister => rfl
  | health | relay | notAllowed | unknown => cases h

/-- What does not go to the relay is not relayed: it counts nothing. -/
theorem not_isRelayed_of_not_relay (hroute : (route s.admin.dynamicBackends a.method a.target.path).isRelay = false)
    (freshId : String) : ¬IsRelayed s freshId a := by
  intro h
  obtain ⟨served, roster, hplan, hmarks⟩ := plan_of_not_relay hroute freshId
  have hcount := h.counted Network.empty () none _ (.told hplan)
  rw [Reception.respond, hmarks] at hcount
  cases hcount

/-- An administrative request is not relayed. -/
theorem not_isRelayed_of_admin (hadmin : (route s.admin.dynamicBackends a.method a.target.path).isAdmin = true)
    (freshId : String) : ¬IsRelayed s freshId a :=
  not_isRelayed_of_not_relay (not_isRelay_of_isAdmin hadmin) freshId

/-- **Which requests on the path of the administrative ones are relayed**: exactly those under other methods than
GET, HEAD, POST and DELETE, with the key and without it. Such a one gets the status and the text that it would get
on any other path of the relay, if what becomes of it there is of the same kind. -/
theorem isRelayed_iff_of_backendsPath (hdynamic : s.admin.dynamicBackends = true)
    (hpath : a.target.path = "/backends".toList) (freshId : String) :
    (IsRelayed s freshId a ↔ a.method ∉ ["GET", "HEAD", "POST", "DELETE"]) ∧
    (a.method ∉ ["GET", "HEAD", "POST", "DELETE"] →
      ∀ {σ σ' : Type} (net : Network σ) (net' : Network σ') (st : σ) (st' : σ') (s' : Server) (freshId' : String)
        (b : Arrival), (route s'.admin.dynamicBackends b.method b.target.path).isRelay = true →
        b.method = a.method → ∀ v v' served served', Handled net st (receive s freshId a) v served →
        Handled net' st' (receive s' freshId' b) v' served' →
        v.map Verdict.isFailure = v'.map Verdict.isFailure →
        served.response.status = served'.response.status ∧ served.response.body = served'.response.body) := by
  have hroute (hother : a.method ∉ ["GET", "HEAD", "POST", "DELETE"]) :
      (route s.admin.dynamicBackends a.method a.target.path).isRelay = true := by
    rw [hdynamic, show a.target.path = backendsPath.toList from hpath, route_of_other_method hother]
    rfl
  refine ⟨⟨fun hrelayed hmethod => ?_, fun hother => isRelayed_of_route (hroute hother) freshId⟩, ?_⟩
  · exact not_isRelayed_of_admin (isAdmin_route_iff.2 ⟨hdynamic, hpath, hmethod⟩) freshId hrelayed
  · intro hother σ σ' net net' st st' s' freshId' b hroute' hmethod v v' served served' h h' hcase
    exact said_of_case (hroute hother) hroute' hmethod h h' hcase

/-- A request on the path of the administrative ones, without a key. -/
def backendsRequest (method : String) : Arrival where
  method := method
  target := { rest := backendsPath.toList }

/-- A request to put something there is relayed, and answered like one on another path. -/
theorem isRelayed_put :
    (guardedServer ["a"]).admin.apiKey = some "k" ∧ IsRelayed (guardedServer ["a"]) "1" (backendsRequest "PUT") ∧
    ∃ served served', served = (answer (guardedServer []) Network.empty "1" (backendsRequest "PUT") ()).1 ∧
      served' = (answer {} Network.empty "1" (rootRequest "PUT" []) ()).1 ∧
      served.response.status = served'.response.status ∧ served.response.body = served'.response.body := by
  have hother : "PUT" ∉ ["GET", "HEAD", "POST", "DELETE"] := by decide
  have hrelayed (backends : List String) : IsRelayed (guardedServer backends) "1" (backendsRequest "PUT") :=
    (isRelayed_iff_of_backendsPath (s := guardedServer backends) (a := backendsRequest "PUT") rfl rfl "1").1.2 hother
  refine ⟨rfl, hrelayed ["a"], _, _, rfl, rfl, ?_⟩
  obtain ⟨-, halike⟩ :=
    isRelayed_iff_of_backendsPath (s := guardedServer []) (a := backendsRequest "PUT") rfl rfl "1"
  obtain ⟨v, h⟩ := handled_answer Network.empty (guardedServer []) "1" (backendsRequest "PUT") ()
  obtain ⟨v', h'⟩ := handled_answer Network.empty {} "1" (rootRequest "PUT" []) ()
  refine halike hother Network.empty Network.empty () () {} "1" (rootRequest "PUT" []) rfl rfl v v' _ _ h h' ?_
  -- without backends both of them succeed
  have hsuccess {s : Server} {a : Arrival} {served : Served} {v : Option Verdict} (hr : IsRelayed s "1" a)
      (hfits : Fits bodyLimit a.body) (hnone : s.roster.entries = [])
      (h : Handled Network.empty () (receive s "1" a) v served) : v.map Verdict.isFailure = some false := by
    obtain ⟨verdict, rfl, hbackends⟩ := (hr.tried hfits).2 _ _ _ _ h
    rw [hnone, List.map_eq_nil_iff] at hbackends
    rw [Option.map_some, Verdict.isFailure, hbackends]
    rfl
  rw [hsuccess (hrelayed []) (fits_nil bodyLimit) rfl h,
    hsuccess (isRelayed_of_route rfl "1") (fits_nil bodyLimit) rfl h']

/-- **A request for the head of the list is not relayed**, although its method is neither GET nor POST nor DELETE. -/
theorem head_not_relayed :
    ∃ server events, ofSettings { admin := { dynamicBackends := true } } = .ok (server, events) ∧
      (backendsRequest "HEAD").target.path = "/backends".toList ∧ "HEAD" ∉ ["GET", "POST", "DELETE"] ∧
      ¬IsRelayed server "1" (backendsRequest "HEAD") ∧
      (answer server Network.empty "1" (backendsRequest "HEAD") ()).1.marks = [] := by
  obtain ⟨server, events, hserver⟩ :
      ∃ server events, ofSettings { admin := { dynamicBackends := true } } = .ok (server, events) := ⟨_, _, rfl⟩
  obtain ⟨hadmin, -⟩ := ofSettings_spec hserver
  have hroute : (route server.admin.dynamicBackends "HEAD" (backendsRequest "HEAD").target.path).isAdmin = true := by
    rw [hadmin]
    rfl
  refine ⟨server, events, hserver, rfl, by decide, not_isRelayed_of_admin hroute "1", ?_⟩
  obtain ⟨served, roster, hplan, hmarks⟩ := plan_of_not_relay (not_isRelay_of_isAdmin hroute) "1"
  rw [answer_of_told hplan, Reception.respond, hmarks]

end Server

end Repeater
