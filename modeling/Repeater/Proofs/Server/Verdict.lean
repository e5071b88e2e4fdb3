import Repeater.Proofs.Relay.Independence
import Repeater.Proofs.Server.Handling

/-!
# What the caller of the relay is told

Of a request that was relayed the caller learns whether some backend was not reached, and nothing else: not
which one, not what the others answered, not how many there are. Of a request whose body could not be taken in
it learns that, and no backend learns of the request.

## Results

* `response_of_handled`     — the response is that of one of three cases;
* `status_eq_iff_isFailure` — the status says whether some backend was not reached;
* `response_eq_of_case`     — whatever the rosters and the networks are, one case has one response;
* `told_caller`             — both, with the statuses and the texts;
* `connect_silent`          — the success of a CONNECT request is told without a text.
-/

namespace Repeater.Server

open Relay

variable {σ : Type} {net : Network σ} {st : σ} {s : Server} {freshId : String} {a : Arrival}
  {v : Option Verdict} {served : Served}

-- ---------------------------------------------------------------------------
-- What a response says of a verdict
-- ---------------------------------------------------------------------------

/-- A response without the id of its request. -/
def withoutId (r : Http.Response) : Http.Response :=
  { r with headers := r.headers.erase requestIdField }

theorem Reception.says_verdict (r : Reception) (v : Verdict) :
    ((∃ o ∈ v.outcomes, o.isFailure = true) → Says r.arrival.method (r.sent v.response) 502 "failed to proxy") ∧
      ((∀ o ∈ v.outcomes, o.isFailure = false) → Says r.arrival.method (r.sent v.response) 200 "proxied") := by
  rw [Verdict.response, Verdict.status, Verdict.message]
  constructor
  · intro hfailed
    rw [v.isFailure_iff.2 hfailed]
    exact r.says_sent 502 "failed to proxy"
  · intro hall
    have hsuccess : v.isFailure = false := by
      rw [Verdict.isFailure, List.any_eq_false]
      intro o ho hfailed
      rw [hall o ho] at hfailed
      cases hfailed
    rw [hsuccess]
    exact r.says_sent 200 "proxied"

/-- Up to the id, a response depends on the method and on what the path allows only. -/
theorem Reception.withoutId_sent {r r' : Reception} (hmethod : r.arrival.method = r'.arrival.method)
    (hallow : r.allow = r'.allow) (response : Http.Response) :
    withoutId (r.sent response) = withoutId (r'.sent response) := by
  have herase (r : Reception) :
      withoutId (r.sent response) = withoutId (finish r.arrival.method r.allow response) := by
    have hnone : ((r.arrival.headers.values requestIdField).take 1 |>.map fun v =>
        (⟨requestIdField, v⟩ : Http.Header)).filter (fun h => h.name != requestIdField) = [] := by
      rw [List.filter_eq_nil_iff]
      intro x hx
      obtain ⟨value, -, rfl⟩ := List.mem_map.1 hx
      simp
    simp only [withoutId, sent, respond, Http.Headers.erase, List.filter_append, hnone, List.append_nil]
  rw [herase r, herase r', hmethod, hallow]

-- ---------------------------------------------------------------------------
-- The three cases
-- ---------------------------------------------------------------------------

/-- The response that a caller of the relay is to get, if there is a verdict and if there is none. -/
def callerResponse : Option Verdict → Http.Response
  | none => tooLargeResponse
  | some v => v.response

theorem callerResponse_congr {v v' : Option Verdict} (h : v.map Verdict.isFailure = v'.map Verdict.isFailure) :
    callerResponse v = callerResponse v' := by
  cases v with
  | none =>
    cases v' with
    | none => rfl
    | some v' => cases h
  | some v =>
    cases v' with
    | none => cases h
    | some v' =>
      have hfailure : v.isFailure = v'.isFailure := Option.some.inj h
      simp only [callerResponse, Verdict.response, Verdict.status, Verdict.message, hfailure]

theorem response_of_handled
    (hroute : (route s.admin.dynamicBackends a.method a.target.path).isRelay = true)
    (h : Handled net st (receive s freshId a) v served) :
    served.response = (receive s freshId a).sent (callerResponse v) := by
  by_cases hfits : Fits bodyLimit a.body
  · obtain ⟨r, -, hplan⟩ := plan_of_fits hroute hfits freshId
    obtain ⟨schedule, result, -, rfl, rfl⟩ := h.of_relay hplan
    rfl
  · obtain ⟨e, hplan⟩ := plan_of_not_fits hroute hfits freshId
    obtain ⟨rfl, rfl⟩ := h.of_told hplan
    rfl

/-- The status says whether some backend was not reached. -/
theorem status_eq_iff_isFailure (hroute : (route s.admin.dynamicBackends a.method a.target.path).isRelay = true)
    {v : Verdict} (h : Handled net st (receive s freshId a) (some v) served) :
    served.response.status = 502 ↔ v.isFailure = true := by
  have hstatus := ((receive s freshId a).says_sent v.status v.message).status_eq
  rw [response_of_handled hroute h, callerResponse, Verdict.response, hstatus, Verdict.status]
  cases v.isFailure <;> decide

/-- **One case has one response**, whatever the rosters and the networks are, and in whatever order the attempts
take their steps. -/
theorem response_eq_of_case {σ' : Type} {net' : Network σ'} {st' : σ'} {s' : Server} {freshId' : String}
    {v' : Option Verdict} {served' : Served}
    (hadmin : s'.admin.dynamicBackends = s.admin.dynamicBackends)
    (hroute : (route s.admin.dynamicBackends a.method a.target.path).isRelay = true)
    (h : Handled net st (receive s freshId a) v served) (h' : Handled net' st' (receive s' freshId' a) v' served')
    (hcase : v.map Verdict.isFailure = v'.map Verdict.isFailure) :
    withoutId served.response = withoutId served'.response ∧
      (a.headers.has requestIdField = true ∨ freshId = freshId' → served.response = served'.response) := by
  have hroute' : (route s'.admin.dynamicBackends a.method a.target.path).isRelay = true := by rwa [hadmin]
  obtain ⟨allow, hallow⟩ := isRelay_iff.1 hroute
  have hallow' : route s'.admin.dynamicBackends a.method a.target.path = .relay allow := by rwa [hadmin]
  have hmethod : (receive s freshId a).arrival.method = (receive s' freshId' a).arrival.method :=
    (method_identified freshId a).trans (method_identified freshId' a).symm
  have hallowed : (receive s freshId a).allow = (receive s' freshId' a).allow := by
    rw [receive_of_relay hallow, receive_of_relay hallow']
  rw [response_of_handled hroute h, response_of_handled hroute' h', callerResponse_congr hcase]
  refine ⟨Reception.withoutId_sent hmethod hallowed _, ?_⟩
  rw [receive_of_relay hallow, receive_of_relay hallow']
  rintro (hown | rfl)
  · rw [identified_of_has hown, identified_of_has hown]
    rfl
  · rfl

/-- **What the caller of the relay is told.** A request goes to the relay, whatever the backends of the server
are. If its body cannot be taken in, it is refused at once, whatever the network is, and nothing is counted but
the request. If the body is taken in, the answer is a failure if some backend was not reached, and a success if
all were. Two runs of one request that come to the same of these three cases give the same response, up to the
id of a request that brings none, however much the backends and the networks differ. -/
theorem told_caller (hroute : (route s.admin.dynamicBackends a.method a.target.path).isRelay = true)
    (freshId : String) :
    (¬Fits bodyLimit a.body → ∃ refusal served,
      (receive s freshId a).plan = .told refusal s.roster ∧ served.marks = [.inbound] ∧
      Says a.method served.response 413 "request body too large" ∧
      ∀ {σ : Type} (net : Network σ) (st : σ), answer s net freshId a st = (served, s, st) ∧
        ∀ v served', Handled net st (receive s freshId a) v served' → v = none ∧ served' = served) ∧
    (Fits bodyLimit a.body → ∀ {σ : Type} (net : Network σ) (st : σ),
      (∃ v, Handled net st (receive s freshId a) v (answer s net freshId a st).1) ∧
      ∀ v served, Handled net st (receive s freshId a) v served → ∃ verdict, v = some verdict ∧
        verdict.outcomes.map Outcome.backend = s.roster.entries ∧
        ((∃ o ∈ verdict.outcomes, o.isFailure = true) → Says a.method served.response 502 "failed to proxy") ∧
        ((∀ o ∈ verdict.outcomes, o.isFailure = false) → Says a.method served.response 200 "proxied")) ∧
    ∀ {σ σ' : Type} (net : Network σ) (net' : Network σ') (st : σ) (st' : σ') (s' : Server) (freshId' : String)
      v v' served served', s'.admin.dynamicBackends = s.admin.dynamicBackends →
      Handled net st (receive s freshId a) v served → Handled net' st' (receive s' freshId' a) v' served' →
      v.map Verdict.isFailure = v'.map Verdict.isFailure →
      withoutId served.response = withoutId served'.response ∧
        (a.headers.has requestIdField = true ∨ freshId = freshId' → served.response = served'.response) := by
  have hmethod : (receive s freshId a).arrival.method = a.method := method_identified freshId a
  refine ⟨fun hfits => ?_, fun hfits σ net st => ⟨handled_answer net s freshId a st, fun v served h => ?_⟩, ?_⟩
  · obtain ⟨e, hplan⟩ := plan_of_not_fits hroute hfits freshId
    have hsaid := (receive s freshId a).says_sent 413 "request body too large"
    rw [hmethod] at hsaid
    refine ⟨_, (receive s freshId a).respond (rejected (identified freshId a) e), hplan, rfl, hsaid,
      fun net st => ⟨answer_of_told hplan net st, fun v served' h => h.of_told hplan⟩⟩
  · obtain ⟨r, -, hplan⟩ := plan_of_fits hroute hfits freshId
    obtain ⟨schedule, result, hresult, rfl, rfl⟩ := h.of_relay hplan
    have hsaid := (receive s freshId a).says_verdict result.verdict
    rw [hmethod] at hsaid
    exact ⟨_, rfl, backends_of_comesTo hresult, hsaid⟩
  · intro σ σ' net net' st st' s' freshId' v v' served served' hadmin h h' hcase
    exact response_eq_of_case hadmin hroute h h' hcase

/-- A request for the root. -/
def rootRequest (method : String) (body : List Piece) : Arrival :=
  { method, target := { rest := ['/'] }, body }

/-- A server with these backends. -/
def serverOf (backends : List String) : Server where
  policy := localSetting.policy
  roster := (Roster.seed backends).1

/-- A request that breaks off is refused. One that is relayed to a server that hangs up fails, and the caller is told
the same as if there were two backends, of which one answers and the other is no URL. -/
theorem told_caller_root :
    let hanging := localNetwork fun _ => {}
    let answering := localNetwork fun _ => doneReply
    let one := serverOf [localBackend]
    let two := serverOf [localBackend, "::not-a-url"]
    ¬Fits bodyLimit (rootRequest "POST" [.broken "reset"]).body ∧
    (∃ served, Says "POST" served.response 413 "request body too large" ∧
      answer one hanging "1" (rootRequest "POST" [.broken "reset"]) () = (served, one, ())) ∧
    Fits bodyLimit (rootRequest "GET" []).body ∧
    ∃ v v' served served', Handled hanging () (receive one "1" (rootRequest "GET" [])) (some v) served ∧
      Handled answering () (receive two "2" (rootRequest "GET" [])) (some v') served' ∧
      v.outcomes.map Outcome.backend = [localBackend] ∧
      v'.outcomes.map Outcome.backend = [localBackend, "::not-a-url"] ∧
      Says "GET" served.response 502 "failed to proxy" ∧ withoutId served.response = withoutId served'.response := by
  intro hanging answering one two
  have hbroken := not_fits_broken bodyLimit "reset" []
  have hfits := fits_nil bodyLimit
  obtain ⟨hrefused, -, -⟩ := told_caller (s := one) (a := rootRequest "POST" [.broken "reset"]) rfl "1"
  obtain ⟨-, hrelayed, hsame⟩ := told_caller (s := one) (a := rootRequest "GET" []) rfl "1"
  obtain ⟨-, hrelayed', -⟩ := told_caller (s := two) (a := rootRequest "GET" []) rfl "2"
  obtain ⟨_, served, -, -, hsaid, hanswer⟩ := hrefused hbroken
  obtain ⟨⟨_, hv⟩, hall⟩ := hrelayed hfits hanging ()
  obtain ⟨⟨_, hv'⟩, hall'⟩ := hrelayed' hfits answering ()
  obtain ⟨v, rfl, hbackends, hfailure, -⟩ := hall _ _ hv
  obtain ⟨v', rfl, hbackends', -, -⟩ := hall' _ _ hv'
  have hfailed : v.isFailure = true := (status_eq_iff_isFailure rfl hv).1 (by decide +kernel)
  have hfailed' : v'.isFailure = true := (status_eq_iff_isFailure rfl hv').1 (by decide +kernel)
  have hcase : (some v).map Verdict.isFailure = (some v').map Verdict.isFailure := by
    rw [Option.map_some, Option.map_some, hfailed, hfailed']
  exact ⟨hbroken, ⟨served, hsaid, (hanswer hanging ()).1⟩, hfits, v, v', _, _, hv, hv', hbackends, hbackends',
    hfailure (v.isFailure_iff.1 hfailed), (hsame _ _ _ _ two "2" _ _ _ _ rfl hv hv' hcase).1⟩

/-- **The success of a CONNECT request is told without a text.** -/
theorem connect_silent :
    (route ({} : Server).admin.dynamicBackends "CONNECT" (rootRequest "CONNECT" []).target.path).isRelay = true ∧
    Fits bodyLimit (rootRequest "CONNECT" []).body ∧
    ∃ v served, Handled Network.empty () (receive {} "1" (rootRequest "CONNECT" [])) (some v) served ∧
      (∀ o ∈ v.outcomes, o.isFailure = false) ∧ served.response.status = 200 ∧
      served.response.body ≠ Text.utf8 "proxied" := by
  have hfits := fits_nil bodyLimit
  obtain ⟨r, -, hplan⟩ := plan_of_fits (s := {}) (a := rootRequest "CONNECT" []) rfl hfits "1"
  have hresult (setting : Setting) :
      ComesTo Network.empty setting [] () [] (.ofAttempts setting.request.requestId []) := rfl
  refine ⟨rfl, hfits, _, _, .relayed hplan (hresult _), ?_, rfl, ?_⟩
  · intro o ho
    cases ho
  · show ByteArray.empty ≠ Text.utf8 "proxied"
    decide

end Repeater.Server
