import Repeater.Proofs.Server.Passage

/-!
# What is relayed, and what is answered here

Two paths are the server's own: that of the health check, and, where they are switched on, that of the
administrative requests under their methods. Everything else with a path goes to the relay. Paths are compared
as they came, so a path that is only like one of the two is none of them.

The path of the health check is the server's own under every method, and all but two of them are refused there.

## Results

* `isRelay_route_iff`     — which requests go to the relay;
* `told_of_healthPath`    — what a request on the path of the health check gets;
* `isRelayed_iff`         — which requests are relayed, and that none on the path of the health check is;
* `isRelayed_respelled`   — paths that are like the server's own are relayed;
* `healthPath_swallows`   — a request to post something to the path of the health check is not.
-/

namespace Repeater.Server

open Relay

variable {σ : Type} {net : Network σ} {st : σ} {s : Server} {freshId : String} {a : Arrival}

-- ---------------------------------------------------------------------------
-- Which requests go to the relay
-- ---------------------------------------------------------------------------

theorem route_of_healthPath (dynamic : Bool) (method : String) : route dynamic method healthPath.toList =
    if method = "GET" ∨ method = "HEAD" then .health else .notAllowed "GET,HEAD" := by
  rw [route, if_pos rfl]

theorem isRelay_healthPath (dynamic : Bool) (method : String) :
    (route dynamic method healthPath.toList).isRelay = false := by
  rw [route_of_healthPath]
  split <;> rfl

/-- Every path that starts with a slash belongs to the relay, but for those that are the server's own. -/
theorem isRelay_route_iff {dynamic : Bool} {method : String} {path : List Char} :
    (route dynamic method path).isRelay = true ↔
      path.head? = some '/' ∧ path ≠ healthPath.toList ∧
        ¬(dynamic = true ∧ path = backendsPath.toList ∧ method ∈ guardedMethods) := by
  by_cases hhealth : path = healthPath.toList
  · rw [hhealth, isRelay_healthPath]
    simp
  · by_cases hbackends : dynamic = true ∧ path = backendsPath.toList
    · obtain ⟨rfl, rfl⟩ := hbackends
      by_cases hmethod : method ∈ guardedMethods
      · -- an administrative request
        have hadmin : (route true method backendsPath.toList).isAdmin = true := isAdmin_route_iff.2 ⟨rfl, rfl, hmethod⟩
        rw [not_isRelay_of_isAdmin hadmin]
        simp [hmethod]
      · rw [route_of_other_method hmethod]
        exact ⟨fun _ => ⟨rfl, backendsPath_ne, fun h => hmethod h.2.2⟩, fun _ => rfl⟩
    · -- neither of the two paths
      have hroute : route dynamic method path = if path.head? = some '/' then .relay none else .unknown := by
        rw [route, if_neg hhealth, if_neg hbackends]
      have hnone : ¬(dynamic = true ∧ path = backendsPath.toList ∧ method ∈ guardedMethods) :=
        fun h => hbackends ⟨h.1, h.2.1⟩
      rw [hroute]
      split
      · rename_i hslash
        exact ⟨fun _ => ⟨hslash, hhealth, hnone⟩, fun _ => rfl⟩
      · rename_i hslash
        refine ⟨fun h => ?_, fun h => absurd h.1 hslash⟩
        cases h

/-- What is relayed is what goes to the relay. -/
theorem isRelayed_iff_isRelay (freshId : String) : IsRelayed s freshId a ↔
    (route s.admin.dynamicBackends a.method a.target.path).isRelay = true := by
  refine ⟨fun h => ?_, fun h => isRelayed_of_route h freshId⟩
  by_contra hnot
  exact not_isRelayed_of_not_relay (Bool.eq_false_iff.2 hnot) freshId h

-- ---------------------------------------------------------------------------
-- The path of the health check
-- ---------------------------------------------------------------------------

/-- What a request on the path of the health check gets: a text under the two methods that ask for one, and under
any other the methods that the path allows. -/
structure Healthy (method : String) (served : Served) : Prop where
  asked : method = "GET" ∨ method = "HEAD" → Says method served.response 200 "ok"
  refused : ¬(method = "GET" ∨ method = "HEAD") → Says method served.response 405 "" ∧
    served.response.headers.values "allow" = [Text.utf8 "GET,HEAD"]
  uncounted : served.marks = []

theorem receive_of_health (h : route s.admin.dynamicBackends a.method a.target.path = .health) (freshId : String) :
    receive s freshId a = { arrival := identified freshId a, allow := none
                            plan := .told { response := .ofText 200 "ok" } s.roster } := by
  obtain ⟨headers, heq⟩ := identified_eq freshId a
  simp only [receive, plan, heq, h]

theorem receive_of_notAllowed {allow : String}
    (h : route s.admin.dynamicBackends a.method a.target.path = .notAllowed allow) (freshId : String) :
    receive s freshId a = { arrival := identified freshId a, allow := some allow
                            plan := .told { response := { status := 405 } } s.roster } := by
  obtain ⟨headers, heq⟩ := identified_eq freshId a
  simp only [receive, plan, heq, h]

/-- A refusal without a text, under a method that the path does not allow. -/
theorem Reception.says_notAllowed {r : Reception} {allow : String} (hallow : r.allow = some allow) :
    Says r.arrival.method (r.sent { status := 405 }) 405 "" ∧
      (r.sent { status := 405 }).headers.values "allow" = [Text.utf8 allow] := by
  have hrefused : ¬(r.arrival.method = "CONNECT" ∧ Http.isSuccess 405 = true) := by
    rintro ⟨-, h⟩
    cases h
  have hid : Http.Headers.values (((r.arrival.headers.values requestIdField).take 1).map fun v =>
      (⟨requestIdField, v⟩ : Http.Header)) "allow" = [] := by
    refine Http.Headers.values_eq_nil fun x hx => ?_
    obtain ⟨value, -, rfl⟩ := List.mem_map.1 hx
    show requestIdField ≠ "allow"
    decide
  have hempty : Text.utf8 "" = .empty := rfl
  rw [sent, respond, finish, if_neg hrefused, hallow]
  refine ⟨⟨rfl, ?_⟩, ?_⟩
  · rw [hempty]
    simp
  · dsimp only
    rw [Http.Headers.values_append, hid]
    rfl

/-- The path of the health check is answered at once. -/
theorem told_of_healthPath (hpath : a.target.path = healthPath.toList) (freshId : String) :
    ∃ served, (receive s freshId a).plan = .told served s.roster ∧
      Healthy a.method ((receive s freshId a).respond served) := by
  have hmethod : (receive s freshId a).arrival.method = a.method := method_identified freshId a
  have hroute := route_of_healthPath s.admin.dynamicBackends a.method
  rw [← hpath] at hroute
  by_cases hasked : a.method = "GET" ∨ a.method = "HEAD"
  · rw [if_pos hasked] at hroute
    have hreceive := receive_of_health hroute freshId
    have hsaid := (receive s freshId a).says_sent 200 "ok"
    rw [hmethod] at hsaid
    exact ⟨_, congrArg Reception.plan hreceive, fun _ => hsaid, fun hnot => absurd hasked hnot, rfl⟩
  · rw [if_neg hasked] at hroute
    have hreceive := receive_of_notAllowed hroute freshId
    have hsaid := Reception.says_notAllowed (congrArg Reception.allow hreceive)
    rw [hmethod] at hsaid
    exact ⟨_, congrArg Reception.plan hreceive, fun h => absurd h hasked, fun _ => hsaid, rfl⟩

-- ---------------------------------------------------------------------------
-- What is relayed
-- ---------------------------------------------------------------------------

/-- **What is relayed.** A request on a path that starts with a slash is relayed, whatever its method, its query,
its fields and its body are: it leaves the server as it is, it counts once, and every backend of the roster is tried
with it, unless its body cannot be taken in. Two paths are exceptions, compared character by character: that of the
administrative requests, under their methods and where they are switched on, and that of the health check, under
every method. On the latter a request is answered at once, on every network: under GET and HEAD that all is well, and
under any other method that the path does not allow it. -/
theorem isRelayed_iff (s : Server) (freshId : String) (a : Arrival) :
    (IsRelayed s freshId a ↔
      a.target.path.head? = some '/' ∧ a.target.path ≠ "/healthz".toList ∧
        ¬(s.admin.dynamicBackends = true ∧ a.target.path = "/backends".toList ∧
          a.method ∈ ["GET", "HEAD", "POST", "DELETE"])) ∧
    (a.target.path = "/healthz".toList → ∀ {σ : Type} (net : Network σ) (st : σ),
      (answer s net freshId a st).2 = (s, st) ∧
        ∀ v served, Handled net st (receive s freshId a) v served → v = none ∧ Healthy a.method served) := by
  refine ⟨(isRelayed_iff_isRelay freshId).trans isRelay_route_iff, fun hpath σ net st => ?_⟩
  obtain ⟨served, hplan, hhealthy⟩ := told_of_healthPath (s := s) hpath freshId
  refine ⟨congrArg Prod.snd (answer_of_told hplan net st), fun v served' h => ?_⟩
  obtain ⟨rfl, rfl⟩ := h.of_told hplan
  exact ⟨rfl, hhealthy⟩

/-- Paths that are like those of the server, but for a slash more, a dot segment, capitals or an escape. -/
def respelled : List String :=
  ["/healthz/", "//healthz", "/./healthz", "/x/../healthz", "/HealthZ", "/%68ealthz", "/backends/", "//backends",
    "/./backends", "/x/../backends", "/Backends", "/%62ackends"]

/-- A request with some query, on some path. -/
def pathRequest (method path : String) : Arrival where
  method := method
  target := { rest := path.toList ++ "?server=a".toList }

theorem path_of_respelled : ∀ path ∈ respelled, (pathRequest "GET" path).target.path.head? = some '/' ∧
    (pathRequest "GET" path).target.path ≠ "/healthz".toList ∧
    (pathRequest "GET" path).target.path ≠ "/backends".toList := by
  decide +kernel

/-- Such a path is relayed, and so is that of the administrative requests where they are switched off. -/
theorem isRelayed_respelled :
    (∀ path ∈ respelled, IsRelayed (guardedServer ["a"]) "1" (pathRequest "GET" path)) ∧
    IsRelayed { roster := (Roster.seed ["a"]).1 } "1" (pathRequest "POST" "/backends") ∧
    (answer (guardedServer ["a"]) Network.empty "1" (pathRequest "GET" "/healthz") ()).2 =
      (guardedServer ["a"], ()) := by
  refine ⟨fun path hpath => ?_, ?_, ?_⟩
  · obtain ⟨hslash, hhealth, hbackends⟩ := path_of_respelled path hpath
    exact (isRelayed_iff _ _ _).1.2 ⟨hslash, hhealth, fun h => hbackends h.2.1⟩
  · exact (isRelayed_iff _ _ _).1.2 ⟨rfl, by decide, fun h => absurd h.1 (by decide)⟩
  · exact ((isRelayed_iff _ _ _).2 (by decide) Network.empty ()).1

/-- **A request to post something to the path of the health check is not relayed**, although its path starts with a
slash and it does not ask whether all is well. -/
theorem healthPath_swallows :
    ∃ server events, ofSettings { backends := ["http://127.0.0.1:18401"] } = .ok (server, events) ∧
      (pathRequest "POST" "/healthz").target.path.head? = some '/' ∧ server.admin.dynamicBackends = false ∧
      ¬IsRelayed server "1" (pathRequest "POST" "/healthz") ∧
      (answer server Network.empty "1" (pathRequest "POST" "/healthz") ()).1.response.status = 405 ∧
      (answer server Network.empty "1" (pathRequest "POST" "/healthz") ()).1.marks = [] := by
  obtain ⟨server, events, hserver⟩ :
      ∃ server events, ofSettings { backends := ["http://127.0.0.1:18401"] } = .ok (server, events) := ⟨_, _, rfl⟩
  obtain ⟨hadmin, -⟩ := ofSettings_spec hserver
  have hpath : (pathRequest "POST" "/healthz").target.path = healthPath.toList := by decide
  obtain ⟨served, hplan, hhealthy⟩ := told_of_healthPath (s := server) hpath "1"
  refine ⟨server, events, hserver, rfl, by rw [hadmin], ?_, ?_, ?_⟩
  · refine not_isRelayed_of_not_relay ?_ "1"
    rw [hpath]
    exact isRelay_healthPath _ _
  · rw [answer_of_told hplan]
    exact (hhealthy.refused (by decide)).1.status_eq
  · rw [answer_of_told hplan]
    exact hhealthy.uncounted

end Repeater.Server
