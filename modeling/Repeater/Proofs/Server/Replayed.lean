import Repeater.Proofs.Relay.Destination
import Repeater.Proofs.Server.Handling
import Repeater.Proofs.Url.Userinfo

/-!
# What the backends get

A request comes in with any fields and its body in any pieces, and it is given an id if it brings none. What is
built of it for a backend is the request as it came: the id that was made is taken away again, the host is the
backend's, and nothing is added.

Main results:

* `headers_replayed`    — the id that the server makes goes to no backend;
* `Destination.outgoing_eq` — no user information of a backend becomes a field;
* `outgoing_replays`    — the request for a backend is the request that came, up to the host.
-/

namespace Repeater

open Url Relay

-- ---------------------------------------------------------------------------
-- Nothing is added
-- ---------------------------------------------------------------------------

namespace Relay.Destination

/-- A destination for a path or a query has no user information, whatever the scheme of the backend. -/
theorem no_userinfo_of_resolve {backend target : String} {d : Destination} {c : Char} {t : List Char}
    (htarget : target.toList = c :: t) (hc : c = '/' ∨ c = '?') (h : resolve backend target = .ok d) :
    d.url.username = [] ∧ d.url.password = [] := by
  unfold resolve at h
  split at h
  · cases h
  · rename_i base hbase
    split at h
    · cases h
    · rename_i authority hauthority
      split at h
      · cases h
      · rename_i url hurl
        cases h
        obtain ⟨host, hhost, rfl⟩ := Option.map_eq_some_iff.1 hauthority
        have hintact := Host.isIntact_of_parse hbase hhost
        have hne : host.text ++ portText base.port ≠ [] := List.append_ne_nil_of_left_ne_nil hintact.nonempty _
        have hallowed : ∀ x ∈ host.text ++ portText base.port, IsHostChar x :=
          fun x hx => (List.mem_append.1 hx).elim (hintact.allowed x) portText_allowed
        rw [htarget] at hurl
        exact no_userinfo_of_parse (isScheme_of_parse hbase) hne hallowed hc hurl

/-- Without user information no field is added to a request. -/
theorem outgoing_eq {d : Destination} (husername : d.url.username = []) (hpassword : d.url.password = [])
    (r : Intake) :
    d.outgoing r = { method := r.method, url := d.url, headers := r.headers.erase "host", body := r.body } := by
  have hnone : Client.credentials? d.url = none := by
    unfold Client.credentials?
    rw [husername, hpassword]
    rfl
  rw [outgoing, Client.Request.make, hnone]

end Relay.Destination

-- ---------------------------------------------------------------------------
-- Nothing is taken away but the host
-- ---------------------------------------------------------------------------

namespace Server

variable {s : Server} {a : Arrival}

/-- The id that the server makes goes to no backend, and all other fields are those of the caller. -/
theorem headers_replayed (freshId : String) (a : Arrival) {r : Intake}
    (h : r.headers = (identified freshId a).headers) :
    (replayed (a.headers.has requestIdField) r).headers = a.headers := by
  unfold replayed identified at *
  by_cases hown : a.headers.has requestIdField = true
  · rw [if_pos hown] at h ⊢
    exact h
  · have hkept : a.headers.erase requestIdField = a.headers :=
      Http.Headers.erase_eq_self (Bool.eq_false_iff.2 hown)
    rw [if_neg hown] at h ⊢
    show r.headers.erase requestIdField = a.headers
    have hnew : Http.Headers.erase [⟨requestIdField, Text.utf8 freshId⟩] requestIdField = [] := by
      simp [Http.Headers.erase]
    have happend : r.headers.erase requestIdField =
        a.headers.erase requestIdField ++ Http.Headers.erase [⟨requestIdField, Text.utf8 freshId⟩] requestIdField := by
      rw [h]
      exact List.filter_append _ _
    rw [happend, hkept, hnew, List.append_nil]

/-- The relay takes paths that start with a slash. -/
theorem head?_of_relay {dynamic : Bool} {method : String} {path : List Char}
    (hroute : (route dynamic method path).isRelay = true) : path.head? = some '/' := by
  unfold route at hroute
  split at hroute
  · split at hroute <;> cases hroute
  · split at hroute
    · rename_i hbackends
      rw [hbackends.2]
      rfl
    · split at hroute
      · assumption
      · cases hroute

/-- So what the relay passes on is a path, or the query of an absolute target without one. -/
theorem target_of_relay {dynamic : Bool} {method : String} {t : Http.Target}
    (hroute : (route dynamic method t.path).isRelay = true) :
    ∃ c rest, t.pathAndQuery?.getD ['/'] = c :: rest ∧ (c = '/' ∨ c = '?') := by
  have hhead := head?_of_relay hroute
  unfold Http.Target.pathAndQuery?
  split
  · cases hrest : t.rest with
    | nil => exact ⟨'/', [], rfl, .inl rfl⟩
    | cons c rest =>
      refine ⟨c, rest, rfl, ?_⟩
      by_cases hmark : c = '?'
      · exact .inr hmark
      · -- a path that is there starts with the target
        have hpath : t.path = c :: rest.takeWhile (· != '?') := by
          unfold Http.Target.path
          rw [hrest, List.takeWhile_cons_of_pos (by simpa using hmark)]
          rfl
        rw [hpath] at hhead
        exact .inl (Option.some.inj hhead)
  · exact ⟨'/', [], rfl, .inl rfl⟩

/-- What is built of a request for a backend is the request as it came, up to the host. -/
structure Replays (a : Arrival) (r : Client.Request) : Prop where
  method_eq : r.method = a.method
  body_eq : r.body = joined a.body
  no_host : r.headers.values "host" = []
  /-- The values of every other name, that of the id among them, are those of the caller in order. -/
  values_eq : ∀ name, name ≠ "host" → r.headers.values name = a.headers.values name
  names : ∀ name, r.headers.has name = true → a.headers.has name = true

/-- Two requests that differ at most in their hosts and in how their bodies are cut. -/
structure AlikeButHost (a b : Arrival) : Prop where
  method_eq : a.method = b.method
  target_eq : a.target = b.target
  headers_eq : a.headers.erase "host" = b.headers.erase "host"
  body_eq : joined a.body = joined b.body

/-- What is relayed of a request whose body fits: all of it but the id that was made. -/
theorem exists_relay_of_fits (hroute : (route s.admin.dynamicBackends a.method a.target.path).isRelay = true)
    (hfits : Fits bodyLimit a.body) (freshId : String) :
    ∃ id, (receive s freshId a).plan = .relay { policy := s.policy, request := {
      method := a.method, target := String.ofList (a.target.pathAndQuery?.getD ['/'])
      headers := a.headers, body := joined a.body, requestId := id } } s.roster.entries := by
  obtain ⟨r, hcapture, hplan⟩ := plan_of_fits hroute hfits freshId
  have hheaders := headers_replayed freshId a (r := r)
  rw [Intake.capture_of_fits ((fits_identified bodyLimit freshId a).2 hfits)] at hcapture
  obtain ⟨headers, heq⟩ := identified_eq freshId a
  cases hcapture
  have hrest (callerId : Bool) (r : Intake) :
      replayed callerId r = { r with headers := (replayed callerId r).headers } := by
    unfold replayed
    split <;> rfl
  rw [hplan, hrest, hheaders rfl, heq]
  exact ⟨_, rfl⟩

theorem setting_of_fits (hroute : (route s.admin.dynamicBackends a.method a.target.path).isRelay = true)
    (hfits : Fits bodyLimit a.body) (freshId : String) :
    ∃ setting, (receive s freshId a).plan = .relay setting s.roster.entries ∧
      setting.request.method = a.method ∧ setting.request.headers = a.headers ∧
      setting.request.body = joined a.body ∧
      setting.request.target = String.ofList (a.target.pathAndQuery?.getD ['/']) := by
  obtain ⟨id, hplan⟩ := exists_relay_of_fits hroute hfits freshId
  exact ⟨_, hplan, rfl, rfl, rfl, rfl⟩

/-- **The request for a backend is the request that came, up to the host.** -/
theorem outgoing_replays (hroute : (route s.admin.dynamicBackends a.method a.target.path).isRelay = true)
    (hfits : Fits bodyLimit a.body) (freshId : String) :
    ∃ setting, (receive s freshId a).plan = .relay setting s.roster.entries ∧
      ∀ backend d, Destination.resolve backend setting.request.target = .ok d →
        Replays a (d.outgoing setting.request) ∧
        ∀ freshId' b, AlikeButHost a b → Fits bodyLimit b.body →
          ∃ setting', (receive s freshId' b).plan = .relay setting' s.roster.entries ∧
            Destination.resolve backend setting'.request.target = .ok d ∧
            d.outgoing setting'.request = d.outgoing setting.request := by
  obtain ⟨setting, hplan, hmethod, hheaders, hbody, htarget⟩ := setting_of_fits hroute hfits freshId
  refine ⟨setting, hplan, fun backend d hd => ?_⟩
  obtain ⟨c, rest, hrest, hc⟩ := target_of_relay hroute
  have hchars : setting.request.target.toList = c :: rest := by
    rw [htarget, String.toList_ofList, hrest]
  obtain ⟨husername, hpassword⟩ := Destination.no_userinfo_of_resolve hchars hc hd
  have hout := Destination.outgoing_eq husername hpassword
  refine ⟨?_, fun freshId' b halike hfits' => ?_⟩
  · rw [hout, hmethod, hheaders, hbody]
    refine ⟨rfl, rfl, Http.Headers.values_erase_self _ _, fun name hname => ?_, fun name hname => ?_⟩
    · exact Http.Headers.values_erase a.headers hname
    · obtain ⟨x, hx, heq⟩ := List.any_eq_true.1 hname
      exact List.any_eq_true.2 ⟨x, (List.mem_filter.1 hx).1, heq⟩
  · rw [halike.method_eq, halike.target_eq] at hroute
    obtain ⟨setting', hplan', hmethod', hheaders', hbody', htarget'⟩ := setting_of_fits hroute hfits' freshId'
    refine ⟨setting', hplan', ?_, ?_⟩
    · rwa [htarget', ← halike.target_eq, ← htarget]
    · rw [hout, hout, hmethod', hheaders', hbody', hmethod, hheaders, hbody, halike.method_eq, halike.headers_eq,
        halike.body_eq]

/-- A request with two hosts, and with two values of one name, its body in two pieces. -/
def hookRequest : Arrival where
  method := "POST"
  target := { rest := "/hook?x=1".toList }
  headers := [⟨"host", Text.utf8 "a"⟩, ⟨"x-a", Text.utf8 "1"⟩, ⟨"host", Text.utf8 "b"⟩, ⟨"x-a", Text.utf8 "2"⟩]
  body := [.data (Text.utf8 "da"), .data (Text.utf8 "ta")]

theorem outgoing_replays_hook :
    Fits bodyLimit hookRequest.body ∧
    ∃ setting d, (receive {} "1" hookRequest).plan = .relay setting [] ∧
      Destination.resolve "http://127.0.0.1:18401/" setting.request.target = .ok d ∧
      (d.outgoing setting.request).body = Text.utf8 "data" ∧
      (d.outgoing setting.request).headers.values "x-a" = [Text.utf8 "1", Text.utf8 "2"] ∧
      (d.outgoing setting.request).headers.values "host" = [] ∧
      (d.outgoing setting.request).headers.values requestIdField = [] := by
  have hfits : Fits bodyLimit hookRequest.body := by
    refine ⟨fun reason h => ?_, by decide⟩
    simp [hookRequest] at h
  obtain ⟨setting, hplan, hall⟩ := outgoing_replays (s := {}) (a := hookRequest) rfl hfits "1"
  have htarget : setting.request.target.toList.head? = some '/' := by
    obtain ⟨setting', hplan', -, -, -, htarget⟩ := setting_of_fits (s := {}) (a := hookRequest) rfl hfits "1"
    cases hplan.symm.trans hplan'
    rw [htarget, String.toList_ofList]
    rfl
  obtain ⟨host, port, hhost, -, hok, -⟩ := Destination.resolve_keeps Destination.parse_local (.inl rfl) htarget
  cases hhost
  obtain ⟨d, hd, -⟩ := hok trivial
  obtain ⟨hreplays, -⟩ := hall _ d hd
  refine ⟨hfits, setting, d, hplan, hd, ?_, ?_, hreplays.no_host, ?_⟩
  · rw [hreplays.body_eq]
    decide
  · rw [hreplays.values_eq "x-a" (by decide)]
    rfl
  · rw [hreplays.values_eq requestIdField (by decide)]
    rfl

end Server

end Repeater
