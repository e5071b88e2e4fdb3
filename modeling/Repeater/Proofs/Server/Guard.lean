import Repeater.Proofs.Server.Administration
import Repeater.Proofs.Server.Verdict

/-!
# The key of the administration

Where a key is set, the path of the administrative requests is guarded: under each of its methods, a request
without the key is refused before anything else of it is looked at. The refusal says nothing but the id of the
request, so it does not tell one roster from another, or one query from another.

## Results

* `isAdmin_route_iff`           — which requests are administrative;
* `plan_of_not_relay`           — what is not relayed counts nothing;
* `isAuthorized_eq_false_iff`   — which requests lack the key;
* `unauthorized_learns_nothing` — such a request is refused, and neither learns nor changes anything.
-/

namespace Repeater.Server

open Relay

variable {σ : Type} {s : Server} {freshId : String} {a : Arrival}

-- ---------------------------------------------------------------------------
-- Which requests are administrative
-- ---------------------------------------------------------------------------

/-- The methods that the path of the administrative requests knows. -/
def guardedMethods : List String :=
  ["GET", "HEAD", "POST", "DELETE"]

theorem mem_guardedMethods {method : String} :
    method ∈ guardedMethods ↔ (method = "GET" ∨ method = "HEAD") ∨ method = "POST" ∨ method = "DELETE" := by
  simp only [guardedMethods, List.mem_cons, List.not_mem_nil, or_false, or_assoc]

theorem route_of_backendsPath (method : String) : route true method backendsPath.toList =
    if method = "GET" ∨ method = "HEAD" then .list
    else if method = "POST" then .register
    else if method = "DELETE" then .unregister
    else .relay (some "GET,HEAD,POST,DELETE") := by
  rw [route, if_neg backendsPath_ne, if_pos ⟨rfl, rfl⟩]

/-- The path of the administrative requests belongs to the relay under any method that it does not know. -/
theorem route_of_other_method {method : String} (h : method ∉ guardedMethods) :
    route true method backendsPath.toList = .relay (some "GET,HEAD,POST,DELETE") := by
  obtain ⟨hread, hchange⟩ := not_or.1 (mt mem_guardedMethods.2 h)
  obtain ⟨hpost, hdelete⟩ := not_or.1 hchange
  rw [route_of_backendsPath, if_neg hread, if_neg hpost, if_neg hdelete]

theorem isAdmin_route_iff {dynamic : Bool} {method : String} {path : List Char} :
    (route dynamic method path).isAdmin = true ↔
      dynamic = true ∧ path = backendsPath.toList ∧ method ∈ guardedMethods := by
  constructor
  · intro h
    by_cases hbackends : dynamic = true ∧ path = backendsPath.toList
    · obtain ⟨rfl, rfl⟩ := hbackends
      refine ⟨rfl, rfl, ?_⟩
      by_contra hother
      rw [route_of_other_method hother] at h
      cases h
    · rw [route, if_neg hbackends] at h
      split at h
      · split at h <;> cases h
      · split at h <;> cases h
  · rintro ⟨rfl, rfl, hmethod⟩
    rw [route_of_backendsPath]
    rcases mem_guardedMethods.1 hmethod with hread | rfl | rfl
    · rw [if_pos hread]
      rfl
    · rfl
    · rfl

-- ---------------------------------------------------------------------------
-- What is not relayed
-- ---------------------------------------------------------------------------

theorem marks_changed (r : Roster) (change : Except Roster.Refusal Roster) (refused : Roster.Refusal → Journal.Event)
    (events : List Journal.Event) : (changed r change refused events).1.marks = [] := by
  cases change <;> rfl

theorem marks_administer (r : Roster) (which : Route) (query : Option (List Char)) :
    (administer r which query).1.marks = [] := by
  unfold administer
  split
  · exact marks_changed r _ _ _
  · exact marks_changed r _ _ _
  · rfl
  · rfl
  · rfl

/-- **What is not relayed counts nothing**, and it is answered at once. -/
theorem plan_of_not_relay (hroute : (route s.admin.dynamicBackends a.method a.target.path).isRelay = false)
    (freshId : String) : ∃ served roster, (receive s freshId a).plan = .told served roster ∧ served.marks = [] := by
  cases hr : route s.admin.dynamicBackends a.method a.target.path with
  | list | register | unregister =>
    rw [plan_of_admin hr rfl]
    split
    · exact ⟨_, _, rfl, marks_administer _ _ _⟩
    · exact ⟨_, _, rfl, rfl⟩
  | relay allow =>
    rw [hr] at hroute
    cases hroute
  | health | notAllowed | unknown =>
    obtain ⟨headers, heq⟩ := identified_eq freshId a
    simp only [receive, plan, heq, hr]
    exact ⟨_, _, rfl, rfl⟩

-- ---------------------------------------------------------------------------
-- Requests without the key
-- ---------------------------------------------------------------------------

/-- The first authorization that a request carries is missing, has a byte that is neither printable ASCII nor a
tab, or is not the word `Bearer`, a space and the key. -/
def LacksKey (key : String) (headers : Http.Headers) : Prop :=
  ∀ value, headers.get? "authorization" = some value →
    (∃ b ∈ value.data.toList, Http.isVisible b = false) ∨ value ≠ Text.utf8 ("Bearer " ++ key)

theorem isAuthorized_eq_false_iff {admin : Admin} {key : String} (hkey : admin.apiKey = some key)
    {headers : Http.Headers} : isAuthorized admin headers = false ↔ LacksKey key headers := by
  rw [← Bool.not_eq_true, isAuthorized_iff, IsTrusted]
  constructor
  · intro hnot value hvalue
    by_contra hboth
    rw [not_or, not_not] at hboth
    obtain ⟨hvisible, hexact⟩ := hboth
    refine hnot fun key' hkey' => ?_
    cases hkey.symm.trans hkey'
    refine ⟨value, hvalue, fun b hb => ?_, hexact⟩
    by_contra hb'
    exact hvisible ⟨b, hb, Bool.eq_false_iff.2 hb'⟩
  · intro hlacks htrusted
    obtain ⟨value, hvalue, hvisible, hexact⟩ := htrusted key hkey
    rcases hlacks value hvalue with ⟨b, hb, hhidden⟩ | hother
    · rw [hvisible b hb] at hhidden
      cases hhidden
    · exact hother hexact

/-- The id that goes out with a response: the first that the request brings, or the new one. -/
def idOf (freshId : String) (headers : Http.Headers) : ByteArray :=
  (headers.get? requestIdField).getD (Text.utf8 freshId)

theorem ids_identified (freshId : String) (a : Arrival) :
    ((identified freshId a).headers.values requestIdField).take 1 = [idOf freshId a.headers] := by
  rw [identified, Http.Headers.has_eq, idOf, Http.Headers.get?]
  cases hvalues : a.headers.values requestIdField with
  | nil =>
    have hnew : Http.Headers.values [⟨requestIdField, Text.utf8 freshId⟩] requestIdField = [Text.utf8 freshId] := by
      simp [Http.Headers.values]
    rw [if_neg (by simp), Http.Headers.values_append, hvalues, hnew]
    rfl
  | cons v r =>
    rw [if_pos (by simp), hvalues]
    rfl

/-- The response to a request without the key: nothing in it depends on anything but the id. -/
def refusal (id : ByteArray) : Http.Response where
  status := 401
  headers := [⟨"content-length", Text.utf8 "0"⟩, ⟨requestIdField, id⟩]

theorem finish_unauthorized (method requestId : String) (path : List Char) :
    finish method none (unauthorized requestId path).response =
      { status := 401, headers := [⟨"content-length", Text.utf8 "0"⟩] } := by
  have hsuccess : ¬(method = "CONNECT" ∧ Http.isSuccess 401 = true) := by
    rintro ⟨-, h⟩
    cases h
  have hbody : (if method = "HEAD" then ByteArray.empty else ByteArray.empty) = ByteArray.empty := ite_self _
  unfold finish unauthorized
  rw [if_neg hsuccess]
  dsimp only
  rw [hbody]
  rfl

/-- What is done about a request without the key, and how it is sent. -/
theorem told_of_unauthorized (hadmin : (route s.admin.dynamicBackends a.method a.target.path).isAdmin = true)
    (hauthorized : isAuthorized s.admin a.headers = false) (freshId : String) :
    ∃ served, (receive s freshId a).plan = .told served s.roster ∧ served.marks = [] ∧
      ((receive s freshId a).respond served).response = refusal (idOf freshId a.headers) := by
  have hplan := plan_of_admin (s := s) (a := a) rfl hadmin freshId
  rw [hauthorized, if_neg Bool.false_ne_true] at hplan
  have harrival : (receive s freshId a).arrival = identified freshId a := rfl
  have hallow : (receive s freshId a).allow = none := by
    obtain ⟨headers, heq⟩ := identified_eq freshId a
    rw [receive, plan]
    simp only [heq]
    cases hr : route s.admin.dynamicBackends a.method a.target.path with
    | list | register | unregister | health | unknown => rfl
    | relay | notAllowed =>
      rw [hr] at hadmin
      cases hadmin
  refine ⟨_, hplan, rfl, ?_⟩
  rw [Reception.respond, hallow, harrival, finish_unauthorized, ids_identified]
  rfl

/-- **Unauthorized requests learn and change nothing.** Let a key be set, and let a request under one of the
methods of the guarded path lack it, whatever its other fields, its query and its body are. Then it is refused:
the response is the same on every network and for every roster, no network is asked anything, nothing is counted,
and the server stays as it is. Two such requests get the same response up to their ids, whatever else the
requests are and whatever the rosters and the networks are. -/
theorem unauthorized_learns_nothing {key : String} (hdynamic : s.admin.dynamicBackends = true)
    (hkey : s.admin.apiKey = some key) (hpath : a.target.path = "/backends".toList)
    (hmethod : a.method ∈ ["GET", "HEAD", "POST", "DELETE"]) (hlacks : LacksKey key a.headers) (freshId : String) :
    (∃ served, served.response = refusal (idOf freshId a.headers) ∧ served.marks = [] ∧
      ∀ {σ : Type} (net : Network σ) (st : σ), answer s net freshId a st = (served, s, st) ∧
        ∀ v served', Handled net st (receive s freshId a) v served' → v = none ∧ served' = served) ∧
    ∀ {σ σ' : Type} (net : Network σ) (net' : Network σ') (st : σ) (st' : σ') (roster' : Roster) (b : Arrival)
      (freshId' : String), b.target.path = "/backends".toList → b.method ∈ ["GET", "HEAD", "POST", "DELETE"] →
      LacksKey key b.headers → ∀ v v' served served', Handled net st (receive s freshId a) v served →
      Handled net' st' (receive { s with roster := roster' } freshId' b) v' served' →
      withoutId served.response = withoutId served'.response ∧
        (idOf freshId a.headers = idOf freshId' b.headers → served.response = served'.response) := by
  have hadmin {b : Arrival} (hpath : b.target.path = "/backends".toList)
      (hmethod : b.method ∈ ["GET", "HEAD", "POST", "DELETE"]) :
      (route s.admin.dynamicBackends b.method b.target.path).isAdmin = true :=
    isAdmin_route_iff.2 ⟨hdynamic, hpath, hmethod⟩
  obtain ⟨served, hplan, hmarks, hresponse⟩ :=
    told_of_unauthorized (hadmin hpath hmethod) ((isAuthorized_eq_false_iff hkey).2 hlacks) freshId
  refine ⟨⟨_, hresponse, hmarks, fun net st => ⟨answer_of_told hplan net st, fun v served' h => h.of_told hplan⟩⟩, ?_⟩
  intro σ σ' net net' st st' roster' b freshId' hpath' hmethod' hlacks' v v' first second h h'
  obtain ⟨served', hplan', -, hresponse'⟩ := told_of_unauthorized (s := { s with roster := roster' })
    (hadmin hpath' hmethod') ((isAuthorized_eq_false_iff hkey).2 hlacks') freshId'
  obtain ⟨-, rfl⟩ := h.of_told hplan
  obtain ⟨-, rfl⟩ := h'.of_told hplan'
  rw [hresponse, hresponse']
  refine ⟨?_, fun hid => by rw [hid]⟩
  -- without its id, a refusal is the same for all
  have herase (id : ByteArray) : withoutId (refusal id) =
      { status := 401, headers := [⟨"content-length", Text.utf8 "0"⟩] } := by
    simp [withoutId, refusal, Http.Headers.erase, requestIdField]
  rw [herase, herase]

/-- A request that names a backend twice, with some authorization. -/
def strangerRequest (method authorization : String) : Arrival where
  method := method
  target := { rest := "/backends?server=a&server=b".toList }
  headers := [⟨"authorization", Text.utf8 authorization⟩, ⟨"authorization", Text.utf8 "Bearer k"⟩]

/-- A server that is guarded, with these backends. -/
def guardedServer (backends : List String) : Server where
  admin := guardedSettings.admin
  roster := (Roster.seed backends).1

/-- A key in capitals is refused, and one beyond ASCII is refused alike by a server with a backend. -/
theorem unauthorized_learns_nothing_guarded :
    let a := strangerRequest "POST" "Bearer K"
    let b := strangerRequest "HEAD" "Bearer \u00e9"
    LacksKey "k" a.headers ∧ LacksKey "k" b.headers ∧
    (∃ served, served.response = refusal (Text.utf8 "1") ∧
      answer (guardedServer []) Network.empty "1" a () = (served, guardedServer [], ())) ∧
    (answer (guardedServer []) Network.empty "1" a ()).1.response =
      (answer (guardedServer ["c"]) Network.empty "1" b ()).1.response := by
  intro a b
  have hfirst : LacksKey "k" a.headers := by
    rintro value ⟨⟩
    exact .inr (by decide)
  have hsecond : LacksKey "k" b.headers := by
    rintro value ⟨⟩
    exact .inl ⟨195, by decide, rfl⟩
  obtain ⟨⟨served, hresponse, -, hanswer⟩, halike⟩ :=
    unauthorized_learns_nothing (s := guardedServer []) (a := a) rfl rfl rfl (by decide) hfirst "1"
  refine ⟨hfirst, hsecond, ⟨served, hresponse, (hanswer Network.empty ()).1⟩, ?_⟩
  obtain ⟨v, h⟩ := handled_answer Network.empty (guardedServer []) "1" a ()
  obtain ⟨v', h'⟩ := handled_answer Network.empty (guardedServer ["c"]) "1" b ()
  exact (halike Network.empty Network.empty () () (Roster.seed ["c"]).1 b "1" rfl (by decide) hsecond v v' _ _ h h').2 rfl

end Repeater.Server
