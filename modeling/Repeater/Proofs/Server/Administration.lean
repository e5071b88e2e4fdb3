import Repeater.Proofs.Client.Wire
import Repeater.Proofs.Http.Message
import Repeater.Proofs.Roster.Calls
import Repeater.Proofs.Server.Handling

/-!
# What requests make of the roster

A request can ask for a change of the roster, and it may get it (`call?`). All others leave the roster as it is.
So the server, answering one request after the other, is a list of backends on which calls are made.

## Results

* `isAuthorized_iff`  — who may carry out administrative requests;
* `carried_of_call?`  — a change that is asked for is made as it is made on a bare list;
* `roster_of_no_call` — every other request leaves the roster as it is;
* `roster_refines`    — any requests one after the other come to the calls that they ask for.
-/

namespace Repeater

namespace Server

open Relay Roster

-- ---------------------------------------------------------------------------
-- What a request asks for
-- ---------------------------------------------------------------------------

/-- A request may change the roster if no key is set, or if the first authorization that it carries is visible,
and is the word `Bearer`, a space and the key. -/
def IsTrusted (admin : Admin) (headers : Http.Headers) : Prop :=
  ∀ key, admin.apiKey = some key → ∃ value, headers.get? "authorization" = some value ∧
    (∀ b ∈ value.data.toList, Http.isVisible b = true) ∧ value = Text.utf8 ("Bearer " ++ key)

theorem isAuthorized_iff {admin : Admin} {headers : Http.Headers} :
    isAuthorized admin headers = true ↔ IsTrusted admin headers := by
  rw [isAuthorized, IsTrusted]
  cases admin.apiKey with
  | none => exact ⟨fun _ _ => nofun, fun _ => rfl⟩
  | some key =>
    simp only [bearsKey, beq_iff_eq, Option.bind_eq_some_iff, Http.visible?_eq_some_iff, Option.some.injEq,
      forall_eq']

instance (admin : Admin) (headers : Http.Headers) : Decidable (IsTrusted admin headers) :=
  decidable_of_iff _ isAuthorized_iff

/-- The backends that a query names, as they are meant. -/
def named (query : Option (List Char)) : List String :=
  ((Url.formPairs (query.getD [])).filter fun p => p.1 == "server".toList).map fun p => String.ofList p.2

/-- The change that a method makes with a backend. -/
def changeOf? (method backend : String) : Option Call :=
  if method = "POST" then some (.add backend)
  else if method = "DELETE" then some (.remove backend)
  else none

/-- The change of the roster that a request asks for and may make: one with at most one name for the backend,
where the empty one stands for none. -/
def call? (admin : Admin) (a : Arrival) : Option Call :=
  if admin.dynamicBackends = true ∧ a.target.path = "/backends".toList ∧ IsTrusted admin a.headers then
    match named a.target.query? with
    | [] => changeOf? a.method ""
    | [b] => changeOf? a.method b
    | _ => none
  else none

theorem ofQuery_eq_backend_iff {query : Option (List Char)} {backend : String} :
    Parameter.ofQuery query = .backend backend ↔
      named query = [] ∧ backend = "" ∨ named query = [backend] := by
  rw [Parameter.ofQuery, named]
  generalize (Url.formPairs (query.getD [])).filter (fun p => p.1 == "server".toList) = pairs
  cases pairs with
  | nil => simp [eq_comm]
  | cons p r =>
    cases r with
    | nil => simp
    | cons q r => simp

theorem call?_eq_some_iff {admin : Admin} {a : Arrival} {call : Call} :
    call? admin a = some call ↔
      admin.dynamicBackends = true ∧ a.target.path = backendsPath.toList ∧ isAuthorized admin a.headers = true ∧
        ∃ backend, Parameter.ofQuery a.target.query? = .backend backend ∧
          changeOf? a.method backend = some call := by
  rw [call?, isAuthorized_iff]
  simp only [ofQuery_eq_backend_iff]
  split
  · rename_i hallowed
    obtain ⟨hdynamic, hpath, htrusted⟩ := hallowed
    have hpath' : a.target.path = backendsPath.toList := hpath
    rw [and_iff_right hdynamic, and_iff_right hpath', and_iff_right htrusted]
    cases named a.target.query? with
    | nil => simp
    | cons b r =>
      cases r with
      | nil => simp
      | cons c r => simp
  · rename_i hallowed
    constructor
    · intro h
      cases h
    · rintro ⟨hdynamic, hpath, htrusted, -⟩
      exact absurd ⟨hdynamic, hpath, htrusted⟩ hallowed

-- ---------------------------------------------------------------------------
-- What the server makes of it
-- ---------------------------------------------------------------------------

variable {σ : Type} {s : Server} {freshId : String} {a : Arrival}

/-- The key is where it was when a request gets an id. -/
theorem isAuthorized_identified (admin : Admin) (freshId : String) (a : Arrival) :
    isAuthorized admin (identified freshId a).headers = isAuthorized admin a.headers := by
  have hget : (identified freshId a).headers.get? "authorization" = a.headers.get? "authorization" := by
    rw [identified]
    split
    · rfl
    · rw [Http.Headers.get?, Http.Headers.values_append]
      exact congrArg List.head? (List.append_nil _)
  rw [isAuthorized, isAuthorized]
  simp only [bearsKey, hget]

theorem plan_of_admin {r : Route} (hroute : route s.admin.dynamicBackends a.method a.target.path = r)
    (hadmin : r.isAdmin = true) (freshId : String) :
    (receive s freshId a).plan =
      if isAuthorized s.admin a.headers = true then
        .told (administer s.roster r a.target.query?).1 (administer s.roster r a.target.query?).2
      else .told (unauthorized (requestId (identified freshId a).headers) a.target.path) s.roster := by
  rw [← isAuthorized_identified s.admin freshId a]
  obtain ⟨headers, heq⟩ := identified_eq freshId a
  rw [receive, plan]
  simp only [heq, hroute]
  cases r with
  | list | register | unregister => rfl
  | health | relay | notAllowed | unknown => cases hadmin

/-- A request is answered with the roster as it is, relayed to it, or carried out by the administration. -/
theorem plan_cases (s : Server) (freshId : String) (a : Arrival) :
    (∃ served, (receive s freshId a).plan = .told served s.roster) ∨
    (∃ setting, (receive s freshId a).plan = .relay setting s.roster.entries) ∨
    ∃ r, route s.admin.dynamicBackends a.method a.target.path = r ∧ isAuthorized s.admin a.headers = true ∧
      (receive s freshId a).plan =
        .told (administer s.roster r a.target.query?).1 (administer s.roster r a.target.query?).2 := by
  cases hroute : route s.admin.dynamicBackends a.method a.target.path with
  | list | register | unregister =>
    rw [plan_of_admin hroute rfl]
    split
    · rename_i hauthorized
      exact .inr (.inr ⟨_, rfl, hauthorized, rfl⟩)
    · exact .inl ⟨_, rfl⟩
  | relay allow =>
    rw [receive_of_relay hroute]
    dsimp only
    rw [relay]
    split
    · exact .inl ⟨_, rfl⟩
    · exact .inr (.inl ⟨_, rfl⟩)
  | health | notAllowed | unknown =>
    obtain ⟨headers, heq⟩ := identified_eq freshId a
    simp only [receive, plan, heq, hroute]
    exact .inl ⟨_, rfl⟩

theorem backendsPath_ne : backendsPath.toList ≠ healthPath.toList := by
  decide

theorem route_change_iff {dynamic : Bool} {method verb : String} {path : List Char} {r : Route}
    (hr : r = .register ∧ verb = "POST" ∨ r = .unregister ∧ verb = "DELETE") :
    route dynamic method path = r ↔ dynamic = true ∧ path = backendsPath.toList ∧ method = verb := by
  have hne := backendsPath_ne
  rw [route]
  grind

/-- A call was carried out as on a bare list: it is answered with the list after it, or refused. -/
structure Carried (call : Call) (before : Roster) (served : Served) (after : Roster) : Prop where
  entries_eq : after.entries = (call.perform before.entries).2
  answered : (∃ l, (call.perform before.entries).1 = .ok l) ∧ served.response = .ofText 200 after.line ∨
    ∃ e, (call.perform before.entries).1 = .error e ∧ served.response = .ofText 400 e.message ∧ after = before

theorem carried_changed {call : Call} {r : Roster} {change : Except Refusal Roster}
    (h : change.map Roster.entries = (call.perform r.entries).1) (refused : Refusal → Journal.Event)
    (events : List Journal.Event) :
    Carried call r (changed r change refused events).1 (changed r change refused events).2 := by
  have hafter := perform_snd call r.entries
  cases change with
  | ok s =>
    rw [← h] at hafter
    exact ⟨hafter.symm, .inl ⟨⟨_, h.symm⟩, rfl⟩⟩
  | error e =>
    rw [← h] at hafter
    exact ⟨hafter.symm, .inr ⟨e, h.symm, rfl, rfl⟩⟩

/-- A change that a request asks for is made as it is made on a bare list. -/
theorem carried_of_call? {call : Call} (h : call? s.admin a = some call) (freshId : String) :
    ∃ served roster, (receive s freshId a).plan = .told served roster ∧ Carried call s.roster served roster := by
  obtain ⟨hdynamic, hpath, hauthorized, backend, hquery, hcall⟩ := call?_eq_some_iff.1 h
  rw [changeOf?] at hcall
  split at hcall
  · rename_i hpost
    cases hcall
    have hroute := (route_change_iff (.inl ⟨rfl, rfl⟩)).2 ⟨hdynamic, hpath, hpost⟩
    have hdone : administer s.roster .register a.target.query? = register s.roster backend := by
      simp only [administer, hquery]
    rw [plan_of_admin hroute rfl, if_pos hauthorized, hdone]
    exact ⟨_, _, rfl, carried_changed (add_eq_perform s.roster backend) _ _⟩
  · split at hcall
    · rename_i hdelete
      cases hcall
      have hroute := (route_change_iff (.inr ⟨rfl, rfl⟩)).2 ⟨hdynamic, hpath, hdelete⟩
      have hdone : administer s.roster .unregister a.target.query? = unregister s.roster backend := by
        simp only [administer, hquery]
      rw [plan_of_admin hroute rfl, if_pos hauthorized, hdone]
      exact ⟨_, _, rfl, carried_changed (remove_eq_perform s.roster backend) _ _⟩
    · cases hcall

/-- An administrative request changes the roster only if it asks for a change. -/
theorem roster_of_admin {r : Route} (hroute : route s.admin.dynamicBackends a.method a.target.path = r)
    (hauthorized : isAuthorized s.admin a.headers = true) (h : call? s.admin a = none) :
    (administer s.roster r a.target.query?).2 = s.roster := by
  cases hquery : Parameter.ofQuery a.target.query? with
  | repeated => cases r <;> simp only [administer, hquery]
  | backend name =>
    have hnone (verb : String) (hchange : (changeOf? verb name).isSome = true)
        (hdynamic : s.admin.dynamicBackends = true) (hpath : a.target.path = backendsPath.toList) :
        a.method ≠ verb := by
      rintro rfl
      obtain ⟨call, hcall⟩ := Option.isSome_iff_exists.1 hchange
      rw [call?_eq_some_iff.2 ⟨hdynamic, hpath, hauthorized, name, hquery, hcall⟩] at h
      cases h
    cases r with
    | register =>
      obtain ⟨hdynamic, hpath, hpost⟩ := (route_change_iff (.inl ⟨rfl, rfl⟩)).1 hroute
      exact absurd hpost (hnone "POST" rfl hdynamic hpath)
    | unregister =>
      obtain ⟨hdynamic, hpath, hdelete⟩ := (route_change_iff (.inr ⟨rfl, rfl⟩)).1 hroute
      exact absurd hdelete (hnone "DELETE" rfl hdynamic hpath)
    | health | list | relay | notAllowed | unknown => simp only [administer]

/-- Every other request leaves the roster as it is. -/
theorem roster_of_no_call (h : call? s.admin a = none) {served : Served} {roster : Roster}
    (hplan : (receive s freshId a).plan = .told served roster) : roster = s.roster := by
  rcases plan_cases s freshId a with ⟨served', htold⟩ | ⟨setting, hrelay⟩ | ⟨r, hroute, hauthorized, htold⟩
  · cases htold.symm.trans hplan
    rfl
  · cases hrelay.symm.trans hplan
  · cases htold.symm.trans hplan
    exact roster_of_admin hroute hauthorized h

theorem backends_of_plan {setting : Setting} {backends : List String}
    (hplan : (receive s freshId a).plan = .relay setting backends) : backends = s.roster.entries := by
  rcases plan_cases s freshId a with ⟨served, htold⟩ | ⟨setting', hrelay⟩ | ⟨r, -, -, htold⟩
  · cases htold.symm.trans hplan
  · cases hrelay.symm.trans hplan
    rfl
  · cases htold.symm.trans hplan

theorem admitsText_of_changeOf? {method backend : String} {call : Call}
    (h : changeOf? method backend = some call) : method ≠ "HEAD" ∧ method ≠ "CONNECT" := by
  rw [changeOf?] at h
  constructor
  · rintro rfl
    cases h
  · rintro rfl
    cases h

/-- How a change is answered: with the list after it, or with a refusal that changes nothing. -/
theorem answer_of_call? {call : Call} (h : call? s.admin a = some call) (net : Network σ) (freshId : String)
    (st : σ) :
    let (served, after, _) := answer s net freshId a st
    after.roster.entries = (call.perform s.roster.entries).2 ∧
    ((∃ l, (call.perform s.roster.entries).1 = .ok l) ∧ served.response.status = 200 ∧
        served.response.body = Text.utf8 after.roster.line ∨
      ∃ e, (call.perform s.roster.entries).1 = .error e ∧ served.response.status = 400 ∧
        served.response.body = Text.utf8 e.message ∧ after.roster = s.roster) := by
  obtain ⟨served, roster, hplan, hcarried⟩ := carried_of_call? h freshId
  obtain ⟨-, -, -, backend, -, hcall⟩ := call?_eq_some_iff.1 h
  obtain ⟨hhead, hconnect⟩ := admitsText_of_changeOf? hcall
  have hmethod : (receive s freshId a).arrival.method = a.method := method_identified freshId a
  have hsaid (status : Nat) (text : String) :
      ((receive s freshId a).sent (.ofText status text)).status = status ∧
        ((receive s freshId a).sent (.ofText status text)).body = Text.utf8 text := by
    obtain ⟨hstatus, hbody⟩ := (receive s freshId a).says_sent status text
    rw [hmethod, if_neg (by simp [hhead, hconnect])] at hbody
    exact ⟨hstatus, hbody⟩
  rw [answer_of_told hplan]
  refine ⟨hcarried.entries_eq, ?_⟩
  rcases hcarried.answered with ⟨hok, hresponse⟩ | ⟨e, herror, hresponse, hsame⟩
  · refine .inl ⟨hok, ?_⟩
    rw [Reception.response_respond, hresponse]
    exact hsaid 200 roster.line
  · refine .inr ⟨e, herror, ?_⟩
    rw [Reception.response_respond, hresponse]
    exact ⟨(hsaid 400 e.message).1, (hsaid 400 e.message).2, hsame⟩

theorem server_of_no_call (h : call? s.admin a = none) (net : Network σ) (freshId : String) (st : σ) :
    (answer s net freshId a st).2.1 = s := by
  cases hplan : (receive s freshId a).plan with
  | told served roster => rw [answer_of_told hplan, roster_of_no_call h hplan]
  | relay setting backends => rw [answer_of_relay hplan]

/-- What is asked for is done exactly if the status says so, and then the answer is the list after it. -/
theorem status_of_call? {call : Call} (h : call? s.admin a = some call) (net : Network σ) (freshId : String) (st : σ) :
    let (served, after, _) := answer s net freshId a st
    (served.response.status = 200 ↔ ∃ l, (call.perform s.roster.entries).1 = .ok l) ∧
      (served.response.status = 200 → served.response.body = Text.utf8 after.roster.line) := by
  obtain ⟨-, ⟨hok, hstatus, hbody⟩ | ⟨e, herror, hstatus, -, -⟩⟩ := answer_of_call? h net freshId st
  · exact ⟨iff_of_true hstatus hok, fun _ => hbody⟩
  · have hrefused : (answer s net freshId a st).1.response.status ≠ 200 := fun h =>
      absurd (hstatus.symm.trans h) (by decide)
    refine ⟨iff_of_false hrefused ?_, fun h => absurd h hrefused⟩
    rw [herror]
    exact nofun

theorem roster_of_status_ne (net : Network σ) (st : σ) (h : (answer s net freshId a st).1.response.status ≠ 200) :
    (answer s net freshId a st).2.1.roster = s.roster := by
  cases hcall : call? s.admin a with
  | none => rw [server_of_no_call hcall]
  | some call =>
    obtain ⟨-, ⟨-, hok, -⟩ | ⟨e, -, -, -, hsame⟩⟩ := answer_of_call? hcall net freshId st
    · exact absurd hok h
    · exact hsame

theorem backends_of_handled {v : Verdict} {served : Served}
    (h : Handled net st (receive s freshId a) (some v) served) :
    v.outcomes.map Outcome.backend = s.roster.entries := by
  cases h with
  | relayed hplan hresult => rw [backends_of_comesTo hresult, backends_of_plan hplan]

/-- A request that goes to the relay is relayed if its body fits, and the server stays as it is. -/
theorem relayed_of_fits (hroute : (route s.admin.dynamicBackends a.method a.target.path).isRelay = true)
    (hfits : Fits bodyLimit a.body) (net : Network σ) (freshId : String) (st : σ) :
    (answer s net freshId a st).2.1 = s ∧
      ∃ v, Handled net st (receive s freshId a) (some v) (answer s net freshId a st).1 := by
  obtain ⟨r, -, hplan⟩ := plan_of_fits hroute hfits freshId
  obtain ⟨v, hv⟩ := handled_answer net s freshId a st
  obtain ⟨schedule, result, -, rfl, -⟩ := hv.of_relay hplan
  refine ⟨?_, result.verdict, hv⟩
  rw [answer_of_relay hplan]

-- ---------------------------------------------------------------------------
-- One request after the other
-- ---------------------------------------------------------------------------

/-- Answers requests one after the other, each with the id that it gets if it brings none: the server and the
network after that. -/
def serve (net : Network σ) (s : Server) (st : σ) : List (String × Arrival) → Server × σ
  | [] => (s, st)
  | (freshId, a) :: rest =>
    let (_, s, st) := answer s net freshId a st
    serve net s st rest

/-- The changes that requests ask for and may make. -/
def calls (admin : Admin) (requests : List (String × Arrival)) : List Call :=
  requests.filterMap fun x => call? admin x.2

theorem calls_cons (admin : Admin) (x : String × Arrival) (rest : List (String × Arrival)) :
    calls admin (x :: rest) = (call? admin x.2).toList ++ calls admin rest := by
  rw [calls, List.filterMap_cons]
  cases call? admin x.2 <;> rfl

/-- The administration of a server does not change, and its roster does as the call says. -/
theorem answer_refines (net : Network σ) (s : Server) (freshId : String) (a : Arrival) (st : σ) :
    (answer s net freshId a st).2.1.admin = s.admin ∧
      (answer s net freshId a st).2.1.roster.entries =
        (performAll s.roster.entries (call? s.admin a).toList).2 := by
  constructor
  · cases hplan : (receive s freshId a).plan with
    | told served roster => rw [answer_of_told hplan]
    | relay setting backends => rw [answer_of_relay hplan]
  · cases hcall : call? s.admin a with
    | none =>
      rw [server_of_no_call hcall]
      rfl
    | some call => exact (answer_of_call? hcall net freshId st).1

/-- Requests one after the other come to the calls that they ask for. -/
theorem serve_refines (net : Network σ) (s : Server) (st : σ) (requests : List (String × Arrival)) :
    (serve net s st requests).1.admin = s.admin ∧
      (serve net s st requests).1.roster.entries =
        (performAll s.roster.entries (calls s.admin requests)).2 := by
  induction requests generalizing s st with
  | nil => exact ⟨rfl, rfl⟩
  | cons x rest ih =>
    obtain ⟨freshId, a⟩ := x
    obtain ⟨hadmin, hentries⟩ := answer_refines net s freshId a st
    obtain ⟨hadmin', hentries'⟩ := ih (answer s net freshId a st).2.1 (answer s net freshId a st).2.2
    refine ⟨hadmin'.trans hadmin, ?_⟩
    rw [serve]
    dsimp only
    rw [hentries', hadmin, hentries, calls_cons, performAll_append]

/-- Where the roster is not administered, no request can ask for a change. -/
theorem call?_of_static {admin : Admin} (h : admin.dynamicBackends = false) (a : Arrival) : call? admin a = none := by
  rw [call?, if_neg]
  rintro ⟨hdynamic, -⟩
  rw [h] at hdynamic
  cases hdynamic

theorem calls_of_static {admin : Admin} (h : admin.dynamicBackends = false) (requests : List (String × Arrival)) :
    calls admin requests = [] := by
  rw [calls, List.filterMap_eq_nil_iff]
  exact fun x _ => call?_of_static h x.2

/-- **The server is a list of backends on which calls are made.** Settings ask for a server, and it answers
requests one after the other. After any of them its roster is the list that the settings seed, with the changes
made that the requests ask for, one after the other and as on a bare list. The next request changes the roster
only if it asks for that; then it is answered with the list after the change, or the change is refused and the
list stays. A request that goes to the relay with a body that fits is relayed to the list as it is. Where the roster
is not administered, it stays as it was seeded. -/
theorem roster_refines {settings : Settings} {server : Server} {events : List Journal.Event}
    (hserver : ofSettings settings = .ok (server, events)) (net : Network σ) (st : σ)
    (past : List (String × Arrival)) (freshId : String) (a : Arrival) :
    let now := serve net server st past
    let next := answer now.1 net freshId a now.2
    let held := (performAll [] (settings.backends.map .add ++ calls settings.admin past)).2
    now.1.roster.entries = held ∧
    (∀ call, call? settings.admin a = some call → next.2.1.roster.entries = (call.perform held).2 ∧
      (next.1.response.status = 200 ↔ ∃ l, (call.perform held).1 = .ok l) ∧
      (next.1.response.status = 200 →
        next.1.response.body = Text.utf8 (" ".intercalate next.2.1.roster.entries))) ∧
    (call? settings.admin a = none → next.2.1.roster = now.1.roster) ∧
    (next.1.response.status ≠ 200 → next.2.1.roster = now.1.roster) ∧
    (∀ v served, Handled net now.2 (receive now.1 freshId a) (some v) served →
      v.outcomes.map Outcome.backend = held) ∧
    ((route settings.admin.dynamicBackends a.method a.target.path).isRelay = true → Fits bodyLimit a.body →
      next.2.1.roster = now.1.roster ∧
        ∃ v, Handled net now.2 (receive now.1 freshId a) (some v) next.1 ∧ v.outcomes.map Outcome.backend = held) ∧
    (settings.admin.dynamicBackends = false →
      next.2.1.roster = now.1.roster ∧ held = (performAll [] (settings.backends.map .add)).2) := by
  intro now next held
  obtain ⟨hadmin, hseeded⟩ := ofSettings_spec hserver
  obtain ⟨hadmin', hentries⟩ := serve_refines net server st past
  have hnow : now.1.admin = settings.admin := hadmin'.trans hadmin
  have hheld : now.1.roster.entries = held := by
    rw [hentries, hadmin, hseeded, entries_seed, ← performAll_append]
  have hkept (hnone : call? now.1.admin a = none) : next.2.1.roster = now.1.roster :=
    congrArg Server.roster (server_of_no_call hnone net freshId now.2)
  have hnamed {v : Verdict} {served : Served} (h : Handled net now.2 (receive now.1 freshId a) (some v) served) :
      v.outcomes.map Outcome.backend = held :=
    (backends_of_handled h).trans hheld
  rw [← hnow]
  refine ⟨hheld, fun call hcall => ?_, hkept, roster_of_status_ne net now.2, fun v served h => hnamed h,
    fun hroute hfits => ?_, fun hstatic => ?_⟩
  · rw [← hheld]
    exact ⟨(answer_of_call? hcall net freshId now.2).1, status_of_call? hcall net freshId now.2⟩
  · obtain ⟨hsame, v, hv⟩ := relayed_of_fits hroute hfits net freshId now.2
    exact ⟨congrArg Server.roster hsame, v, hv, hnamed hv⟩
  · refine ⟨hkept (call?_of_static hstatic a), ?_⟩
    rw [hnow] at hstatic
    simp only [held, calls_of_static hstatic, List.append_nil]

/-- A server that may be administered by whoever has the key. -/
def guardedSettings : Settings where
  backends := ["a", "", "a"]
  admin := { dynamicBackends := true, apiKey := some "k" }

/-- A request for a change, with the key. -/
def guardedRequest (method : String) : Arrival where
  method := method
  target := { rest := "/backends?server=b".toList }
  headers := [⟨"authorization", Text.utf8 "Bearer k"⟩]

theorem call?_guarded (method : String) :
    call? guardedSettings.admin (guardedRequest method) = changeOf? method "b" := by
  have htrusted : IsTrusted guardedSettings.admin (guardedRequest method).headers := by
    rintro key ⟨⟩
    exact ⟨_, rfl, List.all_eq_true.1 (by decide), rfl⟩
  have hnamed : named (some "server=b".toList) = ["b"] := by decide +kernel
  have hquery : (guardedRequest method).target.query? = some "server=b".toList := rfl
  rw [call?, if_pos ⟨rfl, rfl, htrusted⟩, hquery, hnamed]
  rfl

/-- A backend is added. Then a request for the root is relayed to it too, or it is removed again. -/
theorem roster_refines_guarded :
    ∃ server events, ofSettings guardedSettings = .ok (server, events) ∧
      let now := serve Network.empty server () [("1", guardedRequest "POST")]
      let next := answer now.1 Network.empty "2" (guardedRequest "DELETE") now.2
      let root : Arrival := { method := "GET", target := { rest := ['/'] } }
      now.1.roster.entries = ["a", "b"] ∧ next.2.1.roster.entries = ["a"] ∧
      next.1.response.status = 200 ∧ next.1.response.body = Text.utf8 "a" ∧
      ∃ v, Handled Network.empty now.2 (receive now.1 "2" root) (some v)
          (answer now.1 Network.empty "2" root now.2).1 ∧
        v.outcomes.map Outcome.backend = ["a", "b"] := by
  have hcalls : calls guardedSettings.admin [("1", guardedRequest "POST")] = [.add "b"] := by
    rw [calls_cons, call?_guarded]
    rfl
  obtain ⟨server, events, hserver⟩ : ∃ server events, ofSettings guardedSettings = .ok (server, events) :=
    ⟨_, _, rfl⟩
  refine ⟨server, events, hserver, ?_⟩
  intro now next root
  obtain ⟨hheld, hmade, -⟩ :=
    roster_refines hserver Network.empty () [("1", guardedRequest "POST")] "2" (guardedRequest "DELETE")
  obtain ⟨-, -, -, -, -, hrelayed, -⟩ :=
    roster_refines hserver Network.empty () [("1", guardedRequest "POST")] "2" root
  obtain ⟨hafter, hstatus, hbody⟩ := hmade (.remove "b") (call?_guarded "DELETE")
  rw [hcalls] at hheld hafter hstatus hrelayed
  have hok : next.1.response.status = 200 := hstatus.2 ⟨_, rfl⟩
  have hentries : next.2.1.roster.entries = ["a"] := hafter
  refine ⟨hheld, hentries, hok, ?_, (hrelayed rfl (fits_nil bodyLimit)).2⟩
  rw [hbody hok, hentries]
  rfl

end Server

end Repeater
