import Repeater.Proofs.AdminClient.Request
import Repeater.Proofs.Client.Reply
import Repeater.Proofs.Server.Reply
import Repeater.Proofs.Server.Verdict
import Repeater.Proofs.Text.Words
import Repeater.Settings.Load

/-!
# What a call comes to

A call is one request to the server, and the client sees the answer or a fault. So what the client says of the
backends is what the server makes of the request: it is carried out, refused, or, where backends are not
administered, relayed like any other, and then the client takes the answer of the relay for a list.

Main results:

* `send_eq`              — when the answer of the server arrives;
* `splitList_line_iff`   — when a list is read back from its line;
* `performs_change`      — a call that is answered does with a backend what the roster does;
* `names_eq_entries_iff` — when the list that is returned is that of the server;
* `success_iff`          — what success says of a backend.
-/

namespace Repeater

namespace AdminClient

open Http Client Relay

variable {σ : Type} {net : Network σ} {here : Endpoint → Bool} {random : List UInt8} {e : Endpoint} {c : AdminClient}
  {call : Call} {r : Client.Request} {s : Server} {st : σ}

/-- A server on a network, among those that it relays to. -/
abbrev around (net : Network σ) (here : Endpoint → Bool) (random : List UInt8) : Network (Server × σ) :=
  Server.network net here (Server.freshId random)

/-- What the server does about a request for a call. -/
abbrev handled (s : Server) (net : Network σ) (random : List UInt8) (r : Client.Request) (st : σ) :
    Server.Served × Server × σ :=
  Server.answer s net (Server.freshId random) (arrival r) st

-- ---------------------------------------------------------------------------
-- The exchange
-- ---------------------------------------------------------------------------

theorem IsRequest.isTold (h : IsRequest e call r) : (handled s net random r st).1.response.IsTold := by
  have hmethod : (arrival r).method = call.method := h.method_eq
  refine Server.isTold_answer net s random st ?_ ?_ fun id hid => ?_
  · rw [hmethod]
    exact call.method_ne.2
  · rw [hmethod]
    exact call.method_ne.1
  · rw [h.no_id] at hid
    cases hid

theorem next_ofTold {response : Response} (h : response.IsTold) (hop : Hop) :
    hop.next (Answer.ofTold response) = .stands := by
  have hmore : ∀ n ∈ [301, 302, 303, 307, 308], n ∈ [204, 301, 302, 303, 304, 307, 308] := by
    decide
  have hnone : Hop.restated (Answer.ofTold response).status hop.request = none := by
    rw [← Option.not_isSome_iff_eq_none, restated_isSome]
    exact fun hredirect => h.final (hmore _ hredirect)
  rw [Hop.next, hnone]

/-- The server reads a request for a call, at the endpoint that it is for. -/
theorem request?_asking_eq (h : IsRequest e call r) (hhere : here e = true) {t : Target}
    (ht : Target.parse? r.url.text = some t) :
    (Exchange.asking { request := r } t e).request? (around net here random) {} = some (e, delivery r) := by
  have haccepts : accepts (around net here random) {} r.url.scheme e = true := by
    rw [h.asked.scheme_eq, accepts]
    simp only [Server.network, hhere, if_true]
    decide
  exact request?_asking.2 ⟨rfl, haccepts, h.written_eq ht⟩

theorem contact_eq_replied (h : IsRequest e call r) (hhere : here e = true) {t : Target}
    (ht : Target.parse? r.url.text = some t) (net : Network σ) (random : List UInt8) (s : Server) (st : σ) :
    contact (around net here random) {} { request := r } t e (s, st) =
      (.replied { bytes := (handled s net random r st).1.response.bytes .http11 }, (handled s net random r st).2) := by
  have hserved : (around net here random).serve e (delivery r) (s, st) =
      ({ bytes := (handled s net random r st).1.response.bytes .http11 }, (handled s net random r st).2) := by
    show (if here e then Server.reply s net (Server.freshId random) (delivery r) st else _) = _
    rw [if_pos hhere, Server.reply, h.arrival?_eq (Option.isSome_iff_exists.2 ⟨t, ht⟩)]
  rw [contact_of_request? (request?_asking_eq h hhere ht), hserved]

theorem start_eq (h : IsRequest e call r) {t : Target} (ht : Target.parse? r.url.text = some t) :
    Exchange.start { request := r } = .asking { request := r } t e := by
  have hspoken : isSpoken r.url.scheme = true := by
    rw [h.asked.scheme_eq]
    decide
  rw [Exchange.start]
  simp only [ht, h.asked.endpoint_eq, hspoken, if_true]

/-- What the client reads of the answer of the server. -/
theorem read_handled (h : IsRequest e call r) (net : Network σ) (random : List UInt8) (s : Server) (st : σ)
    {a : Client.Answer} :
    Answer.read r.method { bytes := (handled s net random r st).1.response.bytes .http11 } = .ok a ↔
      (handled s net random r st).1.response.headOctets.length ≤ Answer.headLimit ∧
      (handled s net random r st).1.response.body.size ≤ maxLength ∧
      a = .ofTold (handled s net random r st).1.response :=
  Answer.read_eq_ok_iff h.isTold (h.method_eq ▸ call.method_ne.2) (h.method_eq ▸ call.method_ne.1)

theorem stands_handled (h : IsRequest e call r) (net : Network σ) (random : List UInt8) (s : Server) (st : σ) :
    ∀ a, Answer.read r.method { bytes := (handled s net random r st).1.response.bytes .http11 } = .ok a →
      Hop.next { request := r } a = .stands := by
  intro a ha
  rw [((read_handled h net random s st).1 ha).2.2]
  exact next_ofTold h.isTold _

/-- **What the client has of a call.** The server takes the request and its answer arrives, or there is a fault. -/
theorem send_eq (h : IsRequest e call r) (hhere : here e = true) (haskable : IsAskable r.url) (net : Network σ)
    (random : List UInt8) (s : Server) (st : σ) :
    (Client.send (around net here random) {} r (s, st)).2 = (handled s net random r st).2 ∧
      ∀ a, (Client.send (around net here random) {} r (s, st)).1 = .ok a ↔
        (handled s net random r st).1.response.headOctets.length ≤ Answer.headLimit ∧
        (handled s net random r st).1.response.body.size ≤ maxLength ∧
        a = .ofTold (handled s net random r st).1.response := by
  obtain ⟨t, ht⟩ := Option.isSome_iff_exists.1 haskable
  obtain ⟨hafter, hsent⟩ := send_of_stands (start_eq h ht) (contact_eq_replied h hhere ht net random s st)
    (stands_handled h net random s st)
  exact ⟨hafter, fun a => (hsent a).trans (read_handled h net random s st)⟩

/-- The fault is that the answer is none that a client reads. -/
theorem fault_of_send (h : IsRequest e call r) (hhere : here e = true) (haskable : IsAskable r.url)
    {fault : Client.Fault} (hfault : (Client.send (around net here random) {} r (s, st)).1 = .error fault) :
    ∃ url, fault = .timeout url ∨ fault = .broken url := by
  obtain ⟨t, ht⟩ := Option.isSome_iff_exists.1 haskable
  exact fault_of_stands (start_eq h ht) (contact_eq_replied h hhere ht net random s st)
    (stands_handled h net random s st) hfault

/-- A call gets an answer. -/
def IsAnswered {τ : Type} (c : AdminClient) (net : Network τ) (call : Call) (st : τ) : Prop :=
  ∃ r a, c.request call = .ok r ∧ (Client.send net {} r st).1 = .ok a

theorem isAnswered_iff {τ : Type} {net : Network τ} {st : τ} (hr : c.request call = .ok r) :
    c.IsAnswered net call st ↔ (Client.send net {} r st).1.toOption.isSome = true := by
  rw [IsAnswered, hr]
  constructor
  · rintro ⟨_, a, ⟨⟩, hsent⟩
    rw [hsent]
    rfl
  · intro h
    cases hsent : (Client.send net {} r st).1 with
    | ok a => exact ⟨r, a, rfl, hsent⟩
    | error fault =>
      rw [hsent] at h
      cases h

instance {τ : Type} (c : AdminClient) (net : Network τ) (call : Call) (st : τ) :
    Decidable (c.IsAnswered net call st) :=
  match h : c.request call with
  | .ok _ => decidable_of_iff _ (isAnswered_iff h).symm
  | .error _ => isFalse fun ⟨_, _, hr, _⟩ => nomatch h.symm.trans hr

/-- What a client says of a response. -/
def said (response : Response) : Except Fault Answer :=
  let text := Text.decodeAs .utf8 response.body
  if isSuccess response.status then .ok (.backends (splitList text)) else .error (.status response.status text)

theorem read_ofTold {response : Response} (h : response.IsTold) (hcall : call ≠ .health) :
    read call (.ofTold response) = said response := by
  have htext := Client.Answer.text?_ofTold h
  cases call with
  | register | unregister | list =>
    rw [read, htext]
    · rfl
    · exact nofun
  | health => exact absurd rfl hcall

/-- **What a call comes to.** -/
theorem call_of_isAnswered (hleads : c.LeadsTo e) (hhere : here e = true) (hcall : call ≠ .health)
    (h : c.IsAnswered (around net here random) call (s, st)) :
    ∃ r, c.request call = .ok r ∧ IsRequest e call r ∧ c.call (around net here random) call (s, st) =
      (said (handled s net random r st).1.response, (handled s net random r st).2) := by
  obtain ⟨r, a, hr, hsent⟩ := h
  have hrequest := isRequest_of_request hleads hcall hr
  obtain ⟨hafter, hiff⟩ := send_eq hrequest hhere (isAskable_of_send hsent) net random s st
  refine ⟨r, hr, hrequest, ?_⟩
  have hanswer := ((hiff a).1 hsent).2.2
  rw [AdminClient.call, hr]
  dsimp only
  rw [← Prod.eta (Client.send _ _ r (s, st)), hsent, hafter, hanswer]
  dsimp only
  rw [read_ofTold hrequest.isTold hcall]

theorem isAnswered_of_ok {τ : Type} {net : Network τ} {st st' : τ} {answer : Answer}
    (h : c.call net call st = (.ok answer, st')) : c.IsAnswered net call st := by
  unfold AdminClient.call at h
  split at h
  · cases h
  · rename_i r hr
    split at h
    · cases h
    · rename_i a _ hsent
      exact ⟨r, a, hr, congrArg Prod.fst hsent⟩

-- ---------------------------------------------------------------------------
-- What the server makes of it
-- ---------------------------------------------------------------------------

/-- What a call does to a roster. -/
def Call.apply (call : Call) (roster : Roster) : Except Roster.Refusal Roster :=
  match call with
  | .register b => roster.add b
  | .unregister b => roster.remove b
  | .list | .health => .ok roster

/-- A response tells what becomes of a roster. -/
structure Tells (before : Roster) (change : Except Roster.Refusal Roster) (response : Response) (after : Roster) :
    Prop where
  done : ∀ roster, change = .ok roster →
    after = roster ∧ response.status = 200 ∧ response.body = Text.utf8 roster.line
  refused : ∀ refusal, change = .error refusal →
    after = before ∧ response.status = 400 ∧ response.body = Text.utf8 refusal.message

theorem Tells.status_ne {before after : Roster} {change : Except Roster.Refusal Roster} {response : Response}
    (h : Tells before change response after) : response.status ≠ 401 := by
  intro hstatus
  cases change with
  | ok roster =>
    rw [(h.done roster rfl).2.1] at hstatus
    cases hstatus
  | error refusal =>
    rw [(h.refused refusal rfl).2.1] at hstatus
    cases hstatus

theorem tells_changed (r : Roster) (change : Except Roster.Refusal Roster)
    (refused : Roster.Refusal → Journal.Event) (events : List Journal.Event) :
    Tells r change (Server.changed r change refused events).1.response
      (Server.changed r change refused events).2 := by
  constructor
  · rintro roster rfl
    exact ⟨rfl, rfl, rfl⟩
  · rintro refusal rfl
    exact ⟨rfl, rfl, rfl⟩

theorem IsRequest.sent_eq (h : IsRequest e call r) (response : Response) :
    ((Server.receive s (Server.freshId random) (arrival r)).sent response).status = response.status ∧
      ((Server.receive s (Server.freshId random) (arrival r)).sent response).body = response.body := by
  have hmethod : (Server.receive s (Server.freshId random) (arrival r)).arrival.method = call.method :=
    (Server.method_identified _ _).trans h.method_eq
  rw [Server.Reception.sent_eq (hmethod ▸ call.method_ne.2) (hmethod ▸ call.method_ne.1)]
  exact ⟨rfl, rfl⟩

/-- Where a call goes, if backends are administered. -/
def Call.route : Call → Server.Route
  | .register _ => .register
  | .unregister _ => .unregister
  | .list | .health => .list

theorem IsRequest.route_eq (h : IsRequest e call r) (dynamic : Bool) :
    Server.route dynamic (arrival r).method (arrival r).target.path =
      if dynamic = true then call.route else .relay none := by
  have hmethod : (arrival r).method = call.method := h.method_eq
  rw [h.path_eq, hmethod]
  cases call <;> cases dynamic <;> rfl

theorem IsRequest.administer_eq (h : IsRequest e call r) (roster : Roster) :
    Tells roster (call.apply roster) (Server.administer roster call.route (arrival r).target.query?).1.response
      (Server.administer roster call.route (arrival r).target.query?).2 := by
  have hnamed := h.named_eq
  unfold Server.administer Call.route
  cases call with
  | register b =>
    rw [Server.ofQuery_eq_backend_iff.2 (.inr hnamed)]
    exact tells_changed roster _ _ _
  | unregister b =>
    rw [Server.ofQuery_eq_backend_iff.2 (.inr hnamed)]
    exact tells_changed roster _ _ _
  | list | health => exact ⟨fun _ h => Except.ok.inj h ▸ ⟨rfl, rfl, rfl⟩, nofun⟩

theorem IsRequest.plan_eq (h : IsRequest e call r) (hdynamic : s.admin.dynamicBackends = true) (freshId : String) :
    (Server.receive s freshId (arrival r)).plan =
      if Server.isAuthorized s.admin (arrival r).headers = true then
        .told (Server.administer s.roster call.route (arrival r).target.query?).1
          (Server.administer s.roster call.route (arrival r).target.query?).2
      else .told (Server.unauthorized (requestId (Server.identified freshId (arrival r)).headers)
        (arrival r).target.path) s.roster := by
  have hroute := h.route_eq s.admin.dynamicBackends
  rw [if_pos hdynamic] at hroute
  have hadmin : call.route.isAdmin = true := by
    cases call <;> rfl
  exact Server.plan_of_admin hroute hadmin freshId

/-- **Who is trusted gets what the roster gives.** -/
theorem handled_of_trusted (h : IsRequest e call r) (hdynamic : s.admin.dynamicBackends = true)
    (htrusted : Server.IsTrusted s.admin (arrival r).headers) (net : Network σ) (random : List UInt8) (st : σ) :
    Tells s.roster (call.apply s.roster) (handled s net random r st).1.response
      (handled s net random r st).2.1.roster := by
  have hplan := h.plan_eq hdynamic (Server.freshId random)
  rw [if_pos (Server.isAuthorized_iff.2 htrusted)] at hplan
  have htells := h.administer_eq s.roster
  rw [handled, Server.answer_of_told hplan, Server.Reception.response_respond]
  constructor
  · rw [(h.sent_eq _).1, (h.sent_eq _).2]
    exact htells.done
  · rw [(h.sent_eq _).1, (h.sent_eq _).2]
    exact htells.refused

/-- Who is not trusted is told so, and nothing changes. -/
theorem handled_of_untrusted (h : IsRequest e call r) (hdynamic : s.admin.dynamicBackends = true)
    (huntrusted : ¬Server.IsTrusted s.admin (arrival r).headers) (net : Network σ) (random : List UInt8) (st : σ) :
    (handled s net random r st).1.response.status = 401 ∧ (handled s net random r st).2 = (s, st) := by
  have hplan := h.plan_eq hdynamic (Server.freshId random)
  rw [if_neg (mt Server.isAuthorized_iff.1 huntrusted)] at hplan
  rw [handled, Server.answer_of_told hplan, Server.Reception.response_respond, (h.sent_eq _).1]
  exact ⟨rfl, rfl⟩

/-- Where backends are not administered, a call is relayed, and nothing changes. -/
theorem handled_of_static (h : IsRequest e call r) (hstatic : s.admin.dynamicBackends = false) (net : Network σ)
    (random : List UInt8) (st : σ) :
    (handled s net random r st).2.1 = s ∧ (isSuccess (handled s net random r st).1.response.status = true →
      (handled s net random r st).1.response.body = Text.utf8 "proxied") := by
  have hroute : (Server.route s.admin.dynamicBackends (arrival r).method (arrival r).target.path).isRelay = true := by
    rw [h.route_eq, hstatic]
    rfl
  refine ⟨Server.server_of_no_call (Server.call?_of_static hstatic _) net _ st, ?_⟩
  obtain ⟨v, hhandled⟩ := Server.handled_answer net s (Server.freshId random) (arrival r) st
  rw [Server.response_of_handled hroute hhandled, (h.sent_eq _).1, (h.sent_eq _).2]
  cases v with
  | none => exact fun hsuccess => absurd hsuccess (by decide)
  | some v =>
    rw [Server.callerResponse, Verdict.response, Verdict.status, Verdict.message]
    cases v.isFailure with
    | true => exact fun hsuccess => absurd hsuccess (by decide)
    | false => exact fun _ => rfl

-- ---------------------------------------------------------------------------
-- A server to try it on
-- ---------------------------------------------------------------------------

/-- A server on the local machine. -/
def localEndpoint : Endpoint :=
  ⟨.v4 ⟨127, 0, 0, 1⟩, 18400⟩

/-- A client of it. -/
def localClient (key : Option String) : AdminClient :=
  { base := "http://127.0.0.1:18400", key }

/-- A network on which there is no other. -/
abbrev localNetwork : Network (Server × Unit) :=
  around Network.empty (· == localEndpoint) []

theorem base_local (key : Option String) : (localClient key).base.toList = "http".toList ++ "://".toList ++
    ((Url.Host.v4 ⟨127, 0, 0, 1⟩).text ++ Url.portText (some 18400) ++ []) := by
  rw [List.append_nil]
  show "http://127.0.0.1:18400".toList = _
  rfl

theorem unusual_local : ∀ p ∈ some (18400 : UInt16), Url.usualPort? "http".toList ≠ some p := by
  rintro _ ⟨⟩
  decide

theorem leadsTo_local (key : Option String) : (localClient key).LeadsTo localEndpoint :=
  leadsTo_of_base (.v4 _) trivial unusual_local (List.forall_mem_nil _) (base_local key)

/-- A server that may be administered, as settings ask for it. -/
def administeredServer : Server where
  admin := { dynamicBackends := true }
  policy := { timeout := some defaultTimeout }

theorem ofSettings_administered : ∃ settings events,
    Settings.load none { dynamicBackends := some true } = .ok settings ∧
      Server.ofSettings settings = .ok (administeredServer, events) :=
  ⟨_, _, rfl, rfl⟩

theorem outcome_eq {outcome : Except Fault Answer × Server × σ} {names : List String}
    (h : outcome.1 = .ok (.backends names)) : outcome = (.ok (.backends names), outcome.2.1, outcome.2.2) :=
  Prod.ext h rfl

theorem call_blank : ((localClient none).call localNetwork (.register "a b") (administeredServer, ())).1 =
    .ok (.backends ["a", "b"]) := by
  decide +kernel

-- ---------------------------------------------------------------------------
-- The line of backends
-- ---------------------------------------------------------------------------

/-- **A list of backends is read back from its line exactly if no backend has a blank in it**, so different lists of
such backends have different lines. That no backend is there twice, as on a roster, makes no difference. -/
theorem splitList_line_iff :
    (∀ l : List String, "" ∉ l →
      (splitList (" ".intercalate l) = l ↔ ∀ b ∈ l, ∀ c ∈ b.toList, Text.isBlank c = false)) ∧
    Set.InjOn (fun l : List String => " ".intercalate l) { l | ∀ b ∈ l, Text.IsWord b } ∧
    (∀ r : Roster, splitList r.line = r.entries ↔ ∀ b ∈ r.entries, ∀ c ∈ b.toList, Text.isBlank c = false) ∧
    Set.InjOn Roster.line { r | ∀ b ∈ r.entries, Text.IsWord b } := by
  refine ⟨fun l hl => Text.words_line_eq_self_iff hl, Text.line_injOn,
    fun r => Text.words_line_eq_self_iff r.nonempty, ?_⟩
  intro r hr s hs hline
  exact Roster.ext (Text.line_injOn hr hs hline)

/-- A backend that is there twice is read twice, one with a blank in it as two. -/
example : splitList (" ".intercalate ["http://a", "http://a", "b c"]) = ["http://a", "http://a", "b", "c"] := by
  decide +kernel

-- ---------------------------------------------------------------------------
-- Where backends are administered
-- ---------------------------------------------------------------------------

/-- What a client reads of the backends that a server has. -/
def namesRead (entries : List String) : List String :=
  (entries.modifyHead Text.unmark).flatMap Text.words

/-- A call does to a roster what it is to do, and returns the names that are read of it; or it is refused, and says
so in the words of the roster, which stays. -/
structure Performs (before : Roster) (change : Except Roster.Refusal Roster)
    (outcome : Except Fault Answer × Server × σ) : Prop where
  done : ∀ roster, change = .ok roster →
    outcome.2.1.roster = roster ∧ outcome.1 = .ok (.backends (namesRead roster.entries))
  refused : ∀ refusal, change = .error refusal →
    outcome.2.1.roster = before ∧ outcome.1 = .error (.status 400 refusal.message)

theorem said_line {response : Response} {roster : Roster} (hstatus : response.status = 200)
    (hbody : response.body = Text.utf8 roster.line) : said response = .ok (.backends (namesRead roster.entries)) := by
  have hnames : splitList (Text.decodeAs .utf8 (Text.utf8 roster.line)) = namesRead roster.entries :=
    Text.words_decoded_line roster.nonempty
  rw [said, hstatus, hbody, hnames]
  rfl

theorem said_refusal {response : Response} {refusal : Roster.Refusal} (hstatus : response.status = 400)
    (hbody : response.body = Text.utf8 refusal.message) : said response = .error (.status 400 refusal.message) := by
  have hmessages : refusal.message ∈ ["server parameter is missing", "already there"] := by
    cases refusal <;> simp [Roster.Refusal.message]
  have hunmarked : ∀ text ∈ ["server parameter is missing", "already there"],
      text.toList.head? ≠ some Text.markChar := by
    decide
  have htext : Text.decodeAs .utf8 (Text.utf8 refusal.message) = refusal.message := by
    rw [Text.decodeAs_utf8]
    exact Text.unmark_eq_self_iff.2 (hunmarked _ hmessages)
  rw [said, hstatus, hbody, htext]
  rfl

/-- **A call that is answered does what the roster does.** -/
theorem performs_of_isAnswered (hleads : c.LeadsTo e) (hhere : here e = true)
    (hdynamic : s.admin.dynamicBackends = true) (hcall : call ≠ .health) (htrusted : c.IsTrustedBy s.admin call)
    (h : c.IsAnswered (around net here random) call (s, st)) :
    Performs s.roster (call.apply s.roster) (c.call (around net here random) call (s, st)) := by
  obtain ⟨r, hr, hrequest, houtcome⟩ := call_of_isAnswered hleads hhere hcall h
  have htells := handled_of_trusted hrequest hdynamic (htrusted r hr) net random st
  rw [houtcome]
  constructor
  · intro roster hroster
    obtain ⟨hafter, hstatus, hbody⟩ := htells.done roster hroster
    exact ⟨hafter, said_line hstatus hbody⟩
  · intro refusal hrefusal
    obtain ⟨hafter, hstatus, hbody⟩ := htells.refused refusal hrefusal
    exact ⟨hafter, said_refusal hstatus hbody⟩

/-- **Registering and unregistering through a client.** Whatever characters a backend is made of, a call that is
answered does with it what the roster does. -/
theorem performs_change (hleads : c.LeadsTo e) (hhere : here e = true) (hdynamic : s.admin.dynamicBackends = true)
    (b : String) :
    (c.IsTrustedBy s.admin (.register b) → c.IsAnswered (around net here random) (.register b) (s, st) →
      Performs s.roster (s.roster.add b) (c.call (around net here random) (.register b) (s, st))) ∧
    (c.IsTrustedBy s.admin (.unregister b) → c.IsAnswered (around net here random) (.unregister b) (s, st) →
      Performs s.roster (s.roster.remove b) (c.call (around net here random) (.unregister b) (s, st))) :=
  ⟨performs_of_isAnswered hleads hhere hdynamic nofun, performs_of_isAnswered hleads hhere hdynamic nofun⟩

/-- A backend of all kinds of characters is registered with the key. Without a backend the call is refused. -/
theorem performs_change_local :
    let before : Server := { admin := { dynamicBackends := true, apiKey := some "k" } }
    let client := localClient (some "k")
    client.IsTrustedBy before.admin (.register "a b+%&=#;é") ∧
    client.IsAnswered localNetwork (.register "a b+%&=#;é") (before, ()) ∧
    (client.call localNetwork (.register "a b+%&=#;é") (before, ())).2.1.roster.entries = ["a b+%&=#;é"] ∧
    client.IsTrustedBy before.admin (.unregister "") ∧ client.IsAnswered localNetwork (.unregister "") (before, ()) ∧
    (client.call localNetwork (.unregister "") (before, ())).1 =
      .error (.status 400 "server parameter is missing") := by
  intro before client
  have hleads : client.LeadsTo localEndpoint := leadsTo_local (some "k")
  have htrusted : client.IsTrustedBy before.admin (.register "a b+%&=#;é") := by
    decide +kernel
  have hanswered : client.IsAnswered localNetwork (.register "a b+%&=#;é") (before, ()) := by
    decide +kernel
  have htrusted' : client.IsTrustedBy before.admin (.unregister "") := by
    decide +kernel
  have hanswered' : client.IsAnswered localNetwork (.unregister "") (before, ()) := by
    decide +kernel
  have hregister := (performs_change hleads rfl rfl "a b+%&=#;é").1 htrusted hanswered
  have hunregister := (performs_change hleads rfl rfl "").2 htrusted' hanswered'
  refine ⟨htrusted, hanswered, ?_, htrusted', hanswered', (hunregister.refused .missing rfl).2⟩
  rw [(hregister.done _ rfl).1]
  rfl

variable {names : List String} {after : Server} {st' : σ}

/-- Only who is trusted succeeds. -/
theorem roster_of_ok (hleads : c.LeadsTo e) (hhere : here e = true) (hdynamic : s.admin.dynamicBackends = true)
    (hcall : call ≠ .health) (h : c.call (around net here random) call (s, st) = (.ok (.backends names), after, st')) :
    call.apply s.roster = .ok after.roster ∧ names = namesRead after.roster.entries := by
  obtain ⟨r, -, hrequest, houtcome⟩ := call_of_isAnswered hleads hhere hcall (isAnswered_of_ok h)
  obtain ⟨hsaid, hafter⟩ := Prod.mk.inj (houtcome.symm.trans h)
  by_cases htrusted : Server.IsTrusted s.admin (arrival r).headers
  · have htells := handled_of_trusted hrequest hdynamic htrusted net random st
    rw [hafter] at htells
    cases hchange : call.apply s.roster with
    | ok roster =>
      obtain ⟨rfl, hstatus, hbody⟩ := htells.done roster hchange
      rw [said_line hstatus hbody] at hsaid
      cases hsaid
      exact ⟨rfl, rfl⟩
    | error refusal =>
      obtain ⟨-, hstatus, hbody⟩ := htells.refused refusal hchange
      rw [said_refusal hstatus hbody] at hsaid
      cases hsaid
  · obtain ⟨hstatus, -⟩ := handled_of_untrusted hrequest hdynamic htrusted net random st
    rw [said, hstatus] at hsaid
    cases hsaid

/-- **What a client is told of the backends.** A list comes back as the words of its line. It is the list of the
server exactly if no backend has a blank in it, and the first does not start with a byte order mark. -/
theorem names_eq_entries_iff (hleads : c.LeadsTo e) (hhere : here e = true)
    (hdynamic : s.admin.dynamicBackends = true) (hcall : call ≠ .health)
    (h : c.call (around net here random) call (s, st) = (.ok (.backends names), after, st')) :
    names = namesRead after.roster.entries ∧
      (names = after.roster.entries ↔ (∀ b ∈ after.roster.entries, Text.IsWord b) ∧
        ∀ b ∈ after.roster.entries.head?, b.toList.head? ≠ some Text.markChar) := by
  obtain ⟨-, hnames⟩ := roster_of_ok hleads hhere hdynamic hcall h
  refine ⟨hnames, ?_⟩
  rw [hnames, namesRead, ← Text.words_decoded_line after.roster.nonempty]
  exact Text.words_decoded_line_eq_self_iff after.roster.nonempty

theorem names_eq_entries_iff_blank :
    let outcome := (localClient none).call localNetwork (.register "a b") (administeredServer, ())
    outcome.1 = .ok (.backends ["a", "b"]) ∧ ["a", "b"] = namesRead outcome.2.1.roster.entries ∧
      (["a", "b"] = outcome.2.1.roster.entries ↔ (∀ b ∈ outcome.2.1.roster.entries, Text.IsWord b) ∧
        ∀ b ∈ outcome.2.1.roster.entries.head?, b.toList.head? ≠ some Text.markChar) := by
  have hcall : Call.register "a b" ≠ .health := nofun
  exact ⟨call_blank, names_eq_entries_iff (leadsTo_local none) rfl rfl hcall (outcome_eq call_blank)⟩

/-- **The list that a client is told may differ from that of the server**, which takes a backend with a blank in it
and writes it into a line of backends with blanks between them. -/
theorem names_of_blank : ∃ settings events, Settings.load none { dynamicBackends := some true } = .ok settings ∧
    Server.ofSettings settings = .ok (administeredServer, events) ∧ (localClient none).LeadsTo localEndpoint ∧
    let outcome := (localClient none).call localNetwork (.register "a b") (administeredServer, ())
    outcome.1 = .ok (.backends ["a", "b"]) ∧ outcome.2.1.roster.entries = ["a b"] := by
  obtain ⟨settings, events, hload, hserver⟩ := ofSettings_administered
  have hcall : Call.register "a b" ≠ .health := nofun
  obtain ⟨hadded, -⟩ := roster_of_ok (leadsTo_local none) rfl rfl hcall (outcome_eq call_blank)
  exact ⟨settings, events, hload, hserver, leadsTo_local none, call_blank, Roster.entries_add hadded⟩

-- ---------------------------------------------------------------------------
-- Where they may not be
-- ---------------------------------------------------------------------------

/-- Where backends are not administered, the client takes the answer of the relay for the list. -/
theorem server_of_ok (hleads : c.LeadsTo e) (hhere : here e = true) (hstatic : s.admin.dynamicBackends = false)
    (hcall : call ≠ .health) (h : c.call (around net here random) call (s, st) = (.ok (.backends names), after, st')) :
    after = s ∧ names = ["proxied"] := by
  obtain ⟨r, -, hrequest, houtcome⟩ := call_of_isAnswered hleads hhere hcall (isAnswered_of_ok h)
  obtain ⟨hsaid, hafter⟩ := Prod.mk.inj (houtcome.symm.trans h)
  obtain ⟨hserver, hbody⟩ := handled_of_static hrequest hstatic net random st
  rw [hafter] at hserver
  refine ⟨hserver, ?_⟩
  rw [said] at hsaid
  split at hsaid
  · rename_i hsuccess
    rw [hbody hsuccess] at hsaid
    have hword : splitList (Text.decodeAs .utf8 (Text.utf8 "proxied")) = ["proxied"] := by
      decide +kernel
    rw [hword] at hsaid
    cases hsaid
    rfl
  · cases hsaid

/-- **What success says of a backend.** Where backends are administered, one that was registered is on the roster
and one that was unregistered is not. Where they are not, a call may succeed all the same, and says nothing. -/
theorem success_iff (hleads : c.LeadsTo e) (hhere : here e = true) (b : String) :
    (c.call (around net here random) (.register b) (s, st) = (.ok (.backends names), after, st') →
      (b ∈ after.roster.entries ↔ s.admin.dynamicBackends = true ∨ b ∈ s.roster.entries)) ∧
    (c.call (around net here random) (.unregister b) (s, st) = (.ok (.backends names), after, st') →
      (b ∉ after.roster.entries ↔ s.admin.dynamicBackends = true ∨ b ∉ s.roster.entries)) ∧
    (s.admin.dynamicBackends = false → ∀ call, call ≠ .health →
      c.call (around net here random) call (s, st) = (.ok (.backends names), after, st') →
      after = s ∧ names = ["proxied"]) := by
  have hregister : Call.register b ≠ .health := nofun
  have hunregister : Call.unregister b ≠ .health := nofun
  refine ⟨fun h => ?_, fun h => ?_, fun hstatic call hcall h => server_of_ok hleads hhere hstatic hcall h⟩
  · cases hadmin : s.admin.dynamicBackends with
    | true =>
      have hadded : s.roster.add b = .ok after.roster := (roster_of_ok hleads hhere hadmin hregister h).1
      have hmem : b ∈ after.roster.entries := by
        rw [Roster.entries_add hadded]
        exact List.mem_append_right _ List.mem_cons_self
      exact iff_of_true hmem (.inl rfl)
    | false =>
      obtain ⟨rfl, -⟩ := server_of_ok hleads hhere hadmin hregister h
      simp
  · cases hadmin : s.admin.dynamicBackends with
    | true =>
      have hremoved : s.roster.remove b = .ok after.roster := (roster_of_ok hleads hhere hadmin hunregister h).1
      have hmem : b ∉ after.roster.entries := by
        rw [Roster.entries_remove hremoved]
        simp
      exact iff_of_true hmem (.inl rfl)
    | false =>
      obtain ⟨rfl, -⟩ := server_of_ok hleads hhere hadmin hunregister h
      simp

theorem success_iff_blank :
    let outcome := (localClient none).call localNetwork (.register "a b") (administeredServer, ())
    outcome.1 = .ok (.backends ["a", "b"]) ∧ "a b" ∈ outcome.2.1.roster.entries := by
  have hmem := (success_iff (leadsTo_local none) rfl "a b").1 (outcome_eq call_blank)
  exact ⟨call_blank, hmem.2 (.inl rfl)⟩

/-- **A call may succeed where backends are not administered**, and nothing is registered. -/
theorem success_of_static : ∃ server events, Server.ofSettings {} = .ok (server, events) ∧
    (localClient none).LeadsTo localEndpoint ∧
    let outcome := (localClient none).call localNetwork (.register "http://a") (server, ())
    outcome.1 = .ok (.backends ["proxied"]) ∧ "http://a" ∉ outcome.2.1.roster.entries := by
  refine ⟨_, _, rfl, leadsTo_local none, ?_⟩
  decide +kernel

end AdminClient

end Repeater
