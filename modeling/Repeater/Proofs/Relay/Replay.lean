import Repeater.Proofs.Relay.Destination
import Repeater.Proofs.Relay.Schedule
import Repeater.Proofs.Relay.Trail
import Repeater.Proofs.Url.Written

/-!
# Replays

A request that is taken in is owed to every backend of the list whose server takes requests: once, with its
method and its body, and to nobody else. The client keeps this unless it follows a redirect, or the request
cannot be written for the backend.

## Results

* `replayed_iff` — when every backend is sent the request that was taken in, once, and nothing else.
-/

namespace Repeater.Relay

open Http

variable {σ : Type} {net : Network σ} {s : Setting}

-- ---------------------------------------------------------------------------
-- The first request of an attempt
-- ---------------------------------------------------------------------------

namespace Destination

theorem outgoing_url (d : Destination) (r : Intake) :
    (d.outgoing r).url = d.url ∨ (d.outgoing r).url = d.url.withoutUserinfo := by
  unfold outgoing Client.Request.make
  split
  · exact .inl rfl
  · exact .inr rfl

theorem outgoing_method (d : Destination) (r : Intake) : (d.outgoing r).method = r.method := by
  unfold outgoing Client.Request.make
  split <;> rfl

theorem outgoing_body (d : Destination) (r : Intake) : (d.outgoing r).body = r.body := by
  unfold outgoing Client.Request.make
  split <;> rfl

theorem framing_outgoing (d : Destination) (r : Intake) :
    framing (d.outgoing r).headers = framing r.headers := by
  rw [outgoing, Client.framing_make, framing_erase _ (by decide) (by decide)]

/-- User information makes no difference to where a server takes requests. -/
theorem server?_outgoing (p : Client.Policy) (d : Destination) (r : Intake) :
    Client.server? net p (d.outgoing r).url = Client.server? net p d.url := by
  rcases outgoing_url d r with h | h <;> rw [h]
  rfl

/-- Where a server takes requests there is a host. -/
theorem hasHost_of_server? {p : Client.Policy} {d : Destination} {e : Endpoint}
    (h : Client.server? net p d.url = some e) : d.hasHost = true := by
  rw [Client.server?] at h
  split at h
  · obtain ⟨hplace, -⟩ := Option.filter_eq_some_iff.1 h
    obtain ⟨host, hhost, -⟩ := Option.bind_eq_some_iff.1 hplace
    exact Option.isSome_iff_exists.2 ⟨host, hhost⟩
  · cases h

/-- A destination has been read as a URL. -/
theorem exists_parse {backend target : String} {d : Destination} (h : resolve backend target = .ok d) :
    ∃ text, Url.parse text = .ok d.url := by
  unfold resolve at h
  split at h
  · cases h
  · split at h
    · cases h
    · split at h
      · cases h
      · rename_i hparse
        cases h
        exact ⟨_, hparse⟩

/-- The second word of the request line for a destination. -/
def word (d : Destination) (method : String) : String :=
  String.ofList (if method = "CONNECT" then d.url.authority else d.url.target)

end Destination

/-- The first hop of an exchange with a destination. -/
def Setting.hop (s : Setting) (d : Destination) : Client.Hop :=
  { request := d.outgoing s.request }

/-- Method and target of the first request of an attempt. -/
theorem delivery_of_request? {backend : String} {d : Destination} {e : Endpoint} {δ : Delivery}
    (hd : Destination.resolve backend s.request.target = .ok d)
    (h : (Client.Exchange.start (s.hop d)).request? net s.policy = some (e, δ)) :
    δ.method = s.request.method ∧ δ.target = d.word s.request.method := by
  obtain ⟨hserver, t, ht, hwritten⟩ := Client.request?_start.1 h
  obtain ⟨hmethod, htarget⟩ := Client.delivery_of_written hwritten
  obtain ⟨text, hparse⟩ := Destination.exists_parse hd
  have hscheme : Url.IsWebScheme d.url.scheme := by
    rw [Setting.hop, Destination.server?_outgoing, Client.server?] at hserver
    split at hserver
    · rename_i hspoken
      rwa [Client.isSpoken, Bool.or_eq_true, beq_iff_eq, beq_iff_eq] at hspoken
    · cases hserver
  obtain ⟨host, hweb⟩ := Url.IsWeb.of_parse hparse hscheme
  have hurl := Url.IsWritten.of_parse hparse hscheme
  obtain ⟨hline, hauthority⟩ :
      t.pathAndQuery? = some d.url.target ∧ (d.outgoing s.request).url.authority = d.url.authority := by
    rw [Setting.hop] at ht
    rcases d.outgoing_url s.request with hsame | hbare
    · rw [hsame] at ht ⊢
      exact ⟨Url.pathAndQuery?_of_text hweb hurl ht, rfl⟩
    · rw [hbare] at ht ⊢
      have hline := Url.pathAndQuery?_of_text hweb.withoutUserinfo hurl.withoutUserinfo ht
      exact ⟨hline, rfl⟩
  refine ⟨hmethod.trans (d.outgoing_method s.request), htarget.trans ?_⟩
  have hrequest : (s.hop d).request = d.outgoing s.request := rfl
  rw [Client.requestTarget, hline, Option.getD_some, hrequest, d.outgoing_method, hauthority,
    Destination.word]

/-- A request is read with the body that was taken in exactly if its fields fit the body. -/
theorem isFramed_iff (d : Destination) (t : Target) :
    (∃ δ, (s.hop d).written t = .whole δ ∧ δ.body = s.request.body) ↔
      IsFramed s.request.headers s.request.body := by
  have hframing : framing (s.hop d).fields = framing s.request.headers := by
    rw [(s.hop d).framing_fields]
    exact d.framing_outgoing s.request
  rw [← isFramed_congr hframing, ← d.outgoing_body s.request]
  exact Client.written_iff

-- ---------------------------------------------------------------------------
-- The trail of an attempt
-- ---------------------------------------------------------------------------

theorem request?_ofExchange (backend : String) (d : Destination) (x : Client.Exchange) :
    (Progress.ofExchange s backend d x).request? net s = x.request? net s.policy := by
  cases x <;> rfl

theorem resume_ofExchange {backend : String} {d : Destination} {h : Client.Hop}
    {x : Endpoint × Delivery} (hrequest : (Client.Exchange.start h).request? net s.policy = some x)
    (c : Client.Contact) : (Progress.ofExchange s backend d (.start h)).resume s c =
      .ofExchange s backend d (.resume s.policy h c) := by
  cases hexchange : Client.Exchange.start h with
  | ended r =>
    rw [hexchange] at hrequest
    cases hrequest
  | asking k t e =>
    obtain rfl := Client.hop_of_start hexchange
    rfl

/-- An attempt whose first request is read is the exchange of that request. -/
theorem Progress.start_of_request? {backend : String} {d : Destination} {x : Endpoint × Delivery}
    (hd : Destination.resolve backend s.request.target = .ok d)
    (h : (Client.Exchange.start (s.hop d)).request? net s.policy = some x) :
    start s backend = .ofExchange s backend d (.start (s.hop d)) := by
  have hserver : Client.server? net s.policy d.url = some x.1 :=
    (Destination.server?_outgoing s.policy d s.request).symm.trans (Client.request?_start.1 h).1
  simp only [start, hd, Destination.request_of_hasHost (Destination.hasHost_of_server? hserver)]
  rfl

/-- What is read first of an attempt is the request for its destination, if that is read anywhere. -/
theorem Progress.request?_start_eq {backend : String} {d : Destination}
    (hd : Destination.resolve backend s.request.target = .ok d) :
    (start s backend).request? net s = (Client.Exchange.start (s.hop d)).request? net s.policy := by
  cases hrequest : (Client.Exchange.start (s.hop d)).request? net s.policy with
  | some x => rw [start_of_request? hd hrequest, request?_ofExchange, hrequest]
  | none =>
    cases hhost : d.hasHost with
    | true =>
      simp only [start, hd, Destination.request_of_hasHost hhost]
      exact (request?_ofExchange backend d _).trans hrequest
    | false =>
      simp only [start, hd, Destination.request_of_no_host hhost]
      rfl

/-- What is read of an attempt that has a destination: its first request, and more if the answer makes the
client ask again. -/
theorem Trail.cases_start {backend : String} {d : Destination} {sent : List Transfer}
    (hd : Destination.resolve backend s.request.target = .ok d)
    (h : Trail net s (.start s backend) sent) :
    ((Client.Exchange.start (s.hop d)).request? net s.policy = none ∧ sent = []) ∨
      ∃ e δ st rest, (Client.Exchange.start (s.hop d)).request? net s.policy = some (e, δ) ∧
        sent = ⟨e, δ, (net.serve e δ st).1⟩ :: rest ∧ Trail net s (.ofExchange s backend d
          (.resume s.policy (s.hop d) (.replied (net.serve e δ st).1))) rest := by
  rcases h.eq_nil_or_cons with ⟨hrequest, hsent⟩ | ⟨e, δ, st, rest, hrequest, hsent, htail⟩
  · rw [Progress.request?_start_eq hd] at hrequest
    exact .inl ⟨hrequest, hsent⟩
  · rw [Progress.request?_start_eq hd] at hrequest
    rw [Progress.start_of_request? hd hrequest, resume_ofExchange hrequest] at htail
    exact .inr ⟨e, δ, st, rest, hrequest, hsent, htail⟩

-- ---------------------------------------------------------------------------
-- What a backend is owed
-- ---------------------------------------------------------------------------

/-- Where the server of a backend takes requests, if it does. -/
def Setting.server? (net : Network σ) (s : Setting) (backend : String) : Option Endpoint :=
  match Url.parse backend.toList with
  | .ok base => Client.server? net s.policy base
  | .error _ => none

/-- A request that was read is the one that was taken in, read at an endpoint. -/
structure IsReplay (s : Setting) (d : Destination) (e : Endpoint) (x : Transfer) : Prop where
  endpoint : x.endpoint = e
  method : x.delivery.method = s.request.method
  target : x.delivery.target = d.word s.request.method
  body : x.delivery.body = s.request.body

/-- What a backend is owed: its server, if it takes requests, reads the one that was taken in and no other,
and no other server reads any. -/
def Replayed (net : Network σ) (s : Setting) (backend : String) (sent : List Transfer) : Prop :=
  match s.server? net backend with
  | none => sent = []
  | some e => ∃ d x, Destination.resolve backend s.request.target = .ok d ∧ sent = [x] ∧ IsReplay s d e x

/-- When a backend is given what it is owed: the request can be written for it and goes to its own server,
the fields fit the body, and the first answer is no redirect that is followed. -/
def IsReplayable (net : Network σ) (s : Setting) (backend : String) (sent : List Transfer) : Prop :=
  match s.server? net backend with
  | none => ∀ d, Destination.resolve backend s.request.target = .ok d →
      (Client.Exchange.start (s.hop d)).request? net s.policy = none
  | some e => ∃ d, Destination.resolve backend s.request.target = .ok d ∧
      Client.server? net s.policy d.url = some e ∧ Client.IsAskable (d.outgoing s.request).url ∧
      IsFramed s.request.headers s.request.body ∧
      ∀ x ∈ sent.head?, ¬Client.Redirects net s.policy (d.outgoing s.request) x.reply

theorem not_redirects_iff {d : Destination} (hframed : IsFramed s.request.headers s.request.body)
    (reply : Reply) :
    (Client.Exchange.resume s.policy (s.hop d) (.replied reply)).request? net s.policy = none ↔
      ¬Client.Redirects net s.policy (d.outgoing s.request) reply := by
  have hfits : IsFramed (d.outgoing s.request).headers (d.outgoing s.request).body := by
    rw [isFramed_congr (d.framing_outgoing s.request), d.outgoing_body]
    exact hframed
  rw [← Client.redirects_iff hfits, Setting.hop, Option.not_isSome_iff_eq_none]

/-- A backend without a server is given nothing exactly if its attempt makes no request that is read. -/
theorem Trail.eq_nil_start_iff {backend : String} {sent : List Transfer}
    (h : Trail net s (.start s backend) sent) :
    sent = [] ↔ ∀ d, Destination.resolve backend s.request.target = .ok d →
      (Client.Exchange.start (s.hop d)).request? net s.policy = none := by
  cases hd : Destination.resolve backend s.request.target with
  | error fault =>
    have hstart : Progress.start s backend = .finished (.stillborn s backend fault) := by
      rw [Progress.start, hd]
    rw [hstart] at h
    exact iff_of_true (h.eq_nil_iff.2 rfl) (by simp)
  | ok d =>
    simp only [Except.ok.injEq, forall_eq']
    rcases h.cases_start hd with ⟨hrequest, hsent⟩ | ⟨e, δ, st, rest, hrequest, hsent, -⟩
    · exact iff_of_true hsent hrequest
    · exact iff_of_false (by simp [hsent]) (by simp [hrequest])

/-- A backend is sent the request that was taken in, and nothing after it. -/
theorem Trail.isReplay_iff {backend : String} {sent : List Transfer} {d : Destination} {e : Endpoint}
    (h : Trail net s (.start s backend) sent)
    (hd : Destination.resolve backend s.request.target = .ok d) :
    (∃ x, sent = [x] ∧ IsReplay s d e x) ↔
      Client.server? net s.policy d.url = some e ∧ Client.IsAskable (d.outgoing s.request).url ∧
      IsFramed s.request.headers s.request.body ∧
      ∀ x ∈ sent.head?, ¬Client.Redirects net s.policy (d.outgoing s.request) x.reply := by
  have hserver? : Client.server? net s.policy (s.hop d).request.url = Client.server? net s.policy d.url :=
    Destination.server?_outgoing s.policy d s.request
  rcases h.cases_start hd with ⟨hrequest, rfl⟩ | ⟨e', δ, st, rest, hrequest, rfl, htail⟩
  · refine iff_of_false (by simp) ?_
    rintro ⟨hserver, haskable, hframed, -⟩
    obtain ⟨t, ht⟩ := Option.isSome_iff_exists.1 haskable
    obtain ⟨δ, hwritten, -⟩ := (isFramed_iff d t).2 hframed
    rw [Client.request?_start.2 ⟨hserver?.trans hserver, t, ht, hwritten⟩] at hrequest
    cases hrequest
  · obtain ⟨hserver, t, ht, hwritten⟩ := Client.request?_start.1 hrequest
    obtain ⟨hmethod, htarget⟩ := delivery_of_request? hd hrequest
    have hrest := htail.eq_nil_iff
    rw [request?_ofExchange] at hrest
    rw [hserver?] at hserver
    constructor
    · rintro ⟨x, hsent, hx⟩
      obtain ⟨rfl, rfl⟩ := List.cons.inj hsent
      have hframed := (isFramed_iff d t).1 ⟨δ, hwritten, hx.body⟩
      have hplace : e' = e := hx.endpoint
      refine ⟨hplace ▸ hserver, Option.isSome_iff_exists.2 ⟨t, ht⟩, hframed, ?_⟩
      simpa using (not_redirects_iff hframed _).1 (hrest.1 rfl)
    · rintro ⟨hplace, -, hframed, hredirects⟩
      have hstands := hredirects ⟨e', δ, (net.serve e' δ st).1⟩ rfl
      obtain rfl := hrest.2 ((not_redirects_iff hframed _).2 hstands)
      obtain ⟨δ', hwritten', hbody⟩ := (isFramed_iff d t).2 hframed
      obtain rfl := Client.Written.whole.inj (hwritten.symm.trans hwritten')
      exact ⟨_, rfl, Option.some.inj (hserver.symm.trans hplace), hmethod, htarget, hbody⟩

/-- A target that starts with a slash leads to the server of the backend itself. -/
theorem server?_resolve {backend target : String} {base : Url} {d : Destination} {p : Client.Policy}
    (hbase : Url.parse backend.toList = .ok base) (hscheme : Url.IsWebScheme base.scheme)
    (ht : target.toList.head? = some '/') (hd : Destination.resolve backend target = .ok d) :
    Client.server? net p d.url = Client.server? net p base := by
  obtain ⟨host, hweb, heq⟩ := Destination.resolve_eq hbase hscheme ht
  rw [hd] at heq
  split at heq
  · cases heq
    have hplace : Client.endpoint? (Url.withTarget base.scheme base.port (Url.clean target.toList) host) =
        Client.endpoint? base := by
      simp [Client.endpoint?, Url.namedHost?, Url.effectivePort?, Url.withTarget, hweb.host_eq]
    rw [Client.server?, hplace]
    rfl
  · cases heq

/-- For such a target it only matters whether the request can be written, and what the first answer is. -/
theorem isReplayable_of_slash {backend : String} {base : Url} {sent : List Transfer}
    (hbase : Url.parse backend.toList = .ok base) (hscheme : Url.IsWebScheme base.scheme)
    (ht : s.request.target.toList.head? = some '/') :
    IsReplayable net s backend sent ↔ ((Client.server? net s.policy base).isSome = true →
      ∃ d, Destination.resolve backend s.request.target = .ok d ∧
        Client.IsAskable (d.outgoing s.request).url ∧ IsFramed s.request.headers s.request.body ∧
        ∀ x ∈ sent.head?, ¬Client.Redirects net s.policy (d.outgoing s.request) x.reply) := by
  have hserver : s.server? net backend = Client.server? net s.policy base := by
    rw [Setting.server?, hbase]
  rw [IsReplayable, hserver]
  cases hown : Client.server? net s.policy base with
  | none =>
    refine iff_of_true (fun d hd => ?_) (by simp)
    refine Option.eq_none_iff_forall_ne_some.2 fun ⟨e, δ⟩ hrequest => ?_
    have helse := (Client.request?_start.1 hrequest).1
    rw [Setting.hop, Destination.server?_outgoing, server?_resolve hbase hscheme ht hd, hown] at helse
    cases helse
  | some e =>
    simp only [Option.isSome_some, forall_const]
    refine exists_congr fun d => and_congr_right fun hd => ?_
    rw [server?_resolve hbase hscheme ht hd, hown, and_iff_right rfl]

/-- **When a relay gives every backend what it is owed**, whatever the servers answer and in whatever order
the attempts go on: the request can be written for the backend and goes to its own server, its fields fit
its body, and the first answer is no redirect that is followed. Nothing else is ever read. -/
theorem replayed_iff (net : Network σ) (s : Setting) (backends : List String) (st : σ)
    (schedule : List Nat)
    (hdone : ((Flight.start s backends).run net st schedule).1.result?.isSome = true) :
    (∀ x ∈ (Flight.start s backends).trace net st schedule, x.1 < backends.length) ∧
      ((∀ i backend, backends[i]? = some backend →
          Replayed net s backend ((Flight.start s backends).sent net st schedule i)) ↔
        ∀ i backend, backends[i]? = some backend →
          IsReplayable net s backend ((Flight.start s backends).sent net st schedule i)) := by
  have hlength : (Flight.start s backends).progress.length = backends.length := List.length_map _
  refine ⟨fun x hx => hlength ▸ Flight.lt_of_mem_trace hx, ?_⟩
  refine forall_congr' fun i => forall_congr' fun backend => forall_congr' fun hbackend => ?_
  have htrail := trail_of_result? hdone hbackend
  unfold Replayed IsReplayable
  cases s.server? net backend with
  | none => exact htrail.eq_nil_start_iff
  | some e =>
    refine exists_congr fun d => ?_
    rw [exists_and_left, and_congr_right_iff]
    exact fun hd => htrail.isReplay_iff hd

-- ---------------------------------------------------------------------------
-- A server that hangs up, and one that sends the client on
-- ---------------------------------------------------------------------------

/-- A server on the local machine. -/
def localEndpoint : Endpoint :=
  ⟨.v4 ⟨127, 0, 0, 1⟩, 18401⟩

/-- Its URL. -/
def localBackend : String :=
  "http://127.0.0.1:18401/"

/-- It answers every request by itself. -/
def localNetwork (reply : Delivery → Reply) : Network Unit where
  listener e := if e = localEndpoint then some .plain else none
  serve _ d st := (reply d, st)

/-- A request with a body, under the policy of a server that says nothing of forwarding. -/
def localSetting : Setting where
  policy := { timeout := some defaultTimeout }
  request := { method := "POST", target := "/a", body := Text.utf8 "data", requestId := "unknown" }

/-- Where it goes on the local machine. -/
def localDestination : Destination where
  authority := "127.0.0.1:18401"
  url := Url.withTarget "http".toList (some 18401) "/a".toList (.v4 ⟨127, 0, 0, 1⟩)

theorem resolve_local :
    Destination.resolve localBackend localSetting.request.target = .ok localDestination := by
  obtain ⟨host, hweb, heq⟩ := Destination.resolve_eq Destination.parse_local (.inl rfl)
    (show localSetting.request.target.toList.head? = some '/' from rfl)
  cases hweb.host_eq
  exact heq

theorem server?_local (reply : Delivery → Reply) {url : Url} {t : List Char}
    (h : url = Url.withTarget "http".toList (some 18401) t (.v4 ⟨127, 0, 0, 1⟩)) :
    Client.server? (localNetwork reply) localSetting.policy url = some localEndpoint := by
  rw [h]
  rfl

/-- The steps of one attempt. -/
def localSchedule : List Nat :=
  List.replicate (Client.maxRedirects + 1) 0

theorem isSome_local (reply : Delivery → Reply) :
    ((Flight.start localSetting [localBackend]).run (localNetwork reply) ()
      localSchedule).1.result?.isSome = true :=
  isSome_result?_single (localNetwork reply) localSetting localBackend ()

/-- A server that reads a request and hangs up is not asked again. -/
theorem replayed_hangup :
    ((Flight.start localSetting [localBackend]).run (localNetwork fun _ => {}) ()
      localSchedule).1.result?.isSome = true ∧
    ∀ i backend, [localBackend][i]? = some backend → Replayed (localNetwork fun _ => {}) localSetting backend
      ((Flight.start localSetting [localBackend]).sent (localNetwork fun _ => {}) () localSchedule i) := by
  have hdone := isSome_local fun _ => {}
  refine ⟨hdone, (replayed_iff _ _ _ _ _ hdone).2.2 fun i backend hbackend => ?_⟩
  have htrail := trail_of_result? hdone hbackend
  obtain rfl : localBackend = backend := by
    cases i with
    | zero => exact Option.some.inj hbackend
    | succ i => cases hbackend
  refine (isReplayable_of_slash Destination.parse_local (.inl rfl) rfl).2 fun _ =>
    ⟨localDestination, resolve_local, rfl, isFramed_of_no_length rfl _, fun x hx => ?_⟩
  obtain ⟨_, hreply⟩ := htrail.reply_of_mem (List.mem_of_mem_head? hx)
  rintro ⟨a, -, hread, -⟩
  have hnothing : x.reply = {} := hreply
  rw [hnothing, Client.Answer.read_nothing] at hread
  cases hread

/-- What sends a client to another place on the same server. -/
def movedReply : Reply :=
  { bytes := Text.utf8 "HTTP/1.1 302 Found\r\nlocation: /b\r\n\r\n" }

/-- A server that does so with what is posted, and hangs up on anything else. -/
def movedAnswer (d : Delivery) : Reply :=
  if d.method = "POST" then movedReply else {}

theorem read_moved : ∃ a, Client.Answer.read "POST" movedReply = .ok a ∧ a.status = 302 ∧
    a.headers = [⟨"location", Text.utf8 "/b"⟩] := by
  have hname : (asciiText [108, 111, 99, 97, 116, 105, 111, 110]).toLower = "location" := by
    rw [toLower_eq]
    decide
  have hhead : ResponseHead.read movedReply.bytes.data.toList =
      .ok (⟨.http11, 302, [⟨"location", Text.utf8 "/b"⟩]⟩, []) := by
    rw [← hname, ResponseHead.read]
    unfold readVersion
    rw [version_bytes]
    rfl
  have hreply : movedReply = .ofList (movedReply.bytes.data.toList ++ []) .closed := by
    rw [List.append_nil]
    rfl
  rw [hreply, Client.Answer.read_of_head hhead (by decide) (by decide)]
  exact ⟨_, rfl, rfl, rfl⟩

/-- Where it sends it. -/
def movedUrl : Url :=
  Url.withTarget "http".toList (some 18401) "/b".toList (.v4 ⟨127, 0, 0, 1⟩)

/-- The same as a request target. -/
def movedTarget : Target :=
  { scheme := "http".toList, authority := "127.0.0.1:18401".toList, rest := "/b".toList }

theorem parse?_moved : Target.parse? movedUrl.text = some movedTarget :=
  rfl

theorem location?_moved :
    Client.Hop.location? localDestination.url [⟨"location", Text.utf8 "/b"⟩] = some movedUrl := by
  have hfield : Headers.get? [⟨"location", Text.utf8 "/b"⟩] "location" = some (Text.utf8 "/b") := rfl
  have hresolve : Url.resolve localDestination.url "/b".toList = .ok movedUrl := rfl
  have hbare : { movedUrl with fragment := none } = movedUrl := rfl
  have hparse : Url.parse movedTarget.text.toList = .ok movedUrl :=
    Destination.parse_local_target (t := "/b".toList) rfl
  simp only [Client.Hop.location?, hfield, Text.utf8?_utf8, hresolve, Except.toOption, hbare, parse?_moved,
    hparse, Option.bind_eq_bind, Option.bind_some]

/-- The request that the client makes of it. -/
def movedHop : Client.Hop where
  request := { method := "GET", url := movedUrl }
  visited := [localDestination.url]

theorem resume_moved : Client.Exchange.resume localSetting.policy (localSetting.hop localDestination)
    (.replied movedReply) = .start movedHop := by
  obtain ⟨a, hread, hstatus, hheaders⟩ := read_moved
  have hmethod : (localSetting.hop localDestination).request.method = "POST" := rfl
  have hurl : (localSetting.hop localDestination).request.url = localDestination.url := rfl
  have hrestated : Client.Hop.restated 302 (localSetting.hop localDestination).request =
      some { method := "GET", url := localDestination.url } := rfl
  have hnext : (localSetting.hop localDestination).next a = .follow movedHop := by
    rw [Client.Hop.next, hstatus, hheaders, hrestated, hurl, location?_moved]
    rfl
  simp only [Client.Exchange.resume, hmethod, hread, hnext]

theorem exists_request?_local (reply : Delivery → Reply) :
    ∃ δ, (Client.Exchange.start (localSetting.hop localDestination)).request? (localNetwork reply)
      localSetting.policy = some (localEndpoint, δ) := by
  obtain ⟨δ, hrequest, -⟩ := Client.exists_request?_start (p := localSetting.policy)
    (h := localSetting.hop localDestination) (server?_local reply rfl) rfl (isFramed_of_no_length rfl _)
  exact ⟨δ, hrequest⟩

theorem exists_request?_moved (reply : Delivery → Reply) :
    ∃ δ, (Client.Exchange.start movedHop).request? (localNetwork reply) localSetting.policy =
      some (localEndpoint, δ) ∧ δ.method = "GET" ∧ δ.target = "/b" := by
  have hurl : movedHop.request.url = movedUrl := rfl
  have haskable : Client.IsAskable movedHop.request.url :=
    Option.isSome_iff_exists.2 ⟨movedTarget, parse?_moved⟩
  obtain ⟨δ, hrequest, -⟩ := Client.exists_request?_start (p := localSetting.policy) (h := movedHop)
    (server?_local reply rfl) haskable (isFramed_of_no_length rfl _)
  obtain ⟨-, t, ht, hwritten⟩ := Client.request?_start.1 hrequest
  rw [hurl, parse?_moved] at ht
  cases ht
  obtain ⟨hmethod, htarget⟩ := Client.delivery_of_written hwritten
  exact ⟨δ, hrequest, hmethod, htarget⟩

/-- **A request that a server sends on is sent twice**, the second time with another method and for another
target. -/
theorem sent_twice :
    ((Flight.start localSetting [localBackend]).run (localNetwork movedAnswer) ()
      localSchedule).1.result?.isSome = true ∧
    ∃ x y, (Flight.start localSetting [localBackend]).sent (localNetwork movedAnswer) () localSchedule 0 =
        [x, y] ∧ x.delivery.method = "POST" ∧ x.delivery.target = "/a" ∧
      y.delivery.method = "GET" ∧ y.delivery.target = "/b" ∧
      ¬Replayed (localNetwork movedAnswer) localSetting localBackend [x, y] := by
  have hdone := isSome_local movedAnswer
  refine ⟨hdone, ?_⟩
  have hbackend : [localBackend][0]? = some localBackend := rfl
  have htrail := trail_of_result? hdone hbackend
  obtain ⟨first, hfirst⟩ := exists_request?_local movedAnswer
  obtain ⟨second, hsecond, hget, hb⟩ := exists_request?_moved movedAnswer
  obtain ⟨hpost, ha⟩ := delivery_of_request? resolve_local hfirst
  rcases htrail.cases_start resolve_local with ⟨hnone, -⟩ | ⟨e, δ, _, rest, hrequest, hsent, hrest⟩
  · rw [hfirst] at hnone
    cases hnone
  · obtain ⟨rfl, rfl⟩ := Prod.mk.inj (Option.some.inj (hfirst.symm.trans hrequest))
    -- the first answer sends the client on
    have hanswer : movedAnswer first = movedReply := if_pos hpost
    have hfollow : Trail (localNetwork movedAnswer) localSetting
        (.ofExchange localSetting localBackend localDestination (.start movedHop)) rest := by
      rw [← resume_moved, ← hanswer]
      exact hrest
    rcases hfollow.eq_nil_or_cons with ⟨hnone, -⟩ | ⟨e', δ', _, rest', hrequest', rfl, hlast⟩
    · rw [request?_ofExchange, hsecond] at hnone
      cases hnone
    · rw [request?_ofExchange] at hrequest'
      obtain ⟨rfl, rfl⟩ := Prod.mk.inj (Option.some.inj (hsecond.symm.trans hrequest'))
      -- the second one is none
      have hanswer' : movedAnswer second = {} := if_neg (by rw [hget]; decide)
      have hnothing : ((localNetwork movedAnswer).serve localEndpoint second ()).1 = {} := hanswer'
      have hended : rest' = [] := by
        rw [resume_ofExchange hsecond, hnothing] at hlast
        obtain ⟨r, hr⟩ := Client.resume_nothing (p := localSetting.policy) movedHop .closed
        rw [hlast.eq_nil_iff, request?_ofExchange, hr]
        rfl
      refine ⟨_, _, hsent.trans (by rw [hended]), hpost, ha, hget, hb, ?_⟩
      have hserver : localSetting.server? (localNetwork movedAnswer) localBackend = some localEndpoint := by
        rw [Setting.server?, localBackend, Destination.parse_local]
        rfl
      rw [Replayed, hserver]
      rintro ⟨d, x, -, hsingle, -⟩
      cases hsingle

end Repeater.Relay
