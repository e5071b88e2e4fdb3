import Repeater.AdminClient
import Repeater.Proofs.Client.Exchange
import Repeater.Proofs.Server.Administration
import Repeater.Proofs.Url.Form
import Repeater.Proofs.Url.Written
import Repeater.Server.Listening

/-!
# What a server reads of a call

A client whose base is the URL of a server asks that server, and what the server reads of the request names the
backend of the call, whatever characters its name is made of.

Main results:

* `parse_of_base`, `leadsTo_of_base` — a scheme, a host and a port lead to the server there;
* `isRequest_of_request` — the request that a call makes;
* `IsRequest.written_eq`, `IsRequest.arrival?_eq` — the server takes it whole;
* `IsRequest.named_eq`   — and reads the backend of the call.
-/

namespace Repeater

namespace AdminClient

open Url Http Client

/-- The base of a client is the URL of the server at an endpoint, as far as a request for the list goes. -/
def LeadsTo (c : AdminClient) (e : Endpoint) : Prop :=
  ∃ u, Url.parse (c.urlText .list) = .ok u ∧ u.scheme = "http".toList ∧ u.target = "/backends".toList ∧
    endpoint? u = some e

/-- The query that a call asks with. -/
def Call.queryText (call : Call) : List Char :=
  match call.backend? with
  | some b => '?' :: formPair "server".toList b.toList
  | none => []

/-- A URL for a call to the server at an endpoint. -/
structure IsAsked (e : Endpoint) (call : Call) (u : Url) : Prop where
  scheme_eq : u.scheme = "http".toList
  target_eq : u.target = "/backends".toList ++ call.queryText
  endpoint_eq : endpoint? u = some e
  web : ∃ host, IsWeb u host
  written : IsWritten u

/-- A request for a call to the server at an endpoint. -/
structure IsRequest (e : Endpoint) (call : Call) (r : Client.Request) : Prop where
  asked : IsAsked e call r.url
  method_eq : r.method = call.method
  body_eq : r.body = .empty
  names : ∀ h ∈ r.headers, h.name = "authorization"

-- ---------------------------------------------------------------------------
-- The base
-- ---------------------------------------------------------------------------

section

variable {c : AdminClient} {host : Host} {port : Option UInt16} {slashes : List Char}
  (hhost : host.IsSpecial) (hreadable : host.IsReadable) (hport : ∀ p ∈ port, usualPort? "http".toList ≠ some p)
  (hslashes : ∀ x ∈ slashes, x = '/')
  (hbase : c.base.toList = "http".toList ++ "://".toList ++ (host.text ++ portText port ++ slashes))

include hhost hreadable hport hslashes hbase

/-- The base of a client is a scheme, a host and a port, with any slashes after them. -/
theorem parse_of_base :
    Url.parse (c.urlText .list) = .ok (withTarget "http".toList port (clean "/backends".toList) host) := by
  have hne : host.text ++ portText port ≠ [] := List.append_ne_nil_of_left_ne_nil hhost.text_ne_nil _
  have hend : ∀ x ∈ host.text ++ portText port, (x == '/') = false := by
    intro x hx
    rw [beq_eq_false_iff_ne]
    exact ((List.mem_append.1 hx).elim hhost.allowed portText_allowed).no_slash
  have hdropped : Text.dropRight (· == '/') slashes = [] := by
    rw [Text.dropRight, List.reverse_eq_nil_iff, List.dropWhile_eq_nil_iff]
    exact fun x hx => beq_iff_eq.2 (hslashes x (List.mem_reverse.1 hx))
  have hkept : Text.dropRight (· == '/') (host.text ++ portText port ++ slashes) = host.text ++ portText port := by
    rw [Text.dropRight_append hend hne, hdropped, List.append_nil]
  have htext : c.urlText .list =
      "http".toList ++ "://".toList ++ (host.text ++ portText port) ++ "/backends".toList := by
    rw [urlText, hbase, Text.dropRight_append_of_ne_nil (by rwa [hkept]), hkept]
    rfl
  rw [htext, parse_authority (.inl rfl) hhost hport rfl, if_pos hreadable]

theorem leadsTo_of_base : c.LeadsTo ⟨host, port.getD 80⟩ := by
  refine ⟨_, parse_of_base hhost hreadable hport hslashes hbase, rfl, rfl, ?_⟩
  have hnamed : (host != .domain []) = true := bne_iff_ne.2 hhost.ne_nameless
  show ((some host).filter fun h => h != .domain []).bind _ = _
  rw [Option.filter_some, if_pos hnamed]
  cases port <;> rfl

end

-- ---------------------------------------------------------------------------
-- The request
-- ---------------------------------------------------------------------------

/-- A URL for the list has no query. -/
theorem query_of_target {u : Url} (h : u.target = "/backends".toList) :
    u.query = none ∧ u.path.text = "/backends".toList := by
  cases hquery : u.query with
  | none =>
    rw [target, queryText, hquery, List.append_nil] at h
    exact ⟨rfl, h⟩
  | some q =>
    have hmark : '?' ∈ "/backends".toList := by
      rw [← h, target, queryText, hquery]
      exact List.mem_append_right _ List.mem_cons_self
    exact absurd hmark (by decide)

theorem no_hash_formPair (name value : List Char) : '#' ∉ formPair name value := by
  intro h
  rcases List.mem_append.1 h with h | h
  · exact absurd (isFormChar_of_mem_formEncode h) (by decide)
  · rcases List.mem_cons.1 h with h | h
    · exact absurd h (by decide)
    · exact absurd (isFormChar_of_mem_formEncode h) (by decide)

/-- The URL that a call asks, given that of the list. -/
def Call.ask (call : Call) (u : Url) : Url :=
  match call.backend? with
  | some b => withPair u "server".toList b.toList
  | none => u

theorem target_ask {u : Url} (h : u.target = "/backends".toList) (call : Call) :
    (call.ask u).target = "/backends".toList ++ call.queryText := by
  obtain ⟨hquery, hpath⟩ := query_of_target h
  unfold Call.ask Call.queryText
  split
  · rw [target, queryText, withPair]
    simp only [hquery, hpath]
  · rw [h, List.append_nil]

theorem isWritten_ask {u : Url} (h : IsWritten u) (htarget : u.target = "/backends".toList) (call : Call) :
    IsWritten (call.ask u) := by
  have hnew := target_ask htarget call
  refine ⟨?_, ?_, ?_⟩
  · unfold Call.ask
    split <;> exact h.info
  · rw [hnew]
    rfl
  · rw [hnew, List.mem_append, not_or]
    refine ⟨by decide, ?_⟩
    unfold Call.queryText
    split
    · rw [List.mem_cons, not_or]
      exact ⟨by decide, no_hash_formPair _ _⟩
    · exact List.not_mem_nil

theorem isAsked_ask {s : List Char} {u : Url} {e : Endpoint} (hparse : Url.parse s = .ok u)
    (hscheme : u.scheme = "http".toList) (htarget : u.target = "/backends".toList) (hendpoint : endpoint? u = some e)
    (call : Call) : IsAsked e call (call.ask u) := by
  obtain ⟨host, hweb⟩ := IsWeb.of_parse hparse (.inl hscheme)
  have hwritten := IsWritten.of_parse hparse (.inl hscheme)
  have hrest : (call.ask u).scheme = u.scheme ∧ endpoint? (call.ask u) = endpoint? u ∧ IsWeb (call.ask u) host := by
    unfold Call.ask
    split
    · exact ⟨rfl, rfl, hweb.scheme, hweb.host_eq, hweb.special, hweb.port⟩
    · exact ⟨rfl, rfl, hweb⟩
  exact ⟨hrest.1.trans hscheme, target_ask htarget call, hrest.2.1.trans hendpoint, ⟨host, hrest.2.2⟩,
    isWritten_ask hwritten htarget call⟩

theorem IsAsked.withoutUserinfo {e : Endpoint} {call : Call} {u : Url} (h : IsAsked e call u) :
    IsAsked e call u.withoutUserinfo where
  scheme_eq := h.scheme_eq
  target_eq := h.target_eq
  endpoint_eq := h.endpoint_eq
  web := h.web.imp fun _ hweb => hweb.withoutUserinfo
  written := h.written.withoutUserinfo

theorem urlText_of_ne_health (c : AdminClient) {call : Call} (h : call ≠ .health) :
    c.urlText call = c.urlText .list := by
  cases call with
  | register | unregister | list => rfl
  | health => exact absurd rfl h

/-- What becomes of a URL for a request, as far as its user information goes. -/
theorem url_make (method : String) (u : Url) :
    (Request.make method u [] .empty).url = u ∨ (Request.make method u [] .empty).url = u.withoutUserinfo := by
  unfold Request.make
  split
  · exact .inl rfl
  · exact .inr rfl

theorem fields_make (method : String) (u : Url) :
    (Request.make method u [] .empty).method = method ∧ (Request.make method u [] .empty).body = .empty ∧
      ∀ h ∈ (Request.make method u [] .empty).headers, h.name = "authorization" := by
  unfold Request.make
  split
  · exact ⟨rfl, rfl, nofun⟩
  · exact ⟨rfl, rfl, List.forall_mem_singleton.2 rfl⟩

theorem name_of_keyFields? {c : AdminClient} {call : Call} {fields : Headers} (h : c.keyFields? call = some fields) :
    ∀ x ∈ fields, x.name = "authorization" := by
  unfold keyFields? at h
  split at h
  · cases h
    exact nofun
  · cases h
    exact nofun
  · obtain ⟨field, hfield, rfl⟩ := Option.map_eq_some_iff.1 h
    unfold keyField? at hfield
    dsimp only at hfield
    split at hfield <;> cases hfield
    exact List.forall_mem_singleton.2 rfl

theorem request_cases {c : AdminClient} {call : Call} {u : Url} {r : Client.Request}
    (hparse : Url.parse (c.urlText .list) = .ok u) (hcall : call ≠ .health) (h : c.request call = .ok r) :
    ∃ fields, c.keyFields? call = some fields ∧ r.method = (Request.make call.method (call.ask u) [] .empty).method ∧
      r.url = (Request.make call.method (call.ask u) [] .empty).url ∧
      r.headers = (Request.make call.method (call.ask u) [] .empty).headers ++ fields ∧
      r.body = (Request.make call.method (call.ask u) [] .empty).body := by
  unfold request at h
  rw [urlText_of_ne_health c hcall, hparse] at h
  dsimp only at h
  split at h
  · cases h
  · split at h
    · cases h
    · rename_i fields hfields
      cases h
      exact ⟨fields, hfields, rfl, rfl, rfl, rfl⟩

/-- **The request that a call makes.** -/
theorem isRequest_of_request {c : AdminClient} {e : Endpoint} {call : Call} {r : Client.Request}
    (hleads : c.LeadsTo e) (hcall : call ≠ .health) (h : c.request call = .ok r) : IsRequest e call r := by
  obtain ⟨u, hparse, hscheme, htarget, hendpoint⟩ := hleads
  obtain ⟨fields, hfields, hmethod, hurl, hheaders, hbody⟩ := request_cases hparse hcall h
  have hasked : IsAsked e call (call.ask u) := isAsked_ask hparse hscheme htarget hendpoint call
  obtain ⟨hmethod', hbody', hown⟩ := fields_make call.method (call.ask u)
  refine ⟨?_, hmethod.trans hmethod', hbody.trans hbody', fun x hx => ?_⟩
  · rw [hurl]
    rcases url_make call.method (call.ask u) with hsame | hwithout
    · rwa [hsame]
    · rw [hwithout]
      exact hasked.withoutUserinfo
  · rw [hheaders] at hx
    exact (List.mem_append.1 hx).elim (hown x) (name_of_keyFields? hfields x)

-- ---------------------------------------------------------------------------
-- What is read of it
-- ---------------------------------------------------------------------------

/-- What the server reads of a request for a call. -/
def delivery (r : Client.Request) : Delivery where
  method := r.method
  target := String.ofList r.url.target
  headers := r.fields.map asRead

variable {e : Endpoint} {call : Call} {r : Client.Request}

/-- The fields of a request for a call say nothing of a body. -/
theorem IsRequest.framing_eq (h : IsRequest e call r) : framing r.fields = ([], []) := by
  have hnone {name : String} (hname : name ≠ "authorization") : r.headers.values name = [] :=
    Headers.values_eq_nil fun x hx => h.names x hx ▸ hname.symm
  rw [r.framing_fields, framing, hnone (by decide), hnone (by decide)]

theorem Call.method_ne (call : Call) : call.method ≠ "CONNECT" ∧ call.method ≠ "HEAD" := by
  have hmem : call.method ∈ ["POST", "DELETE", "GET"] := by
    cases call <;> simp [Call.method]
  have hall : ∀ m ∈ ["POST", "DELETE", "GET"], m ≠ "CONNECT" ∧ m ≠ "HEAD" := by
    decide
  exact hall call.method hmem

/-- **What is read of it.** -/
theorem IsRequest.written_eq (h : IsRequest e call r) {t : Target} (ht : Target.parse? r.url.text = some t) :
    r.written t = .whole (delivery r) := by
  obtain ⟨host, hweb⟩ := h.asked.web
  have hpath : t.pathAndQuery? = some r.url.target := pathAndQuery?_of_text hweb h.asked.written ht
  have hmethod : r.method ≠ "CONNECT" := h.method_eq ▸ call.method_ne.1
  obtain ⟨hlength, hencoding⟩ := Prod.mk.inj h.framing_eq
  have hunsaid : contentLength? r.fields = none := by
    rw [contentLength?, hlength]
    rfl
  have hkept : r.fields.erase "transfer-encoding" = r.fields := by
    refine Headers.erase_eq_self ?_
    rw [Headers.has_eq, hencoding]
    rfl
  have hempty : r.body.size = 0 := by
    rw [h.body_eq]
    rfl
  unfold Request.written
  dsimp only
  rw [← Request.fields, if_pos hempty, hunsaid]
  simp only [hkept, requestTarget, if_neg hmethod, hpath, Option.getD_some]
  rfl

-- ---------------------------------------------------------------------------
-- How the server takes it
-- ---------------------------------------------------------------------------

/-- A request for a call as it comes in. -/
def arrival (r : Client.Request) : Relay.Arrival where
  method := r.method
  target := { rest := r.url.target }
  headers := r.fields.map asRead
  body := [.data .empty]

theorem isQueryChar_of_isFormChar {c : Char} (h : IsFormChar c) : Target.isQueryChar c = true := by
  have hkept : c ∉ ['"', '#', '<', '>'] := by
    have hall : ∀ d ∈ ['"', '#', '<', '>'], ¬IsFormChar d := Text.forall_mem_of_all (by decide)
    exact fun hmem => hall c hmem h
  have hvisible : 0x21 ≤ c.toNat := by
    rcases h with halnum | hmark
    · rcases isAlphanum_iff.1 halnum with (⟨hlow, -⟩ | ⟨hlow, -⟩) | ⟨hlow, -⟩
      · exact Nat.le_trans (by decide) (UInt32.le_iff_toNat_le.1 hlow)
      · exact Nat.le_trans (by decide) (UInt32.le_iff_toNat_le.1 hlow)
      · exact Nat.le_trans (by decide) (UInt32.le_iff_toNat_le.1 hlow)
    · have hall : ∀ d ∈ ['*', '-', '.', '_', '+', '%'], 0x21 ≤ d.toNat := Text.forall_mem_of_all (by decide)
      exact hall c hmark
  rw [Target.isQueryChar, Bool.and_eq_true, decide_eq_true_eq, Bool.not_eq_true']
  exact ⟨hvisible, by simpa using hkept⟩

theorem isQueryChar_of_mem_formPair {name value : List Char} {c : Char} (h : c ∈ formPair name value) :
    Target.isQueryChar c = true := by
  rcases List.mem_append.1 h with h | h
  · exact isQueryChar_of_isFormChar (isFormChar_of_mem_formEncode h)
  · rcases List.mem_cons.1 h with rfl | h
    · decide
    · exact isQueryChar_of_isFormChar (isFormChar_of_mem_formEncode h)

theorem Call.head?_queryText (call : Call) : ∀ c ∈ call.queryText.head?, c = '?' := by
  unfold Call.queryText
  split <;> simp

theorem pathAndQueryOf?_target (call : Call) : Target.pathAndQueryOf? ("/backends".toList ++ call.queryText) =
    some ("/backends".toList ++ call.queryText) := by
  have hpath : ∀ c ∈ "/backends".toList, Target.isPathChar c = true := Text.forall_mem_of_all (by decide)
  refine Target.pathAndQueryOf?_eq_self hpath (fun c hc => ?_) call.head?_queryText
  unfold Call.queryText at hc
  split at hc
  · rcases List.mem_cons.1 hc with rfl | hc
    · decide
    · exact isQueryChar_of_mem_formPair hc
  · exact absurd hc List.not_mem_nil

/-- The target of a request is no longer than its URL. -/
theorem size_target_le (u : Url) : (String.ofList u.target).utf8ByteSize ≤ u.text.utf8ByteSize := by
  rw [text, chars, String.ofList_append, String.ofList_append, String.utf8ByteSize_append, String.utf8ByteSize_append]
  omega

theorem IsAsked.parse?_target {u : Url} (h : IsAsked e call u) (htext : (Target.parse? u.text).isSome = true) :
    Target.parse? (String.ofList u.target) = some { rest := u.target } := by
  have hfits : ¬Target.maxLength < (String.ofList u.target).utf8ByteSize := by
    intro hlong
    have hle := size_target_le u
    unfold Target.parse? at htext
    rw [if_pos (by omega)] at htext
    cases htext
  rw [h.target_eq] at hfits ⊢
  exact Target.parse?_of_slash rfl (pathAndQueryOf?_target call) (Nat.not_lt.1 hfits)

/-- **How the server takes it.** -/
theorem IsRequest.arrival?_eq (h : IsRequest e call r) (htext : (Target.parse? r.url.text).isSome = true) :
    Server.arrival? (delivery r) = some (arrival r) := by
  rw [Server.arrival?, delivery, h.asked.parse?_target htext]
  rfl

theorem IsRequest.path_eq (h : IsRequest e call r) : (arrival r).target.path = "/backends".toList := by
  have hbefore : ∀ c ∈ "/backends".toList, (c != '?') = true := Text.forall_mem_of_all (by decide)
  have hpath : ("/backends".toList ++ call.queryText).takeWhile (· != '?') = "/backends".toList :=
    Text.takeWhile_front hbefore (Text.forall_head?_of_eq call.head?_queryText rfl)
  show Target.path { rest := r.url.target } = _
  rw [Target.path, h.asked.target_eq, hpath]
  rfl

/-- **What the server reads of the backend.** -/
theorem IsRequest.named_eq (h : IsRequest e call r) :
    Server.named (arrival r).target.query? = call.backend?.toList := by
  have hmark : ∀ c ∈ "/backends".toList, (c == '?') = false := Text.forall_mem_of_all (by decide)
  show Server.named (Target.query? { rest := r.url.target }) = _
  unfold Target.query?
  rw [h.asked.target_eq]
  unfold Call.queryText
  cases call.backend? with
  | none => rfl
  | some b =>
    dsimp only
    rw [Text.cutFirst_append hmark rfl, Option.map_some, Server.named, Option.getD_some, formPairs_formPair]
    simp

theorem IsRequest.name_of_mem_fields (h : IsRequest e call r) {x : Header} (hx : x ∈ r.fields) :
    x.name ∈ ["authorization", "host", "accept"] := by
  have haccept {hs : Headers} (hx : x ∈ withAccept hs) : x ∈ hs ∨ x.name = "accept" := by
    rw [withAccept] at hx
    split at hx
    · exact .inl hx
    · exact (List.mem_append.1 hx).imp_right fun hx => congrArg Header.name (List.mem_singleton.1 hx)
  rcases haccept hx with hx | hname
  · rcases List.mem_append.1 hx with hx | hx
    · simp [h.names x hx]
    · split at hx
      · cases hx
      · simp [List.mem_singleton.1 hx, hostField]
  · simp [hname]

/-- The client sends no id. -/
theorem IsRequest.no_id (h : IsRequest e call r) : (arrival r).headers.get? Relay.requestIdField = none := by
  have hnone : (arrival r).headers.values Relay.requestIdField = [] := by
    refine Headers.values_eq_nil fun x hx => ?_
    obtain ⟨y, hy, rfl⟩ := List.mem_map.1 hx
    have hall : ∀ name ∈ ["authorization", "host", "accept"], name ≠ Relay.requestIdField := by
      decide
    exact hall y.name (h.name_of_mem_fields hy)
  rw [Headers.get?, hnone]
  rfl

-- ---------------------------------------------------------------------------
-- Who is trusted
-- ---------------------------------------------------------------------------

/-- The server trusts a client with a call. -/
def IsTrustedBy (c : AdminClient) (admin : Admin) (call : Call) : Prop :=
  ∀ r, c.request call = .ok r → Server.IsTrusted admin (arrival r).headers

instance (c : AdminClient) (admin : Admin) (call : Call) : Decidable (c.IsTrustedBy admin call) :=
  match h : c.request call with
  | .ok r => decidable_of_iff (Server.IsTrusted admin (arrival r).headers)
      ⟨fun htrusted _ hr => Except.ok.inj (h.symm.trans hr) ▸ htrusted, fun hall => hall r h⟩
  | .error _ => isTrue fun _ hr => nomatch h.symm.trans hr

end AdminClient

end Repeater
