import Mathlib.Data.List.DropRight
import Repeater.Proofs.AdminClient.Call

/-!
# The key on its way

A client sends its key in a field, the connection takes away the blanks around the value of the field, and the
server reads the value as text if it is printable ASCII. So a key opens the door exactly if nothing of it is lost
on the way (`IsPortable`); and then nothing else may stand in its place, and the URL of the call must not be too
long for a request.

## Results

* `isAskable_ask_iff`           — which calls have a URL that can stand in a request;
* `isTrusted_arrival_iff`       — which keys the server recognizes;
* `isCarriedOut_iff`            — when the right key opens the door;
* `admitted_of_isCarriedOut`    — what the client sees then;
* `right_key_refused`           — keys and bases with which it does not.
-/

namespace Repeater

namespace AdminClient

open Url Http Client

variable {σ : Type} {net : Network σ} {here : Endpoint → Bool} {random : List UInt8} {e : Endpoint} {c : AdminClient}
  {call : Call} {r : Client.Request} {s : Server} {st : σ} {u : Url} {key : String} {admin : Admin}

-- ---------------------------------------------------------------------------
-- URLs of calls
-- ---------------------------------------------------------------------------

/-- The list of a client is at a URL of the server at an endpoint, and a request can be made for it. -/
structure Addresses (c : AdminClient) (e : Endpoint) (u : Url) : Prop where
  parse_eq : Url.parse (c.urlText .list) = .ok u
  scheme_eq : u.scheme = "http".toList
  target_eq : u.target = "/backends".toList
  endpoint_eq : endpoint? u = some e
  askable : IsAskable u

theorem Addresses.leadsTo (h : c.Addresses e u) : c.LeadsTo e :=
  ⟨u, h.parse_eq, h.scheme_eq, h.target_eq, h.endpoint_eq⟩

theorem size_le_of_isAskable (h : IsAskable u) : u.text.utf8ByteSize ≤ Target.maxLength := by
  by_contra hlong
  unfold IsAskable Target.parse? at h
  rw [if_pos (Nat.not_le.1 hlong)] at h
  cases h

/-- Of a call only the length of its URL is in question. -/
theorem isAskable_ask_iff (h : c.Addresses e u) (call : Call) :
    IsAskable (call.ask u) ↔ (call.ask u).text.utf8ByteSize ≤ Target.maxLength := by
  obtain ⟨host, hweb⟩ := IsWeb.of_parse h.parse_eq (.inl h.scheme_eq)
  have hwritten := IsWritten.of_parse h.parse_eq (.inl h.scheme_eq)
  obtain ⟨hfront, hweb'⟩ : (call.ask u).userinfo ++ (call.ask u).authority = u.userinfo ++ u.authority ∧
      IsWeb (call.ask u) host := by
    unfold Call.ask
    split
    · exact ⟨rfl, hweb.scheme, hweb.host_eq, hweb.special, hweb.port⟩
    · exact ⟨rfl, hweb⟩
  have htarget : (Target.pathAndQueryOf? (call.ask u).target).isSome = true := by
    rw [target_ask h.target_eq, pathAndQueryOf?_target]
    rfl
  exact ⟨size_le_of_isAskable, fun hsize => isSome_parse?_of_target hweb hweb' hwritten
    (isWritten_ask hwritten h.target_eq call) hfront htarget hsize h.askable⟩

-- ---------------------------------------------------------------------------
-- What is lost on the way
-- ---------------------------------------------------------------------------

/-- A key that arrives as it was sent: it is made of tabs and printable ASCII, and does not end in a blank. -/
structure IsPortable (key : String) : Prop where
  visible : ∀ b ∈ octets key, isVisible b = true
  solid : ∀ b ∈ (octets key).getLast?, isSpaceByte b = false

theorem isValueByte_of_isVisible {b : UInt8} (h : isVisible b = true) : isValueByte b = true := by
  simp only [isVisible, isValueByte, Bool.or_eq_true, Bool.and_eq_true, decide_eq_true_eq, beq_iff_eq,
    bne_iff_ne] at h ⊢
  rcases h with ⟨hlow, hhigh⟩ | rfl
  · right
    refine ⟨hlow, ?_⟩
    rintro rfl
    exact absurd hhigh (by decide)
  · exact .inl rfl

theorem visible_bearer_iff :
    (∀ b ∈ octets ("Bearer " ++ key), isVisible b = true) ↔ ∀ b ∈ octets key, isVisible b = true := by
  have hword : ∀ b ∈ octets "Bearer ", isVisible b = true := List.all_eq_true.1 (by decide)
  rw [octets_append, List.forall_mem_append, and_iff_right hword]

/-- A value that starts with a letter loses the blanks at its end only. -/
theorem trimSpaces_of_head {b : UInt8} (hb : isSpaceByte b = false) (t : List UInt8) :
    trimSpaces (b :: t) = (b :: t).rdropWhile isSpaceByte := by
  have hkept : (b :: t).dropWhile isSpaceByte = b :: t := List.dropWhile_cons_of_neg (by rw [hb]; exact Bool.noConfusion)
  rw [trimSpaces, hkept]
  rfl

theorem octets_ne_nil (hne : key ≠ "") : octets key ≠ [] := by
  intro hnil
  rw [octets_eq, List.flatMap_eq_nil_iff] at hnil
  have hchars : key.toList = [] := by
    refine List.eq_nil_iff_forall_not_mem.2 fun x hx => ?_
    obtain ⟨b, t, hencode, -⟩ := Text.firstChar_encode x
    exact absurd (hnil x hx) (by rw [hencode]; exact nofun)
  exact hne (String.toList_eq_nil_iff.1 hchars)

theorem trimSpaces_bearer_iff (hne : key ≠ "") :
    trimSpaces (octets ("Bearer " ++ key)) = octets ("Bearer " ++ key) ↔
      ∀ b ∈ (octets key).getLast?, isSpaceByte b = false := by
  have hkey := octets_ne_nil hne
  have hword : octets "Bearer " = 66 :: octets "earer " := by decide
  have hwhole : octets ("Bearer " ++ key) = 66 :: (octets "earer " ++ octets key) := by
    rw [octets_append, hword]
    rfl
  rw [hwhole, trimSpaces_of_head rfl, List.rdropWhile_eq_self_iff, ← hwhole, octets_append]
  have hlast (hl : octets "Bearer " ++ octets key ≠ []) :
      (octets "Bearer " ++ octets key).getLast hl = (octets key).getLast hkey :=
    List.getLast_append_of_ne_nil hl hkey
  rw [List.getLast?_eq_some_getLast hkey]
  simp [hlast, hkey]

/-- The two schemes of an authorization cannot be taken for each other. -/
theorem trimSpaces_basic_ne (token : String) : trimSpaces (octets ("Basic " ++ token)) ≠ octets ("Bearer " ++ key) := by
  have hbasic : octets "Basic " = 66 :: 97 :: octets "sic " := by decide
  have hbearer : octets "Bearer " = 66 :: 101 :: octets "arer " := by decide
  intro heq
  rw [octets_append, octets_append, hbasic, hbearer, List.cons_append, trimSpaces_of_head rfl] at heq
  have hstart := List.rdropWhile_prefix isSpaceByte (l := 66 :: (97 :: octets "sic " ++ octets token))
  rw [heq] at hstart
  obtain ⟨t, ht⟩ := hstart
  cases ht

-- ---------------------------------------------------------------------------
-- What the server recognizes
-- ---------------------------------------------------------------------------

theorem exists_fields_eq (r : Client.Request) : ∃ rest, r.fields = r.headers ++ rest := by
  have haccept (hs : Headers) : ∃ rest, withAccept hs = hs ++ rest := by
    unfold withAccept
    split
    · exact ⟨[], (List.append_nil _).symm⟩
    · exact ⟨_, rfl⟩
  obtain ⟨rest, hrest⟩ := haccept (r.headers ++ if r.headers.has "host" then [] else [hostField r.url])
  exact ⟨_, hrest.trans (List.append_assoc _ _ _)⟩

/-- The first authorization that a client sends is the one that is read, without the blanks around it. -/
theorem get?_arrival {text : String} {fields : Headers}
    (h : r.headers = ⟨"authorization", Text.utf8 text⟩ :: fields) :
    (arrival r).headers.get? "authorization" = some ⟨(trimSpaces (octets text)).toArray⟩ := by
  obtain ⟨rest, hrest⟩ := exists_fields_eq r
  have hread : (asRead ⟨"authorization", Text.utf8 text⟩).value = ⟨(trimSpaces (octets text)).toArray⟩ := by
    rw [asRead, toList_eq_data]
    rfl
  rw [arrival, hrest, h, ← hread]
  rfl

theorem isTrusted_iff_of_get? (hadmin : admin.apiKey = some key) {headers : Headers} {value : List UInt8}
    (hget : headers.get? "authorization" = some ⟨value.toArray⟩) : Server.IsTrusted admin headers ↔
      (∀ b ∈ value, isVisible b = true) ∧ value = octets ("Bearer " ++ key) := by
  have hbytes (text : String) : (⟨value.toArray⟩ : ByteArray) = Text.utf8 text ↔ value = octets text := by
    rw [ByteArray.ext_iff, ← Array.toList_inj]
    rfl
  rw [Server.IsTrusted, hadmin, hget]
  simp only [Option.some.injEq, forall_eq', exists_eq_left', hbytes]

theorem credentials?_ask (call : Call) (u : Url) : credentials? (call.ask u) = credentials? u := by
  unfold Call.ask
  split <;> rfl

theorem keyFields?_eq (hkey : c.key = some key) (hcall : call ≠ .health) :
    c.keyFields? call = (keyField? key).map fun h => [h] := by
  unfold keyFields?
  rw [hkey]
  cases call with
  | register | unregister | list => rfl
  | health => exact absurd rfl hcall

theorem eq_of_keyField? {h : Header} (hfield : keyField? key = some h) :
    h = ⟨"authorization", Text.utf8 ("Bearer " ++ key)⟩ := by
  unfold keyField? at hfield
  dsimp only at hfield
  split at hfield <;> cases hfield
  rfl

/-- **Which keys the server recognizes**: those that arrive as they were sent, from a client whose base says
nothing of a user. -/
theorem isTrusted_arrival_iff (h : c.Addresses e u) (hadmin : admin.apiKey = some key) (hkey : c.key = some key)
    (hne : key ≠ "") (hcall : call ≠ .health) (hr : c.request call = .ok r) :
    Server.IsTrusted admin (arrival r).headers ↔ IsPortable key ∧ credentials? u = none := by
  obtain ⟨fields, hfields, -, -, hheaders, -⟩ := request_cases h.parse_eq hcall hr
  rw [keyFields?_eq hkey hcall] at hfields
  obtain ⟨field, hfield, rfl⟩ := Option.map_eq_some_iff.1 hfields
  obtain rfl := eq_of_keyField? hfield
  rw [Request.make, credentials?_ask] at hheaders
  cases hcredentials : credentials? u with
  | none =>
    rw [hcredentials] at hheaders
    rw [isTrusted_iff_of_get? hadmin (get?_arrival hheaders), and_iff_left rfl]
    constructor
    · rintro ⟨hvisible, hwhole⟩
      rw [hwhole] at hvisible
      exact ⟨visible_bearer_iff.1 hvisible, (trimSpaces_bearer_iff hne).1 hwhole⟩
    · rintro ⟨hvisible, hsolid⟩
      have hwhole := (trimSpaces_bearer_iff hne).2 hsolid
      exact ⟨hwhole.symm ▸ visible_bearer_iff.2 hvisible, hwhole⟩
  | some credentials =>
    obtain ⟨user, password⟩ := credentials
    rw [hcredentials] at hheaders
    rw [isTrusted_iff_of_get? hadmin (get?_arrival hheaders)]
    refine iff_of_false (fun hboth => trimSpaces_basic_ne _ hboth.2) ?_
    rintro ⟨-, hnone⟩
    cases hnone

-- ---------------------------------------------------------------------------
-- The door
-- ---------------------------------------------------------------------------

/-- A call is carried out: the client has a request for it, the server reads and takes that, and what it does about
it is what the administration does. -/
def IsCarriedOut (c : AdminClient) (net : Network σ) (here : Endpoint → Bool) (random : List UInt8) (s : Server)
    (e : Endpoint) (call : Call) : Prop :=
  ∃ r, c.request call = .ok r ∧
    (Exchange.start { request := r }).request? (around net here random) {} = some (e, delivery r) ∧
    Server.arrival? (delivery r) = some (arrival r) ∧
    (Server.receive s (Server.freshId random) (arrival r)).plan =
      .told (Server.administer s.roster call.route (arrival r).target.query?).1
        (Server.administer s.roster call.route (arrival r).target.query?).2

theorem exists_request (h : c.Addresses e u) (hkey : c.key = some key) (hcall : call ≠ .health)
    (hportable : IsPortable key) : ∃ r, c.request call = .ok r := by
  have hnamed : u.namedHost?.isNone = false := by
    have hplace := h.endpoint_eq
    unfold endpoint? at hplace
    obtain ⟨host, hhost, -⟩ := Option.bind_eq_some_iff.1 hplace
    rw [hhost]
    rfl
  have hfield : keyField? key = some ⟨"authorization", Text.utf8 ("Bearer " ++ key)⟩ := by
    unfold keyField?
    refine if_pos (List.all_eq_true.2 fun b hb => isValueByte_of_isVisible ?_)
    rw [toList_eq_data] at hb
    exact visible_bearer_iff.2 hportable.visible b hb
  unfold request
  rw [urlText_of_ne_health c hcall, h.parse_eq]
  dsimp only
  rw [hnamed, keyFields?_eq hkey hcall, hfield, if_neg Bool.false_ne_true]
  exact ⟨_, rfl⟩

theorem url_of_no_credentials (h : c.Addresses e u) (hcall : call ≠ .health) (hr : c.request call = .ok r)
    (hnone : credentials? u = none) : r.url = call.ask u := by
  obtain ⟨fields, -, -, hurl, -⟩ := request_cases h.parse_eq hcall hr
  rw [hurl, Request.make, credentials?_ask, hnone]

/-- The administration answers with other statuses than the guard. -/
theorem isAuthorized_of_plan (h : IsRequest e call r) (hdynamic : s.admin.dynamicBackends = true) {freshId : String}
    (hplan : (Server.receive s freshId (arrival r)).plan =
      .told (Server.administer s.roster call.route (arrival r).target.query?).1
        (Server.administer s.roster call.route (arrival r).target.query?).2) :
    Server.isAuthorized s.admin (arrival r).headers = true := by
  by_contra hnot
  rw [h.plan_eq hdynamic, if_neg hnot] at hplan
  obtain ⟨hserved, -⟩ := Server.Plan.told.inj hplan
  refine (h.administer_eq s.roster).status_ne ?_
  rw [← hserved]
  rfl

theorem call_snd {τ : Type} (hr : c.request call = .ok r) (net : Network τ) (st : τ) :
    (c.call net call st).2 = (Client.send net {} r st).2 := by
  rw [AdminClient.call, hr]
  dsimp only
  split
  · rename_i hsent
    rw [hsent]
  · rename_i hsent
    rw [hsent]

/-- A call whose request is read fails only for want of an answer, or with the status of the answer. -/
theorem fault_of_call (hr : c.request call = .ok r) (h : IsRequest e call r) (hhere : here e = true)
    (haskable : IsAskable r.url) (hcall : call ≠ .health) {fault : Fault}
    (hfault : (c.call (around net here random) call (s, st)).1 = .error fault) :
    (∃ url, fault = .exchange (.timeout url) ∨ fault = .exchange (.broken url)) ∨
      ∃ body, fault = .status (handled s net random r st).1.response.status body := by
  rw [AdminClient.call, hr] at hfault
  dsimp only at hfault
  split at hfault
  · rename_i hsent
    obtain ⟨url, hf⟩ := fault_of_send h hhere haskable (congrArg Prod.fst hsent)
    rw [← Except.error.inj hfault]
    exact .inl ⟨url, hf.imp (congrArg Fault.exchange) (congrArg Fault.exchange)⟩
  · rename_i a _ hsent
    obtain ⟨-, -, ha⟩ := ((send_eq h hhere haskable net random s st).2 a).1 (congrArg Prod.fst hsent)
    rw [ha, read_ofTold h.isTold hcall, said] at hfault
    split at hfault
    · cases hfault
    · exact .inr ⟨_, (Except.error.inj hfault).symm⟩

/-- After a call the roster is what the call makes of it, and the client was neither turned away nor kept from
asking. -/
structure Admitted (before : Roster) (change : Except Roster.Refusal Roster)
    (outcome : Except Fault Answer × Server × σ) : Prop where
  done : ∀ roster, change = .ok roster → outcome.2.1.roster = roster
  refused : ∀ refusal, change = .error refusal → outcome.2.1.roster = before
  authorized : ∀ body, outcome.1 ≠ .error (.status 401 body)
  sent : ∀ url, outcome.1 ≠ .error (.exchange (.unsendable url))

theorem admitted_of_isCarriedOut (hleads : c.LeadsTo e) (hhere : here e = true)
    (hdynamic : s.admin.dynamicBackends = true) (hcall : call ≠ .health)
    (h : c.IsCarriedOut net here random s e call) (st : σ) :
    Admitted s.roster (call.apply s.roster) (c.call (around net here random) call (s, st)) := by
  obtain ⟨r, hr, hread, -, hplan⟩ := h
  have hrequest := isRequest_of_request hleads hcall hr
  obtain ⟨-, t, ht, -⟩ := request?_start.1 hread
  have haskable : IsAskable r.url := Option.isSome_iff_exists.2 ⟨t, ht⟩
  have htrusted := Server.isAuthorized_iff.1 (isAuthorized_of_plan hrequest hdynamic hplan)
  have htells := handled_of_trusted hrequest hdynamic htrusted net random st
  have hafter : (c.call (around net here random) call (s, st)).2 = (handled s net random r st).2 :=
    (call_snd hr _ _).trans (send_eq hrequest hhere haskable net random s st).1
  refine ⟨fun roster hchange => ?_, fun refusal hchange => ?_, fun body hfault => ?_, fun url hfault => ?_⟩
  · rw [hafter]
    exact (htells.done roster hchange).1
  · rw [hafter]
    exact (htells.refused refusal hchange).1
  · rcases fault_of_call hr hrequest hhere haskable hcall hfault with ⟨url, heq | heq⟩ | ⟨text, heq⟩
    · cases heq
    · cases heq
    · exact htells.status_ne (Fault.status.inj heq).1.symm
  · rcases fault_of_call hr hrequest hhere haskable hcall hfault with ⟨url, heq | heq⟩ | ⟨text, heq⟩ <;> cases heq

/-- **When the right key opens the door.** Server and client have the same key, and the client asks for a URL of the
server. Then each of its calls is carried out exactly if nothing of the key is lost on the way, the URL says nothing
of a user, and it is not too long with what the call adds to it. Whoever has a call carried out is neither turned
away nor kept from asking, and the roster is afterwards what the call makes of it. -/
theorem isCarriedOut_iff (h : c.Addresses e u) (hhere : here e = true) (hdynamic : s.admin.dynamicBackends = true)
    (hadmin : s.admin.apiKey = some key) (hkey : c.key = some key) (hne : key ≠ "") (hcall : call ≠ .health)
    (net : Network σ) (random : List UInt8) (st : σ) :
    (c.IsCarriedOut net here random s e call ↔
      IsPortable key ∧ credentials? u = none ∧ (call.ask u).text.utf8ByteSize ≤ Target.maxLength) ∧
    (c.IsCarriedOut net here random s e call →
      Admitted s.roster (call.apply s.roster) (c.call (around net here random) call (s, st))) := by
  refine ⟨⟨?_, ?_⟩, fun hout => admitted_of_isCarriedOut h.leadsTo hhere hdynamic hcall hout st⟩
  · rintro ⟨r, hr, hread, -, hplan⟩
    have hrequest := isRequest_of_request h.leadsTo hcall hr
    have htrusted := Server.isAuthorized_iff.1 (isAuthorized_of_plan hrequest hdynamic hplan)
    obtain ⟨hportable, hnone⟩ := (isTrusted_arrival_iff h hadmin hkey hne hcall hr).1 htrusted
    obtain ⟨-, t, ht, -⟩ := request?_start.1 hread
    have haskable : IsAskable r.url := Option.isSome_iff_exists.2 ⟨t, ht⟩
    rw [url_of_no_credentials h hcall hr hnone] at haskable
    exact ⟨hportable, hnone, (isAskable_ask_iff h call).1 haskable⟩
  · rintro ⟨hportable, hnone, hsize⟩
    obtain ⟨r, hr⟩ := exists_request h hkey hcall hportable
    have hrequest := isRequest_of_request h.leadsTo hcall hr
    have haskable : IsAskable r.url := by
      rw [url_of_no_credentials h hcall hr hnone]
      exact (isAskable_ask_iff h call).2 hsize
    have htrusted := (isTrusted_arrival_iff h hadmin hkey hne hcall hr).2 ⟨hportable, hnone⟩
    have hplan := hrequest.plan_eq hdynamic (Server.freshId random)
    rw [if_pos (Server.isAuthorized_iff.2 htrusted)] at hplan
    obtain ⟨t, ht⟩ := Option.isSome_iff_exists.1 haskable
    refine ⟨r, hr, ?_, hrequest.arrival?_eq haskable, hplan⟩
    rw [start_eq hrequest ht]
    exact request?_asking_eq hrequest hhere ht

/-- A server that may be administered with a key, as settings ask for it. -/
def keyedServer (key : String) : Server where
  admin := { dynamicBackends := true, apiKey := some key }
  policy := { timeout := some defaultTimeout }

/-- The URL of the list of a client on the local machine. -/
def localList : Url :=
  Url.withTarget "http".toList (some 18400) (clean "/backends".toList) (.v4 ⟨127, 0, 0, 1⟩)

theorem addresses_local (key : Option String) : (localClient key).Addresses localEndpoint localList where
  parse_eq := parse_of_base (.v4 _) trivial unusual_local (List.forall_mem_nil _) (base_local key)
  scheme_eq := rfl
  target_eq := rfl
  endpoint_eq := rfl
  askable := rfl

/-- A key with a space and a tab in it opens the door. -/
theorem isCarriedOut_local :
    let server := keyedServer "open\tsesame !"
    let client := localClient (some "open\tsesame !")
    IsPortable "open\tsesame !" ∧
    client.IsCarriedOut (Network.empty : Network Unit) (· == localEndpoint) [] server localEndpoint (.register "http://a") ∧
    (client.call localNetwork (.register "http://a") (server, ())).2.1.roster.entries = ["http://a"] := by
  intro server client
  have hportable : IsPortable "open\tsesame !" := by
    have hlast : (octets "open\tsesame !").getLast? = some 33 := by decide
    refine ⟨List.all_eq_true.1 (by decide), fun b hb => ?_⟩
    rw [hlast] at hb
    cases hb
    rfl
  have hsize : ((Call.register "http://a").ask localList).text.utf8ByteSize ≤ Target.maxLength := by
    decide +kernel
  have hcall : Call.register "http://a" ≠ .health := nofun
  obtain ⟨hiff, hadmitted⟩ := @isCarriedOut_iff Unit (· == localEndpoint) localEndpoint client (.register "http://a")
    server localList "open\tsesame !" (addresses_local _) rfl rfl rfl rfl (by decide) hcall Network.empty [] ()
  have hout := hiff.2 ⟨hportable, rfl, hsize⟩
  refine ⟨hportable, hout, ?_⟩
  rw [(hadmitted hout).done _ rfl]
  rfl

/-- **Keys and bases with which the right key does not open the door**: one beyond ASCII, one with a blank at its end,
one with a line end, and the URL of a user. -/
theorem right_key_refused :
    (∃ settings events, Settings.load none { dynamicBackends := some true, apiKey := some "\u00e9" } = .ok settings ∧
      Server.ofSettings settings = .ok (keyedServer "\u00e9", events)) ∧
    ((localClient (some "\u00e9")).call localNetwork .list (keyedServer "\u00e9", ())).1 = .error (.status 401 "") ∧
    ((localClient (some "k ")).call localNetwork .list (keyedServer "k ", ())).1 = .error (.status 401 "") ∧
    ((localClient (some "a\nb")).call localNetwork .list (keyedServer "a\nb", ())).1 =
      .error (.exchange (.unsendable none)) ∧
    (({ base := "http://u:p@127.0.0.1:18400", key := some "k" } : AdminClient).call localNetwork .list
      (keyedServer "k", ())).1 = .error (.status 401 "") := by
  refine ⟨⟨_, _, rfl, rfl⟩, ?_, ?_, ?_, ?_⟩ <;> decide +kernel

end AdminClient

end Repeater
