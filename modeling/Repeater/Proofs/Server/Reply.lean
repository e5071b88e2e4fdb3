import Repeater.Proofs.Client.Reply
import Repeater.Proofs.Server.Handling
import Repeater.Server.FreshId

/-!
# Every answer can be read

Whatever is done about a request, the server answers with a status of its own, with a plain text or without one,
and with the length of it; so a client can tell what it was told.

Main results:

* `own_of_told`, `own_verdict` — the server answers in its own words;
* `isTold_answer` — every answer tells its own length and is no redirect.
-/

namespace Repeater.Server

open Http Relay

-- ---------------------------------------------------------------------------
-- Fields
-- ---------------------------------------------------------------------------

/-- Without blanks there is nothing to trim. -/
theorem trimSpaces_eq_self {s : List UInt8} (h : ∀ b ∈ s, isSpaceByte b = false) : trimSpaces s = s := by
  have hfront {s : List UInt8} (h : ∀ b ∈ s, isSpaceByte b = false) : s.dropWhile isSpaceByte = s := by
    cases s with
    | nil => rfl
    | cons b s => exact List.dropWhile_cons_of_neg (by simp [h b List.mem_cons_self])
  rw [trimSpaces, hfront h, hfront fun b hb => h b (List.mem_reverse.1 hb), List.reverse_reverse]

/-- A field whose name is tried out. -/
theorem isWritable_of_name {name : String} {value : ByteArray} (hne : octets name ≠ [])
    (htoken : (octets name).all isTokenByte = true)
    (hlower : String.ofList ((asciiText (octets name)).toList.map Char.toLower) = name)
    (hvalue : ∀ b ∈ value.data.toList, isValueByte b = true)
    (htrimmed : trimSpaces value.data.toList = value.data.toList) : Header.IsWritable ⟨name, value⟩ where
  named := hne
  token := List.all_eq_true.1 htoken
  lower := by rwa [toLower_eq]
  value := hvalue
  trimmed := htrimmed

/-- A byte that is neither a control character nor a blank. -/
def IsSolid (b : UInt8) : Prop :=
  isValueByte b = true ∧ isSpaceByte b = false

instance (b : UInt8) : Decidable (IsSolid b) :=
  inferInstanceAs (Decidable (_ ∧ _))

/-- A character of an id that is made. -/
theorem mem_freshId {random : List UInt8} {c : Char} (h : c ∈ (freshId random).toList) :
    c = '-' ∨ ∃ d < 16, c = Nat.digitChar d := by
  have hpair {b : UInt8} (hc : c ∈ hexPair b) : ∃ d < 16, c = Nat.digitChar d := by
    have hb : b.toNat < 256 := b.toNat_lt
    rcases List.mem_cons.1 hc with rfl | hc
    · exact ⟨b.toNat / 16, by omega, rfl⟩
    · exact ⟨b.toNat % 16, by omega, List.mem_singleton.1 hc⟩
  unfold freshId at h
  dsimp only at h
  rw [String.toList_intercalate] at h
  rcases Text.mem_of_mem_intercalate h with hc | ⟨group, hgroup, hc⟩
  · exact .inl hc
  · right
    obtain ⟨text, htext, rfl⟩ := List.mem_map.1 hgroup
    obtain ⟨part, -, rfl⟩ := List.mem_map.1 htext
    rw [String.toList_ofList] at hc
    obtain ⟨b, -, hc⟩ := List.mem_flatMap.1 (List.mem_of_mem_drop (List.mem_of_mem_take hc))
    exact hpair hc

theorem isWritable_freshId (random : List UInt8) :
    Header.IsWritable ⟨requestIdField, Text.utf8 (freshId random)⟩ := by
  have hdigit : ∀ d < 16, ∀ b ∈ String.utf8EncodeChar (Nat.digitChar d), IsSolid b := by
    decide +kernel
  have hhyphen : ∀ b ∈ String.utf8EncodeChar '-', IsSolid b := by
    decide +kernel
  have hsolid : ∀ b ∈ octets (freshId random), IsSolid b := by
    intro b hb
    rw [octets_eq] at hb
    obtain ⟨c, hc, hb⟩ := List.mem_flatMap.1 hb
    rcases mem_freshId hc with rfl | ⟨d, hd, rfl⟩
    · exact hhyphen b hb
    · exact hdigit d hd b hb
  exact isWritable_of_name (by decide) (by decide) (by decide) (fun b hb => (hsolid b hb).1)
    (trimSpaces_eq_self fun b hb => (hsolid b hb).2)

theorem isWritable_length (n : Nat) : Header.IsWritable ⟨"content-length", Text.utf8 (toString n)⟩ := by
  have hdigit : ∀ d < 10, IsSolid (UInt8.ofNat (48 + d)) := by
    decide
  have hsolid : ∀ b ∈ octets (toString n), IsSolid b := by
    intro b hb
    obtain ⟨hlow, hhigh⟩ := digit_of_mem_number hb
    have hrange : 48 ≤ b.toNat ∧ b.toNat ≤ 57 := ⟨UInt8.le_iff_toNat_le.1 hlow, UInt8.le_iff_toNat_le.1 hhigh⟩
    have hread := hdigit (b.toNat - 48) (by omega)
    rwa [show 48 + (b.toNat - 48) = b.toNat by omega, UInt8.ofNat_toNat] at hread
  exact isWritable_of_name (by decide) (by decide) (by decide) (fun b hb => (hsolid b hb).1)
    (trimSpaces_eq_self fun b hb => (hsolid b hb).2)

theorem isWritable_type : Header.IsWritable ⟨"content-type", Text.utf8 plainText⟩ :=
  isWritable_of_name (by decide) (by decide) (by decide) (Text.forall_mem_of_all (by decide)) (by decide)

-- ---------------------------------------------------------------------------
-- What the server says
-- ---------------------------------------------------------------------------

/-- A response in the words of the server: a status of its own, with a plain text or with none. -/
def IsOwn (r : Response) : Prop :=
  ∃ status ∈ [200, 400, 401, 404, 405, 413, 502], r = { status } ∨ ∃ text, r = .ofText status text

theorem own_text {status : Nat} (h : status ∈ [200, 400, 401, 404, 405, 413, 502]) (text : String) :
    IsOwn (.ofText status text) :=
  ⟨status, h, .inr ⟨text, rfl⟩⟩

theorem own_verdict (v : Verdict) : IsOwn v.response := by
  rw [Verdict.response, Verdict.status]
  split <;> exact own_text (by decide) _

theorem own_changed {r : Roster} (change : Except Roster.Refusal Roster)
    (refused : Roster.Refusal → Journal.Event) (events : List Journal.Event) :
    IsOwn (changed r change refused events).1.response := by
  cases change with
  | ok s => exact own_text (by decide) _
  | error e => exact own_text (by decide) _

theorem own_administer (r : Roster) (route : Route) (query : Option (List Char)) :
    IsOwn (administer r route query).1.response := by
  unfold administer
  split
  · exact own_changed _ _ _
  · exact own_changed _ _ _
  · exact own_text (by decide) _
  · exact own_text (by decide) _
  · exact own_text (by decide) _

variable {s : Server} {freshId : String} {a : Arrival}

/-- What is answered at once is in the words of the server. -/
theorem own_of_told {served : Served} {roster : Roster} (hplan : (receive s freshId a).plan = .told served roster) :
    IsOwn served.response := by
  rw [receive, plan] at hplan
  dsimp only at hplan
  split at hplan
  · cases hplan
    exact own_text (by decide) _
  · cases hplan
    exact ⟨405, by decide, .inl rfl⟩
  · cases hplan
    exact ⟨404, by decide, .inl rfl⟩
  · rw [relay] at hplan
    split at hplan
    · cases hplan
      exact own_text (by decide) _
    · cases hplan
  · split at hplan
    · cases hplan
      exact own_administer _ _ _
    · cases hplan
      exact ⟨401, by decide, .inl rfl⟩

/-- **The server answers in its own words.** -/
theorem exists_own {σ : Type} (net : Network σ) (s : Server) (freshId : String) (a : Arrival) (st : σ) :
    ∃ response, IsOwn response ∧
      (answer s net freshId a st).1.response = (receive s freshId a).sent response := by
  cases hplan : (receive s freshId a).plan with
  | told served roster =>
    rw [answer_of_told hplan]
    exact ⟨served.response, own_of_told hplan, rfl⟩
  | relay setting backends =>
    rw [answer_of_relay hplan]
    exact ⟨_, own_verdict _, rfl⟩

/-- The fields that every answer is given, whatever it says. -/
def Reception.added (r : Reception) (response : Response) : Headers :=
  r.allow.toList.map (fun a => ⟨"allow", Text.utf8 a⟩) ++
    [⟨"content-length", Text.utf8 (toString response.body.size)⟩] ++
    ((r.arrival.headers.values requestIdField).take 1).map fun id => ⟨requestIdField, id⟩

/-- Where a method admits a text, only fields are added to an answer. -/
theorem Reception.sent_eq {r : Reception} (hhead : r.arrival.method ≠ "HEAD")
    (hconnect : r.arrival.method ≠ "CONNECT") (response : Response) :
    r.sent response = { response with headers := response.headers ++ r.added response } := by
  have hadmitted : ¬(r.arrival.method = "CONNECT" ∧ isSuccess response.status = true) := fun h => hconnect h.1
  rw [sent, respond, finish]
  dsimp only
  rw [if_neg hadmitted, if_neg hhead]
  simp only [added, List.append_assoc]

theorem Reception.length_added (r : Reception) (response : Response) : (r.added response).length ≤ 3 := by
  have hallow : r.allow.toList.length ≤ 1 := by
    cases r.allow <;> simp
  have hid : ((r.arrival.headers.values requestIdField).take 1).length ≤ 1 := List.length_take_le _ _
  simp only [added, List.length_append, List.length_map, List.length_singleton]
  omega

theorem Reception.values_added {r : Reception} {response : Response} {name : String}
    (h : name ∉ ["allow", "content-length", requestIdField]) : (r.added response).values name = [] := by
  simp only [List.mem_cons, List.not_mem_nil, or_false, not_or] at h
  refine Headers.values_eq_nil fun x hx => ?_
  simp only [added, List.mem_append, List.mem_map, List.mem_singleton] at hx
  rintro rfl
  rcases hx with (⟨a, -, rfl⟩ | rfl) | ⟨id, -, rfl⟩
  · exact h.1 rfl
  · exact h.2.1 rfl
  · exact h.2.2 rfl

theorem Reception.length_values_added (r : Reception) (response : Response) :
    (r.added response).values "content-length" = [Text.utf8 (toString response.body.size)] := by
  have hother {α : Type} (f : α → Header) (hf : ∀ a, (f a).name ≠ "content-length") (as : List α) :
      Headers.values (as.map f) "content-length" = [] := by
    refine Headers.values_eq_nil fun x hx => ?_
    obtain ⟨a, -, rfl⟩ := List.mem_map.1 hx
    exact hf a
  have hallow := hother (fun a => ⟨"allow", Text.utf8 a⟩) (fun _ => show "allow" ≠ _ by decide) r.allow.toList
  have hid := hother (fun id => ⟨requestIdField, id⟩) (fun _ => show requestIdField ≠ _ by decide)
    ((r.arrival.headers.values requestIdField).take 1)
  rw [added, Headers.values_append, Headers.values_append, hallow, hid, List.append_nil]
  rfl

theorem Reception.isWritable_added {r : Reception} {response : Response}
    (hallow : ∀ allow ∈ r.allow, Header.IsWritable ⟨"allow", Text.utf8 allow⟩)
    (hid : ∀ id, r.arrival.headers.get? requestIdField = some id → Header.IsWritable ⟨requestIdField, id⟩)
    {x : Header} (hx : x ∈ r.added response) : x.IsWritable := by
  simp only [added, List.mem_append, List.mem_map, List.mem_singleton] at hx
  rcases hx with (⟨allow, hmem, rfl⟩ | rfl) | ⟨id, hmem, rfl⟩
  · exact hallow allow (Option.mem_toList.1 hmem)
  · exact isWritable_length _
  · refine hid id ?_
    rw [Headers.get?]
    cases hvalues : r.arrival.headers.values requestIdField with
    | nil =>
      rw [hvalues] at hmem
      cases hmem
    | cons v rest =>
      rw [hvalues, List.take_succ_cons, List.take_zero, List.mem_singleton] at hmem
      rw [hmem]
      rfl

/-- A response with the fields that every answer is given tells its own length. -/
theorem Reception.isTold_sent {r : Reception} {response : Response} (hown : IsOwn response)
    (hhead : r.arrival.method ≠ "HEAD") (hconnect : r.arrival.method ≠ "CONNECT")
    (hallow : ∀ allow ∈ r.allow, Header.IsWritable ⟨"allow", Text.utf8 allow⟩)
    (hid : ∀ id, r.arrival.headers.get? requestIdField = some id → Header.IsWritable ⟨requestIdField, id⟩) :
    (r.sent response).IsTold := by
  obtain ⟨status, hstatus, hresponse⟩ := hown
  have hheaders : response.headers = [] ∨ response.headers = [⟨"content-type", Text.utf8 plainText⟩] := by
    rcases hresponse with rfl | ⟨text, rfl⟩
    · exact .inl rfl
    · exact .inr rfl
  have hsame : response.status = status := by
    rcases hresponse with rfl | ⟨text, rfl⟩ <;> rfl
  have hrange : ∀ status ∈ [200, 400, 401, 404, 405, 413, 502], 200 ≤ status ∧ status ≤ 999 ∧
      status ∉ [204, 301, 302, 303, 304, 307, 308] := by
    decide
  have hstart : ∀ x ∈ response.headers, x.IsWritable := by
    rcases hheaders with h | h
    · simp [h]
    · rw [h]
      exact List.forall_mem_singleton.2 isWritable_type
  have hcount : response.headers.length ≤ 1 := by
    rcases hheaders with h | h <;> simp [h]
  have hvalues {name : String} (h : name ≠ "content-type") : response.headers.values name = [] := by
    rcases hheaders with h' | h' <;> simp [h', Headers.values, h.symm]
  rw [sent_eq hhead hconnect]
  refine ⟨?_, ?_, fun x hx => ?_, ?_, ?_, ?_, ?_⟩
  · show 200 ≤ response.status ∧ response.status ≤ 999
    rw [hsame]
    exact ⟨(hrange status hstatus).1, (hrange status hstatus).2.1⟩
  · show response.status ∉ _
    rw [hsame]
    exact (hrange status hstatus).2.2
  · exact (List.mem_append.1 hx).elim (hstart x) (isWritable_added hallow hid)
  · show (response.headers ++ r.added response).length ≤ 100
    have hadded := length_added r response
    rw [List.length_append]
    omega
  · show Headers.values (response.headers ++ r.added response) "content-length" = _
    rw [Headers.values_append, hvalues (by decide), length_values_added, List.nil_append]
  · show Headers.values (response.headers ++ r.added response) "transfer-encoding" = []
    rw [Headers.values_append, hvalues (by decide), values_added (by decide), List.nil_append]
  · show Headers.get? (response.headers ++ r.added response) "content-type" = none ∨
      Headers.get? (response.headers ++ r.added response) "content-type" = some (Text.utf8 plainText)
    rw [Headers.get?, Headers.values_append, values_added (by decide), List.append_nil]
    rcases hheaders with h | h
    · left
      rw [h]
      rfl
    · right
      rw [h]
      rfl

/-- The methods that a path allows, where they are told. -/
theorem allow_of_route {dynamic : Bool} {method allow : String} {path : List Char}
    (h : route dynamic method path = .notAllowed allow ∨ route dynamic method path = .relay (some allow)) :
    allow = "GET,HEAD" ∨ allow = "GET,HEAD,POST,DELETE" := by
  unfold route at h
  grind

theorem isWritable_allow {allow : String} (h : allow ∈ (receive s freshId a).allow) :
    Header.IsWritable ⟨"allow", Text.utf8 allow⟩ := by
  have htexts : allow = "GET,HEAD" ∨ allow = "GET,HEAD,POST,DELETE" := by
    obtain ⟨headers, heq⟩ := identified_eq freshId a
    rw [receive, plan] at h
    dsimp only at h
    split at h
    · cases h
    · rename_i hroute
      cases h
      exact allow_of_route (.inl hroute)
    · cases h
    · rename_i hroute
      cases h
      exact allow_of_route (.inr hroute)
    · cases h
  rcases htexts with rfl | rfl
  · exact isWritable_of_name (by decide) (by decide) (by decide) (Text.forall_mem_of_all (by decide)) (by decide)
  · exact isWritable_of_name (by decide) (by decide) (by decide) (Text.forall_mem_of_all (by decide)) (by decide)

/-- **Every answer tells its own length and is no redirect**, as long as the id of a caller can be sent back. -/
theorem isTold_answer {σ : Type} (net : Network σ) (s : Server) (random : List UInt8) (st : σ)
    (hhead : a.method ≠ "HEAD") (hconnect : a.method ≠ "CONNECT")
    (hid : ∀ id, a.headers.get? requestIdField = some id → Header.IsWritable ⟨requestIdField, id⟩) :
    (answer s net (Server.freshId random) a st).1.response.IsTold := by
  obtain ⟨response, hown, heq⟩ := exists_own net s (Server.freshId random) a st
  have hmethod : (receive s (Server.freshId random) a).arrival.method = a.method := method_identified _ a
  have harrival : (receive s (Server.freshId random) a).arrival = identified (Server.freshId random) a := rfl
  rw [heq]
  refine Reception.isTold_sent hown (by rwa [hmethod]) (by rwa [hmethod]) (fun _ h => isWritable_allow h) ?_
  intro id h
  rw [harrival, identified] at h
  split at h
  · exact hid id h
  · rename_i hnone
    rw [Headers.has_eq, Bool.not_eq_true', Bool.not_eq_false, List.isEmpty_iff] at hnone
    have hmade (value : ByteArray) : Headers.values [⟨requestIdField, value⟩] requestIdField = [value] := rfl
    rw [Headers.get?, Headers.values_append, hnone, hmade, List.nil_append, List.head?_cons, Option.some.injEq] at h
    rw [← h]
    exact isWritable_freshId random

end Repeater.Server
