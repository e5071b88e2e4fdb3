import Repeater.Proofs.Relay.Lockstep
import Repeater.Proofs.Server.Guard
import Repeater.Proofs.Server.Replayed
import Repeater.Proofs.Server.Reply

/-!
# The id of a request

Every response carries exactly one id: the first that the request brings, as it came, or the one that was made for
it, a UUID of version 4. What backends answer has no part in it. And the id that was made has no part in anything
else: two runs of one request that differ in it send the same, count the same, leave the same behind, and say the
same but for the id.

## Results

* `isUuid4_freshId`       — the id that is made is a UUID of version 4;
* `ids_of_handled`        — every response carries one id;
* `plan_matches`          — what is done about a request does not depend on the id that is made for it;
* `goesAlike_receive`     — two runs that differ in it go the same way;
* `answered_with_one_id`  — all of it.
-/

namespace Repeater.Server

open Http Relay

-- ---------------------------------------------------------------------------
-- The id that is made
-- ---------------------------------------------------------------------------

/-- A UUID of version 4 as it is usually written: groups of 8, 4, 4, 4 and 12 lower-case hexadecimal digits with
hyphens between them, of which the third begins with the version and the fourth with the variant. -/
def IsUuid4 (text : String) : Prop :=
  ∃ groups : List (List Char), text.toList = ['-'].intercalate groups ∧ groups.map List.length = [8, 4, 4, 4, 12] ∧
    (∀ group ∈ groups, ∀ c ∈ group, c ∈ "0123456789abcdef".toList) ∧
    groups[2]?.bind List.head? = some '4' ∧ ∃ c ∈ ['8', '9', 'a', 'b'], groups[3]?.bind List.head? = some c

theorem length_flatMap_hexPair (bytes : List UInt8) : (bytes.flatMap hexPair).length = 2 * bytes.length := by
  induction bytes with
  | nil => rfl
  | cons b r ih =>
    rw [List.flatMap_cons, List.length_append, ih, List.length_cons]
    show 2 + 2 * r.length = 2 * (r.length + 1)
    omega

/-- The digits of the bytes from a position on. -/
theorem drop_flatMap_hexPair (bytes : List UInt8) (i : Nat) :
    (bytes.flatMap hexPair).drop (2 * i) = (bytes.drop i).flatMap hexPair := by
  induction bytes generalizing i with
  | nil => simp
  | cons b r ih =>
    cases i with
    | zero => rfl
    | succ i => exact ih i

/-- The digits from a position on begin with that of the byte there. -/
theorem head?_drop_flatMap_hexPair {bytes : List UInt8} {i : Nat} {b : UInt8} (h : bytes[i]? = some b) :
    ((bytes.flatMap hexPair).drop (2 * i)).head? = (hexPair b).head? := by
  obtain ⟨hi, rfl⟩ := List.getElem?_eq_some_iff.1 h
  rw [drop_flatMap_hexPair, List.drop_eq_getElem_cons hi, List.flatMap_cons]
  rfl

theorem mem_hexDigits {b : UInt8} {c : Char} (h : c ∈ hexPair b) : c ∈ "0123456789abcdef".toList := by
  have hdigit : ∀ d < 16, Nat.digitChar d ∈ "0123456789abcdef".toList := by decide
  have hb : b.toNat < 256 := b.toNat_lt
  rcases List.mem_cons.1 h with rfl | h
  · exact hdigit _ (by omega)
  · obtain rfl := List.mem_singleton.1 h
    exact hdigit _ (by omega)

/-- The first digit of the byte that says the version, and of the one that says the variant. -/
theorem marks_hexPair (b : UInt8) :
    (hexPair ((b &&& 0x0f) ||| 0x40)).head? = some '4' ∧
      ∃ c ∈ ['8', '9', 'a', 'b'], (hexPair ((b &&& 0x3f) ||| 0x80)).head? = some c := by
  have hfirst (c : UInt8) : (hexPair c).head? = some (Nat.digitChar (c.toNat >>> 4)) := by
    rw [Nat.shiftRight_eq_div_pow]
    rfl
  have hversion : ((b &&& 0x0f) ||| 0x40).toNat >>> 4 = 4 := by
    rw [UInt8.toNat_or, UInt8.toNat_and, Nat.shiftRight_or_distrib, Nat.shiftRight_and_distrib]
    simp
  have hvariant : ((b &&& 0x3f) ||| 0x80).toNat >>> 4 = (b.toNat >>> 4 &&& 3) ||| 8 := by
    rw [UInt8.toNat_or, UInt8.toNat_and, Nat.shiftRight_or_distrib, Nat.shiftRight_and_distrib]
    simp
  have hdigit : ∀ m ≤ 3, Nat.digitChar (m ||| 8) ∈ ['8', '9', 'a', 'b'] := by decide
  rw [hfirst, hfirst, hversion, hvariant]
  exact ⟨rfl, _, hdigit _ Nat.and_le_right, rfl⟩

/-- **The id that is made of sixteen random bytes is a UUID of version 4.** -/
theorem isUuid4_freshId {random : List UInt8} (h : random.length = 16) : IsUuid4 (freshId random) := by
  set digits := (marked random).flatMap hexPair with hdigits
  have hmarked : (marked random).length = 16 := by simp [marked, h]
  have hlength : digits.length = 32 := by rw [hdigits, length_flatMap_hexPair, hmarked]
  -- the two bytes that are marked
  obtain ⟨v, hv⟩ : ∃ v, random[6]? = some v := ⟨_, List.getElem?_eq_getElem (by omega)⟩
  obtain ⟨w, hw⟩ : ∃ w, random[8]? = some w := ⟨_, List.getElem?_eq_getElem (by omega)⟩
  have hversion : (marked random)[6]? = some ((v &&& 0x0f) ||| 0x40) := by
    simp [marked, hv]
  have hvariant : (marked random)[8]? = some ((w &&& 0x3f) ||| 0x80) := by
    simp [marked, hw]
  refine ⟨[(0, 8), (8, 4), (12, 4), (16, 4), (20, 12)].map fun p => (digits.drop p.1).take p.2, ?_, ?_, ?_, ?_⟩
  · unfold freshId
    dsimp only
    rw [String.toList_intercalate]
    simp [hdigits]
  · simp [hlength]
  · intro group hgroup c hc
    obtain ⟨p, -, rfl⟩ := List.mem_map.1 hgroup
    obtain ⟨b, -, hb⟩ := List.mem_flatMap.1 (List.mem_of_mem_drop (List.mem_of_mem_take hc))
    exact mem_hexDigits hb
  · have hthird := head?_drop_flatMap_hexPair hversion
    have hfourth := head?_drop_flatMap_hexPair hvariant
    rw [(marks_hexPair v).1] at hthird
    obtain ⟨c, hc, hfirst⟩ := (marks_hexPair w).2
    rw [hfirst] at hfourth
    exact ⟨(List.head?_take.trans (if_neg (by decide))).trans hthird, c, hc,
      (List.head?_take.trans (if_neg (by decide))).trans hfourth⟩

-- ---------------------------------------------------------------------------
-- The id that goes out
-- ---------------------------------------------------------------------------

variable {σ : Type} {net : Network σ} {st : σ} {s : Server} {made made' : String} {a : Arrival}

/-- A response without an id is sent with the first one of its request. -/
theorem Reception.ids_sent (r : Reception) {response : Response} (h : response.headers.values requestIdField = []) :
    (r.sent response).headers.values requestIdField = (r.arrival.headers.values requestIdField).take 1 := by
  have hfinish (method : String) (allow : Option String) :
      (finish method allow response).headers.values requestIdField = [] := by
    unfold finish
    split
    · exact h
    · dsimp only
      rw [Headers.values_append, Headers.values_append, h]
      cases allow <;> rfl
  have hids (ids : List ByteArray) :
      Headers.values (ids.map fun id => ⟨requestIdField, id⟩) requestIdField = ids := by
    simp [Headers.values, List.filter_map, Function.comp_def]
  rw [sent, respond]
  dsimp only
  rw [Headers.values_append, hfinish, hids, List.nil_append]

/-- **Every response carries one id**, in whatever order the attempts take their steps: the first one of the request,
or the one that was made for it. -/
theorem ids_of_handled {v : Option Verdict} {served : Served} (h : Handled net st (receive s made a) v served) :
    served.response.headers.values requestIdField = [idOf made a.headers] := by
  have hown {response : Response} (hown : IsOwn response) : response.headers.values requestIdField = [] := by
    obtain ⟨status, -, rfl | ⟨text, rfl⟩⟩ := hown <;> rfl
  have hids := ids_identified made a
  cases h with
  | told hplan => exact ((receive s made a).ids_sent (hown (own_of_told hplan))).trans hids
  | relayed hplan hresult => exact ((receive s made a).ids_sent (hown (own_verdict _))).trans hids

-- ---------------------------------------------------------------------------
-- Two runs that differ in the id that was made
-- ---------------------------------------------------------------------------

/-- Two plans for one request, of which the journal may say different things. -/
inductive Plan.Matches : Plan → Plan → Prop
  | told {served served' : Served} (roster : Roster) (response_eq : served'.response = served.response)
      (marks_eq : served'.marks = served.marks) : Matches (.told served roster) (.told served' roster)
  | relay (setting : Setting) (id : String) (backends : List String) :
      Matches (.relay setting backends) (.relay (setting.withId id) backends)

theorem Plan.Matches.refl (p : Plan) : p.Matches p := by
  cases p with
  | told served roster => exact .told roster rfl rfl
  | relay setting backends => exact .relay setting setting.request.requestId backends

theorem Plan.Matches.of_told {served : Served} {roster : Roster} {p : Plan} (h : (Plan.told served roster).Matches p) :
    ∃ served', p = .told served' roster ∧ served'.response = served.response ∧ served'.marks = served.marks := by
  cases h with
  | told _ hresponse hmarks => exact ⟨_, rfl, hresponse, hmarks⟩

theorem Plan.Matches.of_relay {setting : Setting} {backends : List String} {p : Plan}
    (h : (Plan.relay setting backends).Matches p) : ∃ id, p = .relay (setting.withId id) backends := by
  cases h with
  | relay _ id _ => exact ⟨id, rfl⟩

/-- **What is done about a request does not depend on the id that is made for it.** -/
theorem plan_matches (s : Server) (made made' : String) (a : Arrival) :
    (receive s made a).plan.Matches (receive s made' a).plan := by
  cases hroute : route s.admin.dynamicBackends a.method a.target.path with
  | list | register | unregister =>
    rw [plan_of_admin hroute rfl, plan_of_admin hroute rfl]
    split
    · exact .refl _
    · exact .told s.roster rfl rfl
  | relay allow =>
    have hrelay : (route s.admin.dynamicBackends a.method a.target.path).isRelay = true := by
      rw [hroute]
      rfl
    by_cases hfits : Fits bodyLimit a.body
    · obtain ⟨id, hplan⟩ := exists_relay_of_fits hrelay hfits made
      obtain ⟨id', hplan'⟩ := exists_relay_of_fits hrelay hfits made'
      rw [hplan, hplan']
      exact .relay _ id' s.roster.entries
    · obtain ⟨e, hplan⟩ := plan_of_not_fits hrelay hfits made
      obtain ⟨e', hplan'⟩ := plan_of_not_fits hrelay hfits made'
      rw [hplan, hplan']
      exact .told s.roster rfl rfl
  | health | notAllowed | unknown =>
    obtain ⟨headers, heq⟩ := identified_eq made a
    obtain ⟨headers', heq'⟩ := identified_eq made' a
    simp only [receive, plan, heq, heq', hroute]
    exact .refl _

theorem allow_receive (s : Server) (made made' : String) (a : Arrival) :
    (receive s made' a).allow = (receive s made a).allow := by
  obtain ⟨headers, heq⟩ := identified_eq made a
  obtain ⟨headers', heq'⟩ := identified_eq made' a
  simp only [receive, plan, heq, heq']
  split <;> rfl

/-- Two answers that say the same but for the id, and count the same. -/
structure Served.AlikeButId (served served' : Served) : Prop where
  response_eq : withoutId served'.response = withoutId served.response
  marks_eq : served'.marks = served.marks

theorem alike_respond (s : Server) (made made' : String) (a : Arrival) {served served' : Served}
    (hresponse : served'.response = served.response) (hmarks : served'.marks = served.marks) :
    ((receive s made a).respond served).AlikeButId ((receive s made' a).respond served') where
  response_eq := by
    have hmethod : (receive s made' a).arrival.method = (receive s made a).arrival.method :=
      (method_identified made' a).trans (method_identified made a).symm
    rw [Reception.response_respond, Reception.response_respond, hresponse]
    exact Reception.withoutId_sent hmethod (allow_receive s made made' a) _
  marks_eq := hmarks

/-- Two receptions of one request that go the same way. What is answered at once is answered alike and leaves the same
roster. What is relayed goes to the same backends, and in every order in which the attempts take steps servers read
the same of both, in the same order, and are left the same; and where the one has come to its end, so has the other,
with the same verdict and an answer that is alike. -/
structure GoesAlike (net : Network σ) (st : σ) (r r' : Reception) : Prop where
  told : ∀ served roster, r.plan = .told served roster →
    ∃ served', r'.plan = .told served' roster ∧ (r.respond served).AlikeButId (r'.respond served')
  relayed : ∀ setting backends, r.plan = .relay setting backends →
    ∃ setting', r'.plan = .relay setting' backends ∧ ∀ schedule,
      (Flight.start setting' backends).trace net st schedule = (Flight.start setting backends).trace net st schedule ∧
      ((Flight.start setting' backends).run net st schedule).2 =
        ((Flight.start setting backends).run net st schedule).2 ∧
      ∀ result, ComesTo net setting backends st schedule result →
        ∃ result', ComesTo net setting' backends st schedule result' ∧ result'.verdict = result.verdict ∧
          (r.respond (Server.relayed setting backends result)).AlikeButId
            (r'.respond (Server.relayed setting' backends result'))

theorem goesAlike_receive (net : Network σ) (st : σ) (s : Server) (made made' : String) (a : Arrival) :
    GoesAlike net st (receive s made a) (receive s made' a) := by
  have hmatch := plan_matches s made made' a
  constructor
  · intro served roster hplan
    rw [hplan] at hmatch
    obtain ⟨served', hplan', hresponse, hmarks⟩ := hmatch.of_told
    exact ⟨served', hplan', alike_respond s made made' a hresponse hmarks⟩
  · intro setting backends hplan
    rw [hplan] at hmatch
    obtain ⟨id, hplan'⟩ := hmatch.of_relay
    have hstart := Flight.Matches.start setting id backends
    refine ⟨_, hplan', fun schedule =>
      ⟨hstart.trace_eq st schedule, (hstart.run (.refl net) rfl schedule).2.symm, ?_⟩⟩
    intro result hresult
    obtain ⟨result', hresult', hverdict, hmarks⟩ := comesTo_lockstep (.refl net) rfl id hresult
    refine ⟨result', hresult', hverdict, alike_respond s made made' a ?_ ?_⟩
    · exact congrArg Verdict.response hverdict
    · exact congrArg (List.cons .inbound) hmarks

/-- The attempts taken in the order of the list, the servers and the roster are left the same. -/
theorem answer_alike (net : Network σ) (s : Server) (made made' : String) (a : Arrival) (st : σ) :
    (answer s net made' a st).2 = (answer s net made a st).2 ∧
      (answer s net made a st).1.AlikeButId (answer s net made' a st).1 := by
  have hmatch := plan_matches s made made' a
  cases hplan : (receive s made a).plan with
  | told served roster =>
    rw [hplan] at hmatch
    obtain ⟨served', hplan', hresponse, hmarks⟩ := hmatch.of_told
    rw [answer_of_told hplan, answer_of_told hplan']
    exact ⟨rfl, alike_respond s made made' a hresponse hmarks⟩
  | relay setting backends =>
    rw [hplan] at hmatch
    obtain ⟨id, hplan'⟩ := hmatch.of_relay
    obtain ⟨hstate, hverdict, hmarks⟩ := fanout_withId net setting id backends st
    rw [answer_of_relay hplan, answer_of_relay hplan', hstate]
    refine ⟨rfl, alike_respond s made made' a ?_ ?_⟩
    · exact congrArg Verdict.response hverdict
    · exact congrArg (List.cons .inbound) hmarks

/-- **Every request is answered with one id**, whatever is done about it, on every network and in whatever order the
attempts of a relay take their steps: with the first that it brings, byte for byte, or with the one that was made for
it, which is a UUID of version 4. Had another id been made, everything else would have gone the same way: the same
is sent to the same backends, the server and the network are left the same, the same is counted, and the response is
the same but for the id. -/
theorem answered_with_one_id (s : Server) {random : List UInt8} (hrandom : random.length = 16) (a : Arrival)
    {σ : Type} (net : Network σ) (st : σ) :
    (∃ v, Handled net st (receive s (freshId random) a) v (answer s net (freshId random) a st).1) ∧
    (∀ v served, Handled net st (receive s (freshId random) a) v served →
      (∀ id, a.headers.get? "x-request-id" = some id → served.response.headers.values "x-request-id" = [id]) ∧
      (a.headers.get? "x-request-id" = none → IsUuid4 (freshId random) ∧
        served.response.headers.values "x-request-id" = [Text.utf8 (freshId random)])) ∧
    ∀ made' : String, GoesAlike net st (receive s (freshId random) a) (receive s made' a) ∧
      (answer s net made' a st).2 = (answer s net (freshId random) a st).2 ∧
      (answer s net (freshId random) a st).1.AlikeButId (answer s net made' a st).1 := by
  refine ⟨handled_answer net s _ a st, fun v served h => ?_, fun made' =>
    ⟨goesAlike_receive net st s _ made' a, answer_alike net s _ made' a st⟩⟩
  have hids := ids_of_handled h
  rw [idOf] at hids
  constructor
  · intro id hid
    rwa [show a.headers.get? requestIdField = some id from hid] at hids
  · intro hnone
    rw [show a.headers.get? requestIdField = none from hnone] at hids
    exact ⟨isUuid4_freshId hrandom, hids⟩

/-- A request with two ids, of which the first is a byte that no text begins with. -/
def namedRequest : Arrival where
  method := "PUT"
  target := { rest := "/backends".toList }
  headers := [⟨requestIdField, ⟨#[0xff]⟩⟩, ⟨requestIdField, Text.utf8 "b"⟩]

/-- The first id of two comes back, and a request without one gets one that is made. -/
theorem answered_with_one_id_bytes :
    let random := List.replicate 16 0xab
    random.length = 16 ∧ freshId random = "abababab-abab-4bab-abab-abababababab" ∧
    (answer (guardedServer []) Network.empty (freshId random) namedRequest ()).1.response.headers.values
      "x-request-id" = [⟨#[0xff]⟩] ∧
    (answer (guardedServer []) Network.empty (freshId random) (strangerRequest "GET" "") ()).1.response.headers.values
      "x-request-id" = [Text.utf8 (freshId random)] := by
  intro random
  have hrandom : random.length = 16 := rfl
  obtain ⟨⟨v, h⟩, hids, -⟩ :=
    answered_with_one_id (guardedServer []) hrandom namedRequest Network.empty ()
  obtain ⟨⟨v', h'⟩, hids', -⟩ :=
    answered_with_one_id (guardedServer []) hrandom (strangerRequest "GET" "") Network.empty ()
  exact ⟨hrandom, by decide +kernel, (hids v _ h).1 _ rfl, ((hids' v' _ h').2 rfl).2⟩

end Repeater.Server
