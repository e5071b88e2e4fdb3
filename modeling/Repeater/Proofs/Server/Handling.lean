import Repeater.Proofs.Relay.Completion
import Repeater.Proofs.Relay.Intake
import Repeater.Server.Answer

/-!
# What becomes of a request

A request is answered at once, or it is relayed, and then the attempts of the relay take steps in some order.
What `Server.answer` gives is one of the ways in which this may go.

## Results

* `handled_answer`                   — the answer of the server is one of those that may be given;
* `Reception.says_sent`              — a text arrives as far as the method of the request admits it;
* `receive_of_relay`                 — what is done about a request that goes to the relay;
* `plan_of_fits`, `plan_of_not_fits` — it is relayed exactly if its body fits.
-/

namespace Repeater.Server

open Relay

variable {σ : Type} {net : Network σ} {st : σ} {s : Server} {freshId : String} {a : Arrival}

/-- What may become of a request that was received: it is answered at once, or relayed, and then its attempts
take steps in some order until all have come to their end. Beside the answer stands the verdict of the relay. -/
inductive Handled (net : Network σ) (st : σ) (r : Reception) : Option Verdict → Served → Prop
  | told {served : Served} {roster : Roster} (hplan : r.plan = .told served roster) :
      Handled net st r none (r.respond served)
  | relayed {setting : Setting} {backends : List String} {schedule : List Nat} {result : Result}
      (hplan : r.plan = .relay setting backends) (hresult : ComesTo net setting backends st schedule result) :
      Handled net st r (some result.verdict) (r.respond (Server.relayed setting backends result))

theorem answer_of_told {served : Served} {roster : Roster}
    (hplan : (receive s freshId a).plan = .told served roster) (net : Network σ) (st : σ) :
    answer s net freshId a st = ((receive s freshId a).respond served, { s with roster }, st) := by
  rw [answer]
  simp only [hplan]

theorem answer_of_relay {setting : Setting} {backends : List String}
    (hplan : (receive s freshId a).plan = .relay setting backends) (net : Network σ) (st : σ) :
    answer s net freshId a st =
      ((receive s freshId a).respond (relayed setting backends (fanout net setting backends st).1), s,
        (fanout net setting backends st).2) := by
  rw [answer]
  simp only [hplan]

/-- The answer of the server is one of those that may be given. -/
theorem handled_answer (net : Network σ) (s : Server) (freshId : String) (a : Arrival) (st : σ) :
    ∃ v, Handled net st (receive s freshId a) v (answer s net freshId a st).1 := by
  cases hplan : (receive s freshId a).plan with
  | told served roster =>
    rw [answer_of_told hplan]
    exact ⟨none, .told hplan⟩
  | relay setting backends =>
    obtain ⟨schedule, hresult, -⟩ := exists_run_eq_fanout net setting backends st
    rw [answer_of_relay hplan]
    exact ⟨_, .relayed hplan hresult⟩

theorem Handled.of_told {r : Reception} {v : Option Verdict} {served refusal : Served} {roster : Roster}
    (h : Handled net st r v served) (hplan : r.plan = .told refusal roster) :
    v = none ∧ served = r.respond refusal := by
  cases h with
  | told hplan' =>
    cases hplan.symm.trans hplan'
    exact ⟨rfl, rfl⟩
  | relayed hplan' _ => cases hplan.symm.trans hplan'

theorem Handled.of_relay {r : Reception} {v : Option Verdict} {served : Served} {setting : Setting}
    {backends : List String} (h : Handled net st r v served) (hplan : r.plan = .relay setting backends) :
    ∃ schedule result, ComesTo net setting backends st schedule result ∧ v = some result.verdict ∧
      served = r.respond (Server.relayed setting backends result) := by
  cases h with
  | told hplan' => cases hplan.symm.trans hplan'
  | relayed hplan' hresult =>
    cases hplan.symm.trans hplan'
    exact ⟨_, _, hresult, rfl, rfl⟩

-- ---------------------------------------------------------------------------
-- Responses as they are sent
-- ---------------------------------------------------------------------------

/-- A response with a status and a text, as far as the method admits a text: HEAD is answered without one, and
so is CONNECT where it succeeds. -/
structure Says (method : String) (r : Http.Response) (status : Nat) (text : String) : Prop where
  status_eq : r.status = status
  body_eq : r.body =
    if method = "HEAD" ∨ method = "CONNECT" ∧ Http.isSuccess status = true then .empty else Text.utf8 text

/-- The response to a request, sent in the name of a reception. -/
def Reception.sent (r : Reception) (response : Http.Response) : Http.Response :=
  (r.respond { response }).response

theorem Reception.response_respond (r : Reception) (served : Served) :
    (r.respond served).response = r.sent served.response :=
  rfl

/-- A text arrives as far as the method admits it. -/
theorem Reception.says_sent (r : Reception) (status : Nat) (text : String) :
    Says r.arrival.method (r.sent (.ofText status text)) status text := by
  rw [sent, respond, finish]
  dsimp only
  split
  · rename_i hconnect
    exact ⟨rfl, (if_pos (.inr hconnect)).symm⟩
  · rename_i hconnect
    refine ⟨rfl, if_congr ?_ rfl rfl⟩
    exact ⟨.inl, fun h => h.resolve_right hconnect⟩

-- ---------------------------------------------------------------------------
-- Requests that go to the relay
-- ---------------------------------------------------------------------------

/-- The id leaves everything of a request as it is but the fields. -/
theorem identified_eq (freshId : String) (a : Arrival) :
    ∃ headers, identified freshId a = { a with headers } := by
  rw [identified]
  split
  · exact ⟨a.headers, rfl⟩
  · exact ⟨_, rfl⟩

theorem identified_of_has (h : a.headers.has requestIdField = true) (freshId : String) :
    identified freshId a = a :=
  if_pos h

theorem isRelay_iff {r : Route} : r.isRelay = true ↔ ∃ allow, r = .relay allow := by
  cases r <;> simp [Route.isRelay]

/-- What is done about a request that goes to the relay. -/
theorem receive_of_relay {allow : Option String}
    (h : route s.admin.dynamicBackends a.method a.target.path = .relay allow) (freshId : String) :
    receive s freshId a = { arrival := identified freshId a, allow
                            plan := relay s (a.headers.has requestIdField) (identified freshId a) } := by
  obtain ⟨headers, heq⟩ := identified_eq freshId a
  simp only [receive, plan, heq, h]

theorem method_identified (freshId : String) (a : Arrival) : (identified freshId a).method = a.method := by
  obtain ⟨headers, heq⟩ := identified_eq freshId a
  rw [heq]

theorem fits_identified (limit : Nat) (freshId : String) (a : Arrival) :
    Fits limit (identified freshId a).body ↔ Fits limit a.body := by
  obtain ⟨headers, heq⟩ := identified_eq freshId a
  rw [heq]

variable (hroute : (route s.admin.dynamicBackends a.method a.target.path).isRelay = true)

include hroute

/-- A request whose body fits is relayed to the backends of the roster. -/
theorem plan_of_fits (h : Fits bodyLimit a.body) (freshId : String) :
    ∃ r, Intake.capture bodyLimit (identified freshId a) = .ok r ∧ (receive s freshId a).plan =
      .relay { policy := s.policy, request := replayed (a.headers.has requestIdField) r } s.roster.entries := by
  obtain ⟨allow, hallow⟩ := isRelay_iff.1 hroute
  have hcapture := Intake.capture_of_fits ((fits_identified bodyLimit freshId a).2 h)
  rw [receive_of_relay hallow]
  dsimp only
  rw [relay, hcapture]
  exact ⟨_, rfl, rfl⟩

/-- One whose body does not is refused. -/
theorem plan_of_not_fits (h : ¬Fits bodyLimit a.body) (freshId : String) :
    ∃ e, (receive s freshId a).plan = .told (rejected (identified freshId a) e) s.roster := by
  obtain ⟨allow, hallow⟩ := isRelay_iff.1 hroute
  obtain ⟨e, hcapture⟩ := Intake.capture_of_not_fits (mt (fits_identified bodyLimit freshId a).1 h)
  rw [receive_of_relay hallow]
  dsimp only
  rw [relay, hcapture]
  exact ⟨e, rfl⟩

end Repeater.Server
