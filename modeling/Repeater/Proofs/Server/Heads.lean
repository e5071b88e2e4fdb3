import Repeater.Proofs.Relay.Heads
import Repeater.Proofs.Relay.Replay
import Repeater.Proofs.Server.Handling

/-!
# What backends send behind their heads

The outcomes of a relay, its verdict, and the response to the caller depend on the heads of what the backends answer.
A body may be anything, stop anywhere, or never come: it is read for the journal alone, after the outcome is known.

## Results

* `exists_handled_of_sharesHeads` — a request that is handled on one network is handled so on the other;
* `handled_eq_of_sharesHeads`     — where heads depend on the requests alone, in no other way;
* `decided_by_heads`              — all of it, and that a body which cannot be read makes no failure.
-/

namespace Repeater.Server

open Relay

variable {σ σ' : Type} {net : Network σ} {net' : Network σ'} {Together : σ → σ' → Prop} {st : σ} {st' : σ'}
  {r : Reception} {v v' : Option Verdict} {served served' : Served}

/-- **A request that is handled on one network is handled so on the other**, with the same verdict and response. -/
theorem exists_handled_of_sharesHeads (hnet : net.SharesHeads net' Together) (hst : Together st st')
    (h : Handled net st r v served) :
    ∃ served', Handled net' st' r v served' ∧ served'.response = served.response := by
  cases h with
  | told hplan => exact ⟨_, .told hplan, rfl⟩
  | @relayed setting _ _ _ hplan hresult =>
    obtain ⟨result', hresult', hverdict, -⟩ := comesTo_lockstep hnet hst setting.request.requestId hresult
    have hhandled := Handled.relayed hplan hresult'
    rw [hverdict] at hhandled
    refine ⟨_, hhandled, ?_⟩
    rw [Reception.response_respond, Reception.response_respond, Server.relayed, Server.relayed, hverdict]

/-- **Where heads depend on the requests alone, it is handled in no other way.** -/
theorem handled_eq_of_sharesHeads (hnet : net.SharesHeads net' Together) (hall : ∀ st st', Together st st')
    (h : Handled net st r v served) (h' : Handled net' st' r v' served') :
    v' = v ∧ served'.response = served.response := by
  cases h with
  | told hplan =>
    obtain ⟨rfl, rfl⟩ := h'.of_told hplan
    exact ⟨rfl, rfl⟩
  | relayed hplan hresult =>
    obtain ⟨schedule, result', hresult', rfl, rfl⟩ := h'.of_relay hplan
    obtain ⟨hverdict, -⟩ := verdict_eq_of_reaches hnet hall (Flight.reaches_run _ net st _)
      (Flight.reaches_run _ net' st' schedule) hresult hresult'
    refine ⟨congrArg some hverdict, ?_⟩
    rw [Reception.response_respond, Reception.response_respond, Server.relayed, Server.relayed, hverdict]

/-- **The heads of the answers decide.** Take two networks whose servers answer with the same heads, and whatever
bodies. Every order of requests that ends a relay on the one ends it on the other, with the same outcomes in the
verdict. If the heads depend on the requests alone, the outcomes are the same even if the orders are not, and whatever
else goes on beside the two relays. A backend that answered with an error is no failure, whether or not the body of
the answer can be read. And the caller gets the same response from both. -/
theorem decided_by_heads (hnet : net.SharesHeads net' Together) :
    (∀ s backends st st' schedule result, Together st st' → ComesTo net s backends st schedule result →
      ∃ result', ComesTo net' s backends st' schedule result' ∧ result'.verdict = result.verdict) ∧
    ((∀ st st', Together st st') → ∀ s backends flight flight' result result',
      (Flight.start s backends).Reaches net flight → (Flight.start s backends).Reaches net' flight' →
      flight.result? = some result → flight'.result? = some result' → result'.verdict = result.verdict) ∧
    (∀ s backends st schedule result i x a, ComesTo net s backends st schedule result →
      x ∈ (Flight.start s backends).sent net st schedule i →
      Client.Answer.read x.delivery.method x.reply = .ok a → 400 ≤ a.status → a.status ≤ 599 →
      ∃ backend, backends[i]? = some backend ∧ result.verdict.outcomes[i]? = some (.relayed backend a.status)) ∧
    (∀ s freshId a st st' v served, Together st st' → Handled net st (receive s freshId a) v served →
      ∃ served', Handled net' st' (receive s freshId a) v served' ∧ served'.response = served.response) ∧
    ((∀ st st', Together st st') → ∀ s freshId a st st' v v' served served',
      Handled net st (receive s freshId a) v served → Handled net' st' (receive s freshId a) v' served' →
      v' = v ∧ served'.response = served.response) := by
  refine ⟨?_, ?_, ?_, ?_, ?_⟩
  · intro s backends st st' schedule result hst h
    obtain ⟨result', hresult', hverdict, -⟩ := comesTo_lockstep hnet hst s.request.requestId h
    exact ⟨result', hresult', hverdict⟩
  · intro hall s backends flight flight' result result' h h' hresult hresult'
    exact (verdict_eq_of_reaches hnet hall h h' hresult hresult').1
  · intro s backends st schedule result i x a h hx hread hlower hupper
    refine outcome_of_sent h hx hread ?_
    simp only [redirectStatuses, List.mem_cons, List.not_mem_nil, or_false]
    omega
  · intro s freshId a st st' v served hst h
    exact exists_handled_of_sharesHeads hnet hst h
  · intro hall s freshId a st st' v v' served served' h h'
    exact handled_eq_of_sharesHeads hnet hall h h'

-- ---------------------------------------------------------------------------
-- A server that reports an error, and one that stalls after it
-- ---------------------------------------------------------------------------

/-- The head of an answer that reports an error. -/
def errorHead : List UInt8 :=
  (Text.utf8 "HTTP/1.1 500 Oops\r\n\r\n").data.toList

/-- It comes with a body, or nothing follows it. -/
def errorReply (stalls : Bool) : Reply :=
  if stalls then .ofList (errorHead ++ []) .silent
  else .ofList (errorHead ++ (Text.utf8 "it broke").data.toList) .closed

theorem read_errorHead : Http.ResponseHead.read errorHead = .ok (⟨.http11, 500, []⟩, []) := by
  rw [Http.ResponseHead.read]
  unfold Http.readVersion
  rw [version_bytes]
  rfl

theorem read_errorReply (stalls : Bool) (method : String) :
    ∃ a, Client.Answer.read method (errorReply stalls) = .ok a ∧ a.status = 500 := by
  have hread (rest : List UInt8) (ending : Ending) :
      ∃ a, Client.Answer.read method (.ofList (errorHead ++ rest) ending) = .ok a ∧ a.status = 500 :=
    Client.Answer.exists_read_of_bare read_errorHead (by decide) (by decide) method rest ending
  cases stalls with
  | false => exact hread _ _
  | true => exact hread _ _

theorem sharesHeads_local : (localNetwork fun _ => errorReply false).SharesHeads
    (localNetwork fun _ => errorReply true) fun _ _ => True where
  listener_eq := rfl
  head := by
    rintro st st' - e d
    exact .head (.final read_errorHead (by decide)) _ _ _ _
  next := by
    rintro st st' - e d
    trivial

/-- A server that reports an error has been reached, and so has one that stalls after it. -/
theorem decided_by_heads_local :
    ((localNetwork fun _ => errorReply false).SharesHeads (localNetwork fun _ => errorReply true) fun _ _ => True) ∧
    ∃ result result', ComesTo (localNetwork fun _ => errorReply false) localSetting [localBackend] () localSchedule
        result ∧
      ComesTo (localNetwork fun _ => errorReply true) localSetting [localBackend] () localSchedule result' ∧
      result.verdict.outcomes[0]? = some (.relayed localBackend 500) ∧ result'.verdict = result.verdict := by
  obtain ⟨hlock, -, herror, -, -⟩ := decided_by_heads sharesHeads_local
  have hdone := isSome_local fun _ => errorReply false
  obtain ⟨result, hresult⟩ := Option.isSome_iff_exists.1 hdone
  obtain ⟨result', hresult', hverdict⟩ := hlock _ _ () () _ result trivial hresult
  have hbackend : [localBackend][0]? = some localBackend := rfl
  obtain ⟨first, hfirst⟩ := exists_request?_local fun _ => errorReply false
  rcases (trail_of_result? hdone hbackend).cases_start resolve_local with
    ⟨hnone, -⟩ | ⟨e, δ, st, rest, -, hsent, -⟩
  · rw [hfirst] at hnone
    cases hnone
  · obtain ⟨a, hread, hstatus⟩ := read_errorReply false δ.method
    obtain ⟨backend, hbackend', houtcome⟩ := herror _ _ () _ result 0 ⟨e, δ, errorReply false⟩ a hresult
      (hsent ▸ List.mem_cons_self) hread (by omega) (by omega)
    rw [hbackend] at hbackend'
    obtain rfl := Option.some.inj hbackend'
    rw [hstatus] at houtcome
    exact ⟨sharesHeads_local, result, result', hresult, hresult', houtcome, hverdict⟩

end Repeater.Server
