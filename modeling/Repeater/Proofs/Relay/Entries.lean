import Repeater.Proofs.Relay.Attempts
import Repeater.Proofs.Relay.Independence

/-!
# What the journal says of a relay

Every attempt has one entry in the journal, which says how it ended. Where a backend reported an error, one entry
more is for the body of its answer; and where some backend was not reached, one entry sums the relay up. Nothing
else is written.

* `Outcome.IsEntered` — what the journal says of one attempt;
* `Verdict.IsSummed`  — what it says of all of them together.

Main results:

* `Attempt.IsAt.isEntered`    — an attempt enters its outcome, by whichever way it ended;
* `entered_once_of_reaches`   — the journal of a relay, in whatever order its attempts were entered.
-/

namespace Repeater.Relay

variable {σ : Type} {net : Network σ} {s : Setting} {backend : String} {backends : List String}

-- ---------------------------------------------------------------------------
-- What it should say
-- ---------------------------------------------------------------------------

/-- The messages on attempts that did not reach their backend. -/
def failureMessages : List String :=
  ["Failed to parse backend", "Failed to create request", "Proxy error"]

/-- The messages on the body of an answer. -/
def bodyMessages : List String :=
  ["Response body", "Failed to read response"]

/-- The status with which a backend answered. -/
def Outcome.status? : Outcome → Option Nat
  | .relayed _ status => some status
  | .failed .. => none

/-- The backend answered, and reported an error. -/
def Outcome.ReportsError (o : Outcome) : Prop :=
  ∃ status, o.status? = some status ∧ 400 ≤ status ∧ status ≤ 599

/-- An event says how an attempt with this outcome ended: as an error or not, with the status if there is one, and
with the fault if there is one. -/
structure Outcome.IsEntry (o : Outcome) (e : Journal.Event) : Prop where
  failure_iff : e.level = .error ∧ e.message ∈ failureMessages ↔ o.isFailure = true
  relayed_iff : e.level = .info ∧ e.message = "Proxied request" ↔ o.isFailure = false
  status_eq : e.fields.lookup "status" = o.status?.map toString
  error_eq : e.fields.lookup "error" = o.fault?.map Fault.message

/-- An event is on the body of the answer that led to this outcome. -/
structure Outcome.IsBodyEntry (o : Outcome) (e : Journal.Event) : Prop where
  level_eq : e.level = .info
  message_mem : e.message ∈ bodyMessages
  status_eq : e.fields.lookup "status" = o.status?.map toString

/-- Events enter an outcome: one says how the attempt ended, and one more is on the body of an answer that reports
an error. -/
inductive Outcome.IsEntered (o : Outcome) : List Journal.Event → Prop
  | bare {e : Journal.Event} (hentry : o.IsEntry e) (hnone : ¬o.ReportsError) : IsEntered o [e]
  | withBody {e e' : Journal.Event} (hentry : o.IsEntry e) (herror : o.ReportsError) (hbody : o.IsBodyEntry e') :
      IsEntered o [e, e']

/-- An event counts the failures of a relay to this many backends. -/
structure Verdict.IsSummary (v : Verdict) (backends : Nat) (e : Journal.Event) : Prop where
  level_eq : e.level = .warn
  message_eq : e.message = "Relay incomplete"
  backends_eq : e.fields.lookup "backends" = some (toString backends)
  failed_eq : e.fields.lookup "failed" = some (toString (v.outcomes.countP Outcome.isFailure))

/-- Events sum a relay up: one counts the failures if there are any. -/
inductive Verdict.IsSummed (v : Verdict) (backends : Nat) : List Journal.Event → Prop
  | complete (hall : ∀ o ∈ v.outcomes, o.isFailure = false) : IsSummed v backends []
  | incomplete {e : Journal.Event} (hsome : ∃ o ∈ v.outcomes, o.isFailure = true) (he : v.IsSummary backends e) :
      IsSummed v backends [e]

-- ---------------------------------------------------------------------------
-- What it says
-- ---------------------------------------------------------------------------

/-- One of the failure messages, on a failure. -/
theorem Outcome.isEntry_failed {fault : Fault} {timed : Bool} {e : Journal.Event} (hlevel : e.level = .error)
    (hmessage : e.message ∈ failureMessages) (hstatus : e.fields.lookup "status" = none)
    (herror : e.fields.lookup "error" = some fault.message) :
    (Outcome.failed backend fault timed).IsEntry e where
  failure_iff := by simp [hlevel, hmessage, isFailure]
  relayed_iff := by simp [hlevel, isFailure]
  status_eq := hstatus
  error_eq := herror

/-- The events on the body of an answer. -/
theorem Attempt.bodyEvents_cases (s : Setting) (backend authority : String) (a : Client.Answer) :
    let o := Outcome.relayed backend a.status
    (bodyEvents s authority a = [] ∧ ¬o.ReportsError) ∨
      ∃ e, bodyEvents s authority a = [e] ∧ o.ReportsError ∧ o.IsBodyEntry e := by
  intro o
  have herror : o.ReportsError ↔ Http.isErrorStatus a.status = true := by
    simp only [o, Outcome.ReportsError, Outcome.status?, Option.some.injEq, Http.isErrorStatus, Bool.and_eq_true,
      decide_eq_true_eq, exists_eq_left']
    omega
  rw [bodyEvents, herror]
  cases Http.isErrorStatus a.status with
  | false => exact .inl ⟨rfl, Bool.false_ne_true⟩
  | true =>
    right
    cases a.text? with
    | ok text => exact ⟨_, rfl, rfl, rfl, .head _, rfl⟩
    | error fault => exact ⟨_, rfl, rfl, rfl, .tail _ (.head _), rfl⟩

/-- **An attempt enters its outcome**, by whichever way it ended. -/
theorem Attempt.IsAt.isEntered {a : Attempt} (h : a.IsAt s backend) : a.outcome.IsEntered a.events := by
  have hfailed (fault : Fault) (timed : Bool) : ¬(Outcome.failed backend fault timed).ReportsError := by
    rintro ⟨status, hstatus, -⟩
    cases hstatus
  induction h with
  | stillborn hresolve => exact .bare (Outcome.isEntry_failed rfl (.head _) rfl rfl) (hfailed _ _)
  | unmade hresolve hmade => exact .bare (Outcome.isEntry_failed rfl (.tail _ (.head _)) rfl rfl) (hfailed _ _)
  | @finish d hresolve hhost r =>
    cases r with
    | error fault =>
      exact .bare (Outcome.isEntry_failed rfl (.tail _ (.tail _ (.head _))) rfl rfl) (hfailed _ _)
    | ok answer =>
      have hentry : (Outcome.relayed backend answer.status).IsEntry
          (s.event d.authority .info "Proxied request" [("status", toString answer.status)]) := by
        constructor
        · simp [Setting.event, Outcome.isFailure]
        · simp [Setting.event, Outcome.isFailure]
        · rfl
        · rfl
      rw [Attempt.finish]
      rcases bodyEvents_cases s backend d.authority answer with ⟨hnone, herror⟩ | ⟨e, hone, herror, hbody⟩
      · rw [hnone]
        exact .bare hentry herror
      · rw [hone]
        exact .withBody hentry herror hbody

/-- The summary of a relay. -/
theorem Verdict.isSummed (requestId : String) (v : Verdict) :
    v.IsSummed v.outcomes.length (incompleteEvents requestId v) := by
  rw [incompleteEvents]
  split
  · rename_i hfailure
    refine .incomplete (v.isFailure_iff.1 hfailure) ⟨rfl, rfl, rfl, ?_⟩
    rw [List.countP_eq_length_filter]
    rfl
  · rename_i hfailure
    refine .complete fun o ho => ?_
    rw [Bool.not_eq_true, isFailure, List.any_eq_false] at hfailure
    exact Bool.not_eq_true _ ▸ hfailure o ho

theorem AreAt.isEntered {as : List Attempt} (h : AreAt s as backends) :
    List.Forall₂ Outcome.IsEntered (as.map Attempt.outcome) (as.map Attempt.events) := by
  rw [List.forall₂_map_left_iff, List.forall₂_map_right_iff, List.forall₂_same]
  intro a ha
  obtain ⟨b, -, hab⟩ := Text.exists_of_mem_left h ha
  exact hab.isEntered

theorem AreAt.backends_eq {as : List Attempt} (h : AreAt s as backends) :
    (as.map Attempt.outcome).map Outcome.backend = backends := by
  have hbackend {a : Attempt} {b : String} (hab : a.IsAt s b) : a.outcome.backend = b := by
    cases hab with
    | stillborn hresolve => rfl
    | unmade hresolve hmade => rfl
    | finish hresolve hhost r => exact Attempt.backend_finish b _ r
  rw [List.map_map, ← List.forall₂_eq_eq_eq, List.forall₂_map_left_iff]
  exact List.Forall₂.imp (fun _ _ hab => hbackend hab) h

/-- **The journal of a relay**, however it has come to its end and in whatever order its events were written: each
backend has its entry, which is of the outcome there; a summary is there if it is due; and that is all. -/
theorem entered_once_of_reaches {flight : Flight} {result : Result} {journal : List Journal.Event}
    (h : (Flight.start s backends).Reaches net flight) (hresult : flight.result? = some result)
    (hjournal : journal.Perm result.events) :
    result.verdict.outcomes.map Outcome.backend = backends ∧
      ∃ entries summary, journal.Perm (entries.flatten ++ summary) ∧
        List.Forall₂ Outcome.IsEntered result.verdict.outcomes entries ∧
        result.verdict.IsSummed backends.length summary := by
  obtain ⟨as, has, rfl⟩ := exists_attempts_of_reaches h hresult
  refine ⟨has.backends_eq, as.map Attempt.events, _, hjournal, has.isEntered, ?_⟩
  have hlength : (as.map Attempt.outcome).length = backends.length := by
    rw [List.length_map]
    exact List.Forall₂.length_eq has
  rw [← hlength]
  exact Verdict.isSummed _ _

/-- A server that answers, a backend that is no URL, and a server that hangs up; what was written last is read
first. -/
theorem entered_once_local : ∃ schedule result,
    ((Flight.start localSetting localBackends).run localPair [] schedule).1.result? = some result ∧
      result.verdict.outcomes.map Outcome.backend = localBackends ∧
      ∃ entries summary, result.events.reverse.Perm (entries.flatten ++ summary) ∧
        List.Forall₂ Outcome.IsEntered result.verdict.outcomes entries ∧
        result.verdict.IsSummed 3 summary := by
  obtain ⟨schedule, hrun, -⟩ := exists_run_eq_fanout localPair localSetting localBackends []
  have hreaches := (Flight.start localSetting localBackends).reaches_run localPair [] schedule
  exact ⟨schedule, _, hrun, entered_once_of_reaches hreaches hrun (List.reverse_perm _)⟩

end Repeater.Relay
