import Repeater.Proofs.Relay.Completion

/-!
# What the attempts of a relay count

An attempt at a backend whose URL leads nowhere, or for which no request can be made, counts nothing. Every other
one counts that the request was forwarded and that its time was taken, whatever the servers answer. This holds while
other things go on beside the relay, too: each step of an attempt may find the servers in any state
(`Flight.Reaches`).

Main results:

* `exists_attempts_of_reaches` — however a relay has come to its end, each attempt is one at its backend;
* `marks_of_reaches`           — what is counted depends on the request and the backends alone;
* `tellsTime_of_reaches`       — whose time was taken, and whose was not;
* `timed_of_reaches`           — the times that were taken are those of the outcomes that have one.
-/

namespace Repeater.Relay

variable {σ : Type} {net : Network σ} {s : Setting} {backend : String} {backends : List String}

-- ---------------------------------------------------------------------------
-- One attempt
-- ---------------------------------------------------------------------------

/-- What the attempt at a backend may come to: it never gets off the ground, for want of a destination or of a
request, or it is the end of an exchange. -/
inductive Attempt.IsAt (s : Setting) (backend : String) : Attempt → Prop
  | stillborn {e : Fault} (h : Destination.resolve backend s.request.target = .error e) :
      IsAt s backend (.stillborn s backend e)
  | unmade {d : Destination} {e : Fault} (h : Destination.resolve backend s.request.target = .ok d)
      (hmade : d.request s.request = .error e) : IsAt s backend (.unmade s backend d e)
  | finish {d : Destination} (h : Destination.resolve backend s.request.target = .ok d) (hhost : d.hasHost = true)
      (r : Except Client.Fault Client.Answer) : IsAt s backend (.finish s backend d r)

/-- How far the attempt at a backend may be. -/
inductive Progress.IsAt (s : Setting) (backend : String) : Progress → Prop
  | sending {d : Destination} (h : Destination.resolve backend s.request.target = .ok d) (hhost : d.hasHost = true)
      (hop : Client.Hop) (target : Http.Target) (e : Endpoint) : IsAt s backend (.sending backend d hop target e)
  | finished {a : Attempt} (h : a.IsAt s backend) : IsAt s backend (.finished a)

/-- A request that cannot be made is at fault itself, since its destination has no host. -/
theorem fault_of_request {d : Destination} {r : Intake} {e : Fault} (h : d.request r = .error e) :
    d.hasHost = false ∧ ∃ reason, e = .badRequest reason := by
  cases hhost : d.hasHost with
  | true =>
    rw [Destination.request_of_hasHost hhost] at h
    cases h
  | false =>
    rw [Destination.request_of_no_host hhost] at h
    cases h
    exact ⟨rfl, _, rfl⟩

theorem Progress.isAt_ofExchange {d : Destination} (h : Destination.resolve backend s.request.target = .ok d)
    (hhost : d.hasHost = true) (x : Client.Exchange) : (ofExchange s backend d x).IsAt s backend := by
  cases x with
  | asking hop target e => exact .sending h hhost hop target e
  | ended r => exact .finished (.finish h hhost r)

theorem Progress.isAt_start (s : Setting) (backend : String) : (start s backend).IsAt s backend := by
  rw [start]
  split
  · rename_i hresolve
    exact .finished (.stillborn hresolve)
  · rename_i d hresolve
    split
    · rename_i hmade
      exact .finished (.unmade hresolve hmade)
    · rename_i hmade
      have hhost : d.hasHost = true := by
        by_contra hnone
        rw [Destination.request_of_no_host (Bool.eq_false_iff.2 hnone)] at hmade
        cases hmade
      exact isAt_ofExchange hresolve hhost _

theorem Progress.IsAt.step {p : Progress} (h : p.IsAt s backend) (net : Network σ) (st : σ) :
    (p.step net s st).1.IsAt s backend := by
  induction h with
  | sending hresolve hhost hop target e => exact isAt_ofExchange hresolve hhost _
  | finished ha => exact .finished ha

/-- The authority to which a request with this target goes at a backend; none if it goes nowhere, or if no request
can be made for it. -/
def authority? (backend target : String) : Option String :=
  match Destination.resolve backend target with
  | .error _ => none
  | .ok d => if d.hasHost then some d.authority else none

/-- What the attempt at a backend counts. -/
def attemptMarks (backend target : String) : Tally :=
  match authority? backend target with
  | none => []
  | some authority => [.forwarded authority, .responseTime]

theorem inbound_notMem_attemptMarks (backend target : String) : Series.inbound ∉ attemptMarks backend target := by
  unfold attemptMarks
  split <;> simp

theorem Attempt.IsAt.marks_eq {a : Attempt} (h : a.IsAt s backend) :
    a.marks = attemptMarks backend s.request.target := by
  rw [attemptMarks, authority?]
  induction h with
  | stillborn hresolve =>
    rw [hresolve]
    rfl
  | unmade hresolve hmade =>
    simp only [hresolve, (fault_of_request hmade).1]
    rfl
  | finish hresolve hhost r =>
    simp only [hresolve, hhost]
    cases r <;> rfl

/-- A URL leads nowhere for one of two reasons. -/
theorem fault_of_resolve {target : String} {e : Fault} (h : Destination.resolve backend target = .error e) :
    ∃ reason, e = .badBackend backend reason ∨ e = .badRequest reason := by
  unfold Destination.resolve at h
  split at h
  · cases h
    exact ⟨_, .inl rfl⟩
  · split at h
    · cases h
      exact ⟨_, .inl rfl⟩
    · split at h <;> cases h
      exact ⟨_, .inr rfl⟩

/-- Why a backend was not reached. -/
def Outcome.fault? : Outcome → Option Fault
  | .relayed .. => none
  | .failed _ fault _ => some fault

/-- Whose time is taken: an outcome has none exactly if the URL of the backend or the request for it was at fault,
and a failure has one exactly if its fault is that of an exchange. -/
structure Outcome.TellsTime (o : Outcome) : Prop where
  untimed_iff : o.isTimed = false ↔
    (∃ backend reason, o.fault? = some (.badBackend backend reason)) ∨ ∃ reason, o.fault? = some (.badRequest reason)
  failed_timed_iff : o.isFailure = true ∧ o.isTimed = true ↔ ∃ fault, o.fault? = some (.transport fault)

theorem Attempt.IsAt.tellsTime {a : Attempt} (h : a.IsAt s backend) : a.outcome.TellsTime := by
  induction h with
  | stillborn hresolve =>
    obtain ⟨reason, rfl | rfl⟩ := fault_of_resolve hresolve
    · constructor <;> simp [Attempt.stillborn, Outcome.isTimed, Outcome.fault?]
    · constructor <;> simp [Attempt.stillborn, Outcome.isTimed, Outcome.fault?]
  | unmade hresolve hmade =>
    obtain ⟨-, reason, rfl⟩ := fault_of_request hmade
    constructor <;> simp [Attempt.unmade, Outcome.isTimed, Outcome.fault?]
  | finish hresolve hhost r =>
    cases r with
    | error fault => constructor <;> simp [Attempt.finish, Outcome.isTimed, Outcome.isFailure, Outcome.fault?]
    | ok answer => constructor <;> simp [Attempt.finish, Outcome.isTimed, Outcome.isFailure, Outcome.fault?]

/-- An attempt takes one time if its outcome has one, and none if it has none. -/
theorem Attempt.IsAt.count_responseTime {a : Attempt} (h : a.IsAt s backend) :
    List.count .responseTime a.marks = [a.outcome].countP Outcome.isTimed := by
  induction h with
  | stillborn hresolve => rfl
  | unmade hresolve hmade => rfl
  | finish hresolve hhost r => cases r <;> rfl

/-- One attempt at each of these backends, in order. -/
def AreAt (s : Setting) (as : List Attempt) (backends : List String) : Prop :=
  List.Forall₂ (fun a backend => Attempt.IsAt s backend a) as backends

theorem AreAt.marks_eq {as : List Attempt} (h : AreAt s as backends) :
    as.flatMap Attempt.marks = backends.flatMap fun b => attemptMarks b s.request.target := by
  induction h with
  | nil => rfl
  | cons hab _ ih => rw [List.flatMap_cons, List.flatMap_cons, hab.marks_eq, ih]

theorem AreAt.count_responseTime {as : List Attempt} (h : AreAt s as backends) :
    List.count .responseTime (as.flatMap Attempt.marks) = (as.map Attempt.outcome).countP Outcome.isTimed := by
  induction h with
  | nil => rfl
  | cons hab _ ih =>
    rw [List.flatMap_cons, List.count_append, ih, hab.count_responseTime, ← List.countP_append]
    rfl

-- ---------------------------------------------------------------------------
-- All of them, whatever else goes on
-- ---------------------------------------------------------------------------

/-- A relay whose attempts take steps while other things go on: each step finds the servers in some state. -/
inductive Flight.Reaches (net : Network σ) (f : Flight) : Flight → Prop
  | start : Reaches net f f
  | step {g : Flight} (h : Reaches net f g) (i : Nat) (st : σ) : Reaches net f (g.step net i st).1

/-- Attempts that take steps without anything else going on. -/
theorem Flight.reaches_run (f : Flight) (net : Network σ) (st : σ) (schedule : List Nat) :
    f.Reaches net (f.run net st schedule).1 := by
  have hfrom (g : Flight) (h : f.Reaches net g) : f.Reaches net (g.run net st schedule).1 := by
    induction schedule generalizing g st with
    | nil => exact h
    | cons i r ih => exact ih _ _ (h.step i st)
  exact hfrom f .start

theorem forall₂_set {α β : Type} {R : α → β → Prop} {as : List α} {bs : List β} (h : List.Forall₂ R as bs) {i : Nat}
    {a a' : α} (hi : as[i]? = some a) (hnew : ∀ b, R a b → R a' b) : List.Forall₂ R (as.set i a') bs := by
  induction h generalizing i with
  | nil => cases hi
  | cons hab hrest ih =>
    cases i with
    | zero =>
      obtain rfl := Option.some.inj hi
      exact .cons (hnew _ hab) hrest
    | succ i => exact .cons hab (ih hi)

/-- The attempts of a relay are at its backends, in order. -/
structure Flight.IsAt (s : Setting) (backends : List String) (f : Flight) : Prop where
  setting_eq : f.setting = s
  progress : List.Forall₂ (fun p backend => Progress.IsAt s backend p) f.progress backends

theorem Flight.isAt_start (s : Setting) (backends : List String) : (Flight.start s backends).IsAt s backends where
  setting_eq := rfl
  progress := by
    rw [Flight.start, List.forall₂_map_left_iff, List.forall₂_same]
    exact fun b _ => Progress.isAt_start s b

/-- What holds of every attempt and is kept by its steps still holds when a relay has gone on. -/
theorem Flight.Reaches.forall₂ {f g : Flight} {α : Type} {P : Progress → α → Prop} {xs : List α} (h : f.Reaches net g)
    (hstep : ∀ {p x}, P p x → ∀ st : σ, P (p.step net f.setting st).1 x) (hf : List.Forall₂ P f.progress xs) :
    g.setting = f.setting ∧ List.Forall₂ P g.progress xs := by
  induction h with
  | start => exact ⟨rfl, hf⟩
  | @step g _ i st ih =>
    obtain ⟨hsetting, hprogress⟩ := ih
    refine ⟨(g.setting_step i st).trans hsetting, ?_⟩
    cases hp : g.progress[i]? with
    | none =>
      rw [Flight.step_of_none hp]
      exact hprogress
    | some p =>
      simp only [Flight.step, hp, hsetting]
      exact forall₂_set hprogress hp fun x hx => hstep hx st

theorem Flight.Reaches.isAt {f g : Flight} (h : f.Reaches net g) (hf : f.IsAt s backends) : g.IsAt s backends := by
  obtain ⟨hsetting, hprogress⟩ := h.forall₂ (fun hp st => hf.setting_eq ▸ hp.step net st) hf.progress
  exact ⟨hsetting.trans hf.setting_eq, hprogress⟩

variable {flight : Flight} {result : Result}

/-- **However a relay has come to its end**, its result is that of one attempt at each of its backends. -/
theorem exists_attempts_of_reaches (h : (Flight.start s backends).Reaches net flight)
    (hresult : flight.result? = some result) :
    ∃ as, AreAt s as backends ∧ result = .ofAttempts s.request.requestId as := by
  obtain ⟨hsetting, hprogress⟩ := h.isAt (Flight.isAt_start s backends)
  obtain ⟨as, has, rfl⟩ := Flight.result?_eq_some_iff.1 hresult
  rw [has, List.forall₂_map_left_iff] at hprogress
  refine ⟨as, hprogress.imp fun a b hab => ?_, by rw [hsetting]⟩
  cases hab with
  | finished ha => exact ha

/-- **What is counted depends on the request and the backends alone.** -/
theorem marks_of_reaches (h : (Flight.start s backends).Reaches net flight) (hresult : flight.result? = some result) :
    result.marks = backends.flatMap fun b => attemptMarks b s.request.target := by
  obtain ⟨as, has, rfl⟩ := exists_attempts_of_reaches h hresult
  exact has.marks_eq

/-- **The times that were taken are those of the outcomes that have one.** -/
theorem timed_of_reaches (h : (Flight.start s backends).Reaches net flight) (hresult : flight.result? = some result) :
    List.count .responseTime result.marks = result.verdict.outcomes.countP Outcome.isTimed := by
  obtain ⟨as, has, rfl⟩ := exists_attempts_of_reaches h hresult
  exact has.count_responseTime

/-- **Whose time was taken, and whose was not.** -/
theorem tellsTime_of_reaches (h : (Flight.start s backends).Reaches net flight)
    (hresult : flight.result? = some result) {o : Outcome} (ho : o ∈ result.verdict.outcomes) : o.TellsTime := by
  obtain ⟨as, has, rfl⟩ := exists_attempts_of_reaches h hresult
  obtain ⟨a, ha, rfl⟩ := List.mem_map.1 ho
  obtain ⟨b, -, hab⟩ := Text.exists_of_mem_left has ha
  exact hab.tellsTime

end Repeater.Relay
