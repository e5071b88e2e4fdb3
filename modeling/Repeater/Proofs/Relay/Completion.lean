import Mathlib.Data.Set.List
import Repeater.Proofs.Relay.Schedule
import Repeater.Proofs.Relay.Trail

/-!
# What a relay comes to

The attempts of a relay keep the order of its list, and each of them keeps its backend, whatever the servers
answer and in whatever order the attempts take steps. Every order that gives each attempt enough steps leads
to a result.

## Results

* `backends_of_comesTo`  — the outcomes name the backends of the list, in order;
* `exists_comesTo`       — every order with enough steps leads to a result.
-/

namespace Repeater.Relay

variable {σ : Type} {net : Network σ} {s : Setting}

/-- The attempts of a relay, taking steps in this order, have all come to their end, with this result. -/
def ComesTo (net : Network σ) (s : Setting) (backends : List String) (st : σ) (schedule : List Nat)
    (result : Result) : Prop :=
  ((Flight.start s backends).run net st schedule).1.result? = some result

theorem Flight.result?_eq_some_iff {f : Flight} {result : Result} :
    f.result? = some result ↔
      ∃ as, f.progress = as.map .finished ∧ .ofAttempts f.setting.request.requestId as = result := by
  have hfinished (p : Progress) (a : Attempt) : p.attempt? = some a ↔ p = .finished a := by
    cases p <;> simp [Progress.attempt?]
  have hall (as : List Attempt) :
      f.progress.mapM Progress.attempt? = some as ↔ f.progress = as.map .finished := by
    rw [Text.mapM_eq_some_iff]
    simp only [hfinished]
    rw [← List.forall₂_map_right_iff (f := Progress.finished), List.forall₂_eq_eq_eq]
  simp only [Flight.result?, Option.map_eq_some_iff, hall]

theorem Flight.setting_run (f : Flight) (st : σ) (schedule : List Nat) :
    (f.run net st schedule).1.setting = f.setting := by
  induction schedule generalizing f st with
  | nil => rfl
  | cons i r ih => rw [run_cons, ih, setting_step]

theorem comesTo_iff {backends : List String} {st : σ} {schedule : List Nat} {result : Result} :
    ComesTo net s backends st schedule result ↔
      ∃ as, ((Flight.start s backends).run net st schedule).1.progress = as.map .finished ∧
        .ofAttempts s.request.requestId as = result := by
  rw [ComesTo, Flight.result?_eq_some_iff, Flight.setting_run]
  rfl

-- ---------------------------------------------------------------------------
-- Each attempt keeps its backend
-- ---------------------------------------------------------------------------

/-- The backend of an attempt. -/
def Progress.backend : Progress → String
  | .sending backend .. => backend
  | .finished a => a.outcome.backend

theorem Attempt.backend_finish (backend : String) (d : Destination)
    (r : Except Client.Fault Client.Answer) : (finish s backend d r).outcome.backend = backend := by
  cases r <;> rfl

theorem Progress.backend_ofExchange (backend : String) (d : Destination) (x : Client.Exchange) :
    (ofExchange s backend d x).backend = backend := by
  cases x with
  | asking h target e => rfl
  | ended r => exact Attempt.backend_finish backend d r

theorem Progress.backend_start (backend : String) : (start s backend).backend = backend := by
  rw [start]
  split
  · rfl
  · split
    · rfl
    · exact backend_ofExchange backend _ _

theorem Progress.backend_step (p : Progress) (st : σ) : (p.step net s st).1.backend = p.backend := by
  cases p with
  | finished a => rfl
  | sending backend d h target e => exact backend_ofExchange backend d _

theorem Flight.backends_step (f : Flight) (i : Nat) (st : σ) :
    (f.step net i st).1.progress.map Progress.backend = f.progress.map Progress.backend := by
  refine List.ext_getElem? fun j => ?_
  rw [List.getElem?_map, List.getElem?_map, progress_step]
  split
  · rw [Option.map_map]
    congr 1
    funext p
    exact p.backend_step st
  · rfl

theorem Flight.backends_run (f : Flight) (st : σ) (schedule : List Nat) :
    (f.run net st schedule).1.progress.map Progress.backend = f.progress.map Progress.backend := by
  induction schedule generalizing f st with
  | nil => rfl
  | cons i r ih => rw [run_cons, ih, backends_step]

theorem Flight.backends_start (backends : List String) :
    (start s backends).progress.map Progress.backend = backends := by
  rw [start, List.map_map]
  exact (List.map_congr_left fun b _ => Progress.backend_start b).trans (List.map_id backends)

/-- The outcomes of a relay that has a result name the backends of its attempts. -/
theorem Flight.backends_of_result? {f : Flight} {result : Result} (h : f.result? = some result) :
    result.verdict.outcomes.map Outcome.backend = f.progress.map Progress.backend := by
  obtain ⟨as, has, rfl⟩ := result?_eq_some_iff.1 h
  rw [has, Result.ofAttempts, List.map_map, List.map_map]
  rfl

/-- **The outcomes name the backends of the list, in order.** -/
theorem backends_of_comesTo {backends : List String} {st : σ} {schedule : List Nat} {result : Result}
    (h : ComesTo net s backends st schedule result) :
    result.verdict.outcomes.map Outcome.backend = backends := by
  rw [Flight.backends_of_result? h, Flight.backends_run, Flight.backends_start]

-- ---------------------------------------------------------------------------
-- Enough steps
-- ---------------------------------------------------------------------------

/-- An attempt that is at its end after `n` more of its steps. -/
def Progress.IsWithin (n : Nat) : Progress → Prop
  | .sending _ _ h target e => (Client.Exchange.asking h target e).IsWithin n
  | .finished _ => True

theorem Progress.isWithin_ofExchange {n : Nat} {x : Client.Exchange} (h : x.IsWithin n) (backend : String)
    (d : Destination) : (ofExchange s backend d x).IsWithin n := by
  cases x with
  | asking hop target e => exact h
  | ended r => trivial

-- else the checks of types below would parse the URL
attribute [local irreducible] Client.Exchange.start in
theorem Progress.isWithin_start (backend : String) :
    (start s backend).IsWithin (Client.maxRedirects + 1) := by
  rw [start]
  split
  · trivial
  · split
    · trivial
    · exact isWithin_ofExchange (Client.isWithin_first _) backend _

theorem Progress.isWithin_step {n : Nat} {p : Progress} (h : p.IsWithin (n + 1)) (st : σ) :
    (p.step net s st).1.IsWithin n := by
  cases p with
  | finished a => trivial
  | sending backend d hop target e => exact isWithin_ofExchange (Client.isWithin_resume h.2 _) backend d

theorem Progress.IsWithin.mono {n m : Nat} {p : Progress} (h : p.IsWithin n) (hnm : n ≤ m) :
    p.IsWithin m := by
  cases p with
  | finished a => trivial
  | sending backend d hop target e =>
    have hleft : Client.maxRedirects < n + hop.visited.length := h.2
    exact ⟨h.1, by omega⟩

theorem Progress.IsWithin.finished {p : Progress} (h : p.IsWithin 0) : ∃ a, p = .finished a := by
  cases p with
  | finished a => exact ⟨a, rfl⟩
  | sending backend d hop target e =>
    have hle : hop.visited.length ≤ Client.maxRedirects := h.1
    have hlt : Client.maxRedirects < 0 + hop.visited.length := h.2
    omega

/-- An attempt that is given the steps it needs, among those of others, comes to its end. -/
theorem Flight.finished_of_isWithin {f : Flight} {i : Nat} {p : Progress} {schedule : List Nat}
    (hp : f.progress[i]? = some p) (h : p.IsWithin (schedule.count i)) (st : σ) :
    ∃ a, (f.run net st schedule).1.progress[i]? = some (.finished a) := by
  induction schedule generalizing f p st with
  | nil =>
    obtain ⟨a, rfl⟩ := h.finished
    exact ⟨a, hp⟩
  | cons j r ih =>
    have hnext : (f.step net j st).1.progress[i]? = _ := progress_step f j i st
    rw [hp, Option.map_some] at hnext
    rw [run_cons]
    by_cases heq : j = i
    · rw [if_pos heq] at hnext
      rw [heq, List.count_cons_self] at h
      exact ih hnext (Progress.isWithin_step h st) _
    · rw [if_neg heq] at hnext
      rw [List.count_cons_of_ne heq] at h
      exact ih hnext h _

theorem exists_comesTo_of_finished {backends : List String} {st : σ} {schedule : List Nat}
    (h : ∀ i < backends.length,
      ∃ a, ((Flight.start s backends).run net st schedule).1.progress[i]? = some (.finished a)) :
    ∃ result, ComesTo net s backends st schedule result := by
  have hlength : ((Flight.start s backends).run net st schedule).1.progress.length = backends.length := by
    rw [Flight.length_run]
    exact List.length_map _
  have hmem : ((Flight.start s backends).run net st schedule).1.progress ∈
      Set.range (List.map Progress.finished) := by
    rw [Set.range_list_map]
    intro p hp
    obtain ⟨i, hi, rfl⟩ := List.getElem_of_mem hp
    obtain ⟨a, ha⟩ := h i (hlength ▸ hi)
    rw [List.getElem?_eq_getElem hi] at ha
    exact ⟨a, (Option.some.inj ha).symm⟩
  obtain ⟨as, has⟩ := hmem
  exact ⟨_, comesTo_iff.2 ⟨as, has.symm, rfl⟩⟩

/-- **Every order with enough steps leads to a result**: for each attempt, one step more than the redirects
that are followed. -/
theorem exists_comesTo (net : Network σ) (s : Setting) {backends : List String} (st : σ) {schedule : List Nat}
    (h : ∀ i < backends.length, Client.maxRedirects < schedule.count i) :
    ∃ result, ComesTo net s backends st schedule result := by
  refine exists_comesTo_of_finished fun i hi => ?_
  have hp : (Flight.start s backends).progress[i]? = some (.start s backends[i]) := by
    rw [Flight.start, List.getElem?_map, List.getElem?_eq_getElem hi, Option.map_some]
  exact Flight.finished_of_isWithin hp ((Progress.isWithin_start _).mono (h i hi)) st

end Repeater.Relay
