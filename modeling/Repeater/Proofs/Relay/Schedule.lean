import Mathlib.Logic.Function.Iterate
import Repeater.Relay.Flight

/-!
# One after the other

A relay whose attempts go on side by side can take them one after the other: every attempt is at its end
after a bounded number of requests, because each redirect uses up one of those that are left. What it comes
to then is what `fanout` gives, so there is always an order of steps that leads to a result.

## Results

* `ended_of_iterate`       — an exchange is at its end after `maxRedirects + 1` requests;
* `exists_run_eq_fanout`   — one order of steps is that of the list.
-/

namespace Repeater

variable {σ : Type}

namespace Client

variable {net : Network σ} {p : Policy}

/-- An exchange that is at its end after `n` more requests. -/
def Exchange.IsWithin (n : Nat) : Exchange → Prop
  | .ended _ => True
  | .asking h _ _ => h.visited.length ≤ maxRedirects ∧ maxRedirects < n + h.visited.length

theorem isWithin_start {h : Hop} {n : Nat} (hle : h.visited.length ≤ maxRedirects)
    (hlt : maxRedirects < n + h.visited.length) : (Exchange.start h).IsWithin n := by
  unfold Exchange.start
  dsimp only
  split
  · split
    · exact ⟨hle, hlt⟩
    · trivial
  · trivial

theorem isWithin_first (r : Request) : (Exchange.start { request := r }).IsWithin (maxRedirects + 1) :=
  isWithin_start (Nat.zero_le _) (Nat.lt_succ_self _)

/-- Every answer that is a redirect uses up one request of those left. -/
theorem isWithin_resume {h : Hop} {n : Nat} (hlt : maxRedirects < n + 1 + h.visited.length) (c : Contact) :
    (Exchange.resume p h c).IsWithin n := by
  unfold Exchange.resume
  split
  · trivial
  · trivial
  · split
    · trivial
    · split
      · trivial
      · trivial
      · rename_i k hk
        obtain ⟨hlength, hle⟩ := Hop.length_visited_of_follow hk
        exact isWithin_start hle (by omega)

theorem isWithin_step {n : Nat} {x : Exchange} (h : x.IsWithin (n + 1)) (s : σ) :
    (x.step net p s).1.IsWithin n := by
  cases x with
  | ended r => trivial
  | asking hop target e => exact isWithin_resume h.2 _

/-- The steps of an exchange. -/
abbrev Exchange.next (net : Network σ) (p : Policy) (x : Exchange × σ) : Exchange × σ :=
  x.1.step net p x.2

/-- **An exchange is at its end in time**, and then has come to what `Exchange.run` gives. -/
theorem ended_of_iterate {n : Nat} {x : Exchange} (h : x.IsWithin n) (s : σ) :
    (Exchange.next net p)^[n] (x, s) =
      (.ended (Exchange.run net p n x s).1, (Exchange.run net p n x s).2) := by
  induction n generalizing x s with
  | zero =>
    cases x with
    | ended r => rfl
    | asking hop target e => exact absurd h.2 (Nat.not_lt.2 (by have := h.1; omega))
  | succ n ih =>
    rw [Function.iterate_succ_apply]
    have hwithin : (x.step net p s).1.IsWithin n := isWithin_step h s
    have hrest := ih hwithin (x.step net p s).2
    cases x with
    | ended r =>
      have hended (m : Nat) : Exchange.run net p m (.ended r) s = (r, s) := by
        cases m <;> rfl
      rw [hended]
      rw [Exchange.step, hended] at hrest
      exact hrest
    | asking hop target e => exact hrest

end Client

namespace Relay

variable {net : Network σ} {s : Setting}

/-- The steps of an attempt. -/
abbrev Progress.next (net : Network σ) (s : Setting) (p : Progress × σ) : Progress × σ :=
  p.1.step net s p.2

theorem Progress.step_ofExchange (backend : String) (d : Destination) (x : Client.Exchange) (st : σ) :
    (Progress.ofExchange s backend d x).step net s st =
      (.ofExchange s backend d (x.step net s.policy st).1, (x.step net s.policy st).2) := by
  cases x <;> rfl

theorem Progress.iterate_ofExchange (backend : String) (d : Destination) (n : Nat)
    (x : Client.Exchange) (st : σ) :
    (Progress.next net s)^[n] (.ofExchange s backend d x, st) =
      (.ofExchange s backend d ((Client.Exchange.next net s.policy)^[n] (x, st)).1,
        ((Client.Exchange.next net s.policy)^[n] (x, st)).2) := by
  induction n generalizing x st with
  | zero => rfl
  | succ n ih =>
    rw [Function.iterate_succ_apply, Function.iterate_succ_apply, ← ih]
    exact congrArg _ (step_ofExchange backend d x st)

theorem Progress.iterate_finished (a : Attempt) (n : Nat) (st : σ) :
    (Progress.next net s)^[n] (.finished a, st) = (.finished a, st) :=
  Function.iterate_fixed rfl n

/-- An attempt that is given its steps comes to what `attempt` gives. -/
theorem Progress.iterate_start (backend : String) (st : σ) :
    (Progress.next net s)^[Client.maxRedirects + 1] (.start s backend, st) =
      (.finished (attempt net s backend st).1, (attempt net s backend st).2) := by
  cases hd : Destination.resolve backend s.request.target with
  | error e =>
    simp only [Progress.start, attempt, hd]
    exact iterate_finished _ _ _
  | ok d =>
    cases hr : d.request s.request with
    | error e =>
      simp only [Progress.start, attempt, hd, hr]
      exact iterate_finished _ _ _
    | ok r =>
      simp only [Progress.start, attempt, hd, hr, iterate_ofExchange, Client.send]
      rw [Client.ended_of_iterate (Client.isWithin_first _)]
      generalize Client.Exchange.run net s.policy _ _ st = ending
      rfl

/-- Steps at one position are steps of the attempt there. -/
theorem Flight.run_replicate {f : Flight} {i : Nat} {p : Progress} (hp : f.progress[i]? = some p)
    (n : Nat) (st : σ) :
    f.run net st (List.replicate n i) =
      ({ f with progress := f.progress.set i ((Progress.next net f.setting)^[n] (p, st)).1 },
        ((Progress.next net f.setting)^[n] (p, st)).2) := by
  induction n generalizing f p st with
  | zero =>
    have hset : f.progress.set i p = f.progress := by
      obtain ⟨hi, rfl⟩ := List.getElem?_eq_some_iff.1 hp
      exact List.set_getElem_self hi
    simp [Flight.run, hset]
  | succ n ih =>
    have hi : i < f.progress.length := (List.getElem?_eq_some_iff.1 hp).1
    have hnext : f.step net i st =
        ({ f with progress := f.progress.set i (p.step net f.setting st).1 }, (p.step net f.setting st).2) := by
      simp only [Flight.step, hp]
    rw [List.replicate_succ, Flight.run, hnext]
    dsimp only
    rw [ih (List.getElem?_set_self hi)]
    simp [Function.iterate_succ_apply]

theorem Flight.run_append (f : Flight) (st : σ) (xs ys : List Nat) :
    f.run net st (xs ++ ys) = (f.run net st xs).1.run net (f.run net st xs).2 ys := by
  induction xs generalizing f st with
  | nil => rfl
  | cons x xs ih => exact ih _ _

/-- The attempts that are left can be taken one after the other. -/
theorem exists_run_attempts (net : Network σ) (s : Setting) (backends : List String) (done : List Attempt) (st : σ) :
    ∃ schedule, (Flight.mk s (done.map .finished ++ backends.map (Progress.start s))).run net st schedule =
      (⟨s, (done ++ (attempts net s backends st).1).map .finished⟩, (attempts net s backends st).2) := by
  induction backends generalizing done st with
  | nil => exact ⟨[], by simp [Flight.run, attempts]⟩
  | cons b r ih =>
    obtain ⟨schedule, hschedule⟩ := ih (done ++ [(attempt net s b st).1]) (attempt net s b st).2
    refine ⟨List.replicate (Client.maxRedirects + 1) done.length ++ schedule, ?_⟩
    have hfirst : (done.map Progress.finished ++ (b :: r).map (Progress.start s))[done.length]? =
        some (.start s b) := by simp
    rw [Flight.run_append, Flight.run_replicate hfirst, Progress.iterate_start]
    simpa [attempts] using hschedule

/-- A relay to one backend has a result after the steps of one attempt. -/
theorem isSome_result?_single (net : Network σ) (s : Setting) (backend : String) (st : σ) :
    ((Flight.start s [backend]).run net st
      (List.replicate (Client.maxRedirects + 1) 0)).1.result?.isSome = true := by
  have hfirst : (Flight.start s [backend]).progress[0]? = some (.start s backend) := rfl
  have hsetting : (Flight.start s [backend]).setting = s := rfl
  rw [Flight.run_replicate hfirst, hsetting, Progress.iterate_start]
  rfl

/-- **One order of steps is that of the list**, and it leads to the result of `fanout`. -/
theorem exists_run_eq_fanout (net : Network σ) (s : Setting) (backends : List String) (st : σ) :
    ∃ schedule, ((Flight.start s backends).run net st schedule).1.result? =
        some (fanout net s backends st).1 ∧
      ((Flight.start s backends).run net st schedule).2 = (fanout net s backends st).2 := by
  obtain ⟨schedule, hschedule⟩ := exists_run_attempts net s backends [] st
  refine ⟨schedule, ?_⟩
  rw [List.map_nil, List.nil_append, List.nil_append] at hschedule
  rw [Flight.start, hschedule]
  refine ⟨?_, rfl⟩
  have hall (as : List Attempt) : (as.map Progress.finished).mapM Progress.attempt? = some as := by
    induction as with
    | nil => rfl
    | cons a as ih => simp [Progress.attempt?, ih]
  rw [Flight.result?, hall]
  rfl

end Relay

end Repeater
