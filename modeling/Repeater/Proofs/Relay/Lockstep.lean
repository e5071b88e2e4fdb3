import Repeater.Proofs.Client.Heads
import Repeater.Proofs.Relay.Completion
import Repeater.Proofs.Relay.Trail

/-!
# Relays in lockstep

A request that is taken in carries an id for the journal. Two relays of one request that differ in this id only go
in lockstep: in every order of steps they send the same to the same servers, get the same back, and come to the
same outcomes and marks. So do two relays on networks that answer with the same heads. Only what the journal says of
them differs.

## Results

* `Flight.Matches.step`      — one step keeps two relays in lockstep;
* `Flight.Matches.trace_eq`  — servers read the same of both;
* `comesTo_lockstep`         — both come to the same verdict and the same marks.
-/

namespace Repeater.Relay

variable {σ σ' : Type} {net : Network σ} {net' : Network σ'} {Together : σ → σ' → Prop} {s : Setting} {id : String}
  {st : σ} {st' : σ'}

/-- The same, with another id for the journal. -/
def Setting.withId (s : Setting) (id : String) : Setting :=
  { s with request := { s.request with requestId := id } }

-- ---------------------------------------------------------------------------
-- One attempt
-- ---------------------------------------------------------------------------

/-- Two attempts of which the journal may say different things. -/
structure Attempt.Matches (a a' : Attempt) : Prop where
  outcome_eq : a'.outcome = a.outcome
  marks_eq : a'.marks = a.marks

/-- Two attempts that are equally far. -/
inductive Progress.Matches : Progress → Progress → Prop
  | sending (backend : String) (d : Destination) (h : Client.Hop) (target : Http.Target) (e : Endpoint) :
      Matches (.sending backend d h target e) (.sending backend d h target e)
  | finished {a a' : Attempt} (h : a.Matches a') : Matches (.finished a) (.finished a')

theorem Attempt.Matches.finish (backend : String) (d : Destination) (r : Except Client.Fault Client.Answer) :
    (Attempt.finish s backend d r).Matches (Attempt.finish (s.withId id) backend d r) := by
  cases r <;> exact ⟨rfl, rfl⟩

theorem Attempt.Matches.stillborn (backend : String) (fault : Fault) :
    (Attempt.stillborn s backend fault).Matches (Attempt.stillborn (s.withId id) backend fault) :=
  ⟨rfl, rfl⟩

theorem Attempt.Matches.unmade (backend : String) (d : Destination) (fault : Fault) :
    (Attempt.unmade s backend d fault).Matches (Attempt.unmade (s.withId id) backend d fault) :=
  ⟨rfl, rfl⟩

theorem Progress.Matches.ofExchange (backend : String) (d : Destination) {x x' : Client.Exchange} (h : x.Alike x') :
    (Progress.ofExchange s backend d x).Matches (Progress.ofExchange (s.withId id) backend d x') := by
  cases h with
  | refl =>
    cases x with
    | asking h target e => exact .sending backend d h target e
    | ended r => exact .finished (.finish backend d r)
  | answered hstatus => exact .finished ⟨congrArg (Outcome.relayed backend) hstatus, rfl⟩

theorem Progress.Matches.start (backend : String) :
    (Progress.start s backend).Matches (Progress.start (s.withId id) backend) := by
  have htarget : (s.withId id).request.target = s.request.target := rfl
  have hrequest (d : Destination) : d.request (s.withId id).request = d.request s.request := rfl
  unfold Progress.start
  rw [htarget]
  split
  · exact .finished (.stillborn backend _)
  · rw [hrequest]
    split
    · exact .finished (.unmade backend _ _)
    · exact ofExchange backend _ (.refl _)

/-- A step keeps two attempts equally far, and it leaves the servers in states that go together. -/
theorem Progress.Matches.step {p p' : Progress} (h : p.Matches p') (hnet : net.SharesHeads net' Together)
    (hst : Together st st') (s : Setting) (id : String) :
    (p.step net s st).1.Matches (p'.step net' (s.withId id) st').1 ∧
      Together (p.step net s st).2 (p'.step net' (s.withId id) st').2 := by
  cases h with
  | sending backend d hop target e =>
    obtain ⟨halike, hnext⟩ := hnet.contact hst s.policy hop target e
    exact ⟨ofExchange backend d (halike.resume s.policy hop), hnext⟩
  | finished ha => exact ⟨.finished ha, hst⟩

theorem Progress.Matches.record_eq {p p' : Progress} (h : p.Matches p') (st : σ) :
    p'.record net (s.withId id) st = p.record net s st := by
  cases h with
  | sending backend d hop target e => rfl
  | finished ha => rfl

-- ---------------------------------------------------------------------------
-- All attempts
-- ---------------------------------------------------------------------------

/-- Two relays in lockstep: but for the id, they are the same request, and their attempts are equally far. -/
structure Flight.Matches (id : String) (f f' : Flight) : Prop where
  setting_eq : f'.setting = f.setting.withId id
  progress : List.Forall₂ Progress.Matches f.progress f'.progress

variable {f f' : Flight} {backends : List String}

theorem Flight.Matches.start (s : Setting) (id : String) (backends : List String) :
    (Flight.start s backends).Matches id (Flight.start (s.withId id) backends) where
  setting_eq := rfl
  progress := by
    rw [Flight.start, Flight.start, List.forall₂_map_left_iff, List.forall₂_map_right_iff, List.forall₂_same]
    exact fun b _ => .start b

/-- The attempts at one position: there is none in either relay, or they are equally far. -/
theorem Flight.Matches.get (h : f.Matches id f') (i : Nat) :
    (f.progress[i]? = none ∧ f'.progress[i]? = none) ∨
      ∃ p p', f.progress[i]? = some p ∧ f'.progress[i]? = some p' ∧ p.Matches p' := by
  have hlength := h.progress.length_eq
  by_cases hi : i < f.progress.length
  · have hi' : i < f'.progress.length := hlength ▸ hi
    exact .inr ⟨_, _, List.getElem?_eq_getElem hi, List.getElem?_eq_getElem hi', h.progress.get hi hi'⟩
  · exact .inl ⟨List.getElem?_eq_none (Nat.le_of_not_lt hi), List.getElem?_eq_none (hlength ▸ Nat.le_of_not_lt hi)⟩

theorem forall₂_set_set {α β : Type} {R : α → β → Prop} {as : List α} {bs : List β} (h : List.Forall₂ R as bs)
    {a : α} {b : β} (hab : R a b) (i : Nat) : List.Forall₂ R (as.set i a) (bs.set i b) := by
  induction h generalizing i with
  | nil => exact .nil
  | cons hfirst hrest ih =>
    cases i with
    | zero => exact .cons hab hrest
    | succ i => exact .cons hfirst (ih i)

/-- **One step keeps two relays in lockstep**, and leaves the servers in states that go together. -/
theorem Flight.Matches.step (h : f.Matches id f') (hnet : net.SharesHeads net' Together) (hst : Together st st')
    (i : Nat) :
    (f.step net i st).1.Matches id (f'.step net' i st').1 ∧ Together (f.step net i st).2 (f'.step net' i st').2 := by
  rcases h.get i with ⟨hp, hp'⟩ | ⟨p, p', hp, hp', hmatch⟩
  · rw [Flight.step_of_none hp, Flight.step_of_none hp']
    exact ⟨h, hst⟩
  · obtain ⟨hnext, hstate⟩ := hmatch.step hnet hst f.setting id
    simp only [Flight.step, hp, hp', h.setting_eq]
    exact ⟨⟨rfl, forall₂_set_set h.progress hnext i⟩, hstate⟩

theorem Flight.Matches.run (h : f.Matches id f') (hnet : net.SharesHeads net' Together) (hst : Together st st')
    (schedule : List Nat) :
    (f.run net st schedule).1.Matches id (f'.run net' st' schedule).1 ∧
      Together (f.run net st schedule).2 (f'.run net' st' schedule).2 := by
  induction schedule generalizing f f' st st' with
  | nil => exact ⟨h, hst⟩
  | cons i r ih =>
    obtain ⟨hnext, hstate⟩ := h.step hnet hst i
    exact ih hnext hstate

/-- **Servers read the same of both**, in the same order, and answer the same. -/
theorem Flight.Matches.trace_eq (h : f.Matches id f') (st : σ) (schedule : List Nat) :
    f'.trace net st schedule = f.trace net st schedule := by
  induction schedule generalizing f f' st with
  | nil => rfl
  | cons i r ih =>
    obtain ⟨hnext, hstate⟩ := h.step (.refl net) (rfl : st = st) i
    rcases h.get i with ⟨hp, hp'⟩ | ⟨p, p', hp, hp', hmatch⟩
    · rw [Flight.trace, Flight.trace, Flight.step_of_none hp, Flight.step_of_none hp']
      dsimp only
      rw [ih h]
    · rw [Flight.trace, Flight.trace, Flight.step_recorded hp, Flight.step_recorded hp']
      dsimp only
      rw [← hstate, ih hnext, h.setting_eq, hmatch.record_eq]

-- ---------------------------------------------------------------------------
-- What it comes to
-- ---------------------------------------------------------------------------

theorem ofAttempts_matches {as as' : List Attempt} (h : List.Forall₂ Attempt.Matches as as') (id id' : String) :
    (Result.ofAttempts id' as').verdict = (Result.ofAttempts id as).verdict ∧
      (Result.ofAttempts id' as').marks = (Result.ofAttempts id as).marks := by
  have hboth : as'.map Attempt.outcome = as.map Attempt.outcome ∧
      as'.flatMap Attempt.marks = as.flatMap Attempt.marks := by
    induction h with
    | nil => exact ⟨rfl, rfl⟩
    | cons hfirst _ ih =>
      rw [List.map_cons, List.map_cons, List.flatMap_cons, List.flatMap_cons, ih.1, ih.2, hfirst.outcome_eq,
        hfirst.marks_eq]
      exact ⟨rfl, rfl⟩
  exact ⟨congrArg Verdict.mk hboth.1, hboth.2⟩

/-- Attempts that are at their end are matched by such. -/
theorem exists_finished_of_matches {as : List Attempt} {ps : List Progress}
    (h : List.Forall₂ Progress.Matches (as.map .finished) ps) :
    ∃ as', ps = as'.map .finished ∧ List.Forall₂ Attempt.Matches as as' := by
  rw [List.forall₂_map_left_iff] at h
  induction h with
  | nil => exact ⟨[], rfl, .nil⟩
  | cons hfirst _ ih =>
    obtain ⟨as', rfl, hrest⟩ := ih
    cases hfirst with
    | finished ha => exact ⟨_ :: as', rfl, .cons ha hrest⟩

/-- **Both come to the same verdict and the same marks**, in every order of steps. -/
theorem comesTo_lockstep (hnet : net.SharesHeads net' Together) (hst : Together st st') {schedule : List Nat}
    {result : Result} (id : String) (h : ComesTo net s backends st schedule result) :
    ∃ result', ComesTo net' (s.withId id) backends st' schedule result' ∧ result'.verdict = result.verdict ∧
      result'.marks = result.marks := by
  obtain ⟨as, has, rfl⟩ := comesTo_iff.1 h
  obtain ⟨⟨-, hprogress⟩, -⟩ := (Flight.Matches.start s id backends).run hnet hst schedule
  rw [has] at hprogress
  obtain ⟨as', has', hmatch⟩ := exists_finished_of_matches hprogress
  exact ⟨_, comesTo_iff.2 ⟨as', has', rfl⟩, ofAttempts_matches hmatch _ _⟩

/-- The attempts of a list, one after the other. -/
theorem attempts_withId (net : Network σ) (s : Setting) (id : String) (backends : List String) (st : σ) :
    List.Forall₂ Attempt.Matches (attempts net s backends st).1 (attempts net (s.withId id) backends st).1 ∧
      (attempts net (s.withId id) backends st).2 = (attempts net s backends st).2 := by
  have hone (b : String) (st : σ) : (attempt net s b st).1.Matches (attempt net (s.withId id) b st).1 ∧
      (attempt net (s.withId id) b st).2 = (attempt net s b st).2 := by
    have htarget : (s.withId id).request.target = s.request.target := rfl
    have hrequest (d : Destination) : d.request (s.withId id).request = d.request s.request := rfl
    have hpolicy : (s.withId id).policy = s.policy := rfl
    unfold attempt
    rw [htarget, hpolicy]
    split
    · exact ⟨.stillborn b _, rfl⟩
    · rw [hrequest]
      split
      · exact ⟨.unmade b _ _, rfl⟩
      · rcases Client.send net s.policy _ st with ⟨r, now⟩
        exact ⟨.finish b _ r, rfl⟩
  induction backends generalizing st with
  | nil => exact ⟨.nil, rfl⟩
  | cons b r ih =>
    obtain ⟨hfirst, hstate⟩ := hone b st
    obtain ⟨hrest, hlast⟩ := ih (attempt net s b st).2
    simp only [attempts, hstate]
    exact ⟨.cons hfirst hrest, hlast⟩

theorem fanout_withId (net : Network σ) (s : Setting) (id : String) (backends : List String) (st : σ) :
    (fanout net (s.withId id) backends st).2 = (fanout net s backends st).2 ∧
      (fanout net (s.withId id) backends st).1.verdict = (fanout net s backends st).1.verdict ∧
      (fanout net (s.withId id) backends st).1.marks = (fanout net s backends st).1.marks := by
  obtain ⟨hmatch, hstate⟩ := attempts_withId net s id backends st
  rw [fanout, fanout]
  exact ⟨hstate, ofAttempts_matches hmatch s.request.requestId id⟩

end Repeater.Relay
