import Repeater.Proofs.Client.Exchange
import Repeater.Proofs.Text.Split
import Repeater.Relay.Flight

/-!
# What a relay puts on the wire

Servers that keep a record of what they read (`Network.recorded`) show what a relay sends, whatever the
order in which its attempts take steps. The steps of other attempts leave an attempt alone, so what is read
of one attempt is a trail of its own: a request, and after each answer perhaps another one (`Trail`).

## Results

* `Progress.step_recorded` — a record makes no difference;
* `trail_of_run`           — what is read of an attempt, in every order of steps;
* `Flight.lt_of_mem_trace` — nothing is read but of the attempts;
* `trail_of_result?`       — the trails of a relay that has a result.
-/

namespace Repeater

open Http

variable {σ : Type}

/-- A request that a server read, with what it sent. -/
structure Transfer where
  endpoint : Endpoint
  delivery : Delivery
  reply : Reply

/-- The same servers, with a record of what they read. -/
def Network.recorded (net : Network σ) : Network (σ × List Transfer) where
  listener := net.listener
  serve e d s :=
    let (reply, st) := net.serve e d s.1
    (reply, st, s.2 ++ [⟨e, d, reply⟩])

namespace Relay

/-- What servers read while attempts take steps, each request with the position of its attempt. -/
def Flight.trace (net : Network σ) (f : Flight) (st : σ) : List Nat → List (Nat × Transfer)
  | [] => []
  | i :: r =>
    let (f, st, sent) := f.step net.recorded i (st, [])
    sent.map (i, ·) ++ f.trace net st r

/-- What servers read of the attempt at one position. -/
def Flight.sent (net : Network σ) (f : Flight) (st : σ) (schedule : List Nat) (i : Nat) :
    List Transfer :=
  ((f.trace net st schedule).filter fun x => x.1 == i).map Prod.snd

-- ---------------------------------------------------------------------------
-- One step
-- ---------------------------------------------------------------------------

/-- The request that a server reads next of an attempt, and where it listens. -/
def Progress.request? (net : Network σ) (s : Setting) : Progress → Option (Endpoint × Delivery)
  | .sending _ _ h target e => (Client.Exchange.asking h target e).request? net s.policy
  | .finished _ => none

variable {net : Network σ} {s : Setting}

/-- An attempt whose request is read goes on with the answer. -/
theorem Progress.step_of_request? {p : Progress} {e : Endpoint} {d : Delivery}
    (h : p.request? net s = some (e, d)) (st : σ) :
    p.step net s st = (p.resume s (.replied (net.serve e d st).1), (net.serve e d st).2) := by
  cases p with
  | sending backend dest hop target e' =>
    rw [Progress.step, Client.contact_of_request? h st]
  | finished a => cases h

/-- An attempt whose request is not read, or that makes none, is at its end. -/
theorem Progress.step_of_none {p : Progress} (h : p.request? net s = none) (st : σ) :
    ∃ a, p.step net s st = (.finished a, st) := by
  cases p with
  | sending backend dest hop target e =>
    obtain ⟨hstate, r, hended⟩ := Client.contact_of_none h st
    refine ⟨.finish s backend dest r, ?_⟩
    rw [Progress.step]
    dsimp only
    rw [Progress.resume, hended, hstate, ofExchange]
  | finished a => exact ⟨a, rfl⟩

/-- What servers read in a step of an attempt. -/
def Progress.record (net : Network σ) (s : Setting) (p : Progress) (st : σ) : List Transfer :=
  match p.request? net s with
  | some (e, d) => [⟨e, d, (net.serve e d st).1⟩]
  | none => []

/-- A record makes no difference to an attempt, and it holds what servers read. -/
theorem Progress.step_recorded (p : Progress) (st : σ) :
    p.step net.recorded s (st, []) = ((p.step net s st).1, (p.step net s st).2, p.record net s st) := by
  cases p with
  | finished a => rfl
  | sending backend dest h target e =>
    have haccepts : Client.accepts net.recorded s.policy = Client.accepts net s.policy := rfl
    have hunmet : Client.unmet net.recorded = Client.unmet net := rfl
    simp only [Progress.step, Progress.record, Progress.request?, Client.Exchange.request?,
      Client.contact_eq, haccepts, hunmet]
    split
    · simp only [Client.contact.deliver]
      cases h.written target <;> rfl
    · rfl

/-- The same for the step of a relay. -/
theorem Flight.step_recorded {f : Flight} {i : Nat} {p : Progress} (hp : f.progress[i]? = some p)
    (st : σ) : f.step net.recorded i (st, []) =
      ((f.step net i st).1, (f.step net i st).2, p.record net f.setting st) := by
  simp only [Flight.step, hp, Progress.step_recorded]

/-- There is no attempt at a position behind the last one. -/
theorem Flight.step_of_none {f : Flight} {i : Nat} (hp : f.progress[i]? = none) (st : σ) :
    f.step net i st = (f, st) := by
  simp only [Flight.step, hp]

theorem Flight.setting_step (f : Flight) (i : Nat) (st : σ) : (f.step net i st).1.setting = f.setting := by
  unfold Flight.step
  split <;> rfl

/-- A step changes the attempt at its position, and no other. -/
theorem Flight.progress_step (f : Flight) (i j : Nat) (st : σ) :
    (f.step net i st).1.progress[j]? =
      if i = j then f.progress[j]?.map fun p => (p.step net f.setting st).1 else f.progress[j]? := by
  cases hp : f.progress[i]? with
  | none =>
    rw [step_of_none hp]
    split
    · rename_i heq
      rw [← heq, hp]
      rfl
    · rfl
  | some p =>
    simp only [Flight.step, hp, List.getElem?_set]
    split
    · rename_i heq
      have hlt : i < f.progress.length := (List.getElem?_eq_some_iff.1 hp).1
      rw [if_pos hlt, ← heq, hp]
      rfl
    · rfl

-- ---------------------------------------------------------------------------
-- A whole run
-- ---------------------------------------------------------------------------

/-- What servers read of one attempt until it is at its end: as long as a server reads its next request,
the attempt goes on with the answer. -/
inductive Trail (net : Network σ) (s : Setting) : Progress → List Transfer → Prop
  | done {p : Progress} (request : p.request? net s = none) : Trail net s p []
  | next {p : Progress} {e : Endpoint} {d : Delivery} {st : σ} {sent : List Transfer}
      (request : p.request? net s = some (e, d))
      (rest : Trail net s (p.resume s (.replied (net.serve e d st).1)) sent) :
      Trail net s p (⟨e, d, (net.serve e d st).1⟩ :: sent)

/-- A trail is empty, or it starts with the request that is read next. -/
theorem Trail.eq_nil_or_cons {p : Progress} {sent : List Transfer} (h : Trail net s p sent) :
    (p.request? net s = none ∧ sent = []) ∨
      ∃ e d st rest, p.request? net s = some (e, d) ∧ sent = ⟨e, d, (net.serve e d st).1⟩ :: rest ∧
        Trail net s (p.resume s (.replied (net.serve e d st).1)) rest := by
  cases h with
  | done hrequest => exact .inl ⟨hrequest, rfl⟩
  | next hrequest htail => exact .inr ⟨_, _, _, _, hrequest, rfl, htail⟩

/-- Every answer of a trail is what a server sent. -/
theorem Trail.reply_of_mem {p : Progress} {sent : List Transfer} (h : Trail net s p sent) {x : Transfer}
    (hx : x ∈ sent) : ∃ st, x.reply = (net.serve x.endpoint x.delivery st).1 := by
  induction h with
  | done _ => cases hx
  | next _ _ ih =>
    rcases List.mem_cons.1 hx with rfl | hx
    · exact ⟨_, rfl⟩
    · exact ih hx

/-- A trail is empty exactly if the attempt makes no request that is read. -/
theorem Trail.eq_nil_iff {p : Progress} {sent : List Transfer} (h : Trail net s p sent) :
    sent = [] ↔ p.request? net s = none := by
  rcases h.eq_nil_or_cons with ⟨hrequest, hsent⟩ | ⟨e, d, st, rest, hrequest, hsent, -⟩
  · exact iff_of_true hsent hrequest
  · exact iff_of_false (by simp [hsent]) (by simp [hrequest])

/-- What is read of one attempt in a first step and after it. -/
theorem Flight.sent_cons (f : Flight) (st : σ) (j : Nat) (r : List Nat) (i : Nat) :
    f.sent net st (j :: r) i =
      (if j = i then (f.progress[j]?.map fun p => p.record net f.setting st).getD [] else []) ++
        (f.step net j st).1.sent net (f.step net j st).2 r i := by
  have htagged (sent : List Transfer) :
      ((sent.map (j, ·)).filter fun x => x.1 == i).map Prod.snd = if j = i then sent else [] := by
    by_cases heq : j = i <;> simp [heq, List.filter_map, Function.comp_def]
  cases hp : f.progress[j]? with
  | none =>
    rw [Flight.sent, Flight.trace, step_of_none hp, step_of_none hp, Flight.sent]
    simp
  | some p =>
    rw [Flight.sent, Flight.trace, step_recorded hp, List.filter_append, List.map_append, htagged]
    rfl

theorem Flight.run_cons (f : Flight) (st : σ) (j : Nat) (r : List Nat) :
    f.run net st (j :: r) = (f.step net j st).1.run net (f.step net j st).2 r :=
  rfl

/-- **What is read of an attempt is a trail of its own**, in every order of steps that brings it to its
end. -/
theorem trail_of_run {f : Flight} {st : σ} {schedule : List Nat} {i : Nat} {p : Progress} {a : Attempt}
    (hp : f.progress[i]? = some p)
    (hdone : (f.run net st schedule).1.progress[i]? = some (.finished a)) :
    Trail net f.setting p (f.sent net st schedule i) := by
  -- each step either leaves the attempt alone or makes its next request
  induction schedule generalizing f st p with
  | nil =>
    obtain rfl := Option.some.inj (hp.symm.trans hdone)
    exact .done rfl
  | cons j r ih =>
    rw [Flight.run_cons] at hdone
    rw [Flight.sent_cons]
    have hnext : (f.step net j st).1.progress[i]? = _ := Flight.progress_step f j i st
    by_cases heq : j = i
    · rw [heq, if_pos rfl, hp, Option.map_some] at hnext
      rw [heq] at hdone ⊢
      have hrest := ih hnext hdone
      rw [Flight.setting_step] at hrest
      rw [if_pos rfl, hp, Option.map_some, Option.getD_some, Progress.record]
      cases hrequest : p.request? net f.setting with
      | none =>
        obtain ⟨b, hb⟩ := Progress.step_of_none hrequest st
        rw [hb] at hrest
        rw [hrest.eq_nil_iff.2 rfl]
        exact .done hrequest
      | some x =>
        obtain ⟨e, d⟩ := x
        rw [Progress.step_of_request? hrequest] at hrest
        exact .next hrequest hrest
    · rw [if_neg heq] at hnext
      rw [if_neg heq, List.nil_append]
      have hrest := ih (hnext.trans hp) hdone
      rwa [Flight.setting_step] at hrest

/-- Nothing is read but of the attempts. -/
theorem Flight.lt_of_mem_trace {f : Flight} {st : σ} {schedule : List Nat} {x : Nat × Transfer}
    (h : x ∈ f.trace net st schedule) : x.1 < f.progress.length := by
  induction schedule generalizing f st with
  | nil => cases h
  | cons j r ih =>
    cases hp : f.progress[j]? with
    | none =>
      rw [Flight.trace, step_of_none hp] at h
      exact ih h
    | some p =>
      rw [Flight.trace, step_recorded hp, List.mem_append] at h
      rcases h with h | h
      · obtain ⟨y, -, rfl⟩ := List.mem_map.1 h
        exact (List.getElem?_eq_some_iff.1 hp).1
      · have hlength : (f.step net j st).1.progress.length = f.progress.length := by
          simp only [Flight.step, hp, List.length_set]
        exact hlength ▸ ih h

theorem Flight.length_run (f : Flight) (st : σ) (schedule : List Nat) :
    (f.run net st schedule).1.progress.length = f.progress.length := by
  induction schedule generalizing f st with
  | nil => rfl
  | cons j r ih =>
    rw [run_cons, ih]
    cases hp : f.progress[j]? with
    | none => rw [step_of_none hp]
    | some p => simp only [Flight.step, hp, List.length_set]

/-- Once there is a result, every attempt is at its end. -/
theorem Flight.finished_of_result? {f : Flight} (h : f.result?.isSome = true) {i : Nat}
    (hi : i < f.progress.length) : ∃ a, f.progress[i]? = some (.finished a) := by
  rw [Flight.result?, Option.isSome_map] at h
  obtain ⟨as, has⟩ := Option.isSome_iff_exists.1 h
  obtain ⟨a, -, ha⟩ := Text.exists_of_mem_left (Text.mapM_eq_some_iff.1 has) (List.getElem_mem hi)
  refine ⟨a, ?_⟩
  rw [List.getElem?_eq_getElem hi]
  cases hp : f.progress[i] with
  | finished b =>
    rw [hp] at ha
    cases ha
    rfl
  | sending _ _ _ _ _ =>
    rw [hp] at ha
    cases ha

/-- **Once there is a result, what was read of every attempt is its whole trail.** -/
theorem trail_of_result? {backends : List String} {st : σ} {schedule : List Nat}
    (hdone : ((Flight.start s backends).run net st schedule).1.result?.isSome = true) {i : Nat}
    {backend : String} (hbackend : backends[i]? = some backend) :
    Trail net s (.start s backend) ((Flight.start s backends).sent net st schedule i) := by
  have hp : (Flight.start s backends).progress[i]? = some (.start s backend) := by
    rw [Flight.start, List.getElem?_map, hbackend, Option.map_some]
  have hi : i < ((Flight.start s backends).run net st schedule).1.progress.length := by
    rw [Flight.length_run]
    exact (List.getElem?_eq_some_iff.1 hp).1
  obtain ⟨a, ha⟩ := Flight.finished_of_result? hdone hi
  exact trail_of_run hp ha

end Relay

end Repeater
