import Repeater.Proofs.Relay.Attempts
import Repeater.Proofs.Relay.Lockstep

/-!
# A relay goes by the heads of its answers

A backend whose answer has a head has been relayed to, whatever becomes of the body: the outcome holds the status,
and the body is for the journal alone. So two relays on networks that answer with the same heads come to the same
verdict. Where the heads depend on nothing but the requests, they do so in whatever order each of them makes its
requests.

* `Progress.Takes` — how far an attempt is after so many requests of its own.

Main results:

* `relayed_of_sent`         — an answer that names no other place is the outcome, with its status;
* `verdict_eq_of_reaches`   — two relays on such networks come to the same verdict, each in an order of its own.
-/

namespace Repeater.Relay

variable {σ σ' : Type} {net : Network σ} {net' : Network σ'} {Together : σ → σ' → Prop} {s : Setting}
  {backends : List String}

-- ---------------------------------------------------------------------------
-- An answer that stands
-- ---------------------------------------------------------------------------

/-- The statuses by which an answer names another place. -/
def redirectStatuses : List Nat :=
  [301, 302, 303, 307, 308]

theorem next_of_stands {h : Client.Hop} {a : Client.Answer} (hstatus : a.status ∉ redirectStatuses) :
    h.next a = .stands := by
  have hnone : Client.Hop.restated a.status h.request = none := by
    rw [← Option.not_isSome_iff_eq_none, Client.restated_isSome]
    exact hstatus
  rw [Client.Hop.next, hnone]

/-- The attempt that reads such an answer has been relayed, with the status of the answer. -/
theorem Progress.step_of_stands {p : Progress} {e : Endpoint} {d : Delivery} {st : σ} {a : Client.Answer}
    (hrequest : p.request? net s = some (e, d)) (hread : Client.Answer.read d.method (net.serve e d st).1 = .ok a)
    (hstatus : a.status ∉ redirectStatuses) :
    ∃ b, (p.step net s st).1 = .finished b ∧ b.outcome = .relayed p.backend a.status := by
  rw [step_of_request? hrequest]
  cases p with
  | finished b => cases hrequest
  | sending backend dest hop target e' =>
    obtain ⟨-, -, hwritten⟩ := Client.request?_asking.1 hrequest
    have hmethod : d.method = hop.request.method := (Client.delivery_of_written hwritten).1
    rw [hmethod] at hread
    refine ⟨.finish s backend dest (.ok a), ?_, rfl⟩
    simp only [resume, Client.Exchange.resume, hread, next_of_stands hstatus, ofExchange]

/-- An attempt that is at its end stays there. -/
theorem Flight.progress_run_of_finished {f : Flight} {i : Nat} {a : Attempt}
    (h : f.progress[i]? = some (.finished a)) (st : σ) (schedule : List Nat) :
    (f.run net st schedule).1.progress[i]? = some (.finished a) := by
  induction schedule generalizing f st with
  | nil => exact h
  | cons j r ih =>
    rw [run_cons]
    refine ih ?_ _
    rw [progress_step, h]
    split <;> rfl

/-- **An answer that names no other place is the outcome**, with its status, whatever its body is. -/
theorem relayed_of_sent {f : Flight} {st : σ} {schedule : List Nat} {i : Nat} {x : Transfer} {a : Client.Answer}
    (hx : x ∈ f.sent net st schedule i) (hread : Client.Answer.read x.delivery.method x.reply = .ok a)
    (hstatus : a.status ∉ redirectStatuses) :
    ∃ p b, f.progress[i]? = some p ∧ (f.run net st schedule).1.progress[i]? = some (.finished b) ∧
      b.outcome = .relayed p.backend a.status := by
  induction schedule generalizing f st with
  | nil => cases hx
  | cons j r ih =>
    rw [Flight.sent_cons, List.mem_append] at hx
    rw [Flight.run_cons]
    have hnext : (f.step net j st).1.progress[i]? = _ := Flight.progress_step f j i st
    rcases hx with hx | hx
    · -- the answer is read in this step, and the attempt is at its end
      split at hx
      · rename_i hj
        rw [hj] at hx hnext ⊢
        cases hp : f.progress[i]? with
        | none =>
          rw [hp] at hx
          cases hx
        | some p =>
          rw [hp, Option.map_some, Option.getD_some, Progress.record] at hx
          rw [if_pos rfl, hp, Option.map_some] at hnext
          cases hrequest : p.request? net f.setting with
          | none =>
            rw [hrequest] at hx
            cases hx
          | some ed =>
            obtain ⟨e, d⟩ := ed
            rw [hrequest] at hx
            obtain rfl := List.mem_singleton.1 hx
            obtain ⟨b, hb, houtcome⟩ := Progress.step_of_stands hrequest hread hstatus
            rw [hb] at hnext
            exact ⟨p, b, rfl, Flight.progress_run_of_finished hnext _ _, houtcome⟩
      · cases hx
    · obtain ⟨q, b, hq, hb, houtcome⟩ := ih hx
      rw [hq] at hnext
      split at hnext
      · obtain ⟨p, hp, hstep⟩ := Option.map_eq_some_iff.1 hnext.symm
        rw [← hstep, Progress.backend_step] at houtcome
        exact ⟨p, b, hp, hb, houtcome⟩
      · exact ⟨q, b, hnext.symm, hb, houtcome⟩

/-- The same for the outcomes of a relay that has come to its end. -/
theorem outcome_of_sent {st : σ} {schedule : List Nat} {result : Result}
    (h : ComesTo net s backends st schedule result) {i : Nat} {x : Transfer} {a : Client.Answer}
    (hx : x ∈ (Flight.start s backends).sent net st schedule i)
    (hread : Client.Answer.read x.delivery.method x.reply = .ok a) (hstatus : a.status ∉ redirectStatuses) :
    ∃ backend, backends[i]? = some backend ∧
      result.verdict.outcomes[i]? = some (.relayed backend a.status) := by
  obtain ⟨p, b, hp, hb, houtcome⟩ := relayed_of_sent hx hread hstatus
  rw [Flight.start, List.getElem?_map] at hp
  obtain ⟨backend, hbackend, rfl⟩ := Option.map_eq_some_iff.1 hp
  rw [Progress.backend_start] at houtcome
  obtain ⟨as, has, rfl⟩ := comesTo_iff.1 h
  rw [has, List.getElem?_map] at hb
  obtain ⟨b', hb', heq⟩ := Option.map_eq_some_iff.1 hb
  cases heq
  refine ⟨backend, hbackend, ?_⟩
  rw [Result.ofAttempts, List.getElem?_map, hb', Option.map_some, houtcome]

-- ---------------------------------------------------------------------------
-- Each relay in an order of its own
-- ---------------------------------------------------------------------------

/-- An attempt after so many requests of its own, each of which may find the servers in any state. -/
inductive Progress.Takes (net : Network σ) (s : Setting) (p : Progress) : Nat → Progress → Prop
  | start : Takes net s p 0 p
  | step {n : Nat} {q : Progress} (h : Takes net s p n q) (st : σ) : Takes net s p (n + 1) (q.step net s st).1

theorem Progress.Matches.refl (p : Progress) : p.Matches p := by
  cases p with
  | sending backend d hop target e => exact .sending backend d hop target e
  | finished a => exact .finished ⟨rfl, rfl⟩

theorem Progress.Matches.symm {p p' : Progress} (h : p.Matches p') : p'.Matches p := by
  cases h with
  | sending backend d hop target e => exact .sending backend d hop target e
  | finished ha => exact .finished ⟨ha.outcome_eq.symm, ha.marks_eq.symm⟩

section

variable {p p' q q' : Progress} {n m : Nat} (hnet : net.SharesHeads net' Together)
  (hall : ∀ st st', Together st st') (hp : p.Matches p')

include hnet hall hp

/-- After as many requests, the two attempts are equally far. -/
theorem Progress.Takes.matches (h : p.Takes net s n q) (h' : p'.Takes net' s n q') : q.Matches q' := by
  induction n generalizing q q' with
  | zero =>
    cases h
    cases h'
    exact hp
  | succ n ih =>
    cases h with
    | step h st =>
      cases h' with
      | step h' st' => exact ((ih h h').step hnet (hall st st') s s.request.requestId).1

/-- After more of them, the other is at the end if the one is. -/
theorem Progress.Takes.finished_of_le {a : Attempt} (h : p.Takes net s n (.finished a)) (h' : p'.Takes net' s m q')
    (hle : n ≤ m) : ∃ a', q' = .finished a' ∧ a.Matches a' := by
  induction h' with
  | start =>
    obtain rfl : n = 0 := Nat.le_zero.1 hle
    cases h with
    | start =>
      cases hp with
      | finished ha => exact ⟨_, rfl, ha⟩
  | @step m q' h' st' ih =>
    rcases Nat.lt_or_eq_of_le hle with hlt | rfl
    · obtain ⟨a', rfl, ha⟩ := ih (Nat.lt_succ_iff.1 hlt)
      exact ⟨a', rfl, ha⟩
    · have hmatch := Takes.matches hnet hall hp h (.step h' st')
      generalize (q'.step net' s st').1 = q at hmatch
      cases hmatch with
      | finished ha => exact ⟨_, rfl, ha⟩

end

/-- Two attempts that are at their end came to the same, in however many requests. -/
theorem Progress.Takes.attempt_matches {p p' : Progress} {n m : Nat} {a a' : Attempt}
    (hnet : net.SharesHeads net' Together) (hall : ∀ st st', Together st st') (hp : p.Matches p')
    (h : p.Takes net s n (.finished a)) (h' : p'.Takes net' s m (.finished a')) : a.Matches a' := by
  rcases Nat.le_total n m with hle | hle
  · obtain ⟨b, hb, hmatch⟩ := h.finished_of_le hnet hall hp h' hle
    cases hb
    exact hmatch
  · obtain ⟨b, hb, hmatch⟩ := h'.finished_of_le hnet.symm (fun st st' => hall st' st) hp.symm h hle
    cases hb
    exact ⟨hmatch.outcome_eq.symm, hmatch.marks_eq.symm⟩

theorem forall₂_of_common {α α' β : Type} {R : α → β → Prop} {R' : α' → β → Prop} {S : α → α' → Prop} {as : List α}
    {as' : List α'} {bs : List β} (h : List.Forall₂ R as bs) (h' : List.Forall₂ R' as' bs)
    (hboth : ∀ a a' b, R a b → R' a' b → S a a') : List.Forall₂ S as as' := by
  induction h generalizing as' with
  | nil =>
    cases h'
    exact .nil
  | cons hfirst _ ih =>
    cases h' with
    | cons hfirst' hrest' => exact .cons (hboth _ _ _ hfirst hfirst') (ih hrest')

/-- Each attempt of a relay has made so many requests of its own. -/
theorem Flight.Reaches.takes {flight : Flight} (h : (Flight.start s backends).Reaches net flight) :
    List.Forall₂ (fun p b => ∃ n, (Progress.start s b).Takes net s n p) flight.progress backends := by
  refine (h.forall₂ ?_ ?_).2
  · rintro p b ⟨n, hn⟩ st
    exact ⟨n + 1, hn.step st⟩
  · rw [Flight.start, List.forall₂_map_left_iff, List.forall₂_same]
    exact fun b _ => ⟨0, .start⟩

/-- **Two relays on networks that answer every request with the same head come to the same verdict**, in whatever
order each of them makes its requests, and whatever else goes on beside it. -/
theorem verdict_eq_of_reaches (hnet : net.SharesHeads net' Together) (hall : ∀ st st', Together st st')
    {flight flight' : Flight} {result result' : Result} (h : (Flight.start s backends).Reaches net flight)
    (h' : (Flight.start s backends).Reaches net' flight') (hresult : flight.result? = some result)
    (hresult' : flight'.result? = some result') :
    result'.verdict = result.verdict ∧ result'.marks = result.marks := by
  obtain ⟨as, has, rfl⟩ := Flight.result?_eq_some_iff.1 hresult
  obtain ⟨as', has', rfl⟩ := Flight.result?_eq_some_iff.1 hresult'
  have htakes := h.takes
  have htakes' := h'.takes
  rw [has, List.forall₂_map_left_iff] at htakes
  rw [has', List.forall₂_map_left_iff] at htakes'
  refine ofAttempts_matches (forall₂_of_common htakes htakes' ?_) _ _
  rintro a a' b ⟨n, hn⟩ ⟨m, hm⟩
  exact hn.attempt_matches hnet hall (.refl _) hm

end Repeater.Relay
