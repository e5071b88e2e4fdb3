import Repeater.Proofs.Relay.Completion
import Repeater.Proofs.Relay.Replay

/-!
# Attempts that keep apart

Servers may have nothing to do with one another: each answers by its own part of the state (`Network.Separate`).
A relay whose backends lead to different ones of them, and that none of them sends on, comes to what the relays
to each backend alone come to, in whatever order its attempts take steps.

## Results

* `Network.separate_scripted` — servers that answer by script have nothing to do with one another;
* `Setting.step_start`        — an attempt that is not sent on is at its end after one step;
* `Aligned.step`              — what every step keeps: an attempt is where it was, or at its end as if alone;
* `comesTo_alone`             — the outcomes, and what every server reads, are those of the single relays.
-/

namespace Repeater

open Http

variable {σ ι τ : Type}

/-- Servers that have nothing to do with one another. `server` says which one listens at an endpoint, and `own`
is the part of the state that is its own: it answers by that part, and leaves the parts of all others alone. -/
structure Network.Separate (net : Network σ) (server : Endpoint → ι) (own : ι → σ → τ) : Prop where
  answer_eq : ∀ (e : Endpoint) (d : Delivery) {st st' : σ}, own (server e) st = own (server e) st' →
    (net.serve e d st).1 = (net.serve e d st').1
  others_eq : ∀ (e : Endpoint) (d : Delivery) (st : σ) {i : ι}, i ≠ server e →
    own i (net.serve e d st).2 = own i st

/-- Servers that answer by script have nothing to do with one another: each goes by what it has read. -/
theorem Network.separate_scripted (locate : Endpoint → Option Nat) (script : Nat → Script) :
    (scripted locate script).Separate locate fun n t => (n.map t.at).getD [] where
  answer_eq e d t t' h := by
    simp only [scripted]
    cases hn : locate e with
    | none => rfl
    | some n =>
      have hat : t.at n = t'.at n := by simpa [hn] using h
      simp only [hat]
  others_eq e d t i hi := by
    simp only [scripted]
    cases hn : locate e with
    | none => rfl
    | some n =>
      cases i with
      | none => rfl
      | some m =>
        have hne : n ≠ m := by
          rintro rfl
          exact hi hn.symm
        simp [Traffic.at_append, Traffic.at_singleton, hne]

namespace Client

variable {net : Network σ} {p : Policy}

/-- An answer that the client follows to another place. -/
def Hop.Follows (h : Hop) (reply : Reply) : Prop :=
  ∃ a k, Answer.read h.request.method reply = .ok a ∧ h.next a = .follow k

theorem resume_of_not_follows {h : Hop} {reply : Reply} (hstands : ¬h.Follows reply) :
    ∃ r, Exchange.resume p h (.replied reply) = .ended r := by
  rw [Exchange.resume]
  cases hread : Answer.read h.request.method reply with
  | error e => exact ⟨_, rfl⟩
  | ok a =>
    dsimp only
    cases hnext : h.next a with
    | stands => exact ⟨_, rfl⟩
    | fault e => exact ⟨_, rfl⟩
    | follow k => exact absurd ⟨a, k, hread, hnext⟩ hstands

/-- What a request meets that no server reads does not depend on the state of the servers. -/
theorem exists_contact_of_none {h : Hop} {target : Target} {e : Endpoint}
    (hreq : (Exchange.asking h target e).request? net p = none) :
    ∃ c, ∀ s, contact net p h target e s = (c, s) := by
  simp only [contact_eq]
  by_cases haccepts : accepts net p h.request.url.scheme e = true
  · simp only [if_pos haccepts, contact.deliver]
    cases hwritten : h.written target with
    | whole d => rw [request?_asking.2 ⟨rfl, haccepts, hwritten⟩] at hreq; cases hreq
    | short => exact ⟨_, fun _ => rfl⟩
    | waiting => exact ⟨_, fun _ => rfl⟩
  · simp only [if_neg haccepts]
    exact ⟨_, fun _ => rfl⟩

end Client

namespace Relay

variable {net : Network σ} {server : Endpoint → ι} {own : ι → σ → τ} {s : Setting}

-- ---------------------------------------------------------------------------
-- One attempt
-- ---------------------------------------------------------------------------

/-- Where the request for a backend is taken, if a server takes it. -/
def Setting.place? (net : Network σ) (s : Setting) (backend : String) : Option Endpoint :=
  match Destination.resolve backend s.request.target with
  | .ok d => Client.server? net s.policy d.url
  | .error _ => none

/-- Two backends whose requests, if servers take both, are taken by different ones. -/
def Setting.Apart (net : Network σ) (server : Endpoint → ι) (s : Setting) (b b' : String) : Prop :=
  ∀ e e', s.place? net b = some e → s.place? net b' = some e' → server e ≠ server e'

/-- The answer to the request for a backend is no redirect that is followed. -/
def Setting.Stands (net : Network σ) (s : Setting) (st : σ) (backend : String) : Prop :=
  ∀ d e δ, Destination.resolve backend s.request.target = .ok d →
    (Client.Exchange.start (s.hop d)).request? net s.policy = some (e, δ) →
    ¬(s.hop d).Follows (net.serve e δ st).1

theorem Setting.Apart.symm {b b' : String} (h : s.Apart net server b b') : s.Apart net server b' b :=
  fun e e' he he' => (h e' e he' he).symm

/-- A request that is read is one for a destination, and it is read where that is. -/
theorem Progress.request?_start {backend : String} {e : Endpoint} {δ : Delivery}
    (h : (start s backend).request? net s = some (e, δ)) :
    s.place? net backend = some e ∧ ∃ d, Destination.resolve backend s.request.target = .ok d ∧
      start s backend = .ofExchange s backend d (.start (s.hop d)) ∧
      (Client.Exchange.start (s.hop d)).request? net s.policy = some (e, δ) := by
  rw [Setting.place?]
  cases hd : Destination.resolve backend s.request.target with
  | error fault =>
    simp only [start, hd] at h
    cases h
  | ok d =>
    have hrequest : (Client.Exchange.start (s.hop d)).request? net s.policy = some (e, δ) :=
      (request?_start_eq hd).symm.trans h
    have hplace : Client.server? net s.policy d.url = some e :=
      (Destination.server?_outgoing s.policy d s.request).symm.trans (Client.request?_start.1 hrequest).1
    exact ⟨hplace, d, rfl, start_of_request? hd hrequest, hrequest⟩

/-- An attempt whose request is not read is at its end after one step, whatever the state of the servers. -/
theorem Progress.exists_step_of_none {p : Progress} (h : p.request? net s = none) :
    ∃ a, ∀ st, p.step net s st = (.finished a, st) := by
  cases p with
  | finished a => exact ⟨a, fun _ => rfl⟩
  | sending backend d hop target e =>
    obtain ⟨c, hc⟩ := Client.exists_contact_of_none h
    by_cases hstate : Nonempty σ
    · obtain ⟨st₀⟩ := hstate
      obtain ⟨-, r, hended⟩ := Client.contact_of_none h st₀
      rw [hc] at hended
      refine ⟨.finish s backend d r, fun st => ?_⟩
      simp only [step, hc, resume, hended, ofExchange]
    · exact ⟨.stillborn s backend (.badRequest ""), fun st => absurd ⟨st⟩ hstate⟩

/-- An attempt that is not sent on is at its end after one step. -/
theorem Setting.step_start {backend : String} {st : σ} (h : s.Stands net st backend) :
    (Progress.start s backend).step net s st =
      (.finished (attempt net s backend st).1, (attempt net s backend st).2) := by
  have hended : ∃ a st', (Progress.start s backend).step net s st = (.finished a, st') := by
    cases hrequest : (Progress.start s backend).request? net s with
    | none =>
      obtain ⟨a, ha⟩ := Progress.exists_step_of_none hrequest
      exact ⟨a, st, ha st⟩
    | some x =>
      obtain ⟨e, δ⟩ := x
      obtain ⟨-, d, hd, hstart, hread⟩ := Progress.request?_start hrequest
      obtain ⟨r, hr⟩ := Client.resume_of_not_follows (p := s.policy) (h d e δ hd hread)
      rw [Progress.step_of_request? hrequest, hstart, resume_ofExchange hread, hr]
      exact ⟨_, _, rfl⟩
  obtain ⟨a, st', hstep⟩ := hended
  -- the steps that are left change nothing any more
  have hiterate : (Progress.next net s)^[Client.maxRedirects + 1] (.start s backend, st) = _ :=
    Progress.iterate_start backend st
  rw [Function.iterate_succ_apply, Progress.next, hstep, Progress.iterate_finished] at hiterate
  rw [hstep, hiterate]

/-- What an attempt comes to in its first step hangs on nothing but the server that it leads to. -/
theorem Setting.step_start_congr (hsep : net.Separate server own) {backend : String} {st st' : σ}
    (h : ∀ e, s.place? net backend = some e → own (server e) st' = own (server e) st) :
    ((Progress.start s backend).step net s st').1 = ((Progress.start s backend).step net s st).1 ∧
      (Progress.start s backend).record net s st' = (Progress.start s backend).record net s st := by
  cases hrequest : (Progress.start s backend).request? net s with
  | none =>
    obtain ⟨a, ha⟩ := Progress.exists_step_of_none hrequest
    simp only [ha, Progress.record, hrequest, and_self]
  | some x =>
    obtain ⟨e, δ⟩ := x
    have hreply := hsep.answer_eq e δ (h e (Progress.request?_start hrequest).1)
    simp only [Progress.step_of_request? hrequest, Progress.record, hrequest, hreply, and_self]

theorem Setting.own_step_start (hsep : net.Separate server own) {backend : String} (st : σ) {i : ι}
    (h : ∀ e, s.place? net backend = some e → i ≠ server e) :
    own i ((Progress.start s backend).step net s st).2 = own i st := by
  cases hrequest : (Progress.start s backend).request? net s with
  | none =>
    obtain ⟨a, ha⟩ := Progress.exists_step_of_none hrequest
    rw [ha]
  | some x =>
    obtain ⟨e, δ⟩ := x
    rw [Progress.step_of_request? hrequest]
    exact hsep.others_eq e δ st (h e (Progress.request?_start hrequest).1)

/-- What is read of an attempt in its first step is read where it leads to. -/
theorem Setting.place?_of_mem_record {backend : String} {st : σ} {x : Transfer}
    (h : x ∈ (Progress.start s backend).record net s st) : s.place? net backend = some x.endpoint := by
  rw [Progress.record] at h
  cases hrequest : (Progress.start s backend).request? net s with
  | none => simp [hrequest] at h
  | some y =>
    obtain ⟨e, δ⟩ := y
    rw [hrequest, List.mem_singleton] at h
    rw [h]
    exact (Progress.request?_start hrequest).1

-- ---------------------------------------------------------------------------
-- Attempts side by side
-- ---------------------------------------------------------------------------

/-- A relay under way: each attempt is where it was in the beginning, with its server as it was then, or it has
come to what it comes to alone. -/
structure Aligned (net : Network σ) (server : Endpoint → ι) (own : ι → σ → τ) (s : Setting)
    (backends : List String) (st : σ) (f : Flight) (now : σ) : Prop where
  setting_eq : f.setting = s
  length_eq : f.progress.length = backends.length
  progress : ∀ (i : Nat) (b : String), backends[i]? = some b →
    f.progress[i]? = some (Progress.finished (attempt net s b st).1) ∨
      f.progress[i]? = some (Progress.start s b) ∧
        ∀ e, s.place? net b = some e → own (server e) now = own (server e) st

variable {backends : List String} {st now : σ} {f : Flight}

theorem aligned_start : Aligned net server own s backends st (Flight.start s backends) st where
  setting_eq := rfl
  length_eq := List.length_map _
  progress i b hb := by
    refine .inr ⟨?_, fun _ _ => rfl⟩
    rw [Flight.start, List.getElem?_map, hb, Option.map_some]

theorem apart_of_pairwise (hapart : backends.Pairwise (s.Apart net server)) {i j : Nat} {b c : String}
    (hb : backends[i]? = some b) (hc : backends[j]? = some c) (hij : i ≠ j) : s.Apart net server b c := by
  obtain ⟨hi, rfl⟩ := List.getElem?_eq_some_iff.1 hb
  obtain ⟨hj, rfl⟩ := List.getElem?_eq_some_iff.1 hc
  rcases Nat.lt_or_gt_of_ne hij with hlt | hlt
  · exact List.pairwise_iff_getElem.1 hapart i j hi hj hlt
  · exact (List.pairwise_iff_getElem.1 hapart j i hj hi hlt).symm

/-- The step of one attempt leaves the servers of the others alone. -/
theorem Aligned.own_step (hsep : net.Separate server own) (hapart : backends.Pairwise (s.Apart net server))
    (h : Aligned net server own s backends st f now) {i j : Nat} (hij : i ≠ j) {b : String}
    (hb : backends[i]? = some b) {e : Endpoint} (he : s.place? net b = some e) :
    own (server e) (f.step net j now).2 = own (server e) now := by
  cases hp : f.progress[j]? with
  | none => rw [Flight.step_of_none hp]
  | some p =>
    have hj : j < backends.length := h.length_eq ▸ (List.getElem?_eq_some_iff.1 hp).1
    have hc : backends[j]? = some backends[j] := List.getElem?_eq_getElem hj
    simp only [Flight.step, hp, h.setting_eq]
    rcases h.progress j _ hc with hfinished | ⟨hstart, -⟩
    · obtain rfl := Option.some.inj (hp.symm.trans hfinished)
      rfl
    · obtain rfl := Option.some.inj (hp.symm.trans hstart)
      exact Setting.own_step_start hsep now fun e' he' => apart_of_pairwise hapart hb hc hij e e' he he'

theorem Flight.progress_run_of_notMem {i : Nat} {schedule : List Nat} (hi : i ∉ schedule) :
    (f.run net now schedule).1.progress[i]? = f.progress[i]? := by
  induction schedule generalizing f now with
  | nil => rfl
  | cons j r ih =>
    rw [Flight.run_cons, ih fun h => hi (List.mem_cons_of_mem j h), f.progress_step,
      if_neg fun h => hi (List.mem_cons.2 (.inl h.symm))]

theorem Flight.sent_of_finished {i : Nat} {a : Attempt} (h : f.progress[i]? = some (.finished a)) (now : σ)
    (schedule : List Nat) : f.sent net now schedule i = [] := by
  induction schedule generalizing f now with
  | nil => rfl
  | cons j r ih =>
    have hnext : (f.step net j now).1.progress[i]? = some (.finished a) := by
      rw [f.progress_step, h]
      split <;> rfl
    rw [Flight.sent_cons, ih hnext, List.append_nil]
    split
    · rename_i heq
      rw [heq, h]
      rfl
    · rfl

/-- An attempt that is at its end before anything is sent comes to nothing else. -/
theorem attempt_eq_of_start {b : String} {a : Attempt} (h : Progress.start s b = .finished a) (st : σ) :
    (attempt net s b st).1 = a := by
  have hiterate : (Progress.next net s)^[Client.maxRedirects + 1] (.start s b, st) = _ :=
    Progress.iterate_start b st
  rw [h, Progress.iterate_finished] at hiterate
  exact (Progress.finished.inj (congrArg Prod.fst hiterate)).symm

section Together

variable (hsep : net.Separate server own) (hapart : backends.Pairwise (s.Apart net server))
  (hstands : ∀ b ∈ backends, s.Stands net st b)

include hsep hapart hstands

/-- **What every step keeps.** -/
theorem Aligned.step (h : Aligned net server own s backends st f now) (j : Nat) :
    Aligned net server own s backends st (f.step net j now).1 (f.step net j now).2 where
  setting_eq := (f.setting_step j now).trans h.setting_eq
  length_eq := (f.length_run now [j]).trans h.length_eq
  progress i b hb := by
    have hnext : (f.step net j now).1.progress[i]? = _ := f.progress_step j i now
    rw [h.setting_eq] at hnext
    rcases h.progress i b hb with hfinished | ⟨hstart, hown⟩
    · left
      rw [hnext, hfinished]
      split <;> rfl
    · by_cases hji : j = i
      · left
        rw [hnext, if_pos hji, hstart, Option.map_some, (Setting.step_start_congr hsep hown).1,
          Setting.step_start (hstands b (List.mem_of_getElem? hb))]
      · right
        rw [hnext, if_neg hji]
        refine ⟨hstart, fun e he => ?_⟩
        rw [h.own_step hsep hapart (Ne.symm hji) hb he, hown e he]

/-- What is read of an attempt that has not begun is what is read of it alone, if it ever takes a step. -/
theorem Aligned.sent_eq (h : Aligned net server own s backends st f now) {i : Nat} {b : String}
    (hb : backends[i]? = some b) (hstart : f.progress[i]? = some (Progress.start s b))
    (hown : ∀ e, s.place? net b = some e → own (server e) now = own (server e) st) (schedule : List Nat) :
    f.sent net now schedule i = if i ∈ schedule then (Progress.start s b).record net s st else [] := by
  induction schedule generalizing f now with
  | nil => simp [Flight.sent, Flight.trace]
  | cons j r ih =>
    have hnext : (f.step net j now).1.progress[i]? = _ := f.progress_step j i now
    rw [h.setting_eq, hstart] at hnext
    rw [Flight.sent_cons]
    by_cases hji : j = i
    · rw [if_pos hji, Option.map_some, (Setting.step_start_congr hsep hown).1,
        Setting.step_start (hstands b (List.mem_of_getElem? hb))] at hnext
      rw [Flight.sent_of_finished hnext, if_pos hji, hji, hstart, Option.map_some, Option.getD_some, h.setting_eq,
        (Setting.step_start_congr hsep hown).2, List.append_nil, if_pos List.mem_cons_self]
    · rw [if_neg hji] at hnext
      have hown' : ∀ e, s.place? net b = some e → own (server e) (f.step net j now).2 = own (server e) st :=
        fun e he => (h.own_step hsep hapart (Ne.symm hji) hb he).trans (hown e he)
      rw [ih (h.step hsep hapart hstands j) hnext hown', if_neg hji, List.nil_append]
      simp only [List.mem_cons, Ne.symm hji, false_or]

/-- An attempt that has taken a step is at its end as if alone. -/
theorem Aligned.finished_of_mem (h : Aligned net server own s backends st f now) {i : Nat} {b : String}
    (hb : backends[i]? = some b) {schedule : List Nat} (hi : i ∈ schedule) :
    (f.run net now schedule).1.progress[i]? = some (.finished (attempt net s b st).1) := by
  induction schedule generalizing f now with
  | nil => cases hi
  | cons j r ih =>
    rw [Flight.run_cons]
    by_cases hr : i ∈ r
    · exact ih (h.step hsep hapart hstands j) hr
    · obtain rfl := (List.mem_cons.1 hi).resolve_right hr
      rw [Flight.progress_run_of_notMem hr]
      have hnext : (f.step net i now).1.progress[i]? = _ := f.progress_step i i now
      rw [if_pos rfl, h.setting_eq] at hnext
      rw [hnext]
      rcases h.progress i b hb with hfinished | ⟨hstart, hown⟩
      · rw [hfinished]
        rfl
      · rw [hstart, Option.map_some, (Setting.step_start_congr hsep hown).1,
          Setting.step_start (hstands b (List.mem_of_getElem? hb))]

-- ---------------------------------------------------------------------------
-- Relays that have come to a result
-- ---------------------------------------------------------------------------

variable {schedule : List Nat} {result : Result}

/-- **A relay comes to what its attempts come to alone.** -/
theorem result_eq_of_comesTo (h : ComesTo net s backends st schedule result) :
    result = .ofAttempts s.request.requestId (backends.map fun b => (attempt net s b st).1) := by
  obtain ⟨as, has, rfl⟩ := comesTo_iff.1 h
  congr 1
  refine List.ext_getElem? fun i => ?_
  have hfinal : ((Flight.start s backends).run net st schedule).1.progress[i]? = _ :=
    congrArg (fun l => l[i]?) has
  rw [List.getElem?_map] at hfinal ⊢
  cases hb : backends[i]? with
  | none =>
    have hnone : ((Flight.start s backends).run net st schedule).1.progress[i]? = none := by
      rw [List.getElem?_eq_none_iff, Flight.length_run, Flight.start, List.length_map]
      exact List.getElem?_eq_none_iff.1 hb
    rw [hnone] at hfinal
    exact Option.map_eq_none_iff.1 hfinal.symm
  | some b =>
    by_cases hi : i ∈ schedule
    · rw [aligned_start.finished_of_mem hsep hapart hstands hb hi] at hfinal
      obtain ⟨a, ha, heq⟩ := Option.map_eq_some_iff.1 hfinal.symm
      rw [ha, Progress.finished.inj heq]
      rfl
    · rw [Flight.progress_run_of_notMem hi, Flight.start, List.getElem?_map, hb] at hfinal
      obtain ⟨a, ha, heq⟩ := Option.map_eq_some_iff.1 hfinal.symm
      rw [ha, Option.map_some, attempt_eq_of_start heq.symm]

theorem isFailure_iff_of_comesTo (h : ComesTo net s backends st schedule result) :
    result.verdict.isFailure = true ↔ ∃ b ∈ backends, (attempt net s b st).1.outcome.isFailure = true := by
  rw [result_eq_of_comesTo hsep hapart hstands h, Verdict.isFailure_iff, Result.ofAttempts, List.map_map]
  constructor
  · rintro ⟨o, ho, hfailure⟩
    obtain ⟨b, hb, rfl⟩ := List.mem_map.1 ho
    exact ⟨b, hb, hfailure⟩
  · rintro ⟨b, hb, hfailure⟩
    exact ⟨_, List.mem_map.2 ⟨b, hb, rfl⟩, hfailure⟩

theorem sent_of_comesTo (h : ComesTo net s backends st schedule result) {i : Nat}
    {b : String} (hb : backends[i]? = some b) :
    (Flight.start s backends).sent net st schedule i = (Progress.start s b).record net s st := by
  have hstart : (Flight.start s backends).progress[i]? = some (Progress.start s b) := by
    rw [Flight.start, List.getElem?_map, hb, Option.map_some]
  have hsent := aligned_start.sent_eq hsep hapart hstands hb hstart (fun _ _ => rfl) schedule
  by_cases hi : i ∈ schedule
  · rw [hsent, if_pos hi]
  · rw [if_neg hi] at hsent
    have hdone : ((Flight.start s backends).run net st schedule).1.result?.isSome = true := by
      rw [h, Option.isSome_some]
    have hnone := (trail_of_result? hdone hb).eq_nil_iff.1 hsent
    rw [hsent, Progress.record, hnone]

/-- What one server reads while the attempts of a relay take steps. -/
def received [DecidableEq ι] (net : Network σ) (server : Endpoint → ι) (s : Setting) (backends : List String)
    (st : σ) (schedule : List Nat) (n : ι) : List Delivery :=
  (((Flight.start s backends).trace net st schedule).filter fun x => server x.2.endpoint = n).map
    fun x => x.2.delivery

/-- What is read anywhere is read where an attempt leads to. -/
theorem place?_of_mem_trace (h : ComesTo net s backends st schedule result)
    {x : Nat × Transfer} (hx : x ∈ (Flight.start s backends).trace net st schedule) :
    ∃ b, backends[x.1]? = some b ∧ s.place? net b = some x.2.endpoint := by
  have hi : x.1 < backends.length := by
    have hlt := Flight.lt_of_mem_trace hx
    rwa [Flight.start, List.length_map] at hlt
  refine ⟨backends[x.1], List.getElem?_eq_getElem hi, ?_⟩
  have hsent : x.2 ∈ (Flight.start s backends).sent net st schedule x.1 :=
    List.mem_map.2 ⟨x, List.mem_filter.2 ⟨hx, beq_self_eq_true x.1⟩, rfl⟩
  rw [sent_of_comesTo hsep hapart hstands h (List.getElem?_eq_getElem hi)] at hsent
  exact Setting.place?_of_mem_record hsent

variable [DecidableEq ι]

/-- **A server that a backend leads to reads what it reads of the attempt there alone.** -/
theorem received_of_place? (h : ComesTo net s backends st schedule result) {b : String}
    (hb : b ∈ backends) {e : Endpoint} (he : s.place? net b = some e) :
    received net server s backends st schedule (server e) =
      ((Progress.start s b).record net s st).map Transfer.delivery := by
  obtain ⟨i, hb⟩ := List.mem_iff_getElem?.1 hb
  rw [← sent_of_comesTo hsep hapart hstands h hb, received, Flight.sent, List.map_map]
  -- what this server reads is what is read of this attempt
  refine congrArg _ (List.filter_congr fun x hx => ?_)
  obtain ⟨c, hc, hplace⟩ := place?_of_mem_trace hsep hapart hstands h hx
  rw [Bool.eq_iff_iff, decide_eq_true_iff, beq_iff_eq]
  constructor
  · intro hserver
    by_contra hne
    exact apart_of_pairwise hapart hc hb hne _ _ hplace he hserver
  · rintro rfl
    rw [hb] at hc
    obtain rfl := Option.some.inj hc
    rw [Option.some.inj (hplace.symm.trans he)]

theorem received_eq_nil (h : ComesTo net s backends st schedule result) {n : ι}
    (hn : ∀ b ∈ backends, ∀ e, s.place? net b = some e → server e ≠ n) :
    received net server s backends st schedule n = [] := by
  rw [received, List.map_eq_nil_iff, List.filter_eq_nil_iff]
  intro x hx
  obtain ⟨b, hb, he⟩ := place?_of_mem_trace hsep hapart hstands h hx
  rw [decide_eq_true_iff]
  exact hn b (List.mem_of_getElem? hb) _ he

end Together

/-- **The relay to many backends is made of the relays to each of them.** Servers that have nothing to do with
one another answer; the backends lead to different ones, and no answer is a redirect that is followed. Then any
order in which every attempt takes a step leads to a result. In any order that does, each outcome is the one of
the relay to its backend alone, and each server reads what it reads then; the verdict is a failure exactly if one
of these is, however the list is arranged. -/
theorem comesTo_alone [DecidableEq ι] (hsep : net.Separate server own) (hapart : backends.Pairwise (s.Apart net server))
    (hstands : ∀ b ∈ backends, s.Stands net st b) (schedule : List Nat) :
    ((∀ i < backends.length, i ∈ schedule) → ∃ result, ComesTo net s backends st schedule result) ∧
    ∀ result, ComesTo net s backends st schedule result →
      result.verdict.outcomes.map Outcome.backend = backends ∧
      (∀ (i : Nat) b, backends[i]? = some b → ∀ alone r, ComesTo net s [b] st alone r →
        r.verdict.outcomes = result.verdict.outcomes[i]?.toList ∧
        ∀ e, s.place? net b = some e →
          received net server s backends st schedule (server e) = received net server s [b] st alone (server e)) ∧
      (∀ n, (∀ b ∈ backends, ∀ e, s.place? net b = some e → server e ≠ n) →
        received net server s backends st schedule n = []) ∧
      (result.verdict.isFailure = true ↔
        ∃ b ∈ backends, ∃ alone r, ComesTo net s [b] st alone r ∧ r.verdict.isFailure = true) ∧
      ∀ arranged order r, backends.Perm arranged → ComesTo net s arranged st order r →
        r.verdict.isFailure = result.verdict.isFailure := by
  have hsingle (b : String) : [b].Pairwise (s.Apart net server) := List.pairwise_singleton _ b
  have hstands' {b : String} (hb : b ∈ backends) : ∀ c ∈ [b], s.Stands net st c := by
    intro c hc
    rw [List.mem_singleton.1 hc]
    exact hstands b hb
  constructor
  · intro hall
    refine exists_comesTo_of_finished fun i hi => ?_
    exact ⟨_, aligned_start.finished_of_mem hsep hapart hstands (List.getElem?_eq_getElem hi) (hall i hi)⟩
  intro result h
  refine ⟨backends_of_comesTo h, ?_, fun n => received_eq_nil hsep hapart hstands h, ?_, ?_⟩
  · intro i b hb alone r hr
    have hmem : b ∈ backends := List.mem_of_getElem? hb
    constructor
    · rw [result_eq_of_comesTo hsep (hsingle b) (hstands' hmem) hr, result_eq_of_comesTo hsep hapart hstands h,
        Result.ofAttempts, Result.ofAttempts, List.getElem?_map, List.getElem?_map, hb]
      rfl
    · intro e he
      rw [received_of_place? hsep hapart hstands h hmem he,
        received_of_place? hsep (hsingle b) (hstands' hmem) hr List.mem_cons_self he]
  · rw [isFailure_iff_of_comesTo hsep hapart hstands h]
    refine exists_congr fun b => and_congr_right fun hb => ?_
    have hfailure {alone : List Nat} {r : Result} (hr : ComesTo net s [b] st alone r) :
        r.verdict.isFailure = true ↔ (attempt net s b st).1.outcome.isFailure = true := by
      rw [isFailure_iff_of_comesTo hsep (hsingle b) (hstands' hb) hr]
      simp only [List.mem_singleton, exists_eq_left]
    constructor
    · intro hfails
      obtain ⟨alone, hr, -⟩ := exists_run_eq_fanout net s [b] st
      exact ⟨alone, _, hr, (hfailure hr).2 hfails⟩
    · rintro ⟨alone, r, hr, hfails⟩
      exact (hfailure hr).1 hfails
  · intro arranged order r hperm hr
    have hapart' := (hperm.pairwise_iff Setting.Apart.symm).1 hapart
    have hstands'' : ∀ b ∈ arranged, s.Stands net st b := fun b hb => hstands b (hperm.mem_iff.2 hb)
    rw [Bool.eq_iff_iff, isFailure_iff_of_comesTo hsep hapart hstands h,
      isFailure_iff_of_comesTo hsep hapart' hstands'' hr]
    exact exists_congr fun b => and_congr_left fun _ => hperm.mem_iff.symm

-- ---------------------------------------------------------------------------
-- Two servers on the local machine
-- ---------------------------------------------------------------------------

/-- The number of the server at an endpoint. -/
def localNumber (e : Endpoint) : Option Nat :=
  if e = localEndpoint then some 0 else if e = { localEndpoint with port := 18402 } then some 1 else none

/-- An answer that stands. -/
def doneReply : Reply :=
  { bytes := Text.utf8 "HTTP/1.1 200 OK\r\n\r\n" }

/-- The first server answers, and the second one hangs up. -/
def localScript (n : Nat) : Script where
  reply _ _ := if n = 0 then doneReply else {}

/-- Both of them. -/
def localPair : Network Traffic :=
  .scripted localNumber localScript

/-- A backend for each of them, and one that leads nowhere. -/
def localBackends : List String :=
  [localBackend, "::not-a-url", "http://127.0.0.1:18402/"]

theorem resolve_nowhere (target : String) :
    Destination.resolve "::not-a-url" target =
      .error (.badBackend "::not-a-url" "relative URL without a base") :=
  rfl

/-- Where a request goes on the second server. -/
def secondDestination : Destination where
  authority := "127.0.0.1:18402"
  url := Url.withTarget "http".toList (some 18402) "/a".toList (.v4 ⟨127, 0, 0, 1⟩)

theorem resolve_second : Destination.resolve "http://127.0.0.1:18402/" localSetting.request.target =
    .ok secondDestination := by
  have hport : Url.usualPort? "http".toList ≠ some 18402 := by decide
  have hparse : Url.parse "http://127.0.0.1:18402/".toList = .ok (Destination.localUrl 18402) :=
    Destination.parse_local_port (t := ['/']) hport rfl
  obtain ⟨host, hweb, heq⟩ := Destination.resolve_eq hparse (.inl rfl)
    (show localSetting.request.target.toList.head? = some '/' from rfl)
  cases hweb.host_eq
  exact heq

theorem apart_local : localBackends.Pairwise (localSetting.Apart localPair localNumber) := by
  have hfirst : localSetting.place? localPair localBackend = some localEndpoint := by
    rw [Setting.place?, resolve_local]
    rfl
  have hnowhere : localSetting.place? localPair "::not-a-url" = none := by
    rw [Setting.place?, resolve_nowhere]
  have hsecond : localSetting.place? localPair "http://127.0.0.1:18402/" =
      some { localEndpoint with port := 18402 } := by
    rw [Setting.place?, resolve_second]
    rfl
  have hnumber : localNumber localEndpoint ≠ localNumber { localEndpoint with port := 18402 } := by decide
  rw [localBackends, List.pairwise_cons, List.pairwise_pair]
  refine ⟨fun b hb e e' he he' => ?_, fun e e' he _ => ?_⟩
  · rcases List.mem_pair.1 hb with rfl | rfl
    · rw [hnowhere] at he'
      cases he'
    · obtain rfl := Option.some.inj (hfirst.symm.trans he)
      obtain rfl := Option.some.inj (hsecond.symm.trans he')
      exact hnumber
  · rw [hnowhere] at he
    cases he

theorem read_done (method : String) : ∃ a, Client.Answer.read method doneReply = .ok a ∧ a.status = 200 := by
  have hhead : ResponseHead.read doneReply.bytes.data.toList = .ok (⟨.http11, 200, []⟩, []) := by
    rw [ResponseHead.read]
    unfold readVersion
    rw [version_bytes]
    rfl
  have hreply : doneReply = .ofList (doneReply.bytes.data.toList ++ []) .closed := by
    rw [List.append_nil]
    rfl
  rw [hreply]
  exact Client.Answer.exists_read_of_bare hhead (by decide) (by decide) method [] .closed

theorem stands_local : ∀ b ∈ localBackends, localSetting.Stands localPair [] b := by
  have hreply (e : Endpoint) (δ : Delivery) :
      (localPair.serve e δ []).1 = doneReply ∨ (localPair.serve e δ []).1 = {} := by
    cases hn : localNumber e with
    | none => simp [localPair, Network.scripted, hn]
    | some n => by_cases h : n = 0 <;> simp [localPair, Network.scripted, localScript, hn, h]
  rintro b - d e δ - - ⟨a, k, hread, hnext⟩
  rcases hreply e δ with h | h
  · obtain ⟨a', hread', hstatus⟩ := read_done (localSetting.hop d).request.method
    rw [h, hread'] at hread
    obtain rfl := Except.ok.inj hread
    -- an answer with this status names no other place
    rw [Client.Hop.next, hstatus] at hnext
    cases hnext
  · rw [h, Client.Answer.read_nothing] at hread
    cases hread

/-- A server that answers, a backend that is no URL, and a server that hangs up: the last one goes first. -/
theorem comesTo_alone_local :
    localBackends.Pairwise (localSetting.Apart localPair localNumber) ∧
    (∀ b ∈ localBackends, localSetting.Stands localPair [] b) ∧
    ∃ result, ComesTo localPair localSetting localBackends [] [2, 0, 1] result ∧
      result.verdict.outcomes.map Outcome.backend = localBackends ∧
      ∃ alone r, ComesTo localPair localSetting [localBackend] [] alone r ∧
        r.verdict.outcomes = result.verdict.outcomes[0]?.toList := by
  refine ⟨apart_local, stands_local, ?_⟩
  obtain ⟨hexists, hall⟩ := comesTo_alone (Network.separate_scripted localNumber localScript) apart_local
    stands_local [2, 0, 1]
  obtain ⟨result, h⟩ := hexists (by decide)
  obtain ⟨hbackends, halone, -⟩ := hall result h
  obtain ⟨alone, hr, -⟩ := exists_run_eq_fanout localPair localSetting [localBackend] []
  exact ⟨result, h, hbackends, alone, _, hr, (halone 0 localBackend rfl alone _ hr).1⟩

end Relay

end Repeater
