import Repeater.Proofs.Relay.Attempts
import Repeater.Proofs.Server.Guard
import Repeater.Proofs.Server.Replayed
import Repeater.Proofs.Server.Session

/-!
# What a server counts

A server keeps totals of what its requests count. What one request counts is settled when it comes in: by its
route, by whether its body can be taken in, and by the roster (`Dealing.marks`). So the totals of a run can be
told from its requests, whatever the servers behind it answer, however the attempts of all relays take turns, and
in whatever order the marks are made.

## Results

* `value_addTo`       — the totals count the marks that were made;
* `Dealing.marks_eq`  — what one request counts;
* `exists_serves`     — the server's own way of answering is such a run;
* `totals_balance`    — the totals of a run.
-/

namespace Repeater

-- ---------------------------------------------------------------------------
-- Totals
-- ---------------------------------------------------------------------------

namespace Tally

/-- The total of a series. -/
def value (totals : List (Series × Nat)) (x : Series) : Nat :=
  (totals.lookup x).getD 0

/-- Whether a series counts what was forwarded to some backend. -/
def isForwarded : Series → Bool
  | .forwarded _ => true
  | .inbound | .responseTime => false

/-- The total of all series that count what was forwarded. -/
def forwardedTotal (totals : List (Series × Nat)) : Nat :=
  ((totals.filter fun p => isForwarded p.1).map Prod.snd).sum

theorem value_cons (u : Series) (n : Nat) (r : List (Series × Nat)) (x : Series) :
    value ((u, n) :: r) x = if u = x then n else value r x := by
  rw [value, List.lookup_cons]
  by_cases hux : u = x
  · simp [hux]
  · rw [beq_eq_false_iff_ne.2 (Ne.symm hux), if_neg hux]
    rfl

theorem value_mark (x y : Series) (totals : List (Series × Nat)) :
    value (mark x totals) y = value totals y + if x = y then 1 else 0 := by
  induction totals with
  | nil =>
    rw [mark, value_cons]
    exact (Nat.zero_add _).symm
  | cons p r ih =>
    obtain ⟨u, n⟩ := p
    rw [mark]
    by_cases hux : u = x
    · rw [if_pos hux, value_cons, value_cons, hux]
      split <;> rfl
    · rw [if_neg hux, value_cons, value_cons, ih]
      by_cases huy : u = y
      · have hxy : x ≠ y := fun h => hux (huy.trans h.symm)
        rw [if_pos huy, if_neg hxy, if_pos huy]
        rfl
      · rw [if_neg huy, if_neg huy]

theorem forwardedTotal_mark (x : Series) (totals : List (Series × Nat)) :
    forwardedTotal (mark x totals) = forwardedTotal totals + if isForwarded x = true then 1 else 0 := by
  induction totals with
  | nil => cases x <;> rfl
  | cons p r ih =>
    obtain ⟨u, n⟩ := p
    unfold forwardedTotal at ih ⊢
    rw [mark]
    by_cases hux : u = x
    · rw [if_pos hux, hux]
      cases hx : isForwarded x <;> simp [hx]
      omega
    · rw [if_neg hux]
      cases hu : isForwarded u with
      | false => simpa [hu] using ih
      | true =>
        simp only [List.filter_cons, hu, if_true, List.map_cons, List.sum_cons, ih]
        omega

/-- **The totals count the marks that were made.** -/
theorem value_addTo (totals : List (Series × Nat)) (marks : Tally) (x : Series) :
    value (addTo totals marks) x = value totals x + marks.countP (· == x) := by
  induction marks generalizing totals with
  | nil => rfl
  | cons y r ih =>
    have hstep : addTo totals (y :: r) = addTo (mark y totals) r := rfl
    rw [hstep, ih, value_mark, List.countP_cons]
    simp only [beq_iff_eq]
    omega

theorem forwardedTotal_addTo (totals : List (Series × Nat)) (marks : Tally) :
    forwardedTotal (addTo totals marks) = forwardedTotal totals + marks.countP isForwarded := by
  induction marks generalizing totals with
  | nil => rfl
  | cons y r ih =>
    have hstep : addTo totals (y :: r) = addTo (mark y totals) r := rfl
    rw [hstep, ih, forwardedTotal_mark, List.countP_cons]
    omega

end Tally

/-- Two lists that are made piece by piece count the same if their pieces do. -/
theorem countP_flatMap_eq {α β γ : Type} {l : List α} {f : α → List β} {g : α → List γ} {p : β → Bool} {q : γ → Bool}
    (h : ∀ a ∈ l, (f a).countP p = (g a).countP q) : (l.flatMap f).countP p = (l.flatMap g).countP q := by
  rw [List.countP_flatMap, List.countP_flatMap]
  exact congrArg List.sum (List.map_congr_left h)

-- ---------------------------------------------------------------------------
-- What one request counts
-- ---------------------------------------------------------------------------

namespace Server

open Relay

variable {σ : Type} {net : Network σ}

/-- What becomes of a request while others are answered, too: the attempts of a relay find the servers in some
state whenever they take a step. -/
inductive Answered (net : Network σ) (r : Reception) : Option Verdict → Served → Prop
  | told {served : Served} {roster : Roster} (hplan : r.plan = .told served roster) :
      Answered net r none (r.respond served)
  | relayed {setting : Setting} {backends : List String} {flight : Flight} {result : Result}
      (hplan : r.plan = .relay setting backends) (hreaches : (Flight.start setting backends).Reaches net flight)
      (hresult : flight.result? = some result) :
      Answered net r (some result.verdict) (r.respond (Server.relayed setting backends result))

theorem Handled.answered {st : σ} {r : Reception} {v : Option Verdict} {served : Served}
    (h : Handled net st r v served) : Answered net r v served := by
  cases h with
  | told hplan => exact .told hplan
  | relayed hplan hresult => exact .relayed hplan (Flight.reaches_run _ net st _) hresult

theorem Answered.of_told {r : Reception} {v : Option Verdict} {served refusal : Served} {roster : Roster}
    (h : Answered net r v served) (hplan : r.plan = .told refusal roster) : v = none ∧ served = r.respond refusal := by
  cases h with
  | told hplan' =>
    cases hplan.symm.trans hplan'
    exact ⟨rfl, rfl⟩
  | relayed hplan' => cases hplan.symm.trans hplan'

theorem Answered.of_relay {r : Reception} {v : Option Verdict} {served : Served} {setting : Setting}
    {backends : List String} (h : Answered net r v served) (hplan : r.plan = .relay setting backends) :
    ∃ flight result, (Flight.start setting backends).Reaches net flight ∧ flight.result? = some result ∧
      v = some result.verdict ∧ served = r.respond (Server.relayed setting backends result) := by
  cases h with
  | told hplan' => cases hplan.symm.trans hplan'
  | relayed hplan' hreaches hresult =>
    cases hplan.symm.trans hplan'
    exact ⟨_, _, hreaches, hresult, rfl, rfl⟩

/-- A request, the server that received it, and what became of it. -/
structure Dealing where
  server : Server
  freshId : String
  arrival : Arrival
  verdict? : Option Verdict
  served : Served

namespace Dealing

/-- Whether a request goes to the relay, be it accepted there or not. -/
def isForRelay (d : Dealing) : Bool :=
  (route d.server.admin.dynamicBackends d.arrival.method d.arrival.target.path).isRelay

/-- What the relay sends requests for. -/
def target (d : Dealing) : String :=
  String.ofList (d.arrival.target.pathAndQuery?.getD ['/'])

/-- A request that is relayed, paired with each backend of the roster. -/
def pairs (d : Dealing) : List (String × String) :=
  if d.isForRelay = true ∧ Fits bodyLimit d.arrival.body then d.server.roster.entries.map fun b => (b, d.target)
  else []

/-- The outcomes of a request; none if it was not relayed. -/
def outcomes (d : Dealing) : List Outcome :=
  (d.verdict?.map Verdict.outcomes).getD []

/-- What a request counts: itself if it goes to the relay, and what it is at each backend. -/
def marks (d : Dealing) : Tally :=
  (if d.isForRelay = true then [.inbound] else []) ++ d.pairs.flatMap fun p => attemptMarks p.1 p.2

/-- A dealing of a server in the course of a run. -/
def IsAnswered (net : Network σ) (d : Dealing) : Prop :=
  Answered net (receive d.server d.freshId d.arrival) d.verdict? d.served

/-- A request is answered at once, with nothing to count but itself, or it is relayed to the end. -/
theorem IsAnswered.cases {d : Dealing} (h : d.IsAnswered net) :
    (d.pairs = [] ∧ d.outcomes = [] ∧ d.served.marks = if d.isForRelay = true then [.inbound] else []) ∨
    ∃ setting flight result, d.isForRelay = true ∧
      d.pairs = d.server.roster.entries.map (fun b => (b, setting.request.target)) ∧
      (Flight.start setting d.server.roster.entries).Reaches net flight ∧ flight.result? = some result ∧
      d.outcomes = result.verdict.outcomes ∧ d.served.marks = .inbound :: result.marks := by
  obtain ⟨s, freshId, a, v, served⟩ := d
  have hanswered : Answered net (receive s freshId a) v served := h
  by_cases hroute : (route s.admin.dynamicBackends a.method a.target.path).isRelay = true
  · by_cases hfits : Fits bodyLimit a.body
    · obtain ⟨setting, hplan, -, -, -, htarget⟩ := setting_of_fits hroute hfits freshId
      obtain ⟨flight, result, hreaches, hresult, rfl, rfl⟩ := hanswered.of_relay hplan
      refine .inr ⟨setting, flight, result, hroute, ?_, hreaches, hresult, rfl, rfl⟩
      rw [htarget]
      exact if_pos ⟨hroute, hfits⟩
    · obtain ⟨e, hplan⟩ := plan_of_not_fits hroute hfits freshId
      obtain ⟨rfl, rfl⟩ := hanswered.of_told hplan
      exact .inl ⟨if_neg fun h => hfits h.2, rfl, (if_pos hroute).symm⟩
  · obtain ⟨refusal, roster, hplan, hmarks⟩ := plan_of_not_relay (Bool.eq_false_iff.2 hroute) freshId
    obtain ⟨rfl, rfl⟩ := hanswered.of_told hplan
    exact .inl ⟨if_neg fun h => hroute h.1, rfl, hmarks.trans (if_neg hroute).symm⟩

/-- **What one request counts** is settled when it comes in. -/
theorem IsAnswered.marks_eq {d : Dealing} (h : d.IsAnswered net) : d.served.marks = d.marks := by
  rcases h.cases with ⟨hpairs, -, hmarks⟩ | ⟨setting, flight, result, hroute, hpairs, hreaches, hresult, -, hmarks⟩
  · rw [hmarks, marks, hpairs, List.flatMap_nil, List.append_nil]
  · rw [hmarks, marks, hpairs, if_pos hroute, marks_of_reaches hreaches hresult, List.flatMap_map]
    rfl

/-- The times that a request counts are those of its outcomes. -/
theorem IsAnswered.timed {d : Dealing} (h : d.IsAnswered net) :
    d.served.marks.countP (· == .responseTime) = d.outcomes.countP Outcome.isTimed := by
  rcases h.cases with ⟨-, houtcomes, hmarks⟩ | ⟨setting, flight, result, -, -, hreaches, hresult, houtcomes, hmarks⟩
  · rw [hmarks, houtcomes]
    split <;> rfl
  · rw [hmarks, houtcomes, ← timed_of_reaches hreaches hresult]
    show List.count .responseTime (.inbound :: result.marks) = _
    exact List.count_cons_of_ne (by decide)

theorem IsAnswered.tellsTime {d : Dealing} (h : d.IsAnswered net) {o : Outcome} (ho : o ∈ d.outcomes) : o.TellsTime := by
  rcases h.cases with ⟨-, houtcomes, -⟩ | ⟨setting, flight, result, -, -, hreaches, hresult, houtcomes, -⟩
  · rw [houtcomes] at ho
    cases ho
  · rw [houtcomes] at ho
    exact tellsTime_of_reaches hreaches hresult ho

end Dealing

-- ---------------------------------------------------------------------------
-- A run
-- ---------------------------------------------------------------------------

/-- The server after a request; a relay leaves it as it is. -/
def after (s : Server) (freshId : String) (a : Arrival) : Server :=
  match (receive s freshId a).plan with
  | .told _ roster => { s with roster }
  | .relay .. => s

/-- It is so in every answer, whatever the network is. -/
theorem answer_server (s : Server) (net : Network σ) (freshId : String) (a : Arrival) (st : σ) :
    (answer s net freshId a st).2.1 = after s freshId a := by
  rw [after]
  cases hplan : (receive s freshId a).plan with
  | told served roster => rw [answer_of_told hplan]
  | relay setting backends => rw [answer_of_relay hplan]

/-- Requests to a server, in the order in which they read or change its roster, and what becomes of each. Their
relays may overlap in any way. -/
inductive Serves (net : Network σ) : Server → List Dealing → Prop
  | done (s : Server) : Serves net s []
  | next {s : Server} {freshId : String} {a : Arrival} {v : Option Verdict} {served : Served} {rest : List Dealing}
      (hanswered : Answered net (receive s freshId a) v served) (hrest : Serves net (after s freshId a) rest) :
      Serves net s (⟨s, freshId, a, v, served⟩ :: rest)

/-- Any requests can be served: by the server itself, one after the other. -/
theorem exists_serves (net : Network σ) (s : Server) (st : σ) (requests : List (String × Arrival)) :
    ∃ dealings, Serves net s dealings ∧ dealings.map (fun d => (d.freshId, d.arrival)) = requests := by
  induction requests generalizing s st with
  | nil => exact ⟨[], .done s, rfl⟩
  | cons x rest ih =>
    obtain ⟨freshId, a⟩ := x
    obtain ⟨v, hv⟩ := handled_answer net s freshId a st
    obtain ⟨dealings, hserves, hrequests⟩ := ih (after s freshId a) (answer s net freshId a st).2.2
    exact ⟨_, .next hv.answered hserves, by rw [List.map_cons, hrequests]⟩

theorem Serves.isAnswered {s : Server} {dealings : List Dealing} (h : Serves net s dealings) :
    ∀ d ∈ dealings, d.IsAnswered net := by
  induction h with
  | done s => exact fun d hd => absurd hd List.not_mem_nil
  | next hanswered _ ih =>
    intro d hd
    rcases List.mem_cons.1 hd with rfl | hd
    · exact hanswered
    · exact ih d hd

/-- A relay of a session, too, finds the servers in some state whenever one of its attempts takes a step. -/
theorem Session.reaches_run {x : Session σ} (hnone : x.relays = []) {steps : List Session.Step} {i : Nat}
    {snapshot : Roster} {flight : Flight} (h : (x.run net steps).relays[i]? = some (.flying snapshot flight)) :
    ∃ setting, (Flight.start setting snapshot.entries).Reaches net flight := by
  induction steps using List.reverseRecOn generalizing flight with
  | nil =>
    rw [run, List.foldl_nil, hnone] at h
    cases h
  | append_singleton steps e ih =>
    rw [run_concat] at h
    rcases relays_step h with hsame | ⟨callerId, a, harriving⟩ | ⟨before, m, -, hbefore, hnext⟩
    · exact ih hsame
    · cases harriving
    · rcases Stage.flying_of_next hnext.symm with ⟨setting, -, -, rfl, rfl⟩ | ⟨flight', rfl, rfl | ⟨j, rfl⟩⟩
      · exact ⟨setting, .start⟩
      · exact ih hbefore
      · obtain ⟨setting, hreaches⟩ := ih hbefore
        exact ⟨setting, hreaches.step j _⟩

-- ---------------------------------------------------------------------------
-- The balance
-- ---------------------------------------------------------------------------

/-- Every forwarded request has its time taken, and nothing else has. -/
theorem Dealing.forwarded_eq_timed (d : Dealing) :
    d.marks.countP Tally.isForwarded = d.marks.countP (· == .responseTime) := by
  have hpair (p : String × String) :
      (attemptMarks p.1 p.2).countP Tally.isForwarded = (attemptMarks p.1 p.2).countP (· == .responseTime) := by
    unfold attemptMarks
    split <;> rfl
  rw [marks, List.countP_append, List.countP_append, countP_flatMap_eq fun p _ => hpair p]
  split <;> rfl

theorem Dealing.inbound_eq (d : Dealing) : d.marks.countP (· == .inbound) = [d].countP Dealing.isForRelay := by
  have hnone : (d.pairs.flatMap fun p => attemptMarks p.1 p.2).countP (· == .inbound) = 0 := by
    rw [List.countP_eq_zero]
    intro x hx hinbound
    obtain ⟨p, -, hmem⟩ := List.mem_flatMap.1 hx
    rw [eq_of_beq hinbound] at hmem
    exact inbound_notMem_attemptMarks p.1 p.2 hmem
  rw [marks, List.countP_append, hnone, List.countP_singleton]
  split <;> rfl

theorem Dealing.forwarded_eq (d : Dealing) (authority : String) :
    d.marks.countP (· == .forwarded authority) = d.pairs.countP fun p => authority? p.1 p.2 == some authority := by
  have hpair (p : String × String) : (attemptMarks p.1 p.2).countP (· == .forwarded authority) =
      [p].countP fun p => authority? p.1 p.2 == some authority := by
    rw [attemptMarks, List.countP_singleton]
    cases authority? p.1 p.2 <;> simp [List.countP_cons]
  have hself : (if d.isForRelay = true then [Series.inbound] else []).countP (· == .forwarded authority) = 0 := by
    split <;> rfl
  rw [marks, List.countP_append, hself, Nat.zero_add, countP_flatMap_eq fun p _ => hpair p, List.flatMap_singleton']

/-- **The totals of a run.** Requests come to a server in some order, and its relays overlap in any way; all of
them have been answered, and whatever they counted was added to the totals in any order. Then the requests that
came in for relay are those that went there, accepted or not. What was forwarded to an authority are the pairs of
a relayed request and a backend of the roster at the time for which the way leads there and a request could be
made. The times that were taken are as many as the requests that were forwarded to any authority, and as many as
the outcomes that have a time; and an outcome has none exactly if the backend or the request was at fault. -/
theorem totals_balance {s : Server} {dealings : List Dealing} (h : Serves net s dealings) {marks : Tally}
    (hmarks : marks.Perm (dealings.flatMap fun d => d.served.marks)) :
    let totals := Tally.addTo [] marks
    Tally.value totals .inbound = dealings.countP Dealing.isForRelay ∧
    (∀ authority, Tally.value totals (.forwarded authority) =
      (dealings.flatMap Dealing.pairs).countP fun p => authority? p.1 p.2 == some authority) ∧
    Tally.value totals .responseTime = Tally.forwardedTotal totals ∧
    Tally.value totals .responseTime = (dealings.flatMap Dealing.outcomes).countP Outcome.isTimed ∧
    ∀ o ∈ dealings.flatMap Dealing.outcomes, o.TellsTime := by
  intro totals
  have hanswered := h.isAnswered
  have hvalue (x : Series) : Tally.value totals x = (dealings.flatMap fun d => d.served.marks).countP (· == x) := by
    rw [Tally.value_addTo, hmarks.countP_eq]
    exact Nat.zero_add _
  have hforwarded : Tally.forwardedTotal totals =
      (dealings.flatMap fun d => d.served.marks).countP Tally.isForwarded := by
    rw [Tally.forwardedTotal_addTo, hmarks.countP_eq]
    exact Nat.zero_add _
  refine ⟨?_, fun authority => ?_, ?_, ?_, fun o ho => ?_⟩
  · rw [hvalue, countP_flatMap_eq fun d hd => ?_, List.flatMap_singleton']
    rw [(hanswered d hd).marks_eq, d.inbound_eq]
  · rw [hvalue]
    refine countP_flatMap_eq fun d hd => ?_
    rw [(hanswered d hd).marks_eq, d.forwarded_eq]
  · rw [hvalue, hforwarded]
    refine countP_flatMap_eq fun d hd => ?_
    rw [(hanswered d hd).marks_eq, d.forwarded_eq_timed]
  · rw [hvalue]
    exact countP_flatMap_eq fun d hd => (hanswered d hd).timed
  · obtain ⟨d, hd, hmem⟩ := List.mem_flatMap.1 ho
    exact (hanswered d hd).tellsTime hmem

theorem authority?_local {path target : String} (hpath : path.toList.head? = some '/')
    (htarget : target.toList.head? = some '/') :
    authority? ("http://127.0.0.1:18401" ++ path) target = some "127.0.0.1:18401" := by
  have hauthority : Destination.authorityOf
      (Url.withTarget "http".toList (some 18401) (Url.clean path.toList) (.v4 ⟨127, 0, 0, 1⟩)) =
      some "127.0.0.1:18401".toList := rfl
  have hfront : (Url.withTarget "http".toList (some 18401) (Url.clean path.toList) (.v4 ⟨127, 0, 0, 1⟩)).scheme ++
      "://".toList ++ "127.0.0.1:18401".toList = "http://127.0.0.1:18401".toList := rfl
  rw [authority?, Destination.resolve, String.toList_append, Destination.parse_local_target hpath]
  dsimp only
  rw [hauthority]
  dsimp only
  rw [hfront, Destination.parse_local_target htarget]
  rfl

/-- A server with two backends at one place, and one that is nowhere. -/
def mixedServer : Server where
  roster := (Roster.seed ["http://127.0.0.1:18401/", "http://127.0.0.1:18401/x", "a"]).1

/-- One request for the root is forwarded twice, to the one place. -/
theorem totals_balance_mixed :
    ∃ dealings, Serves (Network.empty : Network Unit) mixedServer dealings ∧
      dealings.map (fun d => (d.freshId, d.arrival)) = [("1", rootRequest "GET" [])] ∧
      let totals := Tally.addTo [] (dealings.flatMap fun d => d.served.marks)
      Tally.value totals .inbound = 1 ∧ Tally.value totals (.forwarded "127.0.0.1:18401") = 2 ∧
        Tally.value totals .responseTime = Tally.forwardedTotal totals := by
  obtain ⟨v, hv⟩ := handled_answer Network.empty mixedServer "1" (rootRequest "GET" []) ()
  have hserves := Serves.next hv.answered (.done _)
  obtain ⟨hinbound, hforwarded, htimed, -, -⟩ := totals_balance hserves (.refl _)
  refine ⟨_, hserves, rfl, hinbound, ?_, htimed⟩
  have hpairs : (Dealing.mk mixedServer "1" (rootRequest "GET" []) v
      (answer mixedServer Network.empty "1" (rootRequest "GET" []) ()).1).pairs =
      [("http://127.0.0.1:18401/", "/"), ("http://127.0.0.1:18401/x", "/"), ("a", "/")] :=
    if_pos ⟨rfl, fits_nil bodyLimit⟩
  have hroot : authority? "http://127.0.0.1:18401/" "/" = some "127.0.0.1:18401" :=
    @authority?_local "/" "/" rfl rfl
  have hpath : authority? "http://127.0.0.1:18401/x" "/" = some "127.0.0.1:18401" :=
    @authority?_local "/x" "/" rfl rfl
  have hnowhere : authority? "a" "/" = none := rfl
  rw [hforwarded, List.flatMap_singleton, hpairs]
  simp [hroot, hpath, hnowhere]

end Server

end Repeater
