import Mathlib.Data.List.Induction
import Repeater.Proofs.Relay.Independence
import Repeater.Proofs.Server.Handling
import Repeater.Server.Session

/-!
# Relays and the roster side by side

Workers change the roster while relays are on their way. A relay goes to the backends that were published when
it departed, whatever happens to the roster before and after that; and the roster goes through what its workers
do, whatever relays there are.

## Results

* `Stage.moves_next`   — everything that may become of a relay in one step;
* `exists_move`        — whatever a relay has become, it became that in a step of its own;
* `race_run`           — the roster and its workers go their way as if there were no relays;
* `relays_keep_roster` — a relay that has come to its end names the backends of the roster at its departure;
* `exists_run_of_fits` — the answer to a single request is that of a session in which nothing else happens.
-/

namespace Repeater.Server

open Relay

variable {σ : Type} {net : Network σ} {policy : Client.Policy}

-- ---------------------------------------------------------------------------
-- One relay
-- ---------------------------------------------------------------------------

namespace Stage

/-- What may become of a request in one step, and of the state of the network. -/
inductive Moves (net : Network σ) (policy : Client.Policy) (published : Roster) (st : σ) :
    Stage → Motion → Stage × σ → Prop
  | fed (callerId : Bool) (a : Arrival) (p : Piece) : Moves net policy published st
      (.arriving callerId a) (.feed p) (.arriving callerId { a with body := a.body ++ [p] }, st)
  | taken (callerId : Bool) {a : Arrival} {r : Intake} (h : Intake.capture bodyLimit a = .ok r) :
      Moves net policy published st (.arriving callerId a) .take
        (.taken { policy, request := replayed callerId r }, st)
  | refused (callerId : Bool) {a : Arrival} {e : BodyFault} (h : Intake.capture bodyLimit a = .error e) :
      Moves net policy published st (.arriving callerId a) .take (.refused e, st)
  | departed (setting : Setting) : Moves net policy published st
      (.taken setting) .depart (.flying published (.start setting published.entries), st)
  | advanced (snapshot : Roster) (flight : Flight) (i : Nat) : Moves net policy published st
      (.flying snapshot flight) (.advance i)
      (.flying snapshot (flight.step net i st).1, (flight.step net i st).2)
  | stays (stage : Stage) (m : Motion) : Moves net policy published st stage m (stage, st)

variable {published : Roster} {stage : Stage} {m : Motion} {st : σ}

theorem moves_next (net : Network σ) (policy : Client.Policy) (published : Roster) (stage : Stage) (m : Motion)
    (st : σ) : Moves net policy published st stage m (stage.next net policy published m st) := by
  cases stage with
  | arriving callerId a =>
    cases m with
    | feed p => exact .fed callerId a p
    | take =>
      rw [next]
      cases hcapture : Intake.capture bodyLimit a with
      | ok r => exact .taken callerId hcapture
      | error e => exact .refused callerId hcapture
    | depart | advance => exact .stays _ _
  | refused e => cases m <;> exact .stays _ _
  | taken setting =>
    cases m with
    | depart => exact .departed setting
    | feed | take | advance => exact .stays _ _
  | flying snapshot flight =>
    cases m with
    | advance i => exact .advanced snapshot flight i
    | feed | take | depart => exact .stays _ _

/-- A relay takes off with the roster that is published, or goes on with the one it has. -/
theorem flying_of_next {snapshot : Roster} {flight : Flight}
    (h : (stage.next net policy published m st).1 = .flying snapshot flight) :
    (∃ setting, stage = .taken setting ∧ m = .depart ∧ snapshot = published ∧
      flight = .start setting published.entries) ∨
    ∃ before, stage = .flying snapshot before ∧
      (flight = before ∨ ∃ i, flight = (before.step net i st).1) := by
  have hmoves := moves_next net policy published stage m st
  generalize stage.next net policy published m st = after at h hmoves
  cases hmoves with
  | fed | taken | refused => cases h
  | departed setting =>
    cases h
    exact .inl ⟨setting, rfl, rfl, rfl, rfl⟩
  | advanced snapshot' before i =>
    cases h
    exact .inr ⟨before, rfl, .inr ⟨i, rfl⟩⟩
  | stays => exact .inr ⟨flight, h, .inl rfl⟩

theorem taken_of_next {setting : Setting} (h : (stage.next net policy published m st).1 = .taken setting) :
    (∃ callerId a r, stage = .arriving callerId a ∧ m = .take ∧ Intake.capture bodyLimit a = .ok r ∧
      setting = { policy, request := replayed callerId r }) ∨ stage = .taken setting := by
  have hmoves := moves_next net policy published stage m st
  generalize stage.next net policy published m st = after at h hmoves
  cases hmoves with
  | fed | refused | departed | advanced => cases h
  | taken callerId hcapture =>
    cases h
    exact .inl ⟨callerId, _, _, rfl, rfl, hcapture, rfl⟩
  | stays => exact .inr h

/-- A relay that is under way with this roster and this setting. -/
def Flies (snapshot : Roster) (setting : Setting) (stage : Stage) : Prop :=
  ∃ flight : Flight, stage = .flying snapshot flight ∧ flight.setting = setting

theorem not_flies_arriving (snapshot : Roster) (setting : Setting) (callerId : Bool) (a : Arrival) :
    ¬(Stage.arriving callerId a).Flies snapshot setting := by
  rintro ⟨flight, hflight, -⟩
  cases hflight

/-- A relay that comes to be under way departs with the roster that is published. -/
theorem departs_of_flies {snapshot : Roster} {setting : Setting}
    (h : (stage.next net policy published m st).1.Flies snapshot setting) (hnot : ¬stage.Flies snapshot setting) :
    m = .depart ∧ stage = .taken setting ∧ snapshot = published := by
  obtain ⟨flight, hflight, hsetting⟩ := h
  rcases flying_of_next hflight with ⟨setting', rfl, rfl, rfl, rfl⟩ | ⟨before, rfl, rfl | ⟨i, rfl⟩⟩
  · rw [← hsetting]
    exact ⟨rfl, rfl, rfl⟩
  · exact absurd ⟨_, rfl, hsetting⟩ hnot
  · rw [Flight.setting_step] at hsetting
    exact absurd ⟨before, rfl, hsetting⟩ hnot

/-- The attempts of a relay are at the backends that it has read. -/
def IsFaithful : Stage → Prop
  | .flying snapshot flight => flight.progress.map Progress.backend = snapshot.entries
  | _ => True

theorem IsFaithful.next (h : stage.IsFaithful) : (stage.next net policy published m st).1.IsFaithful := by
  cases hnext : (stage.next net policy published m st).1 with
  | arriving | refused | taken => trivial
  | flying snapshot flight =>
    rcases flying_of_next hnext with ⟨setting, -, -, rfl, rfl⟩ | ⟨before, rfl, rfl | ⟨i, rfl⟩⟩
    · exact Flight.backends_start _
    · exact h
    · exact (before.backends_step i st).trans h

end Stage

-- ---------------------------------------------------------------------------
-- Many relays, and the roster
-- ---------------------------------------------------------------------------

namespace Session

variable {x : Session σ}

theorem run_append (x : Session σ) (steps more : List Step) :
    x.run net (steps ++ more) = (x.run net steps).run net more :=
  List.foldl_append

theorem run_concat (x : Session σ) (steps : List Step) (e : Step) :
    x.run net (steps ++ [e]) = (x.run net steps).step net e :=
  x.run_append steps [e]

/-- The step that a worker takes at the roster, if it is one. -/
def Step.worker? : Step → Option Nat
  | .work i => some i
  | _ => none

theorem race_step (x : Session σ) (net : Network σ) (e : Step) :
    (x.step net e).race = x.race.run e.worker?.toList ∧ (x.step net e).policy = x.policy := by
  cases e with
  | work i => exact ⟨rfl, rfl⟩
  | arrive callerId a => exact ⟨rfl, rfl⟩
  | move i m =>
    rw [step]
    split <;> exact ⟨rfl, rfl⟩

/-- The roster and its workers go their way as if there were no relays. -/
theorem race_run (x : Session σ) (net : Network σ) (steps : List Step) :
    (x.run net steps).race = x.race.run (steps.filterMap Step.worker?) ∧ (x.run net steps).policy = x.policy := by
  induction steps using List.reverseRecOn with
  | nil => exact ⟨rfl, rfl⟩
  | append_singleton steps e ih =>
    obtain ⟨hrace, hpolicy⟩ := ih
    obtain ⟨hrace', hpolicy'⟩ := (x.run net steps).race_step net e
    have hlast : [e].filterMap Step.worker? = e.worker?.toList := by cases e <;> rfl
    rw [run_concat, hrace', hpolicy', hrace, hpolicy, List.filterMap_append, hlast]
    exact ⟨List.foldl_append.symm, rfl⟩

/-- What has become of a relay in a step: it has come in, it stayed as it was, or something happened to it. -/
theorem relays_step {e : Step} {i : Nat} {stage : Stage} (h : (x.step net e).relays[i]? = some stage) :
    x.relays[i]? = some stage ∨ (∃ callerId a, stage = .arriving callerId a) ∨
      ∃ before m, e = .move i m ∧ x.relays[i]? = some before ∧
        stage = (before.next net x.policy x.published m x.network).1 := by
  cases e with
  | work j => exact .inl h
  | arrive callerId a =>
    rw [step, List.getElem?_append] at h
    split at h
    · exact .inl h
    · have hnew := List.mem_of_getElem? h
      exact .inr (.inl ⟨callerId, a, List.mem_singleton.1 hnew⟩)
  | move j m =>
    rw [step] at h
    cases hbefore : x.relays[j]? with
    | none =>
      rw [hbefore] at h
      exact .inl h
    | some before =>
      rw [hbefore] at h
      dsimp only at h
      by_cases hji : j = i
      · subst hji
        obtain ⟨hj, -⟩ := List.getElem?_eq_some_iff.1 hbefore
        rw [List.getElem?_set_self hj] at h
        exact .inr (.inr ⟨before, m, rfl, hbefore, (Option.some.inj h).symm⟩)
      · rw [List.getElem?_set_ne hji] at h
        exact .inl h

variable {steps : List Step} {i : Nat}

theorem isFaithful_run (hnone : x.relays = []) {stage : Stage} (h : (x.run net steps).relays[i]? = some stage) :
    stage.IsFaithful := by
  induction steps using List.reverseRecOn generalizing stage with
  | nil =>
    rw [run, List.foldl_nil, hnone] at h
    cases h
  | append_singleton steps e ih =>
    rw [run_concat] at h
    rcases relays_step h with hsame | ⟨callerId, a, rfl⟩ | ⟨before, m, -, hbefore, rfl⟩
    · exact ih hsame
    · trivial
    · exact (ih hbefore).next

/-- **Whatever a relay has become, it became that in a step of its own**, unless it came in like that. -/
theorem exists_move (hnone : x.relays = []) {p : Stage → Prop} (hp : ∀ callerId a, ¬p (.arriving callerId a))
    {stage : Stage} (h : (x.run net steps).relays[i]? = some stage) (hstage : p stage) :
    ∃ past rest before m, steps = past ++ .move i m :: rest ∧ (x.run net past).relays[i]? = some before ∧
      ¬p before ∧
      p (before.next net x.policy (x.run net past).published m (x.run net past).network).1 := by
  induction steps using List.reverseRecOn generalizing stage with
  | nil =>
    rw [run, List.foldl_nil, hnone] at h
    cases h
  | append_singleton steps e ih =>
    have hearlier {stage : Stage} (h : (x.run net steps).relays[i]? = some stage) (hstage : p stage) :
        ∃ past rest before m, steps ++ [e] = past ++ .move i m :: rest ∧
          (x.run net past).relays[i]? = some before ∧ ¬p before ∧
          p (before.next net x.policy (x.run net past).published m (x.run net past).network).1 := by
      obtain ⟨past, rest, before, m, hsteps, hmove⟩ := ih h hstage
      refine ⟨past, rest ++ [e], before, m, ?_, hmove⟩
      rw [hsteps, List.append_assoc, List.cons_append]
    rw [run_concat] at h
    rcases relays_step h with hsame | ⟨callerId, a, rfl⟩ | ⟨before, m, rfl, hbefore, rfl⟩
    · exact hearlier hsame hstage
    · exact absurd hstage (hp callerId a)
    · by_cases hpast : p before
      · exact hearlier hbefore hpast
      · rw [(x.race_run net steps).2] at hstage
        exact ⟨steps, [], before, m, rfl, hbefore, hpast, hstage⟩

/-- A request that is taken in was taken in when its body had come. -/
theorem exists_take (hnone : x.relays = []) {setting : Setting}
    (h : (x.run net steps).relays[i]? = some (.taken setting)) :
    ∃ past rest callerId a r, steps = past ++ .move i .take :: rest ∧
      (x.run net past).relays[i]? = some (.arriving callerId a) ∧ Intake.capture bodyLimit a = .ok r ∧
      setting = { policy := x.policy, request := replayed callerId r } := by
  have harriving (callerId : Bool) (a : Arrival) : Stage.arriving callerId a ≠ .taken setting := nofun
  obtain ⟨past, rest, before, m, hsteps, hbefore, hnot, hnext⟩ :=
    exists_move hnone (p := (· = .taken setting)) harriving h rfl
  rcases Stage.taken_of_next hnext with ⟨callerId, a, r, rfl, rfl, hcapture, hsetting⟩ | htaken
  · exact ⟨past, rest, callerId, a, r, hsteps, hbefore, hcapture, hsetting⟩
  · exact absurd htaken hnot

/-- A relay that is under way has departed with the roster that was published then. -/
theorem exists_departure (hnone : x.relays = []) {snapshot : Roster} {flight : Flight}
    (h : (x.run net steps).relays[i]? = some (.flying snapshot flight)) :
    ∃ past rest, steps = past ++ .move i .depart :: rest ∧
      (x.run net past).relays[i]? = some (.taken flight.setting) ∧ (x.run net past).published = snapshot := by
  obtain ⟨past, rest, before, m, hsteps, hbefore, hnot, hnext⟩ :=
    exists_move hnone (Stage.not_flies_arriving snapshot flight.setting) h ⟨flight, rfl, rfl⟩
  obtain ⟨rfl, rfl, hpublished⟩ := Stage.departs_of_flies hnext hnot
  exact ⟨past, rest, hsteps, hbefore, hpublished.symm⟩

theorem run_advance {snapshot : Roster} {flight : Flight} (h : x.relays = [.flying snapshot flight])
    (schedule : List Nat) :
    x.run net (schedule.map fun i => .move 0 (.advance i)) =
      { x with relays := [.flying snapshot (flight.run net x.network schedule).1]
               network := (flight.run net x.network schedule).2 } := by
  induction schedule generalizing x flight with
  | nil =>
    rw [Flight.run, ← h]
    rfl
  | cons i r ih =>
    have hstep : x.step net (.move 0 (.advance i)) =
        { x with relays := [.flying snapshot (flight.step net i x.network).1]
                 network := (flight.step net i x.network).2 } := by
      rw [step, h]
      rfl
    rw [List.map_cons, run, List.foldl_cons, hstep, ← run, ih rfl, Flight.run_cons]

/-- A relay that comes in, is taken in, departs, and whose attempts take steps, when nothing else happens. -/
theorem run_lone (net : Network σ) (hnone : x.relays = []) (callerId : Bool) {a : Arrival} {r : Intake}
    (hcapture : Intake.capture bodyLimit a = .ok r) (schedule : List Nat) :
    let departed := Flight.start { policy := x.policy, request := replayed callerId r } x.published.entries
    x.run net ([.arrive callerId a, .move 0 .take, .move 0 .depart] ++
        schedule.map fun i => .move 0 (.advance i)) =
      { x with relays := [.flying x.published (departed.run net x.network schedule).1]
               network := (departed.run net x.network schedule).2 } := by
  intro departed
  have harrived : x.step net (.arrive callerId a) = { x with relays := [.arriving callerId a] } := by
    rw [step, hnone]
    rfl
  have htaken : step net { x with relays := [.arriving callerId a] } (.move 0 .take) =
      { x with relays := [.taken { policy := x.policy, request := replayed callerId r }] } := by
    simp only [step, List.getElem?_cons_zero, Stage.next, hcapture]
    rfl
  have hdeparted : x.run net [.arrive callerId a, .move 0 .take, .move 0 .depart] =
      { x with relays := [.flying x.published departed] } := by
    rw [run, List.foldl_cons, harrived, List.foldl_cons, htaken]
    rfl
  rw [run_append, hdeparted, run_advance rfl]

end Session

/-- **A relay goes to the backends that were on the roster when it departed.** However the steps of workers at
the roster, of requests that come in and of attempts are mixed, the roster goes through what its workers do. And a
relay whose attempts have come to their end departed once its request had been taken in, and its outcomes name the
backends that were published in that moment, in order and each of them once. -/
theorem relays_keep_roster (net : Network σ) (policy : Client.Policy) (race : Roster.Race) (st : σ)
    (steps : List Session.Step) :
    let x : Session σ := { policy, race, network := st }
    (x.run net steps).race = race.run (steps.filterMap Session.Step.worker?) ∧
    ∀ i snapshot flight result, (x.run net steps).relays[i]? = some (.flying snapshot flight) →
      flight.result? = some result →
      ∃ past rest, steps = past ++ .move i .depart :: rest ∧
        (x.run net past).relays[i]? = some (.taken flight.setting) ∧
        (∃ earlier between callerId a r, past = earlier ++ .move i .take :: between ∧
          (x.run net earlier).relays[i]? = some (.arriving callerId a) ∧ Intake.capture bodyLimit a = .ok r ∧
          flight.setting = { policy, request := replayed callerId r }) ∧
        result.verdict.outcomes.map Outcome.backend = (x.run net past).published.entries ∧
        (result.verdict.outcomes.map Outcome.backend).Nodup := by
  intro x
  refine ⟨(x.race_run net steps).1, fun i snapshot flight result hflight hresult => ?_⟩
  obtain ⟨past, rest, hsteps, htaken, hpublished⟩ := Session.exists_departure rfl hflight
  have hbackends : result.verdict.outcomes.map Outcome.backend = snapshot.entries := by
    rw [Flight.backends_of_result? hresult]
    exact Session.isFaithful_run rfl hflight
  refine ⟨past, rest, hsteps, htaken, Session.exists_take rfl htaken, ?_, ?_⟩
  · rw [hbackends, hpublished]
  · rw [hbackends]
    exact snapshot.nodup

/-- A session with one backend, whose server answers: one worker is to remove it, and another one to add a backend. -/
def busySession : Session Unit where
  policy := localSetting.policy
  race := .start (Roster.seed [localBackend]).1 [[.remove localBackend], [.add "http://127.0.0.1:18402/"]]
  network := ()

/-- A relay departs while the removal is on its way, and its attempt makes its request when both changes are made. -/
def busySteps : List Session.Step :=
  [.arrive false { method := "POST", target := { rest := "/a".toList } }, .work 0, .work 0, .move 0 .take,
    .move 0 .depart, .work 0, .work 0, .work 1, .work 1, .work 1, .work 1, .move 0 (.advance 0)]

/-- The result of a relay whose attempts have come to their end. -/
def Stage.result? : Stage → Option Result
  | .flying _ flight => flight.result?
  | _ => none

/-- A backend that is removed while a relay is under way is on the list of that relay and is reached, and one that is
added is not. -/
theorem relays_keep_roster_removed :
    let net := localNetwork fun _ => doneReply
    (busySession.run net busySteps).published.entries = ["http://127.0.0.1:18402/"] ∧
    ∃ snapshot flight result,
      (busySession.run net busySteps).relays[0]? = some (.flying snapshot flight) ∧
      flight.result? = some result ∧ result.verdict.outcomes = [.relayed localBackend 200] ∧
      ∃ past rest, busySteps = past ++ .move 0 .depart :: rest ∧
        result.verdict.outcomes.map Outcome.backend = (busySession.run net past).published.entries := by
  intro net
  have hdone : (((busySession.run net busySteps).relays[0]?).bind Stage.result?).map (fun r => r.verdict.outcomes) =
      some [.relayed localBackend 200] := by
    decide +kernel
  have hpublished : (busySession.run net busySteps).published.entries = ["http://127.0.0.1:18402/"] := by
    decide +kernel
  obtain ⟨result, hbind, houtcomes⟩ := Option.map_eq_some_iff.1 hdone
  obtain ⟨stage, hstage, hresult⟩ := Option.bind_eq_some_iff.1 hbind
  cases stage with
  | arriving | refused | taken => cases hresult
  | flying snapshot flight =>
    obtain ⟨-, hall⟩ := relays_keep_roster net localSetting.policy busySession.race () busySteps
    obtain ⟨past, rest, hsteps, -, -, hbackends, -⟩ := hall 0 snapshot flight result hstage hresult
    exact ⟨hpublished, snapshot, flight, result, hstage, hresult, houtcomes, past, rest, hsteps, hbackends⟩

/-- What the server answers to a request whose body fits is what a session comes to in which nothing else
happens. -/
theorem exists_run_of_fits {s : Server} {a : Arrival}
    (hroute : (route s.admin.dynamicBackends a.method a.target.path).isRelay = true) (hfits : Fits bodyLimit a.body)
    (net : Network σ) (freshId : String) (st : σ) :
    ∃ steps flight result,
      let x : Session σ := { policy := s.policy, race := .start s.roster [], network := st }
      (x.run net steps).relays[0]? = some (.flying s.roster flight) ∧ flight.result? = some result ∧
      (x.run net steps).network = (answer s net freshId a st).2.2 ∧
      (answer s net freshId a st).1 =
        (receive s freshId a).respond (relayed flight.setting s.roster.entries result) := by
  obtain ⟨r, hcapture, hplan⟩ := plan_of_fits hroute hfits freshId
  obtain ⟨schedule, hresult, hstate⟩ := exists_run_eq_fanout net
    { policy := s.policy, request := replayed (a.headers.has requestIdField) r } s.roster.entries st
  have hrun := Session.run_lone (x := { policy := s.policy, race := .start s.roster [], network := st }) net rfl
    (a.headers.has requestIdField) hcapture schedule
  refine ⟨_, _, _, congrArg (fun x => x.relays[0]?) hrun, hresult, ?_, ?_⟩
  · rw [answer_of_relay hplan]
    exact (congrArg Session.network hrun).trans hstate
  · rw [answer_of_relay hplan, Flight.setting_run]
    rfl

end Repeater.Server
