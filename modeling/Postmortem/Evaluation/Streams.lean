import Postmortem.Lib.Run
import Postmortem.Simulator.Incidents
import Postmortem.Evaluation.Responders

/-!
# Streams do not interfere

Two arms work on the same stream of scenarios and act differently. What the observation of an incident shows
right after its injection is the scenario's and the breach's, but for the threshold of the SLO, which no call
ever changes; and the alert it is read from is new, as every earlier alert is of an earlier scenario
(`Followed`). So the query and the hits of the responder are the same in both arms (`streams_agree`).
-/

namespace Postmortem.Evaluation

open Simulator

variable {c : Conductor} {w₀ w w' : WorldState}

/-- The scenarios of the fixture have different identifiers, and so do their incidents. -/
structure DistinctScenarios (c : Conductor) : Prop where
  scenarios : (c.fixture.scenarios.map Scenario.scenarioId).Nodup
  incidents : ∀ a ∈ c.fixture.scenarios, ∀ b ∈ c.fixture.scenarios,
    c.id "incident" a.scenarioId = c.id "incident" b.scenarioId → a.scenarioId = b.scenarioId

/-- The incident is one of the first `n` scenarios. -/
def Injected (c : Conductor) (n : Nat) (incidentId : String) : Prop :=
  ∃ j scenario, j < n ∧ c.scenarios[j]? = some scenario ∧ incidentId = c.id "incident" scenario.scenarioId

/-- The thresholds of the world. -/
def threshold (w : WorldState) (key : String × String) : Option Flt := (Assoc.get w.slos key).map SLO.threshold

/-- What holds of the world after `n` scenarios, whatever was done to it. -/
structure Followed (c : Conductor) (w₀ : WorldState) (n : Nat) (w : WorldState) : Prop where
  thresholds : ∀ key, threshold w key = threshold w₀ key
  keyed : Assoc.Keyed w.alerts
  alerts : ∀ key a, Assoc.get w.alerts key = some a → Injected c n a.incidentId

lemma Followed.same {n : Nat} (h : Followed c w₀ n w) (slos : w'.slos = w.slos) (alerts : w'.alerts = w.alerts) :
    Followed c w₀ n w' := by
  refine ⟨?_, ?_, ?_⟩
  · unfold threshold
    rw [slos]
    exact h.thresholds
  · rw [alerts]
    exact h.keyed
  · rw [alerts]
    exact h.alerts

/-- Clearing alerts leaves them with their incidents. -/
lemma Followed.cleared {n : Nat} {id : String} {l : List (String × Alert)} (h : Followed c w₀ n w)
    (cleared : Cleared id l w w') : Followed c w₀ n w' := by
  refine ⟨?_, cleared.keyed h.keyed, ?_⟩
  · intro key
    exact (cleared.thresholds key).trans (h.thresholds key)
  · intro key a' found
    have related := cleared.alerts key
    rw [found] at related
    generalize before : Assoc.get w.alerts key = x at related
    cases related with
    | @some a _ same =>
      rw [same.incidentId]
      exact h.alerts key a before

lemma Followed.acted {n : Nat} {r : ActionRequest} (h : Followed c w₀ n w) (acted : Simulator.Acted c r w w') :
    Followed c w₀ n w' := by
  have applied : ∀ {incident policy expected scored w₁ w₂}, Applies c r incident policy expected w w₁ →
      Accounted r.incidentId scored w₁ w₂ → Followed c w₀ n w₂ := by
    intro incident policy expected scored w₁ w₂ applies accounted
    have mutated : Mutated w w₁ := mutateAction_mutated.ok rfl applies.mutated
    exact h.same (accounted.slos.trans mutated.slos) (accounted.alerts.trans mutated.alerts)
  cases acted with
  | refused reconfigured => exact h.same reconfigured.mutated.slos reconfigured.mutated.alerts
  | interrupted applies accounted => exact applied applies accounted
  | applied applies accounted => exact applied applies accounted
  | @completed incident _ _ _ w₂ applies accounted =>
    have resolved : Resolved incident w₂ (Conductor.resolve incident w₂).2 := Simulator.resolve_resolved.always rfl
    exact (applied applies accounted).cleared resolved.cleared

lemma Injected.later {n : Nat} {incidentId : String} (h : Injected c n incidentId) : Injected c (n + 1) incidentId := by
  obtain ⟨j, scenario, lt, at', e⟩ := h
  exact ⟨j, scenario, Nat.lt_succ_of_lt lt, at', e⟩

lemma Followed.later {n : Nat} (h : Followed c w₀ n w) : Followed c w₀ (n + 1) w :=
  ⟨h.thresholds, h.keyed, fun key a found => (h.alerts key a found).later⟩

lemma HalfOpened.threshold {scenario : Scenario} {breach : Conductor.Breach} (h : HalfOpened c scenario breach w w')
    (key : String × String) : threshold w' key = threshold w key := by
  have related := h.slos key
  unfold Evaluation.threshold
  revert related
  generalize Assoc.get w.slos key = x
  generalize Assoc.get w'.slos key = y
  rintro (same | _)
  · exact congrArg some same.threshold
  · rfl

lemma Opened.threshold {scenario : Scenario} {breach : Conductor.Breach} (h : Opened c scenario breach w w')
    (key : String × String) : threshold w' key = threshold w key := by
  obtain ⟨burnRate, slos⟩ := h.slos
  unfold Evaluation.threshold
  rw [slos, Assoc.get_modify]
  split
  case isTrue =>
    rw [Option.map_map]
    rfl
  case isFalse => rfl

lemma Followed.opened {n : Nat} {scenario : Scenario} {breach : Conductor.Breach} {w₁ : WorldState}
    (h : Followed c w₀ n w) (at' : c.scenarios[n]? = some scenario) (faulted : Faulted scenario w w₁)
    (opened : Opened c scenario breach w₁ w') : Followed c w₀ (n + 1) w' := by
  have struck := h.same faulted.disturbed.slos faulted.disturbed.alerts
  refine ⟨?_, ?_, ?_⟩
  · intro key
    exact (Opened.threshold opened key).trans (struck.thresholds key)
  · rw [opened.alerts]
    exact struck.keyed.set
  · intro key a found
    rw [opened.alerts, Assoc.get_set] at found
    split at found
    case isTrue =>
      cases found
      exact ⟨n, scenario, Nat.lt_succ_self n, at', rfl⟩
    case isFalse => exact (struck.alerts key a found).later

lemma Followed.injected {n : Nat} {scenario : Scenario} {out : Except Raised Simulator.Incident} (h : Followed c w₀ n w)
    (at' : c.scenarios[n]? = some scenario) (injected : Simulator.Injected c scenario w out w') :
    Followed c w₀ (n + 1) w' := by
  cases injected with
  | failed disturbed => exact (h.same disturbed.slos disturbed.alerts).later
  | halfOpened _ faulted opened =>
    have struck := h.same faulted.disturbed.slos faulted.disturbed.alerts
    refine ⟨?_, ?_, ?_⟩
    · intro key
      exact (HalfOpened.threshold opened key).trans (struck.thresholds key)
    · rw [opened.alerts]
      exact struck.keyed
    · rw [opened.alerts]
      exact struck.later.alerts
  | outOfTime _ faulted opened => exact h.opened at' faulted opened
  | opened _ faulted opened => exact h.opened at' faulted opened

lemma step_followed {s : Simulation} {call : Conductor.Call} (h : Followed c w₀ s.nextScenario s.world) :
    Followed c w₀ (c.step s call).nextScenario (c.step s call).world := by
  cases call with
  | applyAction r => exact h.acted (applyAction_acted.always rfl)
  | advanceTime duration =>
    obtain ⟨now, e, _⟩ := @step_advanceTime c s duration
    rw [e]
    exact h.same rfl rfl
  | injectNext =>
    cases next : c.scenarios[s.nextScenario]? with
    | none =>
      unfold Conductor.step Conductor.injectNext
      rw [next]
      exact h
    | some scenario =>
      obtain ⟨advanced, ⟨_, _, same⟩ | ⟨_, injected⟩⟩ := injectNext_injected next
      · show Followed c w₀ (c.injectNext s).2.nextScenario (c.injectNext s).2.world
        rw [advanced, same]
        exact h.later
      · show Followed c w₀ (c.injectNext s).2.nextScenario (c.injectNext s).2.world
        rw [advanced]
        apply Followed.injected _ next injected
        exact h.same rfl rfl

/-! ## Runs -/

/-- The next scenario is the number of injections, while there are scenarios. -/
lemma nextScenario_run {s : Simulation} {calls : List Conductor.Call}
    (h : s.nextScenario ≤ c.scenarios.length) :
    (Run.run c.step s calls).nextScenario = min (s.nextScenario + calls.count .injectNext) c.scenarios.length := by
  induction calls generalizing s with
  | nil => simp [h]
  | cons call calls ih =>
    rw [Run.run_cons]
    cases call with
    | applyAction r =>
      have rest := ih (s := c.step s (.applyAction r)) h
      have other : Conductor.Call.applyAction r ≠ .injectNext := nofun
      rw [rest, List.count_cons_of_ne other]
      rfl
    | advanceTime duration =>
      have rest := ih (s := c.step s (.advanceTime duration)) h
      have other : Conductor.Call.advanceTime duration ≠ .injectNext := nofun
      rw [rest, List.count_cons_of_ne other]
      rfl
    | injectNext =>
      rw [List.count_cons_self]
      cases next : c.scenarios[s.nextScenario]? with
      | none =>
        have idle : c.step s .injectNext = s := by
          unfold Conductor.step Conductor.injectNext
          rw [next]
        have ended : c.scenarios.length ≤ s.nextScenario := List.getElem?_eq_none_iff.mp next
        rw [idle, ih h]
        omega
      | some scenario =>
        have advanced : (c.step s .injectNext).nextScenario = s.nextScenario + 1 := (injectNext_injected next).1
        have more : s.nextScenario < c.scenarios.length := (List.getElem?_eq_some_iff.mp next).1
        rw [ih (by omega), advanced]
        omega

lemma run_followed {calls : List Conductor.Call} (loaded : c.loadWorld = .ok w₀) :
    Followed c w₀ (Run.run c.step { world := w₀ } calls).nextScenario (Run.run c.step { world := w₀ } calls).world := by
  apply Run.run_invariant (I := fun s : Simulation => Followed c w₀ s.nextScenario s.world)
  · exact fun _ _ _ => step_followed
  · obtain ⟨slos, configs, _, _, rfl⟩ := loadWorld_eq loaded
    exact ⟨fun _ => rfl, List.nodup_nil, nofun⟩

/-! ## Observations -/

/-- The incident of the next scenario is none of those before it. -/
lemma DistinctScenarios.fresh {n : Nat} {scenario : Scenario} (distinct : DistinctScenarios c)
    (at' : c.scenarios[n]? = some scenario) : ¬ Injected c n (c.id "incident" scenario.scenarioId) := by
  rintro ⟨j, earlier, lt, at'', e⟩
  have sorted : c.scenarios.Perm c.fixture.scenarios := List.perm_insertionSort _ _
  have mem : scenario ∈ c.fixture.scenarios := sorted.mem_iff.mp (List.mem_of_getElem? at')
  have mem' : earlier ∈ c.fixture.scenarios := sorted.mem_iff.mp (List.mem_of_getElem? at'')
  have same : scenario.scenarioId = earlier.scenarioId := distinct.incidents _ mem _ mem' e
  have nodup : (c.scenarios.map Scenario.scenarioId).Nodup := (sorted.map _).nodup_iff.mpr distinct.scenarios
  have bound : j < (c.scenarios.map Scenario.scenarioId).length := by
    rw [List.length_map]
    exact (List.getElem?_eq_some_iff.mp at'').1
  have index : j = n := by
    apply (List.getElem?_inj bound nodup).mp
    rw [List.getElem?_map, List.getElem?_map, at', at'']
    exact congrArg some same.symm
  omega

/-- The active alert that `observe_incident` finds is the one just fired. -/
lemma find_fired {alerts : List (String × Alert)} {key : String} {alert : Alert} {incidentId : String}
    (others : ∀ x ∈ alerts, x.2.incidentId ≠ incidentId) (of : alert.incidentId = incidentId)
    (active : alert.clearedAt = none) :
    (Assoc.set alerts key alert).find? (fun x => x.2.incidentId = incidentId ∧ x.2.clearedAt = none) =
      some (key, alert) := by
  have mem : (key, alert) ∈ Assoc.set alerts key alert := Assoc.mem_of_get Assoc.get_set_self
  cases found : (Assoc.set alerts key alert).find?
      (fun x => decide (x.2.incidentId = incidentId ∧ x.2.clearedAt = none)) with
  | none =>
    have none_of := List.find?_eq_none.mp found _ mem
    simp [of, active] at none_of
  | some x =>
    have hit := List.find?_some found
    have own : x.2.incidentId = incidentId := (of_decide_eq_true hit).1
    rcases Assoc.mem_set (List.mem_of_find?_eq_some found) with rfl | old
    · rfl
    · exact absurd own (others x old)

/-- What the observation right after an injection shows, up to the versions and the time. -/
structure Shows (c : Conductor) (w₀ : WorldState) (scenario : Scenario) (breach : Conductor.Breach)
    (o : IncidentObservation) : Prop where
  incidentId : o.incidentId = c.id "incident" scenario.scenarioId
  title : o.title = scenario.title
  service : o.service = scenario.targetService
  severity : o.severity = scenario.severity
  signal : o.signal = breach.signal
  sloKind : o.sloKind = breach.sloKind
  sloCurrentValue : o.sloCurrentValue = breach.currentValue
  sloThreshold : some o.sloThreshold = threshold w₀ (scenario.targetService, breach.sloKind)

/-- The incident that was just opened can be observed. -/
lemma observe_opened {n : Nat} {scenario : Scenario} {breach : Conductor.Breach} (h : Followed c w₀ n w)
    (at' : c.scenarios[n]? = some scenario) (distinct : DistinctScenarios c)
    (target : Unhealthy w scenario.targetService) (opened : Opened c scenario breach w w') :
    ∃ o, observeIncident w' (c.id "incident" scenario.scenarioId) = .ok o ∧ Shows c w₀ scenario breach o := by
  have incident : Assoc.get w'.incidents (c.id "incident" scenario.scenarioId) =
      some (c.newIncident scenario w.now) := by
    rw [opened.incidents]
    exact Assoc.get_set_self
  have alert : w'.alerts.find?
      (fun x => x.2.incidentId = c.id "incident" scenario.scenarioId ∧ x.2.clearedAt = none) =
      some (c.id "alert" scenario.scenarioId, c.newAlert scenario breach w.now) := by
    rw [opened.alerts]
    apply find_fired
    case others =>
      intro x mem own
      have earlier := h.alerts x.1 x.2 (h.keyed.mem_iff.mp mem)
      rw [own] at earlier
      exact distinct.fresh at' earlier
    case of => rfl
    case active => rfl
  obtain ⟨burnRate, slos⟩ := opened.slos
  obtain ⟨slo, known⟩ := opened.breachable.known
  have breached : Assoc.get w'.slos (scenario.targetService, breach.sloKind) = some (breachSLO breach burnRate slo) := by
    rw [slos, Assoc.get_modify, if_pos rfl, known]
    rfl
  obtain ⟨service, running, _⟩ := target
  have running : Assoc.get w'.services scenario.targetService = some service := by
    rw [opened.services]
    exact running
  have limit : some slo.threshold = threshold w₀ (scenario.targetService, breach.sloKind) := by
    rw [← h.thresholds]
    unfold threshold
    rw [known]
    rfl
  let o : IncidentObservation := {
    incidentId := c.id "incident" scenario.scenarioId
    title := scenario.title
    service := scenario.targetService
    severity := scenario.severity
    signal := breach.signal
    sloKind := breach.sloKind
    sloCurrentValue := breach.currentValue
    sloThreshold := slo.threshold
    currentVersion := service.currentVersion
    previousStableVersion := service.previousStableVersion
    observedAt := w'.now }
  have observed : observeIncident w' (c.id "incident" scenario.scenarioId) = .ok o := by
    unfold observeIncident
    simp only [incident, alert, orRaise, bind, Except.bind, Option.map_some, Conductor.newAlert, Conductor.newIncident,
      breached, running]
    rfl
  exact ⟨o, observed, rfl, rfl, rfl, rfl, rfl, rfl, rfl, limit⟩

/-- What both arms see of the incident. -/
structure Agree (o o' : IncidentObservation) : Prop where
  incidentId : o.incidentId = o'.incidentId
  title : o.title = o'.title
  service : o.service = o'.service
  severity : o.severity = o'.severity
  signal : o.signal = o'.signal
  sloKind : o.sloKind = o'.sloKind
  sloCurrentValue : o.sloCurrentValue = o'.sloCurrentValue
  sloThreshold : o.sloThreshold = o'.sloThreshold

lemma Shows.agree {scenario : Scenario} {breach : Conductor.Breach} {o o' : IncidentObservation}
    (h : Shows c w₀ scenario breach o) (h' : Shows c w₀ scenario breach o') : Agree o o' where
  incidentId := h.incidentId.trans h'.incidentId.symm
  title := h.title.trans h'.title.symm
  service := h.service.trans h'.service.symm
  severity := h.severity.trans h'.severity.symm
  signal := h.signal.trans h'.signal.symm
  sloKind := h.sloKind.trans h'.sloKind.symm
  sloCurrentValue := h.sloCurrentValue.trans h'.sloCurrentValue.symm
  sloThreshold := Option.some.inj (h.sloThreshold.trans h'.sloThreshold.symm)

/-- An injection that returns leaves an incident whose observation shows the scenario and its breach. -/
lemma injectNext_shows {s s' : Simulation} {incident : Simulator.Incident} (followed : Followed c w₀ s.nextScenario s.world)
    (distinct : DistinctScenarios c) (returned : c.injectNext s = (.ok incident, s')) :
    ∃ scenario breach w w₁ o, c.scenarios[s.nextScenario]? = some scenario ∧
      c.injectFault scenario w = (.ok breach, w₁) ∧
      observeIncident s'.world incident.incidentId = .ok o ∧ Shows c w₀ scenario breach o := by
  cases next : c.scenarios[s.nextScenario]? with
  | none =>
    unfold Conductor.injectNext at returned
    rw [next] at returned
    cases returned
  | some scenario =>
    obtain ⟨_, ⟨_, ⟨e, raised⟩, _⟩ | ⟨_, injected⟩⟩ := injectNext_injected next
    · rw [returned] at raised
      cases raised
    rw [returned] at injected
    generalize e : (Except.ok incident : Except Raised Simulator.Incident) = out at injected
    cases injected with
    | failed => cases e
    | halfOpened => cases e
    | outOfTime => cases e
    | @opened breach w₁ _ fault faulted opened =>
      cases e
      have struck : Followed c w₀ s.nextScenario w₁ := followed.same faulted.disturbed.slos faulted.disturbed.alerts
      obtain ⟨o, observed, shows'⟩ := observe_opened struck next distinct faulted.unhealthy opened
      exact ⟨scenario, breach, _, w₁, o, rfl, fault, observed, shows'⟩

/-- Two runs with as many injections, whatever else they do: if the next injection returns in both, the
observations of its incident agree, and so do the query and the hits of any responder. -/
theorem streams_agree {calls calls' : List Conductor.Call} {incident incident' : Simulator.Incident} {s s' : Simulation}
    (loaded : c.loadWorld = .ok w₀) (distinct : DistinctScenarios c)
    (same : calls.count .injectNext = calls'.count .injectNext)
    (returned : c.injectNext (Run.run c.step { world := w₀ } calls) = (.ok incident, s))
    (returned' : c.injectNext (Run.run c.step { world := w₀ } calls') = (.ok incident', s')) :
    ∃ o o', observeIncident s.world incident.incidentId = .ok o ∧
      observeIncident s'.world incident'.incidentId = .ok o' ∧ Agree o o' ∧
      ∀ r : ProceduralMemoryResponder, r.query o = r.query o' ∧ (r.decide o).retrieved = (r.decide o').retrieved := by
  have place : (Run.run c.step { world := w₀ } calls).nextScenario =
      (Run.run c.step { world := w₀ } calls').nextScenario := by
    rw [nextScenario_run (Nat.zero_le _), nextScenario_run (Nat.zero_le _), same]
  obtain ⟨scenario, breach, w, w₁, o, next, fault, observed, shown⟩ :=
    injectNext_shows (run_followed loaded) distinct returned
  obtain ⟨scenario', breach', w', w₁', o', next', fault', observed', shown'⟩ :=
    injectNext_shows (run_followed loaded) distinct returned'
  rw [place] at next
  cases next.symm.trans next'
  cases injectFault_agrees w w' breach breach' w₁ w₁' fault fault'
  have agree := shown.agree shown'
  refine ⟨o, o', observed, observed', agree, ?_⟩
  intro r
  have query : r.query o = r.query o' := ProceduralMemoryResponder.query_congr agree.title agree.signal
  refine ⟨query, ?_⟩
  rw [ProceduralMemoryResponder.decide_retrieved, ProceduralMemoryResponder.decide_retrieved, query]

lemma twoDeploys_distinct : DistinctScenarios Sample.twoDeploys where
  scenarios := by decide +kernel
  incidents := by decide +kernel

/-- The first injection alone, and with a rollback and a pause after it: the second incident looks the same. -/
theorem streams_agree_sample : ∃ incident incident' s s' o o',
    Sample.twoDeploys.injectNext (Run.run Sample.twoDeploys.step { world := Sample.start Sample.twoDeploys }
      [.injectNext]) = (.ok incident, s) ∧
    Sample.twoDeploys.injectNext (Run.run Sample.twoDeploys.step { world := Sample.start Sample.twoDeploys }
      [.injectNext, .applyAction Sample.rollback, .advanceTime 5000000]) = (.ok incident', s') ∧
    observeIncident s.world incident.incidentId = .ok o ∧ observeIncident s'.world incident'.incidentId = .ok o' ∧
    Agree o o' := by
  have returns : ∀ out : Except Raised Simulator.Incident × Simulation, out.1.isOk = true →
      ∃ incident s, out = (.ok incident, s) := by
    rintro ⟨_ | incident, s⟩ ok
    · cases ok
    · exact ⟨incident, s, rfl⟩
  obtain ⟨incident, s, returned⟩ := returns (Sample.twoDeploys.injectNext (Run.run Sample.twoDeploys.step
    { world := Sample.start Sample.twoDeploys } [.injectNext])) (by decide +kernel)
  obtain ⟨incident', s', returned'⟩ := returns (Sample.twoDeploys.injectNext (Run.run Sample.twoDeploys.step
    { world := Sample.start Sample.twoDeploys } [.injectNext, .applyAction Sample.rollback, .advanceTime 5000000]))
    (by decide +kernel)
  obtain ⟨o, o', observed, observed', agree, _⟩ :=
    streams_agree rfl twoDeploys_distinct (by decide) returned returned'
  exact ⟨incident, incident', s, s', o, o', returned, returned', observed, observed', agree⟩

end Postmortem.Evaluation
