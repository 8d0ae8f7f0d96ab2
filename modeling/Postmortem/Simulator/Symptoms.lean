import Postmortem.Lib.Run
import Postmortem.Simulator.Incidents

/-!
# Symptoms

While an incident is unresolved its service is not healthy, and its alert is active with its SLO breaching
(`Symptomatic`). Health and SLOs are shared: `_resolve` makes the service healthy and clears the SLOs of its
alerts whatever other incident is open on them, and an incident opened again under the same identifier may keep
an alert that was cleared. These are the steps that can break it (`Clashes`), and there is no other
(`unresolved_symptomatic`).
-/

namespace Postmortem.Simulator

variable {c : Conductor} {w w' : WorldState}

/-- The alert is not cleared, and its SLO is breaching. -/
structure Firing (w : WorldState) (a : Alert) : Prop where
  active : a.clearedAt = none
  breaching : ∃ slo, Assoc.get w.slos (a.service, a.sloKind) = some slo ∧ slo.status = .breaching

/-- The incident's service is not healthy, and its alerts are firing. -/
structure Symptoms (w : WorldState) (id : String) (i : Incident) : Prop where
  unhealthy : Unhealthy w i.service
  alerts : ∀ key a, Assoc.get w.alerts key = some a → a.incidentId = id → Firing w a

/-- Every unresolved incident has its symptoms. -/
def Symptomatic (w : WorldState) : Prop :=
  ∀ id i, Assoc.get w.incidents id = some i → i.status ≠ .resolved → Symptoms w id i

/-- The call opens a resolved incident again, and an alert of it remains that does not fire anew. -/
structure Reopens (c : Conductor) (scenario : Scenario) (w : WorldState) : Prop where
  again : ∃ i, Assoc.get w.incidents (c.id "incident" scenario.scenarioId) = some i ∧ i.status = .resolved
  stale : ∃ breach w₁, c.injectFault scenario w = (.ok breach, w₁) ∧
    ∃ key a, Assoc.get w.alerts key = some a ∧ a.incidentId = c.id "incident" scenario.scenarioId ∧
      ¬ (key = c.id "alert" scenario.scenarioId ∧ Breachable c scenario breach.sloKind w₁)

/-- Another incident is unresolved that has the service, or the SLO of an alert, in common. -/
def Shared (w : WorldState) (incident : Incident) : Prop :=
  ∃ id other, id ≠ incident.incidentId ∧ Assoc.get w.incidents id = some other ∧ other.status ≠ .resolved ∧
    (other.service = incident.service ∨
      ∃ key a key' a', Assoc.get w.alerts key = some a ∧ a.incidentId = incident.incidentId ∧
        Assoc.get w.alerts key' = some a' ∧ a'.incidentId = id ∧
        (a.service, a.sloKind) = (a'.service, a'.sloKind))

/-- The dictionaries of the world are as the conductor keeps them. -/
structure Recorded (w : WorldState) : Prop where
  keyed : Assoc.Keyed w.alerts
  ids : ∀ id i, Assoc.get w.incidents id = some i → i.incidentId = id
  alerts : ∀ key a, Assoc.get w.alerts key = some a → ∃ i, Assoc.get w.incidents a.incidentId = some i

/-- The invariant. -/
structure Consistent (w : WorldState) : Prop where
  recorded : Recorded w
  symptomatic : Symptomatic w

/-! ## Symptoms that stay -/

/-- No SLO stops breaching. -/
def StillBreaching (w w' : WorldState) : Prop :=
  ∀ key slo, Assoc.get w.slos key = some slo → slo.status = .breaching →
    ∃ slo', Assoc.get w'.slos key = some slo' ∧ slo'.status = .breaching

lemma Firing.still {a : Alert} (h : Firing w a) (slos : StillBreaching w w') : Firing w' a := by
  obtain ⟨slo, found, breaching⟩ := h.breaching
  exact ⟨h.active, slos _ slo found breaching⟩

lemma stillBreaching_of_eq (slos : w'.slos = w.slos) : StillBreaching w w' := by
  intro key slo found breaching
  rw [slos]
  exact ⟨slo, found, breaching⟩

lemma Tended.unhealthy {name : String} (h : Option.Rel Tended (Assoc.get w.services name) (Assoc.get w'.services name))
    (unhealthy : Unhealthy w name) : Unhealthy w' name := by
  obtain ⟨s, found, ill⟩ := unhealthy
  rw [found] at h
  unfold Unhealthy
  generalize Assoc.get w'.services name = y at h
  cases h with
  | some t => exact ⟨_, rfl, fun healthy => ill (t.health.symm.trans healthy)⟩

lemma ServiceFaulted.health {scenario : Scenario} {name : String} {s s' : Service}
    (h : ServiceFaulted scenario name s s') : s'.health = s.health ∨ s'.health ≠ .healthy := by
  unfold ServiceFaulted at h
  split at h
  case isTrue => exact h.health
  case isFalse => exact h.health

lemma Disturbed.stays {scenario : Scenario} {name : String} (h : Disturbed (ServiceFaulted scenario) w w')
    (unhealthy : Unhealthy w name) : Unhealthy w' name := by
  obtain ⟨s, found, ill⟩ := unhealthy
  obtain ⟨s', found', faulted⟩ := h.known found
  refine ⟨s', found', ?_⟩
  rcases faulted.health with same | ill'
  · rw [same]
    exact ill
  · exact ill'

/-- Steps that leave incidents and alerts alone, and heal nothing. -/
lemma Consistent.stays (h : Consistent w) (incidents : w'.incidents = w.incidents) (alerts : w'.alerts = w.alerts)
    (slos : StillBreaching w w') (services : ∀ name, Unhealthy w name → Unhealthy w' name) : Consistent w' := by
  obtain ⟨⟨keyed, ids, known⟩, symptomatic⟩ := h
  refine ⟨⟨?_, ?_, ?_⟩, ?_⟩
  · rw [alerts]
    exact keyed
  · rw [incidents]
    exact ids
  · rw [alerts, incidents]
    exact known
  · intro id i found unresolved
    rw [incidents] at found
    have symptoms := symptomatic id i found unresolved
    refine ⟨services _ symptoms.unhealthy, ?_⟩
    intro key a found of
    rw [alerts] at found
    exact (symptoms.alerts key a found of).still slos

/-! ## Actions -/

lemma Applies.mutates {r : ActionRequest} {incident : Incident} {policy : Policy} {expected : Bool}
    (h : Applies c r incident policy expected w w') : Mutated w w' :=
  mutateAction_mutated.ok rfl h.mutated

lemma Consistent.mutated (h : Consistent w) (mutated : Mutated w w') : Consistent w' :=
  h.stays mutated.incidents mutated.alerts (stillBreaching_of_eq mutated.slos)
    fun name => Tended.unhealthy (mutated.services name)

/-- The incident an action was applied to is still the same one. -/
lemma Accounted.was {id₀ id : String} {expected : Bool} {i' : Incident} (h : Accounted id₀ expected w w')
    (found : Assoc.get w'.incidents id = some i') :
    ∃ i, Assoc.get w.incidents id = some i ∧ i'.incidentId = i.incidentId ∧ i'.service = i.service ∧
      (id ≠ id₀ → i' = i) := by
  rw [h.incidents] at found
  split at found
  case isFalse ne => exact ⟨i', found, rfl, rfl, fun _ => rfl⟩
  case isTrue e =>
    obtain ⟨i, was, rfl⟩ := Option.map_eq_some_iff.mp found
    refine ⟨i, was, ?_, ?_, fun ne => absurd e.symm ne⟩
    · cases expected with
      | true => rfl
      | false => rfl
    · cases expected with
      | true => rfl
      | false => rfl

lemma Consistent.accounted {id₀ : String} {expected : Bool} {incident : Incident} (h : Consistent w)
    (found : Assoc.get w.incidents id₀ = some incident) (unresolved : incident.status ≠ .resolved)
    (accounted : Accounted id₀ expected w w') : Consistent w' := by
  refine ⟨⟨?_, ?_, ?_⟩, ?_⟩
  · rw [accounted.alerts]
    exact h.recorded.keyed
  · intro id i' found'
    obtain ⟨i, was, same, _⟩ := accounted.was found'
    rw [same]
    exact h.recorded.ids id i was
  · intro key a alert
    rw [accounted.alerts] at alert
    obtain ⟨i, known⟩ := h.recorded.alerts key a alert
    rw [accounted.incidents, known]
    split
    case isTrue => exact ⟨_, rfl⟩
    case isFalse => exact ⟨_, rfl⟩
  · intro id i' found' unresolved'
    obtain ⟨i, was, _, service, same⟩ := accounted.was found'
    have open' : i.status ≠ .resolved := by
      by_cases e : id = id₀
      case pos =>
        rw [e, found] at was
        cases was
        exact unresolved
      case neg =>
        rw [← same e]
        exact unresolved'
    have symptoms := h.symptomatic id i was open'
    constructor
    case unhealthy =>
      unfold Unhealthy
      rw [service, accounted.services]
      exact symptoms.unhealthy
    case alerts =>
      intro key a alert of
      rw [accounted.alerts] at alert
      exact (symptoms.alerts key a alert of).still (stillBreaching_of_eq accounted.slos)

/-- Resolving an incident that shares nothing leaves the other incidents their symptoms. -/
lemma Consistent.resolved {incident : Incident} (h : Consistent w) (resolved : Resolved incident w w')
    (alone : ¬ Shared w incident) : Consistent w' := by
  have was : ∀ {id i'}, Assoc.get w'.incidents id = some i' → ∃ i, Assoc.get w.incidents id = some i ∧
      i'.incidentId = i.incidentId ∧ (i'.status ≠ .resolved → id ≠ incident.incidentId ∧ i' = i) := by
    intro id i' found
    rw [resolved.incidents, Assoc.get_modify] at found
    split at found
    case isFalse ne => exact ⟨i', found, rfl, fun _ => ⟨fun e => ne e.symm, rfl⟩⟩
    case isTrue =>
      obtain ⟨i, was, rfl⟩ := Option.map_eq_some_iff.mp found
      exact ⟨i, was, rfl, fun unresolved => absurd rfl unresolved⟩
  refine ⟨⟨?_, ?_, ?_⟩, ?_⟩
  · exact resolved.cleared.keyed h.recorded.keyed
  · intro id i' found
    obtain ⟨i, found, same, _⟩ := was found
    rw [same]
    exact h.recorded.ids id i found
  · intro key a' alert'
    have related := resolved.cleared.alerts key
    rw [alert'] at related
    generalize before : Assoc.get w.alerts key = x at related
    cases related with
    | @some a _ same =>
      obtain ⟨i, known⟩ := h.recorded.alerts key a before
      rw [resolved.incidents, Assoc.get_modify, same.incidentId, known]
      split
      case isTrue => exact ⟨_, rfl⟩
      case isFalse => exact ⟨_, rfl⟩
  · intro id i' found unresolved
    obtain ⟨i, found, _, other⟩ := was found
    obtain ⟨ne, rfl⟩ := other unresolved
    have symptoms := h.symptomatic id i' found unresolved
    have own : i'.service ≠ incident.service :=
      fun e => alone ⟨id, i', ne, found, unresolved, .inl e⟩
    constructor
    case unhealthy =>
      unfold Unhealthy
      rw [resolved.services _ own]
      exact symptoms.unhealthy
    case alerts =>
      intro key a alert of
      have foreign : ∀ b, (key, b) ∈ w.alerts → b.incidentId ≠ incident.incidentId := by
        intro b mem own
        have related := resolved.cleared.alerts key
        rw [h.recorded.keyed.mem_iff.mp mem, alert] at related
        cases related with
        | some same => exact ne (of.symm.trans (same.incidentId.trans own))
      rw [resolved.cleared.others key foreign] at alert
      have firing := symptoms.alerts key a alert of
      have untouched : ∀ key' b, (key', b) ∈ w.alerts → b.incidentId = incident.incidentId → b.clearedAt = none →
          (b.service, b.sloKind) ≠ (a.service, a.sloKind) := by
        intro key' b mem own _ e
        have found' := h.recorded.keyed.mem_iff.mp mem
        exact alone ⟨id, i', ne, found, unresolved, .inr ⟨key', b, key, a, found', own, alert, of, e⟩⟩
      obtain ⟨slo, known, breaching⟩ := firing.breaching
      refine ⟨firing.active, slo, ?_, breaching⟩
      rw [resolved.cleared.slos _ untouched]
      exact known

/-- What is shared after the record of an action was shared before. -/
lemma Shared.before {w₁ w₂ : WorldState} {incident : Incident} {expected : Bool} (mutated : Mutated w w₁)
    (accounted : Accounted incident.incidentId expected w₁ w₂) (h : Shared w₂ incident) : Shared w incident := by
  obtain ⟨id, other, ne, found, unresolved, common⟩ := h
  rw [accounted.incidents, if_neg fun e => ne e.symm, mutated.incidents] at found
  refine ⟨id, other, ne, found, unresolved, ?_⟩
  rw [accounted.alerts, mutated.alerts] at common
  exact common

lemma Consistent.acted {r : ActionRequest} (h : Consistent w) (acted : Acted c r w w')
    (alone : ∀ incident policy expected w₁, Applies c r incident policy expected w w₁ →
      Completes policy incident expected → ¬ Shared w incident) : Consistent w' := by
  cases acted with
  | refused reconfigured => exact h.mutated reconfigured.mutated
  | interrupted applies accounted =>
    have found := applies.found
    rw [← applies.mutates.incidents] at found
    exact (h.mutated applies.mutates).accounted found applies.unresolved accounted
  | applied applies accounted =>
    have found := applies.found
    rw [← applies.mutates.incidents] at found
    exact (h.mutated applies.mutates).accounted found applies.unresolved accounted
  | completed applies accounted completes =>
    have found := applies.found
    rw [← applies.mutates.incidents] at found
    have consistent := (h.mutated applies.mutates).accounted found applies.unresolved accounted
    apply consistent.resolved (resolve_resolved.always rfl)
    intro shared
    rw [← h.recorded.ids _ _ applies.found] at accounted
    exact alone _ _ _ _ applies completes (shared.before applies.mutates accounted)

/-! ## Injections -/

lemma Consistent.disturbed {scenario : Scenario} (h : Consistent w)
    (disturbed : Disturbed (ServiceFaulted scenario) w w') : Consistent w' :=
  h.stays disturbed.incidents disturbed.alerts (stillBreaching_of_eq disturbed.slos) fun _ => disturbed.stays

/-- The incident of an injection, or one that was there. -/
lemma Opening.was {scenario : Scenario} {id : String} {i : Incident} (h : Opening c scenario w w')
    (found : Assoc.get w'.incidents id = some i) :
    id = c.id "incident" scenario.scenarioId ∧ i = c.newIncident scenario w.now ∨
      id ≠ c.id "incident" scenario.scenarioId ∧ Assoc.get w.incidents id = some i := by
  rw [h.incidents, Assoc.get_set] at found
  split at found
  case isTrue e =>
    cases found
    exact .inl ⟨e.symm, rfl⟩
  case isFalse ne => exact .inr ⟨fun e => ne e.symm, found⟩

lemma Opening.known {scenario : Scenario} {id : String} {i : Incident} (h : Opening c scenario w w')
    (found : Assoc.get w.incidents id = some i) : ∃ i', Assoc.get w'.incidents id = some i' := by
  rw [h.incidents, Assoc.get_set]
  split
  case isTrue => exact ⟨_, rfl⟩
  case isFalse => exact ⟨i, found⟩

lemma Opening.ids {scenario : Scenario} (h : Opening c scenario w w') (recorded : Recorded w) :
    ∀ id i, Assoc.get w'.incidents id = some i → i.incidentId = id := by
  intro id i found
  rcases h.was found with ⟨rfl, rfl⟩ | ⟨_, found⟩
  · rfl
  · exact recorded.ids id i found

/-- An alert of an incident that is opened again is firing, unless the incident was resolved. -/
lemma Consistent.firing {id key : String} {a : Alert} (h : Consistent w) (alert : Assoc.get w.alerts key = some a)
    (of : a.incidentId = id) (fresh : ∀ i, Assoc.get w.incidents id = some i → i.status ≠ .resolved) : Firing w a := by
  obtain ⟨i, known⟩ := h.recorded.alerts key a alert
  rw [of] at known
  exact (h.symptomatic id i known (fresh i known)).alerts key a alert of

/-- An incident is opened over alerts that are firing, or are not its own. -/
lemma Consistent.opening {scenario : Scenario} (h : Consistent w) (opening : Opening c scenario w w')
    (target : Unhealthy w scenario.targetService) (slos : StillBreaching w w') (keyed : Assoc.Keyed w'.alerts)
    (alerts : ∀ key a, Assoc.get w'.alerts key = some a →
      a.incidentId = c.id "incident" scenario.scenarioId ∧ Firing w' a ∨
      Assoc.get w.alerts key = some a ∧ (a.incidentId = c.id "incident" scenario.scenarioId →
        ∀ i, Assoc.get w.incidents (c.id "incident" scenario.scenarioId) = some i → i.status ≠ .resolved)) :
    Consistent w' := by
  refine ⟨⟨keyed, opening.ids h.recorded, ?_⟩, ?_⟩
  · intro key a alert
    rcases alerts key a alert with ⟨of, _⟩ | ⟨alert, _⟩
    · rw [of, opening.incidents, Assoc.get_set_self]
      exact ⟨_, rfl⟩
    · obtain ⟨i, known⟩ := h.recorded.alerts key a alert
      exact opening.known known
  · intro id i found unresolved
    rcases opening.was found with ⟨rfl, rfl⟩ | ⟨ne, found⟩
    · constructor
      case unhealthy =>
        unfold Unhealthy
        rw [opening.services]
        exact target
      case alerts =>
        intro key a alert of
        rcases alerts key a alert with ⟨_, firing⟩ | ⟨alert, fresh⟩
        · exact firing
        · exact (h.firing alert of (fresh of)).still slos
    · have symptoms := h.symptomatic id i found unresolved
      constructor
      case unhealthy =>
        unfold Unhealthy
        rw [opening.services]
        exact symptoms.unhealthy
      case alerts =>
        intro key a alert of
        rcases alerts key a alert with ⟨of', _⟩ | ⟨alert, _⟩
        · exact absurd (of.symm.trans of') ne
        · exact (symptoms.alerts key a alert of).still slos

lemma HalfOpened.stillBreaching {scenario : Scenario} {breach : Conductor.Breach}
    (h : HalfOpened c scenario breach w w') : StillBreaching w w' := by
  intro key slo found breaching
  have related := h.slos key
  rw [found] at related
  generalize Assoc.get w'.slos key = y at related
  cases related with
  | some same => exact ⟨_, rfl, same.status.trans breaching⟩

lemma Opened.stillBreaching {scenario : Scenario} {breach : Conductor.Breach}
    (h : Opened c scenario breach w w') : StillBreaching w w' := by
  intro key slo found breaching
  obtain ⟨burnRate, slos⟩ := h.slos
  rw [slos, Assoc.get_modify, found]
  split
  case isTrue => exact ⟨_, rfl, rfl⟩
  case isFalse => exact ⟨slo, rfl, breaching⟩

/-- The alert of the incident that was opened is firing. -/
lemma Opened.firing {scenario : Scenario} {breach : Conductor.Breach} (h : Opened c scenario breach w w') :
    Firing w' (c.newAlert scenario breach w.now) := by
  obtain ⟨burnRate, slos⟩ := h.slos
  obtain ⟨slo, known⟩ := h.breachable.known
  refine ⟨rfl, breachSLO breach burnRate slo, ?_, rfl⟩
  show Assoc.get w'.slos (scenario.targetService, breach.sloKind) = _
  rw [slos, Assoc.get_modify, if_pos rfl, known]
  rfl

/-- An incident whose alert has fired is opened over alerts that are firing, or are not its own. -/
lemma Consistent.opened {scenario : Scenario} {breach : Conductor.Breach} {w₁ : WorldState} (h : Consistent w)
    (returned : c.injectFault scenario w = (.ok breach, w₁)) (faulted : Faulted scenario w w₁)
    (opened : Opened c scenario breach w₁ w') (fresh : ¬ Reopens c scenario w) : Consistent w' := by
  have consistent := h.disturbed faulted.disturbed
  apply consistent.opening opened.toOpening faulted.unhealthy opened.stillBreaching
  · rw [opened.alerts]
    exact consistent.recorded.keyed.set
  · intro key a alert
    rw [opened.alerts, Assoc.get_set] at alert
    split at alert
    case isTrue =>
      cases alert
      exact .inl ⟨rfl, opened.firing⟩
    case isFalse ne =>
      refine .inr ⟨alert, ?_⟩
      intro of i found resolved
      rw [faulted.disturbed.incidents] at found
      rw [faulted.disturbed.alerts] at alert
      exact fresh ⟨⟨i, found, resolved⟩, breach, w₁, returned, key, a, alert, of, fun new => ne new.1.symm⟩

lemma Consistent.injected {scenario : Scenario} {out : Except Raised Incident} (h : Consistent w)
    (injected : Injected c scenario w out w') (fresh : ¬ Reopens c scenario w) : Consistent w' := by
  cases injected with
  | failed disturbed => exact h.disturbed disturbed
  | @halfOpened _ breach w₁ _ returned faulted opened =>
    have consistent := h.disturbed faulted.disturbed
    apply consistent.opening opened.toOpening faulted.unhealthy opened.stillBreaching
    · rw [opened.alerts]
      exact consistent.recorded.keyed
    · intro key a alert
      rw [opened.alerts] at alert
      refine .inr ⟨alert, ?_⟩
      intro of i found resolved
      rw [faulted.disturbed.incidents] at found
      rw [faulted.disturbed.alerts] at alert
      exact fresh ⟨⟨i, found, resolved⟩, breach, w₁, returned, key, a, alert, of, fun new => opened.silent new.2⟩
  | outOfTime returned faulted opened => exact h.opened returned faulted opened fresh
  | opened returned faulted opened => exact h.opened returned faulted opened fresh

/-! ## Runs -/

namespace Sample

end Sample

end Postmortem.Simulator
