import Postmortem.Simulator.Faults

/-!
# What a call does to incidents and their symptoms

`_open_incident` opens the incident before it looks for the SLO, so that a call that raises leaves an incident
without an alert (`HalfOpened`). An action that is refused changes nothing; one that is applied keeps the
health of every service, and only the last expected action of an incident resolves it (`applyAction_cases`).
-/

namespace Postmortem.Simulator

variable {c : Conductor}

/-- The world that is loaded. -/
lemma loadWorld_eq {w : WorldState} (loaded : c.loadWorld = .ok w) :
    ∃ slos configs, c.fixture.slos.mapM c.loadSLO = .ok slos ∧ c.fixture.configs.mapM c.loadConfig = .ok configs ∧
      w = {
        now := c.fixture.startTime
        services := Conductor.index ServiceItem.name c.loadService c.fixture.services
        dependencies := Conductor.index DependencyItem.dependencyKey c.loadDependency c.fixture.dependencies
        slos := Conductor.index (fun s => (s.service, s.kind)) (fun s => s) slos
        configs
        deployments :=
          (Conductor.index ServiceItem.name c.loadService c.fixture.services).map fun s => c.loadDeployment s.2 } := by
  unfold Conductor.loadWorld at loaded
  obtain ⟨slos, readable, loaded⟩ := bind_ok loaded
  obtain ⟨configs, encoded, loaded⟩ := bind_ok loaded
  cases loaded
  exact ⟨slos, configs, readable, encoded, rfl⟩

/-! ## Opening -/

/-- The SLO has the same threshold and the same status. -/
structure SameSLO (s s' : SLO) : Prop where
  threshold : s'.threshold = s.threshold
  status : s'.status = s.status

/-- What opening an incident changes first. -/
structure Opening (c : Conductor) (scenario : Scenario) (w w' : WorldState) : Prop where
  services : w'.services = w.services
  incidents : w'.incidents =
    Assoc.set w.incidents (c.id "incident" scenario.scenarioId) (c.newIncident scenario w.now)

/-- The SLO can breach: it exists, and the burn rate can be read. -/
structure Breachable (c : Conductor) (scenario : Scenario) (sloKind : String) (w : WorldState) : Prop where
  known : ∃ slo, Assoc.get w.slos (scenario.targetService, sloKind) = some slo
  burns : ∃ burnRate, Python.float c.rt (Dict.getD scenario.fault "burn_rate" (.float 8)) = .ok burnRate

/-- The SLO after the breach. -/
def breachSLO (breach : Conductor.Breach) (burnRate : Flt) (s : SLO) : SLO :=
  { s with currentValue := breach.currentValue, burnRate, status := .breaching }

/-- The incident is open, its SLO is breaching and its alert has fired. -/
structure Opened (c : Conductor) (scenario : Scenario) (breach : Conductor.Breach) (w w' : WorldState) : Prop
    extends Opening c scenario w w' where
  breachable : Breachable c scenario breach.sloKind w
  slos : ∃ burnRate, w'.slos =
    Assoc.modify (breachSLO breach burnRate) w.slos (scenario.targetService, breach.sloKind)
  alerts : w'.alerts =
    Assoc.set w.alerts (c.id "alert" scenario.scenarioId) (c.newAlert scenario breach w.now)

/-- The incident is open and no alert has fired. -/
structure HalfOpened (c : Conductor) (scenario : Scenario) (breach : Conductor.Breach) (w w' : WorldState) : Prop
    extends Opening c scenario w w' where
  silent : ¬ Breachable c scenario breach.sloKind w
  slos : ∀ key, Option.Rel SameSLO (Assoc.get w.slos key) (Assoc.get w'.slos key)
  alerts : w'.alerts = w.alerts

lemma sameSLO_refl {slos : List ((String × String) × SLO)} {key} :
    Option.Rel SameSLO (Assoc.get slos key) (Assoc.get slos key) := by
  cases Assoc.get slos key with
  | none => exact .none
  | some s => exact .some ⟨rfl, rfl⟩

lemma announce_opens {scenario : Scenario} {breach : Conductor.Breach} {w₀ : WorldState} :
    Effect.Meets (· = w₀) (c.announce scenario breach)
      (fun incident w => incident = c.newIncident scenario w₀.now ∧ Opened c scenario breach w₀ w)
      (fun _ => HalfOpened c scenario breach w₀) := by
  rintro w rfl
  cases known : Assoc.get w.slos (scenario.targetService, breach.sloKind) with
  | none =>
    have silent : ¬ Breachable c scenario breach.sloKind w := by
      rintro ⟨⟨slo, found⟩, _⟩
      rw [known] at found
      cases found
    simp only [Conductor.announce, Effect.bind_apply, Effect.read, Effect.next, Effect.update, Effect.lift,
      known, orRaise]
    exact ⟨⟨rfl, rfl⟩, silent, fun key => sameSLO_refl, rfl⟩
  | some slo =>
    cases burns : Python.float c.rt (Dict.getD scenario.fault "burn_rate" (.float 8)) with
    | error e =>
      have silent : ¬ Breachable c scenario breach.sloKind w := by
        rintro ⟨_, burnRate, found⟩
        rw [burns] at found
        cases found
      simp only [Conductor.announce, Effect.bind_apply, Effect.read, Effect.next, Effect.update, Effect.lift,
        known, orRaise, burns]
      refine ⟨⟨rfl, rfl⟩, silent, ?_, rfl⟩
      intro key
      unfold WorldState.onSLO
      rw [Assoc.get_modify]
      split
      case isTrue =>
        cases Assoc.get w.slos key with
        | none => exact .none
        | some s => exact .some ⟨rfl, rfl⟩
      case isFalse => exact sameSLO_refl
    | ok burnRate =>
      simp only [Conductor.announce, Effect.bind_apply, Effect.read, Effect.next, Effect.update, Effect.lift,
        known, orRaise, burns]
      refine ⟨rfl, ⟨rfl, rfl⟩, ⟨⟨slo, known⟩, burnRate, burns⟩, ⟨burnRate, ?_⟩, rfl⟩
      exact Assoc.modify_modify

/-- Orders were written, and nothing else. -/
def Ordered (w w' : WorldState) : Prop := ∃ orders, w' = { w with orders }

lemma addOrders_ordered {incident : Incident} {errorCode : String} {indices : List Nat} {w₀ : WorldState} :
    Effect.Meets (Ordered w₀) (c.addOrders incident errorCode indices) (fun _ => Ordered w₀)
      (fun _ => Ordered w₀) := by
  induction indices with
  | nil => exact Effect.Meets.pure fun _ h => h
  | cons index rest ih =>
    apply Effect.Meets.bind (Effect.Meets.read fun _ h => h)
    intro w
    apply Effect.Meets.bind (Effect.Meets.lift_keeps fun _ _ h => h)
    intro createdAt
    apply Effect.Meets.bind (Q := fun _ => Ordered w₀)
    · apply Effect.Meets.update
      rintro _ ⟨orders, rfl⟩
      exact ⟨_, rfl⟩
    exact fun _ => ih

lemma Opened.ordered {scenario : Scenario} {breach : Conductor.Breach} {w w₁ w₂ : WorldState}
    (h : Opened c scenario breach w w₁) (ordered : Ordered w₁ w₂) : Opened c scenario breach w w₂ := by
  obtain ⟨orders, rfl⟩ := ordered
  exact ⟨⟨h.services, h.incidents⟩, h.breachable, h.slos, h.alerts⟩

/-- Opening raises with the incident open and no alert, or with the alert and not all of the orders. -/
lemma openIncident_opens {scenario : Scenario} {breach : Conductor.Breach} {w₀ : WorldState} :
    Effect.Meets (· = w₀) (c.openIncident scenario breach)
      (fun incident w => incident = c.newIncident scenario w₀.now ∧ Opened c scenario breach w₀ w)
      (fun _ w => HalfOpened c scenario breach w₀ w ∨ Opened c scenario breach w₀ w) := by
  apply Effect.Meets.bind
    (Q := fun incident w => incident = c.newIncident scenario w₀.now ∧ Opened c scenario breach w₀ w)
  · exact announce_opens.mono (fun _ h => h) (fun _ _ h => h) fun _ _ => .inl
  rintro incident w ⟨rfl, opened⟩
  refine Effect.Meets.bind (Q := fun _ => Ordered w) (P := (· = w)) ?_ ?_ w rfl
  · apply addOrders_ordered.mono
    · rintro _ rfl
      exact ⟨_, rfl⟩
    · exact fun _ _ h => h
    · exact fun _ _ ordered => .inr (opened.ordered ordered)
  intro _
  exact Effect.Meets.pure fun _ ordered => ⟨rfl, opened.ordered ordered⟩

/-- What an injection can do to the world, and whether it returns. -/
inductive Injected (c : Conductor) (scenario : Scenario) (w : WorldState) : Except Raised Incident → WorldState → Prop
  | failed {e w'} :
    Disturbed (ServiceFaulted scenario) w w' →
    Injected c scenario w (.error e) w'
  | halfOpened {e breach w₁ w'} :
    c.injectFault scenario w = (.ok breach, w₁) →
    Faulted scenario w w₁ →
    HalfOpened c scenario breach w₁ w' →
    Injected c scenario w (.error e) w'
  | outOfTime {e breach w₁ w'} :
    c.injectFault scenario w = (.ok breach, w₁) →
    Faulted scenario w w₁ →
    Opened c scenario breach w₁ w' →
    Injected c scenario w (.error e) w'
  | opened {breach w₁ w'} :
    c.injectFault scenario w = (.ok breach, w₁) →
    Faulted scenario w w₁ →
    Opened c scenario breach w₁ w' →
    Injected c scenario w (.ok (c.newIncident scenario w₁.now)) w'

lemma inject_injected {scenario : Scenario} {w₀ : WorldState} :
    Effect.Meets (· = w₀) (c.inject scenario) (fun incident => Injected c scenario w₀ (.ok incident))
      (fun e => Injected c scenario w₀ (.error e)) := by
  apply Effect.Meets.bind
    (Q := fun breach w => Faulted scenario w₀ w ∧ c.injectFault scenario w₀ = (.ok breach, w))
  · apply injectFault_faulted.outcome.mono
    · exact fun _ h => h
    · exact fun _ _ h => h
    · exact fun _ _ => .failed
  rintro breach w ⟨faulted, returned⟩
  have opens := @openIncident_opens c scenario breach w w rfl
  revert opens
  generalize c.openIncident scenario breach w = out
  obtain ⟨_ | _, _⟩ := out
  case ok =>
    rintro ⟨rfl, opened⟩
    exact .opened returned faulted opened
  case error =>
    rintro (opened | opened)
    · exact .halfOpened returned faulted opened
    · exact .outOfTime returned faulted opened

/-- The clock when a scenario is injected. -/
def injectionTime (c : Conductor) (scenario : Scenario) (w : WorldState) : Timestamp :=
  max w.now (c.fixture.startTime + scenario.injectAtSeconds * 1000000)

/-- The time of a scenario can be computed. -/
def Schedulable (c : Conductor) (scenario : Scenario) : Prop :=
  inCalendar (c.fixture.startTime + scenario.injectAtSeconds * 1000000) = true

instance {scenario : Scenario} : Decidable (Schedulable c scenario) := inferInstanceAs (Decidable (_ = true))

/-- `inject_next` goes to the next scenario, and injects this one if its time can be computed. -/
lemma injectNext_injected {s : Simulation} {scenario : Scenario} (next : c.scenarios[s.nextScenario]? = some scenario) :
    (c.injectNext s).2.nextScenario = s.nextScenario + 1 ∧
      (¬ Schedulable c scenario ∧ (∃ e, (c.injectNext s).1 = .error e) ∧ (c.injectNext s).2.world = s.world ∨
        Schedulable c scenario ∧
          Injected c scenario { s.world with now := injectionTime c scenario s.world } (c.injectNext s).1
            (c.injectNext s).2.world) := by
  have injected := @inject_injected c scenario _ { s.world with now := injectionTime c scenario s.world } rfl
  unfold Conductor.injectNext instant Schedulable
  rw [next]
  dsimp only
  cases scheduled : inCalendar (c.fixture.startTime + scenario.injectAtSeconds * 1000000) with
  | false => exact ⟨rfl, .inl ⟨nofun, ⟨_, rfl⟩, rfl⟩⟩
  | true =>
    refine ⟨rfl, .inr ⟨rfl, ?_⟩⟩
    revert injected
    show _ → Injected c scenario _ (c.inject scenario { s.world with now := injectionTime c scenario s.world }).1
      (c.inject scenario { s.world with now := injectionTime c scenario s.world }).2
    generalize c.inject scenario { s.world with now := injectionTime c scenario s.world } = out
    obtain ⟨_ | _, _⟩ := out
    case ok => exact fun h => h
    case error => exact fun h => h

/-- `advance_time` moves the clock on, or leaves it. -/
lemma step_advanceTime {s : Simulation} {duration : Int} : ∃ now,
    c.step s (.advanceTime duration) = { s with world := { s.world with now } } ∧
      (now = s.world.now ∨ 0 ≤ duration ∧ now = s.world.now + duration ∧ inCalendar now = true) := by
  show ∃ now, { s with world := (Conductor.advanceTime duration s.world).2 } = _ ∧ _
  unfold Conductor.advanceTime
  split
  case isTrue => exact ⟨s.world.now, rfl, .inl rfl⟩
  case isFalse forwards =>
    simp only [Effect.bind_apply, Effect.read, Effect.next, Effect.lift, instant]
    cases inside : inCalendar (s.world.now + duration) with
    | true => exact ⟨s.world.now + duration, rfl, .inr ⟨not_lt.mp forwards, rfl, inside⟩⟩
    | false => exact ⟨s.world.now, rfl, .inl rfl⟩

/-! ## Acting -/

/-- The service has the same health and the same version to go back to. -/
structure Tended (s s' : Service) : Prop where
  health : s'.health = s.health
  previous : s'.previousStableVersion = s.previousStableVersion

/-- Nothing but services, the configuration, dependencies and deployments changed, and no service's health. -/
structure Mutated (w w' : WorldState) : Prop where
  incidents : w'.incidents = w.incidents
  alerts : w'.alerts = w.alerts
  slos : w'.slos = w.slos
  services : ∀ name, Option.Rel Tended (Assoc.get w.services name) (Assoc.get w'.services name)

lemma tended_refl {services : List (String × Service)} {name} :
    Option.Rel Tended (Assoc.get services name) (Assoc.get services name) := by
  cases Assoc.get services name with
  | none => exact .none
  | some s => exact .some ⟨rfl, rfl⟩

/-- A change to one service. -/
lemma Mutated.one {w w' : WorldState} {name : String} {f : Service → Service}
    (incidents : w'.incidents = w.incidents) (alerts : w'.alerts = w.alerts) (slos : w'.slos = w.slos)
    (services : w'.services = Assoc.modify f w.services name) (h : ∀ s, Tended s (f s)) : Mutated w w' := by
  refine ⟨incidents, alerts, slos, ?_⟩
  intro other
  rw [services, Assoc.get_modify]
  split
  case isTrue =>
    cases Assoc.get w.services other with
    | none => exact .none
    | some s => exact .some (h s)
  case isFalse => exact tended_refl

/-- A change to no service. -/
lemma Mutated.same {w w' : WorldState} (incidents : w'.incidents = w.incidents) (alerts : w'.alerts = w.alerts)
    (slos : w'.slos = w.slos) (services : w'.services = w.services) : Mutated w w' := by
  refine ⟨incidents, alerts, slos, ?_⟩
  rw [services]
  exact fun _ => tended_refl

/-- Nothing but the configuration changed. -/
def Reconfigured (w w' : WorldState) : Prop := ∃ configs, w' = { w with configs }

lemma Reconfigured.mutated {w w' : WorldState} (h : Reconfigured w w') : Mutated w w' := by
  obtain ⟨configs, rfl⟩ := h
  exact .same rfl rfl rfl rfl

lemma setConfig_reconfigured {service source : String} {key value : Json} {w₀ : WorldState} :
    Effect.Meets (· = w₀) (c.setConfig service key value source) (fun _ => Reconfigured w₀)
      (fun _ => Reconfigured w₀) := by
  apply setConfig_keeps
  · rintro _ configs rfl
    exact ⟨configs, rfl⟩
  · rintro _ _ configs rfl
    exact ⟨configs, rfl⟩

/-- A remediation keeps health and symptoms, and changes the configuration at most if it is refused. -/
lemma mutateAction_mutated {actionType targetService : String} {params : Dict} {w₀ : WorldState} :
    Effect.Meets (· = w₀) (c.mutateAction actionType targetService params) (fun _ => Mutated w₀)
      (fun _ => Reconfigured w₀) := by
  have refused : ∀ w, w = w₀ → Reconfigured w₀ w := by
    rintro w rfl
    exact ⟨w.configs, rfl⟩
  apply Effect.Meets.bind (Q := fun _ w => w = w₀)
  · exact getService_meets (fun _ _ h _ => h) fun _ w h _ => refused w h
  intro service
  split
  case h_1 =>
    split
    case h_1 version =>
      rintro w rfl
      exact Mutated.one rfl rfl rfl rfl fun _ => ⟨rfl, rfl⟩
    case h_2 => exact Effect.Meets.raise refused
  case h_2 =>
    split
    case h_1 =>
      apply setConfig_reconfigured.mono
      · exact fun _ h => h
      · exact fun _ _ => Reconfigured.mutated
      · exact fun _ _ h => h
    case h_2 => exact Effect.Meets.raise refused
  case h_3 =>
    rintro w rfl
    exact Mutated.one rfl rfl rfl rfl fun _ => ⟨rfl, rfl⟩
  case h_4 =>
    apply Effect.Meets.bind (Effect.Meets.read fun _ h => h)
    intro _
    apply Effect.Meets.bind (Effect.Meets.lift_keeps fun _ => refused)
    intro _
    apply Effect.Meets.bind (Effect.Meets.lift_keeps fun _ => refused)
    intro _
    rintro w rfl
    exact Mutated.same rfl rfl rfl rfl
  case h_5 =>
    split
    case h_1 =>
      split
      case isTrue => exact Effect.Meets.raise refused
      case isFalse =>
        rintro w rfl
        exact Mutated.one rfl rfl rfl rfl fun _ => ⟨rfl, rfl⟩
    case h_2 => exact Effect.Meets.raise refused
  case h_6 =>
    dsimp only
    split
    case h_1 =>
      split
      case isTrue =>
        apply setConfig_reconfigured.mono
        · exact fun _ h => h
        · exact fun _ _ => Reconfigured.mutated
        · exact fun _ _ h => h
      case isFalse => exact Effect.Meets.raise refused
    case h_2 => exact Effect.Meets.raise refused
  case h_7 =>
    rintro w rfl
    exact Mutated.same rfl rfl rfl rfl
  case h_8 =>
    rintro w rfl
    exact Mutated.same rfl rfl rfl rfl
  case h_9 => exact Effect.Meets.raise refused

/-- The incident after an action that was expected, or was not. -/
def accountIncident (isExpected : Bool) (i : Incident) : Incident :=
  if isExpected then { i with oracleStep := i.oracleStep + 1, status := .mitigating } else i

/-- The clock, the record of an action and the failed orders leave symptoms alone. -/
structure Accounted (incidentId : String) (isExpected : Bool) (w w' : WorldState) : Prop where
  services : w'.services = w.services
  alerts : w'.alerts = w.alerts
  slos : w'.slos = w.slos
  incidents : ∀ id, Assoc.get w'.incidents id =
    if incidentId = id then (Assoc.get w.incidents id).map (accountIncident isExpected)
    else Assoc.get w.incidents id

/-- Nothing but the clock, the orders and the actions changed. -/
lemma Accounted.idle {incidentId : String} {w w' : WorldState} (services : w'.services = w.services)
    (alerts : w'.alerts = w.alerts) (slos : w'.slos = w.slos) (incidents : w'.incidents = w.incidents) :
    Accounted incidentId false w w' := by
  refine ⟨services, alerts, slos, ?_⟩
  intro id
  rw [incidents]
  split
  case isTrue =>
    cases Assoc.get w.incidents id with
    | none => rfl
    | some _ => rfl
  case isFalse => rfl

/-- An accounting that raises has moved no incident on. -/
lemma account_accounted {r : ActionRequest} {incident : Incident} {policy : Policy} {isExpected : Bool}
    {w₀ : WorldState} :
    Effect.Meets (· = w₀) (c.account r incident policy isExpected) (fun _ => Accounted r.incidentId isExpected w₀)
      (fun _ => Accounted r.incidentId false w₀) := by
  apply Effect.Meets.read_bind
  rintro w rfl
  apply Effect.Meets.lift_bind
  case error =>
    rintro e _ w rfl
    exact .idle rfl rfl rfl rfl
  intro now _
  apply Effect.Meets.bind (Q := fun _ => (· = { w with now }))
  · apply Effect.Meets.update
    rintro _ rfl
    rfl
  intro _
  apply Effect.Meets.bind (Q := fun _ => Accounted r.incidentId isExpected w)
  · cases isExpected with
    | true =>
      refine Effect.Meets.update ?_
      rintro _ rfl
      exact ⟨rfl, rfl, rfl, fun id => Assoc.get_modify⟩
    | false =>
      apply (@addOrders_ordered c incident _ _ { w with now }).mono
      · rintro _ rfl
        exact ⟨w.orders, rfl⟩
      · rintro _ _ ⟨orders, rfl⟩
        exact .idle rfl rfl rfl rfl
      · rintro _ _ ⟨orders, rfl⟩
        exact .idle rfl rfl rfl rfl
  intro _
  apply Effect.Meets.bind (Effect.Meets.read fun _ h => h)
  intro w₁
  apply Effect.Meets.bind (Q := fun _ => Accounted r.incidentId isExpected w)
  · apply Effect.Meets.update
    intro w₂ h
    exact ⟨h.services, h.alerts, h.slos, h.incidents⟩
  exact fun _ => Effect.Meets.pure fun _ h => h

/-- The action is applied: the incident is not resolved, the service is known, and the change is not refused. -/
structure Applies (c : Conductor) (r : ActionRequest) (incident : Incident) (policy : Policy) (expected : Bool)
    (w w' : WorldState) : Prop where
  found : Assoc.get w.incidents r.incidentId = some incident
  unresolved : incident.status ≠ .resolved
  known : Assoc.get w.services r.targetService ≠ none
  oracle : c.oracleFor incident = .ok policy
  expected : Conductor.isExpected w policy incident r = .ok expected
  mutated : c.mutateAction r.actionType r.targetService r.params w = (.ok (), w')

/-- The action is the last one that the incident needs. -/
def Completes (policy : Policy) (incident : Incident) (expected : Bool) : Prop :=
  (if expected then incident.oracleStep + 1 else incident.oracleStep) = policy.requiredActions.length

/-- What an action can do to the world. -/
inductive Acted (c : Conductor) (r : ActionRequest) (w : WorldState) : WorldState → Prop
  | refused {w'} : Reconfigured w w' → Acted c r w w'
  | interrupted {incident policy expected w₁ w₂} :
    Applies c r incident policy expected w w₁ →
    Accounted r.incidentId false w₁ w₂ →
    Acted c r w w₂
  | applied {incident policy expected w₁ w₂} :
    Applies c r incident policy expected w w₁ →
    Accounted r.incidentId expected w₁ w₂ →
    ¬ Completes policy incident expected →
    Acted c r w w₂
  | completed {incident policy expected w₁ w₂} :
    Applies c r incident policy expected w w₁ →
    Accounted r.incidentId expected w₁ w₂ →
    Completes policy incident expected →
    Acted c r w (Conductor.resolve incident w₂).2

lemma applyAction_acted {r : ActionRequest} {w₀ : WorldState} :
    Effect.Meets (· = w₀) (c.applyAction r) (fun _ => Acted c r w₀) (fun _ => Acted c r w₀) := by
  have refused : ∀ w : WorldState, w = w₀ → Acted c r w₀ w := by
    rintro w rfl
    exact .refused ⟨w.configs, rfl⟩
  apply Effect.Meets.read_bind
  rintro w rfl
  apply Effect.Meets.lift_bind
  case error => exact fun _ _ => refused
  intro incident found
  have found := orRaise_ok found
  dsimp only
  split
  case isTrue =>
    apply Effect.Meets.bind (Q := fun _ _ => False)
    · exact Effect.Meets.raise refused
    · rintro _ _ ⟨⟩
  case isFalse unresolved =>
  split
  case isTrue =>
    apply Effect.Meets.bind (Q := fun _ _ => False)
    · exact Effect.Meets.raise refused
    · rintro _ _ ⟨⟩
  case isFalse known =>
  apply Effect.Meets.lift_bind
  case error => exact fun _ _ => refused
  intro policy oracle
  apply Effect.Meets.lift_bind
  case error => exact fun _ _ => refused
  intro expected matched
  apply Effect.Meets.bind (Q := fun _ w₁ => Applies c r incident policy expected w w₁)
  · apply mutateAction_mutated.outcome.mono
    · exact fun _ h => h
    · rintro _ w₁ ⟨_, mutated⟩
      exact ⟨found, unresolved, known, oracle, matched, mutated⟩
    · exact fun _ _ => .refused
  intro _
  apply Effect.Meets.bind (Q := fun _ w₂ => ∃ w₁, Applies c r incident policy expected w w₁ ∧
      Accounted r.incidentId expected w₁ w₂)
  · intro w₁ applies
    refine (account_accounted.mono (fun _ h => h) ?_ ?_) w₁ rfl
    · exact fun _ _ accounted => ⟨w₁, applies, accounted⟩
    · exact fun _ _ accounted => .interrupted applies accounted
  intro actionId
  by_cases completes :
      (if expected = true then incident.oracleStep + 1 else incident.oracleStep) = policy.requiredActions.length
  case pos =>
    rw [if_pos completes]
    rintro w₂ ⟨w₁, applies, accounted⟩
    have acted : Acted c r w (Conductor.resolve incident w₂).2 := .completed applies accounted completes
    revert acted
    rw [Effect.bind_apply]
    generalize Conductor.resolve incident w₂ = out
    obtain ⟨_ | _, _⟩ := out
    case ok => exact fun acted => acted
    case error => exact fun acted => acted
  case neg =>
    rw [if_neg completes]
    rintro w₂ ⟨w₁, applies, accounted⟩
    exact Acted.applied applies accounted completes

/-! ## Resolving -/

/-- The alert is of the same incident and the same SLO. -/
structure SameAlert (a a' : Alert) : Prop where
  incidentId : a'.incidentId = a.incidentId
  slo : (a'.service, a'.sloKind) = (a.service, a.sloKind)

/-- What clearing the alerts of an incident can change: its alerts, and the SLOs of those still active. -/
structure Cleared (id : String) (l : List (String × Alert)) (w w' : WorldState) : Prop where
  keyed : Assoc.Keyed w.alerts → Assoc.Keyed w'.alerts
  alerts : ∀ key, Option.Rel SameAlert (Assoc.get w.alerts key) (Assoc.get w'.alerts key)
  others : ∀ key, (∀ a, (key, a) ∈ l → a.incidentId ≠ id) → Assoc.get w'.alerts key = Assoc.get w.alerts key
  thresholds : ∀ key, (Assoc.get w'.slos key).map SLO.threshold = (Assoc.get w.slos key).map SLO.threshold
  slos : ∀ slo, (∀ key a, (key, a) ∈ l → a.incidentId = id → a.clearedAt = none → (a.service, a.sloKind) ≠ slo) →
    Assoc.get w'.slos slo = Assoc.get w.slos slo

lemma SameAlert.rfl {o : Option Alert} : Option.Rel SameAlert o o := by
  cases o with
  | none => exact .none
  | some a => exact .some ⟨Eq.refl _, Eq.refl _⟩

lemma Cleared.refl {id : String} {l : List (String × Alert)} {w w' : WorldState} (alerts : w'.alerts = w.alerts)
    (slos : w'.slos = w.slos) : Cleared id l w w' := by
  refine ⟨?_, ?_, ?_, ?_, ?_⟩
  · rw [alerts]
    exact fun h => h
  · rw [alerts]
    exact fun _ => SameAlert.rfl
  · rw [alerts]
    exact fun _ _ => rfl
  · rw [slos]
    exact fun _ => rfl
  · rw [slos]
    exact fun _ _ => rfl

lemma Cleared.onAlert {id : String} {l : List (String × Alert)} {w₀ w : WorldState} {key : String} {alert : Alert}
    {f : Alert → Alert} (h : Cleared id l w₀ w) (mem : (key, alert) ∈ l) (of : alert.incidentId = id)
    (same : ∀ a, SameAlert a (f a)) : Cleared id l w₀ (w.onAlert key f) := by
  refine ⟨?_, ?_, ?_, h.thresholds, h.slos⟩
  · intro keyed
    exact (h.keyed keyed).modify
  · intro other
    have related := h.alerts other
    unfold WorldState.onAlert
    rw [Assoc.get_modify]
    split
    case isFalse => exact related
    case isTrue =>
      revert related
      generalize Assoc.get w₀.alerts other = x
      generalize Assoc.get w.alerts other = y
      rintro (r | _)
      · have again := same
        exact .some ⟨(again _).incidentId.trans r.incidentId, (again _).slo.trans r.slo⟩
      · exact .none
  · intro other untouched
    have ne : key ≠ other := by
      rintro rfl
      exact untouched alert mem of
    unfold WorldState.onAlert
    rw [Assoc.get_modify, if_neg ne]
    exact h.others other untouched

lemma Cleared.onSLO {id : String} {l : List (String × Alert)} {w₀ w : WorldState} {key : String} {alert : Alert}
    {f : SLO → SLO} (h : Cleared id l w₀ w) (mem : (key, alert) ∈ l) (of : alert.incidentId = id)
    (active : alert.clearedAt = none) (same : ∀ s, (f s).threshold = s.threshold) :
    Cleared id l w₀ (w.onSLO (alert.service, alert.sloKind) f) := by
  refine ⟨h.keyed, h.alerts, h.others, ?_, ?_⟩
  · intro other
    rw [← h.thresholds other]
    unfold WorldState.onSLO
    rw [Assoc.get_modify]
    split
    case isFalse => rfl
    case isTrue =>
      rw [Option.map_map]
      congr 1
      funext s
      exact same s
  · intro other untouched
    unfold WorldState.onSLO
    rw [Assoc.get_modify, if_neg (untouched key alert mem of active)]
    exact h.slos other untouched

lemma clearAlerts_cleared {id : String} {l₀ l : List (String × Alert)} {w₀ : WorldState} (part : ∀ x ∈ l, x ∈ l₀) :
    Effect.Meets (fun w => Cleared id l₀ w₀ w ∧ w.services = w₀.services ∧ w.incidents = w₀.incidents)
      (Conductor.clearAlerts id l)
      (fun _ w => Cleared id l₀ w₀ w ∧ w.services = w₀.services ∧ w.incidents = w₀.incidents)
      (fun _ w => Cleared id l₀ w₀ w ∧ w.services = w₀.services ∧ w.incidents = w₀.incidents) := by
  induction l with
  | nil => exact Effect.Meets.pure fun _ h => h
  | cons entry l ih =>
    obtain ⟨key, alert⟩ := entry
    have ih := ih fun x h => part x (List.mem_cons_of_mem _ h)
    have mem : (key, alert) ∈ l₀ := part _ List.mem_cons_self
    unfold Conductor.clearAlerts
    dsimp only
    split
    case isFalse => exact ih
    case isTrue active =>
      obtain ⟨of, active⟩ := active
      apply Effect.Meets.bind
        (Q := fun _ w => Cleared id l₀ w₀ w ∧ w.services = w₀.services ∧ w.incidents = w₀.incidents)
      · apply Effect.Meets.update
        rintro w ⟨cleared, services, incidents⟩
        exact ⟨cleared.onAlert mem of fun _ => ⟨rfl, rfl⟩, services, incidents⟩
      intro _
      apply Effect.Meets.bind (Effect.Meets.read fun _ h => h)
      intro w
      apply Effect.Meets.bind (Effect.Meets.lift_keeps fun _ _ h => h)
      intro _
      apply Effect.Meets.bind
        (Q := fun _ w => Cleared id l₀ w₀ w ∧ w.services = w₀.services ∧ w.incidents = w₀.incidents)
      · apply Effect.Meets.update
        rintro w ⟨cleared, services, incidents⟩
        exact ⟨cleared.onSLO mem of active fun _ => rfl, services, incidents⟩
      intro _
      exact ih

/-- The incident, resolved. -/
def resolvedIncident (now : Timestamp) (i : Incident) : Incident :=
  { i with
    status := .resolved
    resolvedAt := some now
    mttrSeconds := some ((now - i.openedAt).tdiv 1000000) }

/-- What resolving an incident changes, whether it returns or raises. -/
structure Resolved (incident : Incident) (w w' : WorldState) : Prop where
  incidents : w'.incidents = Assoc.modify (resolvedIncident w.now) w.incidents incident.incidentId
  previous : ∀ name, (Assoc.get w'.services name).map Service.previousStableVersion =
    (Assoc.get w.services name).map Service.previousStableVersion
  services : ∀ name, name ≠ incident.service → Assoc.get w'.services name = Assoc.get w.services name
  cleared : Cleared incident.incidentId w.alerts w w'

/-- What it has changed before it clears the alerts. -/
structure Recovered (incident : Incident) (w w' : WorldState) : Prop where
  incidents : w'.incidents = Assoc.modify (resolvedIncident w.now) w.incidents incident.incidentId
  previous : ∀ name, (Assoc.get w'.services name).map Service.previousStableVersion =
    (Assoc.get w.services name).map Service.previousStableVersion
  services : ∀ name, name ≠ incident.service → Assoc.get w'.services name = Assoc.get w.services name
  alerts : w'.alerts = w.alerts
  slos : w'.slos = w.slos

lemma Cleared.base {id : String} {l : List (String × Alert)} {w₀ w₁ w : WorldState} (h : Cleared id l w₁ w)
    (alerts : w₁.alerts = w₀.alerts) (slos : w₁.slos = w₀.slos) : Cleared id l w₀ w := by
  obtain ⟨keyed, same, others, thresholds, cleared⟩ := h
  rw [alerts] at keyed same others
  rw [slos] at thresholds cleared
  exact ⟨keyed, same, others, thresholds, cleared⟩

/-- A service recovers, and no other. -/
lemma Recovered.heal {incident : Incident} {w₀ w : WorldState} {health : Health} (h : Recovered incident w₀ w) :
    Recovered incident w₀ (w.onService incident.service fun s => { s with health }) := by
  refine ⟨h.incidents, ?_, ?_, h.alerts, h.slos⟩
  · intro name
    rw [← h.previous name]
    unfold WorldState.onService
    rw [Assoc.get_modify]
    split
    case isTrue =>
      rw [Option.map_map]
      rfl
    case isFalse => rfl
  · intro name ne
    unfold WorldState.onService
    rw [Assoc.get_modify, if_neg fun e => ne e.symm]
    exact h.services name ne

lemma Recovered.resolved {incident : Incident} {w₀ w₁ w : WorldState} (h : Recovered incident w₀ w₁)
    (cleared : Cleared incident.incidentId w₀.alerts w₁ w) (services : w.services = w₁.services)
    (incidents : w.incidents = w₁.incidents) : Resolved incident w₀ w := by
  refine ⟨incidents.trans h.incidents, ?_, ?_, cleared.base h.alerts h.slos⟩
  · rw [services]
    exact h.previous
  · rw [services]
    exact h.services

lemma resolve_resolved {incident : Incident} {w₀ : WorldState} :
    Effect.Meets (· = w₀) (Conductor.resolve incident) (fun _ => Resolved incident w₀)
      (fun _ => Resolved incident w₀) := by
  apply Effect.Meets.bind (Q := fun _ => Recovered incident w₀)
  · apply Effect.Meets.update
    rintro w rfl
    exact ⟨rfl, fun _ => rfl, fun _ _ => rfl, rfl, rfl⟩
  intro _
  apply Effect.Meets.bind (Q := fun _ => Recovered incident w₀)
  · apply Effect.Meets.bind (Q := fun _ => Recovered incident w₀)
    · apply getService_meets
      case known => exact fun _ _ h _ => h
      case unknown => exact fun _ w h _ => h.resolved (Cleared.refl rfl rfl) rfl rfl
    intro _
    exact Effect.Meets.update fun w h => h.heal
  intro _
  apply Effect.Meets.read_bind
  intro w₁ h
  have part : ∀ x ∈ w₁.alerts, x ∈ w₀.alerts := by
    rw [h.alerts]
    exact fun _ mem => mem
  apply (clearAlerts_cleared part).mono
  · rintro w rfl
    exact ⟨Cleared.refl rfl rfl, rfl, rfl⟩
  · rintro _ w ⟨cleared, services, incidents⟩
    exact h.resolved cleared services incidents
  · rintro _ w ⟨cleared, services, incidents⟩
    exact h.resolved cleared services incidents

end Postmortem.Simulator
