import Postmortem.Simulator.Conductor

/-!
# What a fault changes

A fault touches services, dependencies, the configuration and the list of deployments, and never incidents,
alerts or SLOs (`Disturbed`). It leaves no service healthy that it touches, its target least of all, and only a
bad deploy changes versions (`ServiceFaulted`). What it says of the breach depends on the scenario alone, not
on the world it strikes (`injectFault_agrees`).
-/

namespace Postmortem.Simulator

/-- The services changed as `R` says, and incidents, alerts and SLOs did not. -/
structure Disturbed (R : String → Service → Service → Prop) (w w' : WorldState) : Prop where
  incidents : w'.incidents = w.incidents
  alerts : w'.alerts = w.alerts
  slos : w'.slos = w.slos
  services : ∀ name, Option.Rel (R name) (Assoc.get w.services name) (Assoc.get w'.services name)

/-- The service has the same versions, and is not healthier. -/
structure Worse (s s' : Service) : Prop where
  health : s'.health = s.health ∨ s'.health ≠ .healthy
  current : s'.currentVersion = s.currentVersion
  previous : s'.previousStableVersion = s.previousStableVersion

/-- What a bad deploy does to its target, as far as it gets. -/
structure Deployed (scenario : Scenario) (s s' : Service) : Prop where
  health : s'.health = s.health ∨ s'.health ≠ .healthy
  previous : s'.previousStableVersion = s.currentVersion
  current : s'.currentVersion = s.currentVersion ∨ Assoc.get scenario.fault "bad_version" = some s'.currentVersion

/-- What a fault does to a service. -/
def ServiceFaulted (scenario : Scenario) (name : String) (s s' : Service) : Prop :=
  if scenario.familyId = "F1_BAD_DEPLOY" ∧ name = scenario.targetService then Deployed scenario s s' else Worse s s'

/-- The service is known and not healthy. -/
def Unhealthy (w : WorldState) (name : String) : Prop :=
  ∃ s, Assoc.get w.services name = some s ∧ s.health ≠ .healthy

section disturbed

variable {R R' : String → Service → Service → Prop} {w w' w₀ : WorldState} {name : String} {s : Service}

lemma Worse.refl : Worse s s := ⟨.inl rfl, rfl, rfl⟩

lemma Disturbed.refl (h : ∀ name s, Assoc.get w.services name = some s → R name s s) : Disturbed R w w := by
  refine ⟨rfl, rfl, rfl, ?_⟩
  intro name
  cases e : Assoc.get w.services name with
  | none => exact .none
  | some s => exact .some (h name s e)

lemma Disturbed.mono (d : Disturbed R w w') (h : ∀ name s s', R name s s' → R' name s s') :
    Disturbed R' w w' := by
  refine ⟨d.incidents, d.alerts, d.slos, ?_⟩
  intro name
  have related := d.services name
  revert related
  generalize Assoc.get w.services name = x
  generalize Assoc.get w'.services name = y
  rintro (r | _)
  · exact .some (h name _ _ r)
  · exact .none

/-- A service that was known is known. -/
lemma Disturbed.known (d : Disturbed R w w') (h : Assoc.get w.services name = some s) :
    ∃ s', Assoc.get w'.services name = some s' ∧ R name s s' := by
  have related := d.services name
  rw [h] at related
  generalize Assoc.get w'.services name = y at related
  cases related with
  | some r => exact ⟨_, rfl, r⟩

/-- A service that is known was known. -/
lemma Disturbed.was (d : Disturbed R w w') {s'} (h : Assoc.get w'.services name = some s') :
    ∃ s, Assoc.get w.services name = some s ∧ R name s s' := by
  have related := d.services name
  rw [h] at related
  generalize Assoc.get w.services name = x at related
  cases related with
  | some r => exact ⟨_, rfl, r⟩

/-- The service as it is after a change. -/
lemma get_onService {f : Service → Service} (h : Assoc.get w.services name = some s) :
    Assoc.get (w.onService name f).services name = some (f s) := by
  unfold WorldState.onService
  rw [Assoc.get_modify, if_pos rfl, h]
  rfl

/-- Changing a service, with what is known of it and of the others. -/
lemma Disturbed.onService {f : Service → Service} (d : Disturbed R w₀ w)
    (here : ∀ s s', R name s s' → R' name s (f s'))
    (there : ∀ other, other ≠ name → ∀ s s', R other s s' → R' other s s') :
    Disturbed R' w₀ (w.onService name f) := by
  refine ⟨d.incidents, d.alerts, d.slos, ?_⟩
  intro other
  have related := d.services other
  unfold WorldState.onService
  rw [Assoc.get_modify]
  revert related
  generalize Assoc.get w₀.services other = x
  generalize Assoc.get w.services other = y
  rintro (r | _)
  · split
    case isTrue e =>
      subst e
      exact .some (here _ _ r)
    case isFalse ne => exact .some (there other (fun e => ne e.symm) _ _ r)
  · split
    all_goals exact .none

/-- Changing what a disturbance does not see. -/
lemma Disturbed.trans_eq (d : Disturbed R w₀ w) (incidents : w'.incidents = w.incidents)
    (alerts : w'.alerts = w.alerts) (slos : w'.slos = w.slos) (services : w'.services = w.services) :
    Disturbed R w₀ w' := by
  refine ⟨incidents.trans d.incidents, alerts.trans d.alerts, slos.trans d.slos, ?_⟩
  rw [services]
  exact d.services

end disturbed

section calls

variable {R R' : String → Service → Service → Prop} {w₀ : WorldState} {name : String} {c : Conductor}
  {scenario : Scenario} {f : WorldState → WorldState}

lemma getService_meets {P : WorldState → Prop} {Q : Service → WorldState → Prop} {E : Raised → WorldState → Prop}
    (known : ∀ s w, P w → Assoc.get w.services name = some s → Q s w)
    (unknown : ∀ e w, P w → Assoc.get w.services name = none → E e w) :
    Effect.Meets P (getService name) Q E := by
  apply Effect.Meets.bind (Q := fun now w => P w ∧ now = w)
  · exact Effect.Meets.read fun w h => ⟨h, rfl⟩
  · intro now
    cases found : Assoc.get now.services name with
    | none =>
      rintro w ⟨h, rfl⟩
      exact unknown _ _ h found
    | some s =>
      rintro w ⟨h, rfl⟩
      exact known s _ h found

lemma getService_disturbed :
    Effect.Meets (Disturbed R w₀) (getService name)
      (fun s w => Disturbed R w₀ w ∧ Assoc.get w.services name = some s) (fun _ => Disturbed R w₀) :=
  getService_meets (fun _ _ h found => ⟨h, found⟩) fun _ _ h _ => h

lemma orRaise_ok {α : Type} {e : Raised} {o : Option α} {a : α} (h : orRaise e o = .ok a) : o = some a := by
  cases o with
  | none => cases h
  | some _ =>
    cases h
    rfl

/-- The configuration changes, whether the call returns or raises. -/
lemma setConfig_keeps {P Q : WorldState → Prop} {E : Raised → WorldState → Prop} {service source : String}
    {key value : Json} (ok : ∀ w configs, P w → Q { w with configs })
    (raised : ∀ e w configs, P w → E e { w with configs }) :
    Effect.Meets P (c.setConfig service key value source) (fun _ => Q) E := by
  let Reconfigured (w' : WorldState) : Prop := ∃ w configs, P w ∧ w' = { w with configs }
  apply Effect.Meets.bind (Q := fun _ => Reconfigured)
  · exact Effect.Meets.update fun w h => ⟨w, _, h, rfl⟩
  intro _
  apply Effect.Meets.bind (Effect.Meets.read fun _ h => h)
  intro now
  apply Effect.Meets.bind (Q := fun _ => Reconfigured)
  · apply Effect.Meets.lift_keeps
    rintro e _ ⟨w, configs, h, rfl⟩
    exact raised e w configs h
  intro configId
  apply Effect.Meets.update
  rintro _ ⟨w, configs, h, rfl⟩
  exact ok w _ h

end calls

/-- The services got worse at most. -/
abbrev Worsened (w w' : WorldState) : Prop := Disturbed (fun _ => Worse) w w'

/-- The services got worse at most, and this one is not healthy. -/
structure Struck (name : String) (w w' : WorldState) : Prop where
  worsened : Worsened w w'
  unhealthy : Unhealthy w' name

/-- The fault makes things worse, and its target unhealthy if it returns. -/
abbrev Strikes (w₀ : WorldState) (scenario : Scenario) (m : Sim Conductor.Breach) : Prop :=
  Effect.Meets (Worsened w₀) m (fun _ => Struck scenario.targetService w₀) (fun _ => Worsened w₀)

section worsened

variable {w₀ : WorldState} {name : String} {c : Conductor} {scenario : Scenario}

lemma setHealth_strikes {health : Health} (ill : health ≠ .healthy) :
    Effect.Meets (Worsened w₀) (setHealth name health) (fun _ => Struck name w₀) (fun _ => Worsened w₀) := by
  apply Effect.Meets.bind getService_disturbed
  intro s
  apply Effect.Meets.update
  rintro w ⟨h, found⟩
  constructor
  case worsened =>
    apply h.onService
    · intro s s' worse
      exact ⟨.inr ill, worse.current, worse.previous⟩
    · exact fun _ _ _ _ worse => worse
  case unhealthy => exact ⟨_, get_onService found, ill⟩

lemma degrade_strikes : Effect.Meets (Worsened w₀) (setHealth name .degraded) (fun _ => Struck name w₀)
    (fun _ => Worsened w₀) :=
  setHealth_strikes nofun

lemma bringDown_strikes : Effect.Meets (Worsened w₀) (setHealth name .down) (fun _ => Struck name w₀)
    (fun _ => Worsened w₀) :=
  setHealth_strikes nofun

/-- The last steps of a fault: a number of the scenario, and the breach. -/
lemma float_strikes {key : String} {breach : Flt → Conductor.Breach} :
    Effect.Meets (Struck scenario.targetService w₀)
      (do let x ← Effect.lift (c.faultFloat scenario key); return breach x)
      (fun _ => Struck scenario.targetService w₀) (fun _ => Worsened w₀) := by
  apply Effect.Meets.bind (Effect.Meets.lift_keeps fun _ _ h => h.worsened)
  intro x
  exact Effect.Meets.pure fun _ h => h

lemma struck_configs {w : WorldState} {configs} (h : Struck name w₀ w) : Struck name w₀ { w with configs } :=
  ⟨h.worsened.trans_eq rfl rfl rfl rfl, h.unhealthy⟩

lemma injectDegradation_strikes {sloKind key signal errorCode : String} :
    Strikes w₀ scenario (c.injectDegradation scenario sloKind key signal errorCode) := by
  apply Effect.Meets.bind degrade_strikes
  intro _
  exact float_strikes

lemma injectPoolExhaustion_strikes : Strikes w₀ scenario (c.injectPoolExhaustion scenario) := by
  apply Effect.Meets.bind getService_disturbed
  intro service
  apply Effect.Meets.bind (degrade_strikes.mono (fun _ h => h.1) (fun _ _ h => h) fun _ _ h => h)
  intro _
  split
  case isTrue => exact float_strikes
  case isFalse =>
    apply Effect.Meets.bind (Effect.Meets.read fun _ h => h)
    intro w
    split
    case h_1 => exact Effect.Meets.raise fun _ h => h.worsened
    case h_2 => exact float_strikes

lemma injectPoolDriverMigration_strikes : Strikes w₀ scenario (c.injectPoolDriverMigration scenario) := by
  apply Effect.Meets.bind getService_disturbed
  intro service
  apply Effect.Meets.bind (degrade_strikes.mono (fun _ h => h.1) (fun _ _ h => h) fun _ _ h => h)
  intro _
  split
  case isTrue =>
    apply Effect.Meets.bind (setConfig_keeps (fun _ _ h => struck_configs h) fun _ _ _ h => (struck_configs h).worsened)
    intro _
    exact float_strikes
  case isFalse => exact float_strikes

lemma faultDependency_worsened :
    Effect.Meets (Worsened w₀) (c.faultDependency scenario) (fun _ => Worsened w₀) (fun _ => Worsened w₀) := by
  apply Effect.Meets.bind (Effect.Meets.lift_keeps fun _ _ h => h)
  intro _
  apply Effect.Meets.bind (Effect.Meets.lift_keeps fun _ _ h => h)
  intro _
  apply Effect.Meets.bind (Effect.Meets.read fun _ h => h)
  intro _
  apply Effect.Meets.bind (Effect.Meets.lift_keeps fun _ _ h => h)
  intro _
  exact Effect.Meets.pure fun _ h => h

lemma failDependency_worsened {key : String} :
    Effect.Meets (Worsened w₀) (c.failDependency scenario key) (fun _ => Worsened w₀) (fun _ => Worsened w₀) := by
  apply Effect.Meets.bind (Effect.Meets.lift_keeps fun _ _ h => h)
  intro _
  apply Effect.Meets.bind (Q := fun _ => Worsened w₀)
  · exact Effect.Meets.update fun _ h => h.trans_eq rfl rfl rfl rfl
  intro _
  apply Effect.Meets.bind (Effect.Meets.lift_keeps fun _ _ h => h)
  intro _
  apply Effect.Meets.bind bringDown_strikes
  intro _
  exact Effect.Meets.pure fun _ h => h.worsened

/-- The last steps of an outage. -/
lemma outage_strikes {key : String} {breach : Json → Flt → Conductor.Breach} :
    Strikes w₀ scenario
      (do
        let failed ← c.failDependency scenario key
        setHealth scenario.targetService .degraded
        let x ← Effect.lift (c.faultFloat scenario "availability")
        return breach failed x) := by
  apply Effect.Meets.bind failDependency_worsened
  intro _
  apply Effect.Meets.bind degrade_strikes
  intro _
  exact float_strikes

lemma injectOutage_strikes {signal : Json → String} {errorCode : String} :
    Strikes w₀ scenario (c.injectOutage scenario signal errorCode) := by
  apply Effect.Meets.bind faultDependency_worsened
  intro _
  exact outage_strikes

lemma injectConfigRegression_strikes : Strikes w₀ scenario (c.injectConfigRegression scenario) := by
  apply Effect.Meets.bind (Effect.Meets.lift_keeps fun _ _ h => h)
  intro _
  apply Effect.Meets.bind (Effect.Meets.lift_keeps fun _ _ h => h)
  intro _
  apply Effect.Meets.bind
    (setConfig_keeps (fun _ _ h => h.trans_eq rfl rfl rfl rfl) fun _ _ _ h => h.trans_eq rfl rfl rfl rfl)
  intro _
  apply Effect.Meets.bind degrade_strikes
  intro _
  exact float_strikes

lemma injectCacheTopologyMigration_strikes : Strikes w₀ scenario (c.injectCacheTopologyMigration scenario) := by
  apply Effect.Meets.bind faultDependency_worsened
  intro key
  apply Effect.Meets.bind getService_disturbed
  intro service
  split
  case isTrue =>
    apply Effect.Meets.bind (Q := fun _ => Worsened w₀)
    · apply setConfig_keeps
      · exact fun _ _ h => h.1.trans_eq rfl rfl rfl rfl
      · exact fun _ _ _ h => h.1.trans_eq rfl rfl rfl rfl
    intro _
    apply Effect.Meets.bind bringDown_strikes
    intro _
    exact outage_strikes.mono (fun _ h => h.worsened) (fun _ _ h => h) fun _ _ h => h
  case isFalse => exact outage_strikes.mono (fun _ h => h.1) (fun _ _ h => h) fun _ _ h => h

end worsened

/-- What a fault that returns has done. -/
structure Faulted (scenario : Scenario) (w w' : WorldState) : Prop where
  disturbed : Disturbed (ServiceFaulted scenario) w w'
  unhealthy : Unhealthy w' scenario.targetService

section faulted

variable {w₀ : WorldState} {c : Conductor} {scenario : Scenario}

lemma ServiceFaulted.worse {name : String} {s s' : Service} (family : scenario.familyId ≠ "F1_BAD_DEPLOY")
    (h : Worse s s') : ServiceFaulted scenario name s s' := by
  unfold ServiceFaulted
  rw [if_neg fun both => family both.1]
  exact h

lemma Strikes.faulted {m : Sim Conductor.Breach} (family : scenario.familyId ≠ "F1_BAD_DEPLOY")
    (strikes : Strikes w₀ scenario m) :
    Effect.Meets (· = w₀) m (fun _ => Faulted scenario w₀) (fun _ => Disturbed (ServiceFaulted scenario) w₀) := by
  apply strikes.mono
  · rintro w rfl
    exact Disturbed.refl fun _ _ _ => Worse.refl
  · intro _ w struck
    refine ⟨struck.worsened.mono ?_, struck.unhealthy⟩
    exact fun _ _ _ => ServiceFaulted.worse family
  · intro _ w worsened
    exact worsened.mono fun _ _ _ => ServiceFaulted.worse family

lemma ServiceFaulted.deployed {s s' : Service} (family : scenario.familyId = "F1_BAD_DEPLOY") :
    ServiceFaulted scenario scenario.targetService s s' ↔ Deployed scenario s s' := by
  unfold ServiceFaulted
  rw [if_pos ⟨family, rfl⟩]

lemma injectBadDeploy_faulted (family : scenario.familyId = "F1_BAD_DEPLOY") :
    Effect.Meets (· = w₀) (c.injectBadDeploy scenario) (fun _ => Faulted scenario w₀)
      (fun _ => Disturbed (ServiceFaulted scenario) w₀) := by
  have others : ∀ other, other ≠ scenario.targetService → ∀ s, ServiceFaulted scenario other s s := by
    intro other ne s
    unfold ServiceFaulted
    rw [if_neg fun both => ne both.2]
    exact Worse.refl
  apply Effect.Meets.bind
    (Q := fun s w => w = w₀ ∧ Assoc.get w.services scenario.targetService = some s)
  · apply getService_meets
    case known =>
      intro s w h found
      exact ⟨h, found⟩
    case unknown =>
      rintro _ w rfl unknown
      apply Disturbed.refl
      intro name s found
      apply others
      rintro rfl
      rw [unknown] at found
      cases found
  intro service
  apply Effect.Meets.bind (Q := fun _ w => Disturbed (ServiceFaulted scenario) w₀ w ∧
    ∃ s, Assoc.get w.services scenario.targetService = some s)
  · apply Effect.Meets.update
    rintro w ⟨rfl, found⟩
    constructor
    case left =>
      have same : Disturbed (fun _ => Eq) w w := Disturbed.refl fun _ _ _ => rfl
      apply same.onService
      · rintro s _ rfl
        exact (ServiceFaulted.deployed family).mpr ⟨.inl rfl, rfl, .inl rfl⟩
      · rintro other ne s _ rfl
        exact others other ne s
    case right => exact ⟨_, get_onService found⟩
  intro _
  apply Effect.Meets.bind
    (Q := fun badVersion w => (Disturbed (ServiceFaulted scenario) w₀ w ∧
      ∃ s, Assoc.get w.services scenario.targetService = some s) ∧
      Assoc.get scenario.fault "bad_version" = some badVersion)
  · apply Effect.Meets.lift
    · intro badVersion found w h
      exact ⟨h, orRaise_ok found⟩
    · rintro _ _ w ⟨h, _⟩
      exact h
  intro badVersion
  apply Effect.Meets.bind (Q := fun _ => Faulted scenario w₀)
  · apply Effect.Meets.update
    rintro w ⟨⟨h, _, found⟩, bad⟩
    constructor
    case disturbed =>
      apply h.onService
      · intro s s' faulted
        have deployed := (ServiceFaulted.deployed family).mp faulted
        exact (ServiceFaulted.deployed family).mpr ⟨.inr nofun, deployed.previous, .inr bad⟩
      · exact fun _ _ _ _ faulted => faulted
    case unhealthy => exact ⟨_, get_onService found, nofun⟩
  intro _
  apply Effect.Meets.bind (Q := fun _ => Faulted scenario w₀)
  · exact Effect.Meets.update fun w h => ⟨h.disturbed.trans_eq rfl rfl rfl rfl, h.unhealthy⟩
  intro _
  apply Effect.Meets.bind (Effect.Meets.lift_keeps fun _ _ h => h.disturbed)
  intro _
  exact Effect.Meets.pure fun _ h => h

/-- A fault touches services only as its scenario says, and leaves its target unhealthy. -/
lemma injectFault_faulted :
    Effect.Meets (· = w₀) (c.injectFault scenario) (fun _ => Faulted scenario w₀)
      (fun _ => Disturbed (ServiceFaulted scenario) w₀) := by
  by_cases family : scenario.familyId = "F1_BAD_DEPLOY"
  case pos =>
    rw [Conductor.injectFault, family]
    exact injectBadDeploy_faulted family
  case neg =>
    apply Strikes.faulted family
    unfold Conductor.injectFault
    split
    case h_1 h => exact absurd h family
    case h_2 => exact injectPoolExhaustion_strikes
    case h_3 => exact injectOutage_strikes
    case h_4 => exact injectDegradation_strikes
    case h_5 => exact injectDegradation_strikes
    case h_6 => exact injectDegradation_strikes
    case h_7 => exact injectConfigRegression_strikes
    case h_8 => exact injectOutage_strikes
    case h_9 => exact injectOutage_strikes
    case h_10 => exact injectDegradation_strikes
    case h_11 => exact injectPoolDriverMigration_strikes
    case h_12 => exact injectCacheTopologyMigration_strikes
    case h_13 => exact Effect.Meets.raise fun _ h => h

end faulted

/-! ## The breach -/

section breach

variable {c : Conductor} {scenario : Scenario}

lemma float_agrees {key : String} {breach : Flt → Conductor.Breach} :
    Effect.Agrees (do let x ← Effect.lift (c.faultFloat scenario key); return breach x : Sim Conductor.Breach)
      (do let x ← Effect.lift (c.faultFloat scenario key); return breach x) := by
  apply Effect.Agrees.bind Effect.Agrees.lift
  intro x
  exact Effect.Agrees.pure

lemma injectBadDeploy_agrees : Effect.Agrees (c.injectBadDeploy scenario) (c.injectBadDeploy scenario) := by
  apply Effect.Agrees.skip
  intro _ _
  apply Effect.Agrees.skip
  intro _ _
  apply Effect.Agrees.bind Effect.Agrees.lift
  intro badVersion
  apply Effect.Agrees.skip
  intro _ _
  apply Effect.Agrees.skip
  intro _ _
  exact float_agrees

lemma injectPoolExhaustion_agrees :
    Effect.Agrees (c.injectPoolExhaustion scenario) (c.injectPoolExhaustion scenario) := by
  apply Effect.Agrees.skip
  intro service service'
  apply Effect.Agrees.skip
  intro _ _
  split
  case isTrue => exact float_agrees
  case isFalse =>
    apply Effect.Agrees.skip
    intro w w'
    split
    case h_1 => exact Effect.Agrees.raise_left
    case h_2 =>
      split
      case h_1 => exact Effect.Agrees.raise_right
      case h_2 => exact float_agrees

lemma injectDegradation_agrees {sloKind key signal errorCode : String} :
    Effect.Agrees (c.injectDegradation scenario sloKind key signal errorCode)
      (c.injectDegradation scenario sloKind key signal errorCode) := by
  apply Effect.Agrees.skip
  intro _ _
  exact float_agrees

lemma failDependency_agrees {key key' : String} :
    Effect.Agrees (c.failDependency scenario key) (c.failDependency scenario key') := by
  apply Effect.Agrees.bind Effect.Agrees.lift
  intro failed
  apply Effect.Agrees.skip
  intro _ _
  apply Effect.Agrees.skip
  intro _ _
  apply Effect.Agrees.skip
  intro _ _
  exact Effect.Agrees.pure

lemma outage_agrees {key key' : String} {breach : Json → Flt → Conductor.Breach} :
    Effect.Agrees
      (do
        let failed ← c.failDependency scenario key
        setHealth scenario.targetService .degraded
        let x ← Effect.lift (c.faultFloat scenario "availability")
        return breach failed x : Sim Conductor.Breach)
      (do
        let failed ← c.failDependency scenario key'
        setHealth scenario.targetService .degraded
        let x ← Effect.lift (c.faultFloat scenario "availability")
        return breach failed x) := by
  apply Effect.Agrees.bind failDependency_agrees
  intro failed
  apply Effect.Agrees.skip
  intro _ _
  exact float_agrees

lemma injectOutage_agrees {signal : Json → String} {errorCode : String} :
    Effect.Agrees (c.injectOutage scenario signal errorCode) (c.injectOutage scenario signal errorCode) := by
  apply Effect.Agrees.skip
  intro _ _
  exact outage_agrees

lemma injectConfigRegression_agrees :
    Effect.Agrees (c.injectConfigRegression scenario) (c.injectConfigRegression scenario) := by
  apply Effect.Agrees.bind Effect.Agrees.lift
  intro key
  apply Effect.Agrees.skip
  intro _ _
  apply Effect.Agrees.skip
  intro _ _
  apply Effect.Agrees.skip
  intro _ _
  exact float_agrees

lemma injectPoolDriverMigration_agrees :
    Effect.Agrees (c.injectPoolDriverMigration scenario) (c.injectPoolDriverMigration scenario) := by
  apply Effect.Agrees.skip
  intro service service'
  apply Effect.Agrees.skip
  intro _ _
  split
  case isTrue =>
    apply Effect.Agrees.skip
    intro _ _
    exact float_agrees
  case isFalse => exact float_agrees

lemma injectCacheTopologyMigration_agrees :
    Effect.Agrees (c.injectCacheTopologyMigration scenario) (c.injectCacheTopologyMigration scenario) := by
  apply Effect.Agrees.skip
  intro _ _
  apply Effect.Agrees.skip
  intro service service'
  split
  case isTrue =>
    apply Effect.Agrees.skip
    intro _ _
    apply Effect.Agrees.skip
    intro _ _
    exact outage_agrees
  case isFalse => exact outage_agrees

/-- What a fault says of the breach depends on the scenario alone. -/
lemma injectFault_agrees : Effect.Agrees (c.injectFault scenario) (c.injectFault scenario) := by
  unfold Conductor.injectFault
  split
  case h_1 => exact injectBadDeploy_agrees
  case h_2 => exact injectPoolExhaustion_agrees
  case h_3 => exact injectOutage_agrees
  case h_4 => exact injectDegradation_agrees
  case h_5 => exact injectDegradation_agrees
  case h_6 => exact injectDegradation_agrees
  case h_7 => exact injectConfigRegression_agrees
  case h_8 => exact injectOutage_agrees
  case h_9 => exact injectOutage_agrees
  case h_10 => exact injectDegradation_agrees
  case h_11 => exact injectPoolDriverMigration_agrees
  case h_12 => exact injectCacheTopologyMigration_agrees
  case h_13 => exact Effect.Agrees.raise_left

end breach

end Postmortem.Simulator
