import Postmortem.Lib.Run
import Postmortem.Simulator.Incidents

/-!
# The version to roll back to

`_inject_bad_deploy` writes the current version to `previous_stable_version`, and nothing else writes it. So a
bad version gets there exactly when a bad deploy strikes a service that still runs one
(`previous_version_stable`), as when the first incident of two is not rolled back (`bad_version_stable`).
-/

namespace Postmortem.Simulator

variable {c : Conductor}

/-- A bad deploy of the fixture introduces the version. -/
def BadVersion (c : Conductor) (version : Json) : Prop :=
  ∃ scenario ∈ c.fixture.scenarios, scenario.familyId = "F1_BAD_DEPLOY" ∧
    ∃ bad, Assoc.get scenario.fault "bad_version" = some bad ∧ bad.pyEq version = true

/-- The version a rollback goes back to, as a policy of the oracle says it. -/
def rollbackTarget (s : Service) : Json := Conductor.expectedValue s (.str "$incident.previous_stable_version")

/-- No service's version to go back to is a bad one. -/
def Stable (c : Conductor) (w : WorldState) : Prop :=
  ∀ name s, Assoc.get w.services name = some s →
    ¬ BadVersion c s.previousStableVersion ∧ ¬ BadVersion c (rollbackTarget s)

/-- The initial versions and the bad versions are disjoint. -/
def DisjointVersions (c : Conductor) : Prop :=
  ∀ item ∈ c.fixture.services, ¬ BadVersion c item.currentVersion ∧ ¬ BadVersion c item.previousStableVersion

/-- The call injects a bad deploy into a service that runs a bad version. -/
def Redeploys (c : Conductor) (s : Simulation) (call : Conductor.Call) : Prop :=
  call = .injectNext ∧ ∃ scenario, c.scenarios[s.nextScenario]? = some scenario ∧ Schedulable c scenario ∧
    scenario.familyId = "F1_BAD_DEPLOY" ∧
    ∃ service, Assoc.get s.world.services scenario.targetService = some service ∧
      BadVersion c service.currentVersion

lemma stable_iff {w : WorldState} : Stable c w ↔
    ∀ name s, Assoc.get w.services name = some s → ¬ BadVersion c s.previousStableVersion := by
  constructor
  · intro h name s found
    exact (h name s found).1
  · intro h name s found
    exact ⟨h name s found, h name s found⟩

/-- The versions to go back to, by service. -/
def previousVersion (w : WorldState) (name : String) : Option Json :=
  (Assoc.get w.services name).map Service.previousStableVersion

/-- Worlds with the same versions to go back to. -/
lemma stable_congr {w w' : WorldState} (h : ∀ name, previousVersion w' name = previousVersion w name) :
    Stable c w' ↔ Stable c w := by
  have only : ∀ w w' : WorldState, (∀ name, previousVersion w' name = previousVersion w name) →
      Stable c w → Stable c w' := by
    intro w w' h stable
    rw [stable_iff] at stable ⊢
    intro name s found
    have same := h name
    unfold previousVersion at same
    rw [found] at same
    obtain ⟨t, was, e⟩ := Option.map_eq_some_iff.mp same.symm
    rw [← e]
    exact stable name t was
  exact ⟨only w' w fun name => (h name).symm, only w w' h⟩

lemma Tended.previousVersion {w w' : WorldState} {name : String}
    (h : Option.Rel Tended (Assoc.get w.services name) (Assoc.get w'.services name)) :
    previousVersion w' name = previousVersion w name := by
  unfold Simulator.previousVersion
  revert h
  generalize Assoc.get w.services name = x
  generalize Assoc.get w'.services name = y
  rintro (t | _)
  · exact congrArg some t.previous
  · rfl

/-- No action changes the version to go back to. -/
lemma Acted.previousVersion {r : ActionRequest} {w w' : WorldState} {name : String} (h : Acted c r w w') :
    previousVersion w' name = previousVersion w name := by
  have applied : ∀ {incident policy expected scored w₁ w₂}, Applies c r incident policy expected w w₁ →
      Accounted r.incidentId scored w₁ w₂ → Simulator.previousVersion w₂ name = Simulator.previousVersion w name := by
    intro incident policy expected scored w₁ w₂ applies accounted
    have mutated : Mutated w w₁ := mutateAction_mutated.ok rfl applies.mutated
    unfold Simulator.previousVersion
    rw [accounted.services]
    exact Tended.previousVersion (mutated.services name)
  cases h with
  | refused reconfigured => exact Tended.previousVersion (reconfigured.mutated.services name)
  | interrupted applies accounted => exact applied applies accounted
  | applied applies accounted => exact applied applies accounted
  | @completed incident _ _ _ w₂ applies accounted =>
    have resolved : Resolved incident w₂ (Conductor.resolve incident w₂).2 := resolve_resolved.always rfl
    exact (resolved.previous name).trans (applied applies accounted)

/-- An injection changes the version to go back to only as its fault does. -/
lemma Injected.faulted {scenario : Scenario} {w w' : WorldState} {out : Except Raised Incident}
    (h : Injected c scenario w out w') :
    ∃ w₁, Disturbed (ServiceFaulted scenario) w w₁ ∧ w'.services = w₁.services := by
  cases h with
  | failed disturbed => exact ⟨_, disturbed, rfl⟩
  | halfOpened _ faulted opened => exact ⟨_, faulted.disturbed, opened.services⟩
  | outOfTime _ faulted opened => exact ⟨_, faulted.disturbed, opened.services⟩
  | opened _ faulted opened => exact ⟨_, faulted.disturbed, opened.services⟩

/-- After a bad deploy its target goes back to the version it ran, and the other services to the same as before;
after another fault all do. -/
lemma ServiceFaulted.previousVersion {scenario : Scenario} {name : String} {s s' : Service}
    (h : ServiceFaulted scenario name s s') :
    s'.previousStableVersion = if scenario.familyId = "F1_BAD_DEPLOY" ∧ name = scenario.targetService
      then s.currentVersion else s.previousStableVersion := by
  unfold ServiceFaulted at h
  split at h
  case isTrue both =>
    rw [if_pos both]
    exact h.previous
  case isFalse other =>
    rw [if_neg other]
    exact h.previous

/-- A step from a stable world leads to a stable world exactly if it does not redeploy. -/
lemma step_stable {s : Simulation} {call : Conductor.Call} (stable : Stable c s.world) :
    Stable c (c.step s call).world ↔ ¬ Redeploys c s call := by
  cases call with
  | applyAction r =>
    have acted : Acted c r s.world (c.applyAction r s.world).2 := applyAction_acted.always rfl
    have kept : Stable c (c.step s (.applyAction r)).world := (stable_congr fun _ => acted.previousVersion).mpr stable
    simp [kept, Redeploys]
  | advanceTime duration =>
    have kept : Stable c (c.step s (.advanceTime duration)).world := by
      obtain ⟨now, e, _⟩ := @step_advanceTime c s duration
      rw [e]
      exact (stable_congr fun _ => rfl).mpr stable
    simp [kept, Redeploys]
  | injectNext =>
    cases next : c.scenarios[s.nextScenario]? with
    | none =>
      have idle : c.step s .injectNext = s := by
        unfold Conductor.step Conductor.injectNext
        rw [next]
      simp [idle, stable, Redeploys, next]
    | some scenario =>
      show Stable c (c.injectNext s).2.world ↔ _
      obtain ⟨_, ⟨late, _, same⟩ | ⟨inTime, injected⟩⟩ := injectNext_injected next
      · rw [same]
        refine iff_of_true stable ?_
        rintro ⟨_, scenario', next', inTime, _⟩
        cases next.symm.trans next'
        exact late inTime
      obtain ⟨w₁, disturbed, services⟩ := injected.faulted
      rw [stable_iff] at stable ⊢
      rw [services]
      constructor
      · rintro kept ⟨_, scenario', next', _, family, service, found, bad⟩
        cases next.symm.trans next'
        obtain ⟨struck, found', faulted⟩ := disturbed.known found
        apply kept _ _ found'
        rw [faulted.previousVersion, if_pos ⟨family, rfl⟩]
        exact bad
      · intro fresh name struck found'
        obtain ⟨service, found, faulted⟩ := disturbed.was found'
        rw [faulted.previousVersion]
        split
        case isTrue both =>
          obtain ⟨family, rfl⟩ := both
          exact fun bad => fresh ⟨rfl, scenario, next, inTime, family, service, found, bad⟩
        case isFalse => exact stable name service found

/-- A dictionary of items holds values of items. -/
lemma get_index {α κ β : Type} [DecidableEq κ] {key : α → κ} {value : α → β} {items : List α} {k v}
    (h : Assoc.get (Conductor.index key value items) k = some v) : ∃ item ∈ items, v = value item := by
  have from_any : ∀ d, Assoc.get (items.foldl (fun d item => Assoc.set d (key item) (value item)) d) k = some v →
      Assoc.get d k = some v ∨ ∃ item ∈ items, v = value item := by
    clear h
    induction items with
    | nil => exact fun _ h => .inl h
    | cons item items ih =>
      intro d h
      rcases ih _ h with h | ⟨item', mem, e⟩
      · rw [Assoc.get_set] at h
        split at h
        case isTrue =>
          cases h
          exact .inr ⟨item, List.mem_cons_self, rfl⟩
        case isFalse => exact .inl h
      · exact .inr ⟨item', List.mem_cons_of_mem _ mem, e⟩
  rcases from_any [] h with h | h
  · cases h
  · exact h

/-- The world starts stable. -/
lemma loadWorld_stable {w : WorldState} (loaded : c.loadWorld = .ok w) (disjoint : DisjointVersions c) : Stable c w := by
  obtain ⟨slos, configs, _, _, rfl⟩ := loadWorld_eq loaded
  rw [stable_iff]
  intro name s found
  obtain ⟨item, mem, rfl⟩ := get_index found
  exact (disjoint item mem).2

/-- All along a run from the start, the versions to go back to are not bad ones if and only if no step injects a
bad deploy into a service that runs a bad version. -/
theorem previous_version_stable {w : WorldState} {calls : List Conductor.Call} (loaded : c.loadWorld = .ok w)
    (disjoint : DisjointVersions c) :
    (∀ before after, calls = before ++ after → Stable c (Run.run c.step { world := w } before).world) ↔
      Run.Each c.step (fun s call => ¬ Redeploys c s call) { world := w } calls :=
  Run.always_iff_each (I := fun s : Simulation => Stable c s.world) (fun _ _ => step_stable) (loadWorld_stable loaded disjoint)

lemma twoDeploys_versions {version : Json} (first : (Json.str "1.5.0").pyEq version = false)
    (second : (Json.str "1.6.0").pyEq version = false) : ¬ BadVersion Sample.twoDeploys version := by
  rintro ⟨scenario, mem, _, bad, found, same⟩
  rcases List.mem_pair.mp mem with rfl | rfl
  · cases found
    exact Bool.false_ne_true (first.symm.trans same)
  · cases found
    exact Bool.false_ne_true (second.symm.trans same)

lemma twoDeploys_disjoint : DisjointVersions Sample.twoDeploys := by
  intro item mem
  cases List.mem_singleton.mp mem
  constructor
  · exact twoDeploys_versions (by decide +kernel) (by decide +kernel)
  · exact twoDeploys_versions (by decide +kernel) (by decide +kernel)

namespace Sample

/-- The checkout service after some calls. -/
def checkoutAfter (calls : List Conductor.Call) : Option Service :=
  Assoc.get (Run.run twoDeploys.step { world := start twoDeploys } calls).world.services "checkout-svc"

end Sample

/-- Two bad deploys of one service, the first of which is rolled back. -/
theorem previous_version_stable_sample :
    Stable Sample.twoDeploys (Run.run Sample.twoDeploys.step { world := Sample.start Sample.twoDeploys }
      [.injectNext, .applyAction Sample.rollback, .injectNext]).world := by
  have fresh : ∀ {s : Simulation} {service : Service}, Assoc.get s.world.services "checkout-svc" = some service →
      ¬ BadVersion Sample.twoDeploys service.currentVersion → ¬ Redeploys Sample.twoDeploys s .injectNext := by
    rintro s service found good ⟨_, scenario, next, _, _, service', found', bad⟩
    have target : scenario.targetService = "checkout-svc" := by
      have mem : scenario ∈ Sample.twoDeploys.scenarios := List.mem_of_getElem? next
      rcases List.mem_pair.mp ((List.mem_insertionSort _).mp mem) with rfl | rfl
      · rfl
      · rfl
    rw [target, found] at found'
    cases found'
    exact good bad
  apply (previous_version_stable rfl twoDeploys_disjoint).mpr ?_ _ [] (List.append_nil _).symm
  refine ⟨?_, ?_, ?_, trivial⟩
  · have found : (Sample.checkoutAfter []).map Service.currentVersion = some (.str "1.4.2") := by decide +kernel
    obtain ⟨service, found, version⟩ := Option.map_eq_some_iff.mp found
    apply fresh found
    rw [version]
    exact twoDeploys_versions (by decide +kernel) (by decide +kernel)
  · rintro ⟨⟨⟩, _⟩
  · have found : (Sample.checkoutAfter [.injectNext, .applyAction Sample.rollback]).map Service.currentVersion =
        some (.str "1.4.2") := by decide +kernel
    obtain ⟨service, found, version⟩ := Option.map_eq_some_iff.mp found
    apply fresh found
    rw [version]
    exact twoDeploys_versions (by decide +kernel) (by decide +kernel)

/-- Two bad deploys of one service, and no action between them: the bad version of the first is what the policy
of the second rolls back to. -/
theorem bad_version_stable :
    DisjointVersions Sample.twoDeploys ∧
      Sample.twoDeploys.loadWorld = .ok (Sample.start Sample.twoDeploys) ∧
      (Sample.checkoutAfter [.injectNext, .injectNext]).map rollbackTarget = some (.str "1.5.0") ∧
      BadVersion Sample.twoDeploys (.str "1.5.0") ∧
      ¬ Stable Sample.twoDeploys (Run.run Sample.twoDeploys.step { world := Sample.start Sample.twoDeploys }
        [.injectNext, .injectNext]).world := by
  have bad : BadVersion Sample.twoDeploys (.str "1.5.0") :=
    ⟨Sample.badDeploy "f1-checkout-base" 3600 "1.5.0", List.mem_cons_self, rfl, _, rfl, rfl⟩
  have found : (Sample.checkoutAfter [.injectNext, .injectNext]).map rollbackTarget = some (.str "1.5.0") := by
    decide +kernel
  refine ⟨twoDeploys_disjoint, rfl, found, bad, ?_⟩
  intro stable
  obtain ⟨service, found, target⟩ := Option.map_eq_some_iff.mp found
  have good := (stable _ _ found).2
  rw [target] at good
  exact good bad

end Postmortem.Simulator
