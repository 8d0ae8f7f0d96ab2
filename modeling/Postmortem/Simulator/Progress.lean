import Postmortem.Lib.Subsequence
import Postmortem.Simulator.Refused

/-!
# How an incident is brought to its end

An incident under an identifier is watched along the calls: how often one was opened there, and the actions that
were applied to it since, which are those that returned. `oracle_step` counts the required actions greedily, which
gives the longest prefix of them that is a subsequence of the actions (`OnCourse`). Only a call on the incident
moves it (`applyAction_responds`), and none does once it is resolved.
-/

namespace Postmortem.Simulator

variable {c : Conductor} {w w' : WorldState} {r : ActionRequest} {id : String}

/-- No parameter of a required action is looked up in the world. -/
def Policy.Static (policy : Policy) : Prop :=
  ∀ required ∈ policy.requiredActions, ∀ p ∈ required.params, p.2 ≠ .str "$incident.previous_stable_version"

/-- The action meets the required one, for an incident of the service: in its type, its target and its parameters. -/
structure Fits (service : String) (required : RequiredAction) (r : ActionRequest) : Prop where
  actionType : r.actionType = required.actionType
  target : r.targetService = if required.targetService = "$incident.service" then service else required.targetService
  params : ∀ p ∈ required.params, (r.params.get p.1).pyEq p.2 = true

/-! ## Watching -/

/-- The scenario that `inject_next` opens an incident for: its time can be computed, and its fault does not raise. -/
def opening (c : Conductor) (s : Simulation) : Option Scenario :=
  (c.scenarios[s.nextScenario]?).filter fun scenario =>
    Schedulable c scenario && (c.injectFault scenario { s.world with now := injectionTime c scenario s.world }).1.isOk

/-- The identifier of that incident. -/
def openingId (c : Conductor) (s : Simulation) : Option String :=
  (opening c s).map fun scenario => c.id "incident" scenario.scenarioId

/-- A simulation that is watched for the incident under an identifier. -/
structure Watch where
  sim : Simulation
  /-- How many incidents were opened under the identifier. -/
  opened : Nat := 0
  /-- The actions that were applied to the last of them. -/
  applied : List ActionRequest := []

/-- A call, watched. -/
def watch (c : Conductor) (id : String) (t : Watch) : Conductor.Call → Watch
  | .injectNext =>
    if openingId c t.sim = some id then { sim := c.step t.sim .injectNext, opened := t.opened + 1 }
    else { t with sim := c.step t.sim .injectNext }
  | .applyAction r =>
    if r.incidentId = id ∧ (c.applyAction r t.sim.world).1.isOk then
      { t with
        sim := c.step t.sim (.applyAction r)
        applied := t.applied ++ [r] }
    else { t with sim := c.step t.sim (.applyAction r) }
  | .advanceTime duration => { t with sim := c.step t.sim (.advanceTime duration) }

/-- Watching changes nothing. -/
lemma watch_sim {t : Watch} {call : Conductor.Call} : (watch c id t call).sim = c.step t.sim call := by
  cases call with
  | injectNext => exact (apply_ite Watch.sim _ _ _).trans (ite_self _)
  | applyAction r => exact (apply_ite Watch.sim _ _ _).trans (ite_self _)
  | advanceTime duration => rfl

lemma watch_acted {t : Watch} : (watch c id t (.applyAction r)).applied =
    if r.incidentId = id ∧ (c.applyAction r t.sim.world).1.isOk then t.applied ++ [r] else t.applied :=
  apply_ite Watch.applied _ _ _

lemma watch_injected {t : Watch} : (watch c id t .injectNext).applied =
    if openingId c t.sim = some id then [] else t.applied :=
  apply_ite Watch.applied _ _ _

/-! ## What moves an incident -/

/-- A scenario opens an incident if its fault does not raise. -/
lemma inject_incidents {scenario : Scenario} :
    ((c.injectFault scenario w).1.isOk = false ∧ (c.inject scenario w).2.incidents = w.incidents) ∨
      (c.injectFault scenario w).1.isOk = true ∧ ∃ now, (c.inject scenario w).2.incidents =
        Assoc.set w.incidents (c.id "incident" scenario.scenarioId) (c.newIncident scenario now) := by
  have faulted := @injectFault_faulted w c scenario w rfl
  show (_ ∧ (Effect.next (fun breach => c.openIncident scenario breach) (c.injectFault scenario w)).2.incidents = _) ∨
    _ ∧ ∃ now, (Effect.next (fun breach => c.openIncident scenario breach) (c.injectFault scenario w)).2.incidents = _
  revert faulted
  generalize c.injectFault scenario w = out
  obtain ⟨_ | breach, w₁⟩ := out
  case error =>
    intro disturbed
    exact .inl ⟨rfl, disturbed.incidents⟩
  case ok =>
    intro faulted
    have opens := @openIncident_opens c scenario breach w₁ w₁ rfl
    refine .inr ⟨rfl, w₁.now, ?_⟩
    rw [← faulted.disturbed.incidents]
    show (c.openIncident scenario breach w₁).2.incidents = _
    revert opens
    generalize c.openIncident scenario breach w₁ = out
    obtain ⟨_ | _, _⟩ := out
    case ok => exact fun opens => opens.2.incidents
    case error =>
      rintro (opens | opens)
      · exact opens.incidents
      · exact opens.incidents

/-- `inject_next` opens an incident, or leaves all as they are. -/
lemma injectNext_incidents {s : Simulation} :
    (opening c s = none ∧ (c.injectNext s).2.world.incidents = s.world.incidents) ∨
      ∃ scenario now, opening c s = some scenario ∧ (c.injectNext s).2.world.incidents =
        Assoc.set s.world.incidents (c.id "incident" scenario.scenarioId) (c.newIncident scenario now) := by
  unfold opening
  cases next : c.scenarios[s.nextScenario]? with
  | none =>
    refine .inl ⟨rfl, ?_⟩
    unfold Conductor.injectNext
    rw [next]
  | some scenario =>
    rw [Option.filter_some]
    by_cases schedulable : Schedulable c scenario
    case neg =>
      have late : instant (c.fixture.startTime + scenario.injectAtSeconds * 1000000) =
          .error ⟨.OverflowError, "date value out of range", none, none⟩ := if_neg schedulable
      refine .inl ⟨if_neg (by simp [schedulable]), ?_⟩
      unfold Conductor.injectNext
      simp [next, late]
    case pos =>
      have onTime : instant (c.fixture.startTime + scenario.injectAtSeconds * 1000000) =
          .ok (c.fixture.startTime + scenario.injectAtSeconds * 1000000) := if_pos schedulable
      have injected : (c.injectNext s).2.world =
          (c.inject scenario { s.world with now := injectionTime c scenario s.world }).2 := by
        unfold Conductor.injectNext
        simp only [next, onTime]
        rfl
      rw [injected]
      obtain ⟨raised, same⟩ | ⟨returned, now, opened⟩ :=
        @inject_incidents c { s.world with now := injectionTime c scenario s.world } scenario
      · exact .inl ⟨if_neg (by simp [raised]), same⟩
      · exact .inr ⟨scenario, now, if_pos (by simp [schedulable, returned]), opened⟩

/-- The clock stays where it is while an incident is resolved. -/
lemma clearAlerts_now {now : Timestamp} {alerts : List (String × Alert)} :
    Effect.Meets (fun w => w.now = now) (Conductor.clearAlerts id alerts) (fun _ w => w.now = now)
      (fun _ w => w.now = now) := by
  induction alerts with
  | nil => exact Effect.Meets.pure fun _ h => h
  | cons entry alerts ih =>
    unfold Conductor.clearAlerts
    dsimp only
    split
    case isFalse => exact ih
    case isTrue =>
      apply Effect.Meets.bind (Q := fun _ w => w.now = now)
      · exact Effect.Meets.update fun _ h => h
      intro _
      apply Effect.Meets.bind (Effect.Meets.read fun _ h => h)
      intro _
      apply Effect.Meets.bind (Effect.Meets.lift_keeps fun _ _ h => h)
      intro _
      apply Effect.Meets.bind (Q := fun _ w => w.now = now)
      · exact Effect.Meets.update fun _ h => h
      exact fun _ => ih

lemma resolve_now {incident : Incident} {now : Timestamp} :
    Effect.Meets (fun w => w.now = now) (Conductor.resolve incident) (fun _ w => w.now = now)
      (fun _ w => w.now = now) := by
  apply Effect.Meets.bind (Q := fun _ w => w.now = now)
  · exact Effect.Meets.update fun _ h => h
  intro _
  apply Effect.Meets.bind (Q := fun _ w => w.now = now)
  · apply Effect.Meets.bind (Q := fun _ w => w.now = now)
    · exact getService_meets (fun _ _ h _ => h) fun _ _ h _ => h
    · exact fun _ => Effect.Meets.update fun _ h => h
  intro _
  apply Effect.Meets.read_bind
  exact fun w h => clearAlerts_now.mono (fun _ e => e ▸ h) (fun _ _ h => h) fun _ _ h => h

/-- What is reported of an action. -/
def reportedOutcome (expected : Bool) : String := if expected then "success" else "no_effect"

/-- What `apply_action` reports, and what it has done to the incidents: nothing if it raises; if it returns, the
incident is accounted for, and resolved with its last required action. -/
inductive Responds (c : Conductor) (r : ActionRequest) (w : WorldState) : Except Raised ActionResult → WorldState → Prop
  | raised {e w'} :
    (∀ id, Assoc.get w'.incidents id = Assoc.get w.incidents id) →
    Responds c r w (.error e) w'
  | applied {incident policy expected result w'} :
    Admitted c r incident policy expected w →
    ¬ Completes policy incident expected →
    result.outcome = reportedOutcome expected →
    result.resolved = false →
    (∀ id, Assoc.get w'.incidents id =
      if r.incidentId = id then some (accountIncident expected incident) else Assoc.get w.incidents id) →
    Responds c r w (.ok result) w'
  | completed {incident policy expected result w'} :
    Admitted c r incident policy expected w →
    Completes policy incident expected →
    result.outcome = reportedOutcome expected →
    result.resolved = true →
    (∀ id, Assoc.get w'.incidents id =
      if r.incidentId = id then some (resolvedIncident w'.now (accountIncident expected incident))
      else Assoc.get w.incidents id) →
    Responds c r w (.ok result) w'

lemma Accounted.get {incident : Incident} {expected : Bool} (accounted : Accounted r.incidentId expected w w')
    (found : Assoc.get w.incidents r.incidentId = some incident) (id : String) :
    Assoc.get w'.incidents id =
      if r.incidentId = id then some (accountIncident expected incident) else Assoc.get w.incidents id := by
  rw [accounted.incidents]
  split
  case isTrue same =>
    rw [← same, found]
    rfl
  case isFalse => rfl

/-- Nothing has become of an incident whose accounting raised. -/
lemma Accounted.stays (accounted : Accounted r.incidentId false w w') (id : String) :
    Assoc.get w'.incidents id = Assoc.get w.incidents id := by
  rw [accounted.incidents]
  split
  case isTrue =>
    cases Assoc.get w.incidents id with
    | none => rfl
    | some _ => rfl
  case isFalse => rfl

lemma conclude_responds {incident : Incident} {policy : Policy} {expected : Bool} {w₁ : WorldState} (sound : Sound w)
    (filed : incident.incidentId = r.incidentId) (admitted : Admitted c r incident policy expected w)
    (mutated : Mutated w w₁) :
    Effect.Meets (· = w₁) (c.conclude r incident policy expected) (fun result => Responds c r w (.ok result))
      (fun e => Responds c r w (.error e)) := by
  apply Effect.Meets.bind (Q := fun _ => Accounted r.incidentId expected w₁)
  · apply account_accounted.mono
    · exact fun _ h => h
    · exact fun _ _ h => h
    · intro e w' accounted
      apply Responds.raised
      intro id
      rw [accounted.stays, mutated.incidents]
  intro actionId
  have account : ∀ w₂, Accounted r.incidentId expected w₁ w₂ → ∀ id, Assoc.get w₂.incidents id =
      if r.incidentId = id then some (accountIncident expected incident) else Assoc.get w.incidents id := by
    intro w₂ accounted
    rw [← mutated.incidents]
    exact accounted.get (mutated.incidents ▸ admitted.found)
  by_cases completes :
      (if expected = true then incident.oracleStep + 1 else incident.oracleStep) = policy.requiredActions.length
  case neg =>
    rw [if_neg completes]
    exact Effect.Meets.pure fun w₂ accounted => Responds.applied admitted completes rfl rfl (account w₂ accounted)
  case pos =>
    rw [if_pos completes]
    intro w₂ accounted
    have incidents := account w₂ accounted
    have home : Known w₂ incident.service := by
      unfold Known
      rw [accounted.services]
      exact known_of_rel (mutated.services _) (sound.services _ _ admitted.found)
    have returns := @resolve_returns w₂ incident ((sound.mutated mutated).accounted accounted) home w₂ rfl
    have resolved := @resolve_resolved incident w₂ w₂ rfl
    have now := @resolve_now incident w₂.now w₂ rfl
    rw [Effect.bind_apply]
    revert returns resolved now
    generalize Conductor.resolve incident w₂ = out
    obtain ⟨_ | _, w₃⟩ := out
    case error => exact False.elim
    case ok =>
      intro _ resolved now
      refine Responds.completed admitted completes rfl rfl ?_
      intro id
      have now : w₃.now = w₂.now := now
      have modified : w₃.incidents = Assoc.modify (resolvedIncident w₂.now) w₂.incidents incident.incidentId :=
        resolved.incidents
      show Assoc.get w₃.incidents id = if _ then some (resolvedIncident w₃.now _) else _
      rw [modified, Assoc.get_modify, incidents, filed, now]
      split
      case isTrue => rfl
      case isFalse => rfl

/-- Every incident is under its own identifier. -/
def Filed (w : WorldState) : Prop := ∀ id incident, Assoc.get w.incidents id = some incident → incident.incidentId = id

lemma loadWorld_filed (loaded : c.loadWorld = .ok w) : Filed w := by
  obtain ⟨slos, configs, _, _, rfl⟩ := loadWorld_eq loaded
  rintro _ _ ⟨⟩

lemma applyAction_responds (sound : Sound w) (filed : Filed w) :
    Responds c r w (c.applyAction r w).1 (c.applyAction r w).2 := by
  rw [applyAction_eq]
  cases checked : c.admission r w with
  | error e => exact Responds.raised fun _ => rfl
  | ok entry =>
    obtain ⟨incident, policy, expected⟩ := entry
    have admitted := admission_ok.mp checked
    have mutates := @mutateAction_mutated c r.actionType r.targetService r.params w w rfl
    dsimp only
    revert mutates
    generalize c.mutateAction r.actionType r.targetService r.params w = out
    obtain ⟨_ | _, w₁⟩ := out
    case error =>
      rintro ⟨configs, rfl⟩
      exact Responds.raised fun _ => rfl
    case ok =>
      intro mutated
      have responds := conclude_responds sound (filed _ _ admitted.found) admitted mutated w₁ rfl
      show Responds c r w (c.conclude r incident policy expected w₁).1 (c.conclude r incident policy expected w₁).2
      revert responds
      generalize c.conclude r incident policy expected w₁ = out
      obtain ⟨_ | _, w₂⟩ := out
      case error => exact fun responds => responds
      case ok => exact fun responds => responds

/-! ## The oracle step -/

/-- With static parameters the next required action is expected exactly if the request fits it. -/
lemma isExpected_fits {policy : Policy} {incident : Incident} {expected : Bool} (static : policy.Static)
    (matched : Conductor.isExpected w policy incident r = .ok expected) :
    expected = true ↔
      ∃ required, policy.requiredActions[incident.oracleStep]? = some required ∧ Fits incident.service required r := by
  unfold Conductor.isExpected at matched
  cases next : policy.requiredActions[incident.oracleStep]? with
  | none =>
    rw [next] at matched
    cases matched
    exact iff_of_false Bool.false_ne_true nofun
  | some required =>
    rw [next] at matched
    simp only [Option.some.injEq, exists_eq_left']
    unfold Conductor.matchesExpected at matched
    dsimp only at matched
    generalize resolved :
      (if required.targetService = "$incident.service" then incident.service else required.targetService) = target
      at matched
    split at matched
    case isTrue other =>
      cases matched
      refine iff_of_false Bool.false_ne_true ?_
      rintro ⟨actionType, same, _⟩
      obtain other | other := other
      · exact other actionType.symm
      · exact other (resolved.symm.trans same.symm)
    case isFalse same =>
      obtain ⟨actionType, meant⟩ := not_or.mp same
      obtain ⟨service, _, matched⟩ := bind_ok matched
      cases matched
      rw [List.all_eq_true]
      -- a static parameter is expected as it stands
      have value : ∀ p ∈ required.params, Conductor.expectedValue service p.2 = p.2 := by
        intro p mem
        exact if_neg (static required (List.mem_of_getElem? next) p mem)
      constructor
      case mp =>
        intro all
        refine ⟨(not_not.mp actionType).symm, (resolved.trans (not_not.mp meant)).symm, ?_⟩
        intro p mem
        rw [← value p mem]
        exact all p mem
      case mpr =>
        rintro ⟨_, _, params⟩ p mem
        rw [value p mem]
        exact params p mem

/-- `oracle_step` is the length of the longest prefix of the required actions that is a subsequence of the actions
applied, and the incident is resolved exactly if that is all of them. -/
structure Tracks (policy : Policy) (incident : Incident) (applied : List ActionRequest) : Prop where
  step : IsGreatest (Subsequence.prefixes (Fits incident.service) policy.requiredActions applied) incident.oracleStep
  resolved : incident.status = .resolved ↔ incident.oracleStep = policy.requiredActions.length

lemma Tracks.opened {policy : Policy} {scenario : Scenario} {now : Timestamp} (required : policy.requiredActions ≠ []) :
    Tracks policy (c.newIncident scenario now) [] := by
  refine ⟨Subsequence.greatest_nil, iff_of_false nofun ?_⟩
  intro none
  exact required (List.length_eq_zero_iff.mp none.symm)

section applied

variable {policy : Policy} {incident : Incident} {expected : Bool} {applied : List ActionRequest}

/-- An action moves the step on by one exactly if it is expected. -/
lemma Tracks.step_applied (tracks : Tracks policy incident applied) (static : policy.Static)
    (admitted : Admitted c r incident policy expected w) :
    IsGreatest (Subsequence.prefixes (Fits incident.service) policy.requiredActions (applied ++ [r]))
      (accountIncident expected incident).oracleStep := by
  have fits := isExpected_fits static admitted.expected
  cases expected with
  | true =>
    obtain ⟨required, next, fits⟩ := fits.mp rfl
    exact Subsequence.greatest_met tracks.step next fits
  | false =>
    apply Subsequence.greatest_missed tracks.step
    intro required next met
    cases fits.mpr ⟨required, next, met⟩

lemma accountIncident_same : (accountIncident expected incident).service = incident.service ∧
    c.oracleFor (accountIncident expected incident) = c.oracleFor incident := by
  cases expected with
  | true => exact ⟨rfl, rfl⟩
  | false => exact ⟨rfl, rfl⟩

lemma accountIncident_step : (accountIncident expected incident).oracleStep =
    if expected then incident.oracleStep + 1 else incident.oracleStep := by
  cases expected with
  | true => rfl
  | false => rfl

lemma Tracks.continued (tracks : Tracks policy incident applied) (static : policy.Static)
    (admitted : Admitted c r incident policy expected w) (more : ¬ Completes policy incident expected) :
    Tracks policy (accountIncident expected incident) (applied ++ [r]) := by
  refine ⟨?_, iff_of_false ?_ ?_⟩
  · rw [(@accountIncident_same c _ _).1]
    exact tracks.step_applied static admitted
  · cases expected with
    | true => nofun
    | false => exact admitted.unresolved
  · rw [accountIncident_step]
    exact more

lemma Tracks.completed {now : Timestamp} (tracks : Tracks policy incident applied) (static : policy.Static)
    (admitted : Admitted c r incident policy expected w) (completes : Completes policy incident expected) :
    Tracks policy (resolvedIncident now (accountIncident expected incident)) (applied ++ [r]) := by
  refine ⟨?_, iff_of_true rfl ?_⟩
  · show IsGreatest (Subsequence.prefixes (Fits (accountIncident expected incident).service) _ _)
      (accountIncident expected incident).oracleStep
    rw [(@accountIncident_same c _ _).1]
    exact tracks.step_applied static admitted
  · show (accountIncident expected incident).oracleStep = _
    rw [accountIncident_step]
    exact completes

end applied

/-! ## Along a run -/

/-- What is kept of a watched simulation. -/
structure Watched (c : Conductor) (id : String) (t : Watch) : Prop where
  sound : Sound t.sim.world
  filed : Filed t.sim.world
  tracks : ∀ incident policy, Assoc.get t.sim.world.incidents id = some incident →
    c.oracleFor incident = .ok policy → policy.requiredActions ≠ [] → policy.Static → Tracks policy incident t.applied

lemma Filed.responds {out : Except Raised ActionResult} (filed : Filed w) (responds : Responds c r w out w') :
    Filed w' := by
  intro id incident found
  cases responds with
  | raised same =>
    rw [same] at found
    exact filed id incident found
  | @applied was policy expected _ _ admitted _ _ _ incidents =>
    rw [incidents] at found
    split at found
    case isTrue here =>
      cases found
      rw [← here, ← filed _ _ admitted.found]
      cases expected with
      | true => rfl
      | false => rfl
    case isFalse => exact filed id incident found
  | @completed was policy expected _ _ admitted _ _ _ incidents =>
    rw [incidents] at found
    split at found
    case isTrue here =>
      cases found
      rw [← here, ← filed _ _ admitted.found]
      cases expected with
      | true => rfl
      | false => rfl
    case isFalse => exact filed id incident found

lemma Filed.injected {s : Simulation} (filed : Filed s.world) : Filed (c.injectNext s).2.world := by
  intro id incident found
  obtain ⟨_, same⟩ | ⟨scenario, now, _, opened⟩ := @injectNext_incidents c s
  · rw [same] at found
    exact filed id incident found
  · rw [opened, Assoc.get_set] at found
    split at found
    case isTrue here =>
      cases found
      exact here
    case isFalse => exact filed id incident found

/-- What an action does to the incident that is watched, and to the actions applied to it. -/
lemma Watched.acted {t : Watch} (watched : Watched c id t) : Watched c id (watch c id t (.applyAction r)) := by
  have responds := @applyAction_responds c t.sim.world r watched.sound watched.filed
  have sound := @step_sound c t.sim (.applyAction r) watched.sound
  refine ⟨?_, ?_, ?_⟩
  · rw [watch_sim]
    exact sound
  · rw [watch_sim]
    exact watched.filed.responds responds
  intro incident policy found oracle required static
  rw [watch_sim] at found
  rw [watch_acted]
  have found : Assoc.get (c.applyAction r t.sim.world).2.incidents id = some incident := found
  revert responds found
  generalize (c.applyAction r t.sim.world).1 = out
  generalize (c.applyAction r t.sim.world).2 = w'
  intro responds found
  cases responds with
  | raised same =>
    rw [same] at found
    rw [if_neg fun h => Bool.false_ne_true h.2]
    exact watched.tracks incident policy found oracle required static
  | @applied was policy' expected _ _ admitted more _ _ incidents =>
    rw [incidents] at found
    split at found
    case isTrue here =>
      cases found
      rw [if_pos ⟨here, rfl⟩]
      rw [accountIncident_same.2] at oracle
      cases admitted.oracle.symm.trans oracle
      have before := watched.tracks was policy (here ▸ admitted.found) oracle required static
      exact before.continued static admitted more
    case isFalse other =>
      rw [if_neg fun h => other h.1]
      exact watched.tracks incident policy found oracle required static
  | @completed was policy' expected _ _ admitted completes _ _ incidents =>
    rw [incidents] at found
    split at found
    case isTrue here =>
      cases found
      rw [if_pos ⟨here, rfl⟩]
      have oracle : c.oracleFor (accountIncident expected was) = .ok policy := oracle
      rw [accountIncident_same.2] at oracle
      cases admitted.oracle.symm.trans oracle
      have before := watched.tracks was policy (here ▸ admitted.found) oracle required static
      exact before.completed static admitted completes
    case isFalse other =>
      rw [if_neg fun h => other h.1]
      exact watched.tracks incident policy found oracle required static

/-- An incident that is opened has had no action applied to it. -/
lemma Watched.injected {t : Watch} (watched : Watched c id t) : Watched c id (watch c id t .injectNext) := by
  refine ⟨?_, ?_, ?_⟩
  · rw [watch_sim]
    exact @step_sound c t.sim .injectNext watched.sound
  · rw [watch_sim]
    exact watched.filed.injected
  intro incident policy found oracle required static
  rw [watch_sim] at found
  have found : Assoc.get (c.injectNext t.sim).2.world.incidents id = some incident := found
  rw [watch_injected]
  unfold openingId
  obtain ⟨idle, same⟩ | ⟨scenario, now, opens, opened⟩ := @injectNext_incidents c t.sim
  · rw [idle]
    rw [same] at found
    exact watched.tracks incident policy found oracle required static
  · rw [opens, Option.map_some]
    rw [opened, Assoc.get_set] at found
    split at found
    case isTrue here =>
      cases found
      rw [if_pos (congrArg _ here)]
      exact Tracks.opened required
    case isFalse other =>
      rw [if_neg fun h => other (Option.some.inj h)]
      exact watched.tracks incident policy found oracle required static

lemma Watched.step {t : Watch} {call : Conductor.Call} (watched : Watched c id t) : Watched c id (watch c id t call) := by
  cases call with
  | injectNext => exact watched.injected
  | applyAction r => exact watched.acted
  | advanceTime duration =>
    obtain ⟨now, e, _⟩ := @step_advanceTime c t.sim duration
    show Watched c id { t with sim := c.step t.sim (.advanceTime duration) }
    rw [e]
    exact ⟨watched.sound.stays rfl rfl rfl fun _ known => known, watched.filed, watched.tracks⟩

lemma run_watched {calls : List Conductor.Call} (loaded : c.loadWorld = .ok w) :
    Watched c id (Run.run (watch c id) { sim := { world := w } } calls) := by
  apply Run.run_invariant
  · exact fun _ _ _ => Watched.step
  · constructor
    case sound => exact loadWorld_sound loaded
    case filed => exact loadWorld_filed loaded
    case tracks =>
      obtain ⟨slos, configs, _, _, rfl⟩ := loadWorld_eq loaded
      rintro _ _ ⟨⟩

/-- What a call that returned has made of the incident: it reports success exactly if the oracle step advanced, and
the whole seconds since the incident was opened are its time to recovery once it is resolved. -/
structure Advances (incident incident' : Incident) (result : ActionResult) (now : Timestamp) : Prop where
  success : result.outcome = "success" ↔ incident'.oracleStep = incident.oracleStep + 1
  failure : result.outcome ≠ "success" ↔ incident'.oracleStep = incident.oracleStep
  resolved : result.resolved = true ↔ incident'.status = .resolved
  openedAt : incident'.openedAt = incident.openedAt
  timed : incident'.status = .resolved → incident'.mttrSeconds = some ((now - incident'.openedAt).tdiv 1000000)

/-- The incident under the identifier tracks its policy, a call on it advances it or leaves it as it is, and once it
is resolved every call on it raises and nothing changes it. -/
structure OnCourse (c : Conductor) (id : String) (policy : Policy) (incident : Incident) (t : Watch) : Prop
    extends Tracks policy incident t.applied where
  returns : ∀ r result w', r.incidentId = id → c.applyAction r t.sim.world = (.ok result, w') →
    ∃ incident', Assoc.get w'.incidents id = some incident' ∧ Advances incident incident' result w'.now
  raises : ∀ r e w', r.incidentId = id → c.applyAction r t.sim.world = (.error e, w') →
    Assoc.get w'.incidents id = some incident
  closed : incident.status = .resolved → ∀ r, r.incidentId = id →
    c.applyAction r t.sim.world = (.error (simulationError ("incident is already resolved: " ++ id)), t.sim.world)
  kept : incident.status = .resolved → ∀ later, (Run.run (watch c id) t later).opened = t.opened →
    Assoc.get (Run.run (watch c id) t later).sim.world.incidents id = some incident

lemma reportedOutcome_success {expected : Bool} : reportedOutcome expected = "success" ↔ expected = true := by
  cases expected with
  | true => exact iff_of_true rfl rfl
  | false => exact iff_of_false (by decide) Bool.false_ne_true

section course

variable {incident : Incident} {t : Watch}

lemma Advances.reported {incident' : Incident} {result : ActionResult} {now : Timestamp} {expected : Bool}
    (outcome : result.outcome = reportedOutcome expected)
    (step : incident'.oracleStep = (accountIncident expected incident).oracleStep)
    (resolved : result.resolved = true ↔ incident'.status = .resolved)
    (openedAt : incident'.openedAt = (accountIncident expected incident).openedAt)
    (timed : incident'.status = .resolved → incident'.mttrSeconds = some ((now - incident'.openedAt).tdiv 1000000)) :
    Advances incident incident' result now := by
  rw [accountIncident_step] at step
  refine ⟨?_, ?_, resolved, ?_, timed⟩
  · rw [outcome, reportedOutcome_success, step]
    cases expected with
    | true => exact iff_of_true rfl rfl
    | false => exact iff_of_false Bool.false_ne_true (Nat.ne_of_lt (Nat.lt_succ_self _))
  · rw [outcome, ne_eq, reportedOutcome_success, step]
    cases expected with
    | true => exact iff_of_false (fun h => h rfl) (Nat.succ_ne_self _)
    | false => exact iff_of_true Bool.false_ne_true rfl
  · rw [openedAt]
    cases expected with
    | true => rfl
    | false => rfl

lemma Watched.returns {result : ActionResult} (watched : Watched c id t)
    (found : Assoc.get t.sim.world.incidents id = some incident) (on : r.incidentId = id)
    (returned : c.applyAction r t.sim.world = (.ok result, w')) :
    ∃ incident', Assoc.get w'.incidents id = some incident' ∧ Advances incident incident' result w'.now := by
  have responds := @applyAction_responds c t.sim.world r watched.sound watched.filed
  rw [returned] at responds
  cases responds with
  | @applied was policy expected _ _ admitted more outcome open_ incidents =>
    have same : was = incident := Option.some.inj ((on ▸ admitted.found).symm.trans found)
    cases same
    have unresolved : (accountIncident expected incident).status ≠ .resolved := by
      cases expected with
      | true => nofun
      | false => exact admitted.unresolved
    refine ⟨accountIncident expected incident, (incidents id).trans (if_pos on), ?_⟩
    apply Advances.reported outcome rfl _ rfl
    · exact fun resolved => absurd resolved unresolved
    · rw [open_]
      exact iff_of_false Bool.false_ne_true unresolved
  | @completed was policy expected _ _ admitted completes outcome resolved incidents =>
    have same : was = incident := Option.some.inj ((on ▸ admitted.found).symm.trans found)
    cases same
    refine ⟨resolvedIncident w'.now (accountIncident expected incident), (incidents id).trans (if_pos on), ?_⟩
    exact Advances.reported outcome rfl (iff_of_true resolved rfl) rfl fun _ => rfl

lemma Watched.raises {e : Raised} (watched : Watched c id t)
    (found : Assoc.get t.sim.world.incidents id = some incident) (raised : c.applyAction r t.sim.world = (.error e, w')) :
    Assoc.get w'.incidents id = some incident := by
  have responds := @applyAction_responds c t.sim.world r watched.sound watched.filed
  rw [raised] at responds
  cases responds with
  | raised same => exact (same id).trans found

lemma applyAction_closed (found : Assoc.get w.incidents id = some incident) (resolved : incident.status = .resolved)
    (on : r.incidentId = id) :
    c.applyAction r w = (.error (simulationError ("incident is already resolved: " ++ id)), w) := by
  have refused : c.admission r w = .error (simulationError ("incident is already resolved: " ++ id)) := by
    simp [Conductor.admission, on, found, resolved]
  rw [applyAction_eq, refused]

lemma watch_opened {call : Conductor.Call} : t.opened ≤ (watch c id t call).opened := by
  cases call with
  | injectNext =>
    have opened : (watch c id t .injectNext).opened =
        if openingId c t.sim = some id then t.opened + 1 else t.opened := apply_ite Watch.opened _ _ _
    rw [opened]
    split
    case isTrue => exact Nat.le_succ _
    case isFalse => exact Nat.le_refl _
  | applyAction r =>
    have same : (watch c id t (.applyAction r)).opened = t.opened :=
      (apply_ite Watch.opened _ _ _).trans (ite_self _)
    exact same.ge
  | advanceTime duration => exact Nat.le_refl _

lemma run_watch_opened {calls : List Conductor.Call} : t.opened ≤ (Run.run (watch c id) t calls).opened := by
  apply @Run.run_relation _ _ _ fun t t' : Watch => t.opened ≤ t'.opened
  · exact fun _ => Nat.le_refl _
  · exact fun _ _ _ => Nat.le_trans
  · exact fun _ _ _ => watch_opened

/-- A call that opens no other incident under the identifier leaves a resolved one as it is. -/
lemma Watched.step_kept {call : Conductor.Call} (watched : Watched c id t)
    (found : Assoc.get t.sim.world.incidents id = some incident) (resolved : incident.status = .resolved)
    (same : (watch c id t call).opened = t.opened) :
    Assoc.get (watch c id t call).sim.world.incidents id = some incident := by
  rw [watch_sim]
  cases call with
  | injectNext =>
    show Assoc.get (c.injectNext t.sim).2.world.incidents id = some incident
    obtain ⟨_, idle⟩ | ⟨scenario, now, opens, opened⟩ := @injectNext_incidents c t.sim
    · rw [idle]
      exact found
    · have other : c.id "incident" scenario.scenarioId ≠ id := by
        intro here
        have again : openingId c t.sim = some id := by
          unfold openingId
          rw [opens, Option.map_some, here]
        have more : (watch c id t .injectNext).opened = t.opened + 1 := by
          unfold watch
          rw [if_pos again]
        omega
      rw [opened, Assoc.get_set, if_neg other]
      exact found
  | applyAction r =>
    show Assoc.get (c.applyAction r t.sim.world).2.incidents id = some incident
    have responds := @applyAction_responds c t.sim.world r watched.sound watched.filed
    by_cases on : r.incidentId = id
    case pos =>
      rw [applyAction_closed found resolved on]
      exact found
    case neg =>
      revert responds
      generalize (c.applyAction r t.sim.world).1 = out
      generalize (c.applyAction r t.sim.world).2 = w'
      intro responds
      cases responds with
      | raised same => exact (same id).trans found
      | applied _ _ _ _ incidents => exact ((incidents id).trans (if_neg on)).trans found
      | completed _ _ _ _ incidents => exact ((incidents id).trans (if_neg on)).trans found
  | advanceTime duration =>
    obtain ⟨now, e, _⟩ := @step_advanceTime c t.sim duration
    rw [e]
    exact found

lemma Watched.run_kept {later : List Conductor.Call} (watched : Watched c id t)
    (found : Assoc.get t.sim.world.incidents id = some incident) (resolved : incident.status = .resolved)
    (same : (Run.run (watch c id) t later).opened = t.opened) :
    Assoc.get (Run.run (watch c id) t later).sim.world.incidents id = some incident := by
  induction later generalizing t with
  | nil => exact found
  | cons call later ih =>
    rw [Run.run_cons] at same ⊢
    have first : t.opened ≤ (watch c id t call).opened := watch_opened
    have rest : (watch c id t call).opened ≤ (Run.run (watch c id) (watch c id t call) later).opened :=
      run_watch_opened
    apply ih watched.step
    · exact watched.step_kept found resolved (by omega)
    · omega

end course

/-- In every state of a run, for every incident with a policy of static required actions: its oracle step is the
length of the longest prefix of them that is a subsequence of the actions applied to it so far, it is resolved
exactly if that is all of them, and then it stays as it is. -/
theorem oracleStep_onCourse {calls : List Conductor.Call} {incident : Incident} {policy : Policy}
    (loaded : c.loadWorld = .ok w)
    (found : Assoc.get (Run.run (watch c id) { sim := { world := w } } calls).sim.world.incidents id = some incident)
    (oracle : c.oracleFor incident = .ok policy) (required : policy.requiredActions ≠ []) (static : policy.Static) :
    OnCourse c id policy incident (Run.run (watch c id) { sim := { world := w } } calls) := by
  have watched := @run_watched c w id calls loaded
  have tracks := watched.tracks incident policy found oracle required static
  refine ⟨tracks, ?_, ?_, ?_, ?_⟩
  · exact fun _ _ _ => watched.returns found
  · exact fun _ _ _ _ => watched.raises found
  · exact fun resolved _ => applyAction_closed found resolved
  · exact fun resolved _ => watched.run_kept found resolved

namespace Sample

/-- The policy of a pool that is too small: a greater pool, and then a restart. -/
def poolPolicy : Policy where
  actionSeconds := 60
  wrongActionPenaltySeconds := 300
  requiredActions := [
    { actionType := "set_config"
      targetService := "$incident.service"
      params := [("key", .str "pool_max")] },
    { actionType := "restart_service"
      targetService := "checkout-svc"
      params := [] }]

/-- A bad deploy that is brought to its end by this policy. -/
def pooled : Conductor := { conductor [badDeploy "f1-checkout-base" 3600 "1.5.0"] with
  oracle := { families := [("F1_BAD_DEPLOY", poolPolicy)] } }

/-- The greater pool. -/
def enlarge : ActionRequest := { restart with
  actionType := "set_config"
  params := [("key", .str "pool_max"), ("value", .int 80)] }

/-- The restart comes too early, and again after the pool is greater. -/
def recovery : List Conductor.Call :=
  [.injectNext, .applyAction restart, .applyAction enlarge, .advanceTime 1000000, .applyAction restart]

end Sample

/-- `oracleStep_onCourse` for an incident that is restarted too early. -/
theorem oracleStep_onCourse_sample : ∃ incident,
    incident.status = .resolved ∧ incident.mttrSeconds = some 421 ∧
    OnCourse Sample.pooled "1:incident:f1-checkout-base" Sample.poolPolicy incident
      (Run.run (watch Sample.pooled "1:incident:f1-checkout-base") { sim := { world := Sample.start Sample.pooled } }
        Sample.recovery) := by
  have ends : (Assoc.get (Run.run (watch Sample.pooled "1:incident:f1-checkout-base")
      { sim := { world := Sample.start Sample.pooled } } Sample.recovery).sim.world.incidents
      "1:incident:f1-checkout-base").map (fun i => (i.status, i.mttrSeconds, Sample.pooled.oracleFor i)) =
      some (.resolved, some 421, .ok Sample.poolPolicy) := by decide +kernel
  obtain ⟨incident, found, ends⟩ := Option.map_eq_some_iff.mp ends
  simp only [Prod.mk.injEq] at ends
  obtain ⟨resolved, timed, oracle⟩ := ends
  refine ⟨incident, resolved, timed, oracleStep_onCourse rfl found oracle nofun ?_⟩
  unfold Policy.Static
  decide

end Postmortem.Simulator
