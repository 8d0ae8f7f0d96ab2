import Postmortem.Evaluation.RealAgent

/-!
# First-action accuracy

`first_action_correct` of the record that `_run_arm` makes of an incident. The outcomes it is read off are those of
the steps that were applied, so it is about the first step that the simulator executes (`remediate_first`). That is
the first action of the plan, unless the plan begins with steps that are refused (`first_action_correct_iff`).
-/

namespace Postmortem.Evaluation

open Simulator

/-- The body of the loop of `_run_arm` after the decision. -/
def remediate (c : Conductor) (incident : Simulator.Incident) (retrieved : List String) (orderMark : Nat)
    (response : PlannedResponse) (elapsed : Int) : Sim RealIncidentResult := do
  Conductor.advanceTime elapsed
  let tally ← runActions c (stepRequest incident.incidentId response.authorizedMemoryId) response.actions {}
  let w ← Effect.read
  return recordIncident incident retrieved orderMark response tally w

lemma respond_eq {c : Conductor} {incident : Simulator.Incident} {retrieved : List String} {orderMark : Nat}
    {service raw : String} {elapsed : Int} : respond c incident retrieved orderMark service raw elapsed =
      Effect.lift (BedrockIncidentResponder.decide c.rt retrieved service raw) >>= fun response =>
        remediate c incident retrieved orderMark response elapsed := rfl

/-- The simulator executes the step, and it is what the oracle of the incident requires first. -/
structure Correct (c : Conductor) (incident : Simulator.Incident) (request : ActionPlan → ActionRequest) (w : WorldState)
    (action : ActionPlan) : Prop where
  executed : (c.applyAction (request action) w).1.isOk = true
  required : ∃ policy required, c.oracleFor incident = .ok policy ∧ policy.requiredActions.head? = some required ∧
    Conductor.matchesExpected w required incident (request action).actionType (request action).targetService
      (request action).params = .ok true

/-- The first action of the plan is correct. -/
def FirstCorrect (c : Conductor) (incident : Simulator.Incident) (request : ActionPlan → ActionRequest) (w : WorldState)
    (plan : List ActionPlan) : Prop :=
  ∃ action rest, plan = action :: rest ∧ Correct c incident request w action

/-- The plan begins with steps that the simulator refuses, and the next one is correct. -/
def LateCorrect (c : Conductor) (incident : Simulator.Incident) (request : ActionPlan → ActionRequest) (w : WorldState)
    (plan : List ActionPlan) : Prop :=
  ∃ refused action rest, plan = refused ++ action :: rest ∧ refused ≠ [] ∧
    (∀ a ∈ refused, (c.applyAction (request a) w).1.isOk = false) ∧ Correct c incident request w action

section outcome

variable {c : Conductor} {w w' : WorldState} {r : ActionRequest} {result : ActionResult}

lemma conclude_outcome {incident : Simulator.Incident} {policy : Policy} {expected : Bool}
    (concluded : c.conclude r incident policy expected w = (.ok result, w')) :
    result.outcome = if expected then "success" else "no_effect" := by
  obtain ⟨actionId, w₁, _, concluded⟩ := Effect.bind_ok_iff.mp concluded
  generalize (if expected = true then "success" else "no_effect") = outcome at concluded ⊢
  generalize (if expected = true then incident.oracleStep + 1 else incident.oracleStep) = step at concluded
  generalize (if expected = true then Simulator.IncidentStatus.mitigating else incident.status) = status at concluded
  by_cases last : step = policy.requiredActions.length
  case pos =>
    rw [if_pos last] at concluded
    obtain ⟨_, _, _, returned⟩ := Effect.bind_ok_iff.mp concluded
    cases returned
    rfl
  case neg =>
    rw [if_neg last] at concluded
    cases concluded
    rfl

/-- The outcome of an action that is applied. -/
lemma applyAction_outcome (applied : c.applyAction r w = (.ok result, w')) :
    ∃ incident policy expected, Admitted c r incident policy expected w ∧
      result.outcome = if expected then "success" else "no_effect" := by
  rw [applyAction_eq] at applied
  cases checked : c.admission r w with
  | error e =>
    rw [checked] at applied
    cases applied
  | ok entry =>
    obtain ⟨incident, policy, expected⟩ := entry
    rw [checked] at applied
    obtain ⟨_, _, _, concluded⟩ := Effect.bind_ok_iff.mp applied
    exact ⟨incident, policy, expected, admission_ok.mp checked, conclude_outcome concluded⟩

/-- What an action has for an outcome where the incident is new. -/
lemma applyAction_success {incident : Simulator.Incident} (applied : c.applyAction r w = (.ok result, w'))
    (found : Assoc.get w.incidents r.incidentId = some incident) (new : incident.oracleStep = 0) :
    result.outcome = "success" ↔ ∃ policy required, c.oracleFor incident = .ok policy ∧
      policy.requiredActions.head? = some required ∧
      Conductor.matchesExpected w required incident r.actionType r.targetService r.params = .ok true := by
  obtain ⟨incident', policy, expected, admitted, outcome⟩ := applyAction_outcome applied
  obtain rfl := Option.some.inj (found.symm.trans admitted.found)
  have matched := admitted.expected
  unfold Conductor.isExpected at matched
  rw [new, ← List.head?_eq_getElem?] at matched
  have success : result.outcome = "success" ↔ expected = true := by
    rw [outcome]
    cases expected with
    | true => exact iff_of_true rfl rfl
    | false => exact iff_of_false (by decide) Bool.false_ne_true
  rw [success]
  constructor
  case mp =>
    rintro rfl
    cases first : policy.requiredActions.head? with
    | none =>
      rw [first] at matched
      cases matched
    | some required =>
      rw [first] at matched
      exact ⟨policy, required, admitted.oracle, first, matched⟩
  case mpr =>
    rintro ⟨policy', required, oracle, first, matches_⟩
    cases oracle.symm.trans admitted.oracle
    rw [first] at matched
    exact Except.ok.inj (matched.symm.trans matches_)

end outcome

/-! ## The steps -/

section steps

variable {c : Conductor} {w w' : WorldState} {request : ActionPlan → ActionRequest} {incident : Simulator.Incident}

/-- The result of the first step that the simulator applies, where refused steps change nothing. -/
def firstApplied (c : Conductor) (request : ActionPlan → ActionRequest) (w : WorldState) : List ActionPlan → Option ActionResult
  | [] => none
  | action :: rest =>
    match (c.applyAction (request action) w).1 with
    | .ok result => some result
    | .error _ => firstApplied c request w rest

/-- The first outcome is that of the first step that is applied. -/
lemma runActions_first {plan : List ActionPlan} {tally t : Tally} (encodable : Encodable c w) (sound : Sound w)
    (returned : runActions c request plan tally w = (.ok t, w')) :
    t.outcomes.head? = tally.outcomes.head?.or ((firstApplied c request w plan).map ActionResult.outcome) := by
  induction plan generalizing tally w with
  | nil =>
    cases returned
    exact (Option.or_none).symm
  | cons action rest ih =>
    have contained := @applyAction_contained c w (request action) encodable sound w rfl
    unfold runActions at returned
    unfold firstApplied
    cases h : c.applyAction (request action) w with
    | mk out w₁ =>
      obtain ⟨encodable', sound'⟩ := applyAction_keeps encodable sound h
      rw [h] at contained returned
      cases out with
      | ok result =>
        have first : ∀ o : Option String, (tally.outcomes ++ [result.outcome]).head?.or o =
            tally.outcomes.head?.or (some result.outcome) := by
          intro o
          cases tally.outcomes with
          | nil => rfl
          | cons _ _ => rfl
        dsimp only at returned
        split at returned
        case isTrue =>
          cases returned
          exact Option.or_none.symm.trans (first none)
        case isFalse => exact (ih encodable' sound' returned).trans (first _)
      | error e =>
        dsimp only at returned contained
        split at returned
        case isTrue refused =>
          obtain ⟨_, _, rfl⟩ | ⟨other, _⟩ := contained
          · have followed := ih encodable sound returned
            exact followed
          · exact absurd refused other
        case isFalse => cases returned

/-- The first step that is applied comes after steps that are refused. -/
lemma firstApplied_iff {plan : List ActionPlan} {result : ActionResult} : firstApplied c request w plan = some result ↔
    ∃ refused action rest, plan = refused ++ action :: rest ∧
      (∀ a ∈ refused, (c.applyAction (request a) w).1.isOk = false) ∧ (c.applyAction (request action) w).1 = .ok result := by
  induction plan with
  | nil => simp [firstApplied]
  | cons action plan ih =>
    unfold firstApplied
    constructor
    case mp =>
      intro h
      split at h
      case h_1 applied =>
        cases h
        exact ⟨[], action, plan, rfl, List.forall_mem_nil _, applied⟩
      case h_2 raised =>
        obtain ⟨refused, first, rest, rfl, none, applied⟩ := ih.mp h
        refine ⟨action :: refused, first, rest, rfl, ?_, applied⟩
        rw [List.forall_mem_cons, raised]
        exact ⟨rfl, none⟩
    case mpr =>
      rintro ⟨refused, first, rest, e, none, applied⟩
      cases refused with
      | nil =>
        cases e
        rw [applied]
      | cons a refused =>
        cases e
        have here := none _ List.mem_cons_self
        split
        case h_1 ok =>
          rw [ok] at here
          cases here
        case h_2 =>
          exact ih.mpr ⟨refused, first, rest, rfl, fun a mem => none a (List.mem_cons_of_mem _ mem), applied⟩

/-- A step that is applied is correct exactly if its outcome is a success. -/
lemma correct_iff {action : ActionPlan} {result : ActionResult} (new : incident.oracleStep = 0)
    (found : Assoc.get w.incidents (request action).incidentId = some incident)
    (applied : (c.applyAction (request action) w).1 = .ok result) :
    Correct c incident request w action ↔ result.outcome = "success" := by
  have returned : c.applyAction (request action) w = (.ok result, (c.applyAction (request action) w).2) := by
    rw [← applied]
  rw [applyAction_success returned found new]
  constructor
  · exact fun correct => correct.required
  · exact fun required => ⟨by rw [applied]; rfl, required⟩

/-- The first outcome is a success exactly if the first step that is not refused is correct. -/
lemma first_success_iff {plan : List ActionPlan} (new : incident.oracleStep = 0)
    (found : ∀ a, Assoc.get w.incidents (request a).incidentId = some incident) :
    (firstApplied c request w plan).map ActionResult.outcome = some "success" ↔
      FirstCorrect c incident request w plan ∨ LateCorrect c incident request w plan := by
  rw [Option.map_eq_some_iff]
  constructor
  case mp =>
    rintro ⟨result, first, success⟩
    obtain ⟨refused, action, rest, rfl, none, applied⟩ := firstApplied_iff.mp first
    have correct := (correct_iff new (found action) applied).mpr success
    cases refused with
    | nil => exact .inl ⟨action, rest, rfl, correct⟩
    | cons a refused => exact .inr ⟨a :: refused, action, rest, rfl, List.cons_ne_nil _ _, none, correct⟩
  case mpr =>
    intro either
    obtain ⟨refused, action, rest, rfl, none, correct⟩ : ∃ refused action rest, plan = refused ++ action :: rest ∧
        (∀ a ∈ refused, (c.applyAction (request a) w).1.isOk = false) ∧ Correct c incident request w action := by
      rcases either with ⟨action, rest, rfl, correct⟩ | ⟨refused, action, rest, rfl, _, none, correct⟩
      · exact ⟨[], action, rest, rfl, List.forall_mem_nil _, correct⟩
      · exact ⟨refused, action, rest, rfl, none, correct⟩
    cases applied : (c.applyAction (request action) w).1 with
    | error e =>
      have executed := correct.executed
      rw [applied] at executed
      cases executed
    | ok result =>
      exact ⟨result, firstApplied_iff.mpr ⟨refused, action, rest, rfl, none, applied⟩,
        (correct_iff new (found action) applied).mp correct⟩

/-- Not both: the first step is executed or refused. -/
lemma LateCorrect.not_first {plan : List ActionPlan} (late : LateCorrect c incident request w plan) :
    ¬ FirstCorrect c incident request w plan := by
  rintro ⟨action, rest, rfl, correct⟩
  obtain ⟨refused, _, _, e, some, none, _⟩ := late
  cases refused with
  | nil => exact some rfl
  | cons a refused =>
    cases e
    have executed := correct.executed
    rw [none action List.mem_cons_self] at executed
    cases executed

end steps

/-! ## The record -/

section record

variable {c : Conductor} {s s' : Simulation} {w w' : WorldState} {incident : Simulator.Incident} {retrieved : List String}
  {orderMark : Nat} {response : PlannedResponse} {elapsed : Int} {result : RealIncidentResult}

/-- The incident that is injected is new. -/
lemma injectNext_new (injected : c.injectNext s = (.ok incident, s')) :
    Assoc.get s'.world.incidents incident.incidentId = some incident ∧ incident.oracleStep = 0 := by
  cases next : c.scenarios[s.nextScenario]? with
  | none =>
    unfold Conductor.injectNext at injected
    rw [next] at injected
    cases injected
  | some scenario =>
    obtain ⟨_, ⟨_, ⟨e, raised⟩, _⟩ | ⟨_, how⟩⟩ := injectNext_injected next
    · rw [injected] at raised
      cases raised
    · rw [injected] at how
      cases how with
      | opened _ _ opened =>
        rw [opened.incidents]
        exact ⟨Assoc.get_set_self, rfl⟩

/-- The field of the record, by the plan and the world in which the incident is answered. -/
lemma remediate_first (encodable : Encodable c w) (sound : Sound w)
    (found : Assoc.get w.incidents incident.incidentId = some incident) (new : incident.oracleStep = 0)
    (returned : remediate c incident retrieved orderMark response elapsed w = (.ok result, w')) :
    result.firstActionCorrect = true ↔
      FirstCorrect c incident (stepRequest incident.incidentId response.authorizedMemoryId)
        { w with now := w.now + elapsed } response.actions ∨
      LateCorrect c incident (stepRequest incident.incidentId response.authorizedMemoryId)
        { w with now := w.now + elapsed } response.actions := by
  obtain ⟨_, w₁, advanced, returned⟩ := Effect.bind_ok_iff.mp returned
  obtain ⟨tally, w₂, ran, recorded⟩ := Effect.bind_ok_iff.mp returned
  cases recorded
  have timed := @advanceTime_returns w elapsed w rfl
  rw [advanced] at timed
  obtain ⟨_, _, rfl⟩ := timed
  have sound' : Sound { w with now := w.now + elapsed } := sound.stays rfl rfl rfl fun _ known => known
  have encodable' : Encodable c { w with now := w.now + elapsed } := encodable
  have first := runActions_first encodable' sound' ran
  rw [← first_success_iff new fun _ => found]
  show decide (tally.outcomes.head? = some "success") = true ↔ _
  rw [decide_eq_true_iff, first]
  rfl

end record

/-- In every state of a run and for every decision on the incident that is injected there, `first_action_correct` says
whether the first action of the plan is executed and is what the oracle requires first, exactly unless the plan
begins with steps that are refused and the first one that is executed is the required one. -/
theorem first_action_correct_iff {c : Conductor} {w w' : WorldState} {calls : List Conductor.Call} {s : Simulation}
    {incident : Simulator.Incident} {retrieved : List String} {orderMark : Nat} {response : PlannedResponse} {elapsed : Int}
    {result : RealIncidentResult} (loaded : c.loadWorld = .ok w)
    (injected : c.injectNext (Run.run c.step { world := w } calls) = (.ok incident, s))
    (returned : remediate c incident retrieved orderMark response elapsed s.world = (.ok result, w')) :
    (result.firstActionCorrect = true ↔
      FirstCorrect c incident (stepRequest incident.incidentId response.authorizedMemoryId)
        { s.world with now := s.world.now + elapsed } response.actions) ↔
    ¬ LateCorrect c incident (stepRequest incident.incidentId response.authorizedMemoryId)
      { s.world with now := s.world.now + elapsed } response.actions := by
  have reached : s = Run.run c.step { world := w } (calls ++ [.injectNext]) := by
    rw [Run.run_append]
    exact (congrArg Prod.snd injected).symm
  have encodable : Encodable c s.world := by
    rw [reached]
    exact run_encodable loaded
  have sound : Sound s.world := by
    rw [reached]
    exact run_sound loaded
  obtain ⟨found, new⟩ := injectNext_new injected
  rw [remediate_first encodable sound found new returned]
  constructor
  case mp =>
    intro same late
    exact late.not_first (same.mp (.inr late))
  case mpr =>
    intro onTime
    exact or_iff_left onTime

namespace Sample

/-- A step that the simulator does not know. -/
def unknownPlan : ActionPlan where
  actionType := "drain_node"
  targetService := "checkout-svc"
  params := []

/-- The decision to take some steps. -/
def planned (actions : List ActionPlan) : PlannedResponse where
  actions := actions
  abstained := false

lemma opening_injected : advised.injectNext { world := Simulator.Sample.start advised } = (.ok firstIncident, opening) := by
  have incident : (advised.injectNext { world := Simulator.Sample.start advised }).1 = .ok firstIncident := by
    decide +kernel
  exact Prod.ext incident rfl

end Sample

/-- The plan that rolls the deploy back at once. -/
theorem first_action_correct_iff_sample : ∃ result w',
    remediate Sample.advised Sample.firstIncident [] 0 (Sample.planned [Sample.rollbackPlan]) 2000000 Sample.opening.world =
      (.ok result, w') ∧
    (result.firstActionCorrect = true ↔
      FirstCorrect Sample.advised Sample.firstIncident (stepRequest Sample.firstIncident.incidentId none)
        { Sample.opening.world with now := Sample.opening.world.now + 2000000 } [Sample.rollbackPlan]) := by
  have recorded : (remediate Sample.advised Sample.firstIncident [] 0 (Sample.planned [Sample.rollbackPlan]) 2000000
      Sample.opening.world).1.isOk = true := by decide +kernel
  cases returned : remediate Sample.advised Sample.firstIncident [] 0 (Sample.planned [Sample.rollbackPlan]) 2000000
      Sample.opening.world with
  | mk out w' =>
    rw [returned] at recorded
    cases out with
    | error e => cases recorded
    | ok result =>
      refine ⟨result, w', rfl, ?_⟩
      apply (@first_action_correct_iff Sample.advised (Simulator.Sample.start Sample.advised) w' [] Sample.opening
        Sample.firstIncident [] 0 (Sample.planned [Sample.rollbackPlan]) 2000000 result rfl Sample.opening_injected
        returned).mpr
      rintro ⟨refused, action, rest, e, some, _⟩
      -- there is no step after a refused one
      have length := congrArg List.length e
      have two := List.length_pos_of_ne_nil some
      simp only [Sample.planned, List.length_append, List.length_cons, List.length_nil] at length
      omega

/-- The simulator refuses the first step of the plan, and the record says that the first action was correct. -/
theorem refused_first_action_counts : Sample.advised.loadWorld = .ok (Simulator.Sample.start Sample.advised) ∧
    Sample.advised.injectNext { world := Simulator.Sample.start Sample.advised } = (.ok Sample.firstIncident, Sample.opening) ∧
    ∃ result w',
    remediate Sample.advised Sample.firstIncident [] 0 (Sample.planned [Sample.unknownPlan, Sample.rollbackPlan]) 2000000
      Sample.opening.world = (.ok result, w') ∧
    ¬ (result.firstActionCorrect = true ↔
      FirstCorrect Sample.advised Sample.firstIncident (stepRequest Sample.firstIncident.incidentId none)
        { Sample.opening.world with now := Sample.opening.world.now + 2000000 }
        [Sample.unknownPlan, Sample.rollbackPlan]) := by
  have counted : (remediate Sample.advised Sample.firstIncident [] 0
      (Sample.planned [Sample.unknownPlan, Sample.rollbackPlan]) 2000000 Sample.opening.world).1.toOption.map
        RealIncidentResult.firstActionCorrect = some true := by decide +kernel
  have refused : (Sample.advised.applyAction (stepRequest Sample.firstIncident.incidentId none Sample.unknownPlan)
      { Sample.opening.world with now := Sample.opening.world.now + 2000000 }).1.isOk = false := by decide +kernel
  revert counted
  generalize remediate Sample.advised Sample.firstIncident [] 0
    (Sample.planned [Sample.unknownPlan, Sample.rollbackPlan]) 2000000 Sample.opening.world = out
  obtain ⟨_ | result, w'⟩ := out
  case error => nofun
  case ok =>
    intro counted
    refine ⟨rfl, Sample.opening_injected, result, w', rfl, ?_⟩
    intro same
    obtain ⟨action, rest, e, correct⟩ := same.mp (Option.some.inj counted)
    cases e
    have executed := correct.executed
    rw [refused] at executed
    cases executed

end Postmortem.Evaluation
