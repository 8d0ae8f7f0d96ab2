import Postmortem.Evaluation.RealAgent
import Postmortem.Evaluation.TemporalResponder
import Postmortem.Lib.Rounding
import Postmortem.Simulator.Progress
import Postmortem.Simulator.Rollback

/-!
# Temporal validity

`EvaluationHarness._run_temporal_validity` of `evaluation/postmortem_eval/runner.py`, in exact arithmetic. An incident
is answered by the responder with validity windows, and the memory that it authorizes is compared with the one that
carries the actions of the oracle. Two memories that are missing compare equal.
-/

namespace Postmortem.Evaluation

open Simulator Rounding

/-! ## The memory that is expected -/

mutual
/-- `_hashable` -/
def hashable : Json → Json
  | .obj fields =>
    .arr (((hashableFields fields).insertionSort fun f g => f.1 ≤ g.1).map fun f => .arr [.str f.1, f.2])
  | .arr items => .arr (hashableItems items)
  | v => v
def hashableItems : List Json → List Json
  | [] => []
  | x :: xs => hashable x :: hashableItems xs
def hashableFields : Dict → Dict
  | [] => []
  | (k, x) :: fields => (k, hashable x) :: hashableFields fields
end

/-- An action without its target. -/
abbrev Signature := String × Json

/-- `_action_signature` -/
def actionSignature (actionType : String) (params : Dict) : Signature := (actionType, hashable (.obj params))

/-- `==` on lists of signatures. -/
def sameSignatures (l l' : List Signature) : Bool :=
  decide (l.map Prod.fst = l'.map Prod.fst) && (Json.arr (l.map Prod.snd)).pyEq (.arr (l'.map Prod.snd))

/-- `_oracle_required_signature` -/
def oracleRequiredSignature (oracle : Oracle) (scenarioId familyId : String) : Except Raised (List Signature) := do
  let policy ←
    match Assoc.get oracle.scenarios scenarioId with
    | some policy => .ok policy
    | none => orRaise (keyError familyId) (Assoc.get oracle.families familyId)
  return policy.requiredActions.map fun action => actionSignature action.actionType action.params

/-- `candidate_actions` and `families`. -/
structure Candidates where
  actions : List (String × List Signature) := []
  families : List (String × List String) := []

/-- The body of the loop over `corpus["memories"]`. -/
def Candidates.add (self : Candidates) (item : CorpusItem) : Candidates :=
  if item.gold.truthy then
    { actions := Assoc.set self.actions item.memoryId
        (item.actions.map fun action => actionSignature action.actionType action.params)
      families := Assoc.set self.families item.familyId ((Assoc.get self.families item.familyId).getD [] ++ [item.memoryId]) }
  else self

/-- The gold memories of the corpus. -/
def Candidates.init (corpus : List CorpusItem) : Candidates := corpus.foldl Candidates.add {}

/-- `families.get(family_id, [])` -/
def Candidates.ofFamily (self : Candidates) (familyId : String) : List String := (Assoc.get self.families familyId).getD []

/-- `candidate_actions.get(memory_id) == required` -/
def Candidates.carries (self : Candidates) (required : List Signature) (memoryId : String) : Bool :=
  (Assoc.get self.actions memoryId).any fun actions => sameSignatures actions required

/-- `expected_id` -/
def Candidates.expectedId (self : Candidates) (familyId : String) (required : List Signature) : Option String :=
  (self.ofFamily familyId).find? (self.carries required)

/-! ## The replay -/

/-- `TemporalValidityRecord` -/
structure TemporalValidityRecord where
  scenarioId : String
  familyId : String
  variantId : String
  observedAt : Option String
  authorizedMemoryId : Option String
  expectedMemoryId : Option String
  appliedCurrentlyValidFix : Bool
  appliedStaleFact : Bool
  resolved : Bool
  mttrSeconds : Option Int
deriving DecidableEq

/-- What the replay works with. -/
structure TemporalReplay where
  conductor : Conductor
  responder : TemporalProceduralMemoryResponder
  candidates : Candidates

/-- `remaining_scenarios` -/
def remainingScenarios (c : Conductor) (s : Simulation) : Nat := c.scenarios.length - s.nextScenario

/-- `DECISION_LATENCY_NOT_MEASURED` -/
def decisionLatencyNotMeasured : Int := 0

/-- The loop over `decision.actions`. -/
def applyActions (c : Conductor) (request : ActionPlan → ActionRequest) : List ActionPlan → Sim Unit
  | [] => return ()
  | action :: rest => do
    let result ← c.applyAction (request action)
    if result.resolved then return () else applyActions c request rest

namespace TemporalReplay

variable (h : TemporalReplay)

/-- The decision on an incident, carried out. -/
def carryOut (incident : Simulator.Incident) (decision : ResponderDecision) : Sim Unit := do
  Conductor.advanceTime decisionLatencyNotMeasured
  applyActions h.conductor (stepRequest incident.incidentId decision.authorizedMemoryId) decision.actions

/-- The record of an incident, from the world after the actions. -/
def record (incident : Simulator.Incident) (observation : IncidentObservation) (decision : ResponderDecision)
    (required : List Signature) (w : WorldState) : TemporalValidityRecord :=
  let expectedId := h.candidates.expectedId incident.familyId required
  let staleIds := (h.candidates.ofFamily incident.familyId).filter fun memoryId => some memoryId ≠ expectedId
  let mttrSeconds := (Assoc.get w.incidents incident.incidentId).bind Simulator.Incident.mttrSeconds
  { scenarioId := incident.scenarioId
    familyId := incident.familyId
    variantId := incident.variantId
    observedAt := some (h.conductor.rt.isoformat observation.observedAt)
    authorizedMemoryId := decision.authorizedMemoryId
    expectedMemoryId := expectedId
    appliedCurrentlyValidFix := decision.authorizedMemoryId = expectedId
    appliedStaleFact := decision.authorizedMemoryId.any fun memoryId => memoryId ∈ staleIds
    resolved := mttrSeconds.isSome
    mttrSeconds }

/-- The body of the loop after `inject_next`. -/
def answer (incident : Simulator.Incident) (s : Simulation) : Except Raised (TemporalValidityRecord × Simulation) := do
  let observation ← observeIncident s.world incident.incidentId
  let decision ← h.responder.decide observation
  match h.carryOut incident decision s.world with
  | (.error e, _) => .error e
  | (.ok _, w) =>
    let required ← oracleRequiredSignature h.conductor.oracle incident.scenarioId incident.familyId
    return (h.record incident observation decision required w, { s with world := w })

/-- The body of the loop. -/
def replayNext (s : Simulation) : Except Raised (TemporalValidityRecord × Simulation) :=
  match h.conductor.injectNext s with
  | (.error e, _) => .error e
  | (.ok incident, s') => h.answer incident s'

/-- The loop, for so many remaining scenarios. -/
def replay : Nat → Simulation → Except Raised (List TemporalValidityRecord)
  | 0, _ => .ok []
  | n + 1, s => do
    let (record, s') ← h.replayNext s
    let records ← replay n s'
    return record :: records

end TemporalReplay

/-- The figures of `_run_temporal_validity`. -/
structure TemporalValidity where
  families : List String
  incidentsEvaluated : Nat
  temporalValidityAccuracy : ℚ
  staleFactApplications : Nat
  targetTemporalValidityAccuracy : ℚ
  targetStaleFactApplications : Nat
  meetsTarget : Bool
  incidents : List TemporalValidityRecord
deriving DecidableEq

/-- `TEMPORAL_VALIDITY_TARGET` -/
def temporalValidityTarget : ℚ := 9 / 10

/-- `STALE_FACT_TARGET` -/
def staleFactTarget : Nat := 0

/-- The report on the records. -/
def temporalReport (families : List String) (records : List TemporalValidityRecord) : TemporalValidity :=
  let correct := records.countP fun item => item.appliedCurrentlyValidFix
  let stale := records.countP fun item => item.appliedStaleFact
  let accuracy : ℚ := if records.length = 0 then 0 else roundTo 6 ((correct : ℚ) / records.length)
  { families := families.insertionSort (· ≤ ·)
    incidentsEvaluated := records.length
    temporalValidityAccuracy := accuracy
    staleFactApplications := stale
    targetTemporalValidityAccuracy := temporalValidityTarget
    targetStaleFactApplications := staleFactTarget
    meetsTarget := temporalValidityTarget ≤ accuracy && stale = staleFactTarget
    incidents := records }

/-- An authorized memory resolved the incident. -/
def TemporalValidityRecord.resolvedByMemory (item : TemporalValidityRecord) : Bool :=
  item.authorizedMemoryId.isSome && item.resolved

/-- The fraction of the incidents that an authorized memory resolved, rounded as the accuracy is. -/
def resolvedFraction (records : List TemporalValidityRecord) : ℚ :=
  let resolved := records.countP fun item => item.resolvedByMemory
  if records.length = 0 then 0 else roundTo 6 ((resolved : ℚ) / records.length)

/-- `_run_temporal_validity`, up to the loop. -/
def TemporalReplay.init (c : Conductor) (fromisoformat : String → Option Datetime) (floats : FloatLibrary) (retrievalK : Int)
    (corpus : List CorpusItem) : Except Raised (TemporalReplay × WorldState) := do
  let responder ← TemporalProceduralMemoryResponder.init c.rt fromisoformat floats retrievalK (.num (15 / 100)) corpus
  let w ← c.loadWorld
  return ({ conductor := c, responder, candidates := Candidates.init corpus }, w)

/-- `_run_temporal_validity` -/
def runTemporalValidity (c : Conductor) (fromisoformat : String → Option Datetime) (floats : FloatLibrary) (retrievalK : Int)
    (corpus : List CorpusItem) : Except Raised TemporalValidity := do
  let (h, w) ← TemporalReplay.init c fromisoformat floats retrievalK corpus
  let records ← h.replay (remainingScenarios c { world := w }) { world := w }
  return temporalReport (h.candidates.families.map Prod.fst) records

/-! ## What resolves an incident -/

/-- The action is what the required one asks for. -/
def Meets (w : WorldState) (incident : Simulator.Incident) (required : RequiredAction) (action : ActionPlan) : Prop :=
  Conductor.matchesExpected w required incident action.actionType action.targetService action.params = .ok true

/-- The plan contains the required actions, in their order. -/
def Covers (c : Conductor) (w : WorldState) (incident : Simulator.Incident) (plan : List ActionPlan) : Prop :=
  ∀ policy, c.oracleFor incident = .ok policy → List.SublistForall₂ (Meets w incident) policy.requiredActions plan

/-- What an incident is compared with stays as it is. -/
structure Alike (w₀ w : WorldState) (incident₀ incident : Simulator.Incident) : Prop where
  service : incident.service = incident₀.service
  previous : previousVersion w incident₀.service = previousVersion w₀ incident₀.service

/-- What the calls on the world rely on. -/
structure Ready (w : WorldState) : Prop where
  sound : Sound w
  filed : Filed w

section plan

variable {c : Conductor} {w w' w₀ : WorldState} {incident incident₀ : Simulator.Incident} {policy : Policy}
  {r : ActionRequest} {request : ActionPlan → ActionRequest} {result : ActionResult} {out : Except Raised ActionResult}

lemma Ready.acted (ready : Ready w) (applied : c.applyAction r w = (out, w')) : Ready w' := by
  have sound : Sound (c.applyAction r w).2 := @step_sound c { world := w } (.applyAction r) ready.sound
  have responds := @applyAction_responds c w r ready.sound ready.filed
  rw [applied] at sound responds
  exact ⟨sound, ready.filed.responds responds⟩

lemma matchesExpected_congr {required : RequiredAction} {actionType targetService : String} {params : Dict}
    (alike : Alike w₀ w incident₀ incident) :
    Conductor.matchesExpected w required incident actionType targetService params =
      Conductor.matchesExpected w₀ required incident₀ actionType targetService params := by
  have previous := alike.previous
  unfold Conductor.matchesExpected
  rw [alike.service]
  refine if_congr Iff.rfl rfl ?_
  unfold previousVersion at previous
  cases found : Assoc.get w₀.services incident₀.service with
  | none =>
    rw [found, Option.map_none, Option.map_eq_none_iff] at previous
    rw [previous]
  | some service₀ =>
    rw [found] at previous
    obtain ⟨service, found', same⟩ := Option.map_eq_some_iff.mp previous
    rw [found']
    show Except.ok _ = Except.ok _
    unfold Conductor.expectedValue
    rw [same]

/-- What is expected is what the next required action asks for. -/
lemma expected_meets {action : ActionPlan} {id : String} {memoryId : Option String} {expected : Bool}
    (alike : Alike w₀ w incident₀ incident)
    (matched : Conductor.isExpected w policy incident (stepRequest id memoryId action) = .ok expected) :
    expected = true ↔
      ∃ required, policy.requiredActions[incident.oracleStep]? = some required ∧ Meets w₀ incident₀ required action := by
  unfold Conductor.isExpected at matched
  cases next : policy.requiredActions[incident.oracleStep]? with
  | none =>
    rw [next] at matched
    cases matched
    exact iff_of_false Bool.false_ne_true nofun
  | some required =>
    rw [next] at matched
    have compared : Conductor.matchesExpected w₀ required incident₀ action.actionType action.targetService action.params =
        .ok expected := (matchesExpected_congr alike).symm.trans matched
    simp only [Option.some.injEq, exists_eq_left']
    unfold Meets
    rw [compared, Except.ok.injEq]

/-- The incident while its plan is carried out, after the actions `done`: it is not resolved, and as many of the
required actions are met as can be. -/
structure Underway (c : Conductor) (policy : Policy) (w₀ : WorldState) (incident₀ : Simulator.Incident) (id : String)
    (done : List ActionPlan) (w : WorldState) (incident : Simulator.Incident) : Prop where
  found : Assoc.get w.incidents id = some incident
  oracle : c.oracleFor incident = .ok policy
  alike : Alike w₀ w incident₀ incident
  step : IsGreatest (Subsequence.prefixes (Meets w₀ incident₀) policy.requiredActions done) incident.oracleStep
  unresolved : incident.status ≠ .resolved
  untimed : incident.mttrSeconds = none

/-- The incident is resolved in the world. -/
def TimedIn (w : WorldState) (id : String) : Prop :=
  ((Assoc.get w.incidents id).bind Simulator.Incident.mttrSeconds).isSome = true

section underway

variable {id : String} {memoryId : Option String} {done : List ActionPlan} {action : ActionPlan}

/-- The steps that are met after another action. -/
lemma Underway.step_applied {expected : Bool} (underway : Underway c policy w₀ incident₀ id done w incident)
    (matched : Conductor.isExpected w policy incident (stepRequest id memoryId action) = .ok expected) :
    IsGreatest (Subsequence.prefixes (Meets w₀ incident₀) policy.requiredActions (done ++ [action]))
      (accountIncident expected incident).oracleStep := by
  have meets := expected_meets underway.alike matched
  cases expected with
  | true =>
    obtain ⟨required, next, met⟩ := meets.mp rfl
    exact Subsequence.greatest_met underway.step next met
  | false =>
    apply Subsequence.greatest_missed underway.step
    intro required next met
    cases meets.mpr ⟨required, next, met⟩

/-- An action that returns resolves the incident, where all that is required is met, or leaves it under way. -/
lemma Underway.acted (ready : Ready w) (underway : Underway c policy w₀ incident₀ id done w incident)
    (applied : c.applyAction (stepRequest id memoryId action) w = (.ok result, w')) :
    (result.resolved = true ∧ TimedIn w' id ∧
        List.SublistForall₂ (Meets w₀ incident₀) policy.requiredActions (done ++ [action])) ∨
      result.resolved = false ∧ ∃ incident', Underway c policy w₀ incident₀ id (done ++ [action]) w' incident' ∧
        incident'.oracleStep < policy.requiredActions.length := by
  have responds := @applyAction_responds c w (stepRequest id memoryId action) ready.sound ready.filed
  have acted : Simulator.Acted c (stepRequest id memoryId action) w (c.applyAction (stepRequest id memoryId action) w).2 :=
    applyAction_acted.always rfl
  rw [applied] at responds acted
  cases responds with
  | @applied was policy' expected _ _ admitted more _ open_ incidents =>
    obtain rfl := Option.some.inj (underway.found.symm.trans admitted.found)
    cases underway.oracle.symm.trans admitted.oracle
    have here := (incidents id).trans (if_pos rfl)
    have step := underway.step_applied admitted.expected
    have length : (accountIncident expected incident).oracleStep ≠ policy.requiredActions.length := by
      rw [accountIncident_step]
      exact more
    refine .inr ⟨open_, accountIncident expected incident, ⟨here, ?_, ⟨?_, ?_⟩, step, ?_, ?_⟩, lt_of_le_of_ne step.1.1 length⟩
    · rw [(@accountIncident_same c _ _).2]
      exact underway.oracle
    · rw [(@accountIncident_same c _ _).1]
      exact underway.alike.service
    · rw [acted.previousVersion]
      exact underway.alike.previous
    · cases expected with
      | true => nofun
      | false => exact underway.unresolved
    · cases expected with
      | true => exact underway.untimed
      | false => exact underway.untimed
  | @completed was policy' expected _ _ admitted completes _ closed incidents =>
    obtain rfl := Option.some.inj (underway.found.symm.trans admitted.found)
    cases underway.oracle.symm.trans admitted.oracle
    have here := (incidents id).trans (if_pos rfl)
    have step := (underway.step_applied admitted.expected).1.2
    rw [accountIncident_step, show (if expected = true then incident.oracleStep + 1 else incident.oracleStep) =
      policy.requiredActions.length from completes, List.take_length] at step
    refine .inl ⟨closed, ?_, step⟩
    unfold TimedIn
    rw [here]
    rfl

/-- Where the plan returns, it has resolved the incident exactly if it contains the required actions in their order. -/
lemma applyActions_timed {plan : List ActionPlan} (ready : Ready w)
    (underway : Underway c policy w₀ incident₀ id done w incident)
    (left : incident.oracleStep < policy.requiredActions.length ∨ plan ≠ [])
    (returned : applyActions c (stepRequest id memoryId) plan w = (.ok (), w')) :
    Ready w' ∧
      (TimedIn w' id ↔ List.SublistForall₂ (Meets w₀ incident₀) policy.requiredActions (done ++ plan)) := by
  induction plan generalizing done w incident with
  | nil =>
    cases returned
    refine ⟨ready, iff_of_false ?_ ?_⟩
    · unfold TimedIn
      rw [underway.found, Option.bind_some, underway.untimed]
      exact Bool.false_ne_true
    · intro whole
      rw [List.append_nil] at whole
      have all : policy.requiredActions.length ∈ Subsequence.prefixes (Meets w₀ incident₀) policy.requiredActions done :=
        ⟨le_rfl, by rwa [List.take_length]⟩
      exact absurd (underway.step.2 all) (not_le.mpr (left.resolve_right fun ne => ne rfl))
  | cons action rest ih =>
    obtain ⟨result, w₁, applied, rest'⟩ := Effect.bind_ok_iff.mp returned
    have ready' := ready.acted applied
    rcases underway.acted ready applied with ⟨resolved, timed, whole⟩ | ⟨unresolved, incident', underway', more⟩
    · rw [if_pos resolved] at rest'
      cases rest'
      refine ⟨ready', iff_of_true timed ?_⟩
      have extended := @Subsequence.sublist_append _ _ _ _ _ rest whole
      rwa [List.append_assoc, List.singleton_append] at extended
    · rw [if_neg (by rw [unresolved]; exact Bool.false_ne_true)] at rest'
      have followed := ih ready' underway' (.inl more) rest'
      rwa [List.append_assoc, List.singleton_append] at followed

end underway

end plan

/-! ## The records -/

/-- A decision has an action: the one that pages a human, or those of a memory that has some. -/
lemma TemporalProceduralMemoryResponder.decide_actions {r : TemporalProceduralMemoryResponder}
    {observation : IncidentObservation} {decision : ResponderDecision} (decided : r.decide observation = .ok decision) :
    decision.actions ≠ [] := by
  obtain ⟨records, _, decided⟩ := bind_ok decided
  dsimp only at decided
  split at decided
  case h_1 =>
    cases decided
    exact List.cons_ne_nil _ _
  case h_2 candidate found =>
    cases decided
    have chosen := List.find?_some found
    rw [Bool.and_eq_true, Bool.not_eq_true', List.isEmpty_eq_false_iff] at chosen
    intro none
    exact chosen.2 (List.map_eq_nil_iff.mp none)

/-- A gold memory of the family carries the actions that the oracle requires. -/
def Carried (h : TemporalReplay) (incident : Simulator.Incident) : Prop :=
  ∃ required, oracleRequiredSignature h.conductor.oracle incident.scenarioId incident.familyId = .ok required ∧
    ∃ memoryId ∈ h.candidates.ofFamily incident.familyId, h.candidates.carries required memoryId = true

/-- The memory is the first gold one of the family that carries them. -/
def FirstCarrier (h : TemporalReplay) (incident : Simulator.Incident) (memoryId : String) : Prop :=
  ∃ required, oracleRequiredSignature h.conductor.oracle incident.scenarioId incident.familyId = .ok required ∧
    (h.candidates.ofFamily incident.familyId).find? (h.candidates.carries required) = some memoryId

/-- The comparison of the memories tells something of the next incident: if the responder authorizes no memory, a gold
one of the family carries what the oracle requires; and if it authorizes the first one that does, its actions for the
incident contain the required ones in their order, with their targets and parameters. -/
structure Conclusive (h : TemporalReplay) (s : Simulation) : Prop where
  carried : ∀ incident s' observation decision, h.conductor.injectNext s = (.ok incident, s') →
    observeIncident s'.world incident.incidentId = .ok observation → h.responder.decide observation = .ok decision →
    decision.authorizedMemoryId = none → Carried h incident
  covered : ∀ incident s' observation decision memoryId, h.conductor.injectNext s = (.ok incident, s') →
    observeIncident s'.world incident.incidentId = .ok observation → h.responder.decide observation = .ok decision →
    decision.authorizedMemoryId = some memoryId → FirstCarrier h incident memoryId →
    Covers h.conductor s'.world incident decision.actions

/-- Every incident that the loop comes to. -/
def EachConclusive (h : TemporalReplay) : Nat → Simulation → Prop
  | 0, _ => True
  | n + 1, s => Conclusive h s ∧ ∀ record s', h.replayNext s = .ok (record, s') → EachConclusive h n s'

/-- A fix that counts as currently valid was authorized, and it resolved the incident. -/
def Supported (record : TemporalValidityRecord) : Prop :=
  record.appliedCurrentlyValidFix = true → record.authorizedMemoryId ≠ none ∧ record.resolved = true

instance (record : TemporalValidityRecord) : Decidable (Supported record) := inferInstanceAs (Decidable (_ → _))

section replay

variable {h : TemporalReplay} {c : Conductor} {s s' : Simulation} {w : WorldState} {incident : Simulator.Incident}
  {observation : IncidentObservation} {decision : ResponderDecision} {required : List Signature}
  {record : TemporalValidityRecord}

/-- The incident that is injected is fresh. -/
lemma injectNext_fresh (ready : Ready s.world) (injected : c.injectNext s = (.ok incident, s')) :
    Ready s'.world ∧ Assoc.get s'.world.incidents incident.incidentId = some incident ∧ incident.oracleStep = 0 ∧
      incident.status ≠ .resolved ∧ incident.mttrSeconds = none ∧ s'.nextScenario = s.nextScenario + 1 ∧
      s.nextScenario < c.scenarios.length := by
  have ready' : Ready (c.injectNext s).2.world := ⟨@step_sound c s .injectNext ready.sound, ready.filed.injected⟩
  cases next : c.scenarios[s.nextScenario]? with
  | none =>
    unfold Conductor.injectNext at injected
    rw [next] at injected
    cases injected
  | some scenario =>
    obtain ⟨advanced, ⟨_, ⟨e, raised⟩, _⟩ | ⟨_, how⟩⟩ := injectNext_injected next
    · rw [injected] at raised
      cases raised
    · rw [injected] at how advanced ready'
      cases how with
      | opened _ _ opened =>
        refine ⟨ready', ?_, rfl, nofun, rfl, advanced, (List.getElem?_eq_some_iff.mp next).1⟩
        rw [opened.incidents]
        exact Assoc.get_set_self

/-- What a body of the loop that returns has done. -/
structure Replayed (h : TemporalReplay) (s : Simulation) (incident : Simulator.Incident) (s₁ : Simulation)
    (observation : IncidentObservation) (decision : ResponderDecision) (required : List Signature) (w : WorldState) : Prop where
  injected : h.conductor.injectNext s = (.ok incident, s₁)
  observed : observeIncident s₁.world incident.incidentId = .ok observation
  decided : h.responder.decide observation = .ok decision
  carried : h.carryOut incident decision s₁.world = (.ok (), w)
  required : oracleRequiredSignature h.conductor.oracle incident.scenarioId incident.familyId = .ok required

lemma replayNext_replayed (returned : h.replayNext s = .ok (record, s')) : ∃ incident s₁ observation decision required w,
    Replayed h s incident s₁ observation decision required w ∧ record = h.record incident observation decision required w ∧
      s' = { s₁ with world := w } := by
  unfold TemporalReplay.replayNext at returned
  split at returned
  case h_1 => cases returned
  case h_2 incident s₁ injected =>
    obtain ⟨observation, observed, returned⟩ := bind_ok returned
    obtain ⟨decision, decided, returned⟩ := bind_ok returned
    split at returned
    case h_1 => cases returned
    case h_2 w carried =>
      obtain ⟨required, same, returned⟩ := bind_ok returned
      cases returned
      exact ⟨incident, s₁, observation, decision, required, w, ⟨injected, observed, decided, carried, same⟩, rfl, rfl⟩

/-- The plan of an incident that is fresh. -/
lemma carryOut_timed (ready : Ready w) (found : Assoc.get w.incidents incident.incidentId = some incident)
    (new : incident.oracleStep = 0) (unresolved : incident.status ≠ .resolved) (untimed : incident.mttrSeconds = none)
    (some : decision.actions ≠ []) {w' : WorldState} (carried : h.carryOut incident decision w = (.ok (), w')) :
    Ready w' ∧ (TimedIn w' incident.incidentId ↔ Covers h.conductor w incident decision.actions) := by
  obtain ⟨_, w₁, advanced, returned⟩ := Effect.bind_ok_iff.mp carried
  obtain ⟨now, same, _⟩ := @step_advanceTime h.conductor { world := w } decisionLatencyNotMeasured
  have moved : w₁ = { w with now } := by
    have world := congrArg Simulation.world same
    have here : (Conductor.advanceTime decisionLatencyNotMeasured w).2 = { w with now } := world
    rwa [advanced] at here
  subst moved
  have ready' : Ready { w with now } := ⟨ready.sound.stays rfl rfl rfl fun _ known => known, ready.filed⟩
  -- the first action is applied, so the incident has a policy
  obtain ⟨policy, oracle⟩ : ∃ policy, h.conductor.oracleFor incident = .ok policy := by
    obtain ⟨action, rest, e⟩ := List.exists_cons_of_ne_nil some
    rw [e] at returned
    obtain ⟨result, w₂, applied, _⟩ := Effect.bind_ok_iff.mp returned
    have responds := @applyAction_responds h.conductor { w with now }
      (stepRequest incident.incidentId decision.authorizedMemoryId action) ready'.sound ready'.filed
    rw [applied] at responds
    cases responds with
    | applied admitted _ _ _ _ =>
      obtain rfl := Option.some.inj (found.symm.trans admitted.found)
      exact ⟨_, admitted.oracle⟩
    | completed admitted _ _ _ _ =>
      obtain rfl := Option.some.inj (found.symm.trans admitted.found)
      exact ⟨_, admitted.oracle⟩
  have underway : Underway h.conductor policy w incident incident.incidentId [] { w with now } incident := by
    refine ⟨found, oracle, ⟨rfl, rfl⟩, ?_, unresolved, untimed⟩
    rw [new]
    exact Subsequence.greatest_nil
  obtain ⟨ready'', timed⟩ := applyActions_timed ready' underway (.inr some) returned
  refine ⟨ready'', timed.trans ?_⟩
  constructor
  · intro whole policy' oracle'
    cases oracle.symm.trans oracle'
    exact whole
  · exact fun covers => covers policy oracle

/-- A stale memory is another one than the one that is expected. -/
lemma record_not_both : ¬ ((h.record incident observation decision required w).appliedCurrentlyValidFix = true ∧
    (h.record incident observation decision required w).appliedStaleFact = true) := by
  rintro ⟨valid, stale⟩
  have same : decision.authorizedMemoryId = h.candidates.expectedId incident.familyId required := of_decide_eq_true valid
  have among : decision.authorizedMemoryId.any (fun memoryId => memoryId ∈ (h.candidates.ofFamily incident.familyId).filter
      fun memoryId => some memoryId ≠ h.candidates.expectedId incident.familyId required) = true := stale
  rw [Option.any_eq_true] at among
  obtain ⟨memoryId, authorized, mem⟩ := among
  have other := (List.mem_filter.mp (of_decide_eq_true mem)).2
  exact of_decide_eq_true other (authorized.symm.trans same)

/-- One incident: its record is supported exactly if the comparison tells something of it. -/
lemma replayNext_supported (ready : Ready s.world) (returned : h.replayNext s = .ok (record, s')) :
    Ready s'.world ∧ remainingScenarios h.conductor s = remainingScenarios h.conductor s' + 1 ∧
      ¬ (record.appliedCurrentlyValidFix = true ∧ record.appliedStaleFact = true) ∧
      (Supported record ↔ Conclusive h s) := by
  obtain ⟨incident, s₁, observation, decision, required, w, replayed, rfl, rfl⟩ := replayNext_replayed returned
  obtain ⟨ready₁, found, new, unresolved, untimed, advanced, inside⟩ := injectNext_fresh ready replayed.injected
  have acts := TemporalProceduralMemoryResponder.decide_actions replayed.decided
  obtain ⟨ready', timed⟩ := carryOut_timed ready₁ found new unresolved untimed acts replayed.carried
  refine ⟨ready', ?_, record_not_both, ?_⟩
  · show h.conductor.scenarios.length - s.nextScenario = h.conductor.scenarios.length - s₁.nextScenario + 1
    omega
  have applied : (h.record incident observation decision required w).appliedCurrentlyValidFix = true ↔
      decision.authorizedMemoryId = h.candidates.expectedId incident.familyId required := decide_eq_true_iff
  unfold Supported
  rw [applied]
  show (_ → decision.authorizedMemoryId ≠ none ∧ TimedIn w incident.incidentId) ↔ _
  rw [timed]
  constructor
  · intro supported
    constructor
    case carried =>
      intro incident' s₂ observation' decision' injected observed decided abstained
      cases replayed.injected.symm.trans injected
      cases replayed.observed.symm.trans observed
      cases replayed.decided.symm.trans decided
      by_contra missing
      have expected : h.candidates.expectedId incident.familyId required = none := by
        apply List.find?_eq_none.mpr
        exact fun memoryId mem carries => missing ⟨required, replayed.required, memoryId, mem, carries⟩
      exact (supported (abstained.trans expected.symm)).1 abstained
    case covered =>
      intro incident' s₂ observation' decision' memoryId injected observed decided authorized first
      cases replayed.injected.symm.trans injected
      cases replayed.observed.symm.trans observed
      cases replayed.decided.symm.trans decided
      obtain ⟨required', same, first⟩ := first
      cases replayed.required.symm.trans same
      exact (supported (authorized.trans first.symm)).2
  · intro conclusive same
    cases authorized : decision.authorizedMemoryId with
    | none =>
      obtain ⟨required', same', memoryId, mem, carries⟩ :=
        conclusive.carried _ _ _ _ replayed.injected replayed.observed replayed.decided authorized
      cases replayed.required.symm.trans same'
      have expected : h.candidates.expectedId incident.familyId required = none := same.symm.trans authorized
      exact absurd carries (List.find?_eq_none.mp expected memoryId mem)
    | some memoryId =>
      refine ⟨Option.some_ne_none _, ?_⟩
      exact conclusive.covered _ _ _ _ memoryId replayed.injected replayed.observed replayed.decided authorized
        ⟨required, replayed.required, same.symm.trans authorized⟩

/-- The run: its records are supported exactly if the comparison tells something of every incident. -/
lemma replay_supported {n : Nat} {records : List TemporalValidityRecord} (ready : Ready s.world)
    (returned : h.replay n s = .ok records) :
    (∀ record ∈ records, ¬ (record.appliedCurrentlyValidFix = true ∧ record.appliedStaleFact = true)) ∧
      ((∀ record ∈ records, Supported record) ↔ EachConclusive h n s) := by
  induction n generalizing s records with
  | zero =>
    cases returned
    exact ⟨List.forall_mem_nil _, iff_of_true (List.forall_mem_nil _) trivial⟩
  | succ n ih =>
    obtain ⟨⟨record, s'⟩, first, returned⟩ := bind_ok returned
    obtain ⟨later, rest, returned⟩ := bind_ok returned
    cases returned
    obtain ⟨ready', _, apart, here⟩ := replayNext_supported ready first
    obtain ⟨others, same⟩ := ih ready' rest
    rw [List.forall_mem_cons, List.forall_mem_cons]
    refine ⟨⟨apart, others⟩, and_congr here (same.trans ?_)⟩
    constructor
    · intro each record' s'' first'
      cases first.symm.trans first'
      exact each
    · exact fun each => each record s' first

/-- With records that are supported, the accuracy does not exceed the fraction. -/
lemma accuracy_le {families : List String} {records : List TemporalValidityRecord}
    (supported : ∀ record ∈ records, Supported record) :
    (temporalReport families records).temporalValidityAccuracy ≤ resolvedFraction records := by
  have fewer : records.countP (fun item => item.appliedCurrentlyValidFix) ≤
      records.countP fun item => item.resolvedByMemory := by
    apply List.countP_mono_left
    intro record mem valid
    obtain ⟨authorized, resolved⟩ := supported record mem valid
    exact Bool.and_eq_true_iff.mpr ⟨Option.isSome_iff_ne_none.mpr authorized, resolved⟩
  unfold temporalReport resolvedFraction
  dsimp only
  split
  case isTrue => exact le_rfl
  case isFalse =>
    apply roundTo_mono
    apply div_le_div_of_nonneg_right _ (Nat.cast_nonneg _)
    exact_mod_cast fewer

end replay

/-- No record is both valid and stale. The fixes that count as currently valid were authorized and resolved their
incidents, and the accuracy does not exceed the fraction of the incidents that an authorized memory resolved, exactly
if the comparison of the memories tells something of every incident that the run comes to. -/
theorem temporal_validity_supported_iff (c : Conductor) (fromisoformat : String → Option Datetime) (floats : FloatLibrary)
    (retrievalK : Int) (corpus : List CorpusItem) (h : TemporalReplay) (w : WorldState) (report : TemporalValidity)
    (started : TemporalReplay.init c fromisoformat floats retrievalK corpus = .ok (h, w))
    (returned : runTemporalValidity c fromisoformat floats retrievalK corpus = .ok report) :
    (∀ record ∈ report.incidents, ¬ (record.appliedCurrentlyValidFix = true ∧ record.appliedStaleFact = true)) ∧
    ((∀ record ∈ report.incidents, Supported record) ∧
        report.temporalValidityAccuracy ≤ resolvedFraction report.incidents ↔
      EachConclusive h (remainingScenarios c { world := w }) { world := w }) := by
  obtain ⟨⟨h', w'⟩, started', returned⟩ := bind_ok returned
  cases started.symm.trans started'
  obtain ⟨records, replayed, returned⟩ := bind_ok returned
  cases returned
  have ready : Ready w := by
    obtain ⟨_, _, started⟩ := bind_ok started
    obtain ⟨_, loaded, started⟩ := bind_ok started
    cases started
    exact ⟨loadWorld_sound loaded, loadWorld_filed loaded⟩
  obtain ⟨apart, same⟩ := replay_supported ready replayed
  refine ⟨apart, Iff.trans ?_ same⟩
  constructor
  · exact fun ⟨supported, _⟩ => supported
  · exact fun supported => ⟨supported, accuracy_le supported⟩

namespace Sample

/-- A memory that rolls the deploy back. -/
def rollbackMemory : CorpusItem where
  memoryId := "rollback"
  familyId := "F1_BAD_DEPLOY"
  text := "checkout canary"
  actions := [{
    actionType := "rollback_deploy"
    targetService := "$incident.service"
    params := [("target_version", .str "$incident.previous_stable_version")] }]
  gold := .bool true

/-- One bad deploy. -/
def oneDeploy : Conductor := Simulator.Sample.conductor [Simulator.Sample.badDeploy "f1-checkout-base" 3600 "1.5.0"]

end Sample

/-- With the memory, the one incident counts as resolved by the fix that is valid, and it is. -/
theorem temporal_validity_supported_sample : ∃ h w report,
    TemporalReplay.init Sample.oneDeploy Sample.fromisoformat Sample.floats 10 [Sample.rollbackMemory] = .ok (h, w) ∧
    runTemporalValidity Sample.oneDeploy Sample.fromisoformat Sample.floats 10 [Sample.rollbackMemory] = .ok report ∧
    (report.incidents.map fun item => (item.appliedCurrentlyValidFix, item.resolved)) = [(true, true)] ∧
    EachConclusive h (remainingScenarios Sample.oneDeploy { world := w }) { world := w } := by
  obtain ⟨⟨h, w⟩, started⟩ : ∃ built, TemporalReplay.init Sample.oneDeploy Sample.fromisoformat Sample.floats 10
      [Sample.rollbackMemory] = .ok built := ⟨_, rfl⟩
  have ran : (runTemporalValidity Sample.oneDeploy Sample.fromisoformat Sample.floats 10
      [Sample.rollbackMemory]).toOption.any (fun report =>
        (report.incidents.map fun item => (item.appliedCurrentlyValidFix, item.resolved)) = [(true, true)] ∧
        (∀ record ∈ report.incidents, Supported record) ∧
        report.temporalValidityAccuracy ≤ resolvedFraction report.incidents) = true := by decide +kernel
  cases returned : runTemporalValidity Sample.oneDeploy Sample.fromisoformat Sample.floats 10 [Sample.rollbackMemory] with
  | error e =>
    rw [returned] at ran
    cases ran
  | ok report =>
    rw [returned] at ran
    obtain ⟨counted, supported⟩ := of_decide_eq_true ran
    have same := (temporal_validity_supported_iff Sample.oneDeploy Sample.fromisoformat Sample.floats 10
      [Sample.rollbackMemory] h w report started returned).2
    exact ⟨h, w, report, started, rfl, counted, same.mp supported⟩

/-- Without a memory no fix is authorized, and none is expected: the incident that a human is paged for counts as
resolved by the fix that is valid. -/
theorem temporal_validity_without_memory : ∃ report,
    runTemporalValidity Sample.oneDeploy Sample.fromisoformat Sample.floats 10 [] = .ok report ∧
    (report.incidents.map fun item => (item.appliedCurrentlyValidFix, item.authorizedMemoryId, item.resolved)) =
      [(true, none, false)] ∧
    ¬ ((∀ record ∈ report.incidents, Supported record) ∧
        report.temporalValidityAccuracy ≤ resolvedFraction report.incidents) := by
  have ran : (runTemporalValidity Sample.oneDeploy Sample.fromisoformat Sample.floats 10 []).toOption.any (fun report =>
      (report.incidents.map fun item => (item.appliedCurrentlyValidFix, item.authorizedMemoryId, item.resolved)) =
        [(true, none, false)] ∧
      ¬ ((∀ record ∈ report.incidents, Supported record) ∧
          report.temporalValidityAccuracy ≤ resolvedFraction report.incidents)) = true := by decide +kernel
  cases returned : runTemporalValidity Sample.oneDeploy Sample.fromisoformat Sample.floats 10 [] with
  | error e =>
    rw [returned] at ran
    cases ran
  | ok report =>
    rw [returned] at ran
    exact ⟨report, rfl, of_decide_eq_true ran⟩

end Postmortem.Evaluation
