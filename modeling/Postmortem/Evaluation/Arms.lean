import Postmortem.Evaluation.RetrievalMetrics
import Postmortem.Evaluation.TemporalValidity
import Postmortem.Simulator.Ledger

/-!
# The arms of the harness

`_run_arm` of `evaluation/postmortem_eval/runner.py`, with the responders of `responders.py`. An arm replays the whole
stream of scenarios with one responder. Whatever the responder decides, the record of a scenario is a matter of how many
of its actions were wrong (`Explained`), and the records add up to the ledger of the world (`arm_explained`).
-/

namespace Postmortem.Evaluation

open Simulator Rounding

/-! ## Responders -/

/-- `Responder`: between its decisions it holds a `σ`. -/
structure Responder (σ : Type) where
  name : String
  decide : IncidentObservation → Effect σ Raised ResponderDecision

/-- `ProceduralMemoryResponder` -/
def ProceduralMemoryResponder.responder (r : ProceduralMemoryResponder) : Responder Unit where
  name := "with_memory"
  decide observation := pure (r.decide observation)

/-- `needle in text` -/
def contains (needle text : String) : Bool := Decidable.decide (needle.toList <:+: text.toList)

/-- `_first_line_remediation` -/
def firstLineRemediation (signal target : String) (observation : IncidentObservation) : List ActionPlan :=
  if contains "after deploy" signal then
    [⟨"rollback_deploy", target, [("target_version", observation.previousStableVersion)]⟩]
  else if contains "too many connections" signal then
    [⟨"set_config", target, [("key", .str "db_pool_size"), ("value", .int 80)]⟩, ⟨"restart_service", target, []⟩]
  else if contains "cache timeout cascade" signal then
    [⟨"failover_dependency", target,
      [("dependency_key", .str "checkout-cache"), ("to_service", .str "redis-cluster-v2-replica")]⟩]
  else if contains "traffic spike saturated" signal then
    [⟨"scale_service", target, [("capacity_units", .int 8)]⟩, ⟨"throttle_traffic", target, [("traffic_percent", .int 75)]⟩]
  else if contains "retry storm" signal then
    [⟨"throttle_traffic", target, [("traffic_percent", .int 60)]⟩]
  else if contains "memory leak" signal then
    [⟨"restart_service", target, []⟩]
  else if contains "config flag" signal then
    [⟨"set_config", target, [("key", .str "express_checkout_enabled"), ("value", .bool false)]⟩]
  else if contains "datastore primary" signal then
    [⟨"failover_dependency", target,
      [("dependency_key", .str "checkout-orders"), ("to_service", .str "orders-db-replica")]⟩]
  else if contains "payment provider" signal then
    [⟨"failover_dependency", target,
      [("dependency_key", .str "payment-provider"), ("to_service", .str "payment-provider-secondary")]⟩,
      ⟨"throttle_traffic", target, [("traffic_percent", .int 50)]⟩]
  else [pageHuman target]

/-- `MemorylessBaselineResponder.decide` -/
def MemorylessBaselineResponder.decide (rt : Runtime) (observation : IncidentObservation) : ResponderDecision :=
  let actions := firstLineRemediation (rt.lower observation.signal) observation.service observation
  let queryTokens := (tokenize rt (observation.title ++ " " ++ observation.signal)).card
  { actions
    tokenProxy := 280 + queryTokens * 4 + actions.length * 70
    abstained := actions.getLast?.any fun action => action.actionType = "no_op_page_human" }

/-- `MemorylessBaselineResponder` -/
def MemorylessBaselineResponder.responder (rt : Runtime) : Responder Unit where
  name := "competent_baseline"
  decide observation := pure (MemorylessBaselineResponder.decide rt observation)

/-! ## An arm -/

/-- `IncidentResult`, with the fields that the retrieval metrics do not read. -/
structure ArmResult extends IncidentResult where
  scenarioId : String
  incidentId : String
  occurrence : Nat
  mttrSeconds : Int
  actions : Nat
  wrongActions : Nat
  firstActionCorrect : Bool
  failedOrders : Nat
  failedOrderValueCents : Int
  escalated : Bool
  tokenProxy : Int
  topRetrievalScore : Option Flt
deriving DecidableEq

/-- `_run_arm` at work. -/
structure Arm (σ : Type) where
  sim : Simulation
  memory : σ
  occurrences : List (String × Nat) := []
  results : List ArmResult := []

/-- `timedelta(seconds=…)`, in microseconds. -/
def timedelta : Flt → Except Raised Int
  | .num seconds => .ok (Rounding.nearest (seconds * 1000000))
  | .nan => .error ⟨.ValueError, "cannot convert float NaN to integer", none, none⟩

/-- `advance_time` -/
def advanceSeconds (seconds : Flt) : Sim Unit :=
  if seconds.lt 0 then Effect.raise (simulationError "simulation time cannot move backwards")
  else do
    let duration ← Effect.lift (timedelta seconds)
    Conductor.advanceTime duration

/-- The loop over `decision.actions`: `action_outcomes`. -/
def playActions (c : Conductor) (request : ActionPlan → ActionRequest) : List ActionPlan → Sim (List String)
  | [] => return []
  | action :: rest => do
    let result ← c.applyAction (request action)
    if result.resolved then return [result.outcome]
    else do
      let outcomes ← playActions c request rest
      return result.outcome :: outcomes

/-- The decision, carried out. -/
def playDecision (c : Conductor) (incidentId : String) (decision : ResponderDecision) : Sim (List String) := do
  advanceSeconds decision.decisionSeconds
  playActions c (stepRequest incidentId decision.authorizedMemoryId) decision.actions

/-- `action.action_type in {"no_op_page_human", "escalate"}`, of an action in the record. -/
def escalation (action : Simulator.RemediationAction) : Bool :=
  action.actionType = "no_op_page_human" || action.actionType = "escalate"

/-- The record of an incident, from the worlds before its injection and after its last action. -/
def recordResult (incident : Simulator.Incident) (occurrence : Nat) (mttrSeconds : Int) (decision : ResponderDecision)
    (outcomes : List String) (before after : WorldState) : ArmResult :=
  let orders := (after.orders.drop before.orders.length).filter fun order => order.incidentId = incident.incidentId
  let actions := (after.actions.drop before.actions.length).filter fun action => action.incidentId = incident.incidentId
  { scenarioId := incident.scenarioId
    incidentId := incident.incidentId
    familyId := incident.familyId
    variantId := incident.variantId
    occurrence
    mttrSeconds
    actions := actions.length
    wrongActions := outcomes.count "no_effect"
    firstActionCorrect := outcomes.head? = some "success"
    failedOrders := orders.length
    failedOrderValueCents := (orders.map Order.amountCents).sum
    escalated := actions.any escalation
    abstained := decision.abstained
    tokenProxy := decision.tokenProxy
    retrievedMemoryIds := decision.retrieved.map RetrievalHit.memoryId
    topRetrievalScore := decision.retrieved.head?.map RetrievalHit.score
    authorizedMemoryId := decision.authorizedMemoryId }

/-- An `AssertionError`. -/
def assertionError (message : String) : Raised := ⟨.other "AssertionError", message, none, none⟩

variable {σ : Type}

/-- The body of the loop of `_run_arm`. -/
def Arm.next (c : Conductor) (r : Responder σ) (arm : Arm σ) : Except Raised (Arm σ) :=
  match c.injectNext arm.sim with
  | (.error e, _) => .error e
  | (.ok incident, sim) => do
    let occurrence := (Assoc.get arm.occurrences incident.familyId).getD 0 + 1
    let observation ← observeIncident sim.world incident.incidentId
    match r.decide observation arm.memory with
    | (.error e, _) => .error e
    | (.ok decision, memory) =>
      match playDecision c incident.incidentId decision sim.world with
      | (.error e, _) => .error e
      | (.ok outcomes, world) =>
        match (Assoc.get world.incidents incident.incidentId).bind Simulator.Incident.mttrSeconds with
        | none => .error (assertionError (r.name ++ " failed to resolve " ++ incident.scenarioId))
        | some mttrSeconds =>
          .ok {
            sim := { sim with world }
            memory
            occurrences := Assoc.set arm.occurrences incident.familyId occurrence
            results := arm.results ++
              [recordResult incident occurrence mttrSeconds decision outcomes arm.sim.world world] }

/-- The loop of `_run_arm`, for so many remaining scenarios. -/
def Arm.play (c : Conductor) (r : Responder σ) : Nat → Arm σ → Except Raised (Arm σ)
  | 0, arm => .ok arm
  | n + 1, arm => do
    let arm ← arm.next c r
    play c r n arm

/-- `_run_arm`, up to what it returns. -/
def playStream (c : Conductor) (r : Responder σ) (memory : σ) : Except Raised (Arm σ) := do
  let world ← c.loadWorld
  Arm.play c r (remainingScenarios c { world }) { sim := { world }, memory }

/-- `_run_arm` -/
def runArm (c : Conductor) (r : Responder σ) (memory : σ) : Except Raised (List ArmResult × Int) := do
  let arm ← playStream c r memory
  return (arm.results, c.fixture.seed)

/-! ## What an action does to a record -/

/-- What the actions with these outcomes have cost. -/
structure Spent (c : Conductor) (incidentId : String) (policy : Policy) (outcomes : List String) (w w' : WorldState) :
    Prop where
  clock : w'.now = w.now + ((outcomes.count "success" : Int) * policy.actionSeconds +
    (outcomes.count "no_effect" : Int) * policy.wrongActionPenaltySeconds) * 1000000
  orders : ∃ orders, w'.orders = w.orders ++ orders ∧ Charges incidentId (2 * outcomes.count "no_effect")
    ((outcomes.count "no_effect" : Int) * c.ordersCents 2) orders
  actions : ∃ actions, w'.actions = w.actions ++ actions ∧ (∀ action ∈ actions, action.incidentId = incidentId) ∧
    actions.map Simulator.RemediationAction.outcome = outcomes
  outcomes : outcomes.length = outcomes.count "success" + outcomes.count "no_effect"

/-- The incident after some of its actions. -/
structure Answered (policy : Policy) (outcomes : List String) (now : Timestamp)
    (incident incident' : Simulator.Incident) : Prop where
  openedAt : incident'.openedAt = incident.openedAt
  step : incident'.oracleStep = incident.oracleStep + outcomes.count "success"
  timed : ∀ mttr, incident'.mttrSeconds = some mttr → incident'.oracleStep = policy.requiredActions.length ∧
    mttr = (now - incident.openedAt).tdiv 1000000

section actions

variable {c : Conductor} {w w' w₁ : WorldState} {policy : Policy} {incident incident' : Simulator.Incident} {id : String}
  {outcomes : List String} {expected : Bool} {memoryId : Option String}

lemma count_reported {outcome : String} : (reportedOutcome expected :: outcomes).count outcome =
    outcomes.count outcome + if reportedOutcome expected = outcome then 1 else 0 := by
  rw [List.count_cons]
  simp only [beq_iff_eq]

lemma Spent.nil : Spent c id policy [] w w := by
  refine ⟨by simp, ⟨[], (List.append_nil _).symm, ?_⟩, ⟨[], (List.append_nil _).symm, List.forall_mem_nil _, rfl⟩, rfl⟩
  have none := @Charges.nil id
  simpa using none

/-- The cost of one more action. -/
lemma Spent.cons {action : ActionPlan} (filed : incident.incidentId = id)
    (billed : Billed c (stepRequest id memoryId action) incident policy expected w w₁)
    (spent : Spent c id policy outcomes w₁ w') : Spent c id policy (reportedOutcome expected :: outcomes) w w' := by
  obtain ⟨orders, charged, charges⟩ := billed.orders
  obtain ⟨later, charged', charges'⟩ := spent.orders
  obtain ⟨action', recorded, own, _, outcome⟩ := billed.actions
  obtain ⟨actions, recorded', owns, names⟩ := spent.actions
  rw [filed] at charges
  refine ⟨?_, ⟨orders ++ later, ?_, ?_⟩, ⟨action' :: actions, ?_, ?_, ?_⟩, ?_⟩
  · rw [spent.clock, billed.clock, count_reported, count_reported]
    unfold Policy.clock reportedOutcome
    cases expected with
    | true =>
      simp
      ring
    | false =>
      simp
      ring
  · rw [charged', charged, List.append_assoc]
  · have all := charges.append charges'
    rw [count_reported]
    cases expected with
    | true => simpa [reportedOutcome] using all
    | false =>
      have count : 2 * (outcomes.count "no_effect" + 1) = 2 + 2 * outcomes.count "no_effect" := by ring
      have cents : ((outcomes.count "no_effect" + 1 : Nat) : Int) * c.ordersCents 2 =
          c.ordersCents 2 + outcomes.count "no_effect" * c.ordersCents 2 := by
        push_cast
        ring
      show Charges id (2 * (outcomes.count "no_effect" + 1)) (((outcomes.count "no_effect" + 1 : Nat) : Int) * _) _
      rw [count, cents]
      exact all
  · rw [recorded', recorded, List.append_assoc, List.singleton_append]
  · rw [List.forall_mem_cons]
    exact ⟨own, owns⟩
  · rw [List.map_cons, names]
    exact congrArg (fun first => first :: outcomes) outcome
  · rw [List.length_cons, spent.outcomes, count_reported, count_reported]
    cases expected with
    | true =>
      simp [reportedOutcome]
      omega
    | false =>
      simp [reportedOutcome]
      omega

/-- What an action that returns does to an open incident, and what it costs. -/
lemma applyAction_answers {action : ActionPlan} {result : ActionResult} (ready : Ready w)
    (found : Assoc.get w.incidents id = some incident) (oracle : c.oracleFor incident = .ok policy)
    (unresolved : incident.status ≠ .resolved) (untimed : incident.mttrSeconds = none)
    (applied : c.applyAction (stepRequest id memoryId action) w = (.ok result, w')) :
    ∃ expected incident', result.outcome = reportedOutcome expected ∧
      Billed c (stepRequest id memoryId action) incident policy expected w w' ∧
      Assoc.get w'.incidents id = some incident' ∧ Answered policy [reportedOutcome expected] w'.now incident incident' ∧
      c.oracleFor incident' = .ok policy ∧
      (result.resolved = false → incident'.status ≠ .resolved ∧ incident'.mttrSeconds = none) := by
  have responds := @applyAction_responds c w (stepRequest id memoryId action) ready.sound ready.filed
  obtain ⟨was, policy', expected, admitted, billed⟩ := applyAction_billed applied
  obtain rfl := Option.some.inj (found.symm.trans admitted.found)
  cases oracle.symm.trans admitted.oracle
  have count : ∀ expected, [reportedOutcome expected].count "success" = if expected then 1 else 0 := by decide
  have step : (accountIncident expected incident).oracleStep =
      incident.oracleStep + [reportedOutcome expected].count "success" := by
    rw [accountIncident_step, count]
    cases expected with
    | true => rfl
    | false => rfl
  have openedAt : (accountIncident expected incident).openedAt = incident.openedAt := by
    cases expected with
    | true => rfl
    | false => rfl
  rw [applied] at responds
  cases responds with
  | @applied was' policy'' expected' _ _ admitted' more outcome open_ incidents =>
    obtain rfl := Option.some.inj (found.symm.trans admitted'.found)
    cases oracle.symm.trans admitted'.oracle
    cases admitted.expected.symm.trans admitted'.expected
    have blank : (accountIncident expected incident).mttrSeconds = none := by
      cases expected with
      | true => exact untimed
      | false => exact untimed
    refine ⟨expected, accountIncident expected incident, outcome, billed, (incidents id).trans (if_pos rfl),
      ⟨openedAt, step, ?_⟩, accountIncident_same.2.trans oracle, fun _ => ⟨?_, blank⟩⟩
    · intro mttr timed
      cases blank.symm.trans timed
    · cases expected with
      | true =>
        intro same
        cases same
      | false => exact unresolved
  | @completed was' policy'' expected' _ _ admitted' completes outcome closed incidents =>
    obtain rfl := Option.some.inj (found.symm.trans admitted'.found)
    cases oracle.symm.trans admitted'.oracle
    cases admitted.expected.symm.trans admitted'.expected
    refine ⟨expected, resolvedIncident w'.now (accountIncident expected incident), outcome, billed,
      (incidents id).trans (if_pos rfl), ⟨openedAt, step, ?_⟩, accountIncident_same.2.trans oracle, ?_⟩
    · intro mttr timed
      refine ⟨?_, ?_⟩
      · show (accountIncident expected incident).oracleStep = _
        rw [accountIncident_step]
        exact completes
      · have stamped : some ((w'.now - (accountIncident expected incident).openedAt).tdiv 1000000) = some mttr := timed
        rw [openedAt] at stamped
        exact (Option.some.inj stamped).symm
    · intro open_
      cases closed.symm.trans open_

/-- The whole plan, as far as it is played. -/
lemma playActions_answers {plan : List ActionPlan} (ready : Ready w)
    (found : Assoc.get w.incidents id = some incident) (oracle : c.oracleFor incident = .ok policy)
    (unresolved : incident.status ≠ .resolved) (untimed : incident.mttrSeconds = none)
    (played : playActions c (stepRequest id memoryId) plan w = (.ok outcomes, w')) :
    Ready w' ∧ Spent c id policy outcomes w w' ∧
      ∃ incident', Assoc.get w'.incidents id = some incident' ∧ Answered policy outcomes w'.now incident incident' := by
  induction plan generalizing w incident outcomes with
  | nil =>
    cases played
    refine ⟨ready, Spent.nil, incident, found, rfl, rfl, ?_⟩
    intro mttr timed
    cases untimed.symm.trans timed
  | cons action rest ih =>
    obtain ⟨result, w₁, applied, goesOn⟩ := Effect.bind_ok_iff.mp played
    have ready₁ := ready.acted applied
    obtain ⟨expected, incident₁, outcome, billed, found₁, answered, oracle₁, open_⟩ :=
      applyAction_answers ready found oracle unresolved untimed applied
    have filed : incident.incidentId = id := ready.filed _ _ found
    cases resolved : result.resolved with
    | true =>
      rw [if_pos resolved] at goesOn
      cases goesOn
      rw [outcome]
      exact ⟨ready₁, Spent.nil.cons filed billed, incident₁, found₁, answered⟩
    | false =>
      rw [if_neg (by rw [resolved]; exact Bool.false_ne_true)] at goesOn
      obtain ⟨later, w₂, played', returned⟩ := Effect.bind_ok_iff.mp goesOn
      cases returned
      obtain ⟨unresolved₁, untimed₁⟩ := open_ resolved
      obtain ⟨ready', spent, incident', found', answered'⟩ := ih ready₁ found₁ oracle₁ unresolved₁ untimed₁ played'
      rw [outcome]
      refine ⟨ready', spent.cons filed billed, incident', found', answered'.openedAt.trans answered.openedAt, ?_, ?_⟩
      · rw [answered'.step, answered.step, List.count_cons (l := later), List.count_singleton]
        omega
      · intro mttr timed
        rw [← answered.openedAt]
        exact answered'.timed mttr timed

/-- A plan that is played needs a policy, unless nothing of it is played. -/
lemma playActions_oracle {plan : List ActionPlan} (found : Assoc.get w.incidents id = some incident)
    (played : playActions c (stepRequest id memoryId) plan w = (.ok outcomes, w')) :
    w' = w ∨ ∃ policy, c.oracleFor incident = .ok policy := by
  cases plan with
  | nil =>
    cases played
    exact .inl rfl
  | cons action rest =>
    obtain ⟨result, w₁, applied, _⟩ := Effect.bind_ok_iff.mp played
    obtain ⟨was, policy, expected, admitted, _⟩ := applyAction_billed applied
    obtain rfl := Option.some.inj (found.symm.trans admitted.found)
    exact .inr ⟨policy, admitted.oracle⟩

/-- The time of the decision passes. -/
lemma advanceSeconds_ok {seconds : Flt} (returned : advanceSeconds seconds w = (.ok (), w')) :
    ∃ duration, timedelta seconds = .ok duration ∧ w' = { w with now := w.now + duration } := by
  unfold advanceSeconds at returned
  split at returned
  case isTrue => cases returned
  case isFalse =>
  obtain ⟨duration, w₁, lifted, moves⟩ := Effect.bind_ok_iff.mp returned
  obtain ⟨converted, rfl⟩ := Effect.lift_ok_iff.mp lifted
  unfold Conductor.advanceTime at moves
  split at moves
  case isTrue => cases moves
  case isFalse =>
  obtain ⟨_, _, read, timed⟩ := Effect.bind_ok_iff.mp moves
  cases read
  obtain ⟨now, w₂, inside, moved⟩ := Effect.bind_ok_iff.mp timed
  obtain ⟨inside, rfl⟩ := Effect.lift_ok_iff.mp inside
  cases moved
  refine ⟨duration, converted, ?_⟩
  rw [instant_ok inside]

end actions

/-! ## What a record says -/

/-- The policy of a scenario. -/
def policyOf (c : Conductor) (scenario : Scenario) : Except Raised Policy :=
  c.oracleFor (c.newIncident scenario c.fixture.startTime)

/-- The seconds of the required actions, and of so many wrong ones. -/
def workSeconds (policy : Policy) (wrongActions : Nat) : Int :=
  policy.requiredActions.length * policy.actionSeconds + wrongActions * policy.wrongActionPenaltySeconds

/-- The decision that a record is about: what is passed on of it, and what became of the incident. Every required
action was applied, and the wrong ones besides. -/
structure Decided (c : Conductor) (r : Responder σ) (scenario : Scenario) (result : ArmResult) (policy : Policy)
    (decision : ResponderDecision) (duration : Int) : Prop where
  oracle : policyOf c scenario = .ok policy
  decided : ∃ observation before after, r.decide observation before = (.ok decision, after) ∧
    observation.incidentId = result.incidentId
  lasted : timedelta decision.decisionSeconds = .ok duration
  actions : result.actions = policy.requiredActions.length + result.wrongActions
  mttrSeconds : result.mttrSeconds = (duration + workSeconds policy result.wrongActions * 1000000).tdiv 1000000
  abstained : result.abstained = decision.abstained
  tokenProxy : result.tokenProxy = decision.tokenProxy
  retrieved : result.retrievedMemoryIds = decision.retrieved.map RetrievalHit.memoryId
  authorized : result.authorizedMemoryId = decision.authorizedMemoryId

/-- What the record of a scenario says, which is a matter of how many of its actions were wrong. -/
structure Explained (c : Conductor) (r : Responder σ) (earlier : List Scenario) (scenario : Scenario)
    (result : ArmResult) : Prop where
  scenarioId : result.scenarioId = scenario.scenarioId
  incidentId : result.incidentId = c.id "incident" scenario.scenarioId
  familyId : result.familyId = scenario.familyId
  variantId : result.variantId = scenario.variantId
  occurrence : result.occurrence = earlier.countP (fun s => s.familyId = scenario.familyId) + 1
  failedOrders : result.failedOrders = scenario.failedOrders.toNat + 2 * result.wrongActions
  failedOrderValueCents : result.failedOrderValueCents =
    c.ordersCents scenario.failedOrders.toNat + result.wrongActions * c.ordersCents 2
  decided : ∃ policy decision duration, Decided c r scenario result policy decision duration

/-- What an incident adds to the ledger is what its record says. -/
structure Adds (result : ArmResult) (w w' : WorldState) : Prop where
  orders : ∃ orders, w'.orders = w.orders ++ orders ∧ orders.length = result.failedOrders ∧
    (orders.map Order.amountCents).sum = result.failedOrderValueCents
  actions : ∃ actions, w'.actions = w.actions ++ actions ∧ actions.length = result.actions ∧
    actions.countP (fun action => action.outcome = "no_effect") = result.wrongActions

section record

variable {c : Conductor} {r : Responder σ} {arm arm' : Arm σ} {scenario : Scenario} {incident : Simulator.Incident}
  {decision : ResponderDecision} {outcomes : List String} {policy : Policy} {w w' : WorldState} {s s' : Simulation}

lemma observeIncident_incidentId {id : String} {observation : IncidentObservation}
    (found : Assoc.get w.incidents id = some incident) (observed : observeIncident w id = .ok observation) :
    observation.incidentId = incident.incidentId := by
  obtain ⟨incident', known, observed⟩ := bind_ok observed
  cases found.symm.trans (orRaise_ok known)
  obtain ⟨alert, _, observed⟩ := bind_ok observed
  obtain ⟨slo, _, observed⟩ := bind_ok observed
  obtain ⟨service, _, observed⟩ := bind_ok observed
  cases observed
  rfl

/-- A decision that resolves a new incident has all required actions applied, and it took the time of these, of the
wrong ones and of the decision. -/
lemma playDecision_timed {id : String} {mttrSeconds : Int} (ready : Ready w)
    (found : Assoc.get w.incidents id = some incident) (new : incident.oracleStep = 0)
    (unresolved : incident.status ≠ .resolved) (untimed : incident.mttrSeconds = none)
    (opened : incident.openedAt = w.now) (plays : playDecision c id decision w = (.ok outcomes, w'))
    (timed : (Assoc.get w'.incidents id).bind Simulator.Incident.mttrSeconds = some mttrSeconds) :
    ∃ policy duration, c.oracleFor incident = .ok policy ∧ timedelta decision.decisionSeconds = .ok duration ∧
      Ready w' ∧ Spent c id policy outcomes { w with now := w.now + duration } w' ∧
      outcomes.count "success" = policy.requiredActions.length ∧
      mttrSeconds = (duration + workSeconds policy (outcomes.count "no_effect") * 1000000).tdiv 1000000 := by
  obtain ⟨_, w₁, advanced, played⟩ := Effect.bind_ok_iff.mp plays
  obtain ⟨duration, lasted, rfl⟩ := advanceSeconds_ok advanced
  have ready₁ : Ready { w with now := w.now + duration } :=
    ⟨ready.sound.stays rfl rfl rfl fun _ known => known, ready.filed⟩
  have found₁ : Assoc.get ({ w with now := w.now + duration } : WorldState).incidents id = some incident := found
  obtain same | ⟨policy, oracle⟩ := playActions_oracle found₁ played
  · rw [same, found₁] at timed
    cases untimed.symm.trans timed
  obtain ⟨ready', spent, incident', found', answered⟩ :=
    playActions_answers ready₁ found₁ oracle unresolved untimed played
  rw [found'] at timed
  obtain ⟨complete, mttr⟩ := answered.timed mttrSeconds timed
  have required : outcomes.count "success" = policy.requiredActions.length := by
    rw [← complete, answered.step, new, Nat.zero_add]
  refine ⟨policy, duration, oracle, lasted, ready', spent, required, ?_⟩
  rw [mttr, opened, spent.clock, required]
  unfold workSeconds
  congr 1
  ring

lemma filter_own {α : Type} {p : α → Bool} {l own : List α} (all : ∀ a ∈ own, p a = true) :
    ((l ++ own).drop l.length).filter p = own := by
  rw [List.drop_left, List.filter_eq_self]
  exact all

/-- The orders and the actions since the injection are those of the incident, and its record counts them. -/
lemma recordResult_adds {occurrence : Nat} {mttrSeconds duration : Int} (billing : Billing c scenario incident s s')
    (spent : Spent c incident.incidentId policy outcomes { s'.world with now := s'.world.now + duration } w)
    (required : outcomes.count "success" = policy.requiredActions.length) :
    let result := recordResult incident occurrence mttrSeconds decision outcomes s.world w
    Adds result s.world w ∧ result.failedOrders = scenario.failedOrders.toNat + 2 * result.wrongActions ∧
      result.failedOrderValueCents =
        c.ordersCents scenario.failedOrders.toNat + result.wrongActions * c.ordersCents 2 ∧
      result.actions = policy.requiredActions.length + result.wrongActions := by
  intro result
  obtain ⟨opening, opened, charges⟩ := billing.orders
  obtain ⟨later, charged, charges'⟩ := spent.orders
  obtain ⟨actions, recorded, own, names⟩ := spent.actions
  have orders : w.orders = s.world.orders ++ (opening ++ later) := by
    rw [charged, ← List.append_assoc, ← opened]
  have log : w.actions = s.world.actions ++ actions := by
    rw [recorded, ← billing.actions]
  have all := charges.append charges'
  have failed : (w.orders.drop s.world.orders.length).filter (fun order => order.incidentId = incident.incidentId) =
      opening ++ later := by
    rw [orders]
    exact filter_own fun order mem => decide_eq_true (all.incident order mem)
  have applied : (w.actions.drop s.world.actions.length).filter
      (fun action => action.incidentId = incident.incidentId) = actions := by
    rw [log]
    exact filter_own fun action mem => decide_eq_true (own action mem)
  have failedOrders : result.failedOrders = (opening ++ later).length := congrArg List.length failed
  have value : result.failedOrderValueCents = ((opening ++ later).map Order.amountCents).sum :=
    congrArg (fun l => (List.map Order.amountCents l).sum) failed
  have count : result.actions = actions.length := congrArg List.length applied
  have wrong : actions.countP (fun action => Decidable.decide (action.outcome = "no_effect")) = result.wrongActions := by
    show _ = outcomes.count "no_effect"
    rw [← names, List.count_eq_countP, List.countP_map]
    rfl
  refine ⟨⟨⟨opening ++ later, orders, failedOrders.symm, value.symm⟩, actions, log, count.symm, wrong⟩, ?_, ?_, ?_⟩
  · rw [failedOrders, all.count]
    rfl
  · rw [value, all.cents]
    rfl
  · rw [count, ← List.length_map (f := Simulator.RemediationAction.outcome), names, spent.outcomes, required]
    rfl

/-- The next incident: its record, and what it adds. -/
lemma Arm.next_explained {earlier : List Scenario} (ready : Ready arm.sim.world)
    (counted : ∀ family, (Assoc.get arm.occurrences family).getD 0 = earlier.countP fun s => s.familyId = family)
    (next : arm.next c r = .ok arm') :
    Ready arm'.sim.world ∧ ∃ scenario result, c.scenarios[arm.sim.nextScenario]? = some scenario ∧
      arm'.sim.nextScenario = arm.sim.nextScenario + 1 ∧ arm'.results = arm.results ++ [result] ∧
      arm'.occurrences = Assoc.set arm.occurrences scenario.familyId result.occurrence ∧
      Explained c r earlier scenario result ∧ Adds result arm.sim.world arm'.sim.world := by
  unfold Arm.next at next
  split at next
  case h_1 => cases next
  case h_2 incident sim injected =>
  obtain ⟨observation, observed, next⟩ := bind_ok next
  split at next
  case h_1 => cases next
  case h_2 decision memory decides =>
  split at next
  case h_1 => cases next
  case h_2 outcomes world plays =>
  split at next
  case h_1 => cases next
  case h_2 mttrSeconds timed =>
  cases next
  obtain ⟨scenario, billing⟩ := injectNext_billing injected
  obtain ⟨ready₁, found, new, unresolved, untimed, _, _⟩ := injectNext_fresh ready injected
  have opened : incident.openedAt = sim.world.now := by
    rw [billing.opened]
    rfl
  obtain ⟨policy, duration, oracle, lasted, ready', spent, required, mttr⟩ :=
    playDecision_timed ready₁ found new unresolved untimed opened plays timed
  have adds := @recordResult_adds c scenario incident decision outcomes policy world arm.sim sim
    ((Assoc.get arm.occurrences incident.familyId).getD 0 + 1) mttrSeconds duration billing spent required
  obtain ⟨adds, failedOrders, value, actions⟩ := adds
  have observes := observeIncident_incidentId found observed
  have named := billing.opened
  refine ⟨ready', scenario, _, billing.scheduled, billing.next, rfl, ?_, ?_, adds⟩
  · rw [named]
    rfl
  refine ⟨?_, ?_, ?_, ?_, ?_, failedOrders, value, policy, decision, duration, ?_⟩
  · exact congrArg Simulator.Incident.scenarioId named
  · exact congrArg Simulator.Incident.incidentId named
  · exact congrArg Simulator.Incident.familyId named
  · exact congrArg Simulator.Incident.variantId named
  · have family : incident.familyId = scenario.familyId := congrArg Simulator.Incident.familyId named
    rw [← family]
    exact congrArg (fun n => n + 1) (counted incident.familyId)
  · refine ⟨?_, ⟨observation, arm.memory, memory, decides, observes⟩, lasted, actions, mttr, rfl, rfl, rfl, rfl⟩
    rw [named] at oracle
    exact oracle

/-- The records add up to the ledger. -/
structure Balanced (results : List ArmResult) (w : WorldState) : Prop where
  failedOrders : (results.map ArmResult.failedOrders).sum = w.orders.length
  failedOrderValueCents : (results.map ArmResult.failedOrderValueCents).sum = (w.orders.map Order.amountCents).sum
  actions : (results.map ArmResult.actions).sum = w.actions.length
  wrongActions : (results.map ArmResult.wrongActions).sum = w.actions.countP fun action => action.outcome = "no_effect"

lemma Balanced.add {results : List ArmResult} {result : ArmResult} (balanced : Balanced results w)
    (adds : Adds result w w') : Balanced (results ++ [result]) w' := by
  obtain ⟨orders, failed, count, cents⟩ := adds.orders
  obtain ⟨actions, applied, played, wrong⟩ := adds.actions
  refine ⟨?_, ?_, ?_, ?_⟩
  · rw [List.map_append, List.sum_append, balanced.failedOrders, failed, List.length_append, count]
    rfl
  · rw [List.map_append, List.sum_append, balanced.failedOrderValueCents, failed, List.map_append, List.sum_append, cents,
      List.map_singleton, List.sum_singleton]
  · rw [List.map_append, List.sum_append, balanced.actions, applied, List.length_append, played]
    rfl
  · rw [List.map_append, List.sum_append, balanced.wrongActions, applied, List.countP_append, wrong]
    rfl

/-- What holds of an arm after some scenarios. -/
structure Arm.Kept (c : Conductor) (r : Responder σ) (arm : Arm σ) : Prop where
  ready : Ready arm.sim.world
  occurrences : ∀ family, (Assoc.get arm.occurrences family).getD 0 =
    (c.scenarios.take arm.sim.nextScenario).countP fun s => s.familyId = family
  length : arm.results.length = arm.sim.nextScenario
  explained : ∀ i result, arm.results[i]? = some result →
    ∃ scenario, c.scenarios[i]? = some scenario ∧ Explained c r (c.scenarios.take i) scenario result
  balanced : Balanced arm.results arm.sim.world

lemma Arm.Kept.next (kept : arm.Kept c r) (next : arm.next c r = .ok arm') :
    arm'.Kept c r ∧ arm'.sim.nextScenario = arm.sim.nextScenario + 1 := by
  obtain ⟨ready', scenario, result, scheduled, advanced, results, counts, explained, adds⟩ :=
    Arm.next_explained kept.ready kept.occurrences next
  have inside := (List.getElem?_eq_some_iff.mp scheduled).1
  have taken : c.scenarios.take (arm.sim.nextScenario + 1) = c.scenarios.take arm.sim.nextScenario ++ [scenario] := by
    rw [List.take_add_one, scheduled]
    rfl
  refine ⟨⟨ready', ?_, ?_, ?_, ?_⟩, advanced⟩
  · intro family
    rw [counts, advanced, taken, List.countP_append, Assoc.get_set, List.countP_singleton]
    by_cases same : scenario.familyId = family
    · rw [if_pos same, if_pos (decide_eq_true same), Option.getD_some, explained.occurrence, same]
    · rw [if_neg same, if_neg (by simpa using same), kept.occurrences, Nat.add_zero]
  · rw [results, List.length_append, kept.length, advanced]
    rfl
  · intro i result' at'
    rw [results] at at'
    rcases Nat.lt_or_ge i arm.results.length with earlier | last
    · rw [List.getElem?_append_left earlier] at at'
      exact kept.explained i result' at'
    · rw [List.getElem?_append_right last, List.getElem?_singleton] at at'
      split at at'
      case isFalse => cases at'
      case isTrue zero =>
        cases at'
        have here : i = arm.sim.nextScenario := by
          rw [← kept.length]
          omega
        rw [here]
        exact ⟨scenario, scheduled, explained⟩
  · rw [results]
    exact kept.balanced.add adds

lemma Arm.Kept.play {n : Nat} (kept : arm.Kept c r) (played : Arm.play c r n arm = .ok arm') :
    arm'.Kept c r ∧ arm'.sim.nextScenario = arm.sim.nextScenario + n := by
  induction n generalizing arm with
  | zero =>
    cases played
    exact ⟨kept, rfl⟩
  | succ n ih =>
    obtain ⟨arm₁, next, played⟩ := bind_ok played
    obtain ⟨kept₁, advanced⟩ := kept.next next
    obtain ⟨kept', ended⟩ := ih kept₁ played
    refine ⟨kept', ?_⟩
    omega

lemma playStream_kept {memory : σ} (ran : playStream c r memory = .ok arm) :
    arm.Kept c r ∧ arm.results.length = c.scenarios.length := by
  obtain ⟨w, loaded, played⟩ := bind_ok ran
  have ready : Ready w := ⟨loadWorld_sound loaded, loadWorld_filed loaded⟩
  obtain ⟨slos, configs, _, _, fresh⟩ := loadWorld_eq loaded
  have start : Arm.Kept c r { sim := { world := w }, memory } := by
    refine ⟨ready, fun _ => rfl, rfl, ?_, ?_⟩
    · intro i result found
      cases List.getElem?_nil.symm.trans found
    · rw [fresh]
      exact ⟨rfl, rfl, rfl, rfl⟩
  obtain ⟨kept, ended⟩ := start.play played
  refine ⟨kept, ?_⟩
  rw [kept.length, ended]
  show 0 + (c.scenarios.length - 0) = _
  omega

end record

/-- An arm that runs to its end has one record for each scenario, in their order, whatever its responder decides. The
record says what the number of its wrong actions makes of the scenario, and the records add up to the orders and the
actions of the world. -/
theorem arm_explained (c : Conductor) (r : Responder σ) (memory : σ) (arm : Arm σ)
    (ran : playStream c r memory = .ok arm) :
    arm.results.length = c.scenarios.length ∧
      (∀ i scenario, c.scenarios[i]? = some scenario →
        ∃ result, arm.results[i]? = some result ∧ Explained c r (c.scenarios.take i) scenario result) ∧
      Balanced arm.results arm.sim.world := by
  obtain ⟨kept, length⟩ := playStream_kept ran
  refine ⟨length, ?_, kept.balanced⟩
  intro i scenario scheduled
  have inside : i < arm.results.length := by
    rw [length]
    exact (List.getElem?_eq_some_iff.mp scheduled).1
  obtain ⟨scenario', scheduled', explained⟩ := kept.explained i _ (List.getElem?_eq_getElem inside)
  cases scheduled.symm.trans scheduled'
  exact ⟨_, List.getElem?_eq_getElem inside, explained⟩

namespace Sample

/-- A memory that restarts the service before it rolls the deploy back. -/
def hastyMemory : CorpusItem :=
  { rollbackMemory with
    memoryId := "hasty"
    actions := { actionType := "restart_service", targetService := "$incident.service", params := [] } ::
      rollbackMemory.actions }

/-- The responder with one memory. -/
def remembering (item : CorpusItem) : Responder Unit :=
  (ProceduralMemoryResponder.init .sample floats 10 (.num (15 / 100)) [item]).responder

/-- The responder without memory. -/
def memoryless : Responder Unit := MemorylessBaselineResponder.responder .sample

end Sample

/-- Two bad deploys, each restarted and then rolled back: four failed orders, and two times 300 and 120 seconds. -/
theorem arm_explained_sample : ∃ arm,
    playStream Simulator.Sample.twoDeploys (Sample.remembering Sample.hastyMemory) () = .ok arm ∧
    (arm.results.map fun x => (x.occurrence, x.wrongActions, x.mttrSeconds)) = [(1, 1, 420), (2, 1, 420)] ∧
    Balanced arm.results arm.sim.world ∧ arm.sim.world.orders.length = 4 := by
  have ran : (playStream Simulator.Sample.twoDeploys (Sample.remembering Sample.hastyMemory) ()).toOption.any (fun arm =>
      (arm.results.map fun x => (x.occurrence, x.wrongActions, x.mttrSeconds)) = [(1, 1, 420), (2, 1, 420)] ∧
      arm.sim.world.orders.length = 4) = true := by decide +kernel
  cases played : playStream Simulator.Sample.twoDeploys (Sample.remembering Sample.hastyMemory) () with
  | error e =>
    rw [played] at ran
    cases ran
  | ok arm =>
    rw [played] at ran
    obtain ⟨figures, orders⟩ := of_decide_eq_true ran
    exact ⟨arm, rfl, figures, (arm_explained _ _ _ _ played).2.2, orders⟩

end Postmortem.Evaluation
