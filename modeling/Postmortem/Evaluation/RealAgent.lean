import Postmortem.Evaluation.Responders
import Postmortem.Simulator.Refused

/-!
# The agent with a model

`evaluation/postmortem_eval/real_agent.py`: `_parse_plan`, `BedrockIncidentResponder.decide` from the text of the
model on, and the body of the loop of `_run_arm` after the observation. The text is untrusted. `_parse_plan`
answers with `ReasoningFailure`, which `decide` catches; the conversion of the parameters with `dict(…)` stands
outside that `try`, and the loop over the actions catches a `SimulationError` and nothing else.
-/

namespace Postmortem.Evaluation

open Simulator

/-! ## The plan -/

/-- `ReasoningFailure` -/
def reasoningFailure (message : String) : Raised := ⟨.other "ReasoningFailure", message, none, none⟩

/-- `raw[raw.index("{") : raw.rindex("}") + 1]`; `none` is `ValueError`. -/
def planText (raw : String) : Option String :=
  match raw.toList.findIdx? (· = '\x7b'), raw.toList.reverse.findIdx? (· = '\x7d') with
  | some start, some fromEnd => some (String.ofList ((raw.toList.take (raw.length - fromEnd)).drop start))
  | _, _ => none

/-- `payload.get` -/
def asObject : Json → Except Raised Dict
  | .obj fields => .ok fields
  | _ => .error ⟨.AttributeError, "object has no attribute 'get'", none, none⟩

/-- The part of `_parse_plan` in the `try`. -/
def loadPlan (rt : Runtime) (raw : String) : Except Raised Json :=
  match planText raw with
  | none => .error (reasoningFailure "model did not return a JSON object")
  | some text =>
    if rt.jsonTooDeep text then .error recursionError
    else
      match rt.jsonLoads text with
      | some payload => .ok payload
      | none => .error (reasoningFailure "model did not return a JSON object")

/-- The part of `_parse_plan` after the `try`. -/
def planOf (rt : Runtime) (payload : Dict) : Except Raised (List Json × Option String × String) :=
  match payload.get "actions" with
  | .arr (action :: actions) =>
    let cited := payload.get "cited_memory_id"
    .ok (action :: actions, if cited.truthy then some (Python.str rt cited) else none,
      Python.strip (Python.str rt (payload.getD "reasoning" (.str ""))))
  | _ => .error (reasoningFailure "model returned no actions")

/-- `_parse_plan` -/
def parsePlan (rt : Runtime) (raw : String) : Except Raised (List Json × Option String × String) := do
  let payload ← loadPlan rt raw
  let payload ← asObject payload
  planOf rt payload

/-- `TypeError` of `dict(…)`. -/
def notIterable : Raised := ⟨.TypeError, "object is not iterable", none, none⟩

/-- `ValueError` of `dict(…)`. -/
def wrongLength : Raised := ⟨.ValueError, "dictionary update sequence element has the wrong length", none, none⟩

/-- The two members of an element of the sequence that `dict(…)` is given. -/
def pairOf : Json → Except Raised (Json × Json)
  | .arr [key, value] => .ok (key, value)
  | .arr _ => .error wrongLength
  | .str s =>
    match s.toList with
    | [a, b] => .ok (.str (String.ofList [a]), .str (String.ofList [b]))
    | _ => .error wrongLength
  | .obj [(a, _), (b, _)] => .ok (.str a, .str b)
  | .obj _ => .error wrongLength
  | _ => .error notIterable

/-- One element of that sequence. A key that is no text is kept by Python too, and looked up by nothing. -/
def addPair (d : Dict) (item : Json) : Except Raised Dict := do
  let (key, value) ← pairOf item
  match key with
  | .str key => return d.set key value
  | .arr _ => .error notIterable
  | .obj _ => .error notIterable
  | _ => return d

/-- `dict(value)`, the keys that are texts. -/
def asDict : Json → Except Raised Dict
  | .obj fields => .ok fields
  | .arr items => items.foldlM addPair []
  | .str s => if s = "" then .ok [] else .error wrongLength
  | _ => .error notIterable

/-- The members of the list that are dictionaries. -/
def objects (items : List Json) : List Dict :=
  items.filterMap fun
    | .obj fields => some fields
    | _ => none

/-- `ActionPlan(…)` of an item, for an incident of the service. -/
def actionPlan (rt : Runtime) (service : String) (item : Dict) : Except Raised ActionPlan := do
  let params ← asDict ((item.get "params").orElse (.obj []))
  return {
    actionType := Python.str rt (item.getD "action_type" (.str ""))
    targetService := Python.str rt ((item.get "target_service").orElse (.str service))
    params }

/-- What `decide` makes of the text: the fields of `ResponderDecision` that come from it. -/
structure PlannedResponse where
  actions : List ActionPlan
  abstained : Bool
  authorizedMemoryId : Option String := none
  invalidPlan : Bool := false
deriving DecidableEq

/-- `ActionPlan("no_op_page_human", …)` -/
def pageHuman (service : String) : ActionPlan :=
  { actionType := "no_op_page_human", targetService := service, params := [] }

/-- `action_type in {"no_op_page_human", "escalate"}` -/
def ActionPlan.escalates (action : ActionPlan) : Bool :=
  action.actionType = "no_op_page_human" || action.actionType = "escalate"

/-- `decide` after the call of the model, with the identifiers it retrieved. -/
def BedrockIncidentResponder.decide (rt : Runtime) (retrieved : List String) (service : String) (raw : String) : Except Raised PlannedResponse :=
  match parsePlan rt raw with
  | .error e =>
    if e.cls = .other "ReasoningFailure" then
      .ok { actions := [pageHuman service], abstained := true, invalidPlan := true }
    else .error e
  | .ok (rawActions, cited, _) => do
    let planned ← (objects rawActions).mapM (actionPlan rt service)
    let actions := if planned.isEmpty then [pageHuman service] else planned
    return {
      actions
      abstained := actions.head?.any ActionPlan.escalates
      authorizedMemoryId := cited.filter fun id => retrieved.contains id }

/-! ### The texts that are decoded -/

/-- The element is a pair whose first member can be hashed. -/
def isPair : Json → Bool
  | .arr [.arr _, _] => false
  | .arr [.obj _, _] => false
  | .arr [_, _] => true
  | .str s => s.length = 2
  | .obj fields => fields.length = 2
  | _ => false

/-- `dict(…)` takes the value. -/
def dictLike : Json → Bool
  | .obj _ => true
  | .arr items => items.all isPair
  | .str s => s = ""
  | _ => false

/-- The text is not nested too deep, and the parameters of its actions are dictionaries, or can be made into such. -/
structure Plannable (rt : Runtime) (raw : String) : Prop where
  shallow : ∀ text, planText raw = some text → rt.jsonTooDeep text = false
  object : ∀ payload, loadPlan rt raw = .ok payload → Returns (asObject payload)
  params : ∀ actions cited reasoning, parsePlan rt raw = .ok (actions, cited, reasoning) →
    ∀ item ∈ objects actions, dictLike ((item.get "params").orElse (.obj [])) = true

section decoded

variable {rt : Runtime} {raw service : String} {retrieved : List String}

lemma not_returns {α : Type} {x : Except Raised α} {e : Raised} (raised : x = .error e) : ¬ Returns x := by
  rintro ⟨a, returned⟩
  cases raised.symm.trans returned

lemma addPair_returns {d : Dict} {item : Json} : Returns (addPair d item) ↔ isPair item = true := by
  cases item with
  | arr items =>
    obtain _ | ⟨key, _ | ⟨value, _ | ⟨third, rest⟩⟩⟩ := items
    · exact iff_of_false (not_returns rfl) Bool.false_ne_true
    · exact iff_of_false (not_returns rfl) (by simp [isPair])
    · cases key with
      | arr _ => exact iff_of_false (not_returns rfl) Bool.false_ne_true
      | obj _ => exact iff_of_false (not_returns rfl) Bool.false_ne_true
      | _ => exact iff_of_true ⟨_, rfl⟩ rfl
    · exact iff_of_false (not_returns rfl) (by simp [isPair])
  | str s =>
    have length : isPair (.str s) = Decidable.decide (s.toList.length = 2) := by
      rw [String.length_toList]
      rfl
    rw [length]
    obtain chars | ⟨a, chars⟩ | ⟨a, b, chars⟩ | ⟨a, b, c, rest, chars⟩ : s.toList = [] ∨ (∃ a, s.toList = [a]) ∨
        (∃ a b, s.toList = [a, b]) ∨ ∃ a b c rest, s.toList = a :: b :: c :: rest := by
      obtain _ | ⟨a, _ | ⟨b, _ | ⟨c, rest⟩⟩⟩ := s.toList <;> simp
    all_goals rw [chars]
    · exact iff_of_false (@not_returns _ _ wrongLength (by simp [addPair, pairOf, chars]; rfl)) (by simp)
    · exact iff_of_false (@not_returns _ _ wrongLength (by simp [addPair, pairOf, chars]; rfl)) (by simp)
    · exact iff_of_true ⟨_, by simp [addPair, pairOf, chars]; rfl⟩ rfl
    · exact iff_of_false (@not_returns _ _ wrongLength (by simp [addPair, pairOf, chars]; rfl)) (by simp)
  | obj fields =>
    obtain _ | ⟨first, _ | ⟨second, _ | ⟨third, rest⟩⟩⟩ := fields
    · exact iff_of_false (not_returns rfl) Bool.false_ne_true
    · exact iff_of_false (not_returns rfl) Bool.false_ne_true
    · exact iff_of_true ⟨_, rfl⟩ rfl
    · exact iff_of_false (not_returns rfl) (by simp [isPair])
  | _ => exact iff_of_false (not_returns rfl) Bool.false_ne_true

/-- `dict(…)` returns where every element is a pair, whatever was read before it. -/
lemma addPairs_returns {items : List Json} {d : Dict} :
    Returns (items.foldlM addPair d) ↔ items.all isPair = true := by
  induction items generalizing d with
  | nil => exact iff_of_true ⟨d, rfl⟩ rfl
  | cons item items ih =>
    rw [List.foldlM_cons, List.all_cons, Bool.and_eq_true, ← @addPair_returns d]
    constructor
    case mp =>
      rintro ⟨d', h⟩
      obtain ⟨d₁, first, rest⟩ := bind_ok h
      exact ⟨⟨d₁, first⟩, ih.mp ⟨d', rest⟩⟩
    case mpr =>
      rintro ⟨⟨d₁, first⟩, rest⟩
      obtain ⟨d', h⟩ := (@ih d₁).mpr rest
      exact ⟨d', bind_ok_iff.mpr ⟨d₁, first, h⟩⟩

lemma asDict_returns {v : Json} : Returns (asDict v) ↔ dictLike v = true := by
  cases v with
  | obj fields => exact iff_of_true ⟨fields, rfl⟩ rfl
  | arr items => exact addPairs_returns
  | str s =>
    by_cases e : s = ""
    case pos => exact iff_of_true ⟨[], if_pos e⟩ (by simpa [dictLike] using e)
    case neg =>
      refine iff_of_false ?_ (by simpa [dictLike] using e)
      rintro ⟨d, h⟩
      cases (if_neg e : asDict (.str s) = _).symm.trans h
  | _ => exact iff_of_false nofun nofun

lemma actionPlan_returns {item : Dict} :
    Returns (actionPlan rt service item) ↔ dictLike ((item.get "params").orElse (.obj [])) = true := by
  rw [← asDict_returns]
  constructor
  case mp =>
    rintro ⟨action, h⟩
    obtain ⟨params, made, _⟩ := bind_ok h
    exact ⟨params, made⟩
  case mpr =>
    rintro ⟨params, made⟩
    exact ⟨_, bind_ok_iff.mpr ⟨params, made, rfl⟩⟩

/-- What comes of the text before its actions are read. -/
lemma loadPlan_cases :
    (∃ text, planText raw = some text ∧ rt.jsonTooDeep text = true) ∧ loadPlan rt raw = .error recursionError ∨
      (∀ text, planText raw = some text → rt.jsonTooDeep text = false) ∧
        ((∃ message, loadPlan rt raw = .error (reasoningFailure message)) ∨ ∃ payload, loadPlan rt raw = .ok payload) := by
  unfold loadPlan
  cases planText raw with
  | none => exact .inr ⟨nofun, .inl ⟨_, rfl⟩⟩
  | some text =>
    dsimp only
    cases deep : rt.jsonTooDeep text with
    | true => exact .inl ⟨⟨text, rfl, deep⟩, rfl⟩
    | false =>
      refine .inr ⟨?_, ?_⟩
      · rintro _ ⟨⟩
        exact deep
      · cases rt.jsonLoads text with
        | none => exact .inl ⟨_, rfl⟩
        | some payload => exact .inr ⟨payload, rfl⟩

/-- `decide` returns exactly on the texts that it can decode. -/
lemma decide_returns : Returns (BedrockIncidentResponder.decide rt retrieved service raw) ↔ Plannable rt raw := by
  unfold BedrockIncidentResponder.decide
  obtain ⟨⟨text, found, deep⟩, loaded⟩ | ⟨shallow, ⟨message, loaded⟩ | ⟨payload, loaded⟩⟩ := @loadPlan_cases rt raw
  · have parsed : parsePlan rt raw = .error recursionError := by
      unfold parsePlan
      rw [loaded]
      rfl
    rw [parsed]
    refine iff_of_false nofun ?_
    intro plannable
    cases (plannable.shallow text found).symm.trans deep
  · have parsed : parsePlan rt raw = .error (reasoningFailure message) := by
      unfold parsePlan
      rw [loaded]
      rfl
    rw [parsed]
    refine iff_of_true ⟨_, rfl⟩ ⟨shallow, ?_, ?_⟩
    · rw [loaded]
      exact nofun
    · rw [parsed]
      exact nofun
  · have object : parsePlan rt raw = asObject payload >>= planOf rt := by
      unfold parsePlan
      rw [loaded]
      rfl
    cases fields : asObject payload with
    | error e =>
      have other : e.cls ≠ .other "ReasoningFailure" := by
        cases payload <;> cases fields <;> decide
      rw [object, fields]
      refine iff_of_false (@not_returns _ _ e (if_neg other)) ?_
      intro plannable
      exact not_returns fields (plannable.object payload loaded)
    | ok fields' =>
      have objects : ∀ payload', loadPlan rt raw = .ok payload' → Returns (asObject payload') := by
        intro payload' loaded'
        cases loaded.symm.trans loaded'
        exact ⟨fields', fields⟩
      have parsed : parsePlan rt raw = planOf rt fields' := by
        rw [object, fields]
        rfl
      cases plan : planOf rt fields' with
      | error e =>
        have failure : e.cls = .other "ReasoningFailure" := by
          unfold planOf at plan
          split at plan
          case h_1 => cases plan
          case h_2 =>
            cases plan
            rfl
        rw [parsed, plan]
        refine iff_of_true ⟨_, if_pos failure⟩ ⟨shallow, objects, ?_⟩
        rw [parsed, plan]
        exact nofun
      | ok triple =>
        obtain ⟨actions, cited, reasoning⟩ := triple
        rw [parsed, plan]
        constructor
        case mp =>
          rintro ⟨response, h⟩
          obtain ⟨planned, made, _⟩ := bind_ok h
          refine ⟨shallow, objects, ?_⟩
          intro actions' cited' reasoning' same item mem
          rw [parsed, plan] at same
          cases same
          exact actionPlan_returns.mp (mapM_returns.mp ⟨planned, made⟩ item mem)
        case mpr =>
          intro plannable
          obtain ⟨planned, made⟩ := mapM_returns.mpr fun item mem =>
            (@actionPlan_returns rt service item).mpr (plannable.params actions cited reasoning (parsed.trans plan) item mem)
          exact ⟨_, bind_ok_iff.mpr ⟨planned, made, rfl⟩⟩

end decoded

/-! ## The steps -/

/-- The call of `apply_action` for a step of the plan. -/
def stepRequest (incidentId : String) (memoryId : Option String) (action : ActionPlan) : ActionRequest where
  incidentId
  actionType := action.actionType
  targetService := action.targetService
  params := action.params
  memoryRef := (memoryId.filter fun id => id ≠ "").map fun id => "memory:" ++ id

/-- `applied`, `invalid` and `outcomes`. -/
structure Tally where
  applied : Nat := 0
  invalid : Nat := 0
  outcomes : List String := []
deriving DecidableEq

/-- The loop over `decision.actions`. -/
def runActions (c : Conductor) (request : ActionPlan → ActionRequest) : List ActionPlan → Tally → Sim Tally
  | [], tally => return tally
  | action :: rest, tally => fun w =>
    match c.applyAction (request action) w with
    | (.ok result, w') =>
      let tally := { tally with
        applied := tally.applied + 1
        outcomes := tally.outcomes ++ [result.outcome] }
      if result.resolved then (.ok tally, w') else runActions c request rest tally w'
    | (.error e, w') =>
      if e.cls = .other "SimulationError" then
        runActions c request rest { tally with
          invalid := tally.invalid + 1 } w'
      else (.error e, w')

/-- `RealIncidentResult`, without the times and the tokens that are passed through. -/
structure RealIncidentResult where
  scenarioId : String
  incidentId : String
  familyId : String
  variantId : String
  resolved : Bool
  mttrSeconds : Option Int
  actionsApplied : Nat
  wrongActions : Nat
  invalidActions : Nat
  firstActionCorrect : Bool
  abstained : Bool
  escalated : Bool
  failedOrders : Nat
  failedOrderValueCents : Int
  retrievedMemoryIds : List String
  authorizedMemoryId : Option String
  invalidPlan : Bool
deriving DecidableEq

/-- The record of the incident, from the world after the loop and the number of orders before the injection. -/
def recordIncident (incident : Simulator.Incident) (retrieved : List String) (orderMark : Nat) (response : PlannedResponse)
    (tally : Tally) (w : WorldState) : RealIncidentResult :=
  let orders := (w.orders.drop orderMark).filter fun order => order.incidentId = incident.incidentId
  let mttrSeconds := (Assoc.get w.incidents incident.incidentId).bind Simulator.Incident.mttrSeconds
  { scenarioId := incident.scenarioId
    incidentId := incident.incidentId
    familyId := incident.familyId
    variantId := incident.variantId
    resolved := mttrSeconds.isSome
    mttrSeconds
    actionsApplied := tally.applied
    wrongActions := tally.outcomes.count "no_effect"
    invalidActions := tally.invalid
    firstActionCorrect := tally.outcomes.head? = some "success"
    abstained := response.abstained
    escalated := response.actions.any ActionPlan.escalates
    failedOrders := orders.length
    failedOrderValueCents := (orders.map Order.amountCents).sum
    retrievedMemoryIds := retrieved
    authorizedMemoryId := response.authorizedMemoryId
    invalidPlan := response.invalidPlan }

/-- The body of the loop of `_run_arm`, after the observation: the text of the model, and how long it took. -/
def respond (c : Conductor) (incident : Simulator.Incident) (retrieved : List String) (orderMark : Nat)
    (service raw : String) (elapsed : Int) : Sim RealIncidentResult := do
  let response ← Effect.lift (BedrockIncidentResponder.decide c.rt retrieved service raw)
  Conductor.advanceTime elapsed
  let tally ← runActions c (stepRequest incident.incidentId response.authorizedMemoryId) response.actions {}
  let w ← Effect.read
  return recordIncident incident retrieved orderMark response tally w

/-! ### The steps that are executed or refused -/

/-- The step is applied, or refused with a `SimulationError`: if the incident is open and the target is known, the
incident has a policy, the parameters can be looked up and encoded, and the calendar has room for the step. -/
def Executable (c : Conductor) (r : ActionRequest) (w : WorldState) : Prop :=
  ∀ incident, Assoc.get w.incidents r.incidentId = some incident → incident.status ≠ .resolved →
    Known w r.targetService →
    ∃ policy, c.oracleFor incident = .ok policy ∧ c.verdict w r.actionType r.params ≠ .raised ∧
      ∀ expected, Conductor.isExpected w policy incident r = .ok expected →
        c.verdict w r.actionType r.params = .accepted → HasRoom policy expected w.now

/-- What came of the steps: the result of a step that was applied, and nothing for one that was refused, which
leaves the world and the clock as they were. A step that resolves the incident is the last one. -/
inductive Plays (c : Conductor) (request : ActionPlan → ActionRequest) :
    List ActionPlan → WorldState → List (Option ActionResult) → WorldState → Prop
  | finished {w} : Plays c request [] w [] w
  | refused {action rest w e log w'} :
    c.applyAction (request action) w = (.error e, w) →
    e.cls = .other "SimulationError" →
    Plays c request rest w log w' →
    Plays c request (action :: rest) w (none :: log) w'
  | applied {action rest w result w₁ log w'} :
    c.applyAction (request action) w = (.ok result, w₁) →
    result.resolved = false →
    Plays c request rest w₁ log w' →
    Plays c request (action :: rest) w (some result :: log) w'
  | resolved {action rest w result w'} :
    c.applyAction (request action) w = (.ok result, w') →
    result.resolved = true →
    Plays c request (action :: rest) w [some result] w'

/-- A plan at work: the world, and whether the incident is resolved. -/
structure Playing where
  world : WorldState
  resolved : Bool := false

/-- A step of the plan, which is left out once the incident is resolved. -/
def playStep (c : Conductor) (request : ActionPlan → ActionRequest) (p : Playing) (action : ActionPlan) : Playing :=
  if p.resolved then p
  else
    match c.applyAction (request action) p.world with
    | (.ok result, w') => { world := w', resolved := result.resolved }
    | (.error _, w') => { world := w' }

/-- Every step that the loop comes to is executable where it stands. -/
def EachExecutable (c : Conductor) (request : ActionPlan → ActionRequest) (w : WorldState) (plan : List ActionPlan) :
    Prop :=
  Run.Each (playStep c request) (fun p action => p.resolved = false → Executable c (request action) p.world)
    { world := w } plan

section steps

variable {c : Conductor} {w w' : WorldState} {r : ActionRequest} {request : ActionPlan → ActionRequest}

/-- What is expected of an incident whose service is known can be computed. -/
lemma isExpected_returns {policy : Policy} {incident : Simulator.Incident} (known : Known w incident.service) :
    ∃ expected, Conductor.isExpected w policy incident r = .ok expected := by
  obtain ⟨service, found⟩ := known
  unfold Conductor.isExpected Conductor.matchesExpected
  split
  case h_1 => exact ⟨_, rfl⟩
  case h_2 expected _ =>
    rw [found]
    generalize (if expected.targetService = "$incident.service" then incident.service else expected.targetService) = target
    dsimp only
    split
    case isTrue => exact ⟨_, rfl⟩
    case isFalse => exact ⟨_, rfl⟩

/-- A step that the checks do not admit is refused and executable, or has an incident without a policy. -/
lemma admission_contained {e : Raised} (sound : Sound w) (refused : c.admission r w = .error e) :
    e.cls = .other "SimulationError" ∧ Executable c r w ∨ e.cls ≠ .other "SimulationError" ∧ ¬ Executable c r w := by
  cases found : Assoc.get w.incidents r.incidentId with
  | none =>
    simp only [Conductor.admission, found] at refused
    cases refused
    refine .inl ⟨rfl, ?_⟩
    intro incident found'
    cases found.symm.trans found'
  | some incident =>
    by_cases resolved : incident.status = .resolved
    case pos =>
      simp only [Conductor.admission, found, resolved] at refused
      cases refused
      refine .inl ⟨rfl, ?_⟩
      intro incident' found' unresolved
      cases found.symm.trans found'
      exact absurd resolved unresolved
    case neg =>
    cases known : Assoc.get w.services r.targetService with
    | none =>
      simp only [Conductor.admission, found, resolved, known] at refused
      cases refused
      refine .inl ⟨rfl, ?_⟩
      rintro _ _ _ ⟨service, known'⟩
      cases known.symm.trans known'
    | some service =>
    cases oracle : c.oracleFor incident with
    | error e' =>
      simp only [Conductor.admission, found, resolved, known, oracle] at refused
      cases refused
      refine .inr ⟨?_, ?_⟩
      · unfold Conductor.oracleFor at oracle
        cases family : Assoc.get c.oracle.families incident.familyId with
        | some policy =>
          rw [family] at oracle
          cases oracle
        | none =>
          rw [family] at oracle
          cases oracle
          intro simulation
          cases simulation
      · intro executable
        obtain ⟨policy, found', _⟩ := executable incident found resolved ⟨service, known⟩
        cases oracle.symm.trans found'
    | ok policy =>
      obtain ⟨expected, matched⟩ := @isExpected_returns w r policy incident (sound.services _ _ found)
      cases (admission_ok.mpr ⟨found, resolved, ⟨service, known⟩, oracle, matched⟩).symm.trans refused

/-- A step that the checks admit is executable as its verdict and the calendar say. -/
lemma executable_iff {incident : Simulator.Incident} {policy : Policy} {expected : Bool}
    (admitted : Admitted c r incident policy expected w) :
    Executable c r w ↔ c.verdict w r.actionType r.params ≠ .raised ∧
      (c.verdict w r.actionType r.params = .accepted → HasRoom policy expected w.now) := by
  constructor
  case mp =>
    intro executable
    obtain ⟨policy', oracle', usable, room⟩ := executable incident admitted.found admitted.unresolved admitted.known
    cases admitted.oracle.symm.trans oracle'
    exact ⟨usable, room expected admitted.expected⟩
  case mpr =>
    rintro ⟨usable, room⟩ incident' found' _ _
    cases admitted.found.symm.trans found'
    refine ⟨policy, admitted.oracle, usable, ?_⟩
    intro expected' matched'
    cases admitted.expected.symm.trans matched'
    exact room

/-- `apply_action` returns or raises a `SimulationError`, which changes nothing, exactly on an executable step. -/
lemma applyAction_contained (encodable : Encodable c w) (sound : Sound w) :
    Effect.Meets (· = w) (c.applyAction r) (fun _ _ => Executable c r w)
      (fun e w' => e.cls = .other "SimulationError" ∧ Executable c r w ∧ w' = w ∨
        e.cls ≠ .other "SimulationError" ∧ ¬ Executable c r w) := by
  rintro w rfl
  rw [applyAction_eq]
  cases admission : c.admission r w with
  | error e =>
    rcases admission_contained sound admission with ⟨refused, executable⟩ | stuck
    · exact .inl ⟨refused, executable, rfl⟩
    · exact .inr stuck
  | ok entry =>
    obtain ⟨incident, policy, expected⟩ := entry
    have admitted := admission_ok.mp admission
    obtain ⟨service, known⟩ := admitted.known
    have concludes := @mutateAction_verdict c w r.actionType r.targetService r.params service known encodable
    have mutates := @mutateAction_mutated c r.actionType r.targetService r.params w w rfl
    dsimp only
    rw [executable_iff admitted]
    revert concludes mutates
    generalize c.mutateAction r.actionType r.targetService r.params w = out
    generalize c.verdict w r.actionType r.params = verdict
    intro concludes mutates
    cases concludes with
    | refused => exact .inl ⟨rfl, ⟨nofun, nofun⟩, rfl⟩
    | raised other => exact .inr ⟨other, fun usable => usable.1 rfl⟩
    | @accepted w₁ carried =>
      have mutated : Mutated w w₁ := mutates
      have home : Known w₁ incident.service := known_of_rel (mutated.services _) (sound.services _ _ admitted.found)
      have outcome := @conclude_outcome c w₁ r incident policy expected (sound.mutated mutated) home w₁ rfl
      rw [← carried.now]
      dsimp only [Effect.next]
      revert outcome
      generalize c.conclude r incident policy expected w₁ = out
      obtain ⟨_ | _, w'⟩ := out
      case ok => exact fun room => ⟨nofun, fun _ => room⟩
      case error =>
        rintro ⟨overflow, late⟩
        refine .inr ⟨?_, fun usable => late.late (usable.2 rfl)⟩
        rw [overflow]
        nofun

/-- Whatever comes of an action, what the next one relies on stays. -/
lemma applyAction_keeps {w' : WorldState} {out : Except Raised ActionResult} (encodable : Encodable c w) (sound : Sound w)
    (h : c.applyAction r w = (out, w')) : Encodable c w' ∧ Sound w' := by
  have encodable' : Encodable c (c.applyAction r w).2 := @step_encodable c { world := w } (.applyAction r) encodable
  have sound' : Sound (c.applyAction r w).2 := @step_sound c { world := w } (.applyAction r) sound
  rw [h] at encodable' sound'
  exact ⟨encodable', sound'⟩

/-- Nothing is asked of the steps after the incident is resolved. -/
lemma each_resolved {plan : List ActionPlan} :
    Run.Each (playStep c request) (fun p action => p.resolved = false → Executable c (request action) p.world)
      { world := w, resolved := true } plan := by
  induction plan with
  | nil => trivial
  | cons action rest ih => exact ⟨nofun, ih⟩

lemma playStep_ok {action : ActionPlan} {result : ActionResult} (applied : c.applyAction (request action) w = (.ok result, w')) :
    playStep c request { world := w } action = { world := w', resolved := result.resolved } := by
  simp [playStep, applied]

lemma playStep_error {action : ActionPlan} {e : Raised} (raised : c.applyAction (request action) w = (.error e, w')) :
    playStep c request { world := w } action = { world := w' } := by
  simp [playStep, raised]

/-- The first step is executable, and the rest of the plan from where it leaves it. -/
lemma eachExecutable_cons {action : ActionPlan} {rest : List ActionPlan} :
    EachExecutable c request w (action :: rest) ↔ Executable c (request action) w ∧
      Run.Each (playStep c request) (fun p action => p.resolved = false → Executable c (request action) p.world)
        (playStep c request { world := w } action) rest :=
  and_congr_left fun _ => ⟨fun h => h rfl, fun h _ => h⟩

/-- The loop returns exactly if every step that it comes to is executable, and then it has counted the steps that
were applied and those that were refused. -/
lemma runActions_returns {plan : List ActionPlan} {tally : Tally} (encodable : Encodable c w) (sound : Sound w) :
    Effect.Meets (· = w) (runActions c request plan tally)
      (fun t w' => EachExecutable c request w plan ∧ ∃ log, Plays c request plan w log w' ∧
        t.applied = tally.applied + log.countP Option.isSome ∧ t.invalid = tally.invalid + log.countP Option.isNone)
      (fun _ _ => ¬ EachExecutable c request w plan) := by
  induction plan generalizing w tally with
  | nil =>
    rintro w rfl
    exact ⟨trivial, [], .finished, rfl, rfl⟩
  | cons action rest ih =>
    rintro w rfl
    have contained := @applyAction_contained c w (request action) encodable sound w rfl
    unfold runActions
    rw [eachExecutable_cons]
    cases h : c.applyAction (request action) w with
    | mk out w₁ =>
      obtain ⟨encodable', sound'⟩ := applyAction_keeps encodable sound h
      rw [h] at contained
      cases out with
      | ok result =>
        rw [playStep_ok h]
        dsimp only
        cases ended : result.resolved with
        | true => exact ⟨⟨contained, each_resolved⟩, [some result], .resolved h ended, rfl, rfl⟩
        | false =>
          have followed := @ih w₁ { tally with
            applied := tally.applied + 1
            outcomes := tally.outcomes ++ [result.outcome] } encodable' sound' w₁ rfl
          rw [if_neg Bool.false_ne_true]
          revert followed
          generalize runActions c request rest _ w₁ = out
          obtain ⟨_ | t, w'⟩ := out
          case error => exact fun stuck each => stuck each.2
          case ok =>
            rintro ⟨each, log, plays, applied, invalid⟩
            refine ⟨⟨contained, each⟩, some result :: log, .applied h ended plays, ?_, ?_⟩
            · rw [applied, List.countP_cons_of_pos rfl]
              dsimp only
              omega
            · rw [invalid, List.countP_cons_of_neg Bool.false_ne_true]
      | error e =>
        rw [playStep_error h]
        dsimp only
        rcases contained with ⟨refused, executable, rfl⟩ | ⟨other, stuck⟩
        · rw [if_pos refused]
          have followed := @ih w₁ { tally with
            invalid := tally.invalid + 1 } encodable' sound' w₁ rfl
          revert followed
          generalize runActions c request rest _ w₁ = out
          obtain ⟨_ | t, w'⟩ := out
          case error => exact fun stuck each => stuck each.2
          case ok =>
            rintro ⟨each, log, plays, applied, invalid⟩
            refine ⟨⟨executable, each⟩, none :: log, .refused h refused plays, ?_, ?_⟩
            · rw [applied, List.countP_cons_of_neg Bool.false_ne_true]
            · rw [invalid, List.countP_cons_of_pos rfl]
              dsimp only
              omega
        · rw [if_neg other]
          exact fun each => stuck each.1

end steps

/-! ## The record -/

/-- The record of an incident: the plan was decoded, or is to page a human; its steps were applied or refused one
after the other, and counted; the steps that were refused are the invalid ones. -/
structure Recorded (c : Conductor) (incident : Simulator.Incident) (retrieved : List String) (service raw : String)
    (elapsed : Int) (w : WorldState) (result : RealIncidentResult) (w' : WorldState) : Prop where
  incidentId : result.incidentId = incident.incidentId
  played : ∃ response log, BedrockIncidentResponder.decide c.rt retrieved service raw = .ok response ∧
    ((∃ e, parsePlan c.rt raw = .error e) → response.actions = [pageHuman service]) ∧
    Plays c (stepRequest incident.incidentId response.authorizedMemoryId) response.actions
      { w with now := w.now + elapsed } log w' ∧
    result.actionsApplied = log.countP Option.isSome ∧ result.invalidActions = log.countP Option.isNone

section record

variable {c : Conductor} {w : WorldState} {incident : Simulator.Incident} {retrieved : List String} {orderMark : Nat}
  {service raw : String} {elapsed : Int}

/-- An unusable plan is to page a human. -/
lemma decide_falls_back {response : PlannedResponse}
    (h : BedrockIncidentResponder.decide c.rt retrieved service raw = .ok response)
    (unusable : ∃ e, parsePlan c.rt raw = .error e) : response.actions = [pageHuman service] := by
  obtain ⟨e, parsed⟩ := unusable
  unfold BedrockIncidentResponder.decide at h
  rw [parsed] at h
  dsimp only at h
  split at h
  case isTrue =>
    cases h
    rfl
  case isFalse => cases h

/-- The time the model took passes, if the calendar has room for it. -/
lemma advanceTime_returns : Effect.Meets (· = w) (Conductor.advanceTime elapsed)
    (fun _ w' => 0 ≤ elapsed ∧ inCalendar (w.now + elapsed) = true ∧ w' = { w with now := w.now + elapsed })
    (fun _ _ => ¬ (0 ≤ elapsed ∧ inCalendar (w.now + elapsed) = true)) := by
  unfold Conductor.advanceTime
  split
  case isTrue backwards => exact Effect.Meets.raise fun _ _ forwards => absurd forwards.1 (not_le.mpr backwards)
  case isFalse forwards =>
    refine Effect.Meets.bind_returned rfl ?_
    cases inside : inCalendar (w.now + elapsed) with
    | false =>
      have late : instant (w.now + elapsed) = .error ⟨.OverflowError, "date value out of range", none, none⟩ :=
        if_neg (ne_true_of_eq_false inside)
      refine Effect.Meets.bind_raised (congrArg (fun x => (x, w)) late) ?_
      exact fun both => Bool.false_ne_true both.2
    | true =>
      have onTime : instant (w.now + elapsed) = .ok (w.now + elapsed) := if_pos inside
      refine Effect.Meets.bind_returned (congrArg (fun x => (x, w)) onTime) ?_
      rintro _ rfl
      exact ⟨not_lt.mp forwards, rfl, rfl⟩

/-- The answer is recorded exactly if the text can be decoded, the calendar has room for the time it took, and every
step that is come to is executable. -/
lemma respond_records (encodable : Encodable c w) (sound : Sound w) :
    (∃ result w', respond c incident retrieved orderMark service raw elapsed w = (.ok result, w') ∧
      Recorded c incident retrieved service raw elapsed w result w') ↔
    Plannable c.rt raw ∧ 0 ≤ elapsed ∧ inCalendar (w.now + elapsed) = true ∧
      ∀ response, BedrockIncidentResponder.decide c.rt retrieved service raw = .ok response →
        EachExecutable c (stepRequest incident.incidentId response.authorizedMemoryId)
          { w with now := w.now + elapsed } response.actions := by
  rw [← @decide_returns c.rt raw service retrieved]
  unfold respond
  rw [Effect.bind_apply]
  cases decided : BedrockIncidentResponder.decide c.rt retrieved service raw with
  | error e =>
    refine iff_of_false ?_ fun h => not_returns rfl h.1
    rintro ⟨result, w', ⟨⟩, _⟩
  | ok response =>
    have timed := @advanceTime_returns w elapsed w rfl
    show (∃ result w', Effect.next _ (Conductor.advanceTime elapsed w) = _ ∧ _) ↔ _
    revert timed
    generalize Conductor.advanceTime elapsed w = out
    obtain ⟨_ | _, w₁⟩ := out
    case error =>
      intro late
      refine iff_of_false ?_ fun h => late ⟨h.2.1, h.2.2.1⟩
      rintro ⟨result, w', ⟨⟩, _⟩
    case ok =>
      rintro ⟨forwards, inside, rfl⟩
      have sound' : Sound { w with now := w.now + elapsed } := sound.stays rfl rfl rfl fun _ known => known
      have ran := @runActions_returns c { w with now := w.now + elapsed }
        (stepRequest incident.incidentId response.authorizedMemoryId) response.actions {} encodable sound' _ rfl
      show (∃ result w', Effect.next _ (runActions _ _ _ _ _) = _ ∧ _) ↔ _
      revert ran
      generalize runActions c (stepRequest incident.incidentId response.authorizedMemoryId) response.actions {}
        { w with now := w.now + elapsed } = out
      obtain ⟨_ | tally, w'⟩ := out
      case error =>
        intro stuck
        refine iff_of_false ?_ fun h => stuck (h.2.2.2 response rfl)
        rintro ⟨result, w', ⟨⟩, _⟩
      case ok =>
        rintro ⟨each, log, plays, applied, invalid⟩
        refine iff_of_true ?_ ⟨⟨response, rfl⟩, forwards, inside, ?_⟩
        · refine ⟨_, w', rfl, rfl, response, log, decided, decide_falls_back decided, plays, ?_, ?_⟩
          · exact applied.trans (Nat.zero_add _)
          · exact invalid.trans (Nat.zero_add _)
        · rintro _ ⟨⟩
          exact each

end record

/-- In every state of a run and for every text of the model, the incident is recorded exactly if the text can be
decoded, the calendar has room for the time it took, and every step that the loop comes to is executable. -/
theorem respond_records_iff {c : Conductor} {w : WorldState} {calls : List Conductor.Call} {incident : Simulator.Incident}
    {retrieved : List String} {orderMark : Nat} {service raw : String} {elapsed : Int} (loaded : c.loadWorld = .ok w) :
    (∃ result w', respond c incident retrieved orderMark service raw elapsed
        (Run.run c.step { world := w } calls).world = (.ok result, w') ∧
      Recorded c incident retrieved service raw elapsed (Run.run c.step { world := w } calls).world result w') ↔
    Plannable c.rt raw ∧ 0 ≤ elapsed ∧
      inCalendar ((Run.run c.step { world := w } calls).world.now + elapsed) = true ∧
      ∀ response, BedrockIncidentResponder.decide c.rt retrieved service raw = .ok response →
        EachExecutable c (stepRequest incident.incidentId response.authorizedMemoryId)
          { (Run.run c.step { world := w } calls).world with
            now := (Run.run c.step { world := w } calls).world.now + elapsed } response.actions :=
  respond_records (run_encodable loaded) (run_sound loaded)

namespace Sample

/-- The text of a model that rolls the deploy back. -/
def rollbackText : String :=
  "\x7b\"actions\": [\x7b\"action_type\": \"rollback_deploy\", \"params\": \x7b\"target_version\": \"1.4.2\"\x7d\x7d]\x7d"

/-- The text of a model that gives a text for the parameters. -/
def restartText : String := "\x7b\"actions\": [\x7b\"action_type\": \"restart_service\", \"params\": \"now\"\x7d]\x7d"

/-- The two texts, decoded. -/
def plans : List (String × Json) := [
  (rollbackText, .obj [("actions", .arr [.obj [
    ("action_type", .str "rollback_deploy"), ("params", .obj [("target_version", .str "1.4.2")])]])]),
  (restartText, .obj [("actions", .arr [.obj [
    ("action_type", .str "restart_service"), ("params", .str "now")]])])]

/-- The bad deploys, and the texts of the model. -/
def advised : Conductor := { Simulator.Sample.twoDeploys with
  rt := { Runtime.sample with jsonLoads := fun text => Assoc.get plans text } }

/-- The incident that the first of them opens. -/
def firstIncident : Simulator.Incident where
  incidentId := "1:incident:f1-checkout-base"
  scenarioId := "f1-checkout-base"
  title := "Checkout 5xx regression after canary"
  service := "checkout-svc"
  severity := "SEV1"
  familyId := "F1_BAD_DEPLOY"
  variantId := "base"
  status := .open
  openedAt := 3600000000

/-- The run that opens it. -/
def opening : Simulation := Run.run advised.step { world := Simulator.Sample.start advised } [.injectNext]

/-- The step of the plan. -/
def rollbackPlan : ActionPlan where
  actionType := "rollback_deploy"
  targetService := "checkout-svc"
  params := [("target_version", .str "1.4.2")]

lemma rollback_executable : Executable advised (stepRequest firstIncident.incidentId none rollbackPlan)
    { opening.world with now := opening.world.now + 2000000 } := by
  rintro incident found _ _
  have same : Assoc.get opening.world.incidents "1:incident:f1-checkout-base" = some firstIncident := by
    decide +kernel
  cases same.symm.trans found
  refine ⟨Simulator.Sample.rollbackPolicy, rfl, by decide +kernel, ?_⟩
  intro expected matched _
  have right : Conductor.isExpected { opening.world with now := opening.world.now + 2000000 }
      Simulator.Sample.rollbackPolicy firstIncident (stepRequest firstIncident.incidentId none rollbackPlan) =
      .ok true := by decide +kernel
  cases right.symm.trans matched
  decide +kernel

end Sample

/-- `respond_records_iff` for the text that rolls the deploy back. -/
theorem respond_records_sample : ∃ result w',
    respond Sample.advised Sample.firstIncident [] 0 "checkout-svc" Sample.rollbackText 2000000 Sample.opening.world =
      (.ok result, w') ∧
    Recorded Sample.advised Sample.firstIncident [] "checkout-svc" Sample.rollbackText 2000000 Sample.opening.world
      result w' := by
  have decided : BedrockIncidentResponder.decide Sample.advised.rt [] "checkout-svc" Sample.rollbackText =
      .ok { actions := [Sample.rollbackPlan], abstained := false } := by decide +kernel
  apply (@respond_records_iff Sample.advised (Simulator.Sample.start Sample.advised) [.injectNext] _ _ _ _ _ _ rfl).mpr
  refine ⟨decide_returns.mp ⟨_, decided⟩, by decide, by decide +kernel, ?_⟩
  intro response decided'
  cases decided.symm.trans decided'
  exact eachExecutable_cons.mpr ⟨Sample.rollback_executable, trivial⟩

/-- The text with a text for the parameters raises. -/
theorem restart_text_raises : Sample.advised.loadWorld = .ok (Simulator.Sample.start Sample.advised) ∧
    ¬ ∃ result w',
      respond Sample.advised Sample.firstIncident [] 0 "checkout-svc" Sample.restartText 2000000 Sample.opening.world =
        (.ok result, w') ∧
      Recorded Sample.advised Sample.firstIncident [] "checkout-svc" Sample.restartText 2000000 Sample.opening.world
        result w' := by
  have raised : (respond Sample.advised Sample.firstIncident [] 0 "checkout-svc" Sample.restartText 2000000
      Sample.opening.world).1 = .error wrongLength := by decide +kernel
  refine ⟨rfl, ?_⟩
  rintro ⟨result, w', returned, _⟩
  rw [returned] at raised
  cases raised

end Postmortem.Evaluation
