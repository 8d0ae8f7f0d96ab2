import Postmortem.Backend.Domain

/-!
# The reasoner's prompt and its answer

`adapters/bedrock.py`: `reasoningInput` is the value `_reasoning_input` serializes into the prompt,
and `parseDecision` reads the model's answer. The answer is untrusted, so what is read of it before a
citation is looked up stands in one guarded block (`answer`), and the remediation fields in another
(`remediationFields`).
-/

namespace Postmortem

/-- `str(uuid) if uuid else None` -/
def Json.ofUuid? (id : Option Uuid) : Json := Json.ofText? (id.map Uuid.text)

/-- One entry of `retrieved_memory`. -/
def reasoningItem (candidate : MemoryCandidate) : Dict := [
  ("memory_id", .str candidate.memoryId.text),
  ("kind", .str candidate.kind.value),
  ("content", .str candidate.content),
  ("similarity", .float candidate.similarity),
  ("success_rate", .float candidate.successRate),
  ("confidence", .float candidate.confidence),
  ("ranking_score", .float candidate.rankingScore),
  ("provenance_ids", .arr (candidate.provenanceIds.map fun id => .str id.text)),
  ("actionable", Dict.getD candidate.metadata "actionable" (.bool true)),
  ("runbook_id", Json.ofUuid? candidate.runbookId),
  ("steps", .arr candidate.steps),
  ("metadata", .obj candidate.metadata)]

/-- The entry `incident`. -/
def reasoningIncident (signal : IncidentSignal) : Dict := [
  ("incident_id", .str signal.incidentId.text),
  ("service_id", .str signal.serviceId.text),
  ("severity", .str signal.severity),
  ("summary", .str signal.summary),
  ("error_signature", Json.ofText? signal.errorSignature)]

/-- The value `_reasoning_input` passes to `json.dumps`. -/
def reasoningInput (signal : IncidentSignal) (memory : RecallBundle) : Dict := [
  ("incident", .obj (reasoningIncident signal)),
  ("retrieved_memory", .arr (memory.allCandidates.map fun candidate => .obj (reasoningItem candidate)))]

/-- `raw[raw.index("{"):raw.rindex("}") + 1]`, with the braces by their code points. -/
def braced (raw : String) : Except Raised String :=
  let chars := raw.toList
  match chars.findIdx? fun c => c.toNat == 123, chars.reverse.findIdx? fun c => c.toNat == 125 with
  | some start, some back => .ok (String.ofList ((chars.take (chars.length - back)).drop start))
  | _, _ => .error ⟨.ValueError, "substring not found", none, none⟩

/-- `payload[key]` -/
def item (payload : Dict) (key : String) : Except Raised Json :=
  match Assoc.get payload key with
  | some v => .ok v
  | none => .error ⟨.KeyError, "'" ++ key ++ "'", none, none⟩

/-- `json.loads(text)`, read as a dictionary. -/
def loadDict (rt : Runtime) (text : String) : Except Raised Dict :=
  if rt.jsonTooDeep text then
    .error ⟨.other "RecursionError", "maximum recursion depth exceeded", none, none⟩
  else
    match rt.jsonLoads text with
    | none => .error ⟨.ValueError, "Expecting value", none, none⟩
    | some (.obj payload) => .ok payload
    | some _ => .error ⟨.TypeError, "indices must be integers or slices, not str", none, none⟩

/-- `DecisionKind(value)` -/
def decisionKind (rt : Runtime) (v : Json) : Except Raised DecisionKind :=
  match DecisionKind.ofValue? v with
  | some kind => .ok kind
  | none => .error ⟨.ValueError, rt.repr v ++ " is not a valid DecisionKind", none, none⟩

/-- `ActionKind(value)` -/
def actionKind (rt : Runtime) (v : Json) : Except Raised ActionKind :=
  match ActionKind.ofValue? v with
  | some kind => .ok kind
  | none => .error ⟨.ValueError, rt.repr v ++ " is not a valid ActionKind", none, none⟩

/-- `UUID(value) if value else None`: the constructor calls `value.replace`. -/
def citedId (rt : Runtime) (v : Json) : Except Raised (Option Uuid) :=
  if v.truthy then
    match v with
    | .str s =>
      match rt.uuidOfText s with
      | some id => .ok (some id)
      | none => .error ⟨.ValueError, "badly formed hexadecimal UUID string", none, none⟩
    | _ => .error ⟨.AttributeError, "object has no attribute 'replace'", none, none⟩
  else .ok none

/-- What the first block reads of the model's text. -/
structure Answer where
  payload : Dict
  kind : DecisionKind
  confidence : Flt
  explanation : String
  citedId : Option Uuid

/-- The body of the first block. -/
def answer (rt : Runtime) (raw : String) : Except Raised Answer := do
  let payload ← loadDict rt (← braced raw)
  let kind ← decisionKind rt (← item payload "decision")
  let confidence ← Python.float rt (payload.getD "confidence" (.float 0))
  let explanation := Python.strip (Python.str rt (payload.getD "explanation" (.str "")))
  let citedId ← citedId rt (payload.get "cited_memory_id")
  return { payload, kind, confidence, explanation, citedId }

/-- The remediation fields of the model's answer. -/
structure RemediationFields where
  action : ActionKind
  targetVersion : String
  requiresHumanApproval : Bool

/-- The body of the second block. -/
def remediationFields (rt : Runtime) (payload : Dict) : Except Raised RemediationFields := do
  let action ← actionKind rt (← item payload "action")
  let targetVersion :=
    Python.strip (Python.str rt (Json.orElse (payload.get "target_version") (.str "")))
  let requiresHumanApproval := (payload.getD "requires_human_approval" (.bool false)).truthy
  return { action, targetVersion, requiresHumanApproval }

/-- A `ReasoningError`. -/
def reasoningError (message : String) : Raised := { cls := .ReasoningError, message }

/-- `except (ValueError, KeyError, TypeError, …) as exc: raise ReasoningError(message) from exc` -/
def guarded {α : Type} (message : String) : Except Raised α → Except Raised α
  | .ok a => .ok a
  | .error e =>
    if e.cls = .ValueError ∨ e.cls = .KeyError ∨ e.cls = .TypeError then
      .error (reasoningError message)
    else .error e

/-- `known[cited_id]`: the last candidate with the identifier. -/
def known? (memory : RecallBundle) (id : Option Uuid) : Option MemoryCandidate :=
  memory.allCandidates.reverse.find? fun candidate => some candidate.memoryId = id

/-- `runbook_id` of the command. -/
def citedRunbook (candidate : MemoryCandidate) : Option Uuid :=
  if candidate.kind = .procedural then some candidate.memoryId else candidate.runbookId

/-- The command of a decision that cites the candidate. -/
def citingCommand (signal : IncidentSignal) (candidate : MemoryCandidate) (a : Answer)
    (f : RemediationFields) : RemediationCommand where
  orgId := signal.orgId
  agentId := signal.agentId
  incidentId := signal.incidentId
  sessionId := signal.sessionId
  serviceId := signal.serviceId
  action := f.action
  targetVersion := f.targetVersion
  citedMemoryId := candidate.memoryId
  runbookId := citedRunbook candidate
  rationale := a.explanation
  requiresHumanApproval := f.requiresHumanApproval

/-- The part of `_parse_decision` after a citation is found. -/
def citingDecision (rt : Runtime) (signal : IncidentSignal) (a : Answer) (candidate : MemoryCandidate) :
    Except Raised AgentDecision :=
  if (Dict.getD candidate.metadata "actionable" (.bool true)).truthy = false then
    .error (reasoningError "Cited memory failed the recall provenance or confidence safety gate.")
  else do
    let f ← guarded "Reasoner returned a malformed remediation payload."
      (remediationFields rt a.payload)
    if f.action ≠ .rollback ∧ f.action ≠ .restart then
      .error (reasoningError "Reasoner selected an action outside the Phase 1 allowlist.")
    else if f.targetVersion = "" then
      .error (reasoningError "Reasoner omitted target_version for remediation.")
    else
      .ok {
        kind := a.kind
        explanation := a.explanation
        citedMemoryId := a.citedId
        command := some (citingCommand signal candidate a f)
        confidence := a.confidence }

/-- `_parse_decision` -/
def parseDecision (rt : Runtime) (raw : String) (signal : IncidentSignal) (memory : RecallBundle) :
    Except Raised AgentDecision := do
  let a ← guarded "Reasoner did not return the typed decision contract." (answer rt raw)
  if a.kind ≠ .remediate then
    .ok {
      kind := a.kind
      explanation := a.explanation
      citedMemoryId := a.citedId
      confidence := a.confidence }
  else
    match known? memory a.citedId with
    | none => .error (reasoningError "Remediation citation was absent from recalled memory.")
    | some candidate => citingDecision rt signal a candidate

lemma guarded_ok {α : Type} {message : String} {x : Except Raised α} {a : α}
    (h : guarded message x = .ok a) : x = .ok a := by
  cases x with
  | ok b => exact h
  | error e =>
    simp only [guarded] at h
    split at h
    case isTrue => cases h
    case isFalse => cases h

/-- What stands behind a remediation that was parsed. -/
structure Parsed (rt : Runtime) (raw : String) (signal : IncidentSignal) (memory : RecallBundle)
    (decision : AgentDecision) (a : Answer) (f : RemediationFields) (candidate : MemoryCandidate) : Prop where
  read : answer rt raw = .ok a
  known : known? memory a.citedId = some candidate
  actionable : (Dict.getD candidate.metadata "actionable" (.bool true)).truthy = true
  fields : remediationFields rt a.payload = .ok f
  action : f.action = .rollback ∨ f.action = .restart
  version : f.targetVersion ≠ ""
  citedMemoryId : decision.citedMemoryId = a.citedId
  command : decision.command = some (citingCommand signal candidate a f)

lemma parseDecision_parsed {rt raw signal memory decision}
    (h : parseDecision rt raw signal memory = .ok decision) (remediates : decision.kind = .remediate) :
    ∃ a f candidate, Parsed rt raw signal memory decision a f candidate := by
  obtain ⟨a, ha, h⟩ := bind_ok h
  split at h
  case isTrue other =>
    cases h
    exact absurd remediates other
  case isFalse =>
    split at h
    case h_1 => cases h
    case h_2 candidate found =>
      unfold citingDecision at h
      split at h
      case isTrue => cases h
      case isFalse actionable =>
        obtain ⟨f, hf, h⟩ := bind_ok h
        split at h
        case isTrue => cases h
        case isFalse supported =>
          split at h
          case isTrue => cases h
          case isFalse version =>
            cases h
            have action : f.action = .rollback ∨ f.action = .restart := by
              by_contra neither
              exact supported (not_or.mp neither)
            exact ⟨a, f, candidate, guarded_ok ha, found, by simpa using actionable, guarded_ok hf, action,
              version, rfl, rfl⟩

end Postmortem
