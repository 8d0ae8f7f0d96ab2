import Postmortem.Backend.Guardrails.Allowlist
import Postmortem.Backend.Guardrails.Injection
import Postmortem.Lib.Effect

/-!
# One responder turn

`ResponderService.handle` of `service.py`: perceive, recall, reason, act and record. The adapters are
`Ports`: each may return anything or raise. A turn keeps a log of the events it published and of the
calls of the remediation port, in order, and the flag `transaction_started` the handler of exceptions
reads.

`ResponderService.handle` is written stage by stage (`recallStage`, `reasonStage`, `gateStage`,
`executeStage`, `recordStage`), each with the source's payloads.
-/

namespace Postmortem

/-- What a port returns: a value of its type, or an object whose attributes cannot be read. -/
inductive Returned (α : Type) where
  | value (a : α)
  | malformed (reading : Raised)

/-- The attributes are read. -/
def Returned.get {α : Type} : Returned α → Except Raised α
  | value a => .ok a
  | malformed reading => .error reading

/-- The adapters of the service; `σ` is the state of the remediation store. -/
structure Ports (σ : Type) where
  /-- The n-th call of `embed`. -/
  embed : Nat → String → Except Raised Embedding
  «recall» : RecallQuery → Except Raised (Returned RecallBundle)
  decide : IncidentSignal → RecallBundle → Except Raised (Returned AgentDecision)
  remediateAndRecord : RemediationCommand → Embedding → σ → σ × Except Raised (Returned RemediationResult)
  /-- The exception `publish` raises, if any, after that many entries of the log. -/
  publish : Nat → AgentEvent → Option Raised
  /-- `datetime.now(UTC)` -/
  now : Timestamp

/-- An entry of the log of a turn. -/
inductive Entry where
  | published (e : AgentEvent)
  | remediated (c : RemediationCommand) (embedding : Embedding)
      (out : Except Raised (Returned RemediationResult))

/-- The state of a turn. -/
structure TurnState (σ : Type) where
  store : σ
  log : List Entry := []
  transactionStarted : Bool := false

/-- A part of a turn. -/
abbrev Turn (σ : Type) := Effect (TurnState σ) Raised

section payloads

variable (rt : Runtime)

/-- The name of a value's type. -/
def Json.typeName : Json → String
  | .null => "NoneType"
  | .bool _ => "bool"
  | .int _ => "int"
  | .float _ => "float"
  | .str _ => "str"
  | .arr _ => "list"
  | .obj _ => "dict"

/-- `components.get(key, default)` -/
def componentsGet (components : Json) (key : String) (default : Json) : Except Raised Json :=
  match components with
  | .obj fields => .ok (Dict.getD fields key default)
  | v => .error ⟨.AttributeError, "'" ++ v.typeName ++ "' object has no attribute 'get'", none, none⟩

/-- `float(components.get(key, default))` -/
def floatComponent (components : Json) (key : String) (default : Json) : Except Raised Json := do
  return .float (← Python.float rt (← componentsGet components key default))

/-- `_console_score` -/
def consoleScore (item : MemoryCandidate) : Except Raised Json := do
  let components := Dict.getD item.metadata "rank_components" (.obj [])
  let vector ← floatComponent rt components "similarity" (.float item.similarity)
  let scope ← floatComponent rt components "scope" (.float 0)
  let freshness ← floatComponent rt components "recency" (.float 0)
  let fallback ← componentsGet components "successful_outcome" (.float 0)
  let outcome ← floatComponent rt components "success_rate" fallback
  return .obj [
    ("vector", vector), ("scope", scope), ("freshness", freshness), ("outcome", outcome),
    ("composite", .float item.rankingScore)]

/-- `sum(int(value) for value in counts.values())` -/
def countTotal : Dict → Except Raised Int
  | [] => .ok 0
  | (_, v) :: counts => do
    let n ← Python.int rt v
    return n + (← countTotal counts)

/-- `_rejected_count` -/
def rejectedCount (diagnostics : Dict) : Except Raised Int :=
  match diagnostics.get "candidate_counts", diagnostics.get "eligible_counts" with
  | .obj candidates, .obj eligible => do
    let offered ← countTotal rt candidates
    let passed ← countTotal rt eligible
    return max (offered - passed) 0
  | _, _ => .ok 0

/-- `str(item.metadata.get(key, …))`, with the time of the candidate or of the signal as default. -/
def candidateTime (signal : IncidentSignal) (item : MemoryCandidate) (key : String) : Json :=
  .str (Python.str rt (Dict.getD item.metadata key
    (.str (rt.isoformat (item.occurredAt.getD signal.observedAt)))))

/-- An entry of `results`. -/
def recallResult (signal : IncidentSignal) (item : MemoryCandidate) : Except Raised Json := do
  let score ← consoleScore rt item
  let successful := Dict.get item.metadata "successful_action"
  return .obj ([
    ("memoryId", .str item.memoryId.text),
    ("memoryKind", .str item.kind.value),
    ("sourceCaseId",
      .str (Python.str rt (Dict.getD item.metadata "source_case_id" (.str signal.incidentId.text)))),
    ("summary", .str item.content),
    ("similarity", .float item.similarity),
    ("accepted", .bool true),
    ("confidence", .float item.confidence),
    ("successRate", .float item.successRate),
    ("score", score),
    ("provenance", .arr (item.provenanceIds.map fun id => .str id.text))] ++
    (match item.runbookId with
      | some id => [("runbookId", .str id.text)]
      | none => []) ++
    (if successful.truthy then [("successfulAction", .str (Python.str rt successful))] else []) ++ [
    ("scope", .obj [
      ("service", .str (item.serviceId.getD signal.serviceId).text),
      ("tenant", .str signal.orgId.text)]),
    ("validFrom", candidateTime rt signal item "valid_from"),
    ("learnedAt", candidateTime rt signal item "learned_at")])

/-- The data of `recall.completed`. -/
def recallData (signal : IncidentSignal) (memory : RecallBundle) : Except Raised Dict := do
  let rejected ← rejectedCount rt memory.diagnostics
  let results ← memory.allCandidates.mapM (recallResult rt signal)
  return [
    ("episodes", .int memory.episodes.length),
    ("facts", .int memory.facts.length),
    ("runbooks", .int memory.runbooks.length),
    ("cold_start", .bool memory.coldStart),
    ("diagnostics", .obj memory.diagnostics),
    ("provider",
      if memory.coldStart then .str "cold-start"
      else Dict.getD memory.diagnostics "provider" (.str "c-spann+mcp")),
    ("rejected_count", .int rejected),
    ("memory_ids", .arr (memory.allCandidates.map fun item => .str item.memoryId.text)),
    ("query_summary", .str signal.recallText),
    ("duration_ms", .int 0),
    ("results", .arr results)]

/-- The data of `decision.proposed`. -/
def decisionData (decision : AgentDecision) : Dict := [
  ("decision", .str decision.kind.value),
  ("confidence", .float decision.confidence),
  ("cited_memory_id", Json.ofText? (decision.citedMemoryId.map Uuid.text)),
  ("cited_runbook_id",
    Json.ofText? ((decision.command.bind RemediationCommand.runbookId).map Uuid.text))]

/-- The arguments of the tool call. -/
def actionArguments (c : RemediationCommand) : Json := .obj [
  ("action", .str c.action.value),
  ("target_version", .str c.targetVersion)]

/-- The data of `action.proposed`. -/
def actionData (c : RemediationCommand) : Dict := [
  ("action", .str c.action.value),
  ("action_id", .str c.effectiveIdempotencyKey),
  ("tool", .str "remediate_and_record"),
  ("target", .str c.serviceId.text),
  ("cited_memory_id", .str c.citedMemoryId.text),
  ("requires_approval", .bool c.requiresHumanApproval),
  ("arguments", actionArguments c)]

/-- The data of `approval.required`. -/
def approvalData (c : RemediationCommand) : Dict := [
  ("action", .str c.action.value),
  ("tool", .str "remediate_and_record"),
  ("target", .str c.serviceId.text),
  ("cited_memory_id", .str c.citedMemoryId.text),
  ("arguments", actionArguments c)]

/-- The data of `transaction.started`. -/
def startedData (c : RemediationCommand) (record : ApprovalRecord) : Dict := [
  ("action", .str c.action.value),
  ("transaction_id", .str c.incidentId.text),
  ("authorization", .obj (record.toDict rt))]

/-- The data of `transaction.committed`; `str(None)` where there is no deploy. -/
def committedData (r : RemediationResult) : Dict := [
  ("action_id", .str r.actionId.text),
  ("transaction_id", .str r.transactionId.text),
  ("deploy_id", .str ((r.deployId.map Uuid.text).getD "None")),
  ("event_id", .str r.eventId.text),
  ("committed_at", .str (rt.isoformat r.committedAt))]

/-- The data of `response.completed`. -/
def completedData (decision : AgentDecision) (remediation : Option RemediationResult) : Dict := [
  ("remediated", .bool remediation.isSome),
  ("memory_id", Json.ofText? (remediation.map fun r => r.eventId.text)),
  ("summary", .str (match remediation with
    | some _ => "Action outcome recorded atomically with operational state."
    | none => decision.explanation)),
  ("freshness_ms", .int 0),
  ("stale_reads_observed", .int 0)]

end payloads

namespace ResponderService

section turn

variable {σ : Type} (rt : Runtime) (ports : Ports σ) (signal : IncidentSignal)

/-- `_event` -/
def event (type : EventType) (stage message : String) (data : Dict := []) : Turn σ Unit := fun s =>
  let e : AgentEvent := { incidentId := signal.incidentId, type, stage, message, data }
  let s' := { s with log := s.log ++ [.published e] }
  match ports.publish s.log.length e with
  | none => (.ok (), s')
  | some raised => (.error raised, s')

/-- The call of the remediation port. -/
def callRemediation (c : RemediationCommand) (embedding : Embedding) :
    Turn σ (Returned RemediationResult) := fun s =>
  match ports.remediateAndRecord c embedding s.store with
  | (store, out) => (out, { s with store, log := s.log ++ [.remediated c embedding out] })

/-- The query of the turn. -/
def recallQuery (embedding : Embedding) : RecallQuery where
  orgId := signal.orgId
  agentId := signal.agentId
  serviceId := signal.serviceId
  text := signal.recallText
  embedding := embedding
  serviceTags := signal.serviceTags
  errorSignature := signal.errorSignature
  asOf := signal.observedAt
  coldStart := (Dict.getD signal.metadata "cold_start" (.bool false)).truthy
  currentIncidentId := some signal.incidentId

/-- Recall, up to `recall.completed`. -/
def recallStage : Turn σ RecallBundle := do
  event ports signal .recallStarted "recall" "Embedding incident signature." [
    ("query_summary", .str signal.recallText), ("duration_ms", .int 0), ("results", .arr [])]
  let embedding ← Effect.lift (ports.embed 0 signal.recallText)
  let returned ← Effect.lift (ports.recall (recallQuery signal embedding))
  let memory ← Effect.lift (returned.get.bind (guardUntrustedRecallBundle rt))
  let data ← Effect.lift (recallData rt signal memory)
  event ports signal .recallCompleted "recall" "Recalled scoped organizational memory." data
  return memory

/-- Reason, up to `decision.proposed`. -/
def reasonStage (memory : RecallBundle) : Turn σ AgentDecision := do
  event ports signal .reasoningStarted "reason" "Selecting a grounded response."
  let returned ← Effect.lift (ports.decide signal memory)
  let decision ← Effect.lift returned.get
  event ports signal .decisionProposed "reason" decision.explanation (decisionData decision)
  return decision

/-- The gates before an action, up to `approval.required` or `transaction.started`: the embedding
where the command may run. -/
def gateStage (memory : RecallBundle) (approver : Option String) (command : RemediationCommand) :
    Turn σ (Option Embedding) := do
  let tool ← Effect.lift (resolveDecisionTool .remediate)
  let _ ← Effect.lift (enforceToolAllowlist tool)
  Effect.lift (requireGroundedAction command (memory.allCandidates.map MemoryCandidate.memoryId))
  event ports signal .actionProposed "act" "Grounded remediation proposed." (actionData command)
  if command.requiresHumanApproval ∧ command.approved = false then
    event ports signal .approvalRequired "act" "Remediation is paused for explicit SRE approval."
      (approvalData command)
    return none
  else
    let record ← Effect.lift (authorizeAction rt ports.now command command.approved approver
      signal.serviceTags)
    let embedding ← Effect.lift (ports.embed 1 command.memoryText)
    event ports signal .transactionStarted "act+record"
      "Starting atomic operational action and episodic append." (startedData rt command record)
    return some embedding

/-- The atomic write, up to `transaction.committed`. -/
def executeStage (command : RemediationCommand) (embedding : Embedding) :
    Turn σ RemediationResult := do
  Effect.update fun s => { s with transactionStarted := true }
  let returned ← callRemediation ports command embedding
  let result ← Effect.lift returned.get
  event ports signal .transactionCommitted "act+record"
    "Operational action and memory committed together." (committedData rt result)
  return result

/-- Act on a decision. -/
def actStage (memory : RecallBundle) (approved : Bool) (approver : Option String)
    (decision : AgentDecision) : Turn σ (AgentDecision × Option RemediationResult) :=
  match decision.kind, decision.command with
  | .remediate, some proposed => do
    let command := { proposed with approved }
    let decision := { decision with command := some command }
    match ← gateStage rt ports signal memory approver command with
    | none => return (decision, none)
    | some embedding => return (decision, some (← executeStage rt ports signal command embedding))
  | _, _ => return (decision, none)

/-- Record the result of the turn. -/
def recordStage (decision : AgentDecision) (remediation : Option RemediationResult) :
    Turn σ ResponseResult := do
  event ports signal .responseCompleted "record" "Responder turn completed."
    (completedData decision remediation)
  return { incidentId := signal.incidentId, decision, remediation }

/-- The body of the `try` block. -/
def respond (approved : Bool) (approver : Option String) : Turn σ ResponseResult := do
  let memory ← recallStage rt ports signal
  let decision ← reasonStage ports signal memory
  let (decision, remediation) ← actStage rt ports signal memory approved approver decision
  recordStage ports signal decision remediation

/-- The event of a turn that failed. -/
def failure (started : Bool) : EventType := if started then .transactionRolledBack else .responseFailed

/-- The event the handler of exceptions publishes. -/
def failureEvent (exc : Raised) (started : Bool) : Turn σ Unit :=
  event ports signal (failure started) (if started then "act+record" else "response")
    "Responder failed safely; no partial remediation was recorded."
    [("error_type", .str exc.cls.name), ("error", .str exc.message)]

/-- The handler of exceptions. -/
def failSafely (exc : Raised) : Turn σ ResponseResult := do
  let s ← Effect.read
  failureEvent ports signal exc s.transactionStarted
  Effect.raise exc

/-- A turn on a sanitized signal. -/
def handleSanitized (approved : Bool) (approver : Option String) : Turn σ ResponseResult := do
  event ports signal .incidentReceived "perceive" ("Received " ++ signal.severity ++ " incident.") [
    ("service", .str signal.serviceId.text),
    ("service_id", .str signal.serviceId.text),
    ("severity", .str signal.severity),
    ("status", .str "open"),
    ("summary", .str signal.summary)]
  Effect.attempt (respond rt ports signal approved approver) (failSafely ports signal)

/-- `ResponderService.handle` -/
def handle (approved : Bool) (approver : Option String) : Turn σ ResponseResult := do
  let signal ← Effect.lift (sanitizeSignal rt signal)
  handleSanitized rt ports signal approved approver

/-- A turn on a signal that is accepted. -/
lemma handle_accepted {signal' approved approver s} (h : sanitizeSignal rt signal = .ok signal') :
    handle rt ports signal approved approver s =
      handleSanitized rt ports signal' approved approver s := by
  have run : handle rt ports signal approved approver s =
      Effect.next (fun signal => handleSanitized rt ports signal approved approver)
        (sanitizeSignal rt signal, s) := rfl
  rw [run, h]
  rfl

lemma handle_rejected {approved approver s e} (h : sanitizeSignal rt signal = .error e) :
    handle rt ports signal approved approver s = (.error e, s) := by
  have run : handle rt ports signal approved approver s =
      Effect.next (fun signal => handleSanitized rt ports signal approved approver)
        (sanitizeSignal rt signal, s) := rfl
  rw [run, h]
  rfl

end turn

end ResponderService

end Postmortem
