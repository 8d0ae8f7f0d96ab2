import Postmortem.Db.Schema

/-!
# Responder contracts

The records of `backend/src/postmortem_backend/domain.py` that the responder, its adapters and the
outcome service exchange. `metadata`, `diagnostics` and `data` dictionaries are `Dict`s of decoded
JSON. The identifiers and clocks of `AgentEvent` that default to fresh values are left out: nothing
modelled reads them.
-/

namespace Postmortem

/-- `MemoryKind` -/
inductive MemoryKind where
  | episodic | semantic | procedural
deriving DecidableEq

/-- `MemoryKind.value` -/
def MemoryKind.value : MemoryKind → String
  | episodic => "episodic"
  | semantic => "semantic"
  | procedural => "procedural"

/-- `ActionKind` -/
inductive ActionKind where
  | rollback | restart | scale | featureFlag
deriving DecidableEq

/-- `ActionKind.value` -/
def ActionKind.value : ActionKind → String
  | rollback => "rollback"
  | restart => "restart"
  | scale => "scale"
  | featureFlag => "feature_flag"

/-- `ActionKind(value)` -/
def ActionKind.ofValue? : Json → Option ActionKind
  | .str "rollback" => some .rollback
  | .str "restart" => some .restart
  | .str "scale" => some .scale
  | .str "feature_flag" => some .featureFlag
  | _ => none

/-- `DecisionKind` -/
inductive DecisionKind where
  | remediate | propose | askHuman | escalate
deriving DecidableEq

/-- `DecisionKind.value` -/
def DecisionKind.value : DecisionKind → String
  | remediate => "remediate_and_record"
  | propose => "propose_action"
  | askHuman => "ask_human"
  | escalate => "escalate"

/-- `DecisionKind(value)` -/
def DecisionKind.ofValue? : Json → Option DecisionKind
  | .str "remediate_and_record" => some .remediate
  | .str "propose_action" => some .propose
  | .str "ask_human" => some .askHuman
  | .str "escalate" => some .escalate
  | _ => none

/-- `OutcomeKind` -/
inductive OutcomeKind where
  | success | failed | noEffect
deriving DecidableEq

/-- `OutcomeKind.value` -/
def OutcomeKind.value : OutcomeKind → String
  | success => "success"
  | failed => "failed"
  | noEffect => "no_effect"

/-- The outcome as the column `remediation_actions.outcome` stores it. -/
def OutcomeKind.stored : OutcomeKind → ActionOutcome
  | success => .success
  | failed => .failed
  | noEffect => .noEffect

@[simp] lemma OutcomeKind.stored_text {o : OutcomeKind} : o.stored.text = o.value := by
  cases o <;> rfl

/-- `EventType` -/
inductive EventType where
  | incidentReceived | recallStarted | recallCompleted | reasoningStarted | decisionProposed
  | actionProposed | approvalRequired | transactionStarted | transactionCommitted
  | transactionRolledBack | outcomeRecorded | responseCompleted | responseFailed
deriving DecidableEq

/-- `IncidentSignal` -/
structure IncidentSignal where
  incidentId : Uuid
  sessionId : Uuid
  orgId : Uuid
  agentId : Uuid
  serviceId : Uuid
  severity : String
  summary : String
  errorSignature : Option String := none
  serviceTags : List String := []
  observedAt : Timestamp
  metadata : Dict := []
deriving DecidableEq

/-- The sentence that names an error signature, empty where there is none. -/
def signatureText : Option String → String
  | some s => if s = "" then "" else " Error signature: " ++ s ++ "."
  | none => ""

/-- `IncidentSignal.recall_text` -/
def IncidentSignal.recallText (signal : IncidentSignal) : String :=
  let tags :=
    if signal.serviceTags.isEmpty then ""
    else " Service tags: " ++ ", ".intercalate signal.serviceTags ++ "."
  signal.severity ++ " incident affecting service " ++ signal.serviceId.text ++ ". " ++
    signal.summary ++ "." ++ signatureText signal.errorSignature ++ tags

/-- `RecallQuery` -/
structure RecallQuery where
  orgId : Uuid
  agentId : Uuid
  serviceId : Uuid
  text : String
  embedding : Embedding
  k : Int := 8
  serviceTags : List String := []
  errorSignature : Option String := none
  asOf : Timestamp
  coldStart : Bool := false
  currentIncidentId : Option Uuid := none
deriving DecidableEq

/-- `MemoryCandidate` -/
structure MemoryCandidate where
  memoryId : Uuid
  kind : MemoryKind
  content : String
  similarity : Flt
  successRate : Flt := 0
  occurredAt : Option Timestamp := none
  serviceId : Option Uuid := none
  runbookId : Option Uuid := none
  steps : List Json := []
  metadata : Dict := []
  orgId : Option Uuid := none
  agentId : Option Uuid := none
  confidence : Flt := 0
  validFrom : Option Timestamp := none
  validTo : Option Timestamp := none
  recordedAt : Option Timestamp := none
  provenanceIds : List Uuid := []
  rankingScore : Flt := 0
deriving DecidableEq

/-- `RecallBundle` -/
structure RecallBundle where
  episodes : List MemoryCandidate := []
  facts : List MemoryCandidate := []
  runbooks : List MemoryCandidate := []
  coldStart : Bool := false
  diagnostics : Dict := []
deriving DecidableEq

/-- `RecallBundle.all_candidates` -/
def RecallBundle.allCandidates (b : RecallBundle) : List MemoryCandidate :=
  b.episodes ++ b.facts ++ b.runbooks

/-- `RemediationCommand` -/
structure RemediationCommand where
  orgId : Uuid
  agentId : Uuid
  incidentId : Uuid
  sessionId : Uuid
  serviceId : Uuid
  action : ActionKind
  targetVersion : String
  citedMemoryId : Uuid
  runbookId : Option Uuid
  rationale : String
  outcomeStub : String := "remediation_started"
  requiresHumanApproval : Bool := false
  approved : Bool := false
  idempotencyKey : Option String := none
deriving DecidableEq

/-- `RemediationCommand.memory_text` -/
def RemediationCommand.memoryText (c : RemediationCommand) : String :=
  c.action.value ++ " service " ++ c.serviceId.text ++ " to " ++ c.targetVersion ++ "; reason: " ++
    c.rationale ++ "; expected outcome: " ++ c.outcomeStub

/-- `RemediationCommand.effective_idempotency_key` -/
def RemediationCommand.effectiveIdempotencyKey (c : RemediationCommand) : String :=
  let derived := c.incidentId.text ++ ":" ++ c.action.value ++ ":" ++ c.serviceId.text ++ ":" ++
    c.targetVersion ++ ":" ++ c.citedMemoryId.text
  match c.idempotencyKey with
  | some key => if key = "" then derived else key
  | none => derived

/-- `AgentDecision` -/
structure AgentDecision where
  kind : DecisionKind
  explanation : String
  citedMemoryId : Option Uuid := none
  command : Option RemediationCommand := none
  confidence : Flt := 0
deriving DecidableEq

/-- `RemediationResult` -/
structure RemediationResult where
  actionId : Uuid
  transactionId : Uuid
  eventId : Uuid
  deployId : Option Uuid
  committedAt : Timestamp
  incidentStatus : String := "mitigating"
  serviceStatus : String := "recovering"
deriving DecidableEq

/-- `OutcomeCommand` -/
structure OutcomeCommand where
  orgId : Uuid
  agentId : Uuid
  incidentId : Uuid
  serviceId : Uuid
  actionId : Uuid
  outcome : OutcomeKind
  summary : String
  errorSignature : Option String := none
  observedAt : Timestamp
deriving DecidableEq

/-- `OutcomeCommand.memory_text` -/
def OutcomeCommand.memoryText (c : OutcomeCommand) : String :=
  "Remediation action " ++ c.actionId.text ++ " for service " ++ c.serviceId.text ++
    " finished with outcome " ++ c.outcome.value ++ ". " ++ c.summary ++ "." ++
    signatureText c.errorSignature

/-- `OutcomeResult` -/
structure OutcomeResult where
  actionId : Uuid
  transactionId : Uuid
  eventId : Uuid
  incidentId : Uuid
  outcome : OutcomeKind
  incidentStatus : String
  recordedAt : Timestamp
  idempotentReplay : Bool := false
deriving DecidableEq

/-- `ResponseResult` -/
structure ResponseResult where
  incidentId : Uuid
  decision : AgentDecision
  remediation : Option RemediationResult := none
deriving DecidableEq

/-- `AgentEvent` -/
structure AgentEvent where
  incidentId : Uuid
  type : EventType
  stage : String
  message : String
  data : Dict := []
deriving DecidableEq

end Postmortem
