import Postmortem.Backend.Domain

/-!
# The action gates

`guardrails/allowlist.py` and `guardrails/provenance.py`: the tool allowlist, the gate on actions of
high blast radius, and the citation check a command passes before it reaches the database.
-/

namespace Postmortem

/-- `ALLOWED_TOOLS` -/
def allowedTools : List String := [
  "recall_memory", "get_operational_state", "remediate_and_record", "record_episode",
  "update_incident_state", "scale_data_tier", "propose_action", "escalate", "ask_human"]

/-- `DECISION_TOOL` -/
def decisionTool : DecisionKind → String
  | .remediate => "remediate_and_record"
  | .propose => "propose_action"
  | .askHuman => "ask_human"
  | .escalate => "escalate"

/-- `CRITICAL_SERVICE_TAGS` -/
def criticalServiceTags : List String := ["checkout", "payments", "payment", "billing", "invoicing"]

/-- `enforce_tool_allowlist` -/
def enforceToolAllowlist (tool : String) : Except Raised String :=
  if tool ∈ allowedTools then .ok tool
  else
    let sorted := allowedTools.insertionSort (fun a b => a ≤ b)
    .error ⟨.ToolNotAllowed, "Tool '" ++ tool ++ "' is not on the remediation allowlist (" ++
      ", ".intercalate sorted ++ ").", none, none⟩

/-- `resolve_decision_tool` -/
def resolveDecisionTool (kind : DecisionKind) : Except Raised String :=
  enforceToolAllowlist (decisionTool kind)

/-- `is_critical_tier_service` -/
def isCriticalTierService (rt : Runtime) (serviceTags : List String) : Bool :=
  serviceTags.any fun tag => criticalServiceTags.contains (rt.lower (Python.strip tag))

/-- `is_high_blast_radius` -/
def isHighBlastRadius (rt : Runtime) (c : RemediationCommand) (serviceTags : List String) : Bool :=
  let criticalTierDestructive :=
    (c.action = .rollback ∨ c.action = .restart) ∧ isCriticalTierService rt serviceTags
  (c.action = .scale ∨ c.action = .featureFlag) ∨ criticalTierDestructive ∨ c.requiresHumanApproval

/-- `ApprovalRecord` -/
structure ApprovalRecord where
  tool : String
  action : String
  highBlastRadius : Bool
  approved : Bool
  approver : Option String
  reason : String
  decidedAt : Timestamp
deriving DecidableEq

/-- `ApprovalRecord.to_dict` -/
def ApprovalRecord.toDict (rt : Runtime) (r : ApprovalRecord) : Dict := [
  ("tool", .str r.tool),
  ("action", .str r.action),
  ("high_blast_radius", .bool r.highBlastRadius),
  ("approved", .bool r.approved),
  ("approver", Json.ofText? r.approver),
  ("reason", .str r.reason),
  ("decided_at", .str (rt.isoformat r.decidedAt))]

/-- The name of the approver, where it is not blank. -/
def namedApprover (approver : Option String) : Option String :=
  match approver with
  | none => none
  | some name => if Python.strip name = "" then none else some (Python.strip name)

/-- `authorize_action`, at the time `now`. -/
def authorizeAction (rt : Runtime) (now : Timestamp) (c : RemediationCommand) (humanApproved : Bool)
    (approver : Option String) (serviceTags : List String) : Except Raised ApprovalRecord := do
  let tool ← enforceToolAllowlist "remediate_and_record"
  if isHighBlastRadius rt c serviceTags = false then
    return {
      tool
      action := c.action.value
      highBlastRadius := false
      approved := true
      approver
      reason := "Reversible, single-target, auto-approved action."
      decidedAt := now }
  if humanApproved = false then
    throw ⟨.DestructiveActionBlocked, "Action '" ++ c.action.value ++ "' is high blast radius and " ++
      "requires explicit human approval before execution (R5).", none, none⟩
  match namedApprover approver with
  | none =>
    throw ⟨.DestructiveActionBlocked, "Approval of high-blast-radius action '" ++ c.action.value ++
      "' must name the approving human; anonymous approval is refused (R5, R10).", none, none⟩
  | some name =>
    return {
      tool
      action := c.action.value
      highBlastRadius := true
      approved := true
      approver := some name
      reason := "High-blast-radius action approved by a named human."
      decidedAt := now }

/-- `require_grounded_action`, with the identifiers recalled this turn. -/
def requireGroundedAction (c : RemediationCommand) (recalledIds : List Uuid) : Except Raised Unit :=
  if c.citedMemoryId = Uuid.nil then
    .error ⟨.ProvenanceError, "Ungrounded action refused: no cited memory/runbook id (R4).", none, none⟩
  else if c.citedMemoryId ∉ recalledIds then
    .error ⟨.ProvenanceError, "Cited memory " ++ c.citedMemoryId.text ++ " was not among the recalled " ++
      "ids this turn; the citation does not resolve to retrieved memory (R4).", none, none⟩
  else .ok ()

/-- A command that passes is authorized by a named human, or needs no approval. -/
lemma authorizeAction_ok {rt now c humanApproved approver tags record}
    (h : authorizeAction rt now c humanApproved approver tags = .ok record) :
    isHighBlastRadius rt c tags = true →
      humanApproved = true ∧ ∃ name, approver = some name ∧ Python.strip name ≠ "" := by
  intro blast
  obtain ⟨tool, _, h⟩ := bind_ok h
  rw [if_neg (by simp [blast])] at h
  cases humanApproved with
  | false => cases h
  | true =>
    refine ⟨rfl, ?_⟩
    cases approver with
    | none => cases h
    | some name =>
      refine ⟨name, rfl, ?_⟩
      intro blank
      simp only [namedApprover, blank, if_true] at h
      cases h

lemma requireGroundedAction_ok {c ids} (h : requireGroundedAction c ids = .ok ()) :
    c.citedMemoryId ≠ Uuid.nil ∧ c.citedMemoryId ∈ ids := by
  unfold requireGroundedAction at h
  split at h
  case isTrue => cases h
  case isFalse named =>
    split at h
    case isTrue => cases h
    case isFalse known => exact ⟨named, not_not.mp known⟩

end Postmortem
