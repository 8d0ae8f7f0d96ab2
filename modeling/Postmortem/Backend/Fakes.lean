import Postmortem.System
import Postmortem.Lib.Assoc

/-!
# The fake store

`FakeAtomicRemediationStore` of `adapters/fakes.py`. A call reads and writes a copy of the tables
(`stageRemediation`, `stageOutcome`) and puts it in place where nothing raised, so a failure leaves the tables as they
were, except for what `auto_seed` adds before the copy is made (`call_atomic_iff`). The identifiers and the time of a
call are the argument `Generated`.
-/

namespace Postmortem

/-- A value of `services`. -/
structure FakeService where
  orgId : Uuid
  status : String := "degraded"
  currentDeployId : Option Uuid := none
deriving DecidableEq

/-- A value of `incidents`. -/
structure FakeIncident where
  orgId : Uuid
  serviceId : Uuid
  status : String := "open"
  runbookId : Option Uuid := none
  resolvedAt : Option Timestamp := none
deriving DecidableEq

/-- A value of `deploys`. -/
structure FakeDeploy where
  orgId : Uuid
  serviceId : Uuid
  version : String
  action : String
  deployedBy : String
  status : String := "completed"
deriving DecidableEq

/-- A value of `episodes`; an action has no times, an outcome no session. -/
structure FakeEpisode where
  orgId : Uuid
  agentId : Uuid
  incidentId : Uuid
  sessionId : Option Uuid := none
  serviceId : Uuid
  eventType : String
  content : String
  metadata : Dict
  runbookId : Option Uuid
  importance : ℚ
  embedding : Embedding
  occurredAt : Option Timestamp := none
  createdAt : Option Timestamp := none
deriving DecidableEq

/-- A value of `remediation_actions`. -/
structure FakeAction where
  orgId : Uuid
  incidentId : Uuid
  actionType : String
  targetId : Uuid
  params : Dict
  appliedBy : String
  outcome : String
  memoryRef : Uuid
  transactionId : Uuid
  idempotencyKey : String
deriving DecidableEq

/-- What `snapshot` copies. -/
structure FakeTables where
  services : List (Uuid × FakeService) := []
  incidents : List (Uuid × FakeIncident) := []
  deploys : List (Uuid × FakeDeploy) := []
  episodes : List (Uuid × FakeEpisode) := []
  remediationActions : List (Uuid × FakeAction) := []
  runbookUsage : List (Uuid × Nat) := []
deriving DecidableEq

/-- `FakeAtomicRemediationStore` -/
structure FakeStore where
  tables : FakeTables := {}
  provenance : List Uuid := []
  failAt : Option String := none
  autoSeed : Bool := false
  commitCount : Nat := 0
  rollbackCount : Nat := 0
  outcomeCommitCount : Nat := 0
  outcomeRollbackCount : Nat := 0
deriving DecidableEq

namespace FakeStore

/-- `self.provenance.add(memory)` -/
def addProvenance (provenance : List Uuid) (memory : Uuid) : List Uuid :=
  if memory ∈ provenance then provenance else provenance ++ [memory]

/-- `seed` -/
def seed (serviceId incidentId citedMemoryId orgId : Uuid) (s : FakeStore) : FakeStore :=
  { s with
    tables := { s.tables with
      services := Assoc.set s.tables.services serviceId { orgId }
      incidents := Assoc.set s.tables.incidents incidentId { orgId, serviceId } }
    provenance := addProvenance s.provenance citedMemoryId }

/-- What `auto_seed` adds for a command. -/
def seedMissing (c : RemediationCommand) (s : FakeStore) : FakeStore :=
  { s with
    tables := { s.tables with
      services := Assoc.setDefault s.tables.services c.serviceId { orgId := c.orgId }
      incidents :=
        Assoc.setDefault s.tables.incidents c.incidentId { orgId := c.orgId, serviceId := c.serviceId } }
    provenance := addProvenance s.provenance c.citedMemoryId }

/-- `_validate` -/
def validate (c : RemediationCommand) (embedding : Embedding) : Except Raised Unit :=
  if c.action ∉ supportedActions then
    .error ⟨.UnsupportedAction, c.action.value ++ " is not implemented in Phase 1.", none, none⟩
  else if c.requiresHumanApproval && !c.approved then
    .error ⟨.ApprovalRequired, "This remediation requires explicit SRE approval.", none, none⟩
  else if embedding.length ≠ 1024 then
    .error ⟨.AtomicRemediationError, "Episodic embedding must have exactly 1024 dimensions.", none, none⟩
  else .ok ()

/-- An injected failure. -/
def failIf (failAt : Option String) (point : String) (e : Raised) : Except Raised Unit :=
  if failAt = some point then .error e else .ok ()

section remediation

variable (c : RemediationCommand) (g : Generated)

/-- The service of a command, in its organization. -/
def targetService (t : FakeTables) : Except Raised FakeService :=
  match Assoc.get t.services c.serviceId with
  | some service =>
    if service.orgId ≠ c.orgId then
      .error ⟨.AtomicRemediationError, "Target service is absent or outside the org scope.", none, none⟩
    else .ok service
  | none => .error ⟨.AtomicRemediationError, "Target service is absent or outside the org scope.", none, none⟩

/-- The incident of a command, of its organization and service. -/
def targetIncident (t : FakeTables) : Except Raised FakeIncident :=
  match Assoc.get t.incidents c.incidentId with
  | some incident =>
    if incident.orgId ≠ c.orgId ∨ incident.serviceId ≠ c.serviceId then
      .error ⟨.AtomicRemediationError, "Target incident is absent or does not match the service.", none, none⟩
    else .ok incident
  | none => .error ⟨.AtomicRemediationError, "Target incident is absent or does not match the service.", none, none⟩

/-- The deploy, and the service and incident it changes. -/
def writeOperation (service : FakeService) (incident : FakeIncident) (t : FakeTables) : FakeTables :=
  { t with
    deploys := Assoc.set t.deploys g.deployId {
      orgId := c.orgId
      serviceId := c.serviceId
      version := c.targetVersion
      action := c.action.value
      deployedBy := "agent:" ++ c.agentId.text }
    services := Assoc.set t.services c.serviceId
      { service with status := "recovering", currentDeployId := some g.deployId }
    incidents := Assoc.set t.incidents c.incidentId
      { incident with status := "mitigating", runbookId := c.runbookId } }

/-- The action episode. -/
def writeEpisode (embedding : Embedding) (t : FakeTables) : FakeTables :=
  { t with
    episodes := Assoc.set t.episodes g.eventId {
      orgId := c.orgId
      agentId := c.agentId
      incidentId := c.incidentId
      sessionId := some c.sessionId
      serviceId := c.serviceId
      eventType := "action"
      content := c.memoryText
      metadata := [
        ("deploy_id", .str g.deployId.text),
        ("cited_memory_id", .str c.citedMemoryId.text),
        ("outcome", .str c.outcomeStub)]
      runbookId := c.runbookId
      importance := 9 / 10
      embedding } }

/-- The row of `remediation_actions`. -/
def writeAction (t : FakeTables) : FakeTables :=
  { t with
    remediationActions := Assoc.set t.remediationActions g.actionId {
      orgId := c.orgId
      incidentId := c.incidentId
      actionType := if c.action = .rollback then c.action.value ++ "_deploy" else "restart_service"
      targetId := c.serviceId
      params := [("target_version", .str c.targetVersion)]
      appliedBy := "agent:" ++ c.agentId.text
      outcome := "success"
      memoryRef := g.eventId
      transactionId := g.transactionId
      idempotencyKey := c.effectiveIdempotencyKey } }

/-- The use of the runbook. -/
def writeUsage (t : FakeTables) : FakeTables :=
  match c.runbookId with
  | some runbook =>
    { t with
      runbookUsage := Assoc.set t.runbookUsage runbook ((Assoc.get t.runbookUsage runbook).getD 0 + 1) }
  | none => t

/-- The body of the `try` of `remediate_and_record`: the tables to put in place. -/
def stageRemediation (embedding : Embedding) (provenance : List Uuid) (failAt : Option String) (staged : FakeTables) :
    Except Raised FakeTables := do
  let service ← targetService c staged
  let incident ← targetIncident c staged
  if c.citedMemoryId ∉ provenance then
    throw ⟨.ProvenanceError, "Cited memory/runbook does not exist.", none, none⟩
  let staged := writeOperation c g service incident staged
  failIf failAt "after_operational_write"
    ⟨.AtomicRemediationError, "Injected failure after operational mutation.", none, none⟩
  let staged := writeEpisode c g embedding staged
  failIf failAt "during_memory_write"
    ⟨.AtomicRemediationError, "Injected failure during episodic append.", none, none⟩
  let staged := writeAction c g staged
  failIf failAt "during_audit_write"
    ⟨.AtomicRemediationError, "Injected failure during action audit append.", none, none⟩
  return writeUsage c staged

/-- `remediate_and_record` -/
def remediateAndRecord (embedding : Embedding) (s : FakeStore) : Except Raised RemediationResult × FakeStore :=
  match validate c embedding with
  | .error e => (.error e, s)
  | .ok () =>
    let s := if s.autoSeed then seedMissing c s else s
    match stageRemediation c g embedding s.provenance s.failAt s.tables with
    | .error e => (.error e, { s with rollbackCount := s.rollbackCount + 1 })
    | .ok tables =>
      (.ok {
        actionId := g.actionId
        transactionId := g.transactionId
        deployId := some g.deployId
        eventId := g.eventId
        committedAt := g.now }, { s with tables, commitCount := s.commitCount + 1 })

end remediation

section outcome

variable (c : OutcomeCommand) (g : Generated)

/-- The error where the action is not the incident's. -/
def outcomeMismatch : Raised :=
  ⟨.ProvenanceError, "Outcome action does not belong to the org, incident, and service.", none, none⟩

/-- The incident and the action of an outcome. -/
def outcomeRows (t : FakeTables) : Except Raised (FakeIncident × FakeAction) :=
  match Assoc.get t.incidents c.incidentId, Assoc.get t.remediationActions c.actionId with
  | some incident, some action =>
    if incident.orgId ≠ c.orgId ∨ incident.serviceId ≠ c.serviceId ∨ action.orgId ≠ c.orgId ∨
        action.incidentId ≠ c.incidentId ∨ action.targetId ≠ c.serviceId then
      .error outcomeMismatch
    else .ok (incident, action)
  | _, _ => .error outcomeMismatch

/-- The outcome episode already there for the action. -/
def recordedEpisode (t : FakeTables) : Option (Uuid × FakeEpisode) :=
  t.episodes.find? fun e =>
    e.2.eventType = "outcome" ∧ Dict.get e.2.metadata "action_id" = .str c.actionId.text

/-- `OutcomeKind(value)` -/
def outcomeKind : Json → Except Raised OutcomeKind
  | .str "success" => .ok .success
  | .str "failed" => .ok .failed
  | .str "no_effect" => .ok .noEffect
  | _ => .error ⟨.ValueError, "not a valid OutcomeKind", none, none⟩

/-- The result for an outcome that is on record. -/
def replayOutcome (incident : FakeIncident) (action : FakeAction) (eventId : Uuid) (event : FakeEpisode) :
    Except Raised OutcomeResult := do
  let recorded ←
    match Assoc.get event.metadata "outcome" with
    | some value => outcomeKind value
    | none => throw ⟨.KeyError, "'outcome'", none, none⟩
  if recorded ≠ c.outcome then
    throw ⟨.OutcomeConflict, "Outcome already recorded as " ++ recorded.value ++ ".", none, none⟩
  match event.createdAt with
  | none => throw ⟨.KeyError, "'created_at'", none, none⟩
  | some recordedAt =>
    return {
      actionId := c.actionId
      transactionId := action.transactionId
      eventId
      incidentId := c.incidentId
      outcome := recorded
      incidentStatus := incident.status
      recordedAt
      idempotentReplay := true }

/-- The incident after the outcome. -/
def afterOutcome (incident : FakeIncident) : FakeIncident :=
  if c.outcome = .success then { incident with status := "resolved", resolvedAt := some c.observedAt } else incident

/-- The outcome episode. -/
def outcomeEpisodeOf (embedding : Embedding) (incident : FakeIncident) (action : FakeAction) : FakeEpisode where
  orgId := c.orgId
  agentId := c.agentId
  incidentId := c.incidentId
  serviceId := c.serviceId
  eventType := "outcome"
  content := c.memoryText
  metadata := [
    ("outcome", .str c.outcome.value),
    ("action_id", .str c.actionId.text),
    ("transaction_id", .str action.transactionId.text),
    ("action_type", .str action.actionType),
    ("params", .obj action.params),
    ("service_id", .str c.serviceId.text),
    ("error_signature", Json.ofText? c.errorSignature),
    ("consolidation_ready", .bool true),
    ("source", .str "responder_outcome")]
  runbookId := incident.runbookId
  importance := 19 / 20
  embedding
  occurredAt := some c.observedAt
  createdAt := some c.observedAt

/-- The body of the `try` of `record_outcome`: the result, and the tables to put in place unless it is a
replay. -/
def stageOutcome (embedding : Embedding) (failAt : Option String) (staged : FakeTables) :
    Except Raised (OutcomeResult × Option FakeTables) := do
  let (incident, action) ← outcomeRows c staged
  match recordedEpisode c staged with
  | some (eventId, event) => return (← replayOutcome c incident action eventId event, none)
  | none =>
    let staged := { staged with
      remediationActions :=
        Assoc.set staged.remediationActions c.actionId { action with outcome := c.outcome.value } }
    failIf failAt "outcome_after_action_update"
      ⟨.OutcomeRecordingError, "Injected failure after outcome action update.", none, none⟩
    let incident := afterOutcome c incident
    let staged := { staged with
      incidents := Assoc.set staged.incidents c.incidentId incident
      episodes := Assoc.set staged.episodes g.eventId (outcomeEpisodeOf c embedding incident action) }
    failIf failAt "outcome_during_event_write"
      ⟨.OutcomeRecordingError, "Injected failure during outcome episode append.", none, none⟩
    return ({
      actionId := c.actionId
      transactionId := action.transactionId
      eventId := g.eventId
      incidentId := c.incidentId
      outcome := c.outcome
      incidentStatus := incident.status
      recordedAt := c.observedAt }, some staged)

/-- `record_outcome` -/
def recordOutcome (embedding : Embedding) (s : FakeStore) : Except Raised OutcomeResult × FakeStore :=
  if embedding.length ≠ 1024 then
    (.error ⟨.OutcomeRecordingError, "Outcome embedding must have exactly 1024 dimensions.", none, none⟩, s)
  else
    match stageOutcome c g embedding s.failAt s.tables with
    | .error e => (.error e, { s with outcomeRollbackCount := s.outcomeRollbackCount + 1 })
    | .ok (result, none) => (.ok result, s)
    | .ok (result, some staged) =>
      (.ok result, { s with
        tables := { s.tables with
          incidents := staged.incidents
          remediationActions := staged.remediationActions
          episodes := staged.episodes }
        outcomeCommitCount := s.outcomeCommitCount + 1 })

end outcome

/-! ## Atomicity -/

/-- A command of the store. -/
inductive Command where
  | remediate (c : RemediationCommand) (embedding : Embedding)
  | outcome (c : OutcomeCommand) (embedding : Embedding)

/-- A call of the store: the exception it raises, and the store after it. -/
def call (g : Generated) : Command → FakeStore → Option Raised × FakeStore
  | .remediate c embedding, s =>
    match remediateAndRecord c g embedding s with
    | (.error e, s') => (some e, s')
    | (.ok _, s') => (none, s')
  | .outcome c embedding, s =>
    match recordOutcome c g embedding s with
    | (.error e, s') => (some e, s')
    | (.ok _, s') => (none, s')

/-- If the call raises, it leaves the tables and the provenance as they were. -/
def Atomic (g : Generated) (command : Command) (s : FakeStore) : Prop :=
  ∀ e s', call g command s = (some e, s') → s'.tables = s.tables ∧ s'.provenance = s.provenance

/-- `auto_seed` adds something for the command. -/
def Seeds (c : RemediationCommand) (s : FakeStore) : Prop :=
  s.autoSeed = true ∧ (Assoc.get s.tables.services c.serviceId = none ∨
    Assoc.get s.tables.incidents c.incidentId = none ∨ c.citedMemoryId ∉ s.provenance)

/-- The points at which a remediation can be made to fail. -/
def failurePoints : List String := ["after_operational_write", "during_memory_write", "during_audit_write"]

/-- The service or the incident is there and is another's, or a failure is injected. -/
def Refused (c : RemediationCommand) (s : FakeStore) : Prop :=
  (∃ service, Assoc.get s.tables.services c.serviceId = some service ∧ service.orgId ≠ c.orgId) ∨
    (∃ incident, Assoc.get s.tables.incidents c.incidentId = some incident ∧
      (incident.orgId ≠ c.orgId ∨ incident.serviceId ≠ c.serviceId)) ∨
    ∃ point ∈ failurePoints, s.failAt = some point

/-- The command adds nothing before it is refused. -/
def SeedsNothingRefused : Command → FakeStore → Prop
  | .remediate c embedding, s => validate c embedding = .ok () → Seeds c s → ¬ Refused c s
  | .outcome _ _, _ => True

section atomic

variable {c : RemediationCommand} {g : Generated} {embedding : Embedding} {s : FakeStore}

lemma failIf_ok {failAt point e} : failIf failAt point e = .ok () ↔ failAt ≠ some point := by
  unfold failIf
  split
  case isTrue h => simp [h]
  case isFalse h => simp [h]

/-- Where the staged remediation succeeds. -/
lemma stageRemediation_returns {provenance failAt t} :
    Returns (stageRemediation c g embedding provenance failAt t) ↔
      Returns (targetService c t) ∧ Returns (targetIncident c t) ∧ c.citedMemoryId ∈ provenance ∧
        ∀ point ∈ failurePoints, failAt ≠ some point := by
  unfold stageRemediation Returns failurePoints
  simp only [List.forall_mem_cons, List.not_mem_nil, false_implies, implies_true, and_true]
  constructor
  case mp =>
    rintro ⟨t', h⟩
    obtain ⟨service, found, h⟩ := bind_ok h
    obtain ⟨incident, found', h⟩ := bind_ok h
    split at h
    case isTrue => cases h
    case isFalse cited =>
      obtain ⟨_, first, h⟩ := bind_ok h
      obtain ⟨_, second, h⟩ := bind_ok h
      obtain ⟨_, third, h⟩ := bind_ok h
      exact ⟨⟨service, found⟩, ⟨incident, found'⟩, not_not.mp cited, failIf_ok.mp first, failIf_ok.mp second,
        failIf_ok.mp third⟩
  case mpr =>
    rintro ⟨⟨service, found⟩, ⟨incident, found'⟩, cited, first, second, third⟩
    rw [found, found']
    simp only [not_not.mpr cited, if_false, failIf_ok.mpr first, failIf_ok.mpr second, failIf_ok.mpr third]
    exact ⟨_, rfl⟩

lemma targetService_seeded : Returns (targetService c (seedMissing c s).tables) ↔
    ¬ ∃ service, Assoc.get s.tables.services c.serviceId = some service ∧ service.orgId ≠ c.orgId := by
  unfold targetService seedMissing Assoc.setDefault Returns
  cases found : Assoc.get s.tables.services c.serviceId with
  | none => simp
  | some service =>
    by_cases other : service.orgId = c.orgId
    · simp [found, other]
    · simp [found, other]

lemma targetIncident_seeded : Returns (targetIncident c (seedMissing c s).tables) ↔
    ¬ ∃ incident, Assoc.get s.tables.incidents c.incidentId = some incident ∧
      (incident.orgId ≠ c.orgId ∨ incident.serviceId ≠ c.serviceId) := by
  unfold targetIncident seedMissing Assoc.setDefault Returns
  cases found : Assoc.get s.tables.incidents c.incidentId with
  | none => simp
  | some incident =>
    by_cases other : incident.orgId ≠ c.orgId ∨ incident.serviceId ≠ c.serviceId
    · simp [found, other]
    · simp [found, other]

lemma mem_addProvenance {provenance : List Uuid} {memory} : memory ∈ addProvenance provenance memory := by
  unfold addProvenance
  split
  case isTrue h => exact h
  case isFalse => exact List.mem_append_right _ (List.mem_singleton_self _)

/-- After the seeding a command is refused for what was there before it. -/
lemma stageRemediation_seeded : Returns (stageRemediation c g embedding (seedMissing c s).provenance
    (seedMissing c s).failAt (seedMissing c s).tables) ↔ ¬ Refused c s := by
  rw [stageRemediation_returns, targetService_seeded, targetIncident_seeded]
  unfold Refused
  rw [not_or, not_or]
  refine and_congr_right fun _ => and_congr_right fun _ => ?_
  constructor
  case mp =>
    rintro ⟨_, fine⟩ ⟨point, hp, injected⟩
    exact fine point hp injected
  case mpr => exact fun fine => ⟨mem_addProvenance, fun point hp injected => fine ⟨point, hp, injected⟩⟩

/-- The seeding changes the store exactly where something is missing. -/
lemma seedMissing_eq : (seedMissing c s).tables = s.tables ∧ (seedMissing c s).provenance = s.provenance ↔
    ¬ (Assoc.get s.tables.services c.serviceId = none ∨ Assoc.get s.tables.incidents c.incidentId = none ∨
      c.citedMemoryId ∉ s.provenance) := by
  constructor
  case mp =>
    rintro ⟨tables, provenance⟩ (missing | missing | missing)
    · have services := congrArg (fun t => Assoc.get t.services c.serviceId) tables
      simp [seedMissing, Assoc.setDefault, missing] at services
    · have incidents := congrArg (fun t => Assoc.get t.incidents c.incidentId) tables
      simp [seedMissing, Assoc.setDefault, missing] at incidents
    · exact missing (provenance ▸ mem_addProvenance)
  case mpr =>
    intro all
    obtain ⟨service, incident, cited⟩ := (not_or.trans (and_congr_right fun _ => not_or)).mp all
    obtain ⟨_, found⟩ := Option.ne_none_iff_exists'.mp service
    obtain ⟨_, found'⟩ := Option.ne_none_iff_exists'.mp incident
    simp only [seedMissing, Assoc.setDefault, found, found', addProvenance, if_pos (not_not.mp cited), true_and]

/-- A call of `remediate_and_record` that raises: before the seeding, or after it. -/
lemma remediate_raised {e s'} (h : call g (.remediate c embedding) s = (some e, s')) :
    s' = s ∨ validate c embedding = .ok () ∧ ∃ seeded, (seeded = if s.autoSeed then seedMissing c s else s) ∧
      ¬ Returns (stageRemediation c g embedding seeded.provenance seeded.failAt seeded.tables) ∧
      s'.tables = seeded.tables ∧ s'.provenance = seeded.provenance := by
  unfold call remediateAndRecord at h
  cases valid : validate c embedding with
  | error _ =>
    simp only [valid] at h
    cases h
    exact .inl rfl
  | ok =>
    generalize seeding : (if s.autoSeed then seedMissing c s else s) = seeded
    simp only [valid, seeding] at h
    cases staged : stageRemediation c g embedding seeded.provenance seeded.failAt seeded.tables with
    | ok tables =>
      simp only [staged] at h
      cases h
    | error e' =>
      simp only [staged] at h
      cases h
      refine .inr ⟨rfl, seeded, rfl, ?_, rfl, rfl⟩
      rw [staged]
      rintro ⟨_, ⟨⟩⟩

end atomic

/-- A call that raises leaves the tables and the provenance as they were, unless `auto_seed` adds something
for a command that is then refused. -/
theorem call_atomic_iff (g : Generated) (command : Command) (s : FakeStore) :
    Atomic g command s ↔ SeedsNothingRefused command s := by
  cases command with
  | outcome c embedding =>
    refine iff_of_true ?_ trivial
    intro e s' h
    unfold call recordOutcome at h
    by_cases size : embedding.length ≠ 1024
    case pos =>
      simp only [if_pos size] at h
      cases h
      exact ⟨rfl, rfl⟩
    case neg =>
      simp only [if_neg size] at h
      cases staged : stageOutcome c g embedding s.failAt s.tables with
      | error e' =>
        simp only [staged] at h
        cases h
        exact ⟨rfl, rfl⟩
      | ok done =>
        obtain ⟨result, tables⟩ := done
        cases tables <;> simp only [staged] at h <;> cases h
  | remediate c embedding =>
    constructor
    case mp =>
      intro atomic valid seeds refused
      obtain ⟨auto, missing⟩ := seeds
      -- the seeded store is what the call leaves
      have failed : ¬ Returns (stageRemediation c g embedding (seedMissing c s).provenance
          (seedMissing c s).failAt (seedMissing c s).tables) :=
        fun returns => stageRemediation_seeded.mp returns refused
      cases staged : stageRemediation c g embedding (seedMissing c s).provenance
          (seedMissing c s).failAt (seedMissing c s).tables with
      | ok tables => exact failed ⟨tables, staged⟩
      | error e =>
        have raised : call g (.remediate c embedding) s =
            (some e, { seedMissing c s with rollbackCount := (seedMissing c s).rollbackCount + 1 }) := by
          simp only [call, remediateAndRecord, valid, auto, if_true, staged]
        have unchanged := atomic _ _ raised
        exact seedMissing_eq.mp unchanged missing
    case mpr =>
      intro nothing e s' h
      obtain rfl | ⟨valid, seeded, rfl, failed, tables, provenance⟩ := remediate_raised h
      · exact ⟨rfl, rfl⟩
      · rw [tables, provenance]
        cases auto : s.autoSeed with
        | false => exact ⟨rfl, rfl⟩
        | true =>
          simp only [auto, if_true] at failed ⊢
          apply seedMissing_eq.mpr
          intro missing
          exact failed (stageRemediation_seeded.mpr (nothing valid ⟨auto, missing⟩))

end FakeStore

namespace Sample

/-- An empty store that seeds, with a failure injected after the operational write. -/
def seeding : FakeStore := { autoSeed := true, failAt := some "after_operational_write" }

end Sample

/-- The failed call leaves the service, the incident and the citation it seeded. -/
theorem FakeStore.seeded_by_failure :
    (FakeStore.call Sample.generated (.remediate Sample.command Sample.embedding) Sample.seeding).1 ≠ none ∧
      ¬ FakeStore.Atomic Sample.generated (.remediate Sample.command Sample.embedding) Sample.seeding := by
  have valid : FakeStore.validate Sample.command Sample.embedding = .ok () := by decide +kernel
  have result : FakeStore.call Sample.generated (.remediate Sample.command Sample.embedding) Sample.seeding =
      (some ⟨.AtomicRemediationError, "Injected failure after operational mutation.", none, none⟩,
        { FakeStore.seedMissing Sample.command Sample.seeding with
          rollbackCount := 1 }) := by
    decide +kernel
  refine ⟨by rw [result]; nofun, fun atomic => ?_⟩
  have unchanged := (atomic _ _ result).2
  cases unchanged

end Postmortem
