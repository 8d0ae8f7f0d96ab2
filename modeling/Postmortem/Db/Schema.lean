import Postmortem.Data.Python
import Postmortem.Lib.Table

/-!
# Database schema

The tables of `db/migrations` that the responder and the consolidator read or write, a row of each as
a structure with the source's column names. Columns no modelled statement touches are left out.

A CHECK over an enumeration is the enumeration itself. Of the other constraints `Database.Admitted` has those that the
results about incidents, episodes, runbooks and actions use: unique keys (`0002_core_schema.sql`, `0008_…sql`), the
foreign keys between these tables and the CHECKs on counts, rates and times. Those of `semantic_facts` are
`FactsAdmitted`, and the foreign keys of services and fact provenance that results use are in `Database.Sound`.
-/

namespace Postmortem

/-- A VECTOR(1024) column, or the tuple an embedder returns. -/
abbrev Embedding := List ℚ

/-- `_vector_literal(embedding)::VECTOR(1024)`, each coordinate printed with `digits` digits. -/
def vectorLiteral (rt : Runtime) (digits : Nat) (e : Embedding) : Embedding := e.map (rt.float4 digits)

/-- `services.health` -/
inductive Health where
  | healthy | degraded | down | recovering
deriving DecidableEq

/-- A row of `services`. -/
structure Service where
  serviceId : Uuid
  orgId : Uuid
  name : String
  health : Health
  currentVersion : String
  currentDeployId : Option Uuid
  updatedAt : Timestamp
deriving DecidableEq

/-- `deploys.action` -/
inductive DeployAction where
  | deploy | rollback | scale | restart
deriving DecidableEq

/-- `deploys.status` -/
inductive DeployStatus where
  | inProgress | completed | failed | rolledBack
deriving DecidableEq

/-- A row of `deploys`. -/
structure Deploy where
  deployId : Uuid
  orgId : Uuid
  serviceId : Uuid
  version : String
  action : DeployAction
  deployedBy : String
  status : DeployStatus
  rolledBack : Bool := false
  deployedAt : Timestamp
deriving DecidableEq

/-- `incidents.status` -/
inductive IncidentStatus where
  | «open» | mitigating | resolved | closed
deriving DecidableEq

/-- The stored text of the status. -/
def IncidentStatus.text : IncidentStatus → String
  | «open» => "open"
  | mitigating => "mitigating"
  | resolved => "resolved"
  | closed => "closed"

/-- A row of `incidents`. -/
structure Incident where
  incidentId : Uuid
  orgId : Uuid
  serviceId : Uuid
  status : IncidentStatus
  runbookId : Option Uuid
  openedAt : Timestamp
  resolvedAt : Option Timestamp
  mttrSeconds : Option Int
deriving DecidableEq

/-- `episodic_events.event_type` -/
inductive EpisodeType where
  | alert | observation | toolCall | decision | action | outcome | humanMessage
deriving DecidableEq

/-- The stored text of the event type. -/
def EpisodeType.text : EpisodeType → String
  | alert => "alert"
  | observation => "observation"
  | toolCall => "tool_call"
  | decision => "decision"
  | action => "action"
  | outcome => "outcome"
  | humanMessage => "human_message"

/-- A row of `episodic_events`. -/
structure EpisodicEvent where
  eventId : Uuid
  orgId : Uuid
  agentId : Uuid
  incidentId : Option Uuid
  sessionId : Option Uuid
  serviceId : Option Uuid
  occurredAt : Timestamp
  eventType : EpisodeType
  content : Option String
  metadata : Json
  runbookId : Option Uuid
  importance : ℚ
  embedding : Option Embedding
  createdAt : Timestamp
deriving DecidableEq

/-- A row of `semantic_facts`. -/
structure SemanticFact where
  factId : Uuid
  orgId : Uuid
  agentId : Uuid
  subject : String
  predicate : String
  object : Json
  confidence : ℚ
  source : Option String
  embedding : Option Embedding
  validFrom : Timestamp
  validTo : Option Timestamp
  recordedAt : Timestamp
  supersededBy : Option Uuid
deriving DecidableEq

/-- `runbook_provenance.role` and `semantic_fact_provenance.role` -/
inductive Role where
  | source | reinforcement | counterexample
deriving DecidableEq

/-- A row of `semantic_fact_provenance`. -/
structure FactProvenance where
  orgId : Uuid
  factId : Uuid
  incidentId : Uuid
  episodicEventId : Option Uuid
  role : Role
  recordedAt : Timestamp
deriving DecidableEq

/-- `procedural_memory.status` -/
inductive RunbookStatus where
  | draft | active | deprecated
deriving DecidableEq

/-- The stored text of the status. -/
def RunbookStatus.text : RunbookStatus → String
  | draft => "draft"
  | active => "active"
  | deprecated => "deprecated"

/-- A row of `procedural_memory`. -/
structure Runbook where
  runbookId : Uuid
  orgId : Uuid
  agentId : Uuid
  name : String
  version : Nat
  status : RunbookStatus
  triggerDesc : String
  embedding : Option Embedding
  applicableServiceTags : List String
  applicableErrorSignatures : List String
  preconditions : Json
  steps : Json
  postconditions : Json
  usageCount : Nat
  successCount : Nat
  failureCount : Nat
  successRate : ℚ
  lastUsedAt : Option Timestamp
  createdBy : String
  createdAt : Timestamp
deriving DecidableEq

/-- A row of `runbook_provenance`. -/
structure RunbookProvenance where
  runbookId : Uuid
  incidentId : Uuid
  episodicEventId : Option Uuid
  role : Role
  recordedAt : Timestamp
deriving DecidableEq

/-- `remediation_actions.action_type` -/
inductive ActionType where
  | rollbackDeploy | scaleService | restartService | setConfig | failoverDependency
  | throttleTraffic | openIncident | escalate | resolve | noOpPageHuman
deriving DecidableEq

/-- The stored text of the action type. -/
def ActionType.text : ActionType → String
  | rollbackDeploy => "rollback_deploy"
  | scaleService => "scale_service"
  | restartService => "restart_service"
  | setConfig => "set_config"
  | failoverDependency => "failover_dependency"
  | throttleTraffic => "throttle_traffic"
  | openIncident => "open_incident"
  | escalate => "escalate"
  | resolve => "resolve"
  | noOpPageHuman => "no_op_page_human"

/-- `remediation_actions.outcome` -/
inductive ActionOutcome where
  | success | failed | noEffect | pending
deriving DecidableEq

/-- The stored text of the outcome. -/
def ActionOutcome.text : ActionOutcome → String
  | success => "success"
  | failed => "failed"
  | noEffect => "no_effect"
  | pending => "pending"

/-- A row of `remediation_actions`. -/
structure RemediationAction where
  actionId : Uuid
  orgId : Uuid
  incidentId : Uuid
  actionType : ActionType
  targetId : Option Uuid
  params : Json
  appliedAt : Timestamp
  appliedBy : String
  outcome : ActionOutcome
  memoryRef : Option Uuid
  transactionId : Uuid
  idempotencyKey : String
deriving DecidableEq

/-- The durable state. -/
structure Database where
  organizations : List Uuid := []
  services : List Service := []
  deploys : List Deploy := []
  incidents : List Incident := []
  episodicEvents : List EpisodicEvent := []
  semanticFacts : List SemanticFact := []
  factProvenance : List FactProvenance := []
  proceduralMemory : List Runbook := []
  runbookProvenance : List RunbookProvenance := []
  remediationActions : List RemediationAction := []
deriving DecidableEq

/-- A nullable foreign key: NULL, or the key of a row. -/
def References {α κ : Type} (key : α → κ) (t : List α) (k : Option κ) : Prop :=
  ∀ x, k = some x → ∃ r ∈ t, key r = x

section references

variable {α κ : Type} {key : α → κ} {t t' : List α}

lemma References.mono {k : Option κ} (ref : References key t k)
    (h : ∀ r ∈ t, ∃ r' ∈ t', key r' = key r) : References key t' k := by
  intro x e
  obtain ⟨r, hr, rfl⟩ := ref x e
  exact h r hr

lemma References.of_present {k : κ} (h : ∃ r ∈ t, key r = k) : References key t (some k) := by
  rintro _ ⟨⟩
  exact h

/-- What refers to the rows of a table does not name a new row. -/
lemma References.ne {k : Option κ} {x : κ} (ref : References key t k) (fresh : ∀ r ∈ t, key r ≠ x) : k ≠ some x := by
  intro e
  obtain ⟨r, hr, named⟩ := ref x e
  exact fresh r hr named

lemma present_mono {k : κ} (h : ∃ r ∈ t, key r = k) (keys : ∀ r ∈ t, ∃ r' ∈ t', key r' = key r) :
    ∃ r' ∈ t', key r' = k := by
  obtain ⟨r, hr, rfl⟩ := h
  exact keys r hr

lemma key_update {p : α → Bool} {f} (h : ∀ r, key (f r) = key r) :
    ∀ r ∈ t, ∃ r' ∈ Table.update p f t, key r' = key r := by
  intro r hr
  cases hp : p r
  · exact ⟨r, Table.mem_update_of_not hr hp, rfl⟩
  · exact ⟨f r, Table.mem_update_of_pos hr hp, h r⟩

lemma key_append {l : List α} : ∀ r ∈ t, ∃ r' ∈ t ++ l, key r' = key r :=
  fun r hr => ⟨r, List.mem_append_left _ hr, rfl⟩

end references

/-- The unique keys of all tables but fact provenance, the foreign keys between incidents, episodes, runbooks, their
provenance and actions, and the CHECKs on their counts, rates and times. -/
structure Database.Admitted (db : Database) : Prop where
  services : Table.Unique Service.serviceId db.services
  deploys : Table.Unique Deploy.deployId db.deploys
  incidents : Table.Unique Incident.incidentId db.incidents
  episodicEvents : Table.Unique EpisodicEvent.eventId db.episodicEvents
  semanticFacts : Table.Unique SemanticFact.factId db.semanticFacts
  runbooks : Table.Unique Runbook.runbookId db.proceduralMemory
  versions : Table.Unique (fun r : Runbook => (r.orgId, r.agentId, r.name, r.version))
    db.proceduralMemory
  provenance : Table.Unique (fun r : RunbookProvenance => (r.runbookId, r.incidentId, r.recordedAt))
    db.runbookProvenance
  actions : Table.Unique RemediationAction.actionId db.remediationActions
  idempotency : Table.Unique (fun a : RemediationAction => (a.orgId, a.idempotencyKey))
    db.remediationActions
  incidentRunbook : ∀ i ∈ db.incidents, References Runbook.runbookId db.proceduralMemory i.runbookId
  episodeRunbook : ∀ e ∈ db.episodicEvents,
    References Runbook.runbookId db.proceduralMemory e.runbookId
  episodeIncident : ∀ e ∈ db.episodicEvents, References Incident.incidentId db.incidents e.incidentId
  memoryRef : ∀ a ∈ db.remediationActions,
    References EpisodicEvent.eventId db.episodicEvents a.memoryRef
  actionIncident : ∀ a ∈ db.remediationActions, ∃ i ∈ db.incidents, i.incidentId = a.incidentId
  provenanceRunbook : ∀ p ∈ db.runbookProvenance, ∃ r ∈ db.proceduralMemory,
    r.runbookId = p.runbookId
  provenanceIncident : ∀ p ∈ db.runbookProvenance, ∃ i ∈ db.incidents, i.incidentId = p.incidentId
  provenanceEpisode : ∀ p ∈ db.runbookProvenance,
    References EpisodicEvent.eventId db.episodicEvents p.episodicEventId
  counts : ∀ r ∈ db.proceduralMemory, r.successCount + r.failureCount ≤ r.usageCount
  rate : ∀ r ∈ db.proceduralMemory, 0 ≤ r.successRate ∧ r.successRate ≤ 1
  version : ∀ r ∈ db.proceduralMemory, 0 < r.version
  timeOrder : ∀ i ∈ db.incidents, ∀ t, i.resolvedAt = some t → i.openedAt ≤ t

namespace Database

lemma Admitted.empty : Admitted {} := by
  constructor <;> simp [Table.Unique]

end Database

end Postmortem
