import Postmortem.Backend.Domain
import Postmortem.Lib.Retry

/-!
# The remediation transaction

`adapters/cockroach.py`. `remediateAndRecordSql` is `REMEDIATE_AND_RECORD_SQL`: three gates read the
state (`Provenance`, `Target`, `RunbookGate`), and where all of them pass the statement writes the
deploy, the service, the incident, the episode, the action and the runbook's usage at once. The values
the database generates (identifiers, `now()`) are the argument `Generated`.

`CockroachAtomicRemediationStore.remediateAndRecord` is the retry loop around it. What becomes of each
attempt's transaction is decided outside the program, by `RemediationEnv`: it aborts, or it commits
and the client hears of it, or it commits and the acknowledgement is lost.

`remediateAndRecordSql_spec` says all a statement can do, `executeOnce_spec` all an attempt can do and
`Ended` how a call ends; later modules use these and do not unfold the definitions.
-/

namespace Postmortem

/-- The values CockroachDB generates while it executes the statement. -/
structure Generated where
  now : Timestamp
  deployId : Uuid
  eventId : Uuid
  actionId : Uuid
  transactionId : Uuid
deriving DecidableEq

/-- The parameters of `REMEDIATE_AND_RECORD_SQL`. -/
structure RemediationParams where
  orgId : Uuid
  agentId : Uuid
  incidentId : Uuid
  sessionId : Uuid
  serviceId : Uuid
  action : ActionKind
  actionType : ActionType
  targetVersion : String
  deployedBy : String
  citedMemoryId : Uuid
  runbookId : Option Uuid
  content : String
  outcome : String
  idempotencyKey : String
  embedding : Embedding
deriving DecidableEq

/-- The row `REMEDIATE_AND_RECORD_SQL` returns. -/
structure RemediationRow where
  deployId : Uuid
  eventId : Uuid
  actionId : Uuid
  transactionId : Uuid
  appliedAt : Timestamp
deriving DecidableEq

section sql

variable (p : RemediationParams) (g : Generated) (db : Database)

/-- The CTE `provenance`: the cited memory is an episode or a runbook of the organization. -/
def Provenance : Prop :=
  (∃ e ∈ db.episodicEvents, e.orgId = p.orgId ∧ e.eventId = p.citedMemoryId) ∨
    ∃ r ∈ db.proceduralMemory, r.orgId = p.orgId ∧ r.runbookId = p.citedMemoryId

/-- The CTE `target`: the incident is open or mitigating and matches the organization and service. -/
def Target : Prop :=
  ∃ i ∈ db.incidents, i.orgId = p.orgId ∧ i.incidentId = p.incidentId ∧ i.serviceId = p.serviceId ∧
    (i.status = .open ∨ i.status = .mitigating) ∧
    ∃ s ∈ db.services, s.serviceId = i.serviceId ∧ s.orgId = i.orgId

/-- The CTE `runbook_gate`: no runbook is cited, or an active one of the organization. -/
def RunbookGate : Prop :=
  p.runbookId = none ∨
    ∃ r ∈ db.proceduralMemory, r.orgId = p.orgId ∧ p.runbookId = some r.runbookId ∧
      r.status = .active

/-- `FROM target CROSS JOIN provenance CROSS JOIN runbook_gate` has a row. -/
def Gates : Prop := Target p db ∧ Provenance p db ∧ RunbookGate p db

instance : Decidable (Provenance p db) := inferInstanceAs (Decidable (_ ∨ _))
instance : Decidable (Target p db) := inferInstanceAs (Decidable (∃ i ∈ db.incidents, _))
instance : Decidable (RunbookGate p db) := inferInstanceAs (Decidable (_ ∨ _))
instance : Decidable (Gates p db) := inferInstanceAs (Decidable (_ ∧ _ ∧ _))

/-- `remediation_idempotency_key`: an action of the organization already has the key. -/
def KeyTaken : Prop :=
  ∃ a ∈ db.remediationActions, a.orgId = p.orgId ∧ a.idempotencyKey = p.idempotencyKey

/-- A generated identifier is already in use. -/
def Collides : Prop :=
  (∃ d ∈ db.deploys, d.deployId = g.deployId) ∨
    (∃ e ∈ db.episodicEvents, e.eventId = g.eventId) ∨
    ∃ a ∈ db.remediationActions, a.actionId = g.actionId

instance : Decidable (KeyTaken p db) :=
  inferInstanceAs (Decidable (∃ a ∈ db.remediationActions, _))
instance : Decidable (Collides g db) := inferInstanceAs (Decidable (_ ∨ _ ∨ _))

/-- The CHECK on `deploys.action`. -/
def deployAction? : ActionKind → Option DeployAction
  | .rollback => some .rollback
  | .restart => some .restart
  | .scale => some .scale
  | .featureFlag => none

/-- The CTE `action`. -/
def deployRow (action : DeployAction) : Deploy where
  deployId := g.deployId
  orgId := p.orgId
  serviceId := p.serviceId
  version := p.targetVersion
  action := action
  deployedBy := p.deployedBy
  status := .completed
  deployedAt := g.now

/-- The CTE `service_update`. -/
def serviceUpdate : List Service → List Service :=
  Table.update (fun s => s.orgId = p.orgId ∧ s.serviceId = p.serviceId) fun s =>
    { s with
      health := .recovering
      currentVersion := p.targetVersion
      currentDeployId := some g.deployId
      updatedAt := g.now }

/-- The CTE `incident_update`. -/
def incidentUpdate : List Incident → List Incident :=
  Table.update (fun i => i.orgId = p.orgId ∧ i.incidentId = p.incidentId) fun i =>
    { i with status := .mitigating, runbookId := p.runbookId }

/-- The CTE `episode`. -/
def actionEpisode : EpisodicEvent where
  eventId := g.eventId
  orgId := p.orgId
  agentId := p.agentId
  incidentId := some p.incidentId
  sessionId := some p.sessionId
  serviceId := some p.serviceId
  occurredAt := g.now
  eventType := .action
  content := some p.content
  metadata := .obj [
    ("deploy_id", .str g.deployId.text),
    ("cited_memory_id", .str p.citedMemoryId.text),
    ("outcome", .str p.outcome)]
  runbookId := p.runbookId
  importance := 9 / 10
  embedding := some p.embedding
  createdAt := g.now

/-- The CTE `record_action`. -/
def actionRow : RemediationAction where
  actionId := g.actionId
  orgId := p.orgId
  incidentId := p.incidentId
  actionType := p.actionType
  targetId := some p.serviceId
  params := .obj [("target_version", .str p.targetVersion)]
  appliedAt := g.now
  appliedBy := p.deployedBy
  outcome := .success
  memoryRef := some g.eventId
  transactionId := g.transactionId
  idempotencyKey := p.idempotencyKey

/-- The CTE `runbook_usage`. -/
def runbookUsage : List Runbook → List Runbook :=
  Table.update (fun r => r.orgId = p.orgId ∧ some r.runbookId = p.runbookId) fun r =>
    { r with usageCount := r.usageCount + 1, lastUsedAt := some g.now }

/-- The state once every CTE has written. -/
def remediated (action : DeployAction) : Database :=
  { db with
    deploys := db.deploys ++ [deployRow p g action]
    services := serviceUpdate p g db.services
    incidents := incidentUpdate p db.incidents
    episodicEvents := db.episodicEvents ++ [actionEpisode p g]
    remediationActions := db.remediationActions ++ [actionRow p g]
    proceduralMemory := runbookUsage p g db.proceduralMemory }

/-- The row returned to the client. -/
def remediationRow : RemediationRow where
  deployId := g.deployId
  eventId := g.eventId
  actionId := g.actionId
  transactionId := g.transactionId
  appliedAt := g.now

/-- `REMEDIATE_AND_RECORD_SQL`. -/
def remediateAndRecordSql : Except SqlState (Database × Option RemediationRow) :=
  if Gates p db then
    match deployAction? p.action with
    | none => .error .checkViolation
    | some action =>
      if KeyTaken p db ∨ Collides g db then .error .uniqueViolation
      else .ok (remediated p g db action, some (remediationRow g))
  else .ok (db, none)

/-- The statement went from `db` to `db'` and wrote. -/
structure Remediated (db' : Database) : Prop where
  gates : Gates p db
  unused : ¬ KeyTaken p db
  fresh : ¬ Collides g db
  written : ∃ action, deployAction? p.action = some action ∧ db' = remediated p g db action

end sql

/-- What the statement did, when it did not fail: nothing, or all of its writes. -/
lemma remediateAndRecordSql_spec {p g db db' row}
    (h : remediateAndRecordSql p g db = .ok (db', row)) :
    (¬ Gates p db ∧ db' = db ∧ row = none) ∨
      (Remediated p g db db' ∧ row = some (remediationRow g)) := by
  unfold remediateAndRecordSql at h
  split at h
  case isTrue gates =>
    split at h
    case h_1 => cases h
    case h_2 action e =>
      split at h
      case isTrue => cases h
      case isFalse fresh =>
        cases h
        obtain ⟨nk, nc⟩ := not_or.mp fresh
        exact .inr ⟨⟨gates, nk, nc, action, e, rfl⟩, rfl⟩
  case isFalse gates =>
    cases h
    exact .inl ⟨gates, rfl, rfl⟩

/-- What the statement did when it returned a row. -/
lemma remediateAndRecordSql_row {p g db db' row}
    (h : remediateAndRecordSql p g db = .ok (db', some row)) :
    Remediated p g db db' ∧ row = remediationRow g := by
  obtain ⟨_, _, e⟩ | ⟨wrote, e⟩ := remediateAndRecordSql_spec h
  · cases e
  · exact ⟨wrote, Option.some.inj e⟩

/-- The statement fails with a unique violation where the gates pass and the key is taken. -/
lemma remediateAndRecordSql_taken {p g db action} (ha : deployAction? p.action = some action)
    (gates : Gates p db) (taken : KeyTaken p db) :
    remediateAndRecordSql p g db = .error .uniqueViolation := by
  simp [remediateAndRecordSql, gates, ha, taken]

lemma remediateAndRecordSql_gated {p g db} (gates : ¬ Gates p db) :
    remediateAndRecordSql p g db = .ok (db, none) := by
  simp [remediateAndRecordSql, gates]

/-- The statement commits where the gates pass, the key is unused and the identifiers are fresh. -/
lemma remediateAndRecordSql_fresh {p g db action} (ha : deployAction? p.action = some action)
    (gates : Gates p db) (nk : ¬ KeyTaken p db) (nc : ¬ Collides g db) :
    remediateAndRecordSql p g db =
      .ok (remediated p g db action, some (remediationRow g)) := by
  simp [remediateAndRecordSql, gates, ha, nk, nc]

/-- The row `REPLAY_LOOKUP_SQL` returns. -/
structure ReplayRow where
  actionId : Uuid
  transactionId : Uuid
  appliedAt : Timestamp
  memoryRef : Option Uuid
  deployId : Option Uuid
deriving DecidableEq

/-- `metadata->>key`. -/
def jsonField (rt : Runtime) (metadata : Json) (key : String) : Option String :=
  match metadata with
  | .obj fields =>
    match Dict.get fields key with
    | .null => none
    | .str s => some s
    | v => some (rt.jsonText v)
  | _ => none

/-- `(metadata->>'deploy_id')::UUID` of the joined episode, NULL where the join found none. -/
def deployIdOf (rt : Runtime) : Option EpisodicEvent → Except SqlState (Option Uuid)
  | none => .ok none
  | some e =>
    match jsonField rt e.metadata "deploy_id" with
    | none => .ok none
    | some text =>
      match Uuid.ofText? text with
      | none => .error .invalidTextRepresentation
      | some u => .ok (some u)

/-- The action with the organization and the idempotency key of the parameters. -/
def actionOfKey (p : RemediationParams) (db : Database) : Option RemediationAction :=
  db.remediationActions.find? fun a =>
    (a.orgId, a.idempotencyKey) = (p.orgId, p.idempotencyKey)

/-- `LEFT JOIN episodic_events AS ee ON ee.event_id = ra.memory_ref AND ee.org_id = ra.org_id`. -/
def episodeOfAction (db : Database) (a : RemediationAction) : Option EpisodicEvent :=
  db.episodicEvents.find? fun e => some e.eventId = a.memoryRef ∧ e.orgId = a.orgId

/-- `REPLAY_LOOKUP_SQL`. -/
def replayLookupSql (rt : Runtime) (p : RemediationParams) (db : Database) :
    Except SqlState (Option ReplayRow) :=
  match actionOfKey p db with
  | none => .ok none
  | some a =>
    match deployIdOf rt (episodeOfAction db a) with
    | .error e => .error e
    | .ok deployId =>
      .ok (some ⟨a.actionId, a.transactionId, a.appliedAt, a.memoryRef, deployId⟩)

/-- How a commit can go through without the client hearing of it. -/
inductive LostAck where
  /-- 40003 -/
  | completionUnknown
  | connectionLost
deriving DecidableEq

/-- The driver's exception for a lost acknowledgement. -/
def LostAck.raised : LostAck → Raised
  | completionUnknown => .database (.other "40003")
  | connectionLost => ⟨.other "OperationalError", "", none, none⟩

/-- What becomes of the transaction of one attempt. -/
inductive Fate where
  /-- It aborts before the commit point, with an exception that carries the SQLSTATE, if any. -/
  | abort (state : Option SqlState)
  /-- The statement runs; where it succeeds the commit is acknowledged. -/
  | commit (g : Generated)
  /-- The statement runs; where it succeeds it commits and the acknowledgement is lost. -/
  | commitLost (g : Generated) (ack : LostAck)
deriving DecidableEq

/-- What the remediation store meets outside the program. -/
structure RemediationEnv where
  attempt : Nat → Fate
  /-- The replay lookup is answered. -/
  lookup : Bool

/-- `_execute_once` raises what the driver raised on 40001, and wraps everything else. -/
def rolledBack (e : Raised) : Raised :=
  if e.state = some .serializationFailure then e
  else
    { cls := .AtomicRemediationError
      message := "CockroachDB rolled back remediate_and_record."
      cause := e.sqlstate }

/-- The error where the statement returns no row. -/
def gateRejection : Raised :=
  { cls := .ProvenanceError
    message := "Atomic action rejected: incident, service, or cited memory " ++
      "did not satisfy the provenance gate." }

/-- The result built from a row of `REMEDIATE_AND_RECORD_SQL`. -/
def RemediationRow.result (row : RemediationRow) : RemediationResult where
  actionId := row.actionId
  transactionId := row.transactionId
  deployId := some row.deployId
  eventId := row.eventId
  committedAt := row.appliedAt

/-- The transaction of one attempt, with the client's view of its end. -/
def transact (p : RemediationParams) (g : Generated) (ack : Option LostAck) (db : Database) :
    Database × Except Raised RemediationResult :=
  match remediateAndRecordSql p g db with
  | .error state => (db, .error (rolledBack (.database state)))
  | .ok (_, none) => (db, .error gateRejection)
  | .ok (db', some row) =>
    match ack with
    | none => (db', .ok row.result)
    | some lost => (db', .error (rolledBack lost.raised))

/-- `_execute_once`. -/
def executeOnce (p : RemediationParams) (fate : Fate) (db : Database) :
    Database × Except Raised RemediationResult :=
  match fate with
  | .abort state => (db, .error (rolledBack ⟨.other "DatabaseError", "", state, none⟩))
  | .commit g => transact p g none db
  | .commitLost g lost => transact p g (some lost) db

/-- `_replay`. The lookup's own failure is `None`; `_uuid` of a NULL `memory_ref` is a `ValueError`. -/
def replay (rt : Runtime) (p : RemediationParams) (lookup : Bool) (db : Database) :
    Except Raised (Option RemediationResult) :=
  if lookup then
    match replayLookupSql rt p db with
    | .error _ => .ok none
    | .ok none => .ok none
    | .ok (some row) =>
      match row.memoryRef with
      | none => .error ⟨.ValueError, "badly formed hexadecimal UUID string", none, none⟩
      | some eventId =>
        .ok (some {
          actionId := row.actionId
          transactionId := row.transactionId
          deployId := row.deployId
          eventId := eventId
          committedAt := row.appliedAt })
  else .ok none

/-- The handler of a unique violation: the replayed result, or the violation again. -/
def replayed (rt : Runtime) (p : RemediationParams) (lookup : Bool) (e : Raised) (db : Database) :
    Database × Except Raised RemediationResult :=
  match replay rt p lookup db with
  | .error e' => (db, .error e')
  | .ok none => (db, .error e)
  | .ok (some r) => (db, .ok r)

/-- The loop over attempts: `attempt` counts from 0 and `remaining` attempts may follow it. -/
def retry (rt : Runtime) (p : RemediationParams) (env : RemediationEnv) (attempt : Nat) :
    Nat → Database → Database × Except Raised RemediationResult
  | remaining, db =>
    match executeOnce p (env.attempt attempt) db with
    | (db', .ok r) => (db', .ok r)
    | (db', .error e) =>
      if e.state = some .uniqueViolation then replayed rt p env.lookup e db'
      else if e.state = some .serializationFailure then
        match remaining with
        | 0 => (db', .error e)
        | remaining + 1 => retry rt p env (attempt + 1) remaining db'
      else (db', .error e)

/-- `SUPPORTED_ACTIONS` -/
def supportedActions : List ActionKind := [.rollback, .restart]

/-- `_validate`. -/
def validate (c : RemediationCommand) (embedding : Embedding) : Except Raised Unit :=
  if c.action ∉ supportedActions then
    .error ⟨.UnsupportedAction, c.action.value ++ " is outside the Phase 1 SQL allowlist.", none, none⟩
  else if c.requiresHumanApproval && !c.approved then
    .error ⟨.ApprovalRequired, "This remediation requires explicit SRE approval.", none, none⟩
  else if embedding.length ≠ 1024 then
    .error ⟨.AtomicRemediationError, "Titan embedding must have exactly 1024 dimensions.", none, none⟩
  else if Python.strip c.targetVersion = "" then
    .error ⟨.AtomicRemediationError, "target_version cannot be blank.", none, none⟩
  else .ok ()

/-- The dictionary `params`. -/
def remediationParams (rt : Runtime) (c : RemediationCommand) (embedding : Embedding) :
    RemediationParams where
  orgId := c.orgId
  agentId := c.agentId
  incidentId := c.incidentId
  sessionId := c.sessionId
  serviceId := c.serviceId
  action := c.action
  actionType := if c.action = .rollback then .rollbackDeploy else .restartService
  targetVersion := c.targetVersion
  deployedBy := "agent:" ++ c.agentId.text
  citedMemoryId := c.citedMemoryId
  runbookId := c.runbookId
  content := c.memoryText
  outcome := c.outcomeStub
  idempotencyKey := c.effectiveIdempotencyKey
  embedding := vectorLiteral rt 9 embedding

/-- `remediate_and_record`, with `retries` for `max_serialization_retries`. -/
def remediateAndRecord (rt : Runtime) (retries : Nat) (env : RemediationEnv)
    (c : RemediationCommand) (embedding : Embedding) (db : Database) :
    Database × Except Raised RemediationResult :=
  match validate c embedding with
  | .error e => (db, .error e)
  | .ok () => retry rt (remediationParams rt c embedding) env 0 retries db

lemma deployAction?_of_validate {c : RemediationCommand} {embedding}
    (h : validate c embedding = .ok ()) : ∃ action, deployAction? c.action = some action := by
  unfold validate at h
  split at h
  case isTrue => cases h
  case isFalse supported =>
    cases e : c.action with
    | featureFlag => simp [e, supportedActions] at supported
    | rollback => exact ⟨_, rfl⟩
    | restart => exact ⟨_, rfl⟩
    | scale => exact ⟨_, rfl⟩

/-- What an attempt can do: leave the state alone, or run the statement to its commit. -/
lemma executeOnce_spec {p fate db db' res} (h : executeOnce p fate db = (db', res)) :
    (db' = db ∧ ∃ e, res = .error e) ∨
      ∃ g, Remediated p g db db' ∧
        ((fate = .commit g ∧ res = .ok (remediationRow g).result) ∨
          ∃ lost, fate = .commitLost g lost ∧ res = .error (rolledBack lost.raised)) := by
  have run : ∀ g ack, transact p g ack db = (db', res) →
      (db' = db ∧ ∃ e, res = .error e) ∨ (Remediated p g db db' ∧
        res = match ack with
          | none => .ok (remediationRow g).result
          | some lost => .error (rolledBack lost.raised)) := by
    intro g ack h
    unfold transact at h
    split at h
    · cases h; exact .inl ⟨rfl, _, rfl⟩
    · cases h; exact .inl ⟨rfl, _, rfl⟩
    · rename_i e
      obtain ⟨wrote, er⟩ := remediateAndRecordSql_row e
      cases ack with
      | none => cases h; exact .inr ⟨wrote, by rw [er]⟩
      | some lost => cases h; exact .inr ⟨wrote, rfl⟩
  cases fate with
  | abort state => cases h; exact .inl ⟨rfl, _, rfl⟩
  | commit g =>
    obtain stay | ⟨wrote, e⟩ := run g none h
    · exact .inl stay
    · exact .inr ⟨g, wrote, .inl ⟨rfl, e⟩⟩
  | commitLost g lost =>
    obtain stay | ⟨wrote, e⟩ := run g (some lost) h
    · exact .inl stay
    · exact .inr ⟨g, wrote, .inr ⟨lost, rfl, e⟩⟩

/-- A lost acknowledgement is neither retried nor taken for a replay. -/
lemma rolledBack_lost_state {lost : LostAck} :
    (rolledBack lost.raised).state ≠ some .uniqueViolation ∧
      (rolledBack lost.raised).state ≠ some .serializationFailure := by
  cases lost <;> decide

/-! ## The loop over attempts -/

/-- The error asks for another attempt. -/
def retried {α : Type} : Except Raised α → Bool
  | .ok _ => false
  | .error e => e.state = some .serializationFailure

/-- An attempt with the handler of a unique violation. -/
def attemptOnce (rt : Runtime) (p : RemediationParams) (env : RemediationEnv) (n : Nat) (db : Database) :
    Database × Except Raised RemediationResult :=
  match executeOnce p (env.attempt n) db with
  | (db', .ok r) => (db', .ok r)
  | (db', .error e) =>
    if e.state = some .uniqueViolation then replayed rt p env.lookup e db' else (db', .error e)

lemma replayed_final {rt p lookup e db} (h : e.state = some .uniqueViolation) :
    retried (replayed rt p lookup e db).2 = false := by
  unfold replayed
  split
  case h_1 e' he =>
    -- the lookup raises for a NULL `memory_ref` only
    unfold replay at he
    split at he
    case isFalse => cases he
    case isTrue =>
      split at he
      case h_1 => cases he
      case h_2 => cases he
      case h_3 =>
        split at he
        case h_1 => cases he; rfl
        case h_2 => cases he
  case h_2 =>
    apply decide_eq_false
    rw [h]
    nofun
  case h_3 => rfl

/-- The loop attempts again while the result asks for it. -/
lemma retry_loop {rt p env attempt remaining db} :
    retry rt p env attempt remaining db =
      Retry.loop (attemptOnce rt p env) retried attempt remaining db := by
  induction remaining generalizing attempt db with
  | zero =>
    rw [retry, Retry.loop, attemptOnce]
    generalize executeOnce p (env.attempt attempt) db = out
    obtain ⟨db', e | r⟩ := out
    · simp only [ite_self]
    · rfl
  | succ n ih =>
    rw [retry, Retry.loop, attemptOnce]
    generalize executeOnce p (env.attempt attempt) db = out
    obtain ⟨db', e | r⟩ := out
    · by_cases unique : e.state = some .uniqueViolation
      · have final := @replayed_final rt p env.lookup e db' unique
        simp only [unique, if_true, final, Bool.false_eq_true, if_false]
      · simp only [unique, if_false, ih, retried, decide_eq_true_eq]
    · rfl

/-- A serialization failure is the one error of an attempt that is retried, and the attempt was aborted
by it. -/
lemma executeOnce_serialization {p fate db db' e}
    (h : executeOnce p fate db = (db', .error e)) (se : e.state = some .serializationFailure) :
    fate = .abort (some .serializationFailure) ∧ db' = db := by
  have run : ∀ g ack, transact p g ack db ≠ (db', .error e) := by
    intro g ack ht
    unfold transact at ht
    split at ht
    case h_1 state hs =>
      cases ht
      -- the statement itself fails only with the two constraint violations
      unfold remediateAndRecordSql at hs
      split at hs
      case isTrue =>
        split at hs
        · cases hs
          revert se
          decide
        · split at hs <;> cases hs
          revert se
          decide
      case isFalse => cases hs
    case h_2 =>
      cases ht
      revert se
      decide
    case h_3 =>
      cases ack with
      | none => cases ht
      | some lost =>
        cases ht
        exact rolledBack_lost_state.2 se
  cases fate with
  | commit g => exact absurd h (run g none)
  | commitLost g ack => exact absurd h (run g (some ack))
  | abort state =>
    cases h
    refine ⟨?_, rfl⟩
    by_cases same : state = some .serializationFailure
    · rw [same]
    · have wrapped : (rolledBack ⟨.other "DatabaseError", "", state, none⟩).state = state := by
        cases state <;> simp_all [rolledBack, Raised.state]
      rw [wrapped] at se
      exact absurd se same

/-- An attempt is retried where a serialization failure aborted it. -/
lemma attemptOnce_retried {rt p env n db} : retried (attemptOnce rt p env n db).2 = true ↔
    env.attempt n = .abort (some .serializationFailure) := by
  constructor
  · intro h
    unfold attemptOnce at h
    split at h
    · cases h
    · rename_i once
      split at h
      case isTrue unique =>
        rw [replayed_final unique] at h
        cases h
      case isFalse => exact (executeOnce_serialization once (of_decide_eq_true h)).1
  · intro fate
    rw [attemptOnce, fate]
    rfl

/-- Only serialization failures precede attempt `n`. -/
def RemediationEnv.Reaches (env : RemediationEnv) (n : Nat) : Prop :=
  ∀ j < n, env.attempt j = .abort (some .serializationFailure)

section call

variable {rt : Runtime} {p : RemediationParams} {retries n : Nat} {env : RemediationEnv}
  {c : RemediationCommand} {embedding : Embedding} {db : Database}

lemma attemptOnce_idle : ∀ j, retried (attemptOnce rt p env j db).2 = true →
    (attemptOnce rt p env j db).1 = db := by
  intro j h
  rw [attemptOnce, attemptOnce_retried.mp h]
  rfl

/-- A call does what one of its attempts does, after serialization failures. -/
lemma remediateAndRecord_attempt (valid : validate c embedding = .ok ()) :
    ∃ n ≤ retries, env.Reaches n ∧ remediateAndRecord rt retries env c embedding db =
      attemptOnce rt (remediationParams rt c embedding) env n db := by
  obtain ⟨n, le, ends, before, _⟩ :=
    @Retry.loop_ends _ _ (attemptOnce rt (remediationParams rt c embedding) env) retried 0 retries db
      attemptOnce_idle
  rw [Nat.zero_add] at ends
  refine ⟨n, le, ?_, ?_⟩
  · intro j hj
    have h := before j hj
    rw [Nat.zero_add] at h
    exact attemptOnce_retried.mp h
  · simp only [remediateAndRecord, valid, retry_loop, ends]

/-- A call does what the first attempt does that reaches the statement. -/
lemma remediateAndRecord_reaches (valid : validate c embedding = .ok ()) (le : n ≤ retries)
    (reaches : env.Reaches n) (runs : ∀ state, env.attempt n ≠ .abort state) :
    remediateAndRecord rt retries env c embedding db =
      attemptOnce rt (remediationParams rt c embedding) env n db := by
  have first := @Retry.loop_of_first _ _ (attemptOnce rt (remediationParams rt c embedding) env) retried
    0 retries n db attemptOnce_idle le
  simp only [Nat.zero_add] at first
  simp only [remediateAndRecord, valid, retry_loop]
  apply first
  · intro j hj
    exact attemptOnce_retried.mpr (reaches j hj)
  · apply Bool.eq_false_iff.mpr
    intro h
    exact runs _ (attemptOnce_retried.mp h)

/-- How a call ends whose command validates. -/
inductive Ended (rt : Runtime) (p : RemediationParams) (env : RemediationEnv) (retries : Nat)
    (db : Database) : Database × Except Raised RemediationResult → Prop where
  | committed {n g db'} : n ≤ retries → env.Reaches n → env.attempt n = .commit g →
    Remediated p g db db' → Ended rt p env retries db (db', .ok (remediationRow g).result)
  | lost {n g ack db'} : n ≤ retries → env.Reaches n → env.attempt n = .commitLost g ack →
    Remediated p g db db' → Ended rt p env retries db (db', .error (rolledBack ack.raised))
  | replayed {r} : replay rt p env.lookup db = .ok (some r) → Ended rt p env retries db (db, .ok r)
  | failed {e} : Ended rt p env retries db (db, .error e)

lemma replayed_ended {e} : Ended rt p env retries db (replayed rt p env.lookup e db) := by
  unfold replayed
  split
  case h_1 => exact .failed
  case h_2 => exact .failed
  case h_3 found => exact .replayed found

lemma attemptOnce_ended (le : n ≤ retries) (reaches : env.Reaches n) :
    Ended rt p env retries db (attemptOnce rt p env n db) := by
  unfold attemptOnce
  split
  · rename_i once
    obtain ⟨_, _, e'⟩ | ⟨g, wrote, ⟨hf, hr⟩ | ⟨_, _, hr⟩⟩ := executeOnce_spec once
    · cases e'
    · cases hr
      exact .committed le reaches hf wrote
    · cases hr
  · rename_i once
    obtain ⟨rfl, _⟩ | ⟨g, wrote, ⟨_, hr⟩ | ⟨ack, hf, hr⟩⟩ := executeOnce_spec once
    · split
      · exact replayed_ended
      · exact .failed
    · cases hr
    · cases hr
      rw [if_neg rolledBack_lost_state.1]
      exact .lost le reaches hf wrote

/-- How a call ends. -/
lemma remediateAndRecord_ended (valid : validate c embedding = .ok ()) :
    Ended rt (remediationParams rt c embedding) env retries db
      (remediateAndRecord rt retries env c embedding db) := by
  obtain ⟨n, le, reaches, call⟩ := @remediateAndRecord_attempt rt retries env c embedding db valid
  rw [call]
  exact attemptOnce_ended le reaches

/-- What a call can do to the state: nothing, or the statement's writes once. -/
lemma remediateAndRecord_spec :
    (remediateAndRecord rt retries env c embedding db).1 = db ∨
      ∃ g, Remediated (remediationParams rt c embedding) g db
        (remediateAndRecord rt retries env c embedding db).1 := by
  cases valid : validate c embedding with
  | error e =>
    left
    simp only [remediateAndRecord, valid]
  | ok =>
    have ended := @remediateAndRecord_ended rt retries env c embedding db valid
    generalize remediateAndRecord rt retries env c embedding db = out at ended
    cases ended with
    | committed _ _ _ wrote => exact .inr ⟨_, wrote⟩
    | lost _ _ _ wrote => exact .inr ⟨_, wrote⟩
    | replayed => exact .inl rfl
    | failed => exact .inl rfl

end call

end Postmortem
