import Postmortem.Backend.Cockroach
import Postmortem.Backend.Ranker

/-!
# The recall adapter

`adapters/recall.py`: the three recall statements, the mapping of their rows to candidates and
`CockroachRecallAdapter.recall`. The vector index may be approximate, so `ORDER BY embedding <=> query
LIMIT n` is an `AnnSearch`: any choice of at most `n` of the rows. `AnnSearch.exact` is the one that
sorts them all.
-/

namespace Postmortem

/-- `ORDER BY embedding <=> query LIMIT n` over an index that need not be exact. -/
structure AnnSearch where
  pick : {α : Type} → (α → Embedding) → Embedding → Nat → List α → List α
  subperm : ∀ {α : Type} (e : α → Embedding) (q : Embedding) (n : Nat) (l : List α),
    (pick e q n l).Subperm l
  length_le : ∀ {α : Type} (e : α → Embedding) (q : Embedding) (n : Nat) (l : List α),
    (pick e q n l).length ≤ n

lemma AnnSearch.mem {ann : AnnSearch} {α : Type} {e : α → Embedding} {q n l x}
    (h : x ∈ ann.pick e q n l) : x ∈ l :=
  (ann.subperm e q n l).subset h

/-- The search that sorts every row by its distance. -/
def AnnSearch.exact (rt : Runtime) : AnnSearch where
  pick e q n l :=
    (l.insertionSort fun a b =>
      Flt.lt (rt.cosineDistance (e b) q) (rt.cosineDistance (e a) q) = false).take n
  subperm _ _ n l :=
    ((List.take_sublist n _).subperm).trans (List.perm_insertionSort _ l).subperm
  length_le _ _ n _ := List.length_take_le n _

section sql

variable (rt : Runtime) (ann : AnnSearch) (query : RecallQuery) (db : Database) (limit : Nat)

/-- `1 - (embedding <=> query)`. -/
def similarityTo (e : Embedding) : Flt :=
  match rt.cosineDistance e (vectorLiteral rt 9 query.embedding) with
  | .num d => .num (1 - d)
  | .nan => .nan

/-- A column that is not NULL, with its row. -/
def withEmbedding {α : Type} (column : α → Option Embedding) (rows : List α) : List (α × Embedding) :=
  rows.filterMap fun r => (column r).map fun e => (r, e)

/-- The CTE `nearest` of a recall statement over the rows its WHERE clause admits. -/
def nearest {α : Type} (column : α → Option Embedding) (rows : List α) : List (α × Flt) :=
  (ann.pick Prod.snd (vectorLiteral rt 9 query.embedding) limit (withEmbedding column rows)).map
    fun r => (r.1, similarityTo rt query r.2)

lemma mem_nearest {rt ann query limit} {α : Type} {column : α → Option Embedding} {rows : List α}
    {r s} (h : (r, s) ∈ nearest rt ann query limit column rows) : r ∈ rows := by
  obtain ⟨⟨r', e⟩, hp, eq⟩ := List.mem_map.mp h
  cases eq
  obtain ⟨r0, hr0, e0⟩ := List.mem_filterMap.mp (ann.mem hp)
  obtain ⟨_, _, e1⟩ := Option.map_eq_some_iff.mp e0
  cases e1
  exact hr0

/-- `%(current_incident_id)s` -/
def currentIncidentId : Uuid := query.currentIncidentId.getD .nil

/-- The WHERE clause of `nearest` in `EPISODIC_RECALL_SQL`. -/
def EpisodeAdmitted (e : EpisodicEvent) : Prop :=
  e.orgId = query.orgId ∧ e.agentId = query.agentId ∧ e.occurredAt ≤ query.asOf ∧
    e.incidentId ≠ some (currentIncidentId query)

instance (e : EpisodicEvent) : Decidable (EpisodeAdmitted query e) :=
  inferInstanceAs (Decidable (_ ∧ _ ∧ _ ∧ _))

/-- A row of `EPISODIC_RECALL_SQL`: the episode, its similarity and the joined action. -/
structure EpisodicRecallRow where
  episode : EpisodicEvent
  similarity : Flt
  action : Option RemediationAction
deriving DecidableEq

/-- The LATERAL join: the newest action whose `memory_ref` is the episode. -/
def lateralAction (org event : Uuid) : Option RemediationAction :=
  Table.first (fun a b => b.appliedAt ≤ a.appliedAt)
    (db.remediationActions.filter fun a => a.orgId = org ∧ a.memoryRef = some event)

/-- `EPISODIC_RECALL_SQL` -/
def episodicRecallSql : List EpisodicRecallRow :=
  ((nearest rt ann query limit EpisodicEvent.embedding
      (db.episodicEvents.filter fun e => EpisodeAdmitted query e)).filter fun r =>
    r.1.serviceId = some query.serviceId ∨ r.1.serviceId = none).map fun r =>
    { episode := r.1, similarity := r.2, action := lateralAction db query.orgId r.1.eventId }

/-- The WHERE clause of `nearest` in `SEMANTIC_RECALL_SQL`. -/
def FactAdmitted (f : SemanticFact) : Prop :=
  f.orgId = query.orgId ∧ f.agentId = query.agentId ∧ f.validFrom ≤ query.asOf ∧
    (∀ t, f.validTo = some t → query.asOf < t) ∧ f.recordedAt ≤ query.asOf

instance (f : SemanticFact) : Decidable (∀ t, f.validTo = some t → query.asOf < t) :=
  match h : f.validTo with
  | none => isTrue (by rintro t ⟨⟩)
  | some t => decidable_of_iff (query.asOf < t) ⟨fun lt _ e => by cases e; exact lt, fun g => g t rfl⟩

instance (f : SemanticFact) : Decidable (FactAdmitted query f) :=
  inferInstanceAs (Decidable (_ ∧ _ ∧ _ ∧ _ ∧ _))

/-- `subject LIKE 'prefix%'` -/
def hasPrefix (p s : String) : Bool := p.toList.isPrefixOf s.toList

/-- The subjects that name the query's service. -/
def serviceSubjects : List String :=
  (db.services.filter fun s => s.orgId = query.orgId ∧ s.serviceId = query.serviceId).flatMap
    fun s => ["service:" ++ s.name, "service:" ++ s.serviceId.text]

/-- A row of `SEMANTIC_RECALL_SQL`. -/
structure SemanticRecallRow where
  fact : SemanticFact
  similarity : Flt
  scopedServiceId : Option Uuid
  provenanceIds : List Uuid
  predecessor : Option Json
deriving DecidableEq

/-- The correlated subquery `provenance_ids`. -/
def factProvenanceIds (f : SemanticFact) : List Uuid :=
  db.factProvenance.filterMap fun p =>
    if p.orgId = f.orgId ∧ p.factId = f.factId ∧ p.role ≠ .counterexample then p.episodicEventId
    else none

/-- The correlated subquery `predecessor`. -/
def factPredecessor (f : SemanticFact) : Option Json :=
  (db.semanticFacts.find? fun p => p.orgId = f.orgId ∧ p.supersededBy = some f.factId).map fun p =>
    .obj [
      ("fact_id", .str p.factId.text),
      ("object", p.object),
      ("confidence", .float (.num p.confidence)),
      ("valid_from", .str (rt.jsonTimestamp p.validFrom)),
      ("valid_to", Json.ofText? (p.validTo.map rt.jsonTimestamp)),
      ("recorded_at", .str (rt.jsonTimestamp p.recordedAt)),
      ("source", Json.ofText? p.source)]

/-- `SEMANTIC_RECALL_SQL` -/
def semanticRecallSql : List SemanticRecallRow :=
  ((nearest rt ann query limit SemanticFact.embedding
      (db.semanticFacts.filter fun f => FactAdmitted query f)).filter fun r =>
    hasPrefix "org:" r.1.subject || (serviceSubjects query db).contains r.1.subject).map fun r =>
    { fact := r.1
      similarity := r.2
      scopedServiceId := if hasPrefix "service:" r.1.subject then some query.serviceId else none
      provenanceIds := factProvenanceIds db r.1
      predecessor := factPredecessor rt db r.1 }

/-- The WHERE clause of `nearest` in `PROCEDURAL_RECALL_SQL`. -/
def RunbookAdmitted (r : Runbook) : Prop :=
  r.orgId = query.orgId ∧ r.status = .active ∧ r.agentId = query.agentId ∧
    r.createdAt ≤ query.asOf

instance (r : Runbook) : Decidable (RunbookAdmitted query r) :=
  inferInstanceAs (Decidable (_ ∧ _ ∧ _ ∧ _))

/-- A row of `PROCEDURAL_RECALL_SQL`. -/
structure ProceduralRecallRow where
  runbook : Runbook
  similarity : Flt
  positiveProvenanceCount : Nat
  counterexampleCount : Nat
  provenanceIds : List Uuid
deriving DecidableEq

/-- `PROCEDURAL_RECALL_SQL` -/
def proceduralRecallSql : List ProceduralRecallRow :=
  (nearest rt ann query limit Runbook.embedding
      (db.proceduralMemory.filter fun r => RunbookAdmitted query r)).map fun r =>
    let rows := db.runbookProvenance.filter fun p => p.runbookId = r.1.runbookId
    { runbook := r.1
      similarity := r.2
      positiveProvenanceCount := rows.countP fun p => p.role ≠ .counterexample
      counterexampleCount := rows.countP fun p => p.role = .counterexample
      provenanceIds := (rows.filter fun p => p.role ≠ .counterexample).filterMap
        RunbookProvenance.episodicEventId }

end sql

section mapping

variable (rt : Runtime)

/-- `_json_value` -/
def jsonValue (v : Json) : Json :=
  match v with
  | .str s => (rt.jsonLoads s).getD v
  | v => v

/-- `_json_object` -/
def jsonObject (v : Json) : Dict :=
  match jsonValue rt v with
  | .obj fields => fields
  | _ => []

/-- `_text` of an identifier. -/
def uuidText (u : Option Uuid) : Json := Json.ofText? (u.map Uuid.text)

/-- The keys `_episode` writes over the stored metadata. -/
def episodeFields (row : EpisodicRecallRow) : Dict := [
  ("incident_id", uuidText row.episode.incidentId),
  ("source_case_id", uuidText row.episode.incidentId),
  ("action_id", uuidText (row.action.map RemediationAction.actionId)),
  ("successful_action", Json.ofText? (row.action.map fun a => a.actionType.text)),
  ("outcome", Json.ofText? (row.action.map fun a => a.outcome.text)),
  ("transaction_id", uuidText (row.action.map RemediationAction.transactionId)),
  ("learned_at", .str (rt.datetimeText row.episode.createdAt))]

/-- `_episode` -/
def episodeCandidate (row : EpisodicRecallRow) : MemoryCandidate where
  memoryId := row.episode.eventId
  kind := .episodic
  content := row.episode.content.getD ""
  similarity := row.similarity
  occurredAt := some row.episode.occurredAt
  serviceId := row.episode.serviceId
  runbookId := row.episode.runbookId
  metadata := (jsonObject rt row.episode.metadata).update (episodeFields rt row)
  orgId := some row.episode.orgId
  agentId := some row.episode.agentId
  recordedAt := some row.episode.createdAt
  provenanceIds := match row.action with
    | some a => [a.actionId, a.transactionId]
    | none => []

/-- `_fact` -/
def factCandidate (row : SemanticRecallRow) : MemoryCandidate :=
  let object := jsonValue rt row.fact.object
  let predecessor := match row.predecessor with
    | some (.obj fields) => .obj fields
    | _ => .null
  { memoryId := row.fact.factId
    kind := .semantic
    content := row.fact.subject ++ " " ++ row.fact.predicate ++ ": " ++ Python.str rt object
    similarity := row.similarity
    metadata := [
      ("subject", .str row.fact.subject),
      ("predicate", .str row.fact.predicate),
      ("object", object),
      ("source", Json.ofText? row.fact.source),
      ("valid_from", .str (rt.datetimeText row.fact.validFrom)),
      ("valid_to", Json.ofText? (row.fact.validTo.map rt.datetimeText)),
      ("learned_at", .str (rt.datetimeText row.fact.recordedAt)),
      ("superseded_by", uuidText row.fact.supersededBy),
      ("superseded_predecessor", predecessor)]
    orgId := some row.fact.orgId
    agentId := some row.fact.agentId
    serviceId := row.scopedServiceId
    confidence := .num row.fact.confidence
    validFrom := some row.fact.validFrom
    validTo := row.fact.validTo
    recordedAt := some row.fact.recordedAt
    provenanceIds := row.provenanceIds }

/-- `_runbook` -/
def runbookCandidate (row : ProceduralRecallRow) : Except Raised MemoryCandidate := do
  let r := row.runbook
  let steps ← iterate (jsonValue rt r.steps)
  return {
    memoryId := r.runbookId
    kind := .procedural
    content := if r.triggerDesc = "" then r.name else r.triggerDesc
    similarity := row.similarity
    successRate := .num r.successRate
    runbookId := some r.runbookId
    steps := steps
    metadata := [
      ("name", .str r.name),
      ("version", .int r.version),
      ("preconditions", (jsonValue rt r.preconditions).orElse (.arr [])),
      ("postconditions", (jsonValue rt r.postconditions).orElse (.arr [])),
      ("applicable_service_tags", .arr (r.applicableServiceTags.map .str)),
      ("applicable_error_signatures", .arr (r.applicableErrorSignatures.map .str)),
      ("usage_count", .int r.usageCount),
      ("success_count", .int r.successCount),
      ("failure_count", .int r.failureCount),
      ("positive_provenance_count", .int row.positiveProvenanceCount),
      ("counterexample_count", .int row.counterexampleCount),
      ("last_used_at", Json.ofText? (r.lastUsedAt.map rt.datetimeText)),
      ("created_by", .str r.createdBy),
      ("learned_at", .str (rt.datetimeText r.createdAt))]
    orgId := some r.orgId
    agentId := some r.agentId
    recordedAt := some r.createdAt
    provenanceIds := row.provenanceIds }

end mapping

/-- `_run_read_only` over the attempts of the environment: `none` is an attempt that is answered. -/
def runReadOnly (env : Nat → Option Raised) (attempt : Nat) : Nat → Option Raised
  | 0 => env attempt
  | remaining + 1 =>
    match env attempt with
    | none => none
    | some e =>
      if e.state = some .serializationFailure then runReadOnly env (attempt + 1) remaining
      else some e

/-- `CockroachRecallAdapter.recall` -/
def CockroachRecallAdapter.recall (rt : Runtime) (ann : AnnSearch) (policy : RecallPolicy) (env : Nat → Option Raised)
    (query : RecallQuery) (db : Database) : Except Raised RecallBundle :=
  if query.coldStart then RecallRanker.rank rt policy query [] [] []
  else if query.embedding.length ≠ 1024 then
    .error ⟨.RecallError, "Recall embedding must have exactly 1024 dimensions.", none, none⟩
  else
    match runReadOnly env 0 3 with
    | some e =>
      .error ⟨.RecallError, "Direct CockroachDB memory recall failed.", none, e.sqlstate⟩
    | none => do
      let limit := (policy.candidateLimit query.k).toNat
      let episodes := (episodicRecallSql rt ann query db limit).map (episodeCandidate rt)
      let facts := (semanticRecallSql rt ann query db limit).map (factCandidate rt)
      let runbooks ← (proceduralRecallSql rt ann query db limit).mapM (runbookCandidate rt)
      let bundle ← RecallRanker.rank rt policy query episodes facts runbooks
      return { bundle with
        diagnostics := Dict.set bundle.diagnostics "provider" (.str "c-spann+sql") }

/-- A recall that returns ranked what the three statements found, or nothing in a cold start. -/
lemma CockroachRecallAdapter.recall_ranked {rt ann policy env query db bundle}
    (h : CockroachRecallAdapter.recall rt ann policy env query db = .ok bundle) :
    (query.coldStart = true ∧ RecallRanker.rank rt policy query [] [] [] = .ok bundle) ∨
      query.coldStart = false ∧ ∃ limit runbooks bundle', limit = (policy.candidateLimit query.k).toNat ∧
        (proceduralRecallSql rt ann query db limit).mapM (runbookCandidate rt) = .ok runbooks ∧
        RecallRanker.rank rt policy query ((episodicRecallSql rt ann query db limit).map (episodeCandidate rt))
          ((semanticRecallSql rt ann query db limit).map (factCandidate rt)) runbooks = .ok bundle' ∧
        bundle = { bundle' with
          diagnostics := Dict.set bundle'.diagnostics "provider" (.str "c-spann+sql") } := by
  unfold CockroachRecallAdapter.recall at h
  split at h
  case isTrue cold => exact .inl ⟨cold, h⟩
  case isFalse hot =>
    split at h
    case isTrue => cases h
    case isFalse =>
      split at h
      case h_1 => cases h
      case h_2 =>
        obtain ⟨runbooks, hr, h⟩ := bind_ok h
        obtain ⟨bundle', hb, e⟩ := bind_ok h
        cases e
        exact .inr ⟨Bool.eq_false_iff.mpr hot, _, runbooks, bundle', rfl, hr, hb, rfl⟩

end Postmortem
