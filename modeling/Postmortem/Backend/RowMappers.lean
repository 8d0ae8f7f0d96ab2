import Postmortem.Backend.Recall
import Postmortem.Backend.Transport

/-!
# The rows of the two recall adapters

`adapters/mcp.py` and the row mappers of `adapters/recall.py`, on rows as dictionaries of decoded JSON. The two
adapters read most columns alike (`episodeColumns`, `factColumns`, `runbookColumns`); namespace `Mcp` and
namespace `Direct` hold what each of them reads its own way. `ManagedMCPRecallAdapter.recall` and
`CockroachRecallAdapter.recallRows` map the rows they are given and rank what comes out.
-/

namespace Postmortem

/-- The rows of the three recall statements. -/
structure RecallRows where
  episodes : List Dict
  facts : List Dict
  runbooks : List Dict

section columns

variable (rt : Runtime)

/-- `UUID(str(value))` -/
def uuidOf (v : Json) : Except Raised Uuid :=
  match rt.uuidOfText (Python.str rt v) with
  | some id => .ok id
  | none => .error ⟨.ValueError, "badly formed hexadecimal UUID string", none, none⟩

/-- `_optional_uuid` -/
def optionalUuid (v : Json) : Except Raised (Option Uuid) :=
  if v.truthy then (uuidOf rt v).map some else .ok none

/-- `_datetime`; the text of a TIMESTAMPTZ carries its offset. -/
def datetimeOf (v : Json) : Except Raised (Option Timestamp) :=
  if v.truthy then
    match rt.fromIsoformat (Python.str rt v) with
    | some t => .ok (some t)
    | none => .error ⟨.ValueError, "Invalid isoformat string: " ++ rt.repr v, none, none⟩
  else .ok none

/-- `_text` -/
def textOf (v : Json) : Json :=
  match v with
  | .null => .null
  | v => .str (Python.str rt v)

/-- `row[key]` -/
def column (row : Dict) (key : String) : Except Raised Json :=
  match Assoc.get row key with
  | some v => .ok v
  | none => .error ⟨.KeyError, "'" ++ key ++ "'", none, none⟩

/-- `float(row.get(key) or 0.0)` -/
def numberOf (row : Dict) (key : String) : Except Raised Flt :=
  Python.float rt ((row.get key).orElse (.float 0))

/-- `int(row.get(key) or 0)` -/
def intOf (row : Dict) (key : String) : Except Raised Int :=
  Python.int rt ((row.get key).orElse (.int 0))

/-- `tuple(UUID(str(item)) for item in items if item)` -/
def uuidsOf (items : List Json) : Except Raised (List Uuid) :=
  (items.filter Json.truthy).mapM (uuidOf rt)

/-- The keys `_episode` writes over the stored metadata. -/
def episodeKeys (row : Dict) : Dict := [
  ("incident_id", textOf rt (row.get "incident_id")),
  ("source_case_id", textOf rt (row.get "source_case_id")),
  ("action_id", textOf rt (row.get "action_id")),
  ("successful_action", row.get "successful_action"),
  ("outcome", row.get "outcome"),
  ("transaction_id", textOf rt (row.get "transaction_id")),
  ("learned_at", textOf rt (row.get "created_at"))]

/-- An episode without its stored metadata. -/
def episodeColumns (row : Dict) : Except Raised MemoryCandidate := do
  let memoryId ← uuidOf rt (← column row "event_id")
  let similarity ← numberOf rt row "similarity"
  let occurredAt ← datetimeOf rt (row.get "occurred_at")
  let serviceId ← optionalUuid rt (row.get "service_id")
  let runbookId ← optionalUuid rt (row.get "runbook_id")
  let orgId ← optionalUuid rt (row.get "org_id")
  let agentId ← optionalUuid rt (row.get "agent_id")
  let recordedAt ← datetimeOf rt (row.get "created_at")
  let actionId ← optionalUuid rt (row.get "action_id")
  let transactionId ← optionalUuid rt (row.get "transaction_id")
  return {
    memoryId, similarity, occurredAt, serviceId, runbookId, orgId, agentId, recordedAt
    kind := .episodic
    content := Python.str rt ((row.get "content").orElse (.str ""))
    metadata := episodeKeys rt row
    provenanceIds := actionId.toList ++ transactionId.toList }

/-- An episode over the metadata that `jsonObject` reads. -/
def episodeOver (jsonObject : Json → Except Raised Dict) (row : Dict) : Except Raised MemoryCandidate := do
  let metadata ← jsonObject (row.get "metadata")
  let item ← episodeColumns rt row
  return { item with metadata := metadata.update (episodeKeys rt row) }

/-- A fact with what the adapters read each in its own way. -/
def factColumns (row : Dict) (content : String) (successRate : Except Raised Flt) (metadata : Dict)
    (provenanceIds : Except Raised (List Uuid)) : Except Raised MemoryCandidate := do
  let memoryId ← uuidOf rt (← column row "fact_id")
  let similarity ← numberOf rt row "similarity"
  let successRate ← successRate
  let orgId ← optionalUuid rt (row.get "org_id")
  let agentId ← optionalUuid rt (row.get "agent_id")
  let serviceId ← optionalUuid rt (row.get "scoped_service_id")
  let confidence ← numberOf rt row "confidence"
  let validFrom ← datetimeOf rt (row.get "valid_from")
  let validTo ← datetimeOf rt (row.get "valid_to")
  let recordedAt ← datetimeOf rt (row.get "recorded_at")
  let provenanceIds ← provenanceIds
  return {
    memoryId, content, similarity, successRate, metadata, orgId, agentId, serviceId, confidence, validFrom,
    validTo, recordedAt, provenanceIds
    kind := .semantic }

/-- `f"{row.get('subject')} {row.get('predicate')}: {object}"` -/
def factContent (row : Dict) (object : Json) : String :=
  Python.str rt (row.get "subject") ++ " " ++ Python.str rt (row.get "predicate") ++ ": " ++
    Python.str rt object

/-- The counters of a runbook. -/
def runbookCounts (row : Dict) : Except Raised Dict := do
  let usageCount ← intOf rt row "usage_count"
  let successCount ← intOf rt row "success_count"
  let failureCount ← intOf rt row "failure_count"
  let positive ← intOf rt row "positive_provenance_count"
  let counterexamples ← intOf rt row "counterexample_count"
  return [
    ("usage_count", .int usageCount),
    ("success_count", .int successCount),
    ("failure_count", .int failureCount),
    ("positive_provenance_count", .int positive),
    ("counterexample_count", .int counterexamples)]

/-- A runbook with what the adapters read each in its own way. -/
def runbookColumns (row : Dict) (steps : Except Raised (List Json)) (metadata : Except Raised Dict)
    (provenanceIds : Except Raised (List Uuid)) : Except Raised MemoryCandidate := do
  let memoryId ← uuidOf rt (← column row "runbook_id")
  let similarity ← numberOf rt row "similarity"
  let successRate ← numberOf rt row "success_rate"
  let steps ← steps
  let metadata ← metadata
  let orgId ← optionalUuid rt (row.get "org_id")
  let agentId ← optionalUuid rt (row.get "agent_id")
  let recordedAt ← datetimeOf rt (row.get "created_at")
  let provenanceIds ← provenanceIds
  return {
    memoryId, similarity, successRate, steps, metadata, orgId, agentId, recordedAt, provenanceIds
    kind := .procedural
    content := Python.str rt (((row.get "trigger_desc").orElse (row.get "name")).orElse (.str ""))
    runbookId := some memoryId }

end columns

/-! ## `adapters/mcp.py` -/

namespace Mcp

variable (rt : Runtime)

/-- `_json_object` -/
def jsonObject : Json → Except Raised Dict
  | .obj fields => .ok fields
  | .str s => do
    match ← loads rt s with
    | .obj fields => return fields
    | parsed => return [("value", parsed)]
  | _ => .ok []

/-- `_uuid_tuple` -/
def uuidTuple (v : Json) : Except Raised (List Uuid) :=
  if v.truthy then do
    let v ← match v with
      | .str s => loads rt s
      | v => .ok v
    uuidsOf rt (← Python.list v)
  else .ok []

/-- `_episode` -/
def episode (row : Dict) : Except Raised MemoryCandidate := episodeOver rt (jsonObject rt) row

/-- `_fact` -/
def fact (row : Dict) : Except Raised MemoryCandidate :=
  factColumns rt row (factContent rt row (row.get "object")) (numberOf rt row "confidence")
    [("subject", row.get "subject"),
      ("predicate", row.get "predicate"),
      ("object", row.get "object"),
      ("source", row.get "source"),
      ("valid_from", textOf rt (row.get "valid_from")),
      ("learned_at", textOf rt (row.get "recorded_at"))]
    (uuidTuple rt (row.get "provenance_ids"))

/-- The metadata of `_runbook`. -/
def runbookMetadata (row : Dict) (counts : Dict) : Dict := [
  ("name", row.get "name"),
  ("version", row.get "version"),
  ("preconditions", row.get "preconditions"),
  ("applicable_service_tags", row.get "applicable_service_tags"),
  ("applicable_error_signatures", row.get "applicable_error_signatures")] ++ counts ++ [
  ("last_used_at", textOf rt (row.get "last_used_at")),
  ("learned_at", textOf rt (row.get "created_at"))]

/-- `_runbook` -/
def runbook (row : Dict) : Except Raised MemoryCandidate := do
  let steps ← match (row.get "steps").orElse (.arr []) with
    | .str s => loads rt s
    | v => .ok v
  runbookColumns rt row (Python.list steps) ((runbookCounts rt row).map (runbookMetadata rt row))
    (uuidTuple rt (row.get "provenance_ids"))

/-- `block.get("text", "")` of the blocks that are objects. -/
def blockTexts (blocks : List Json) : List Json :=
  blocks.filterMap fun
    | .obj fields => some (Dict.getD fields "text" (.str ""))
    | _ => none

/-- `"".join(texts)` -/
def joined (texts : List Json) : Except Raised String :=
  texts.foldlM (fun joined t =>
    match t with
    | .str s => .ok (joined ++ s)
    | v => .error ⟨.TypeError, "sequence item: expected str instance, " ++ v.typeName ++ " found", none, none⟩) ""

/-- `_unwrap` -/
def unwrap (result : Json) : Except Raised Json :=
  match result with
  | .obj fields =>
    match Assoc.get fields "content" with
    | none => .ok result
    | some content => do
      let blocks ← Python.list (content.orElse (.arr []))
      let text := Python.strip (← joined (blockTexts blocks))
      if text = "" then return .arr []
      if rt.jsonTooDeep text then throw recursionError
      match rt.jsonLoads text with
      | some payload => return payload
      | none => throw ⟨.RecallError, "Managed MCP returned non-JSON tool content.", none, none⟩
  | _ => .ok result

/-- The rows that are objects. -/
def dictRows (rows : List Json) : List Dict :=
  rows.filterMap fun
    | .obj fields => some fields
    | _ => none

/-- The rows of a payload. -/
def payloadRows : Json → Json
  | .obj payload =>
    (((Dict.get payload "rows").orElse (Dict.get payload "data")).orElse (Dict.get payload "result")).orElse (.arr [])
  | payload => payload

/-- What `_select` makes of the result of the tool. -/
def select (result : Json) : Except Raised (List Dict) := do
  match payloadRows (← unwrap rt result) with
  | .arr rows => return dictRows rows
  | _ => throw ⟨.RecallError, "Managed MCP select_query returned an unexpected row envelope.", none, none⟩

end Mcp

/-! ## `adapters/recall.py` -/

namespace Direct

variable (rt : Runtime)

/-- `_json_value` -/
def jsonValue : Json → Except Raised Json
  | .str s =>
    if rt.jsonTooDeep s then .error recursionError
    else .ok ((rt.jsonLoads s).getD (.str s))
  | v => .ok v

/-- The value where it is an object, as in `parsed if isinstance(parsed, dict) else {}`. -/
def fieldsOf : Json → Dict
  | .obj fields => fields
  | _ => []

/-- `_json_object` -/
def jsonObject (v : Json) : Except Raised Dict := (jsonValue rt v).map fieldsOf

section shallow

variable {rt} {v : Json}

/-- Of a text that does not nest too deep for the parser, what `Postmortem.jsonValue` makes of it. -/
lemma jsonValue_shallow (shallow : ∀ s, v = .str s → rt.jsonTooDeep s = false) :
    jsonValue rt v = .ok (Postmortem.jsonValue rt v) := by
  cases v with
  | str s => simp [jsonValue, Postmortem.jsonValue, shallow s rfl]
  | _ => rfl

lemma jsonObject_shallow (shallow : ∀ s, v = .str s → rt.jsonTooDeep s = false) :
    jsonObject rt v = .ok (Postmortem.jsonObject rt v) := by
  unfold jsonObject Postmortem.jsonObject
  rw [jsonValue_shallow shallow]
  cases Postmortem.jsonValue rt v with
  | obj fields => rfl
  | _ => rfl

end shallow

/-- `_uuid_tuple` -/
def uuidTuple (v : Json) : Except Raised (List Uuid) :=
  if v.truthy then do uuidsOf rt (← Python.list v)
  else .ok []

/-- `_episode` -/
def episode (row : Dict) : Except Raised MemoryCandidate := episodeOver rt (jsonObject rt) row

/-- The metadata of `_fact`. -/
def factMetadata (row : Dict) (object predecessor : Json) : Dict := [
  ("subject", row.get "subject"),
  ("predicate", row.get "predicate"),
  ("object", object),
  ("source", row.get "source"),
  ("valid_from", textOf rt (row.get "valid_from")),
  ("valid_to", textOf rt (row.get "valid_to")),
  ("learned_at", textOf rt (row.get "recorded_at")),
  ("superseded_by", textOf rt (row.get "superseded_by")),
  ("superseded_predecessor", match predecessor with
    | .obj fields => .obj fields
    | _ => .null)]

/-- `_fact` -/
def fact (row : Dict) : Except Raised MemoryCandidate := do
  let object ← jsonValue rt (row.get "object")
  let predecessor ← jsonValue rt (row.get "predecessor")
  factColumns rt row (factContent rt row object) (.ok 0) (factMetadata rt row object predecessor)
    (uuidTuple rt (row.get "provenance_ids"))

/-- `tuple(row.get(key) or ())` -/
def tupleOf (row : Dict) (key : String) : Except Raised (List Json) :=
  Python.list ((row.get key).orElse (.arr []))

/-- The metadata of `_runbook`. -/
def runbookMetadata (row : Dict) : Except Raised Dict := do
  let preconditions ← jsonValue rt (row.get "preconditions")
  let postconditions ← jsonValue rt (row.get "postconditions")
  let tags ← tupleOf row "applicable_service_tags"
  let signatures ← tupleOf row "applicable_error_signatures"
  let counts ← runbookCounts rt row
  return [
    ("name", row.get "name"),
    ("version", row.get "version"),
    ("preconditions", preconditions.orElse (.arr [])),
    ("postconditions", postconditions.orElse (.arr [])),
    ("applicable_service_tags", .arr tags),
    ("applicable_error_signatures", .arr signatures)] ++ counts ++ [
    ("last_used_at", textOf rt (row.get "last_used_at")),
    ("created_by", row.get "created_by"),
    ("learned_at", textOf rt (row.get "created_at"))]

/-- `_runbook` -/
def runbook (row : Dict) : Except Raised MemoryCandidate := do
  let steps ← jsonValue rt (row.get "steps")
  let metadata ← runbookMetadata rt row
  runbookColumns rt row (Python.list (steps.orElse (.arr []))) (.ok metadata)
    (uuidTuple rt (row.get "provenance_ids"))

end Direct

/-! ## What the mappers read -/

section reading

variable {rt : Runtime} {row : Dict} {c : MemoryCandidate}

/-- A fact is read where its shared columns and the parts of the adapter are. -/
lemma factColumns_ok_iff {content rate metadata provenance} :
    factColumns rt row content rate metadata provenance = .ok c ↔ ∃ base r ids,
      factColumns rt row "" (.ok 0) [] (.ok []) = .ok base ∧ rate = .ok r ∧ provenance = .ok ids ∧
        c = { base with
          content := content
          successRate := r
          metadata := metadata
          provenanceIds := ids } := by
  unfold factColumns
  simp only [bind_ok_iff, Except.ok.injEq, pure, Except.pure]
  constructor
  · rintro ⟨k, hk, id, hid, s, hs, r, hr, o, ho, a, ha, sv, hsv, cf, hcf, vf, hvf, vt, hvt, ra, hra, ids, hids, rfl⟩
    exact ⟨_, r, ids, ⟨k, hk, id, hid, s, hs, 0, rfl, o, ho, a, ha, sv, hsv, cf, hcf, vf, hvf, vt, hvt, ra, hra, [],
      rfl, rfl⟩, hr, hids, rfl⟩
  · rintro ⟨_, r, ids, ⟨k, hk, id, hid, s, hs, _, rfl, o, ho, a, ha, sv, hsv, cf, hcf, vf, hvf, vt, hvt, ra, hra, _,
      rfl, rfl⟩, hr, hids, rfl⟩
    exact ⟨k, hk, id, hid, s, hs, r, hr, o, ho, a, ha, sv, hsv, cf, hcf, vf, hvf, vt, hvt, ra, hra, ids, hids, rfl⟩

end reading

/-! ## The adapters -/

/-- The row mappers of an adapter. -/
structure RowMappers where
  episode : Dict → Except Raised MemoryCandidate
  fact : Dict → Except Raised MemoryCandidate
  runbook : Dict → Except Raised MemoryCandidate

/-- Map the rows, rank the candidates and name the provider. -/
def RowMappers.ranked (m : RowMappers) (rt : Runtime) (policy : RecallPolicy) (query : RecallQuery)
    (rows : RecallRows) (provider : String) : Except Raised RecallBundle := do
  let episodes ← rows.episodes.mapM m.episode
  let facts ← rows.facts.mapM m.fact
  let runbooks ← rows.runbooks.mapM m.runbook
  let bundle ← RecallRanker.rank rt policy query episodes facts runbooks
  return { bundle with
    diagnostics := Dict.set bundle.diagnostics "provider" (.str provider) }

/-- The mappers of `adapters/mcp.py`. -/
def Mcp.mappers (rt : Runtime) : RowMappers where
  episode := Mcp.episode rt
  fact := Mcp.fact rt
  runbook := Mcp.runbook rt

/-- The mappers of `adapters/recall.py`. -/
def Direct.mappers (rt : Runtime) : RowMappers where
  episode := Direct.episode rt
  fact := Direct.fact rt
  runbook := Direct.runbook rt

/-- The refusal of an embedding of another dimension. -/
def dimensionError : Raised :=
  ⟨.RecallError, "Recall embedding must have exactly 1024 dimensions.", none, none⟩

/-- The three calls of `select_query`. -/
inductive RecallStatement where
  | episodic | semantic | procedural

/-- `ManagedMCPRecallAdapter.recall`; `callTool` is `transport.call_tool` on the text of each statement. -/
def ManagedMCPRecallAdapter.recall (rt : Runtime) (policy : RecallPolicy)
    (callTool : RecallStatement → Except Raised Json) (query : RecallQuery) : Except Raised RecallBundle :=
  if query.coldStart then RecallRanker.rank rt policy query [] [] []
  else if query.embedding.length ≠ 1024 then .error dimensionError
  else do
    let episodes ← Mcp.select rt (← callTool .episodic)
    let facts ← Mcp.select rt (← callTool .semantic)
    let runbooks ← Mcp.select rt (← callTool .procedural)
    (Mcp.mappers rt).ranked rt policy query { episodes, facts, runbooks } "c-spann+mcp"

/-- `CockroachRecallAdapter.recall` on the rows that `_fetch` returns; `env` is the fate of each attempt of the
transaction. -/
def CockroachRecallAdapter.recallRows (rt : Runtime) (policy : RecallPolicy) (env : Nat → Option Raised)
    (rows : RecallRows) (query : RecallQuery) : Except Raised RecallBundle :=
  if query.coldStart then RecallRanker.rank rt policy query [] [] []
  else if query.embedding.length ≠ 1024 then .error dimensionError
  else
    match runReadOnly env 0 3 with
    | some e =>
      .error ⟨.RecallError, "Direct CockroachDB memory recall failed.", none, e.sqlstate⟩
    | none => (Direct.mappers rt).ranked rt policy query rows "c-spann+sql"

end Postmortem
