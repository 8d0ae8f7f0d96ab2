import Postmortem.Db.Schema

/-!
# Consolidation contracts

`consolidation/postmortem_consolidation/contracts.py`: the row a changefeed delivers, the group of an
incident's rows, and the candidate a model makes of it. Identifiers are texts here, as in the source.
-/

namespace Postmortem

/-- `RunbookOutcome` -/
inductive RunbookOutcome where
  | success | failed | noEffect
deriving DecidableEq

/-- The literal. -/
def RunbookOutcome.text : RunbookOutcome → String
  | success => "success"
  | failed => "failed"
  | noEffect => "no_effect"

/-- `raise ValueError(message)` -/
def valueError {α : Type} (message : String) : Except Raised α :=
  .error ⟨.ValueError, message, none, none⟩

/-- `_parse_timestamp` -/
def parseTimestamp (rt : Runtime) (value : Json) (fieldName : String) : Except Raised Timestamp :=
  match value with
  | .str s =>
    if s = "" then valueError (fieldName ++ " must be a non-empty ISO-8601 string")
    else
      match rt.fromIsoformat (Python.replaceZ s) with
      | some t => .ok t
      | none =>
        if rt.isoOverflows (Python.replaceZ s) then
          .error ⟨.OverflowError, "date value out of range", none, none⟩
        else valueError ("Invalid isoformat string: " ++ rt.repr (.str (Python.replaceZ s)))
  | _ => valueError (fieldName ++ " must be a non-empty ISO-8601 string")

/-- `_parse_change_timestamp` -/
def parseChangeTimestamp (rt : Runtime) (value : Json) (fieldName : String) :
    Except Raised Decimal :=
  match value with
  | .str s =>
    if s = "" then valueError (fieldName ++ " must be a CockroachDB HLC or ISO-8601 string")
    else
      match rt.decimalOfText s with
      | some d => .ok d
      | none =>
        match parseTimestamp rt value fieldName with
        | .error e => .error e
        | .ok t => .ok (.ofInt (t * 1000))
  | _ => valueError (fieldName ++ " must be a CockroachDB HLC or ISO-8601 string")

/-- `_required_text` -/
def requiredText (value : Json) (fieldName : String) : Except Raised String :=
  match value with
  | .str s =>
    if Python.strip s = "" then valueError (fieldName ++ " must be a non-empty string")
    else .ok (Python.strip s)
  | _ => valueError (fieldName ++ " must be a non-empty string")

/-- `ChangeEvent` -/
structure ChangeEvent where
  eventId : String
  orgId : String
  agentId : String
  incidentId : String
  serviceId : String
  eventType : String
  content : String
  occurredAt : Timestamp
  updatedAt : Decimal
  metadata : Dict := []
deriving DecidableEq

/-- The object `after.metadata` holds, once a text is decoded. -/
def changefeedMetadata (rt : Runtime) (raw : Json) : Except Raised Dict :=
  match raw.orElse (.obj []) with
  | .obj fields => .ok fields
  | .str s =>
    match rt.jsonLoads s with
    | some (.obj fields) => .ok fields
    | some _ => valueError "after.metadata must be an object"
    | none =>
      if rt.jsonTooDeep s then .error recursionError
      else .error ⟨.other "JSONDecodeError", "", none, none⟩
  | _ => valueError "after.metadata must be an object"

/-- `ChangeEvent.from_changefeed` -/
def ChangeEvent.fromChangefeed (rt : Runtime) (envelope : Dict) : Except Raised ChangeEvent :=
  match envelope.get "after" with
  | .obj fields => do
    let row : Dict := fields
    let updated := (envelope.get "updated").orElse (row.get "created_at")
    let metadata ← changefeedMetadata rt (row.get "metadata")
    let eventId ← requiredText (row.get "event_id") "after.event_id"
    let orgId ← requiredText (row.get "org_id") "after.org_id"
    let agentId ← requiredText (row.get "agent_id") "after.agent_id"
    let incidentId ← requiredText (row.get "incident_id") "after.incident_id"
    let serviceId ← requiredText (row.get "service_id") "after.service_id"
    let eventType ← requiredText (row.get "event_type") "after.event_type"
    let occurredAt ← parseTimestamp rt (row.get "occurred_at") "after.occurred_at"
    let updatedAt ← parseChangeTimestamp rt updated "updated"
    return {
      eventId, orgId, agentId, incidentId, serviceId, eventType
      content := Python.str rt ((row.get "content").orElse (.str ""))
      occurredAt, updatedAt, metadata }
  | _ => valueError "changefeed row must include an object-valued 'after'"

/-- The dictionary `ChangeEvent.to_dict` returns. -/
def ChangeEvent.fields (rt : Runtime) (e : ChangeEvent) : Dict :=
  [("event_id", .str e.eventId),
    ("org_id", .str e.orgId),
    ("agent_id", .str e.agentId),
    ("incident_id", .str e.incidentId),
    ("service_id", .str e.serviceId),
    ("event_type", .str e.eventType),
    ("content", .str e.content),
    ("occurred_at", .str (rt.isoformat e.occurredAt)),
    ("updated_at", .str (rt.decimalText e.updatedAt)),
    ("metadata", .obj e.metadata),
    ("kind", .str "row")]

/-- `ChangeEvent.to_dict`: `asdict` recurs over the metadata. -/
def ChangeEvent.toDict (rt : Runtime) (e : ChangeEvent) : Except Raised Dict :=
  if rt.asdictTooDeep e.metadata then .error recursionError else .ok (e.fields rt)

/-- `dict(value or {})` -/
def dictOf (value : Json) : Except Raised Dict :=
  match value.orElse (.obj []) with
  | .obj fields => .ok fields
  | _ => .error ⟨.TypeError, "cannot convert value to a dictionary", none, none⟩

/-- `ChangeEvent.from_dict` -/
def ChangeEvent.fromDict (rt : Runtime) (value : Dict) : Except Raised ChangeEvent := do
  let eventId ← requiredText (value.get "event_id") "event_id"
  let orgId ← requiredText (value.get "org_id") "org_id"
  let agentId ← requiredText (value.get "agent_id") "agent_id"
  let incidentId ← requiredText (value.get "incident_id") "incident_id"
  let serviceId ← requiredText (value.get "service_id") "service_id"
  let eventType ← requiredText (value.get "event_type") "event_type"
  let occurredAt ← parseTimestamp rt (value.get "occurred_at") "occurred_at"
  let updatedAt ← parseChangeTimestamp rt (value.get "updated_at") "updated_at"
  let metadata ← dictOf (value.get "metadata")
  return {
    eventId, orgId, agentId, incidentId, serviceId, eventType
    content := Python.str rt ((value.get "content").orElse (.str ""))
    occurredAt, updatedAt, metadata }

/-- The text `ChangeEvent.deduplication_id` returns. -/
def ChangeEvent.deduplicationId (rt : Runtime) (e : ChangeEvent) : String :=
  rt.sha256 ("row:" ++ e.eventId ++ ":" ++ rt.decimalText e.updatedAt)

/-- `ChangeEvent.deduplication_id`: the digest is of an encoded text. -/
def ChangeEvent.digest (rt : Runtime) (e : ChangeEvent) : Except Raised String :=
  if rt.encodes e.eventId then .ok (e.deduplicationId rt)
  else .error ⟨.other "UnicodeEncodeError", "'utf-8' codec can't encode: surrogates not allowed", none, none⟩

/-- `ClosedWindow` -/
structure ClosedWindow where
  watermark : Decimal
deriving DecidableEq

/-- `EpisodeGroup` -/
structure EpisodeGroup where
  orgId : String
  agentId : String
  incidentId : String
  serviceId : String
  episodes : List ChangeEvent
  outcome : RunbookOutcome
deriving DecidableEq

/-- `sorted(texts)` -/
def sortedTexts (l : List String) : List String := l.insertionSort (· ≤ ·)

/-- `EpisodeGroup.idempotency_key` -/
def EpisodeGroup.idempotencyKey (rt : Runtime) (g : EpisodeGroup) : String :=
  let source := "|".intercalate (sortedTexts (g.episodes.map ChangeEvent.eventId))
  rt.sha256 (g.orgId ++ ":" ++ g.incidentId ++ ":" ++ source)

/-- `CandidateRunbook` -/
structure CandidateRunbook where
  orgId : String
  agentId : String
  incidentId : String
  serviceId : String
  name : String
  triggerDesc : String
  steps : List Json
  preconditions : List Json
  postconditions : List Json
  serviceTags : List String
  errorSignatures : List String
  outcome : RunbookOutcome
  sourceEventIds : List String
  embedding : Embedding := []
deriving DecidableEq

/-- `CandidateRunbook.steps_hash` -/
def CandidateRunbook.stepsHash (rt : Runtime) (c : CandidateRunbook) : String :=
  rt.sha256 (rt.jsonDumps (.arr c.steps))

/-- `ModelResult` -/
structure ModelResult where
  candidate : CandidateRunbook
  modelId : String
  prompt : String
  rawResponse : String
deriving DecidableEq

end Postmortem
