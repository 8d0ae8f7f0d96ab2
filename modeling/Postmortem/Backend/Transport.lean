import Postmortem.Backend.Service

/-!
# Transport to the console

`transport.py`: `console_event` and `_payload`, and `OutcomeService.record` of `service.py`, which publishes the
last of the events. An `AgentEvent` carries an identifier and a time from its construction: they are arguments
here.
-/

namespace Postmortem

namespace Python

/-- `list(value)` -/
def list : Json → Except Raised (List Json)
  | .arr items => .ok items
  | .str s => .ok (s.toList.map fun c => .str (String.ofList [c]))
  | .obj fields => .ok (fields.map fun f => .str f.1)
  | v => .error ⟨.TypeError, "'" ++ v.typeName ++ "' object is not iterable", none, none⟩

/-- An element of a sequence as `dict(sequence)` reads it; a key that is no string is not modelled. -/
def item : Json → Except Raised (String × Json)
  | .arr [.str k, v] => .ok (k, v)
  | _ => .error ⟨.ValueError, "dictionary update sequence element has the wrong length", none, none⟩

/-- `dict(value)` -/
def dict : Json → Except Raised Dict
  | .obj fields => .ok fields
  | .arr items => do
    let pairs ← items.mapM item
    return pairs.foldl (fun d p => Assoc.set d p.1 p.2) []
  | v => .error ⟨.TypeError, "'" ++ v.typeName ++ "' object is not iterable", none, none⟩

/-- `text.replace(old, new)` on characters, where `old` is not empty; `n` bounds the length. -/
def replaceChars (old new : List Char) : Nat → List Char → List Char
  | 0, l => l
  | _, [] => []
  | n + 1, c :: l =>
    if old.isPrefixOf (c :: l) then new ++ replaceChars old new n ((c :: l).drop old.length)
    else c :: replaceChars old new n l

/-- `text.replace(old, new)` -/
def replace (text old new : String) : String :=
  String.ofList (replaceChars old.toList new.toList text.toList.length text.toList)

end Python

/-- `ConsoleRegion` -/
inductive ConsoleRegion where
  | usEast | usWest | euWest
deriving DecidableEq

/-- The literal of a region. -/
def ConsoleRegion.value : ConsoleRegion → String
  | usEast => "us-east"
  | usWest => "us-west"
  | euWest => "eu-west"

section transport

variable (rt : Runtime)

/-- `_severity` -/
def severityOf (value : Json) : String :=
  let normalized := Python.replace (rt.upper (Python.str rt (value.orElse (.str "SEV-3")))) "SEV" "SEV-"
  let normalized := Python.replace normalized "--" "-"
  if normalized ∈ ["SEV-1", "SEV-2", "SEV-3"] then normalized else "SEV-3"

/-- A statement of `_transaction_statements`. -/
def transactionStatement (operation target role summary : String) : Json := .obj [
  ("operation", .str operation), ("target", .str target), ("role", .str role), ("summary", .str summary)]

/-- `_transaction_statements` -/
def transactionStatements : List Json := [
  transactionStatement "INSERT" "deploys" "action" "Record and apply the operational deployment action.",
  transactionStatement "UPDATE" "services, incidents" "action" "Move the service and incident into recovery.",
  transactionStatement "INSERT" "episodic_events" "memory" "Append the grounded action memory.",
  transactionStatement "INSERT" "remediation_actions" "audit" "Link action provenance to the episodic memory."]

/-- `str(data.get(key, default))` -/
def textField (data : Dict) (key : String) (default : Json) : Json := .str (Python.str rt (Dict.getD data key default))

/-- `[str(value)] if value else []` -/
def citedIds (value : Json) : Json := .arr (if value.truthy then [.str (Python.str rt value)] else [])

variable (eventId : Uuid) (occurredAt : Timestamp) (event : AgentEvent)

/-- `_payload`, an incident. -/
def incidentPayload : Dict := [
  ("service", textField rt event.data "service" (Dict.getD event.data "service_id" (.str "unknown"))),
  ("severity", .str (severityOf rt (event.data.get "severity"))),
  ("status", .str "open"),
  ("summary", textField rt event.data "summary" (.str event.message))]

/-- `_payload`, a recall. -/
def recallPayload : Except Raised Dict := do
  let durationMs ← Python.int rt (Dict.getD event.data "duration_ms" (.int 0))
  let rejectedCount ← Python.int rt (Dict.getD event.data "rejected_count" (.int 0))
  let results ← Python.list (Dict.getD event.data "results" (.arr []))
  return [
    ("querySummary", textField rt event.data "query_summary" (.str event.message)),
    ("provider", textField rt event.data "provider" (.str "c-spann+mcp")),
    ("mode", .str (if (event.data.get "cold_start").truthy then "cold" else "memory")),
    ("durationMs", .int durationMs),
    ("rejectedCount", .int rejectedCount),
    ("results", .arr results)]

/-- `_payload`, a step of the reasoning. -/
def reasonPayload : Dict := [
  ("message", textField rt event.data "message" (.str event.message)),
  ("citedMemoryIds", citedIds rt (event.data.get "cited_memory_id")),
  ("citedRunbookIds", citedIds rt (event.data.get "cited_runbook_id"))]

/-- `_payload`, an action. -/
def actPayload : Except Raised Dict := do
  let arguments ← Python.dict (Dict.getD event.data "arguments" (.obj []))
  return [
    ("actionId", textField rt event.data "action_id" (.str eventId.text)),
    ("status", .str "proposed"),
    ("tool", textField rt event.data "tool" (.str "remediate_and_record")),
    ("arguments", .obj arguments),
    ("target", textField rt event.data "target" (.str "unknown")),
    ("requiresApproval",
      .bool (Dict.getD event.data "requires_approval" (.bool (event.type = .approvalRequired))).truthy),
    ("citedMemoryId", textField rt event.data "cited_memory_id" (.str eventId.text))]

/-- `_payload`, a transaction; only a committed one has a time. -/
def transactionPayload (state : String) : Except Raised Dict := do
  let statements ← Python.list (Dict.getD event.data "statements" (.arr transactionStatements))
  return [
    ("transactionId", textField rt event.data "transaction_id" (.str eventId.text)),
    ("state", .str state),
    ("statements", .arr statements)] ++
    if state = "committed" then
      [("committedAt", textField rt event.data "committed_at" (.str (rt.isoformat occurredAt)))]
    else []

/-- `_payload`, a record of memory. -/
def recordPayload : Except Raised Dict := do
  let freshnessMs ← Python.int rt (Dict.getD event.data "freshness_ms" (.int 0))
  let staleReadsObserved ← Python.int rt (Dict.getD event.data "stale_reads_observed" (.int 0))
  return [
    ("memoryId", .str (Python.str rt (event.data.get "memory_id"))),
    ("memoryKind", textField rt event.data "memory_kind" (.str "episodic")),
    ("summary", textField rt event.data "summary" (.str event.message)),
    ("freshnessMs", .int freshnessMs),
    ("staleReadsObserved", .int staleReadsObserved)]

/-- The last return of `_payload`. -/
def messagePayload : Dict := [("message", .str event.message), ("citedMemoryIds", .arr []), ("citedRunbookIds", .arr [])]

/-- `_payload` -/
def payloadOf : Except Raised (String × Dict) :=
  match event.type with
  | .incidentReceived => .ok ("incident", incidentPayload rt event)
  | .recallStarted | .recallCompleted => (recallPayload rt event).map ("recall", ·)
  | .reasoningStarted | .decisionProposed | .responseFailed => .ok ("reason", reasonPayload rt event)
  | .actionProposed | .approvalRequired => (actPayload rt eventId event).map ("act", ·)
  | .transactionStarted => (transactionPayload rt eventId occurredAt event "begun").map ("transaction", ·)
  | .transactionCommitted => (transactionPayload rt eventId occurredAt event "committed").map ("transaction", ·)
  | .transactionRolledBack => (transactionPayload rt eventId occurredAt event "rolled_back").map ("transaction", ·)
  | .responseCompleted | .outcomeRecorded =>
    if (event.data.get "memory_id").truthy then (recordPayload rt event).map ("record", ·)
    else .ok ("reason", messagePayload event)

/-- `console_event` -/
def consoleEvent (sequence : Int) (agentId : String) (agentRegion : ConsoleRegion) : Except Raised Json := do
  let (type, payload) ← payloadOf rt eventId occurredAt event
  return .obj [
    ("id", .str eventId.text),
    ("sequence", .int sequence),
    ("occurredAt", .str (rt.isoformat occurredAt)),
    ("caseId", .str event.incidentId.text),
    ("agent", .obj [("id", .str agentId), ("region", .str agentRegion.value)]),
    ("type", .str type),
    ("payload", .obj payload)]

end transport

/-! ## Outcomes -/

/-- The adapters of `OutcomeService`; `σ` is the state of the outcome store. -/
structure OutcomePorts (σ : Type) where
  embed : String → Except Raised Embedding
  recordOutcome : OutcomeCommand → Embedding → σ → σ × Except Raised (Returned OutcomeResult)
  /-- The exception `publish` raises, if any. -/
  publish : AgentEvent → Option Raised
  /-- `datetime.now(UTC)` -/
  now : Timestamp
  /-- `int(interval.total_seconds() * 1000)` -/
  milliseconds : Int → Int

/-- The store, and the events published. -/
structure OutcomeState (σ : Type) where
  store : σ
  published : List AgentEvent := []

namespace OutcomeService

variable {σ : Type} (ports : OutcomePorts σ) (command : OutcomeCommand)

/-- The event of an outcome. -/
def outcomeEvent (result : OutcomeResult) (freshnessMs : Int) : AgentEvent where
  incidentId := command.incidentId
  type := .outcomeRecorded
  stage := "record"
  message := "Recorded " ++ command.outcome.value ++ " outcome for action " ++ command.actionId.text ++ "."
  data := [
    ("memory_id", .str result.eventId.text),
    ("memory_kind", .str "episodic"),
    ("summary", .str command.summary),
    ("freshness_ms", .int freshnessMs),
    ("stale_reads_observed", .int 0),
    ("action_id", .str command.actionId.text),
    ("transaction_id", .str result.transactionId.text),
    ("outcome", .str command.outcome.value),
    ("incident_status", .str result.incidentStatus),
    ("idempotent_replay", .bool result.idempotentReplay)]

/-- `self._events.publish` -/
def publish (event : AgentEvent) : Effect (OutcomeState σ) Raised Unit := fun s =>
  let s' := { s with published := s.published ++ [event] }
  match ports.publish event with
  | none => (.ok (), s')
  | some raised => (.error raised, s')

/-- `self._outcomes.record_outcome` -/
def callRecord (embedding : Embedding) : Effect (OutcomeState σ) Raised (Returned OutcomeResult) := fun s =>
  match ports.recordOutcome command embedding s.store with
  | (store, out) => (out, { s with store })

/-- `OutcomeService.record` -/
def record : Effect (OutcomeState σ) Raised OutcomeResult := do
  let embedding ← Effect.lift (ports.embed command.memoryText)
  let returned ← callRecord ports command embedding
  let result ← Effect.lift returned.get
  let freshnessMs := max (ports.milliseconds (ports.now - result.recordedAt)) 0
  if result.idempotentReplay = false then
    publish ports (outcomeEvent command result freshnessMs)
  return result

end OutcomeService

end Postmortem
