import Postmortem.Consolidation.Contracts
import Mathlib.Data.Prod.Lex

/-!
# Window stores

`InMemoryWindowStore` and `S3WindowStore` of `consolidation/postmortem_consolidation/storage.py`. The bucket is
kept by the three kinds of keys the store writes: pending rows, archived results and the watermark. Bodies are
the decoded JSON.
-/

namespace Postmortem

/-- The bucket. -/
structure Bucket where
  /-- The objects under `{prefix}/pending/`. -/
  pending : List (String × Dict) := []
  /-- The objects under `{prefix}/archive/`. -/
  archive : List (String × Dict) := []
  /-- `{prefix}/state/watermark.json` -/
  watermark : Option Dict := none
deriving DecidableEq

/-- The order by `(updated_at, event_id)`. -/
def ChangeEvent.updatedBefore (a b : ChangeEvent) : Prop :=
  Decimal.le a.updatedAt b.updatedAt = true ∧
    (Decimal.le b.updatedAt a.updatedAt = true → a.eventId ≤ b.eventId)

instance : DecidableRel ChangeEvent.updatedBefore := fun _ _ => inferInstanceAs (Decidable (_ ∧ _))

/-- The rows up to the watermark. -/
def rowsThrough (watermark : Decimal) : List ChangeEvent → Except Raised (List ChangeEvent)
  | [] => .ok []
  | event :: rest => do
    let closed ← Decimal.le? event.updatedAt watermark
    let events ← rowsThrough watermark rest
    return if closed then event :: events else events

/-- `InMemoryWindowStore`, without the archive. -/
structure InMemoryWindowStore where
  pending : List (String × ChangeEvent) := []
  processed : List String := []

namespace InMemoryWindowStore

/-- `put`, of a row whose `deduplication_id` is read. -/
def put (rt : Runtime) (s : InMemoryWindowStore) (e : ChangeEvent) : InMemoryWindowStore :=
  if e.deduplicationId rt ∈ s.processed then s
  else { s with pending := Assoc.set s.pending (e.deduplicationId rt) e }

/-- `read_through` -/
def readThrough (watermark : Decimal) (s : InMemoryWindowStore) : Except Raised (List ChangeEvent) := do
  let events ← rowsThrough watermark (s.pending.map Prod.snd)
  return events.insertionSort ChangeEvent.updatedBefore

end InMemoryWindowStore

namespace S3WindowStore

variable (rt : Runtime)

/-- `change_timestamp_datetime(value).strftime("%Y/%m/%d/%H")` -/
def hourOf (value : Decimal) : Except Raised String := do
  let wallTimeNs ← Decimal.toInt? value
  match rt.hourPath (wallTimeNs / 1000000000) with
  | some path => return path
  | none => .error ⟨.OverflowError, "timestamp out of range for platform time_t", none, none⟩

/-- `_pending_key`, after `{prefix}/pending/`. -/
def pendingKey (e : ChangeEvent) : Except Raised String := do
  let hour ← hourOf rt e.updatedAt
  let deduplicationId ← e.digest rt
  return hour ++ "/" ++ deduplicationId ++ ".json"

/-- `put` -/
def put (e : ChangeEvent) (b : Bucket) : Except Raised Bucket := do
  let key ← pendingKey rt e
  let fields ← e.toDict rt
  return { b with pending := Assoc.set b.pending key fields }

/-- The rows of the listed objects up to the watermark. -/
def readObjects (watermark : Decimal) : List (String × Dict) → Except Raised (List ChangeEvent)
  | [] => .ok []
  | object :: rest => do
    let event ← ChangeEvent.fromDict rt object.2
    let closed ← Decimal.le? event.updatedAt watermark
    let events ← readObjects watermark rest
    return if closed then event :: events else events

/-- `read_through`: the pages list the objects in the order of their keys. -/
def readThrough (watermark : Decimal) (b : Bucket) : Except Raised (List ChangeEvent) := do
  let events ← readObjects rt watermark (b.pending.insertionSort fun a b => a.1 ≤ b.1)
  return events.insertionSort ChangeEvent.updatedBefore

/-- The chunks of 1,000 rows `mark_processed` deletes; `n` bounds the number of chunks. -/
def chunks (size : Nat) : Nat → List ChangeEvent → List (List ChangeEvent)
  | 0, _ => []
  | _, [] => []
  | n + 1, events => events.take size :: chunks size n (events.drop size)

/-- `delete_objects` of the rows' keys. -/
def delete (chunk : List ChangeEvent) (b : Bucket) : Except Raised Bucket := do
  let keys ← chunk.mapM (pendingKey rt)
  return { b with pending := b.pending.filter fun object => object.1 ∉ keys }

/-- The last write of `mark_processed`. -/
def putWatermark (watermark : Decimal) (b : Bucket) : Bucket :=
  { b with watermark := some [("watermark", .str (rt.decimalText watermark))] }

/-- `archive` -/
def archive (result : ModelResult) (idempotencyKey : String) (archivedAt : Timestamp) (b : Bucket) :
    Bucket :=
  let payload : Dict := [
    ("idempotency_key", .str idempotencyKey),
    ("model_id", .str result.modelId),
    ("prompt", .str result.prompt),
    ("raw_response", .str result.rawResponse),
    ("candidate", .obj [
      ("name", .str result.candidate.name),
      ("incident_id", .str result.candidate.incidentId),
      ("outcome", .str result.candidate.outcome.text),
      ("steps_hash", .str (result.candidate.stepsHash rt)),
      ("embedding_dimensions", .int result.candidate.embedding.length),
      ("source_event_ids", .arr (result.candidate.sourceEventIds.map .str))]),
    ("archived_at", .str (rt.isoformat archivedAt))]
  { b with archive := Assoc.set b.archive (idempotencyKey ++ ".json") payload }

end S3WindowStore

end Postmortem
