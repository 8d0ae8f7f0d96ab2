import Postmortem.Consolidation.Pipeline
import Postmortem.Consolidation.RoundTrip
import Postmortem.Lib.Fifo

/-!
# The consumer of the queue

`consolidator_handler` of `consolidation/postmortem_consolidation/handlers.py`. A `Processor` is any `process`: what it
returns or raises, and what it leaves behind in either case. `Consumed` is what one batch comes to, and
`consolidatorHandler_in_order` follows the records through the redeliveries of a first-in-first-out queue.
-/

namespace Postmortem

/-- `_processor.process` -/
abbrev Processor (σ : Type) := σ → QueueMessage → Except Raised ProcessingResult × σ

/-- What `consolidator_handler` returns. -/
inductive HandlerResult where
  /-- `batchItemFailures` -/
  | failures (itemIdentifiers : List String)
  /-- The result for the window of a scheduled call. -/
  | window (completedGroups : Nat) (mutations : List Operation)

section handler

variable (rt : Runtime) {σ : Type}

/-- `str(record.get("messageId") or index)` -/
def recordIdentifier (index : Nat) : Json → Except Raised String
  | .obj record => .ok (Python.str rt ((Dict.get record "messageId").orElse (.int index)))
  | _ => .error ⟨.AttributeError, "object has no attribute 'get'", none, none⟩

/-- The message in a record: `parse_queue_message(json.loads(record["body"]))`. -/
def recordMessage : Json → Except Raised QueueMessage
  | .obj record =>
    match Assoc.get record "body" with
    | some (.str body) => do
      match ← loads rt body with
      | .obj value => parseQueueMessage rt value
      | _ => throw ⟨.AttributeError, "object has no attribute 'get'", none, none⟩
    | some _ => .error ⟨.TypeError, "the JSON object must be str, bytes or bytearray", none, none⟩
    | none => .error ⟨.KeyError, "'body'", none, none⟩
  | _ => .error ⟨.TypeError, "indices must be integers or slices, not str", none, none⟩

/-- The `try` block for one record. The log line that ends it prints numbers and names of operations. -/
def handleRecord (process : Processor σ) (s : σ) (record : Json) : Except Raised ProcessingResult × σ :=
  match recordMessage rt record with
  | .error e => (.error e, s)
  | .ok message => process s message

/-- The failures from a record on. -/
def failuresFrom (index : Nat) (remaining : List Json) : Except Raised (List String) :=
  (remaining.zipIdx index).mapM fun x => recordIdentifier rt x.2 x.1

/-- The loop over the records. -/
def handleRecords (process : Processor σ) : Nat → List Json → σ → Except Raised (List String) × σ
  | _, [], s => (.ok [], s)
  | index, record :: rest, s =>
    match recordIdentifier rt index record with
    | .error e => (.error e, s)
    | .ok _ =>
      match handleRecord rt process s record with
      | (.ok _, s') => handleRecords process (index + 1) rest s'
      -- this and every later record of the batch
      | (.error _, s') => (failuresFrom rt index (record :: rest), s')

/-- `consolidator_handler` at the time `now`, once there is a processor. -/
def consolidatorHandler (process : Processor σ) (now : Timestamp) (event : Dict) (s : σ) :
    Except Raised HandlerResult × σ :=
  match event.get "Records" with
  | .arr records =>
    match handleRecords rt process 0 records s with
    | (.ok failures, s') => (.ok (.failures failures), s')
    | (.error e, s') => (.error e, s')
  | _ =>
    match process s (.closed ⟨.ofInt (now * 1000)⟩) with
    | (.ok result, s') => (.ok (.window result.completedGroups (result.mutations.map RunbookMutation.operation)), s')
    | (.error e, s') => (.error e, s')

/-- The handler as the queue calls it. -/
def consumer (process : Processor σ) (now : Timestamp) : Fifo.Handler Dict String σ := fun s batch =>
  match consolidatorHandler rt process now [("Records", .arr (batch.map .obj))] s with
  | (.ok (.failures failures), s') => (some failures, s')
  | (_, s') => (none, s')

end handler

/-! ## One batch -/

section batch

variable (rt : Runtime) {σ : Type} (process : Processor σ)

/-- `str(record.get("messageId"))` -/
def messageId (record : Dict) : String := Python.str rt (record.get "messageId")

/-- The records have message ids, and they are distinct. -/
structure Labelled (records : List Dict) : Prop where
  present : ∀ record ∈ records, (record.get "messageId").truthy = true
  distinct : (records.map (messageId rt)).Nodup

/-- The records were processed one after the other: the message of each of them went to the processor once, and the
processor returned. -/
inductive Processed : σ → List Dict → σ → Prop where
  | nil {s} : Processed s [] s
  | cons {s s' s'' record rest message result} : recordMessage rt (.obj record) = .ok message →
    process s message = (.ok result, s') → Processed s' rest s'' → Processed s (record :: rest) s''

/-- The record fails, from the first state to the second. -/
inductive Failed (s : σ) (record : Dict) : σ → Prop where
  /-- Its body is no message, and nothing is processed. -/
  | malformed {e} : recordMessage rt (.obj record) = .error e → Failed s record s
  /-- The processor raises on its message. -/
  | raised {message e s'} : recordMessage rt (.obj record) = .ok message → process s message = (.error e, s') →
    Failed s record s'

/-- A batch was processed up to its first record that fails, which is reported with all records after it. -/
inductive Consumed (s : σ) : List Dict → List Dict → σ → Prop where
  | all {done s'} : Processed rt process s done s' → Consumed s done [] s'
  | stopped {done s' record s'' rest} : Processed rt process s done s' → Failed rt process s' record s'' →
    Consumed s done (record :: rest) s''

end batch

section proof

variable {rt : Runtime} {σ : Type} {process : Processor σ} {records : List Dict}

lemma Labelled.sublist {part} (labelled : Labelled rt records) (h : part.Sublist records) : Labelled rt part := by
  constructor
  case present => exact fun record hr => labelled.present record (h.subset hr)
  case distinct => exact (h.map _).nodup labelled.distinct

lemma recordIdentifier_labelled {index record} (h : (Dict.get record "messageId").truthy = true) :
    recordIdentifier rt index (.obj record) = .ok (messageId rt record) := by
  simp only [recordIdentifier, messageId, Json.orElse]
  rw [if_pos h]

lemma failuresFrom_labelled {index} (present : ∀ record ∈ records, (Dict.get record "messageId").truthy = true) :
    failuresFrom rt index (records.map .obj) = .ok (records.map (messageId rt)) := by
  unfold failuresFrom
  induction records generalizing index with
  | nil => rfl
  | cons record rest ih =>
    obtain ⟨first, others⟩ := List.forall_mem_cons.mp present
    rw [List.map_cons, List.zipIdx_cons, List.mapM_cons, recordIdentifier_labelled first, ih others]
    rfl

lemma handleRecord_ok {s s' record result} (attempt : handleRecord rt process s (.obj record) = (.ok result, s')) :
    ∃ message, recordMessage rt (.obj record) = .ok message ∧ process s message = (.ok result, s') := by
  unfold handleRecord at attempt
  cases read : recordMessage rt (.obj record) with
  | error e =>
    rw [read] at attempt
    cases attempt
  | ok message =>
    rw [read] at attempt
    exact ⟨message, rfl, attempt⟩

lemma handleRecord_error {s s' record e} (attempt : handleRecord rt process s (.obj record) = (.error e, s')) :
    Failed rt process s record s' := by
  unfold handleRecord at attempt
  cases read : recordMessage rt (.obj record) with
  | error e =>
    rw [read] at attempt
    cases attempt
    exact .malformed read
  | ok message =>
    rw [read] at attempt
    exact .raised read attempt

/-- The loop stops at the first record that fails. -/
lemma handleRecords_consumed {index s} (present : ∀ record ∈ records, (Dict.get record "messageId").truthy = true) :
    ∃ done reported s', records = done ++ reported ∧ Consumed rt process s done reported s' ∧
      handleRecords rt process index (records.map .obj) s = (.ok (reported.map (messageId rt)), s') := by
  induction records generalizing index s with
  | nil => exact ⟨[], [], s, rfl, .all .nil, rfl⟩
  | cons record rest ih =>
    obtain ⟨first, others⟩ := List.forall_mem_cons.mp present
    have labelled := @recordIdentifier_labelled rt index record first
    cases attempt : handleRecord rt process s (.obj record) with
    | mk result s' =>
      cases result with
      | error e =>
        -- the records after the one that fails are reported unread
        have reported := @failuresFrom_labelled rt (record :: rest) index present
        refine ⟨[], record :: rest, s', rfl, .stopped .nil (handleRecord_error attempt), ?_⟩
        rw [List.map_cons] at reported
        rw [List.map_cons, handleRecords, labelled]
        simp only [attempt, reported]
      | ok result =>
        obtain ⟨done, reported, s'', rfl, consumed, h⟩ := @ih (index + 1) s' others
        obtain ⟨message, read, returned⟩ := handleRecord_ok attempt
        refine ⟨record :: done, reported, s'', rfl, ?_, ?_⟩
        · cases consumed with
          | all processed => exact .all (.cons read returned processed)
          | stopped processed failed => exact .stopped (.cons read returned processed) failed
        · rw [List.map_cons, handleRecords, labelled]
          simp only [attempt, h]

lemma consolidatorHandler_consumed {now s} {event : Dict} (batch : event.get "Records" = .arr (records.map .obj))
    (present : ∀ record ∈ records, (Dict.get record "messageId").truthy = true) :
    ∃ done reported s', records = done ++ reported ∧ Consumed rt process s done reported s' ∧
      consolidatorHandler rt process now event s = (.ok (.failures (reported.map (messageId rt))), s') := by
  obtain ⟨done, reported, s', e, consumed, h⟩ := @handleRecords_consumed rt σ process records 0 s present
  refine ⟨done, reported, s', e, consumed, ?_⟩
  simp only [consolidatorHandler, batch, h]

lemma consumer_consumed {now s} (present : ∀ record ∈ records, (Dict.get record "messageId").truthy = true) :
    ∃ done reported s', records = done ++ reported ∧ Consumed rt process s done reported s' ∧
      consumer rt process now s records = (some (reported.map (messageId rt)), s') := by
  obtain ⟨done, reported, s', e, consumed, h⟩ :=
    @consolidatorHandler_consumed rt σ process records now s [("Records", .arr (records.map .obj))] rfl present
  refine ⟨done, reported, s', e, consumed, ?_⟩
  simp only [consumer, h]

end proof

/-! ## Redelivery -/

section redelivery

variable (rt : Runtime) {σ : Type}

/-- Every delivery is to the handler, with some processor and at some time. -/
def Consuming (ops : List (Fifo.Op Dict String σ)) : Prop :=
  ∀ size handler, .deliver size handler ∈ ops → ∃ process now, handler = consumer rt process now

/-- The next delivery takes a batch up to its first failure, and leaves the rest of the queue as it was. -/
def NextInOrder (q : Fifo.Queue Dict σ) : Prop :=
  ∀ process now size, ∃ done reported s', q.pending.take size = done ++ reported ∧
    Consumed rt process q.world done reported s' ∧
    Fifo.step (messageId rt) q (.deliver size (consumer rt process now)) =
      { pending := reported ++ q.pending.drop size, deleted := q.deleted ++ done, world := s' }

variable {rt}

/-- The next delivery from a queue of labelled records. -/
lemma nextInOrder {q : Fifo.Queue Dict σ} (labelled : Labelled rt q.pending) : NextInOrder rt q := by
  intro process now size
  have part := labelled.sublist (List.take_sublist size _)
  obtain ⟨done, reported, s', e, consumed, h⟩ :=
    @consumer_consumed rt σ process _ now q.world part.present
  exact ⟨done, reported, s', e, consumed, Fifo.deliver_suffix e h labelled.distinct⟩

/-- A batch is processed in order up to the first record that fails, which is reported with all after it,
and no later delivery of what is reported leaves a gap or changes the order: after any sends and
deliveries, what is off the queue and what is pending is what was sent. -/
theorem consolidatorHandler_in_order (rt : Runtime) (process : Processor σ) (now : Timestamp) (event : Dict)
    (records : List Dict) (s : σ) (batch : event.get "Records" = .arr (records.map .obj))
    (labelled : Labelled rt records) :
    (∃ done reported s', records = done ++ reported ∧ Consumed rt process s done reported s' ∧
      consolidatorHandler rt process now event s = (.ok (.failures (reported.map (messageId rt))), s') ∧
      records.filter (messageId rt · ∈ reported.map (messageId rt)) = reported) ∧
    ∀ ops : List (Fifo.Op Dict String σ), Consuming rt ops → Labelled rt (records ++ Fifo.sent ops) →
      (Run.run (Fifo.step (messageId rt)) { pending := records, world := s } ops).deleted ++
          (Run.run (Fifo.step (messageId rt)) { pending := records, world := s } ops).pending =
        records ++ Fifo.sent ops ∧
      NextInOrder rt (Run.run (Fifo.step (messageId rt)) { pending := records, world := s } ops) := by
  constructor
  case left =>
    obtain ⟨done, reported, s', rfl, consumed, h⟩ :=
      @consolidatorHandler_consumed rt σ process records now s event batch labelled.present
    exact ⟨done, reported, s', rfl, consumed, h, (Fifo.filter_reported labelled.distinct).1⟩
  case right =>
    intro ops consuming labelled
    have order := @Fifo.run_in_order Dict String σ _ (messageId rt) ops { pending := records, world := s } (by
      intro size handler h part _ inside world
      obtain ⟨process, now, rfl⟩ := consuming size handler h
      obtain ⟨done, reported, s', e, _, h⟩ := @consumer_consumed rt σ process part now world
        (labelled.sublist inside.sublist).present
      exact ⟨done, reported, e, congrArg Prod.fst h⟩) labelled.distinct
    refine ⟨order, nextInOrder (labelled.sublist ?_)⟩
    rw [List.nil_append] at order
    rw [← order]
    exact List.sublist_append_right _ _

end redelivery

namespace Sample

/-- A record of the queue. -/
def queueRecord (id body : String) : Dict := [("messageId", .str id), ("body", .str body)]

/-- A row, a body that is not JSON, and the row again. -/
def queueRecords : List Dict := [queueRecord "a" nestedText, queueRecord "b" "", queueRecord "c" nestedText]

/-- A processor that keeps what it is given. -/
def keeping : Processor (List QueueMessage) := fun kept message => (.ok { bufferedEvents := 1 }, kept ++ [message])

lemma queueRecords_labelled : Labelled queue queueRecords := by
  constructor
  case present =>
    simp only [queueRecords, List.forall_mem_cons]
    exact ⟨rfl, rfl, rfl, nofun⟩
  case distinct => decide +kernel

end Sample

/-- `consolidatorHandler_in_order` on a batch with a malformed body between two rows. -/
theorem consolidatorHandler_in_order_sample : ∃ done reported s', Sample.queueRecords = done ++ reported ∧
    Consumed Sample.queue Sample.keeping [] done reported s' ∧
    consolidatorHandler Sample.queue Sample.keeping 0 [("Records", .arr (Sample.queueRecords.map .obj))] [] =
      (.ok (.failures (reported.map (messageId Sample.queue))), s') := by
  obtain ⟨⟨done, reported, s', e, consumed, h, _⟩, _⟩ := consolidatorHandler_in_order Sample.queue Sample.keeping 0
    [("Records", .arr (Sample.queueRecords.map .obj))] Sample.queueRecords [] rfl Sample.queueRecords_labelled
  exact ⟨done, reported, s', e, consumed, h⟩

end Postmortem
