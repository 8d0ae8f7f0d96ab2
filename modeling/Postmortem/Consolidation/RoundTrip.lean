import Postmortem.Consolidation.Intake

/-!
# The queue and the bucket

Between the webhook, the consumer and the bucket a message is a JSON text. `json.loads` gives back a
value that is `==` to what `json.dumps` was given, whatever order the keys were written in, and
`norm_get` says that such a dictionary reads alike. So the decoders give the message back: the texts
of its timestamps are read exactly, and its other texts are stripped already. What can fail is
`to_dict`, whose `asdict` recurs over metadata of any depth (`queue_message_round_trips_iff`).
-/

namespace Postmortem

namespace Json

variable {d d' : Dict} {k : String}

lemma get_normFields : Assoc.get (normFields d) k = (Assoc.get d k).map norm := by
  induction d with
  | nil => rfl
  | cons f d ih =>
    obtain ⟨l, x⟩ := f
    unfold normFields Assoc.get
    split
    case isTrue => rfl
    case isFalse => exact ih

lemma keys_normFields : (normFields d).map Prod.fst = d.map Prod.fst := by
  induction d with
  | nil => rfl
  | cons f d ih => exact congrArg (f.1 :: ·) ih

lemma get_sorted {fields : Dict} (keyed : Assoc.Keyed fields) :
    Assoc.get (fields.insertionSort fun f g => f.1 ≤ g.1) k = Assoc.get fields k := by
  have perm := List.perm_insertionSort (fun f g : String × Json => f.1 ≤ g.1) fields
  have sorted : Assoc.Keyed (fields.insertionSort fun f g => f.1 ≤ g.1) :=
    (perm.map Prod.fst).nodup_iff.mpr keyed
  ext v
  rw [← sorted.mem_iff, ← keyed.mem_iff, perm.mem_iff]

lemma norm_get (keyed : Assoc.Keyed d) (same : norm (.obj d') = norm (.obj d)) :
    norm (d'.get k) = norm (d.get k) := by
  have sorted : (normFields d').insertionSort (fun f g => f.1 ≤ g.1) =
    (normFields d).insertionSort fun f g => f.1 ≤ g.1 := Json.obj.inj same
  have keyed_norm : Assoc.Keyed (normFields d) := by
    unfold Assoc.Keyed
    rw [keys_normFields]
    exact keyed
  have perm : (normFields d').Perm (normFields d) := by
    have mine := List.perm_insertionSort (fun f g : String × Json => f.1 ≤ g.1) (normFields d')
    rw [sorted] at mine
    exact mine.symm.trans (List.perm_insertionSort _ _)
  have keyed_norm' : Assoc.Keyed (normFields d') := (perm.map Prod.fst).nodup_iff.mpr keyed_norm
  have read : Assoc.get (normFields d') k = Assoc.get (normFields d) k := by
    rw [← get_sorted keyed_norm', ← get_sorted keyed_norm, sorted]
  have default : ∀ x : Option Json, norm (x.getD .null) = (x.map norm).getD .null := by
    intro x
    cases x with
    | none => rfl
    | some v => rfl
  unfold Dict.get Dict.getD
  rw [default, default, ← get_normFields, ← get_normFields, read]

lemma norm_str {v : Json} {s} (h : norm v = norm (.str s)) : v = .str s := by
  cases v with
  | str t => exact h
  | _ => simp [norm] at h

lemma norm_obj {v : Json} (h : norm v = norm (.obj d)) : ∃ d', v = .obj d' := by
  cases v with
  | obj d' => exact ⟨d', rfl⟩
  | _ => simp [norm] at h

end Json

/-- `deduplication_id` -/
def QueueMessage.deduplicationId (rt : Runtime) : QueueMessage → String
  | row e => e.deduplicationId rt
  | closed w => w.deduplicationId rt

/-- `==`: the messages differ at most in how their metadata is written. -/
inductive QueueMessage.PyEq : QueueMessage → QueueMessage → Prop where
  | row {e : ChangeEvent} {metadata : Dict} : Json.pyEq (.obj metadata) (.obj e.metadata) = true →
    PyEq (.row { e with metadata }) (.row e)
  | closed {w} : PyEq (.closed w) (.closed w)

/-- `deduplication_id` of a message. -/
def QueueMessage.digest (rt : Runtime) : QueueMessage → Except Raised String
  | row e => e.digest rt
  | closed w => .ok (w.deduplicationId rt)

/-- `json.loads(json.dumps(value)) == value` -/
def Serializes (rt : Runtime) (dumps : Json → String) (value : Json) : Prop :=
  ∃ v, loads rt (dumps value) = .ok v ∧ Json.pyEq v value = true

section hops

variable (rt : Runtime) (dumps : Json → String)

/-- `json.loads` of a text, which should be an object. -/
def loadsObject (text : String) : Except Raised Dict := do
  match ← loads rt text with
  | .obj value => return value
  | _ => throw ⟨.AttributeError, "object has no attribute 'get'", none, none⟩

/-- The hop through the queue: `parse_queue_message(json.loads(json.dumps(message.to_dict())))`. -/
def QueueMessage.hop (m : QueueMessage) : Except Raised QueueMessage := do
  let fields ← m.toDict rt
  let value ← loadsObject rt (dumps (.obj fields))
  parseQueueMessage rt value

/-- The hop through the bucket: `ChangeEvent.from_dict(json.loads(json.dumps(event.to_dict())))`. -/
def ChangeEvent.hop (e : ChangeEvent) : Except Raised ChangeEvent := do
  let fields ← e.toDict rt
  let value ← loadsObject rt (dumps (.obj fields))
  ChangeEvent.fromDict rt value

/-- The hops lose and alter nothing of the message: it comes back equal, and identical where its dictionary
does, with the same identity and, for a row, the same key in the bucket. -/
structure QueueMessage.Survives (m : QueueMessage) : Prop where
  equal : ∃ m', m.hop rt dumps = .ok m' ∧ m'.PyEq m ∧ m'.digest rt = m.digest rt ∧
    ∀ e, m = .row e → ∃ e', m' = .row e' ∧ e.hop rt dumps = .ok e' ∧
      S3WindowStore.pendingKey rt e' = S3WindowStore.pendingKey rt e
  identical : ∀ fields, m.toDict rt = .ok fields → loads rt (dumps (.obj fields)) = .ok (.obj fields) →
    m.hop rt dumps = .ok m

end hops

section library

variable {rt : Runtime}

/-- Printing does not depend on how texts are loaded. -/
lemma RoundTrips.loads {jsonLoads} (lib : RoundTrips rt) : RoundTrips { rt with jsonLoads } :=
  ⟨lib.decimal, lib.wallTime, lib.instant⟩

/-- Nor on what `asdict` copies. -/
lemma RoundTrips.asdict {asdictTooDeep} (lib : RoundTrips rt) : RoundTrips { rt with asdictTooDeep } :=
  ⟨lib.decimal, lib.wallTime, lib.instant⟩

end library

section decode

variable {rt : Runtime} {e : ChangeEvent} {w : ClosedWindow} {d : Dict}

lemma keyed_fields : Assoc.Keyed (e.fields rt) := by
  show ["event_id", "org_id", "agent_id", "incident_id", "service_id", "event_type", "content",
    "occurred_at", "updated_at", "metadata", "kind"].Nodup
  decide

/-- A row that was decoded is read back from a dictionary equal to its own. -/
lemma fromDict_equal (lib : RoundTrips rt) (h : Decoded rt e)
    (same : Json.norm (.obj d) = Json.norm (.obj (e.fields rt))) :
    ∃ metadata, Json.norm (.obj metadata) = Json.norm (.obj e.metadata) ∧
      d.get "kind" = .str "row" ∧
      ChangeEvent.fromDict rt d = .ok { e with metadata := metadata } := by
  -- the text may hold the fields in another order, so each is read by its name
  have reads := fun k => Json.norm_get (k := k) (@keyed_fields rt e) same
  have object : Json.norm (d.get "metadata") = Json.norm (.obj e.metadata) := reads "metadata"
  obtain ⟨metadata, em⟩ := Json.norm_obj object
  rw [em] at object
  refine ⟨metadata, object, Json.norm_str (reads "kind"), ?_⟩
  apply fromDict_reads lib h _ em
  intro f hf
  apply Json.norm_str
  rw [reads f.1]
  simp only [ChangeEvent.texts, List.mem_cons, List.not_mem_nil, or_false] at hf
  rcases hf with rfl | rfl | rfl | rfl | rfl | rfl | rfl | rfl | rfl
  all_goals rfl

/-- A window that was decoded is read back from a dictionary equal to its own. -/
lemma closed_equal {value field} (lib : RoundTrips rt)
    (h : parseChangeTimestamp rt value field = .ok w.watermark)
    (same : Json.norm (.obj d) = Json.norm (.obj (w.fields rt))) :
    parseQueueMessage rt d = .ok (.closed w) := by
  have keyed : Assoc.Keyed (w.fields rt) := by
    show ["kind", "watermark"].Nodup
    decide
  have reads := fun k => Json.norm_get (k := k) keyed same
  have kind : d.get "kind" = .str "window_closed" := Json.norm_str (reads "kind")
  have watermark : d.get "watermark" = .str (rt.decimalText w.watermark) :=
    Json.norm_str (reads "watermark")
  unfold parseQueueMessage ClosedWindow.fromDict
  rw [kind, watermark, parseChangeTimestamp_text lib h]
  rfl

lemma loadsObject_ok {text} : loadsObject rt text = .ok d ↔ loads rt text = .ok (.obj d) := by
  unfold loadsObject
  cases loads rt text with
  | error e => exact iff_of_false nofun nofun
  | ok v =>
    cases v with
    | obj d' =>
      show Except.ok d' = Except.ok d ↔ Except.ok (Json.obj d') = Except.ok (Json.obj d)
      rw [Except.ok.injEq, Except.ok.injEq, Json.obj.injEq]
    | _ => exact iff_of_false nofun nofun

/-- A row that was decoded passes the hops, where what it is written as is read as that dictionary. -/
lemma row_hops {dumps} (lib : RoundTrips rt) (h : Decoded rt e) (copied : e.toDict rt = .ok (e.fields rt))
    (loaded : loads rt (dumps (.obj (e.fields rt))) = .ok (.obj d))
    (same : Json.norm (.obj d) = Json.norm (.obj (e.fields rt))) :
    ∃ metadata, Json.norm (.obj metadata) = Json.norm (.obj e.metadata) ∧
      (QueueMessage.row e).hop rt dumps = .ok (.row { e with metadata }) ∧ e.hop rt dumps = .ok { e with metadata } := by
  obtain ⟨metadata, equal, kind, decoded⟩ := fromDict_equal lib h same
  have object := loadsObject_ok.mpr loaded
  refine ⟨metadata, equal, ?_, ?_⟩
  · refine bind_ok_iff.mpr ⟨_, copied, bind_ok_iff.mpr ⟨_, object, ?_⟩⟩
    unfold parseQueueMessage
    rw [kind, decoded]
    rfl
  · exact bind_ok_iff.mpr ⟨_, copied, bind_ok_iff.mpr ⟨_, object, decoded⟩⟩

lemma row_survives {dumps} (lib : RoundTrips rt) (h : Decoded rt e) (copied : e.toDict rt = .ok (e.fields rt))
    (json : Serializes rt dumps (.obj (e.fields rt))) : (QueueMessage.row e).Survives rt dumps := by
  obtain ⟨v, loaded, same⟩ := json
  rw [Json.pyEq_iff] at same
  obtain ⟨d, rfl⟩ := Json.norm_obj same
  constructor
  case equal =>
    obtain ⟨metadata, equal, queued, stored⟩ := row_hops lib h copied loaded same
    refine ⟨_, queued, .row (Json.pyEq_iff.mpr equal), rfl, ?_⟩
    intro e' same_row
    cases same_row
    exact ⟨_, rfl, stored, rfl⟩
  case identical =>
    intro fields own whole
    cases copied.symm.trans own
    refine bind_ok_iff.mpr ⟨_, copied, bind_ok_iff.mpr ⟨_, loadsObject_ok.mpr whole, ?_⟩⟩
    show (do
      let e ← ChangeEvent.fromDict rt (e.fields rt)
      return QueueMessage.row e) = _
    rw [fromDict_fields lib h]
    rfl

lemma closed_survives {dumps value field} (lib : RoundTrips rt)
    (read : parseChangeTimestamp rt value field = .ok w.watermark)
    (json : Serializes rt dumps (.obj (w.fields rt))) : (QueueMessage.closed w).Survives rt dumps := by
  obtain ⟨v, loaded, same⟩ := json
  rw [Json.pyEq_iff] at same
  obtain ⟨d, rfl⟩ := Json.norm_obj same
  have hop : (QueueMessage.closed w).hop rt dumps = .ok (.closed w) :=
    bind_ok_iff.mpr ⟨_, rfl, bind_ok_iff.mpr ⟨_, loadsObject_ok.mpr loaded, closed_equal lib read same⟩⟩
  constructor
  case equal => exact ⟨_, hop, .closed, rfl, nofun⟩
  case identical => exact fun _ _ _ => hop

end decode

/-- The hops lose nothing of an accepted message exactly where it is no row whose metadata `asdict` nests too
deep in. `dumps` is `json.dumps` with any options that keep the value. -/
theorem queue_message_round_trips_iff (rt : Runtime) (lib : RoundTrips rt) (dumps : Json → String)
    (m : QueueMessage) (accepted : Accepted rt m)
    (json : ∀ fields, m.toDict rt = .ok fields → Serializes rt dumps (.obj fields)) :
    m.Survives rt dumps ↔ ∀ e, m = .row e → rt.asdictTooDeep e.metadata = false := by
  constructor
  case mp =>
    rintro ⟨⟨m', hop, _⟩, _⟩ e rfl
    -- the hop begins with `to_dict`, which raises on what `asdict` cannot copy
    obtain ⟨fields, copied, _⟩ := bind_ok hop
    exact (toDict_ok.mp copied).1
  case mpr =>
    intro shallow
    cases m with
    | row e =>
      have copied : e.toDict rt = .ok (e.fields rt) := toDict_ok.mpr ⟨shallow e rfl, rfl⟩
      exact row_survives lib accepted.row copied (json _ copied)
    | closed w =>
      obtain ⟨value, field, read⟩ := accepted.closed
      exact closed_survives lib read (json _ rfl)

namespace Sample

/-- A row with nested metadata. -/
def nested : ChangeEvent :=
  { requested (.ofInt 1) with
    metadata := [("tool", .str "rollback"), ("params", .obj [("b", .int 1), ("a", .arr [.bool true, .null])])] }

/-- Its request. -/
def nestedRequest : Json :=
  .obj [("payload", .arr [.obj [
    ("after", .obj [
      ("event_id", .str (" " ++ nested.eventId)), ("org_id", .str nested.orgId),
      ("agent_id", .str nested.agentId), ("incident_id", .str nested.incidentId),
      ("service_id", .str nested.serviceId), ("event_type", .str nested.eventType),
      ("content", .str nested.content), ("occurred_at", .str "1970-01-01T00:00:00Z"),
      ("metadata", .obj nested.metadata)]),
    ("updated", .str "1")]])]

/-- `json.dumps(value, sort_keys=True)` -/
def sortedDumps : Json → String := dumps ", " ": "

/-- The text of the row's dictionary. -/
def nestedText : String :=
  "\x7b\"agent_id\": \"" ++ nested.agentId ++ "\", \"content\": \"deploy of v2\", \"event_id\": \"" ++
    nested.eventId ++ "\", \"event_type\": \"observation\", \"incident_id\": \"" ++ nested.incidentId ++
    "\", \"kind\": \"row\", \"metadata\": \x7b\"params\": \x7b\"a\": [true, null], \"b\": 1\x7d, " ++
    "\"tool\": \"rollback\"\x7d, \"occurred_at\": \"1970-01-01T00:00:00+00:00\", \"org_id\": \"" ++
    nested.orgId ++ "\", \"service_id\": \"" ++ nested.serviceId ++ "\", \"updated_at\": \"1\"\x7d"

/-- What it is read as. -/
def nestedLoaded : Dict :=
  [("agent_id", .str nested.agentId), ("content", .str nested.content), ("event_id", .str nested.eventId),
    ("event_type", .str nested.eventType), ("incident_id", .str nested.incidentId), ("kind", .str "row"),
    ("metadata", .obj [("params", .obj [("a", .arr [.bool true, .null]), ("b", .int 1)]),
      ("tool", .str "rollback")]),
    ("occurred_at", .str "1970-01-01T00:00:00+00:00"), ("org_id", .str nested.orgId),
    ("service_id", .str nested.serviceId), ("updated_at", .str "1")]

/-- The library that reads it. -/
def queue : Runtime :=
  { intake with jsonLoads := fun s => if s = nestedText then some (.obj nestedLoaded) else none }

lemma queue_roundTrips : RoundTrips queue := intake_roundTrips.loads

lemma nested_serializes : Serializes queue sortedDumps (.obj (nested.fields queue)) := by
  have loaded : loads queue (sortedDumps (.obj (nested.fields queue))) = .ok (.obj nestedLoaded) := by decide +kernel
  exact ⟨_, loaded, by decide +kernel⟩

end Sample

/-- `queue_message_round_trips_iff` on a row with nested metadata whose keys are written in order. -/
theorem queue_message_round_trips_sample : (QueueMessage.row Sample.nested).Survives Sample.queue Sample.sortedDumps := by
  have parsed : parseChangefeedBody Sample.queue Sample.nestedRequest = .ok [.row Sample.nested] := by
    decide +kernel
  apply (queue_message_round_trips_iff Sample.queue Sample.queue_roundTrips Sample.sortedDumps (.row Sample.nested)
    ⟨_, _, parsed, List.mem_cons_self⟩ ?json).mpr
  case json =>
    rintro fields copied
    obtain ⟨_, rfl⟩ := toDict_ok.mp copied
    exact Sample.nested_serializes
  exact fun _ _ => rfl

namespace Sample

/-- An object that holds an object, so many levels deep. -/
def nest : Nat → Dict
  | 0 => [("nested", .null)]
  | n + 1 => [("nested", .obj (nest n))]

/-- The value nests at least so many levels. -/
def nests : Nat → Json → Bool
  | 0, _ => true
  | n + 1, .obj fields => fields.any fun f => nests n f.2
  | n + 1, .arr items => items.any (nests n)
  | _, _ => false

lemma nest_ne_nil {n : Nat} : nest n ≠ [] := by
  cases n with
  | zero => exact List.cons_ne_nil _ _
  | succ n => exact List.cons_ne_nil _ _

lemma nests_nest {n : Nat} : nests n (.obj (nest n)) = true := by
  induction n with
  | zero => rfl
  | succ n ih => simp [nest, nests, ih]

/-- The library in which `asdict` gives up on so many levels. -/
def limited (limit : Nat) : Runtime := { queue with asdictTooDeep := fun metadata => nests limit (.obj metadata) }

lemma limited_roundTrips {limit : Nat} : RoundTrips (limited limit) := queue_roundTrips.asdict

/-- A row of the table with nested metadata. -/
def deep (depth : Nat) : EpisodicEvent := { observed with metadata := .obj (nest depth) }

lemma deep_readable {limit depth : Nat} : Readable (limited limit) (deep depth) := by
  constructor
  case incident =>
    show OfIncident observed
    decide
  case metadata => exact .inr (.inl ⟨nest depth, rfl⟩)
  case occurredAt =>
    have printed : (limited limit).jsonTimestamp (deep depth).occurredAt =
      queue.jsonTimestamp observed.occurredAt := rfl
    have parses : (limited limit).fromIsoformat = queue.fromIsoformat := rfl
    unfold ReadableTime
    rw [printed, parses]
    decide +kernel

lemma deep_row_stays {limit : Nat} : ∃ e, ReadFrom (limited limit) (deep limit) e ∧
    Accepted (limited limit) (.row e) ∧ ¬ (QueueMessage.row e).Survives (limited limit) sortedDumps := by
  have stamp : (limited limit).decimalOfText "1" ≠ none := by
    show queue.decimalOfText "1" ≠ none
    decide +kernel
  obtain ⟨e, read⟩ := (fromChangefeed_ok stamp (by decide)).mpr (@deep_readable limit limit)
  have batch : parseChangefeedBody (limited limit) (changefeedBatch (limited limit) [(deep limit, "1")]) =
      .ok [.row e] := by
    show parseItems (limited limit) [.obj (changefeedRow (limited limit) "1" (deep limit))] = _
    rw [parseItems, parseItem_row, read]
    rfl
  have metadata : e.metadata = nest limit := (ReadFrom.spec ⟨"1", read⟩).2.2.2 _ rfl nest_ne_nil
  refine ⟨e, ⟨"1", read⟩, ⟨_, _, batch, List.mem_cons_self⟩, ?_⟩
  rintro ⟨⟨m', hop, _⟩, _⟩
  obtain ⟨fields, copied, _⟩ := bind_ok hop
  have shallow := (toDict_ok.mp copied).1
  rw [metadata] at shallow
  have tooDeep : (limited limit).asdictTooDeep (nest limit) = true := nests_nest
  exact Bool.noConfusion (shallow.symm.trans tooDeep)

end Sample

/-- A row of the table with metadata that nests a thousand levels is accepted, and does not reach the queue. -/
theorem deep_row_not_queued : RoundTrips (Sample.limited 1000) ∧
    ∃ e, ReadFrom (Sample.limited 1000) (Sample.deep 1000) e ∧ Accepted (Sample.limited 1000) (.row e) ∧
      ¬ (QueueMessage.row e).Survives (Sample.limited 1000) Sample.sortedDumps :=
  ⟨Sample.limited_roundTrips, Sample.deep_row_stays⟩

end Postmortem
