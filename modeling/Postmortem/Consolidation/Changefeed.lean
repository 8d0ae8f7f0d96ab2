import Postmortem.Consolidation.Contracts
import Postmortem.System

/-!
# The changefeed

What CockroachDB sends for the rows of `episodic_events`, and what
`consolidation/postmortem_consolidation/contracts.py` makes of a request: `parse_changefeed_body` and
`parse_queue_message`. `parses_iff` compares the rows the table admits with those the decoder accepts.
-/

namespace Postmortem

/-- The JSON of a nullable identifier. -/
def uuidJson (u : Option Uuid) : Json := Json.ofText? (u.map Uuid.text)

/-- The changefeed envelope of an episode. -/
def changefeedRow (rt : Runtime) (updated : String) (e : EpisodicEvent) : Dict :=
  [("after", .obj [
    ("event_id", .str e.eventId.text),
    ("org_id", .str e.orgId.text),
    ("agent_id", .str e.agentId.text),
    ("incident_id", uuidJson e.incidentId),
    ("session_id", uuidJson e.sessionId),
    ("service_id", uuidJson e.serviceId),
    ("occurred_at", .str (rt.jsonTimestamp e.occurredAt)),
    ("event_type", .str e.eventType.text),
    ("content", Json.ofText? e.content),
    ("metadata", e.metadata),
    ("runbook_id", uuidJson e.runbookId),
    ("created_at", .str (rt.jsonTimestamp e.createdAt))]),
  ("updated", .str updated)]

/-- The row is what the changefeed makes of the episode. -/
def ReadFrom (rt : Runtime) (row : EpisodicEvent) (e : ChangeEvent) : Prop :=
  ∃ updated, ChangeEvent.fromChangefeed rt (changefeedRow rt updated row) = .ok e

/-- The body of a batch: every row with its `updated` timestamp. -/
def changefeedBatch (rt : Runtime) (batch : List (EpisodicEvent × String)) : Json := .obj [
  ("payload", .arr (batch.map fun x => .obj (changefeedRow rt x.2 x.1))),
  ("length", .int batch.length)]

/-- `QueueMessage` -/
inductive QueueMessage where
  | row (e : ChangeEvent)
  | closed (w : ClosedWindow)
deriving DecidableEq

/-- `ClosedWindow.from_changefeed` -/
def ClosedWindow.fromChangefeed (rt : Runtime) (envelope : Dict) : Except Raised ClosedWindow := do
  let watermark ← parseChangeTimestamp rt (envelope.get "resolved") "resolved"
  return { watermark }

/-- `ClosedWindow.to_dict` -/
def ClosedWindow.fields (rt : Runtime) (w : ClosedWindow) : Dict :=
  [("kind", .str "window_closed"), ("watermark", .str (rt.decimalText w.watermark))]

/-- `ClosedWindow.from_dict` -/
def ClosedWindow.fromDict (rt : Runtime) (value : Dict) : Except Raised ClosedWindow := do
  let watermark ← parseChangeTimestamp rt (value.get "watermark") "watermark"
  return { watermark }

/-- `ClosedWindow.deduplication_id` -/
def ClosedWindow.deduplicationId (rt : Runtime) (w : ClosedWindow) : String :=
  rt.sha256 ("window:" ++ rt.decimalText w.watermark)

/-- The dictionary `to_dict` returns for a message. -/
def QueueMessage.fields (rt : Runtime) : QueueMessage → Dict
  | row e => e.fields rt
  | closed w => w.fields rt

/-- `to_dict` of a message. -/
def QueueMessage.toDict (rt : Runtime) : QueueMessage → Except Raised Dict
  | row e => e.toDict rt
  | closed w => .ok (w.fields rt)

section parse

variable (rt : Runtime)

/-- The loop over the items, for one item. -/
def parseItem : Json → Except Raised (Option QueueMessage)
  | .obj raw =>
    if Dict.get raw "resolved" ≠ .null then do
      let w ← ClosedWindow.fromChangefeed rt raw
      return some (.closed w)
    else if Dict.get raw "after" ≠ .null then do
      let e ← ChangeEvent.fromChangefeed rt raw
      return some (.row e)
    else return none
  | _ => valueError "each changefeed payload item must be an object"

/-- The loop over the items. -/
def parseItems : List Json → Except Raised (List QueueMessage)
  | [] => .ok []
  | raw :: items => do
    let message ← parseItem rt raw
    let messages ← parseItems items
    return message.toList ++ messages

/-- `parse_changefeed_body` -/
def parseChangefeedBody : Json → Except Raised (List QueueMessage)
  | .obj value =>
    match Dict.getD value "payload" (.obj value) with
    | .obj item => parseItems rt [.obj item]
    | .arr items => parseItems rt items
    | _ => valueError "changefeed payload must be an object or array"
  | _ => valueError "changefeed request body must be a JSON object"

/-- `parse_queue_message` -/
def parseQueueMessage (value : Dict) : Except Raised QueueMessage :=
  if value.get "kind" = .str "row" then do
    let e ← ChangeEvent.fromDict rt value
    return .row e
  else if value.get "kind" = .str "window_closed" then do
    let w ← ClosedWindow.fromDict rt value
    return .closed w
  else valueError ("unsupported queue message kind: " ++ rt.repr (value.get "kind"))

end parse

lemma requiredText_str {s field t} (h : requiredText (.str s) field = .ok t) : t = Python.strip s := by
  unfold requiredText at h
  split at h
  case h_1 s' e =>
    cases e
    split at h
    case isTrue => cases h
    case isFalse => cases h; rfl
  case h_2 ne => exact absurd rfl (ne s)

lemma EpisodeType.strip_text (t : EpisodeType) : Python.strip t.text = t.text := by
  cases t <;> decide +kernel

/-- What a row takes from its episode. -/
lemma ReadFrom.spec {rt row e} (h : ReadFrom rt row e) :
    e.orgId = row.orgId.text ∧ e.eventType = row.eventType.text ∧
      (∀ u, row.incidentId = some u → e.incidentId = u.text) ∧
      ∀ fields, row.metadata = .obj fields → fields ≠ [] → e.metadata = fields := by
  obtain ⟨updated, h⟩ := h
  have after : Dict.get (changefeedRow rt updated row) "after" = .obj _ := rfl
  simp only [ChangeEvent.fromChangefeed, after] at h
  obtain ⟨metadata, em, h⟩ := bind_ok h
  obtain ⟨eventId, _, h⟩ := bind_ok h
  obtain ⟨orgId, eo, h⟩ := bind_ok h
  obtain ⟨agentId, _, h⟩ := bind_ok h
  obtain ⟨incidentId, ei, h⟩ := bind_ok h
  obtain ⟨serviceId, _, h⟩ := bind_ok h
  obtain ⟨eventType, et, h⟩ := bind_ok h
  obtain ⟨occurredAt, _, h⟩ := bind_ok h
  obtain ⟨updatedAt, _, h⟩ := bind_ok h
  cases h
  refine ⟨?_, ?_, ?_, ?_⟩
  · exact (requiredText_str eo).trans (Python.strip_text _)
  · exact (requiredText_str et).trans (EpisodeType.strip_text _)
  · intro u e
    have ei : requiredText (uuidJson row.incidentId) "after.incident_id" = .ok incidentId := ei
    rw [e] at ei
    exact (requiredText_str ei).trans (Python.strip_text _)
  · intro fields e ne
    have em : changefeedMetadata rt row.metadata = .ok metadata := em
    have truthy : (Json.obj fields).truthy = true := by simpa [Json.truthy] using ne
    rw [e, changefeedMetadata, Json.orElse, if_pos truthy] at em
    cases em
    rfl

/-! ## Rows of the table -/

/-- A timestamp as CockroachDB's `updated` option prints it: wall time and logical counter. -/
def IsHlc (s : String) : Prop :=
  ∃ wall logical : List Char, wall ≠ [] ∧ logical ≠ [] ∧ (∀ c ∈ wall ++ logical, c.isDigit = true) ∧
    s = String.ofList (wall ++ '.' :: logical)

/-- The event of an episode. -/
structure EventOf (row : EpisodicEvent) (e : ChangeEvent) : Prop where
  eventId : e.eventId = row.eventId.text
  orgId : e.orgId = row.orgId.text
  agentId : e.agentId = row.agentId.text
  incidentId : row.incidentId.map Uuid.text = some e.incidentId
  serviceId : row.serviceId.map Uuid.text = some e.serviceId
  eventType : e.eventType = row.eventType.text
  content : e.content = row.content.getD ""

/-- The row can belong to an incident. -/
def OfIncident (row : EpisodicEvent) : Prop := row.incidentId ≠ none ∧ row.serviceId ≠ none

instance (row : EpisodicEvent) : Decidable (OfIncident row) := inferInstanceAs (Decidable (_ ∧ _))

/-- The decoder reads the metadata: an object, an object as a text, or a value that is false. -/
def ReadableMetadata (rt : Runtime) (metadata : Json) : Prop :=
  metadata.truthy = false ∨ (∃ fields, metadata = .obj fields) ∨
    ∃ s fields, metadata = .str s ∧ rt.jsonLoads s = some (.obj fields)

/-- The decoder reads the time: `datetime` begins with year 1 and ends with year 9999. -/
def ReadableTime (rt : Runtime) (t : Timestamp) : Prop :=
  rt.jsonTimestamp t ≠ "" ∧ rt.fromIsoformat (Python.replaceZ (rt.jsonTimestamp t)) ≠ none

/-- The decoder reads the row. -/
structure Readable (rt : Runtime) (row : EpisodicEvent) : Prop where
  incident : OfIncident row
  metadata : ReadableMetadata rt row.metadata
  occurredAt : ReadableTime rt row.occurredAt

/-- The batch is parsed, to one event for each of its rows of an incident, in order. -/
def Parses (rt : Runtime) (batch : List (EpisodicEvent × String)) : Prop :=
  ∃ events, parseChangefeedBody rt (changefeedBatch rt batch) = .ok (events.map .row) ∧
    List.Forall₂ (fun x e => EventOf x.1 e) (batch.filter fun x => OfIncident x.1) events

section rows

variable {rt : Runtime} {row : EpisodicEvent} {updated : String}

lemma requiredText_ok {s field} (h : Python.strip s ≠ "") :
    requiredText (.str s) field = .ok (Python.strip s) := if_neg h

lemma requiredText_uuid {u : Uuid} {field} : requiredText (.str u.text) field = .ok u.text := by
  rw [requiredText_ok, Python.strip_text]
  rw [Python.strip_text]
  exact u.text_ne_empty

lemma requiredText_uuidJson {u : Option Uuid} {field t} :
    requiredText (uuidJson u) field = .ok t ↔ u.map Uuid.text = some t := by
  cases u with
  | none => simp [uuidJson, Json.ofText?, requiredText, valueError]
  | some u =>
    show requiredText (.str u.text) field = .ok t ↔ _
    rw [requiredText_uuid]
    simp

lemma changefeedMetadata_ok {raw} : (∃ fields, changefeedMetadata rt raw = .ok fields) ↔
    ReadableMetadata rt raw := by
  unfold changefeedMetadata ReadableMetadata Json.orElse
  cases truthy : raw.truthy with
  | false => simp
  | true =>
    cases raw with
    | obj fields => simp
    | str s =>
      simp only [if_true]
      cases loaded : rt.jsonLoads s with
      | none => cases rt.jsonTooDeep s <;> simp [loaded]
      | some v => cases v <;> simp [loaded, valueError]
    | null => simp [valueError]
    | bool => simp [valueError]
    | int => simp [valueError]
    | float => simp [valueError]
    | arr => simp [valueError]

lemma parseTimestamp_ok {t field} : (∃ parsed, parseTimestamp rt (.str (rt.jsonTimestamp t)) field =
    .ok parsed) ↔ ReadableTime rt t := by
  unfold parseTimestamp ReadableTime
  by_cases blank : rt.jsonTimestamp t = ""
  · simp [blank, valueError]
  · simp only [blank, if_false]
    cases rt.fromIsoformat (Python.replaceZ (rt.jsonTimestamp t)) with
    | some parsed => simp [blank]
    | none =>
      cases rt.isoOverflows (Python.replaceZ (rt.jsonTimestamp t)) <;> simp [blank, valueError]

/-- The row of an episode is decoded exactly where it is readable. -/
lemma fromChangefeed_ok (stamp : rt.decimalOfText updated ≠ none) (full : updated ≠ "") :
    (∃ e, ChangeEvent.fromChangefeed rt (changefeedRow rt updated row) = .ok e) ↔ Readable rt row := by
  have after : Dict.get (changefeedRow rt updated row) "after" = .obj _ := rfl
  simp only [ChangeEvent.fromChangefeed, after]
  constructor
  · rintro ⟨e, h⟩
    obtain ⟨metadata, em, h⟩ := bind_ok h
    obtain ⟨_, _, h⟩ := bind_ok h
    obtain ⟨_, _, h⟩ := bind_ok h
    obtain ⟨_, _, h⟩ := bind_ok h
    obtain ⟨incidentId, ei, h⟩ := bind_ok h
    obtain ⟨serviceId, es, h⟩ := bind_ok h
    obtain ⟨_, _, h⟩ := bind_ok h
    obtain ⟨occurredAt, eo, h⟩ := bind_ok h
    have incident := requiredText_uuidJson.mp ei
    have service := requiredText_uuidJson.mp es
    refine ⟨⟨?_, ?_⟩, changefeedMetadata_ok.mp ⟨metadata, em⟩, parseTimestamp_ok.mp ⟨occurredAt, eo⟩⟩
    · intro none
      rw [none] at incident
      cases incident
    · intro none
      rw [none] at service
      cases service
  · rintro ⟨⟨incident, service⟩, metadata, occurredAt⟩
    obtain ⟨fields, em⟩ := changefeedMetadata_ok.mpr metadata
    obtain ⟨i, hi⟩ := Option.ne_none_iff_exists'.mp incident
    obtain ⟨s, hs⟩ := Option.ne_none_iff_exists'.mp service
    obtain ⟨t, et⟩ := (@parseTimestamp_ok _ _ "after.occurred_at").mpr occurredAt
    obtain ⟨d, ed⟩ := Option.ne_none_iff_exists'.mp stamp
    have ei : requiredText (uuidJson row.incidentId) "after.incident_id" = .ok i.text :=
      requiredText_uuidJson.mpr (by rw [hi]; rfl)
    have es : requiredText (uuidJson row.serviceId) "after.service_id" = .ok s.text :=
      requiredText_uuidJson.mpr (by rw [hs]; rfl)
    have ety : requiredText (.str row.eventType.text) "after.event_type" = .ok row.eventType.text := by
      rw [requiredText_ok, EpisodeType.strip_text]
      rw [EpisodeType.strip_text]
      cases row.eventType <;> decide
    have truthy : (Json.str updated).truthy = true := by simpa [Json.truthy] using full
    have eu : parseChangeTimestamp rt ((Json.str updated).orElse (.str (rt.jsonTimestamp row.createdAt)))
        "updated" = .ok d := by
      rw [Json.orElse, if_pos truthy]
      simp only [parseChangeTimestamp, full, if_false, ed]
    show ∃ e, (do
      let metadata ← changefeedMetadata rt row.metadata
      let eventId ← requiredText (.str row.eventId.text) "after.event_id"
      let orgId ← requiredText (.str row.orgId.text) "after.org_id"
      let agentId ← requiredText (.str row.agentId.text) "after.agent_id"
      let incidentId ← requiredText (uuidJson row.incidentId) "after.incident_id"
      let serviceId ← requiredText (uuidJson row.serviceId) "after.service_id"
      let eventType ← requiredText (.str row.eventType.text) "after.event_type"
      let occurredAt ← parseTimestamp rt (.str (rt.jsonTimestamp row.occurredAt)) "after.occurred_at"
      let updatedAt ← parseChangeTimestamp rt
        ((Json.str updated).orElse (.str (rt.jsonTimestamp row.createdAt))) "updated"
      return ({
        eventId, orgId, agentId, incidentId, serviceId, eventType
        content := Python.str rt ((Json.ofText? row.content).orElse (.str ""))
        occurredAt, updatedAt, metadata } : ChangeEvent)) = .ok e
    rw [em, requiredText_uuid, requiredText_uuid, requiredText_uuid, ei, es, ety, et, eu]
    exact ⟨_, rfl⟩

lemma ReadFrom.event {e} (h : ReadFrom rt row e) : EventOf row e := by
  obtain ⟨orgId, eventType, _⟩ := h.spec
  obtain ⟨updated, h⟩ := h
  have after : Dict.get (changefeedRow rt updated row) "after" = .obj _ := rfl
  simp only [ChangeEvent.fromChangefeed, after] at h
  obtain ⟨_, _, h⟩ := bind_ok h
  obtain ⟨_, ee, h⟩ := bind_ok h
  obtain ⟨_, _, h⟩ := bind_ok h
  obtain ⟨_, ea, h⟩ := bind_ok h
  obtain ⟨_, ei, h⟩ := bind_ok h
  obtain ⟨_, es, h⟩ := bind_ok h
  obtain ⟨_, _, h⟩ := bind_ok h
  obtain ⟨_, _, h⟩ := bind_ok h
  obtain ⟨_, _, h⟩ := bind_ok h
  cases h
  constructor
  case eventId => exact (requiredText_str ee).trans (Python.strip_text _)
  case orgId => exact orgId
  case agentId => exact (requiredText_str ea).trans (Python.strip_text _)
  case incidentId => exact requiredText_uuidJson.mp ei
  case serviceId => exact requiredText_uuidJson.mp es
  case eventType => exact eventType
  case content =>
    show Python.str rt ((Json.ofText? row.content).orElse (.str "")) = _
    cases row.content with
    | none => rfl
    | some text =>
      by_cases blank : text = ""
      · simp [blank, Json.ofText?, Json.orElse, Json.truthy, Python.str]
      · simp [blank, Json.ofText?, Json.orElse, Json.truthy, Python.str]

lemma parseItem_row : parseItem rt (.obj (changefeedRow rt updated row)) =
    (ChangeEvent.fromChangefeed rt (changefeedRow rt updated row)).map fun e => some (.row e) := by
  show (do
    let e ← ChangeEvent.fromChangefeed rt (changefeedRow rt updated row)
    return some (QueueMessage.row e)) = _
  cases ChangeEvent.fromChangefeed rt (changefeedRow rt updated row) <;> rfl

/-- The items of a batch are parsed exactly where all rows are readable. -/
lemma parseItems_rows {batch : List (EpisodicEvent × String)}
    (stamps : ∀ x ∈ batch, rt.decimalOfText x.2 ≠ none ∧ x.2 ≠ "") :
    (∀ messages, parseItems rt (batch.map fun x => .obj (changefeedRow rt x.2 x.1)) = .ok messages →
      ∀ x ∈ batch, Readable rt x.1) ∧
    ((∀ x ∈ batch, Readable rt x.1) → ∃ events : List ChangeEvent,
      parseItems rt (batch.map fun x => .obj (changefeedRow rt x.2 x.1)) = .ok (events.map .row) ∧
        List.Forall₂ (fun x e => EventOf x.1 e) batch events) := by
  induction batch with
  | nil =>
    refine ⟨fun _ _ x hx => ?_, fun _ => ⟨[], rfl, .nil⟩⟩
    cases hx
  | cons x batch ih =>
    obtain ⟨some_d, full⟩ := stamps x List.mem_cons_self
    obtain ⟨only, all⟩ := ih fun y hy => stamps y (List.mem_cons_of_mem _ hy)
    have first := @fromChangefeed_ok _ x.1 _ some_d full
    constructor
    · intro messages h y hy
      obtain ⟨m, item, h⟩ := bind_ok h
      obtain ⟨ms, rest, _⟩ := bind_ok h
      rcases List.mem_cons.mp hy with rfl | hy
      · apply first.mp
        rw [parseItem_row] at item
        cases e : ChangeEvent.fromChangefeed rt (changefeedRow rt y.2 y.1) with
        | error => rw [e] at item; cases item
        | ok event => exact ⟨event, rfl⟩
      · exact only ms rest y hy
    · intro readable
      obtain ⟨e, he⟩ := first.mpr (readable x List.mem_cons_self)
      obtain ⟨events, rest, each⟩ := all fun y hy => readable y (List.mem_cons_of_mem _ hy)
      refine ⟨e :: events, ?_, .cons (ReadFrom.event ⟨x.2, he⟩) each⟩
      rw [List.map_cons, parseItems, parseItem_row, he, rest]
      rfl

/-- A batch of admitted rows is parsed as it should be exactly where the decoder reads every row. -/
theorem parses_iff {batch : List (EpisodicEvent × String)} (stamped : ∀ x ∈ batch, IsHlc x.2)
    (decimal : ∀ s, IsHlc s → rt.decimalOfText s ≠ none) :
    Parses rt batch ↔ ∀ x ∈ batch, Readable rt x.1 := by
  have stamps : ∀ x ∈ batch, rt.decimalOfText x.2 ≠ none ∧ x.2 ≠ "" := by
    intro x hx
    refine ⟨decimal _ (stamped x hx), ?_⟩
    obtain ⟨wall, logical, full, _, _, e⟩ := stamped x hx
    rw [e]
    intro blank
    have chars := congrArg String.toList blank
    simp at chars
  obtain ⟨only, all⟩ := parseItems_rows stamps
  have body : parseChangefeedBody rt (changefeedBatch rt batch) =
      parseItems rt (batch.map fun x => .obj (changefeedRow rt x.2 x.1)) := rfl
  constructor
  · rintro ⟨events, h, _⟩
    exact only _ (body.symm.trans h)
  · intro readable
    obtain ⟨events, h, each⟩ := all readable
    refine ⟨events, body.trans h, ?_⟩
    rwa [List.filter_eq_self.mpr fun x hx => decide_eq_true (readable x hx).incident]

end rows

namespace Sample

/-- The number that digits write. -/
def digits (l : List Char) : Nat := l.foldl (fun n c => 10 * n + (c.toNat - 48)) 0

/-- `Decimal` of a timestamp with its logical counter. -/
def decimalOfHlc (s : String) : Option Decimal :=
  match s.toList.dropWhile Char.isDigit with
  | '.' :: logical =>
    let wall := s.toList.takeWhile Char.isDigit
    if wall ≠ [] ∧ logical ≠ [] ∧ logical.all Char.isDigit then
      some (.finite false (digits (wall ++ logical)) (-logical.length))
    else none
  | _ => none

/-- The library on a changefeed of the first seconds of 1970. -/
def changefeed : Runtime :=
  { Runtime.sample with
    decimalOfText := fun s => (decimalOfHlc s).or (Runtime.sample.decimalOfText s) }

lemma changefeed_decimal (s : String) (h : IsHlc s) : changefeed.decimalOfText s ≠ none := by
  obtain ⟨wall, logical, hw, hl, all, rfl⟩ := h
  have digits : ∀ c ∈ wall, c.isDigit = true := fun c hc => all c (List.mem_append_left _ hc)
  have first : (wall ++ '.' :: logical).takeWhile Char.isDigit = wall := by
    rw [List.takeWhile_append_of_pos digits]
    simp [Char.isDigit]
  have rest : (wall ++ '.' :: logical).dropWhile Char.isDigit = '.' :: logical := by
    rw [List.dropWhile_append_of_pos digits]
    simp [Char.isDigit]
  have tail : logical.all Char.isDigit = true :=
    List.all_eq_true.mpr fun c hc => all c (List.mem_append_right _ hc)
  show (decimalOfHlc _).or _ ≠ none
  simp only [decimalOfHlc, String.toList_ofList, rest, first]
  rw [if_pos ⟨hw, hl, tail⟩]
  exact Option.some_ne_none _

/-- The observation as one of the incident. -/
def observed : EpisodicEvent := { observation with incidentId := some incident }

def stamp : String := "1000000000.0000000001"

lemma stamp_hlc : IsHlc stamp := by
  refine ⟨"1000000000".toList, "0000000001".toList, by decide +kernel, by decide +kernel, ?_, by decide +kernel⟩
  rw [← List.all_eq_true]
  decide +kernel

end Sample

/-- `parses_iff` on the observation of an incident. -/
theorem parses_sample : Parses Sample.changefeed [(Sample.observed, Sample.stamp)] := by
  apply (parses_iff ?stamped Sample.changefeed_decimal).mpr
  case stamped =>
    intro x hx
    rw [List.mem_singleton.mp hx]
    exact Sample.stamp_hlc
  intro x hx
  rw [List.mem_singleton.mp hx]
  refine ⟨by decide, .inl rfl, by decide +kernel, ?_⟩
  show Sample.changefeed.fromIsoformat _ ≠ none
  decide +kernel

/-- A row without an incident, which the table admits, rejects the batch with the other row. -/
theorem unrelated_row_rejects_batch : Sample.db.Admitted ∧
    Sample.observation ∈ Sample.db.episodicEvents ∧
    ¬ Parses Sample.changefeed [(Sample.observed, Sample.stamp), (Sample.observation, Sample.stamp)] := by
  refine ⟨Sample.db_admitted, List.mem_singleton_self _, ?_⟩
  rintro ⟨events, h, _⟩
  have rejected : (parseChangefeedBody Sample.changefeed (changefeedBatch Sample.changefeed
      [(Sample.observed, Sample.stamp), (Sample.observation, Sample.stamp)])).toOption = none := by
    decide +kernel
  rw [h] at rejected
  cases rejected

end Postmortem
