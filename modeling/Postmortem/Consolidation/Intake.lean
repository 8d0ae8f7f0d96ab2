import Postmortem.Consolidation.Changefeed
import Postmortem.Consolidation.Storage

/-!
# Accepted messages

What the window stores do with the messages `parse_changefeed_body` accepts: queue them, store them and
read them back through a watermark. A change timestamp is whatever `Decimal` reads, and the stores need
a finite one whose wall time `datetime` represents; an event id is any text and metadata any object, and
the stores need a text without lone surrogates and an object that `asdict` copies (`handled_iff`).
-/

namespace Postmortem

/-- The decoder accepts the message. -/
def Accepted (rt : Runtime) (m : QueueMessage) : Prop :=
  ∃ body messages, parseChangefeedBody rt body = .ok messages ∧ m ∈ messages

/-- What the library prints reads back, for the values it reads: `Decimal(str(d))` and
`datetime.fromisoformat(t.isoformat())`. -/
structure RoundTrips (rt : Runtime) : Prop where
  decimal : ∀ s d, rt.decimalOfText s = some d →
    rt.decimalText d ≠ "" ∧ rt.decimalOfText (rt.decimalText d) = some d
  wallTime : ∀ s t, rt.fromIsoformat s = some t → rt.decimalText (.ofInt (t * 1000)) ≠ "" ∧
    rt.decimalOfText (rt.decimalText (.ofInt (t * 1000))) = some (.ofInt (t * 1000))
  instant : ∀ s t, rt.fromIsoformat s = some t →
    rt.isoformat t ≠ "" ∧ rt.fromIsoformat (Python.replaceZ (rt.isoformat t)) = some t

/-- A finite timestamp whose wall time `datetime.fromtimestamp` represents. -/
def Representable (rt : Runtime) (d : Decimal) : Prop :=
  ∃ n c e, d = .finite n c e ∧
    rt.hourPath ((Decimal.value n c e).num.tdiv (Decimal.value n c e).den / 1000000000) ≠ none

/-- What the stores need of a row. -/
structure FitsStores (rt : Runtime) (e : ChangeEvent) : Prop where
  time : Representable rt e.updatedAt
  encodes : rt.encodes e.eventId = true
  shallow : rt.asdictTooDeep e.metadata = false

/-- The rows have their identifiers, the rows and the window pass the queue, both stores take the rows, and
reading through the window raises no exception. -/
structure Handled (rt : Runtime) (rows : List ChangeEvent) (w : ClosedWindow) : Prop where
  identified : ∀ e ∈ rows, Returns (e.digest rt)
  queued : ∀ e ∈ rows, ∃ fields, e.toDict rt = .ok fields ∧ parseQueueMessage rt fields = .ok (.row e)
  queuedWindow : parseQueueMessage rt (w.fields rt) = .ok (.closed w)
  inBucket : ∃ b events, rows.foldlM (fun b e => S3WindowStore.put rt e b) {} = .ok b ∧
    S3WindowStore.readThrough rt w.watermark b = .ok events
  inMemory : ∃ events, InMemoryWindowStore.readThrough w.watermark
    (rows.foldl (InMemoryWindowStore.put rt) {}) = .ok events

section accepted

variable {rt : Runtime} {e : ChangeEvent}

/-- What holds of the fields of an accepted row. -/
structure Decoded (rt : Runtime) (e : ChangeEvent) : Prop where
  texts : ∀ s ∈ [e.eventId, e.orgId, e.agentId, e.incidentId, e.serviceId, e.eventType],
    s ≠ "" ∧ Python.strip s = s
  occurredAt : ∃ s, rt.fromIsoformat s = some e.occurredAt
  updatedAt : ∃ value field, parseChangeTimestamp rt value field = .ok e.updatedAt

lemma requiredText_spec {value field t} (h : requiredText value field = .ok t) :
    t ≠ "" ∧ Python.strip t = t := by
  unfold requiredText at h
  split at h
  case h_1 s =>
    split at h
    case isTrue => cases h
    case isFalse full =>
      cases h
      exact ⟨full, Python.strip_strip s⟩
  case h_2 => cases h

lemma parseTimestamp_spec {value field t} (h : parseTimestamp rt value field = .ok t) :
    ∃ s, rt.fromIsoformat s = some t := by
  unfold parseTimestamp at h
  split at h
  case h_1 s =>
    split at h
    case isTrue => cases h
    case isFalse =>
      split at h
      case h_1 t' read =>
        cases h
        exact ⟨_, read⟩
      case h_2 => split at h <;> cases h
  case h_2 => cases h

lemma fromChangefeed_spec {envelope} (h : ChangeEvent.fromChangefeed rt envelope = .ok e) :
    Decoded rt e := by
  unfold ChangeEvent.fromChangefeed at h
  split at h
  case h_2 => cases h
  case h_1 fields _ =>
    obtain ⟨_, _, h⟩ := bind_ok h
    obtain ⟨_, he, h⟩ := bind_ok h
    obtain ⟨_, ho, h⟩ := bind_ok h
    obtain ⟨_, ha, h⟩ := bind_ok h
    obtain ⟨_, hi, h⟩ := bind_ok h
    obtain ⟨_, hs, h⟩ := bind_ok h
    obtain ⟨_, ht, h⟩ := bind_ok h
    obtain ⟨_, hoc, h⟩ := bind_ok h
    obtain ⟨_, hu, h⟩ := bind_ok h
    cases h
    refine ⟨?_, parseTimestamp_spec hoc, ⟨_, _, hu⟩⟩
    simp only [List.forall_mem_cons]
    exact ⟨requiredText_spec he, requiredText_spec ho, requiredText_spec ha, requiredText_spec hi,
      requiredText_spec hs, requiredText_spec ht, nofun⟩

lemma parseItems_spec {items messages m} (h : parseItems rt items = .ok messages) (hm : m ∈ messages) :
    ∃ raw, parseItem rt raw = .ok (some m) := by
  induction items generalizing messages with
  | nil =>
    cases h
    cases hm
  | cons raw items ih =>
    obtain ⟨first, item, h⟩ := bind_ok h
    obtain ⟨rest, tail, h⟩ := bind_ok h
    cases h
    rcases List.mem_append.mp hm with hm | hm
    · rw [Option.mem_toList] at hm
      exact ⟨raw, by rw [item, hm]⟩
    · exact ih tail hm

lemma Accepted.item {m} (h : Accepted rt m) : ∃ raw, parseItem rt raw = .ok (some m) := by
  obtain ⟨body, messages, h, hm⟩ := h
  unfold parseChangefeedBody at h
  split at h
  case h_1 value =>
    split at h
    case h_1 => exact parseItems_spec h hm
    case h_2 => exact parseItems_spec h hm
    case h_3 => cases h
  case h_2 => cases h

lemma Accepted.row (h : Accepted rt (.row e)) : Decoded rt e := by
  obtain ⟨raw, h⟩ := h.item
  unfold parseItem at h
  split at h
  case h_1 fields =>
    split at h
    case isTrue =>
      obtain ⟨_, _, h⟩ := bind_ok h
      cases h
    case isFalse =>
      split at h
      case isTrue =>
        obtain ⟨_, decoded, h⟩ := bind_ok h
        cases h
        exact fromChangefeed_spec decoded
      case isFalse => cases h
  case h_2 => cases h

lemma Accepted.closed {w : ClosedWindow} (h : Accepted rt (.closed w)) :
    ∃ value field, parseChangeTimestamp rt value field = .ok w.watermark := by
  obtain ⟨raw, h⟩ := h.item
  unfold parseItem at h
  split at h
  case h_1 fields =>
    split at h
    case isTrue =>
      obtain ⟨_, window, h⟩ := bind_ok h
      cases h
      obtain ⟨_, read, e⟩ := bind_ok window
      cases e
      exact ⟨_, _, read⟩
    case isFalse =>
      split at h
      case isTrue =>
        obtain ⟨_, _, h⟩ := bind_ok h
        cases h
      case isFalse => cases h
  case h_2 => cases h

/-- A timestamp that was decoded is read back from its text. -/
lemma parseChangeTimestamp_text {value field d field'} (lib : RoundTrips rt)
    (h : parseChangeTimestamp rt value field = .ok d) :
    parseChangeTimestamp rt (.str (rt.decimalText d)) field' = .ok d := by
  have reads : rt.decimalText d ≠ "" ∧ rt.decimalOfText (rt.decimalText d) = some d := by
    unfold parseChangeTimestamp at h
    split at h
    case h_1 s =>
      split at h
      case isTrue => cases h
      case isFalse =>
        split at h
        case h_1 d' read =>
          cases h
          exact lib.decimal s _ read
        case h_2 =>
          split at h
          case h_1 => cases h
          case h_2 t time =>
            cases h
            obtain ⟨s, read⟩ := parseTimestamp_spec time
            exact lib.wallTime s t read
    case h_2 => cases h
  simp only [parseChangeTimestamp, reads.1, if_false, reads.2]

/-- The texts of the object a row is encoded as. -/
def ChangeEvent.texts (rt : Runtime) (e : ChangeEvent) : List (String × String) :=
  [("event_id", e.eventId), ("org_id", e.orgId), ("agent_id", e.agentId),
    ("incident_id", e.incidentId), ("service_id", e.serviceId), ("event_type", e.eventType),
    ("content", e.content), ("occurred_at", rt.isoformat e.occurredAt),
    ("updated_at", rt.decimalText e.updatedAt)]

/-- A row that was decoded is read back from an object with its texts. -/
lemma fromDict_reads {d metadata : Dict} (lib : RoundTrips rt) (h : Decoded rt e)
    (reads : ∀ f ∈ e.texts rt, d.get f.1 = .str f.2) (object : d.get "metadata" = .obj metadata) :
    ChangeEvent.fromDict rt d = .ok { e with metadata := metadata } := by
  obtain ⟨texts, ⟨s, instant⟩, value, field, updated⟩ := h
  have text : ∀ s ∈ [e.eventId, e.orgId, e.agentId, e.incidentId, e.serviceId, e.eventType],
      ∀ field, requiredText (.str s) field = .ok s := by
    intro s hs field
    obtain ⟨full, stripped⟩ := texts s hs
    rw [requiredText_ok (by rwa [stripped]), stripped]
  obtain ⟨full, back⟩ := lib.instant s _ instant
  have time : parseTimestamp rt (.str (rt.isoformat e.occurredAt)) "occurred_at" = .ok e.occurredAt := by
    simp only [parseTimestamp, full, if_false, back]
  have fields : dictOf (.obj metadata) = .ok metadata := by
    unfold dictOf Json.orElse
    cases metadata with
    | nil => rfl
    | cons f fs => rfl
  have content : Python.str rt ((Json.str e.content).orElse (.str "")) = e.content := by
    by_cases blank : e.content = ""
    · simp [blank, Json.orElse, Json.truthy, Python.str]
    · simp [blank, Json.orElse, Json.truthy, Python.str]
  simp only [ChangeEvent.texts, List.forall_mem_cons] at reads
  obtain ⟨event, org, agent, incident, service, type, written, occurred, change, _⟩ := reads
  unfold ChangeEvent.fromDict
  rw [event, org, agent, incident, service, type, written, occurred, change, object,
    text _ (by simp), text _ (by simp), text _ (by simp), text _ (by simp), text _ (by simp),
    text _ (by simp), time, parseChangeTimestamp_text lib updated, fields, content]
  rfl

lemma fromDict_fields (lib : RoundTrips rt) (h : Decoded rt e) :
    ChangeEvent.fromDict rt (e.fields rt) = .ok e := by
  refine fromDict_reads lib h (fun f hf => ?_) rfl
  simp only [ChangeEvent.texts, List.mem_cons, List.not_mem_nil, or_false] at hf
  rcases hf with rfl | rfl | rfl | rfl | rfl | rfl | rfl | rfl | rfl
  all_goals rfl

end accepted

/-! ## The stores -/

section stores

variable {rt : Runtime} {watermark : Decimal} {rows : List ChangeEvent} {b : Bucket}

lemma le?_ok {a b : Decimal} : (∃ closed, Decimal.le? a b = .ok closed) ↔ a ≠ .nan ∧ b ≠ .nan := by
  unfold Decimal.le?
  by_cases h : a = .nan ∨ b = .nan
  · simp only [h, if_true]
    exact iff_of_false (by simp) (by rwa [← not_or, not_not])
  · simp only [h, if_false]
    exact iff_of_true ⟨_, rfl⟩ (not_or.mp h)

lemma hourOf_ok {d : Decimal} : Returns (S3WindowStore.hourOf rt d) ↔ Representable rt d := by
  unfold S3WindowStore.hourOf
  constructor
  · rintro ⟨hour, h⟩
    obtain ⟨ns, wall, h⟩ := bind_ok h
    cases d with
    | finite n c x =>
      cases wall
      refine ⟨n, c, x, rfl, ?_⟩
      intro none
      rw [none] at h
      cases h
    | infinity n => cases wall
    | nan => cases wall
  · rintro ⟨n, c, x, rfl, path⟩
    obtain ⟨hour, path⟩ := Option.ne_none_iff_exists'.mp path
    refine ⟨hour, ?_⟩
    simp only [Decimal.toInt?, bind, Except.bind, path]
    rfl

lemma digest_ok {e : ChangeEvent} : Returns (e.digest rt) ↔ rt.encodes e.eventId = true := by
  unfold ChangeEvent.digest
  split
  case isTrue encodes => exact iff_of_true ⟨_, rfl⟩ encodes
  case isFalse lone => exact iff_of_false (by rintro ⟨_, ⟨⟩⟩) lone

lemma toDict_ok {e : ChangeEvent} {fields} :
    e.toDict rt = .ok fields ↔ rt.asdictTooDeep e.metadata = false ∧ fields = e.fields rt := by
  unfold ChangeEvent.toDict
  cases rt.asdictTooDeep e.metadata with
  | true => simp
  | false => simp [eq_comm]

/-- A row has a key exactly where its timestamp is representable and its event id encodes. -/
lemma pendingKey_ok {e : ChangeEvent} :
    Returns (S3WindowStore.pendingKey rt e) ↔ Representable rt e.updatedAt ∧ rt.encodes e.eventId = true := by
  rw [← hourOf_ok, ← digest_ok]
  unfold S3WindowStore.pendingKey
  constructor
  · rintro ⟨key, h⟩
    obtain ⟨hour, path, h⟩ := bind_ok h
    obtain ⟨id, digest, _⟩ := bind_ok h
    exact ⟨⟨hour, path⟩, ⟨id, digest⟩⟩
  · rintro ⟨⟨hour, path⟩, ⟨id, digest⟩⟩
    refine ⟨hour ++ "/" ++ id ++ ".json", ?_⟩
    rw [path, digest]
    rfl

/-- A row is stored exactly where the stores have what they need of it. -/
lemma put_ok {e : ChangeEvent} : Returns (S3WindowStore.put rt e b) ↔ FitsStores rt e := by
  unfold S3WindowStore.put
  constructor
  · rintro ⟨b', h⟩
    obtain ⟨key, hk, h⟩ := bind_ok h
    obtain ⟨fields, copied, _⟩ := bind_ok h
    obtain ⟨time, encodes⟩ := pendingKey_ok.mp ⟨key, hk⟩
    exact ⟨time, encodes, (toDict_ok.mp copied).1⟩
  · rintro ⟨time, encodes, shallow⟩
    obtain ⟨key, hk⟩ := pendingKey_ok.mpr ⟨time, encodes⟩
    have copied : e.toDict rt = .ok (e.fields rt) := toDict_ok.mpr ⟨shallow, rfl⟩
    refine ⟨{ b with pending := Assoc.set b.pending key (e.fields rt) }, ?_⟩
    rw [hk, copied]
    rfl

lemma set_ne_nil {κ α : Type} [DecidableEq κ] {d : List (κ × α)} {k v} : Assoc.set d k v ≠ [] := by
  cases d with
  | nil => simp [Assoc.set]
  | cons f d =>
    unfold Assoc.set
    split <;> simp

lemma puts_ok : (∃ b, rows.foldlM (fun b e => S3WindowStore.put rt e b) ({} : Bucket) = .ok b) ↔
    ∀ e ∈ rows, FitsStores rt e := by
  induction rows using List.reverseRecOn with
  | nil => exact iff_of_true ⟨_, rfl⟩ nofun
  | append_singleton rows e ih =>
    rw [List.foldlM_append]
    constructor
    · rintro ⟨b, h⟩
      obtain ⟨b', first, h⟩ := bind_ok h
      obtain ⟨b'', put, _⟩ := bind_ok h
      intro e' he
      rcases List.mem_append.mp he with he | he
      · exact ih.mp ⟨b', first⟩ e' he
      · obtain rfl := List.mem_singleton.mp he
        exact put_ok.mp ⟨b'', put⟩
    · intro all
      obtain ⟨b', first⟩ := ih.mpr fun e' he => all e' (List.mem_append_left _ he)
      obtain ⟨b'', put⟩ := (put_ok (b := b')).mpr (all e (by simp))
      refine ⟨b'', ?_⟩
      rw [first]
      show (S3WindowStore.put rt e b' >>= fun b => List.foldlM (fun b e => S3WindowStore.put rt e b) b []) = .ok b''
      rw [put]
      rfl

lemma puts_pending (h : rows.foldlM (fun b e => S3WindowStore.put rt e b) ({} : Bucket) = .ok b) :
    (∀ o ∈ b.pending, ∃ e ∈ rows, o.2 = e.fields rt) ∧ (rows ≠ [] → b.pending ≠ []) := by
  induction rows using List.reverseRecOn generalizing b with
  | nil =>
    cases h
    exact ⟨nofun, fun ne => absurd rfl ne⟩
  | append_singleton rows e ih =>
    rw [List.foldlM_append] at h
    obtain ⟨b', first, h⟩ := bind_ok h
    obtain ⟨_, put, h⟩ := bind_ok h
    cases h
    obtain ⟨key, _, h⟩ := bind_ok put
    obtain ⟨fields, copied, h⟩ := bind_ok h
    obtain ⟨_, rfl⟩ := toDict_ok.mp copied
    cases h
    refine ⟨?_, fun _ => set_ne_nil⟩
    intro o ho
    rcases Assoc.mem_set ho with rfl | ho
    · exact ⟨e, by simp, rfl⟩
    · obtain ⟨e', he, eq⟩ := (ih first).1 o ho
      exact ⟨e', List.mem_append_left _ he, eq⟩

/-- Objects of decoded rows are read through a watermark, where the timestamps compare with it. -/
lemma readObjects_ok {objects : List (String × Dict)} (lib : RoundTrips rt)
    (all : ∀ o ∈ objects, ∃ e, Decoded rt e ∧ e.updatedAt ≠ .nan ∧ o.2 = e.fields rt)
    (w : watermark ≠ .nan) : ∃ events, S3WindowStore.readObjects rt watermark objects = .ok events := by
  induction objects with
  | nil => exact ⟨[], rfl⟩
  | cons o objects ih =>
    obtain ⟨e, decoded, number, eq⟩ := all o List.mem_cons_self
    obtain ⟨events, rest⟩ := ih fun o ho => all o (List.mem_cons_of_mem _ ho)
    obtain ⟨closed, compared⟩ := le?_ok.mpr ⟨number, w⟩
    simp only [S3WindowStore.readObjects, eq, fromDict_fields lib decoded, rest]
    show ∃ events', (do
      let closed ← Decimal.le? e.updatedAt watermark
      let events ← Except.ok events
      return if closed then e :: events else events) = Except.ok events'
    rw [compared]
    exact ⟨_, rfl⟩

/-- Objects that were read through a watermark compared with it. -/
lemma readObjects_spec {objects events}
    (h : S3WindowStore.readObjects rt watermark objects = .ok events) (ne : objects ≠ []) :
    watermark ≠ .nan := by
  cases objects with
  | nil => exact absurd rfl ne
  | cons o objects =>
    obtain ⟨e, _, h⟩ := bind_ok h
    obtain ⟨closed, compared, _⟩ := bind_ok h
    exact (le?_ok.mp ⟨closed, compared⟩).2

/-- Rows are read through a watermark in memory, where their timestamps compare with it. -/
lemma rowsThrough_ok {l : List ChangeEvent}
    (all : ∀ e ∈ l, e.updatedAt ≠ .nan ∧ watermark ≠ .nan) :
    ∃ events, rowsThrough watermark l = .ok events := by
  induction l with
  | nil => exact ⟨[], rfl⟩
  | cons e l ih =>
    obtain ⟨events, rest⟩ := ih fun e he => all e (List.mem_cons_of_mem _ he)
    obtain ⟨closed, compared⟩ := le?_ok.mpr (all e List.mem_cons_self)
    simp only [rowsThrough, rest, compared]
    exact ⟨_, rfl⟩

lemma inMemory_pending :
    ∀ x ∈ (rows.foldl (InMemoryWindowStore.put rt) {}).pending, x.2 ∈ rows := by
  induction rows using List.reverseRecOn with
  | nil => exact nofun
  | append_singleton rows e ih =>
    rw [List.foldl_append]
    intro x hx
    show x.2 ∈ rows ++ [e]
    simp only [List.foldl_cons, List.foldl_nil, InMemoryWindowStore.put] at hx
    split at hx
    case isTrue => exact List.mem_append_left _ (ih x hx)
    case isFalse =>
      rcases Assoc.mem_set hx with rfl | hx
      · simp
      · exact List.mem_append_left _ (ih x hx)

lemma Accepted.queued {e} (lib : RoundTrips rt) (accepted : Accepted rt (.row e)) :
    parseQueueMessage rt (e.fields rt) = .ok (.row e) := by
  show (do
    let e ← ChangeEvent.fromDict rt (e.fields rt)
    return QueueMessage.row e) = _
  rw [fromDict_fields lib accepted.row]
  rfl

lemma Accepted.queuedWindow {w : ClosedWindow} (lib : RoundTrips rt) (window : Accepted rt (.closed w)) :
    parseQueueMessage rt (w.fields rt) = .ok (.closed w) := by
  obtain ⟨value, field, read⟩ := window.closed
  show (do
    let w ← (do
      let watermark ← parseChangeTimestamp rt (.str (rt.decimalText w.watermark)) "watermark"
      return { watermark } : Except Raised ClosedWindow)
    return QueueMessage.closed w) = _
  rw [parseChangeTimestamp_text lib read]
  rfl

/-- Where the bucket took the rows, it reads them back through a watermark that is a number. -/
lemma readThrough_bucket {b watermark} (lib : RoundTrips rt) (accepted : ∀ e ∈ rows, Accepted rt (.row e))
    (puts : rows.foldlM (fun b e => S3WindowStore.put rt e b) {} = .ok b)
    (number : ∀ e ∈ rows, e.updatedAt ≠ .nan) (compares : rows = [] ∨ watermark ≠ .nan) :
    ∃ events, S3WindowStore.readThrough rt watermark b = .ok events := by
  have objects : ∃ events, S3WindowStore.readObjects rt watermark
      (b.pending.insertionSort fun a b => a.1 ≤ b.1) = .ok events := by
    by_cases none : rows = []
    · subst none
      cases puts
      exact ⟨[], rfl⟩
    · apply readObjects_ok lib _ (compares.resolve_left none)
      intro o ho
      obtain ⟨e, he, eq⟩ := (puts_pending puts).1 o ((List.mem_insertionSort _).mp ho)
      exact ⟨e, (accepted e he).row, number e he, eq⟩
  obtain ⟨events, read⟩ := objects
  refine ⟨events.insertionSort ChangeEvent.updatedBefore, ?_⟩
  rw [S3WindowStore.readThrough, read]
  rfl

/-- So does the memory store. -/
lemma readThrough_memory {watermark} (number : ∀ e ∈ rows, e.updatedAt ≠ .nan)
    (compares : ∀ e ∈ rows, watermark ≠ .nan) :
    ∃ events, InMemoryWindowStore.readThrough watermark
      (rows.foldl (InMemoryWindowStore.put rt) {}) = .ok events := by
  have through : ∃ events, rowsThrough watermark
      ((rows.foldl (InMemoryWindowStore.put rt) {}).pending.map Prod.snd) = .ok events := by
    apply rowsThrough_ok
    intro e he
    obtain ⟨x, hx, rfl⟩ := List.mem_map.mp he
    have mem := inMemory_pending x hx
    exact ⟨number _ mem, compares _ mem⟩
  obtain ⟨events, read⟩ := through
  refine ⟨events.insertionSort ChangeEvent.updatedBefore, ?_⟩
  rw [InMemoryWindowStore.readThrough, read]
  rfl

/-- Accepted rows and an accepted window are handled exactly where the rows' timestamps are
representable, their event ids encode, their metadata does not nest too deep, and the watermark is a
number, unless there is no row. -/
theorem handled_iff {w : ClosedWindow} (lib : RoundTrips rt) (accepted : ∀ e ∈ rows, Accepted rt (.row e))
    (window : Accepted rt (.closed w)) : Handled rt rows w ↔
      (∀ e ∈ rows, FitsStores rt e) ∧ (rows = [] ∨ w.watermark ≠ .nan) := by
  constructor
  · rintro ⟨_, _, _, ⟨b, events, puts, read⟩, _⟩
    refine ⟨puts_ok.mp ⟨b, puts⟩, ?_⟩
    by_cases none : rows = []
    · exact .inl none
    · right
      obtain ⟨objects, read, _⟩ := bind_ok read
      apply readObjects_spec read
      intro sorted
      have length := List.length_insertionSort (fun a b : String × Dict => a.1 ≤ b.1) b.pending
      rw [sorted] at length
      exact (puts_pending puts).2 none (List.length_eq_zero_iff.mp length.symm)
  · rintro ⟨fit, watermark⟩
    have number : ∀ e ∈ rows, e.updatedAt ≠ .nan := by
      intro e he
      obtain ⟨_, _, _, d, _⟩ := (fit e he).time
      rw [d]
      exact nofun
    have compares : ∀ e ∈ rows, w.watermark ≠ .nan := by
      intro e he
      exact watermark.resolve_left (List.ne_nil_of_mem he)
    obtain ⟨b, puts⟩ := puts_ok.mpr fit
    obtain ⟨events, read⟩ := readThrough_bucket lib accepted puts number watermark
    constructor
    case identified => exact fun e he => digest_ok.mpr (fit e he).encodes
    case queued => exact fun e he => ⟨_, toDict_ok.mpr ⟨(fit e he).shallow, rfl⟩, (accepted e he).queued lib⟩
    case queuedWindow => exact window.queuedWindow lib
    case inBucket => exact ⟨b, events, puts, read⟩
    case inMemory => exact readThrough_memory number compares

end stores

namespace Sample

/-- The texts of timestamps that the examples read and print. -/
def decimals : List (String × Decimal) :=
  ("NaN", .nan) :: ("1", .ofInt 1) :: (List.range 10).map fun n =>
    (toString (n * 1000000000), .ofInt (n * 1000000000))

/-- The library on the first seconds of 1970. -/
def intake : Runtime :=
  { Runtime.sample with
    decimalOfText := fun s => Assoc.get decimals s
    decimalText := fun d => (decimals.find? fun x => x.2 = d).elim "" Prod.fst
    sha256 := fun s =>
      if s = "row:" ++ observed.eventId.text ++ ":1" then
        "d9bb5f18f49ad450c96848e908a4876bca0b7c6d9d3aceefaa3b88e4dc476d81"
      else if s = "row:" ++ observed.eventId.text ++ ":NaN" then
        "90ab629a0f13fe08f753e6d9ab703b309cfc0a8ea1dc45d7eec4a0edaafa269a"
      else "" }

lemma intake_roundTrips : RoundTrips intake := by
  have printed : ∀ x ∈ decimals, intake.decimalText x.2 ≠ "" ∧
      intake.decimalOfText (intake.decimalText x.2) = some x.2 := by decide +kernel
  have times : ∀ n ∈ ([0, 1, 2, 3, 4, 5, 6, 7, 8, 9] : List Int),
      intake.decimalText (.ofInt (n * 1000000 * 1000)) ≠ "" ∧
      intake.decimalOfText (intake.decimalText (.ofInt (n * 1000000 * 1000))) =
        some (.ofInt (n * 1000000 * 1000)) := by decide +kernel
  have instants : ∀ n ∈ ([0, 1, 2, 3, 4, 5, 6, 7, 8, 9] : List Int),
      intake.isoformat (n * 1000000) ≠ "" ∧
      intake.fromIsoformat (Python.replaceZ (intake.isoformat (n * 1000000))) =
        some (n * 1000000) := by decide +kernel
  have seconds : ∀ s t, intake.fromIsoformat s = some t →
      ∃ n ∈ ([0, 1, 2, 3, 4, 5, 6, 7, 8, 9] : List Int), n * 1000000 = t := by
    intro s t h
    obtain ⟨n, found, e⟩ := Option.map_eq_some_iff.mp h
    exact ⟨n, List.mem_of_find?_eq_some found, e⟩
  constructor
  case decimal =>
    intro s d h
    exact printed _ (Assoc.mem_of_get h)
  case wallTime =>
    intro s t h
    obtain ⟨n, hn, rfl⟩ := seconds s t h
    exact times n hn
  case instant =>
    intro s t h
    obtain ⟨n, hn, rfl⟩ := seconds s t h
    exact instants n hn

/-- A request with one row and one resolved timestamp. -/
def request (updated : String) : Json :=
  .obj [("payload", .arr [.obj (changefeedRow intake updated observed),
    .obj [("resolved", .str "1")]])]

/-- The row of the request. -/
def requested (updated : Decimal) : ChangeEvent where
  eventId := observed.eventId.text
  orgId := org.text
  agentId := agent.text
  incidentId := incident.text
  serviceId := service.text
  eventType := "observation"
  content := "deploy of v2"
  occurredAt := 0
  updatedAt := updated

def resolved : ClosedWindow := ⟨.ofInt 1⟩

lemma request_parsed : parseChangefeedBody intake (request "1") =
    .ok [.row (requested (.ofInt 1)), .closed resolved] := by decide +kernel

lemma request_nan_parsed : parseChangefeedBody intake (request "NaN") =
    .ok [.row (requested .nan), .closed resolved] := by decide +kernel

end Sample

/-- `handled_iff` on a row and a resolved timestamp. -/
theorem handled_sample :
    Handled Sample.intake [Sample.requested (.ofInt 1)] Sample.resolved := by
  refine (handled_iff Sample.intake_roundTrips ?accepted ?window).mpr ⟨?_, .inr nofun⟩
  case accepted =>
    intro e he
    rw [List.mem_singleton.mp he]
    exact ⟨_, _, Sample.request_parsed, List.mem_cons_self⟩
  case window => exact ⟨_, _, Sample.request_parsed, by simp⟩
  intro e he
  rw [List.mem_singleton.mp he]
  exact ⟨⟨false, 1, 0, rfl, by decide +kernel⟩, rfl, rfl⟩

/-- A row whose timestamp is not a number is accepted, and cannot be stored. -/
theorem nan_row_not_handled : Accepted Sample.intake (.row (Sample.requested .nan)) ∧
    Accepted Sample.intake (.closed Sample.resolved) ∧
    ¬ Handled Sample.intake [Sample.requested .nan] Sample.resolved := by
  refine ⟨⟨_, _, Sample.request_nan_parsed, List.mem_cons_self⟩,
    ⟨_, _, Sample.request_nan_parsed, by simp⟩, ?_⟩
  rintro ⟨_, _, _, ⟨b, _, put, _⟩, _⟩
  obtain ⟨n, c, e, d, _⟩ := (puts_ok.mp ⟨b, put⟩ _ (List.mem_singleton_self _)).time
  cases d

end Postmortem
