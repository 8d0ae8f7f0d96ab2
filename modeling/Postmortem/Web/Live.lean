import Postmortem.Backend.ConsoleBoundary
import Postmortem.Backend.DeliveryOrder
import Postmortem.Web.Stream

/-!
# From the broker to the console

`api.py` writes what a stream of the broker yields as messages of a `text/event-stream` (`sseMessage`, `eventStream`),
and the browser hands them to the hook in that order. So a list that is live holds what was published for the
incident: the frames of the events that were delivered first, in the order of the history, numbered from one, each
once and as it was written, beside one scorecard at most (`console_shows_published`).
-/

namespace Postmortem.Web

/-! ## The stream of a response -/

/-- An `AgentEvent` with the fields that have a default factory. -/
structure Stamped where
  event : AgentEvent
  eventId : Uuid
  occurredAt : Timestamp

/-- The fields of a message. -/
structure SseMessage where
  id : String
  event : String
  data : Json

section response

variable (rt : Runtime) (agentId : String) (agentRegion : ConsoleRegion)

/-- `sse_message` -/
def sseMessage (sequence : Int) (e : Stamped) : Except Raised SseMessage := do
  let envelope ← consoleEvent rt e.eventId e.occurredAt e.event sequence agentId agentRegion
  return {
    id := Python.str rt ((prop envelope "id").getD .null)
    event := Python.str rt ((prop envelope "type").getD .null)
    data := envelope }

/-- `event_stream`: its messages, from a value of `sequence` on, and the exception that ends it. A heartbeat is a
comment. -/
def eventStream : Int → List (Option Stamped) → List SseMessage × Option Raised
  | _, [] => ([], none)
  | sequence, none :: rest => eventStream sequence rest
  | sequence, some e :: rest =>
    match sseMessage rt agentId agentRegion (sequence + 1) e with
    | .error raised => ([], some raised)
    | .ok message =>
      let (messages, raised) := eventStream (sequence + 1) rest
      (message :: messages, raised)

end response

/-- What the browser dispatches for a message. -/
def SseMessage.dispatch (double : ℚ → ℚ) (m : SseMessage) : String × Option Json := (m.event, roundTrip double m.data)

/-- What the browser dispatches to a source that is open. -/
def dispatched (s : ConsoleStream) : BrowserOp → List (String × Option Json)
  | .message type data => if s.source = some .open then [(type, data)] else []
  | _ => []

/-- What the source's listeners take. -/
def received (m : String × Option Json) : Option Json :=
  if ConsoleStream.Listens m.1 then ConsoleStream.parseSsePayload m.2 else none

/-! ## What comes in -/

section incoming

variable {text : Json → String} {recording : List Json} {s : ConsoleStream}

/-- The scorecard that comes in with the operation. -/
def scored (text : Json → String) (s : ConsoleStream) : BrowserOp → List Json
  | .evaluated report => (s.incoming text (.evaluated report)).toList
  | _ => []

lemma received_incoming {type data} : (s.incoming text (.message type data)).toList =
    (dispatched s (.message type data)).filterMap received := by
  simp only [ConsoleStream.incoming, dispatched]
  by_cases opened : s.source = some .open
  · by_cases listens : ConsoleStream.Listens type
    · rw [if_pos ⟨opened, listens⟩, if_pos opened, List.filterMap_cons]
      unfold received
      rw [if_pos listens]
      cases ConsoleStream.parseSsePayload data with
      | none => rfl
      | some event => rfl
    · rw [if_neg fun both => listens both.2, if_pos opened, List.filterMap_cons]
      unfold received
      rw [if_neg listens]
      rfl
  · rw [if_neg fun both => opened both.1, if_neg opened]
    rfl

/-- What comes in is what the listeners take or a scorecard. -/
lemma incoming_parts {op} : (s.incoming text op).toList =
    (dispatched s op).filterMap received ++ scored text s op := by
  cases op with
  | message type data =>
    rw [received_incoming]
    exact (List.append_nil _).symm
  | _ => rfl

lemma scored_scorecard {op event} (mem : event ∈ scored text s op) : scorecard event = true := by
  cases op with
  | evaluated report =>
    have incoming := Option.mem_toList.mp mem
    simp only [ConsoleStream.incoming] at incoming
    split at incoming
    case isFalse => cases incoming
    case isTrue =>
      obtain ⟨report, _, made⟩ := Option.bind_eq_some_iff.mp incoming
      exact scorecard_of_report made
  | _ => cases mem

/-- The request for the scorecard is made once, when the source opens, and settles once. -/
structure Asked (scores : List Json) (s : ConsoleStream) : Prop where
  opening : s.source = some .connecting → s.fetch = none ∧ scores = []
  pending : s.fetch ≠ none → scores = []
  once : scores.length ≤ 1

lemma Asked.clear {scores} (h : Asked scores s) {s' : ConsoleStream} (source : s'.source = none)
    (fetch : s'.fetch = s.fetch.map fun _ => true) : Asked scores s' where
  opening opening := by cases source.symm.trans opening
  pending pending := h.pending fun none => pending (by rw [fetch, none]; rfl)
  once := h.once

lemma Asked.step {scores} (op : BrowserOp) (h : Asked scores s) :
    Asked (scores ++ scored text s op) (s.step text recording op) := by
  cases op with
  | opened =>
    rw [show scored text s .opened = [] from rfl, List.append_nil]
    simp only [ConsoleStream.step]
    split
    case isTrue opening => exact ⟨fun connecting => (by cases connecting), fun _ => (h.opening opening).2, h.once⟩
    case isFalse => exact h
  | message type data =>
    rw [show scored text s (.message type data) = [] from rfl, List.append_nil]
    simp only [ConsoleStream.step]
    split
    case h_1 => exact ⟨h.opening, h.pending, h.once⟩
    case h_2 => exact h
  | evaluated report =>
    simp only [ConsoleStream.step]
    cases incoming : s.incoming text (.evaluated report) with
    | none =>
      rw [show scored text s (.evaluated report) = [] from congrArg Option.toList incoming, List.append_nil]
      exact ⟨fun opening => ⟨rfl, (h.opening opening).2⟩, fun pending => absurd rfl pending, h.once⟩
    | some event =>
      rw [show scored text s (.evaluated report) = [event] from congrArg Option.toList incoming]
      have asked : s.fetch ≠ none := by
        rcases receives_of_incoming incoming with opened | asked
        · simp only [ConsoleStream.incoming] at incoming
          split at incoming
          case isTrue asked => exact asked ▸ Option.some_ne_none _
          case isFalse => cases incoming
        · exact asked ▸ Option.some_ne_none _
      rw [h.pending asked]
      exact ⟨fun opening => absurd (h.opening opening).1 asked, fun pending => absurd rfl pending, le_rfl⟩
  | failed =>
    rw [show scored text s .failed = [] from rfl, List.append_nil]
    simp only [ConsoleStream.step]
    split
    case isTrue => exact h.clear rfl rfl
    case isFalse => exact h
  | timeout =>
    rw [show scored text s .timeout = [] from rfl, List.append_nil]
    simp only [ConsoleStream.step]
    split
    case h_1 => exact h
    case h_2 => exact h.clear rfl rfl
    case h_3 => exact ⟨h.opening, h.pending, h.once⟩
  | replay =>
    rw [show scored text s .replay = [] from rfl, List.append_nil]
    simp only [ConsoleStream.step]
    split
    case isTrue => exact h.clear rfl rfl
    case isFalse => exact h
  | pause =>
    rw [show scored text s .pause = [] from rfl, List.append_nil]
    simp only [ConsoleStream.step]
    split
    case isTrue => exact h.clear rfl rfl
    case isFalse => exact h
  | unmount =>
    rw [show scored text s .unmount = [] from rfl, List.append_nil]
    simp only [ConsoleStream.step]
    split
    case isTrue => exact h.clear rfl rfl
    case isFalse => exact h

lemma asked_mount {endpoint} : Asked [] (ConsoleStream.mount endpoint) := by
  unfold ConsoleStream.mount
  split
  case isTrue => exact ⟨fun opening => (by cases opening), fun _ => rfl, Nat.zero_le _⟩
  case isFalse => exact ⟨fun _ => ⟨rfl, rfl⟩, fun _ => rfl, Nat.zero_le _⟩

end incoming

/-! ## What the server sends -/

section sent

variable {rt : Runtime} {agentId : String} {agentRegion : ConsoleRegion} {double : ℚ → ℚ}

/-- The message carries the frame of the event, which the console takes. -/
structure Carries (rt : Runtime) (agentId : String) (agentRegion : ConsoleRegion) (double : ℚ → ℚ) (e : Stamped × Nat)
    (m : SseMessage) : Prop where
  frame : consoleEvent rt e.1.eventId e.1.occurredAt e.1.event e.2 agentId agentRegion = .ok m.data
  received : received (m.dispatch double) = some (wire double m.data)
  identified : eventId (wire double m.data) = some (.str e.1.eventId.text)

lemma sseMessage_carries {n : Nat} {e : Stamped} (renders : Renders rt e.event)
    (finite : Json.storable (.obj e.event.data) = true) :
    ∃ m, sseMessage rt agentId agentRegion n e = .ok m ∧ Carries rt agentId agentRegion double (e, n) m := by
  obtain ⟨type, payload, frame, made, framed, reaches⟩ : ∃ type payload frame,
      payloadOf rt e.eventId e.occurredAt e.event = .ok (type, payload) ∧
        consoleEvent rt e.eventId e.occurredAt e.event n agentId agentRegion = .ok frame ∧
        Reaches double frame type payload := renders.reaches finite
  obtain ⟨type', payload', made', known, _⟩ := renders e.eventId e.occurredAt
  cases made.symm.trans made'
  have sent : frame = .obj [
      ("id", .str e.eventId.text),
      ("sequence", .int n),
      ("occurredAt", .str (rt.isoformat e.occurredAt)),
      ("caseId", .str e.event.incidentId.text),
      ("agent", .obj [("id", .str agentId), ("region", .str agentRegion.value)]),
      ("type", .str type),
      ("payload", .obj payload)] := by
    have framed' := framed
    unfold consoleEvent at framed'
    rw [made] at framed'
    exact (Except.ok.inj framed').symm
  refine ⟨⟨e.eventId.text, type, frame⟩, ?_, framed, ?_, ?_⟩
  · unfold sseMessage
    rw [framed, sent]
    rfl
  · show (if ConsoleStream.Listens type then _ else none) = _
    rw [if_pos (show ConsoleStream.Listens type from .inr known)]
    exact reaches.accepted
  · show prop (wire double frame) "id" = _
    rw [sent]
    rfl

/-- Where every event can be rendered, the stream does not end and carries them all. -/
lemma eventStream_carries {yielded : List (Option Stamped)} {n : Nat}
    (renders : ∀ e ∈ yielded.reduceOption, Renders rt e.event ∧ Json.storable (.obj e.event.data) = true) :
    ∃ messages, eventStream rt agentId agentRegion n yielded = (messages, none) ∧
      List.Forall₂ (Carries rt agentId agentRegion double) (yielded.reduceOption.zipIdx (n + 1)) messages := by
  induction yielded generalizing n with
  | nil => exact ⟨[], rfl, List.Forall₂.nil⟩
  | cons e yielded ih =>
    cases e with
    | none => exact ih renders
    | some e =>
      have first := renders e List.mem_cons_self
      obtain ⟨m, sent, carries⟩ : ∃ m, sseMessage rt agentId agentRegion ((n + 1 : Nat) : Int) e = .ok m ∧
          Carries rt agentId agentRegion double (e, n + 1) m := sseMessage_carries first.1 first.2
      obtain ⟨messages, rest, carry⟩ := ih (n := n + 1) fun e mem => renders e (List.mem_cons_of_mem _ mem)
      have next : ((n : Int) + 1) = ((n + 1 : Nat) : Int) := rfl
      refine ⟨m :: messages, ?_, List.Forall₂.cons carries carry⟩
      unfold eventStream
      rw [next, sent, rest]

/-- What the listeners take of the messages: the frames, with the identifiers of the events. -/
lemma carries_received {events messages}
    (carry : List.Forall₂ (Carries rt agentId agentRegion double) events messages) :
    (messages.map (SseMessage.dispatch double)).filterMap received = (messages.map SseMessage.data).map (wire double) ∧
      ((messages.map SseMessage.data).map (wire double)).map eventId =
        events.map fun e => some (.str e.1.eventId.text) := by
  induction carry with
  | nil => exact ⟨rfl, rfl⟩
  | cons carries _ ih =>
    obtain ⟨taken, identified⟩ := ih
    constructor
    · rw [List.map_cons, List.filterMap_cons, carries.received, taken]
      rfl
    · rw [List.map_cons, List.map_cons, List.map_cons, carries.identified, identified]
      rfl

end sent

/-- An identifier of an event is none of a scorecard. -/
lemma scorecardId_uuid {u : Uuid} : scorecardId (some (.str u.text)) = false := by
  cases front : scorecardId (some (.str u.text)) with
  | false => rfl
  | true =>
    have starts := List.isPrefixOf_iff_prefix.mp front
    have mem : 'p' ∈ u.text.toList := starts.subset (by decide)
    rcases Uuid.mem_text mem with hyphen | digit
    · exact absurd hyphen (by decide)
    · exact absurd digit (by decide)

/-! ## What the console shows -/

section shows

variable {rt : Runtime} {agentId : String} {agentRegion : ConsoleRegion} {double : ℚ → ℚ}
variable {text : Json → String} {recording : List Json} {endpoint : Option String} {ops : List BrowserOp}

/-- What the browser dispatched, in order. -/
def dispatches (text : Json → String) (recording : List Json) (endpoint : Option String) (ops : List BrowserOp) :
    List (String × Option Json) :=
  Run.trace (ConsoleStream.step text recording) dispatched (ConsoleStream.mount endpoint) ops

/-- The scorecards that came in. -/
def scores (text : Json → String) (recording : List Json) (endpoint : Option String) (ops : List BrowserOp) : List Json :=
  Run.trace (ConsoleStream.step text recording) (scored text) (ConsoleStream.mount endpoint) ops

lemma scores_once : (scores text recording endpoint ops).length ≤ 1 := by
  have asked : Asked (scores text recording endpoint ops) (shown text recording endpoint ops) :=
    Run.run_traced (l := []) (fun _ _ op _ h => h.step op) (Run.Each.all fun _ _ => trivial) asked_mount
  exact asked.once

/-- What came in beside the scorecards is what the listeners took beside them. -/
lemma live_events : (live text recording endpoint ops).filter (fun event => !scorecard event) =
    ((dispatches text recording endpoint ops).filterMap received).filter fun event => !scorecard event := by
  unfold live dispatches
  rw [Run.trace_hom (g := fun l => l.filter fun event => !scorecard event) rfl fun l l' => List.filter_append l l',
    Run.trace_hom (g := fun l => (l.filterMap received).filter fun event => !scorecard event) rfl fun l l' => by
      rw [List.filterMap_append, List.filter_append]]
  congr 1
  funext s op
  have none : (scored text s op).filter (fun event => !scorecard event) = [] := by
    refine List.filter_eq_nil_iff.mpr fun event mem => ?_
    rw [scored_scorecard mem]
    exact Bool.false_ne_true
  rw [incoming_parts, List.filter_append, none, List.append_nil]

/-- The scorecards that came in are those the listeners took and those that were asked for. -/
lemma live_scorecards : ((live text recording endpoint ops).filter scorecard).length =
    (((dispatches text recording endpoint ops).filterMap received).filter scorecard).length +
      (scores text recording endpoint ops).length := by
  unfold live dispatches scores
  generalize ConsoleStream.mount endpoint = s
  induction ops generalizing s with
  | nil => rfl
  | cons op ops ih =>
    have all : (scored text s op).filter scorecard = scored text s op :=
      List.filter_eq_self.mpr fun _ mem => scored_scorecard mem
    have part : ((s.incoming text op).toList.filter scorecard).length =
        (((dispatched s op).filterMap received).filter scorecard).length + (scored text s op).length := by
      rw [incoming_parts, List.filter_append, List.length_append, all]
    have rest := ih (s.step text recording op)
    simp only [Run.trace, List.filterMap_append, List.filter_append, List.length_append]
    omega

/-- Of a list that is live, what is not a scorecard: what the listeners took, where it has identifiers of its own and
holds no scorecard. -/
lemma shown_events (status : (shown text recording endpoint ops).status = .connecting ∨
      (shown text recording endpoint ops).status = .live)
    {took : List Json} (taken : (dispatches text recording endpoint ops).filterMap received = took)
    (distinct : (took.map eventId).Nodup) (events : ∀ event ∈ took, scorecard event = false) :
    (shown text recording endpoint ops).events.filter (fun event => !scorecard event) = took ∧
      ((shown text recording endpoint ops).events.filter scorecard).length ≤ 1 := by
  have follows : Follows recording (live text recording endpoint ops) (shown text recording endpoint ops) :=
    follows_run
  have told : ∀ a b : Json, eventId a = eventId b → scorecard a = scorecard b := fun a b same => congrArg scorecardId same
  rw [(follows.live status).1]
  constructor
  · rw [Arrivals.arrived_filter fun a b same => congrArg not (told a b same), live_events, taken,
      List.filter_eq_self.mpr fun event mem => by rw [events event mem]; rfl]
    exact Arrivals.arrived_of_distinct distinct
  · have none : took.filter scorecard = [] :=
      List.filter_eq_nil_iff.mpr fun event mem is_card => Bool.false_ne_true ((events event mem).symm.trans is_card)
    have once : ((live text recording endpoint ops).filter scorecard).length = _ := live_scorecards
    rw [taken, none, List.length_nil, Nat.zero_add] at once
    rw [Arrivals.arrived_filter told]
    exact (Arrivals.arrived_sublist.length_le.trans_eq once).trans scores_once

end shows

/-- A console that is live, of a stream whose broker lets no put overtake another. The browser dispatched the messages
of the response up to some point. Beside one scorecard at most, the list is the frames of the events that were
delivered first, each once, numbered from one and as it was written; and these events stand in the order in which they
were published. -/
theorem console_shows_published {rt : Runtime} {limits : BrokerLimits} {brokerOps : List BrokerOp} {i : Uuid} {n : Nat}
    {stream : EventStream} {yielded : List (Option Stamped)} {agentId : String} {agentRegion : ConsoleRegion}
    {double : ℚ → ℚ} {text : Json → String} {recording : List Json} {endpoint : Option String} {ops : List BrowserOp}
    (fair : Run.Each (Broker.step limits) (fun b o => ¬ Broker.Overtakes b o) {} brokerOps)
    (found : (Run.run (Broker.step limits) {} brokerOps).stream n = some stream) (incident : stream.incidentId = i)
    (made : ∀ e ∈ Broker.published limits i {} brokerOps,
      Published rt e ∧ Json.storable (.obj e.data) = true)
    (delivers : yielded.reduceOption.map Stamped.event = stream.delivered)
    (distinct : (yielded.reduceOption.map Stamped.eventId).Nodup)
    (fed : dispatches text recording endpoint ops <+:
      (eventStream rt agentId agentRegion 0 yielded).1.map (SseMessage.dispatch double))
    (status : (shown text recording endpoint ops).status = .connecting ∨
      (shown text recording endpoint ops).status = .live) :
    let k := (dispatches text recording endpoint ops).length
    ∃ frames,
      List.Forall₂ (fun e frame =>
        consoleEvent rt e.1.eventId e.1.occurredAt e.1.event (e.2 : Nat) agentId agentRegion = .ok frame)
        ((yielded.reduceOption.zipIdx 1).take k) frames ∧
      (shown text recording endpoint ops).events.filter (fun event => !scorecard event) = frames.map (wire double) ∧
      ((shown text recording endpoint ops).events.filter scorecard).length ≤ 1 ∧
      (stream.delivered.take k).Sublist (Broker.published limits i {} brokerOps) := by
  intro k
  have ordered : Broker.Ordered i (Broker.published limits i {} brokerOps) (Run.run (Broker.step limits) {} brokerOps) :=
    Run.run_traced (fun _ _ _ fair h => h.step fair) fair Broker.ordered_empty
  have inOrder : stream.delivered.Sublist (Broker.published limits i {} brokerOps) :=
    Broker.delivered_prefix.sublist.trans (ordered.account n stream found incident)
  have renders : ∀ e ∈ yielded.reduceOption, Renders rt e.event ∧ Json.storable (.obj e.event.data) = true := by
    intro e mem
    have delivered : e.event ∈ stream.delivered := delivers ▸ List.mem_map_of_mem mem
    obtain ⟨was, finite⟩ := made e.event (inOrder.subset delivered)
    exact ⟨was.renders, finite⟩
  obtain ⟨messages, sent, carry⟩ : ∃ messages,
      eventStream rt agentId agentRegion ((0 : Nat) : Int) yielded = (messages, none) ∧
        List.Forall₂ (Carries rt agentId agentRegion double) (yielded.reduceOption.zipIdx 1) messages :=
    eventStream_carries renders
  rw [show ((0 : Nat) : Int) = 0 from rfl] at sent
  rw [sent] at fed
  have first : dispatches text recording endpoint ops = (messages.take k).map (SseMessage.dispatch double) := by
    rw [List.map_take]
    exact List.prefix_iff_eq_take.mp fed
  have carries : List.Forall₂ (Carries rt agentId agentRegion double) ((yielded.reduceOption.zipIdx 1).take k)
      (messages.take k) := by
    exact List.forall₂_take k carry
  generalize messages.take k = sentFirst at first carries
  have frames : List.Forall₂ (fun e frame =>
      consoleEvent rt e.1.eventId e.1.occurredAt e.1.event (e.2 : Nat) agentId agentRegion = .ok frame)
      ((yielded.reduceOption.zipIdx 1).take k) (sentFirst.map SseMessage.data) :=
    List.forall₂_map_right_iff.mpr (carries.imp fun _ _ carries => carries.frame)
  obtain ⟨taken, identified⟩ := carries_received carries
  rw [← first] at taken
  have ids : (((yielded.reduceOption.zipIdx 1).take k).map fun e => (some (.str e.1.eventId.text) : Option Json)).Sublist
      ((yielded.reduceOption.map Stamped.eventId).map fun u => some (.str u.text)) := by
    have whole : (yielded.reduceOption.zipIdx 1).map Prod.fst = yielded.reduceOption := List.zipIdx_map_fst 1 _
    conv_rhs => rw [← whole, List.map_map, List.map_map]
    exact (List.take_sublist k _).map _
  have own : (((sentFirst.map SseMessage.data).map (wire double)).map eventId).Nodup := by
    rw [identified]
    refine ids.nodup (distinct.map fun u u' same => Uuid.ext ?_)
    exact Json.str.inj (Option.some.inj same)
  have cards : ∀ event ∈ (sentFirst.map SseMessage.data).map (wire double), scorecard event = false := by
    intro event mem
    have mem' := List.mem_map_of_mem (f := eventId) mem
    rw [identified] at mem'
    obtain ⟨e, _, same⟩ := List.mem_map.mp mem'
    show scorecardId (eventId event) = false
    rw [← same]
    exact scorecardId_uuid
  obtain ⟨events, once⟩ := shown_events status taken own cards
  exact ⟨_, frames, events, once, (List.take_sublist _ _).trans inOrder⟩

namespace Sample

open Postmortem.Sample (alert outcomeRecovered outcomeRecoveredEvent outcomePorts)

/-- The turn of the example. -/
def turn : TurnState Nat :=
  (ResponderService.handle .sample Postmortem.Sample.ports (alert "SEV-1") false none { store := 0 }).2

/-- An event that was published. -/
def publishedEvent : Entry → Option AgentEvent
  | .published e => some e
  | _ => none

/-- What the turn publishes, and the event of an outcome after it. -/
def published : List AgentEvent := turn.log.filterMap publishedEvent ++ [outcomeRecoveredEvent]

lemma published_made : ∀ e ∈ published, Published .sample e := by
  intro e mem
  rcases List.mem_append.mp mem with mem | mem
  · obtain ⟨entry, logged, found⟩ := List.mem_filterMap.mp mem
    cases entry with
    | published e' =>
      cases found
      exact .turn logged
    | remediated => cases found
  · cases List.mem_singleton.mp mem
    exact @Published.outcome .sample _ Unit outcomePorts outcomeRecovered () List.mem_cons_self

/-- The first two events are published before a stream subscribes, which then reads what comes in. -/
def delivery : List BrokerOp :=
  (published.take 2).flatMap (fun e => [.append 0 e [], .put 0]) ++ .subscribe 0 (.sample 3) ::
    (published.drop 2).flatMap (fun e => [.append 0 e [0], .put 0, .put 0, .next 0]) ++ [.next 0, .next 0]

/-- What the stream yields. -/
def yielded : List (Option Stamped) :=
  published.zipIdx.map (fun (e, n) => some ⟨e, .sample 8 (.ofNat 16 n), 5000000⟩) ++ [none]

/-- What the browser dispatches of the response. -/
def messages : List (String × Option Json) :=
  (eventStream .sample "responder" .usEast 0 yielded).1.map (SseMessage.dispatch fun q => q)

/-- The source opens and delivers. -/
def browser : List BrowserOp := .opened :: messages.map fun m => .message m.1 m.2

end Sample

/-- The events of a turn and of its outcome, from the broker to the list. -/
theorem console_shows_published_sample : Sample.published.length = 10 ∧ ∃ frames,
    List.Forall₂ (fun e frame =>
      consoleEvent .sample e.1.eventId e.1.occurredAt e.1.event (e.2 : Nat) "responder" .usEast = .ok frame)
      (Sample.yielded.reduceOption.zipIdx 1) frames ∧
    (shown (fun _ => "") [] (some "/events") Sample.browser).events.filter (fun event => !scorecard event) =
      frames.map (wire fun q => q) := by
  have appended : Broker.published {} (.sample 3) {} Sample.delivery = Sample.published := by decide +kernel
  have numbers : ∀ e ∈ Sample.published, Json.storable (.obj e.data) = true := by decide +kernel
  have found : ((Run.run (Broker.step {}) {} Sample.delivery).stream 0).any fun s =>
      s.incidentId = .sample 3 ∧ Sample.yielded.reduceOption.map Stamped.event = s.delivered := by decide +kernel
  obtain ⟨stream, found, reads⟩ := (Option.any_eq_true _ _).mp found
  obtain ⟨incident, delivers⟩ := of_decide_eq_true reads
  have fed : dispatches (fun _ => "") [] (some "/events") Sample.browser = Sample.messages := by decide +kernel
  have live : (shown (fun _ => "") [] (some "/events") Sample.browser).status = .live := by decide +kernel
  obtain ⟨frames, each, events, _⟩ := @console_shows_published .sample {} Sample.delivery (.sample 3) 0 stream
    Sample.yielded "responder" .usEast (fun q => q) (fun _ => "") [] (some "/events") Sample.browser (by decide +kernel)
    found incident
    (by
      intro e mem
      rw [appended] at mem
      exact ⟨Sample.published_made e mem, numbers e mem⟩)
    delivers (by decide +kernel) (by rw [fed]; exact List.prefix_rfl) (.inr live)
  refine ⟨by decide +kernel, frames, ?_, events⟩
  have all : (dispatches (fun _ => "") [] (some "/events") Sample.browser).length = 10 := by decide +kernel
  rw [all] at each
  exact each

end Postmortem.Web
