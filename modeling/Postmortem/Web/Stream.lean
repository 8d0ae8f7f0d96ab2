import Postmortem.Lib.Arrivals
import Postmortem.Lib.Run
import Postmortem.Web.Console

/-!
# The console's event list

`web/hooks/use-console-events.ts`: `useConsoleEvents` fills a list of events from a live source, or from a recording
that timers replay. What the browser and the operator do comes one after another (`BrowserOp`): the source opens,
delivers and fails, a timer is due, the request for the scorecard settles, a button is pressed, the view goes away.
The scorecard is `evaluationEventFromReport` of `web/lib/evaluation.ts`. The events of `PHASE_TWO_EVENTS` are the
parameter `recording`.
-/

namespace Postmortem.Web

/-! ## The scorecard -/

/-- `Number.MAX_SAFE_INTEGER` -/
def maxSafeInteger : Json := .float (.num 9007199254740991)

/-- `typeof value === "number" ? value : default` -/
def numberOr (value : Option Json) (default : Json) : Json := if isNumber value then value.getD default else default

/-- `evaluationEventFromReport`, with its default for `caseId`; `text` is `String(value)` of a number. -/
def evaluationEventFromReport (text : Json → String) (report : Json) : Option Json :=
  match prop report "seed", prop report "generated_at", prop report "retrieval",
      (prop report "decision_quality").bind fun quality => prop quality "measured" with
  | some seed, some (.str generatedAt), some retrieval, some (.bool measured) =>
    match prop retrieval "recall_at_1", prop retrieval "recall_at_10", prop retrieval "ndcg_at_10" with
    | some recallAt1, some recallAt10, some ndcgAt10 =>
      if isNumber (some seed) && isNumber (some recallAt1) && isNumber (some recallAt10) && isNumber (some ndcgAt10)
      then some (.obj [
        ("id", .str ("phase2-eval-" ++ text seed)),
        ("sequence", maxSafeInteger),
        ("occurredAt", .str generatedAt),
        ("caseId", .str "PHASE-2-EVAL"),
        ("agent", .obj [("id", .str "evaluation-harness"), ("region", .str "us-east-1")]),
        ("type", .str "evaluation"),
        ("payload", .obj [
          ("seed", seed),
          ("retrieval", .obj [
            ("recallAt1", recallAt1),
            ("recallAt5", numberOr (prop retrieval "recall_at_5") recallAt10),
            ("recallAt10", recallAt10),
            ("ndcgAt10", ndcgAt10),
            ("hardNegativeCount", numberOr (prop retrieval "hard_negative_count") (.float (.num 0)))]),
          ("decisionQualityMeasured", .bool measured)])])
      else none
    | _, _, _ => none
  | _, _, _, _ => none

/-- The identifier of a scorecard. -/
def scorecardId (id : Option Json) : Bool :=
  match id with
  | some (.str s) => "phase2-eval-".toList.isPrefixOf s.toList
  | _ => false

/-- An event the console made of a report. -/
def scorecard (event : Json) : Bool := scorecardId (prop event "id")

lemma scorecard_of_report {text report event} (made : evaluationEventFromReport text report = some event) :
    scorecard event = true := by
  unfold evaluationEventFromReport at made
  split at made
  case h_2 => cases made
  case h_1 seed generatedAt retrieval measured _ _ _ _ =>
    split at made
    case h_2 => cases made
    case h_1 =>
      split at made
      case isFalse => cases made
      case isTrue =>
        cases made
        show "phase2-eval-".toList.isPrefixOf ("phase2-eval-" ++ text seed).toList = true
        rw [String.toList_append, List.isPrefixOf_iff_prefix]
        exact List.prefix_append _ _

/-! ## The hook -/

/-- `StreamStatus` -/
inductive StreamStatus where
  | connecting
  | live
  | replay
  | paused
deriving DecidableEq

/-- A timer that is not due. -/
inductive Timer where
  /-- `setTimeout(replay, 0)` -/
  | replay
  /-- The timer of an event of the recording. -/
  | append (event : Json)
deriving DecidableEq

/-- `readyState` of a source that is not closed. -/
inductive Readiness where
  | connecting
  | open
deriving DecidableEq

/-- What the hook keeps. -/
structure ConsoleStream where
  events : List Json := []
  status : StreamStatus := .connecting
  /-- The timers that are not due, in the order in which they will be. -/
  timers : List Timer := []
  source : Option Readiness := none
  /-- The request for the scorecard that has not settled: whether its controller is aborted. -/
  fetch : Option Bool := none
  mounted : Bool := true
deriving DecidableEq

/-- What happens to the hook. -/
inductive BrowserOp where
  /-- `onopen` -/
  | opened
  /-- An event of a type, and what `JSON.parse` makes of its data, if it does not throw. -/
  | message (type : String) (data : Option Json)
  /-- `onerror` -/
  | failed
  /-- The request settles, with a report or by an exception. -/
  | evaluated (report : Option Json)
  /-- The first timer is due. -/
  | timeout
  | replay
  | pause
  | unmount
deriving DecidableEq

/-- An event's identifier, by which `some` compares. -/
def eventId (event : Json) : Option Json := prop event "id"

namespace ConsoleStream

variable (text : Json → String) (recording : List Json) (s : ConsoleStream)

/-- `clearTransport`: the timers are cleared, the source is closed and the request is aborted. -/
def clearTransport : ConsoleStream :=
  { s with timers := [], source := none, fetch := s.fetch.map fun _ => true }

/-- `replay` -/
def replay : ConsoleStream :=
  { s.clearTransport with events := [], status := .replay, timers := recording.map .append }

/-- `pause` -/
def pause : ConsoleStream := { s.clearTransport with status := .paused }

/-- The effect of the hook; an empty endpoint is none. -/
def mount (endpoint : Option String) : ConsoleStream :=
  if endpoint.getD "" = "" then { timers := [.replay] } else { source := some .connecting }

/-- `setEvents` with an event whose identifier may stand in the list. -/
def arrive (event : Json) : ConsoleStream := { s with events := Arrivals.arrive eventId s.events event }

/-- The source has a listener for the type. -/
def Listens (type : String) : Prop := type = "message" ∨ type ∈ consoleEventTypes

instance {type} : Decidable (Listens type) := inferInstanceAs (Decidable (_ ∨ _))

/-- `parseSsePayload` -/
def parseSsePayload (data : Option Json) : Option Json := data.bind parseConsoleEvent

/-- The event of a live source or of a report that comes in with the operation. -/
def incoming : BrowserOp → Option Json
  | .message type data => if s.source = some .open ∧ Listens type then parseSsePayload data else none
  | .evaluated report => if s.fetch = some false then report.bind (evaluationEventFromReport text) else none
  | _ => none

/-- One thing that happens. What the browser does not do there changes nothing. -/
def step (op : BrowserOp) : ConsoleStream :=
  match op with
  | .opened =>
    if s.source = some .connecting then { s with status := .live, source := some .open, fetch := some false } else s
  | .message _ _ =>
    match s.incoming text op with
    | some event => s.arrive event
    | none => s
  | .failed => if s.source.isSome then s.replay recording else s
  | .evaluated _ =>
    match s.incoming text op with
    | some event => { s with fetch := none }.arrive event
    | none => { s with fetch := none }
  | .timeout =>
    match s.timers with
    | [] => s
    | .replay :: timers => { s with timers }.replay recording
    | .append event :: timers => { s with timers, events := s.events ++ [event] }
  | .replay => if s.mounted then s.replay recording else s
  | .pause => if s.mounted then s.pause else s
  | .unmount => if s.mounted then { s.clearTransport with mounted := false } else s

end ConsoleStream

/-- The list after what happened, for a view that was mounted with the endpoint. -/
def shown (text : Json → String) (recording : List Json) (endpoint : Option String) (ops : List BrowserOp) :
    ConsoleStream :=
  Run.run (ConsoleStream.step text recording) (ConsoleStream.mount endpoint) ops

/-- What came in live, in order. -/
def live (text : Json → String) (recording : List Json) (endpoint : Option String) (ops : List BrowserOp) : List Json :=
  Run.trace (ConsoleStream.step text recording) (fun s op => (s.incoming text op).toList)
    (ConsoleStream.mount endpoint) ops

/-! ## Where the list comes from -/

section follows

variable {text : Json → String} {recording came : List Json} {s : ConsoleStream}

/-- What the list is, where `came` came in live before. -/
structure Follows (recording came : List Json) (s : ConsoleStream) : Prop where
  live : s.status = .connecting ∨ s.status = .live →
    s.events = Arrivals.arrived eventId came ∧ ∀ t ∈ s.timers, t = .replay
  replayed : s.status = .replay → ∃ pending, s.timers = pending.map .append ∧ s.events ++ pending <+: recording ∧
    (s.mounted = true → s.events ++ pending = recording)
  paused : s.status = .paused → s.timers = [] ∧ (s.events = Arrivals.arrived eventId came ∨ s.events <+: recording)
  closed : s.status = .replay ∨ s.status = .paused → s.source = none ∧ s.fetch ≠ some false

/-- The list is either of the two. -/
lemma Follows.either (h : Follows recording came s) :
    s.events = Arrivals.arrived eventId came ∨ s.events <+: recording := by
  cases status : s.status with
  | connecting => exact .inl (h.live (.inl status)).1
  | live => exact .inl (h.live (.inr status)).1
  | replay =>
    obtain ⟨pending, _, front, _⟩ := h.replayed status
    exact .inr ((List.prefix_append _ _).trans front)
  | paused => exact (h.paused status).2

/-- Something can come in live only while the list is live. -/
lemma Follows.receiving (h : Follows recording came s) (receives : s.source ≠ none ∨ s.fetch = some false) :
    s.status = .connecting ∨ s.status = .live := by
  cases status : s.status with
  | connecting => exact .inl rfl
  | live => exact .inr rfl
  | replay =>
    obtain ⟨closed, aborted⟩ := h.closed (.inl status)
    exact (receives.elim (absurd closed) aborted).elim
  | paused =>
    obtain ⟨closed, aborted⟩ := h.closed (.inr status)
    exact (receives.elim (absurd closed) aborted).elim

lemma clearTransport_closed : s.clearTransport.source = none ∧ s.clearTransport.fetch ≠ some false := by
  refine ⟨rfl, ?_⟩
  show (s.fetch.map fun _ => true) ≠ some false
  cases s.fetch with
  | none => exact (Option.some_ne_none _).symm
  | some aborted => exact fun same => Bool.false_ne_true (Option.some.inj same).symm

lemma follows_replay : Follows recording came (s.replay recording) where
  live status := by rcases status with status | status <;> cases status
  replayed _ := ⟨recording, rfl, List.prefix_rfl, fun _ => rfl⟩
  paused status := by cases status
  closed _ := clearTransport_closed

lemma Follows.pause (h : Follows recording came s) : Follows recording came s.pause where
  live status := by rcases status with status | status <;> cases status
  replayed status := by cases status
  paused _ := ⟨rfl, h.either⟩
  closed _ := clearTransport_closed

lemma Follows.unmount (h : Follows recording came s) :
    Follows recording came { s.clearTransport with mounted := false } where
  live status := ⟨(h.live status).1, List.forall_mem_nil _⟩
  replayed status := by
    obtain ⟨pending, _, front, _⟩ := h.replayed status
    refine ⟨[], rfl, ?_, fun mounted => absurd mounted Bool.false_ne_true⟩
    rw [List.append_nil]
    exact (List.prefix_append _ _).trans front
  paused status := ⟨rfl, (h.paused status).2⟩
  closed _ := clearTransport_closed

lemma Follows.arrive (h : Follows recording came s) (status : s.status = .connecting ∨ s.status = .live) (event : Json) :
    Follows recording (came ++ [event]) (s.arrive event) := by
  have other : ¬ (s.status = .replay ∨ s.status = .paused) := by
    rcases status with status | status <;> rw [status] <;> decide
  constructor
  case live =>
    intro _
    refine ⟨?_, (h.live status).2⟩
    rw [Arrivals.arrived_concat, ← (h.live status).1]
    rfl
  case replayed => exact fun replays => absurd (.inl replays) other
  case paused => exact fun pauses => absurd (.inr pauses) other
  case closed => exact fun either => absurd either other

/-- A request that settled is no request. -/
lemma Follows.settle (h : Follows recording came s) : Follows recording came { s with fetch := none } where
  live := h.live
  replayed := h.replayed
  paused := h.paused
  closed status := ⟨(h.closed status).1, (Option.some_ne_none _).symm⟩

/-- An event comes in while the source is open or the request is not aborted. -/
lemma receives_of_incoming {op event} (incoming : s.incoming text op = some event) :
    s.source ≠ none ∨ s.fetch = some false := by
  cases op with
  | message type data =>
    simp only [ConsoleStream.incoming] at incoming
    split at incoming
    case isTrue opened => exact .inl (opened.1 ▸ Option.some_ne_none _)
    case isFalse => cases incoming
  | evaluated report =>
    simp only [ConsoleStream.incoming] at incoming
    split at incoming
    case isTrue pending => exact .inr pending
    case isFalse => cases incoming
  | _ => cases incoming

lemma Follows.step (op : BrowserOp) (h : Follows recording came s) :
    Follows recording (came ++ (s.incoming text op).toList) (s.step text recording op) := by
  cases op with
  | opened =>
    rw [show (s.incoming text .opened).toList = [] from rfl, List.append_nil]
    simp only [ConsoleStream.step]
    split
    case isTrue opening =>
      have status := h.receiving (.inl (opening ▸ Option.some_ne_none _))
      constructor
      case live => exact fun _ => h.live status
      case replayed => exact fun replays => by cases replays
      case paused => exact fun pauses => by cases pauses
      case closed => exact fun either => by rcases either with either | either <;> cases either
    case isFalse => exact h
  | message type data =>
    simp only [ConsoleStream.step]
    cases incoming : s.incoming text (.message type data) with
    | none => simpa using h
    | some event => exact h.arrive (h.receiving (receives_of_incoming incoming)) event
  | failed =>
    rw [show (s.incoming text .failed).toList = [] from rfl, List.append_nil]
    simp only [ConsoleStream.step]
    split
    case isTrue => exact follows_replay
    case isFalse => exact h
  | evaluated report =>
    simp only [ConsoleStream.step]
    cases incoming : s.incoming text (.evaluated report) with
    | none => simpa using h.settle
    | some event => exact h.settle.arrive (h.receiving (receives_of_incoming incoming)) event
  | timeout =>
    rw [show (s.incoming text .timeout).toList = [] from rfl, List.append_nil]
    simp only [ConsoleStream.step]
    split
    case h_1 => exact h
    case h_2 => exact follows_replay
    case h_3 event timers first =>
      -- the timer of an event is one of a recording that is replayed
      have replays : s.status = .replay := by
        have other (t : ∀ t ∈ s.timers, t = .replay) : False := by
          rw [first] at t
          cases t _ List.mem_cons_self
        cases status : s.status with
        | connecting => exact (other (h.live (.inl status)).2).elim
        | live => exact (other (h.live (.inr status)).2).elim
        | replay => rfl
        | paused =>
          rw [(h.paused status).1] at first
          cases first
      obtain ⟨pending, due, front, whole⟩ := h.replayed replays
      rw [first] at due
      obtain ⟨event', pending, rfl, same, rest⟩ := List.map_eq_cons_iff.mp due.symm
      cases same
      constructor
      case live =>
        intro status
        rcases status with status | status
        · cases replays.symm.trans status
        · cases replays.symm.trans status
      case replayed =>
        intro _
        refine ⟨pending, rest.symm, ?_, fun mounted => ?_⟩
        · simpa using front
        · simpa using whole mounted
      case paused => exact fun status => by cases replays.symm.trans status
      case closed => exact fun _ => h.closed (.inl replays)
  | replay =>
    rw [show (s.incoming text .replay).toList = [] from rfl, List.append_nil]
    simp only [ConsoleStream.step]
    split
    case isTrue => exact follows_replay
    case isFalse => exact h
  | pause =>
    rw [show (s.incoming text .pause).toList = [] from rfl, List.append_nil]
    simp only [ConsoleStream.step]
    split
    case isTrue => exact h.pause
    case isFalse => exact h
  | unmount =>
    rw [show (s.incoming text .unmount).toList = [] from rfl, List.append_nil]
    simp only [ConsoleStream.step]
    split
    case isTrue => exact h.unmount
    case isFalse => exact h

lemma follows_mount {endpoint} : Follows recording [] (ConsoleStream.mount endpoint) := by
  unfold ConsoleStream.mount
  split
  case isTrue =>
    constructor
    case live => exact fun _ => ⟨rfl, fun t mem => List.mem_singleton.mp mem⟩
    case replayed => exact fun replays => by cases replays
    case paused => exact fun pauses => by cases pauses
    case closed => exact fun either => by rcases either with either | either <;> cases either
  case isFalse =>
    constructor
    case live => exact fun _ => ⟨rfl, List.forall_mem_nil _⟩
    case replayed => exact fun replays => by cases replays
    case paused => exact fun pauses => by cases pauses
    case closed => exact fun either => by rcases either with either | either <;> cases either

lemma follows_run {endpoint ops} :
    Follows recording (Web.live text recording endpoint ops) (shown text recording endpoint ops) := by
  have each : Run.Each (ConsoleStream.step text recording) (fun _ _ => True) (ConsoleStream.mount endpoint) ops :=
    Run.Each.all fun _ _ => trivial
  exact Run.run_traced (l := []) (fun _ _ op _ h => h.step op) each follows_mount

end follows

/-! ## Lists that stand still and recordings that run -/

section courses

variable {text : Json → String} {recording : List Json} {s : ConsoleStream}

/-- Nothing changes a list that is paused, but the button that replays. -/
lemma step_paused {op came} (h : Follows recording came s) (paused : s.status = .paused) (kept : op ≠ .replay) :
    (s.step text recording op).events = s.events ∧ (s.step text recording op).status = .paused := by
  obtain ⟨closed, aborted⟩ := h.closed (.inr paused)
  have quiet : s.incoming text op = none := by
    cases incoming : s.incoming text op with
    | none => rfl
    | some event => exact ((receives_of_incoming incoming).elim (absurd closed) aborted).elim
  cases op with
  | opened =>
    simp only [ConsoleStream.step]
    rw [closed, if_neg (by simp)]
    exact ⟨rfl, paused⟩
  | message type data =>
    simp only [ConsoleStream.step]
    rw [quiet]
    exact ⟨rfl, paused⟩
  | failed =>
    simp only [ConsoleStream.step]
    rw [closed]
    exact ⟨rfl, paused⟩
  | evaluated report =>
    simp only [ConsoleStream.step]
    rw [quiet]
    exact ⟨rfl, paused⟩
  | timeout =>
    simp only [ConsoleStream.step]
    rw [(h.paused paused).1]
    exact ⟨rfl, paused⟩
  | replay => exact absurd rfl kept
  | pause =>
    simp only [ConsoleStream.step]
    split
    case isTrue => exact ⟨rfl, rfl⟩
    case isFalse => exact ⟨rfl, paused⟩
  | unmount =>
    simp only [ConsoleStream.step]
    split
    case isTrue => exact ⟨rfl, paused⟩
    case isFalse => exact ⟨rfl, paused⟩

lemma run_paused {later came} (h : Follows recording came s) (paused : s.status = .paused) (kept : .replay ∉ later) :
    (Run.run (ConsoleStream.step text recording) s later).events = s.events ∧
      (Run.run (ConsoleStream.step text recording) s later).status = .paused := by
  induction later generalizing s came with
  | nil => exact ⟨rfl, paused⟩
  | cons op later ih =>
    have still : (s.step text recording op).events = s.events ∧ (s.step text recording op).status = .paused :=
      step_paused h paused fun e => kept (e ▸ List.mem_cons_self)
    obtain ⟨same, paused'⟩ := still
    obtain ⟨same', paused''⟩ := ih (h.step op) paused' fun mem => kept (List.mem_cons_of_mem _ mem)
    exact ⟨same'.trans same, paused''⟩

/-- The operation leaves a recording to its timers. -/
def Leaves (op : BrowserOp) : Prop := op ≠ .replay ∧ op ≠ .pause ∧ op ≠ .unmount

/-- A recording is replayed up to some event. -/
structure Replays (recording : List Json) (n : Nat) (s : ConsoleStream) : Prop where
  status : s.status = .replay
  events : s.events = recording.take n
  timers : s.timers = (recording.drop n).map .append
  source : s.source = none
  fetch : s.fetch ≠ some false

/-- A timer that is due takes a recording one event further, and nothing else does. -/
lemma Replays.step {n op} (h : Replays recording n s) (leaves : Leaves op) :
    Replays recording (if op = .timeout then n + 1 else n) (s.step text recording op) := by
  have quiet : s.incoming text op = none := by
    cases incoming : s.incoming text op with
    | none => rfl
    | some event => exact ((receives_of_incoming incoming).elim (absurd h.source) h.fetch).elim
  cases op with
  | opened =>
    simp only [ConsoleStream.step]
    rw [h.source, if_neg (by simp)]
    exact h
  | message type data =>
    simp only [ConsoleStream.step]
    rw [quiet]
    exact h
  | failed =>
    simp only [ConsoleStream.step]
    rw [h.source]
    exact h
  | evaluated report =>
    simp only [ConsoleStream.step]
    rw [quiet]
    exact ⟨h.status, h.events, h.timers, h.source, (Option.some_ne_none _).symm⟩
  | timeout =>
    rw [if_pos rfl]
    simp only [ConsoleStream.step]
    cases rest : recording.drop n with
    | nil =>
      have all : recording.length ≤ n := List.drop_eq_nil_iff.mp rest
      have due := h.timers
      rw [rest] at due
      rw [due]
      refine ⟨h.status, ?_, ?_, h.source, h.fetch⟩
      · show s.events = recording.take (n + 1)
        rw [h.events, List.take_of_length_le all, List.take_of_length_le (by omega)]
      · rw [List.drop_eq_nil_iff.mpr (by omega)]
        exact due
    | cons event rest' =>
      have due := h.timers
      rw [rest] at due
      rw [due]
      have more : n < recording.length := by
        by_contra none
        rw [List.drop_eq_nil_iff.mpr (by omega)] at rest
        cases rest
      rw [List.drop_eq_getElem_cons more] at rest
      obtain ⟨rfl, rfl⟩ := List.cons.inj rest
      refine ⟨h.status, ?_, rfl, h.source, h.fetch⟩
      show s.events ++ [recording[n]] = recording.take (n + 1)
      rw [h.events, List.take_succ_eq_append_getElem more]
  | replay => exact absurd rfl leaves.1
  | pause => exact absurd rfl leaves.2.1
  | unmount => exact absurd rfl leaves.2.2

lemma Replays.run {n later} (h : Replays recording n s) (leaves : ∀ op ∈ later, Leaves op) :
    Replays recording (n + later.count .timeout) (Run.run (ConsoleStream.step text recording) s later) := by
  induction later generalizing s n with
  | nil => exact h
  | cons op later ih =>
    have next : Replays recording (if op = .timeout then n + 1 else n) (s.step text recording op) :=
      h.step (leaves op List.mem_cons_self)
    have rest := ih next fun o mem => leaves o (List.mem_cons_of_mem _ mem)
    rw [List.count_cons, Run.run_cons]
    convert rest using 1
    by_cases due : op = .timeout
    · rw [if_pos due, if_pos (by simp [due])]
      omega
    · rw [if_neg due, if_neg (by simp [due])]
      omega

/-- A recording that is replayed, up to where it is. -/
lemma Follows.replays {came} (h : Follows recording came s) (status : s.status = .replay) (mounted : s.mounted = true) :
    Replays recording s.events.length s := by
  obtain ⟨pending, due, _, whole⟩ := h.replayed status
  obtain ⟨closed, aborted⟩ := h.closed (.inl status)
  refine ⟨status, ?_, ?_, closed, aborted⟩
  · rw [← whole mounted, List.take_left]
  · rw [due, ← whole mounted, List.drop_left]

end courses

/-- Whatever happens and in whatever order, the list never mixes what is live with a recording. While it is live it is
the first event of each identifier that came in, in order; in a replay it is the front of the recording, of which
each timer adds the next event and nothing else anything; and a list that is paused stands still until it is
replayed. -/
theorem console_never_mixes (text : Json → String) (recording : List Json) (endpoint : Option String)
    (ops : List BrowserOp) :
    let s := shown text recording endpoint ops
    let came := live text recording endpoint ops
    ((s.status = .connecting ∨ s.status = .live) →
      s.events = Arrivals.arrived eventId came ∧ (s.events.map eventId).Nodup) ∧
    (s.status = .replay → s.events <+: recording ∧ (s.mounted = true → ∀ later, (∀ op ∈ later, Leaves op) →
      (shown text recording endpoint (ops ++ later)).events =
        recording.take (s.events.length + later.count .timeout))) ∧
    (s.status = .paused → (s.events = Arrivals.arrived eventId came ∨ s.events <+: recording) ∧
      ∀ later, .replay ∉ later → (shown text recording endpoint (ops ++ later)).events = s.events) := by
  intro s came
  have follows : Follows recording came s := follows_run
  have further (later : List BrowserOp) : shown text recording endpoint (ops ++ later) =
      Run.run (ConsoleStream.step text recording) s later := Run.run_append
  refine ⟨?_, ?_, ?_⟩
  · intro status
    refine ⟨(follows.live status).1, ?_⟩
    rw [(follows.live status).1]
    exact Arrivals.arrived_keys
  · intro status
    obtain ⟨pending, _, front, _⟩ := follows.replayed status
    refine ⟨(List.prefix_append _ _).trans front, fun mounted later leaves => ?_⟩
    rw [further]
    exact ((follows.replays status mounted).run leaves).events
  · intro status
    refine ⟨follows.either, fun later kept => ?_⟩
    rw [further]
    exact (run_paused follows status kept).1

end Postmortem.Web
