import Postmortem.Backend.Citation

/-!
# What the guarded blocks let through

`_parse_decision` reads the model's answer in two blocks that turn `ValueError`, `KeyError` and
`TypeError` into `ReasoningError`. `Leaks` is the other exceptions, and each conversion of the first
block has its own: a text that nests too deep, an integer no double holds, and a citation that is not a
text. `Escapes` is the answers that reach one of them, and `parseDecision_contract` is the contract of the
parser on all the others.
-/

namespace Postmortem

/-! ## Exceptions the blocks do not name -/

/-- The classes of the `except` clauses, and the class they raise. -/
def Foreseen (e : Raised) : Prop :=
  (e.cls = .ValueError ∨ e.cls = .KeyError ∨ e.cls = .TypeError) ∨ e.cls = .ReasoningError

/-- The block raises an exception that nothing foresees. -/
def Leaks {α : Type} (x : Except Raised α) : Prop := ∃ e, x = .error e ∧ ¬ Foreseen e

section leaks

variable {α β : Type}

@[simp] lemma leaks_ok {a : α} : ¬ Leaks (Except.ok a : Except Raised α) := by
  rintro ⟨e, ⟨⟩, _⟩

@[simp] lemma leaks_error {e : Raised} : Leaks (Except.error e : Except Raised α) ↔ ¬ Foreseen e := by
  constructor
  · rintro ⟨_, ⟨⟩, h⟩
    exact h
  · intro h
    exact ⟨e, rfl, h⟩

lemma leaks_bind {x : Except Raised α} {f : α → Except Raised β} :
    Leaks (x >>= f) ↔ Leaks x ∨ ∃ a, x = .ok a ∧ Leaks (f a) := by
  cases x with
  | error e =>
    constructor
    · rintro ⟨_, ⟨⟩, h⟩
      exact .inl ⟨e, rfl, h⟩
    · rintro (⟨_, ⟨⟩, h⟩ | ⟨_, ⟨⟩, _⟩)
      exact ⟨e, rfl, h⟩
  | ok a =>
    constructor
    · intro h
      exact .inr ⟨a, rfl, h⟩
    · rintro (⟨_, ⟨⟩, _⟩ | ⟨_, ⟨⟩, h⟩)
      exact h

/-- The block raises `ReasoningError` and nothing else. -/
def RaisesReasoning (x : Except Raised α) : Prop := ∀ e, x = .error e → e.cls = .ReasoningError

@[simp] lemma raisesReasoning_ok {a : α} : RaisesReasoning (.ok a) := by
  rintro _ ⟨⟩

@[simp] lemma raisesReasoning_error {message : String} :
    RaisesReasoning (Except.error (reasoningError message) : Except Raised α) := by
  rintro _ ⟨⟩
  rfl

lemma RaisesReasoning.bind {x : Except Raised α} {f : α → Except Raised β} (hx : RaisesReasoning x)
    (hf : ∀ a, RaisesReasoning (f a)) : RaisesReasoning (x >>= f) := by
  cases x with
  | error e =>
    rintro _ ⟨⟩
    exact hx e rfl
  | ok a => exact hf a

/-- The guards turn every exception they name into `ReasoningError`. -/
lemma raisesReasoning_guarded_iff {message : String} {x : Except Raised α} :
    RaisesReasoning (guarded message x) ↔ ¬ Leaks x := by
  cases x with
  | ok a => simp [guarded]
  | error e =>
    simp only [guarded, leaks_error, not_not]
    split
    case isTrue caught => simp [Foreseen, caught]
    case isFalse other =>
      constructor
      · intro h
        exact .inr (h e rfl)
      · rintro foreseen _ ⟨⟩
        exact foreseen.resolve_left other

end leaks

/-! ## What each conversion leaks -/

section conversions

variable {rt : Runtime}

lemma braced_leaks {raw : String} : ¬ Leaks (braced raw) := by
  simp only [braced]
  split
  all_goals simp [Foreseen]

lemma item_leaks {payload : Dict} {key : String} : ¬ Leaks (item payload key) := by
  simp only [item]
  split
  all_goals simp [Foreseen]

lemma decisionKind_leaks {v : Json} : ¬ Leaks (decisionKind rt v) := by
  simp only [decisionKind]
  split
  all_goals simp [Foreseen]

lemma actionKind_leaks {v : Json} : ¬ Leaks (actionKind rt v) := by
  simp only [actionKind]
  split
  all_goals simp [Foreseen]

lemma loadDict_leaks_iff {text : String} : Leaks (loadDict rt text) ↔ rt.jsonTooDeep text = true := by
  simp only [loadDict]
  split
  case isTrue deep => simp [Foreseen, deep]
  case isFalse =>
    split
    all_goals simp_all [Foreseen]

/-- An integer that rounds to no finite double. -/
def TooLarge (v : Json) : Prop := ∃ i, v = .int i ∧ Python.floatLimit ≤ i.natAbs

lemma float_leaks_iff {v : Json} : Leaks (Python.float rt v) ↔ TooLarge v := by
  cases v with
  | int i =>
    simp only [Python.float, TooLarge]
    split
    case isTrue large => simp [Foreseen, large]
    case isFalse small => simp [small]
  | str s =>
    simp only [Python.float]
    split
    all_goals simp [Foreseen, TooLarge]
  | _ => simp [Python.float, TooLarge, Foreseen]

/-- A value that stands for an identifier and is not a text. -/
def NotText (v : Json) : Prop := v.truthy = true ∧ ∀ s, v ≠ .str s

lemma citedId_leaks_iff {v : Json} : Leaks (citedId rt v) ↔ NotText v := by
  simp only [citedId]
  split
  case isFalse falsy => simp [NotText, falsy]
  case isTrue truthy =>
    split
    case h_1 s =>
      split
      all_goals simp [Foreseen, NotText]
    case h_2 other =>
      simp [Foreseen, NotText, truthy]
      exact other

end conversions

/-! ## The answers that escape -/

/-- The text holds an object whose key `decision` names a decision. -/
def Decides (rt : Runtime) (raw : String) (payload : Dict) : Prop :=
  ∃ text, braced raw = .ok text ∧ loadDict rt text = .ok payload ∧
    ∃ v kind, item payload "decision" = .ok v ∧ decisionKind rt v = .ok kind

/-- The answers that raise what no `except` clause names. -/
inductive Escapes (rt : Runtime) (raw : String) : Prop where
  | deep (text : String) (cut : braced raw = .ok text) (deep : rt.jsonTooDeep text = true)
  | large (payload : Dict) (decides : Decides rt raw payload)
    (large : TooLarge (payload.getD "confidence" (.float 0)))
  | notText (payload : Dict) (decides : Decides rt raw payload) (x : Flt)
    (confidence : Python.float rt (payload.getD "confidence" (.float 0)) = .ok x)
    (notText : NotText (payload.get "cited_memory_id"))

section parser

variable {rt : Runtime} {raw : String} {signal : IncidentSignal} {memory : RecallBundle}

/-- The first block leaks on exactly these answers: it asks for the decision first, then for the
confidence, and for the citation last. -/
lemma answer_leaks_iff : Leaks (answer rt raw) ↔ Escapes rt raw := by
  simp only [answer, leaks_bind, braced_leaks, item_leaks, decisionKind_leaks, loadDict_leaks_iff,
    float_leaks_iff, citedId_leaks_iff, false_or]
  constructor
  · rintro ⟨text, cut, deep | ⟨payload, load, v, named, kind, decides, rest⟩⟩
    · exact .deep text cut deep
    have decides : Decides rt raw payload := ⟨text, cut, load, v, kind, named, decides⟩
    rcases rest with large | ⟨x, confidence, notText | ⟨_, _, leaks⟩⟩
    · exact .large payload decides large
    · exact .notText payload decides x confidence notText
    · exact absurd leaks leaks_ok
  · rintro (⟨text, cut, deep⟩ | ⟨payload, ⟨text, cut, load, v, kind, named, decides⟩, large⟩ |
      ⟨payload, ⟨text, cut, load, v, kind, named, decides⟩, x, confidence, notText⟩)
    · exact ⟨text, cut, .inl deep⟩
    · exact ⟨text, cut, .inr ⟨payload, load, v, named, kind, decides, .inl large⟩⟩
    · exact ⟨text, cut, .inr ⟨payload, load, v, named, kind, decides, .inr ⟨x, confidence, .inl notText⟩⟩⟩

/-- The second block leaks nothing. -/
lemma remediationFields_leaks {payload : Dict} : ¬ Leaks (remediationFields rt payload) := by
  simp only [remediationFields, leaks_bind, item_leaks, actionKind_leaks, false_or]
  rintro ⟨_, _, _, _, leaks⟩
  exact leaks_ok leaks

lemma citingDecision_raises {a : Answer} {candidate : MemoryCandidate} :
    RaisesReasoning (citingDecision rt signal a candidate) := by
  simp only [citingDecision]
  split
  case isTrue => exact raisesReasoning_error
  case isFalse =>
    apply RaisesReasoning.bind
    · exact raisesReasoning_guarded_iff.mpr remediationFields_leaks
    · intro f
      split
      case isTrue => exact raisesReasoning_error
      case isFalse =>
        split
        case isTrue => exact raisesReasoning_error
        case isFalse => exact raisesReasoning_ok

/-- What leaks out of the first block leaks out of the parser, and nothing else does. -/
lemma parseDecision_raises_iff :
    RaisesReasoning (parseDecision rt raw signal memory) ↔ ¬ Escapes rt raw := by
  rw [← answer_leaks_iff,
    ← @raisesReasoning_guarded_iff _ "Reasoner did not return the typed decision contract."]
  constructor
  · intro h e raised
    apply h
    simp only [parseDecision, raised]
    rfl
  · intro h
    apply h.bind
    intro a
    split
    case isTrue => exact raisesReasoning_ok
    case isFalse =>
      split
      case h_1 => exact raisesReasoning_error
      case h_2 candidate _ => exact citingDecision_raises

end parser

/-! ## The contract -/

/-- The command copies the signal, cites the candidate and follows its runbook. -/
structure Carries (signal : IncidentSignal) (memory : RecallBundle) (decision : AgentDecision)
    (c : RemediationCommand) (candidate : MemoryCandidate) : Prop extends
    Cites signal memory decision c candidate where
  agentId : c.agentId = signal.agentId
  sessionId : c.sessionId = signal.sessionId
  version : Python.strip c.targetVersion ≠ ""

/-- The parser returns or raises `ReasoningError`, and a remediation it returns carries a command that
the signal and a recalled candidate determine. -/
structure ParserContract (rt : Runtime) (raw : String) (signal : IncidentSignal) (memory : RecallBundle) :
    Prop where
  raises : ∀ e, parseDecision rt raw signal memory = .error e → e.cls = .ReasoningError
  carries : ∀ decision, parseDecision rt raw signal memory = .ok decision → decision.kind = .remediate →
    ∃ c candidate, Carries signal memory decision c candidate

lemma parseDecision_carries {rt raw signal memory decision}
    (h : parseDecision rt raw signal memory = .ok decision) (remediates : decision.kind = .remediate) :
    ∃ c candidate, Carries signal memory decision c candidate := by
  obtain ⟨a, f, candidate, parsed⟩ := parseDecision_parsed h remediates
  refine ⟨_, candidate, parsed.cites, rfl, rfl, ?_⟩
  obtain ⟨v, _, fields⟩ := bind_ok parsed.fields
  obtain ⟨action, _, e⟩ := bind_ok fields
  -- the version is stripped before it is compared with the empty text
  have stripped : Python.strip f.targetVersion = f.targetVersion := by
    cases e
    exact Python.strip_strip _
  exact ne_of_eq_of_ne stripped parsed.version

/-- The contract holds of exactly the answers that do not escape. -/
theorem parseDecision_contract {rt raw signal memory} :
    ParserContract rt raw signal memory ↔ ¬ Escapes rt raw := by
  rw [← @parseDecision_raises_iff _ _ signal memory]
  constructor
  · intro h
    exact h.raises
  · intro raises
    constructor
    case raises => exact raises
    case carries => exact fun decision => parseDecision_carries

namespace Sample

/-- An answer that escalates and cites a number. -/
def citingSeven : String := "\x7b\"decision\": \"escalate\", \"cited_memory_id\": 7\x7d"

/-- The library on that answer. -/
def readingSeven : Runtime :=
  { Runtime.sample with
    jsonLoads := fun s =>
      if s = citingSeven then some (.obj [("decision", .str "escalate"), ("cited_memory_id", .int 7)]) else none }

end Sample

/-- An answer that cites the number 7 raises `AttributeError`. -/
theorem cited_number_escapes :
    parseDecision Sample.readingSeven Sample.citingSeven Sample.secondSignal {} =
        .error ⟨.AttributeError, "object has no attribute 'replace'", none, none⟩ ∧
      ¬ ParserContract Sample.readingSeven Sample.citingSeven Sample.secondSignal {} := by
  have raised : parseDecision Sample.readingSeven Sample.citingSeven Sample.secondSignal {} =
      .error ⟨.AttributeError, "object has no attribute 'replace'", none, none⟩ := by
    decide +kernel
  refine ⟨raised, ?_⟩
  intro contract
  cases contract.raises _ raised

end Postmortem
