import Postmortem.Backend.Domain
import Postmortem.Lib.Regex

/-!
# Prompt-injection screening

`guardrails/injection.py`: an untrusted text is normalized, stripped of control and format characters,
and refused where it is too long or matches one of the injection patterns. `sanitizeSignal` screens
an inbound signal and `guardUntrustedRecallBundle` a recalled bundle.
-/

namespace Postmortem

/-- `MAX_UNTRUSTED_FIELD_CHARS` -/
def maxUntrustedFieldChars : Nat := 8000

namespace Pattern

open Regex

/-- The characters `re.IGNORECASE` matches with the lower-case ASCII character `c`. -/
def sameLetter (c d : Char) : Bool :=
  d == c || d == c.toUpper ||
    -- the dotted and dotless i, the long s and the Kelvin sign
    (c == 'i' && (d.toNat == 0x130 || d.toNat == 0x131)) || (c == 's' && d.toNat == 0x17f) ||
    (c == 'k' && d.toNat == 0x212a)

/-- A text, in any case. -/
def lit (s : String) : Regex := Regex.all (s.toList.map fun c => char (sameLetter c))

/-- `\s` -/
def space : Regex := char Python.isSpace

/-- `\s*` -/
def spaces : Regex := star space

/-- `\s+` -/
def gap : Regex := plus space

/-- `[_-]` -/
def dash : Regex := char fun c => c == '_' || c == '-'

/-- `<\s*/?\s*` -/
def tagOpen : Regex := Regex.all [lit "<", spaces, optional (lit "/"), spaces]

/-- `(all\s+)?` -/
def allOf : Regex := optional (seq (lit "all") gap)

end Pattern

open Pattern Regex in
/-- `_INJECTION_PATTERNS` -/
def injectionPatterns : List Regex := [
  -- tool / function call syntax
  Regex.all [wordBoundary, lit "tool_call", wordBoundary],
  Regex.all [wordBoundary, lit "function_call", wordBoundary],
  Regex.all [tagOpen, lit "tool", optional dash, lit "use", wordBoundary],
  Regex.all [tagOpen, lit "function", optional dash, lit "call", optional (lit "s"), wordBoundary],
  Regex.all [wordBoundary,
    Regex.any (lit "remediate_and_record") [lit "scale_data_tier", lit "update_incident_state",
      lit "record_episode"], spaces, lit "("],
  -- instruction-override / jailbreak phrasing
  Regex.all [lit "ignore", gap, allOf, Regex.any (lit "previous") [lit "prior", lit "above"], gap,
    lit "instructions"],
  Regex.all [lit "disregard", gap, allOf,
    Regex.any (lit "previous") [lit "prior", Regex.all [lit "the", gap, lit "above"]]],
  Regex.all [lit "you", gap, lit "are", gap, lit "now", gap],
  Regex.all [lit "new", gap, lit "system", gap, lit "prompt"],
  -- chat role / turn markers used to fake a system/assistant turn
  Regex.all [lineStart, spaces, Regex.any (lit "system") [lit "assistant", lit "developer"], spaces,
    lit ":"],
  Regex.all [tagOpen, Regex.any (lit "system") [lit "assistant", lit "user"], spaces, lit ">"],
  Regex.all [lit "[", optional (lit "/"), lit "inst", lit "]"],
  Regex.all [lit "<|", Regex.any (lit "im_start") [lit "im_end", lit "system", lit "assistant"],
    lit "|>"]]

/-- `_CONTROL_CHARS` -/
def isControl (c : Char) : Bool :=
  let n := c.toNat
  n ≤ 8 || n == 11 || n == 12 || (14 ≤ n && n ≤ 31) || n == 127

section screening

variable (rt : Runtime)

/-- `normalize_untrusted_text` -/
def normalizeUntrustedText (text : String) : String :=
  String.ofList ((rt.nfkc text).toList.filter fun c => !rt.isFormat c)

/-- `scrub_control_characters` -/
def scrubControlCharacters (text : String) : String :=
  String.ofList ((normalizeUntrustedText rt text).toList.filter fun c => !isControl c)

/-- `contains_tool_call_injection` -/
def containsToolCallInjection (text : String) : Bool :=
  text != "" && injectionPatterns.any fun p => p.search rt.isWord text

/-- The refusal of an overlong field. -/
def overlong (field : String) : Raised :=
  { cls := .PromptInjectionDetected
    message := "Untrusted field '" ++ field ++ "' exceeds " ++ toString maxUntrustedFieldChars ++
      " chars; refusing (context-stuffing guard, T1)." }

/-- The refusal of a field that matches a pattern. -/
def injected (field : String) : Raised :=
  { cls := .PromptInjectionDetected
    message := "Untrusted field '" ++ field ++ "' contains tool-call-looking or " ++
      "instruction-override content; refusing (T1/R6)." }

/-- `guard_untrusted_text` on a text that is not `None`. -/
def guardUntrustedText (field text : String) : Except Raised String :=
  let scrubbed := scrubControlCharacters rt text
  if scrubbed.length > maxUntrustedFieldChars then .error (overlong field)
  else if containsToolCallInjection rt scrubbed then .error (injected field)
  else .ok scrubbed

/-- `guard_untrusted_text` -/
def guardUntrustedText? (field : String) : Option String → Except Raised (Option String)
  | none => .ok none
  | some text => do return some (← guardUntrustedText rt field text)

/-- The loop over `signal.metadata`: only string values at the top level are screened. -/
def screenMetadata : Dict → Except Raised Unit
  | [] => .ok ()
  | (key, .str s) :: fields => do
    let _ ← guardUntrustedText rt ("metadata." ++ key) s
    screenMetadata fields
  | _ :: fields => screenMetadata fields

/-- `sanitize_signal` -/
def sanitizeSignal (signal : IncidentSignal) : Except Raised IncidentSignal := do
  let cleanSummary ← guardUntrustedText rt "summary" signal.summary
  let cleanSignature ← guardUntrustedText? rt "error_signature" signal.errorSignature
  let cleanTags ← signal.serviceTags.mapM (guardUntrustedText rt "service_tags")
  screenMetadata rt signal.metadata
  return { signal with
    summary := cleanSummary
    errorSignature := cleanSignature
    serviceTags := cleanTags }

mutual
/-- `_scan_untrusted_value` -/
def scanUntrustedValue (field : String) : Json → Except Raised Json
  | .str s => do return .str (← guardUntrustedText rt field s)
  | .obj fields => do return .obj (← scanUntrustedFields field fields)
  | .arr items => do return .arr (← scanUntrustedItems field items)
  | v => .ok v
/-- The comprehension over an object: the keys stay as they are. -/
def scanUntrustedFields (field : String) : Dict → Except Raised Dict
  | [] => .ok []
  | (key, v) :: fields => do
    let v ← scanUntrustedValue (field ++ "." ++ key) v
    return (key, v) :: (← scanUntrustedFields field fields)
/-- The comprehension over a list. -/
def scanUntrustedItems (field : String) : List Json → Except Raised (List Json)
  | [] => .ok []
  | v :: items => do
    let v ← scanUntrustedValue field v
    return v :: (← scanUntrustedItems field items)
end

/-- `guard_untrusted_memory_candidate` -/
def guardUntrustedMemoryCandidate (candidate : MemoryCandidate) : Except Raised MemoryCandidate := do
  let content ← guardUntrustedText rt "memory.content" candidate.content
  let steps ← scanUntrustedItems rt "memory.steps" candidate.steps
  let metadata ← scanUntrustedFields rt "memory.metadata" candidate.metadata
  return { candidate with content, steps, metadata }

/-- `guard_untrusted_recall_bundle` -/
def guardUntrustedRecallBundle (bundle : RecallBundle) : Except Raised RecallBundle := do
  let episodes ← bundle.episodes.mapM (guardUntrustedMemoryCandidate rt)
  let facts ← bundle.facts.mapM (guardUntrustedMemoryCandidate rt)
  let runbooks ← bundle.runbooks.mapM (guardUntrustedMemoryCandidate rt)
  return { bundle with episodes, facts, runbooks }

end screening

/-! ## An example signal and bundle -/

namespace Sample

/-- A signal with the given severity. -/
def alert (severity : String) : IncidentSignal where
  incidentId := .sample 3
  sessionId := .sample 4
  orgId := .sample 1
  agentId := .sample 2
  serviceId := .sample 5
  severity := severity
  summary := "errors since v2"
  errorSignature := some "HTTP_5XX"
  observedAt := 0

/-- A recalled episode with one metadata field of the given name. -/
def bundleWith (key : String) : RecallBundle where
  episodes := [
    { memoryId := .sample 6
      kind := .episodic
      content := "deploy of v2"
      similarity := 1
      metadata := [(key, .str "rolled back")] }]

end Sample

end Postmortem
