import Postmortem.Consolidation.Grouping

/-!
# Consolidation models

`consolidation/postmortem_consolidation/model.py`: the prompt, the candidate made of a model's
payload, and `DeterministicConsolidationModel`. `consolidate_spec` says what the latter returns for a
group of episodes.
-/

namespace Postmortem

/-- What every candidate takes from its group: both models make it with `_candidate_from_payload`. -/
structure FromGroup (g : EpisodeGroup) (c : CandidateRunbook) : Prop where
  orgId : c.orgId = g.orgId
  agentId : c.agentId = g.agentId
  incidentId : c.incidentId = g.incidentId
  outcome : c.outcome = g.outcome
  sources : c.sourceEventIds = g.episodes.map ChangeEvent.eventId

/-- `ConsolidationModel` -/
structure ConsolidationModel where
  consolidate : EpisodeGroup → Except Raised ModelResult
  fromGroup : ∀ g result, consolidate g = .ok result → FromGroup g result.candidate

/-- `build_prompt` -/
def buildPrompt (rt : Runtime) (g : EpisodeGroup) : String :=
  let episodes := g.episodes.map fun item => Json.obj [
    ("event_id", .str item.eventId),
    ("type", .str item.eventType),
    ("content", .str item.content),
    ("metadata", .obj item.metadata),
    ("occurred_at", .str (rt.isoformat item.occurredAt))]
  "You are Postmortem's sleep-time memory consolidator. Distill the completed " ++
    "incident into one safe procedural runbook. Return JSON only with keys: " ++
    "name, trigger_desc, steps, preconditions, postconditions, service_tags, " ++
    "error_signatures. Do not invent actions not present in the evidence.\n" ++
    "OUTCOME=" ++ g.outcome.text ++ "\nEPISODES=" ++ rt.jsonDumpsSorted (.arr episodes)

/-- `isinstance(value, Mapping)` -/
def Json.isMapping : Json → Bool
  | .obj _ => true
  | _ => false

section payload

variable (rt : Runtime) (payload : Dict)

/-- `payload.get(key) or ()`, which has to be an array. -/
def payloadArray (key : String) : Except Raised (List Json) :=
  match (payload.get key).orElse (.arr []) with
  | .arr items => .ok items
  | _ => valueError ("model field " ++ rt.repr (.str key) ++ " must be an array")

/-- `objects` -/
def payloadObjects (key : String) : Except Raised (List Json) := do
  let raw ← payloadArray rt payload key
  if raw.all Json.isMapping then return raw
  else valueError ("model field " ++ rt.repr (.str key) ++ " must contain objects")

/-- `strings` -/
def payloadStrings (key : String) : Except Raised (List String) := do
  let raw ← payloadArray rt payload key
  return (raw.map (Python.str rt)).filter fun s => s ≠ ""

/-- `str(payload.get(key) or "").strip()` -/
def payloadText (key : String) : String :=
  Python.strip (Python.str rt ((payload.get key).orElse (.str "")))

/-- `_candidate_from_payload` -/
def candidateFromPayload (g : EpisodeGroup) : Except Raised CandidateRunbook :=
  match payload.get "steps" with
  | .arr (_ :: _) => do
    let steps ← payloadObjects rt payload "steps"
    let preconditions ← payloadObjects rt payload "preconditions"
    let postconditions ← payloadObjects rt payload "postconditions"
    let serviceTags ← payloadStrings rt payload "service_tags"
    let errorSignatures ← payloadStrings rt payload "error_signatures"
    return {
      orgId := g.orgId
      agentId := g.agentId
      incidentId := g.incidentId
      serviceId := g.serviceId
      name := payloadText rt payload "name"
      triggerDesc := payloadText rt payload "trigger_desc"
      steps, preconditions, postconditions, serviceTags, errorSignatures
      outcome := g.outcome
      sourceEventIds := g.episodes.map ChangeEvent.eventId }
  | _ => valueError "consolidation model returned no runbook steps"

end payload

/-- What a candidate takes from the group and from the payload. -/
structure FromPayload (payload : Dict) (g : EpisodeGroup) (c : CandidateRunbook) : Prop
    extends FromGroup g c where
  steps : payload.get "steps" = .arr c.steps

lemma payloadArray_spec {rt payload key items} (h : payloadArray rt payload key = .ok items) :
    (payload.get key).orElse (.arr []) = .arr items := by
  unfold payloadArray at h
  split at h
  case h_1 e => cases h; exact e
  case h_2 => cases h

lemma candidateFromPayload_spec {rt payload g c} (h : candidateFromPayload rt payload g = .ok c) :
    FromPayload payload g c := by
  unfold candidateFromPayload at h
  split at h
  case h_2 => cases h
  case h_1 first rest ste =>
    obtain ⟨steps, es, h⟩ := bind_ok h
    obtain ⟨preconditions, _, h⟩ := bind_ok h
    obtain ⟨postconditions, _, h⟩ := bind_ok h
    obtain ⟨serviceTags, _, h⟩ := bind_ok h
    obtain ⟨errorSignatures, _, h⟩ := bind_ok h
    cases h
    obtain ⟨raw, er, es⟩ := bind_ok es
    have raw_eq := payloadArray_spec er
    rw [ste] at raw_eq
    cases raw_eq
    split at es
    case isTrue =>
      cases es
      exact ⟨⟨rfl, rfl, rfl, rfl, rfl⟩, ste⟩
    case isFalse => cases es

namespace DeterministicConsolidationModel

/-- The class `[a-z0-9]`. -/
def isNameChar (c : Char) : Bool := ('a' ≤ c && c ≤ 'z') || ('0' ≤ c && c ≤ '9')

/-- `re.sub(r"[^a-z0-9]+", "-", text)`; `gap` says that the last character was replaced. -/
def hyphenated (gap : Bool) : List Char → List Char
  | [] => []
  | c :: rest =>
    if isNameChar c then c :: hyphenated false rest
    else if gap then hyphenated true rest
    else '-' :: hyphenated true rest

/-- `text.strip("-")` -/
def stripHyphens (l : List Char) : List Char :=
  ((l.dropWhile (· = '-')).reverse.dropWhile (· = '-')).reverse

variable (rt : Runtime) (g : EpisodeGroup)

/-- `name_token` -/
def nameToken (service family : String) : String :=
  String.ofList (stripHyphens (hyphenated false (rt.lower (service ++ "-" ++ family)).toList))

/-- `alert`, where `first` is `group.episodes[0]`. -/
def alert (first : ChangeEvent) : ChangeEvent :=
  (g.episodes.find? fun e => e.eventType = "alert").getD first

/-- `action`, where `last` is `group.episodes[-1]`. -/
def action (last : ChangeEvent) : ChangeEvent :=
  (g.episodes.reverse.find? fun e => e.eventType = "action").getD last

section payload

variable (alert action : ChangeEvent)

/-- `service` -/
def service : String :=
  Python.str rt ((alert.metadata.get "service_name").orElse
    ((action.metadata.get "service_name").orElse (.str g.serviceId)))

/-- `family` -/
def family : String :=
  Python.str rt ((alert.metadata.get "family_id").orElse
    ((action.metadata.get "family_id").orElse (.str "incident")))

/-- `signature` -/
def signature : String :=
  Python.str rt ((alert.metadata.get "error_signature").orElse
    ((alert.metadata.get "signal").orElse
      ((Json.str alert.content).orElse (.str (family rt alert action)))))

/-- `action_type` -/
def actionType : String :=
  Python.str rt ((action.metadata.get "action_type").orElse (.str "escalate"))

/-- `action_params` -/
def actionParams : Dict :=
  match (action.metadata.get "params").orElse (.obj []) with
  | .obj fields => fields
  | _ => []

/-- The second step. -/
def remediationStep : Json := .obj [
  ("order", .int 2),
  ("tool", .str "remediate_and_record"),
  ("action", .str (actionType rt action)),
  ("params", .obj (actionParams action))]

/-- `payload["steps"]` -/
def steps : List Json := [
  .obj [
    ("order", .int 1),
    ("tool", .str "get_operational_state"),
    ("action", .str "verify_signature"),
    ("expected", .str (signature rt alert action))],
  remediationStep rt action,
  .obj [
    ("order", .int 3),
    ("tool", .str "get_operational_state"),
    ("action", .str "verify_slo_recovery")]]

/-- `payload` -/
def payload : Dict :=
  let service := service rt g alert action
  let signature := signature rt alert action
  let token := nameToken rt service (family rt alert action)
  [("name", .str (if token = "" then "incident-response" else token)),
    ("trigger_desc", .str signature),
    ("steps", .arr (steps rt alert action)),
    ("preconditions", .arr [
      .obj [("field", .str "service"), ("operator", .str "eq"), ("value", .str service)],
      .obj [("field", .str "signature"), ("operator", .str "contains"), ("value", .str signature)]]),
    ("postconditions", .arr [
      .obj [("field", .str "slo_status"), ("operator", .str "eq"), ("value", .str "healthy")]]),
    ("service_tags", .arr [.str service]),
    ("error_signatures", .arr [.str signature])]

end payload

/-- `model_id` -/
def modelId : String := "deterministic-local-v1"

/-- `consolidate` -/
def consolidate : Except Raised ModelResult :=
  match g.episodes.head?, g.episodes.getLast? with
  | some first, some last => do
    let payload := payload rt g (alert g first) (action g last)
    let candidate ← candidateFromPayload rt payload g
    return {
      candidate := candidate
      modelId := modelId
      prompt := buildPrompt rt g
      rawResponse := rt.jsonDumps (.obj payload) }
  | _, _ => .error ⟨.IndexError, "tuple index out of range", none, none⟩

/-- What the model returns for a group with episodes. -/
lemma consolidate_spec {rt g result} (h : consolidate rt g = .ok result) :
    ∃ first last, g.episodes.head? = some first ∧ g.episodes.getLast? = some last ∧
      FromPayload (payload rt g (alert g first) (action g last)) g result.candidate := by
  simp only [consolidate] at h
  split at h
  case h_1 first last hf hl =>
    obtain ⟨c, e, h⟩ := bind_ok h
    cases h
    exact ⟨first, last, hf, hl, candidateFromPayload_spec e⟩
  case h_2 => cases h

/-- The steps of the candidate. -/
lemma consolidate_steps {rt g result} (h : consolidate rt g = .ok result) :
    ∃ first last, g.episodes.head? = some first ∧ g.episodes.getLast? = some last ∧
      result.candidate.steps = steps rt (alert g first) (action g last) := by
  obtain ⟨first, last, hf, hl, spec⟩ := consolidate_spec h
  exact ⟨first, last, hf, hl, (Json.arr.inj spec.steps).symm⟩

/-- The deterministic model. -/
def model (rt : Runtime) : ConsolidationModel where
  consolidate := consolidate rt
  fromGroup g result h := by
    obtain ⟨_, _, _, _, spec⟩ := consolidate_spec h
    exact spec.toFromGroup

/-- The action is the last one, if there is one. -/
lemma action_spec {g last} (h : ∃ e ∈ g.episodes, e.eventType = "action") :
    action g last ∈ g.episodes ∧ (action g last).eventType = "action" := by
  obtain ⟨e, he, t⟩ := h
  unfold action
  cases found : g.episodes.reverse.find? (fun e => e.eventType = "action") with
  | none =>
    have no := List.find?_eq_none.mp found e (List.mem_reverse.mpr he)
    exact absurd (decide_eq_true t) no
  | some a =>
    have mem := List.mem_of_find?_eq_some found
    exact ⟨List.mem_reverse.mp mem, by simpa using List.find?_some found⟩

end DeterministicConsolidationModel

end Postmortem
