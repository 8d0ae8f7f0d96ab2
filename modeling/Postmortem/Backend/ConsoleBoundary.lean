import Postmortem.Backend.TurnTrace
import Postmortem.Backend.Transport
import Postmortem.Web.Console

/-!
# No event is dropped at the console

Every event that `ResponderService.handle` or `OutcomeService.record` publishes has data from which `_payload`
makes a payload of the shape the console checks (`Renders`). The shape survives the JSON round trip, so
`parseConsoleEvent` returns the frame with the type the transport chose (`published_accepted`).
-/

namespace Postmortem

open Web (wire prop isValidPayload consoleEventTypes parseConsoleEvent)

variable {rt : Runtime}

/-- The transport makes of the event a payload that the console takes, with no numbers but those of its data. -/
def Renders (rt : Runtime) (e : AgentEvent) : Prop :=
  ∀ eventId occurredAt, ∃ type payload, payloadOf rt eventId occurredAt e = .ok (type, payload) ∧
    type ∈ consoleEventTypes ∧ isValidPayload type (.obj payload) = true ∧
    (Json.storable (.obj e.data) = true → Json.storable (.obj payload) = true)

/-! ## Payloads -/

section payloads

variable {e : AgentEvent}

lemma storable_getD {d : Dict} {key : String} {default : Json} (fields : Json.storable (.obj d) = true)
    (other : default.storable = true) : (Dict.getD d key default).storable = true := by
  unfold Dict.getD
  induction d with
  | nil => exact other
  | cons f d ih =>
    obtain ⟨k, x⟩ := f
    have both : x.storable = true ∧ Json.storable (.obj d) = true := by
      unfold Json.storable Json.storableFields at fields
      exact Bool.and_eq_true_iff.mp fields
    unfold Assoc.get
    split
    case isTrue => exact both.1
    case isFalse => exact ih both.2

lemma renders_incident (type : e.type = .incidentReceived) : Renders rt e := by
  intro eventId occurredAt
  refine ⟨"incident", incidentPayload rt e, ?_, by decide, rfl, fun _ => rfl⟩
  unfold payloadOf
  rw [type]

lemma storable_citedIds {v : Json} : (citedIds rt v).storable = true := by
  unfold citedIds
  split
  all_goals rfl

lemma renders_reason (type : e.type = .reasoningStarted ∨ e.type = .decisionProposed ∨ e.type = .responseFailed) :
    Renders rt e := by
  intro eventId occurredAt
  refine ⟨"reason", reasonPayload rt e, ?_, by decide, rfl, ?_⟩
  · unfold payloadOf
    rcases type with type | type | type
    all_goals rw [type]
  · intro _
    simp only [reasonPayload, Json.storable, Json.storableFields, storable_citedIds, textField, Bool.and_true]

/-- The items of a list are strings or were in it. -/
lemma storable_list {v : Json} {items : List Json} (listed : Python.list v = .ok items) (finite : v.storable = true) :
    Json.storable (.arr items) = true := by
  have texts : ∀ l : List String, Json.storableList (l.map Json.str) = true := by
    intro l
    induction l with
    | nil => rfl
    | cons s l ih => exact ih
  unfold Python.list at listed
  split at listed
  case h_1 =>
    cases listed
    exact finite
  case h_2 s =>
    cases listed
    have e : s.toList.map (fun c => Json.str (String.ofList [c])) =
        (s.toList.map fun c => String.ofList [c]).map Json.str := by
      rw [List.map_map]
      rfl
    rw [e]
    exact texts _
  case h_3 fields =>
    cases listed
    have e : fields.map (fun f => Json.str f.1) = (fields.map Prod.fst).map Json.str := by
      rw [List.map_map]
      rfl
    rw [e]
    exact texts _
  case h_4 => cases listed

lemma renders_recall {durationMs rejectedCount : Int} {results : List Json}
    (type : e.type = .recallStarted ∨ e.type = .recallCompleted)
    (duration : Python.int rt (Dict.getD e.data "duration_ms" (.int 0)) = .ok durationMs)
    (rejected : Python.int rt (Dict.getD e.data "rejected_count" (.int 0)) = .ok rejectedCount)
    (listed : Python.list (Dict.getD e.data "results" (.arr [])) = .ok results) : Renders rt e := by
  intro eventId occurredAt
  have payload : ∃ fields, recallPayload rt e = .ok fields ∧ isValidPayload "recall" (.obj fields) = true ∧
      (Json.storable (.arr results) = true → Json.storable (.obj fields) = true) := by
    unfold recallPayload
    rw [duration, rejected, listed]
    refine ⟨_, rfl, rfl, ?_⟩
    intro finite
    simp only [Json.storable, Json.storableFields, textField, Bool.and_true, Bool.true_and]
    exact finite
  obtain ⟨fields, made, valid, finite⟩ := payload
  refine ⟨"recall", fields, ?_, by decide, valid, ?_⟩
  · unfold payloadOf
    rcases type with type | type
    all_goals rw [type, made]
    all_goals rfl
  · exact fun data => finite (storable_list listed (storable_getD data rfl))

lemma renders_act {arguments : Dict} (type : e.type = .actionProposed ∨ e.type = .approvalRequired)
    (given : Dict.getD e.data "arguments" (.obj []) = .obj arguments) : Renders rt e := by
  intro eventId occurredAt
  have payload : ∃ fields, actPayload rt eventId e = .ok fields ∧ isValidPayload "act" (.obj fields) = true ∧
      (Json.storable (.obj arguments) = true → Json.storable (.obj fields) = true) := by
    unfold actPayload
    rw [given]
    refine ⟨_, rfl, rfl, ?_⟩
    intro finite
    simp only [Json.storable, Json.storableFields, textField, Bool.and_true, Bool.true_and]
    exact finite
  obtain ⟨fields, made, valid, finite⟩ := payload
  refine ⟨"act", fields, ?_, by decide, valid, ?_⟩
  · unfold payloadOf
    rcases type with type | type
    all_goals rw [type, made]
    all_goals rfl
  · intro data
    apply finite
    rw [← given]
    exact storable_getD data rfl

lemma renders_transaction
    (type : e.type = .transactionStarted ∨ e.type = .transactionCommitted ∨ e.type = .transactionRolledBack)
    (plain : Assoc.get e.data "statements" = none) : Renders rt e := by
  intro eventId occurredAt
  have statements : Dict.getD e.data "statements" (.arr transactionStatements) = .arr transactionStatements := by
    unfold Dict.getD
    rw [plain]
    rfl
  have payload : ∀ state, ∃ fields, transactionPayload rt eventId occurredAt e state = .ok fields ∧
      isValidPayload "transaction" (.obj fields) = true ∧ Json.storable (.obj fields) = true := by
    intro state
    unfold transactionPayload
    rw [statements]
    refine ⟨_, rfl, rfl, ?_⟩
    split
    all_goals rfl
  have rendered : ∀ state, payloadOf rt eventId occurredAt e =
      (transactionPayload rt eventId occurredAt e state).map ("transaction", ·) →
      ∃ type payload, payloadOf rt eventId occurredAt e = .ok (type, payload) ∧ type ∈ consoleEventTypes ∧
        isValidPayload type (.obj payload) = true ∧
        (Json.storable (.obj e.data) = true → Json.storable (.obj payload) = true) := by
    intro state chosen
    obtain ⟨fields, made, valid, finite⟩ := payload state
    refine ⟨"transaction", fields, ?_, by decide, valid, fun _ => finite⟩
    rw [chosen, made]
    rfl
  rcases type with type | type | type
  · apply rendered "begun"
    unfold payloadOf
    rw [type]
  · apply rendered "committed"
    unfold payloadOf
    rw [type]
  · apply rendered "rolled_back"
    unfold payloadOf
    rw [type]

lemma renders_record {freshnessMs staleReadsObserved : Int}
    (type : e.type = .responseCompleted ∨ e.type = .outcomeRecorded)
    (freshness : Python.int rt (Dict.getD e.data "freshness_ms" (.int 0)) = .ok freshnessMs)
    (stale : Python.int rt (Dict.getD e.data "stale_reads_observed" (.int 0)) = .ok staleReadsObserved) :
    Renders rt e := by
  intro eventId occurredAt
  have payload : ∃ fields, recordPayload rt e = .ok fields ∧ isValidPayload "record" (.obj fields) = true ∧
      Json.storable (.obj fields) = true := by
    unfold recordPayload
    rw [freshness, stale]
    exact ⟨_, rfl, rfl, rfl⟩
  obtain ⟨fields, made, valid, finite⟩ := payload
  have chosen : payloadOf rt eventId occurredAt e =
      if (e.data.get "memory_id").truthy then (recordPayload rt e).map ("record", ·)
      else .ok ("reason", messagePayload e) := by
    unfold payloadOf
    rcases type with type | type
    all_goals rw [type]
  rw [chosen]
  split
  case isTrue =>
    refine ⟨"record", fields, ?_, by decide, valid, fun _ => finite⟩
    rw [made]
    rfl
  case isFalse => exact ⟨"reason", messagePayload e, rfl, by decide, rfl, fun _ => rfl⟩

end payloads

/-! ## Turns -/

section turns

open ResponderService

variable {σ : Type} {ports : Ports σ} {signal : IncidentSignal}

/-- The transport makes a payload of every event of the log. -/
def Rendered (rt : Runtime) (s : TurnState σ) : Prop := ∀ e, .published e ∈ s.log → Renders rt e

lemma event_rendered {type stage message data}
    (renders : Renders rt { incidentId := signal.incidentId, type, stage, message, data }) :
    Effect.Meets (Rendered rt) (event ports signal type stage message data) (fun _ => Rendered rt)
      (fun _ => Rendered rt) := by
  intro s hs
  unfold event
  generalize ({ incidentId := signal.incidentId, type, stage, message, data } : AgentEvent) = e at renders
  have kept : Rendered rt { s with log := s.log ++ [.published e] } := by
    intro e' h
    rcases List.mem_append.mp h with h | h
    · exact hs e' h
    · cases List.mem_singleton.mp h
      exact renders
  simp only
  cases ports.publish s.log.length e with
  | none => exact kept
  | some _ => exact kept

lemma lift_rendered {α : Type} {x : Except Raised α} :
    Effect.Meets (Rendered rt) (Effect.lift x : Turn σ α) (fun _ => Rendered rt) (fun _ => Rendered rt) :=
  Effect.Meets.lift_keeps fun _ _ h => h

/-- The counts and the results of `recall.completed` are what `_payload` reads. -/
lemma recallData_renders {memory : RecallBundle} {data : Dict} {stage message : String}
    (made : recallData rt signal memory = .ok data) :
    Renders rt { incidentId := signal.incidentId, type := .recallCompleted, stage, message, data } := by
  unfold recallData at made
  obtain ⟨rejected, _, made⟩ := bind_ok made
  obtain ⟨results, _, made⟩ := bind_ok made
  cases made
  exact renders_recall (.inr rfl) rfl rfl rfl

lemma recallStage_rendered : Effect.Meets (Rendered rt) (recallStage rt ports signal) (fun _ => Rendered rt)
    (fun _ => Rendered rt) := by
  apply (event_rendered (renders_recall (.inl rfl) rfl rfl rfl)).bind
  intro _
  apply lift_rendered.bind
  intro embedding
  apply lift_rendered.bind
  intro returned
  apply lift_rendered.bind
  intro memory
  apply Effect.Meets.lift_bind
  case error => exact fun _ _ _ h => h
  intro data made
  apply (event_rendered (recallData_renders made)).bind
  intro _
  exact Effect.Meets.pure fun _ h => h

lemma reasonStage_rendered {memory} : Effect.Meets (Rendered rt) (reasonStage ports signal memory)
    (fun _ => Rendered rt) (fun _ => Rendered rt) := by
  apply (event_rendered (renders_reason (.inl rfl))).bind
  intro _
  apply lift_rendered.bind
  intro returned
  apply lift_rendered.bind
  intro decision
  apply (event_rendered (renders_reason (.inr (.inl rfl)))).bind
  intro _
  exact Effect.Meets.pure fun _ h => h

lemma gateStage_rendered {memory approver command} :
    Effect.Meets (Rendered rt) (gateStage rt ports signal memory approver command) (fun _ => Rendered rt)
      (fun _ => Rendered rt) := by
  apply lift_rendered.bind
  intro tool
  apply lift_rendered.bind
  intro _
  apply lift_rendered.bind
  intro _
  apply (event_rendered (renders_act (.inl rfl) rfl)).bind
  intro _
  split
  case isTrue =>
    apply (event_rendered (renders_act (.inr rfl) rfl)).bind
    intro _
    exact Effect.Meets.pure fun _ h => h
  case isFalse =>
    apply lift_rendered.bind
    intro record
    apply lift_rendered.bind
    intro embedding
    apply (event_rendered (renders_transaction (.inl rfl) rfl)).bind
    intro _
    exact Effect.Meets.pure fun _ h => h

lemma callRemediation_rendered {command embedding} :
    Effect.Meets (Rendered rt) (callRemediation ports command embedding) (fun _ => Rendered rt)
      (fun _ => Rendered rt) := by
  intro s hs
  unfold callRemediation
  generalize ports.remediateAndRecord command embedding s.store = out
  obtain ⟨store, out⟩ := out
  have kept : Rendered rt { s with store, log := s.log ++ [.remediated command embedding out] } := by
    intro e h
    rcases List.mem_append.mp h with h | h
    · exact hs e h
    · cases List.mem_singleton.mp h
  cases out with
  | ok _ => exact kept
  | error _ => exact kept

lemma executeStage_rendered {command embedding} :
    Effect.Meets (Rendered rt) (executeStage rt ports signal command embedding) (fun _ => Rendered rt)
      (fun _ => Rendered rt) := by
  apply Effect.Meets.bind (Q := fun _ => Rendered rt)
  · exact Effect.Meets.update fun _ h => h
  intro _
  apply callRemediation_rendered.bind
  intro returned
  apply lift_rendered.bind
  intro result
  apply (event_rendered (renders_transaction (.inr (.inl rfl)) rfl)).bind
  intro _
  exact Effect.Meets.pure fun _ h => h

lemma actStage_rendered {memory approved approver decision} :
    Effect.Meets (Rendered rt) (actStage rt ports signal memory approved approver decision) (fun _ => Rendered rt)
      (fun _ => Rendered rt) := by
  unfold actStage
  split
  case h_1 =>
    apply gateStage_rendered.bind
    rintro (_ | embedding)
    · exact Effect.Meets.pure fun _ h => h
    · apply executeStage_rendered.bind
      intro result
      exact Effect.Meets.pure fun _ h => h
  case h_2 => exact Effect.Meets.pure fun _ h => h

lemma recordStage_rendered {decision remediation} :
    Effect.Meets (Rendered rt) (recordStage ports signal decision remediation) (fun _ => Rendered rt)
      (fun _ => Rendered rt) := by
  apply (event_rendered (renders_record (.inl rfl) rfl rfl)).bind
  intro _
  exact Effect.Meets.pure fun _ h => h

lemma respond_rendered {approved approver} :
    Effect.Meets (Rendered rt) (respond rt ports signal approved approver) (fun _ => Rendered rt)
      (fun _ => Rendered rt) := by
  apply recallStage_rendered.bind
  intro memory
  apply reasonStage_rendered.bind
  intro decision
  apply actStage_rendered.bind
  rintro ⟨decision, remediation⟩
  exact recordStage_rendered

lemma failSafely_rendered {exc : Raised} :
    Effect.Meets (Rendered rt) (failSafely ports signal exc) (fun _ => Rendered rt) (fun _ => Rendered rt) := by
  apply Effect.Meets.read_bind
  intro s hs
  apply Effect.Meets.bind (Q := fun _ => Rendered rt)
  · have renders : Renders rt {
        incidentId := signal.incidentId
        type := failure s.transactionStarted
        stage := if s.transactionStarted then "act+record" else "response"
        message := "Responder failed safely; no partial remediation was recorded."
        data := [("error_type", .str exc.cls.name), ("error", .str exc.message)] } := by
      cases s.transactionStarted with
      | true => exact renders_transaction (.inr (.inr rfl)) rfl
      | false => exact renders_reason (.inr (.inr rfl))
    apply (event_rendered renders).mono
    · rintro _ rfl
      exact hs
    · exact fun _ _ h => h
    · exact fun _ _ h => h
  intro _
  exact Effect.Meets.raise fun _ h => h

lemma handleSanitized_rendered {approved approver} :
    Effect.Meets (Rendered rt) (handleSanitized rt ports signal approved approver) (fun _ => Rendered rt)
      (fun _ => Rendered rt) := by
  unfold handleSanitized
  apply (event_rendered (renders_incident rfl)).bind
  intro _
  exact respond_rendered.attempt fun _ => failSafely_rendered

lemma handle_rendered {approved approver} :
    Effect.Meets (Rendered rt) (ResponderService.handle rt ports signal approved approver) (fun _ => Rendered rt)
      (fun _ => Rendered rt) := by
  intro s hs
  cases sanitized : sanitizeSignal rt signal with
  | error e =>
    rw [handle_rejected rt ports signal sanitized]
    exact hs
  | ok signal' =>
    rw [handle_accepted rt ports signal sanitized]
    exact handleSanitized_rendered s hs

end turns

/-! ## Outcomes -/

section outcomes

variable {σ : Type} {ports : OutcomePorts σ} {command : OutcomeCommand}

/-- The transport makes a payload of every event published. -/
def OutcomeRendered (rt : Runtime) (s : OutcomeState σ) : Prop := ∀ e ∈ s.published, Renders rt e

lemma publish_rendered {e : AgentEvent} (renders : Renders rt e) :
    Effect.Meets (OutcomeRendered rt) (OutcomeService.publish ports e) (fun _ => OutcomeRendered rt)
      (fun _ => OutcomeRendered rt) := by
  intro s hs
  unfold OutcomeService.publish
  have kept : OutcomeRendered rt { s with published := s.published ++ [e] } := by
    intro e' h
    rcases List.mem_append.mp h with h | h
    · exact hs e' h
    · cases List.mem_singleton.mp h
      exact renders
  simp only
  cases ports.publish e with
  | none => exact kept
  | some _ => exact kept

lemma callRecord_rendered {embedding : Embedding} :
    Effect.Meets (OutcomeRendered rt) (OutcomeService.callRecord ports command embedding)
      (fun _ => OutcomeRendered rt) (fun _ => OutcomeRendered rt) := by
  intro s hs
  unfold OutcomeService.callRecord
  generalize ports.recordOutcome command embedding s.store = out
  obtain ⟨store, _ | _⟩ := out
  case ok => exact hs
  case error => exact hs

lemma record_rendered : Effect.Meets (OutcomeRendered rt) (OutcomeService.record ports command)
    (fun _ => OutcomeRendered rt) (fun _ => OutcomeRendered rt) := by
  apply Effect.Meets.bind (Effect.Meets.lift_keeps fun _ _ h => h)
  intro embedding
  apply callRecord_rendered.bind
  intro returned
  apply Effect.Meets.bind (Effect.Meets.lift_keeps fun _ _ h => h)
  intro result
  dsimp only
  split
  case isTrue =>
    apply (publish_rendered (renders_record (.inr rfl) rfl rfl)).bind
    intro _
    exact Effect.Meets.pure fun _ h => h
  case isFalse => exact Effect.Meets.pure fun _ h => h

end outcomes

/-! ## The console -/

/-- The frame of the event reaches the console: it is accepted, with the type that the transport chose and with
its payload. -/
structure Reaches (double : ℚ → ℚ) (frame : Json) (type : String) (payload : Dict) : Prop where
  accepted : (Web.roundTrip double frame).bind parseConsoleEvent = some (wire double frame)
  typed : prop (wire double frame) "type" = some (.str type)
  carried : prop (wire double frame) "payload" = some (wire double (.obj payload))
  unchanged : Web.Exact double (.obj payload) → (wire double (.obj payload)).norm = (Json.obj payload).norm

lemma Renders.reaches {e : AgentEvent} (h : Renders rt e) (finite : Json.storable (.obj e.data) = true)
    {double eventId occurredAt sequence agentId agentRegion} :
    ∃ type payload frame, payloadOf rt eventId occurredAt e = .ok (type, payload) ∧
      consoleEvent rt eventId occurredAt e sequence agentId agentRegion = .ok frame ∧
      Reaches double frame type payload := by
  obtain ⟨type, payload, made, known, valid, stays⟩ := h eventId occurredAt
  have framed : consoleEvent rt eventId occurredAt e sequence agentId agentRegion = .ok (.obj [
      ("id", .str eventId.text),
      ("sequence", .int sequence),
      ("occurredAt", .str (rt.isoformat occurredAt)),
      ("caseId", .str e.incidentId.text),
      ("agent", .obj [("id", .str agentId), ("region", .str agentRegion.value)]),
      ("type", .str type),
      ("payload", .obj payload)]) := by
    unfold consoleEvent
    rw [made]
    rfl
  generalize object : Json.obj [
      ("id", .str eventId.text),
      ("sequence", .int sequence),
      ("occurredAt", .str (rt.isoformat occurredAt)),
      ("caseId", .str e.incidentId.text),
      ("agent", .obj [("id", .str agentId), ("region", .str agentRegion.value)]),
      ("type", .str type),
      ("payload", .obj payload)] = frame at framed
  have typed : prop (wire double frame) "type" = some (.str type) := by
    rw [← object]
    rfl
  have carried : prop (wire double frame) "payload" = some (wire double (.obj payload)) := by
    rw [← object]
    rfl
  have storable : frame.storable = true := by
    rw [← object]
    simp only [Json.storable, Json.storableFields, Bool.and_true, Bool.true_and]
    exact stays finite
  refine ⟨type, payload, frame, made, framed, ?_, typed, carried, Web.norm_wire⟩
  unfold Web.roundTrip
  rw [if_pos storable]
  show parseConsoleEvent (wire double frame) = some (wire double frame)
  have listed : consoleEventTypes.contains type = true := List.contains_iff_mem.mpr known
  unfold parseConsoleEvent
  rw [typed, carried]
  apply if_pos
  rw [Web.isValidPayload_wire, valid, listed, ← object]
  rfl

/-- A turn or the record of an outcome publishes the event, whether it returns or raises. -/
inductive Published (rt : Runtime) (e : AgentEvent) : Prop
  | turn {σ : Type} {ports : Ports σ} {signal : IncidentSignal} {approved : Bool} {approver : Option String}
      {store : σ} :
    .published e ∈ (ResponderService.handle rt ports signal approved approver { store }).2.log →
    Published rt e
  | outcome {σ : Type} {ports : OutcomePorts σ} {command : OutcomeCommand} {store : σ} :
    e ∈ (OutcomeService.record ports command { store }).2.published →
    Published rt e

lemma Published.renders {e : AgentEvent} (h : Published rt e) : Renders rt e := by
  cases h with
  | @turn σ ports signal approved approver store mem =>
    have rendered : Rendered rt (ResponderService.handle rt ports signal approved approver { store }).2 :=
      handle_rendered.always nofun
    exact rendered e mem
  | @outcome σ ports command store mem =>
    have rendered : OutcomeRendered rt (OutcomeService.record ports command { store }).2 :=
      record_rendered.always nofun
    exact rendered e mem

/-- Every event published whose numbers are finite reaches the console. -/
theorem published_accepted {e : AgentEvent} {double : ℚ → ℚ} {eventId : Uuid} {occurredAt : Timestamp}
    {sequence : Int} {agentId : String} {agentRegion : ConsoleRegion} (published : Published rt e)
    (finite : Json.storable (.obj e.data) = true) :
    ∃ type payload frame, payloadOf rt eventId occurredAt e = .ok (type, payload) ∧
      consoleEvent rt eventId occurredAt e sequence agentId agentRegion = .ok frame ∧
      Reaches double frame type payload :=
  published.renders.reaches finite

namespace Sample

/-- An outcome store that records, an embedder and a sink that do not fail. -/
def outcomePorts : OutcomePorts Unit where
  embed _ := .ok []
  recordOutcome c _ _ := ((), .ok (.value {
    actionId := c.actionId
    transactionId := .sample 6
    eventId := .sample 7
    incidentId := c.incidentId
    outcome := c.outcome
    incidentStatus := "resolved"
    recordedAt := 4000000 }))
  publish _ := none
  now := 5000000
  milliseconds t := t.tdiv 1000

/-- The outcome of an action. -/
def outcomeRecovered : OutcomeCommand where
  orgId := .sample 1
  agentId := .sample 2
  incidentId := .sample 3
  serviceId := .sample 4
  actionId := .sample 5
  outcome := .success
  summary := "recovered"
  observedAt := 2000000

/-- The event published for it. -/
def outcomeRecoveredEvent : AgentEvent :=
  OutcomeService.outcomeEvent outcomeRecovered {
    actionId := .sample 5
    transactionId := .sample 6
    eventId := .sample 7
    incidentId := .sample 3
    outcome := .success
    incidentStatus := "resolved"
    recordedAt := 4000000 } 1000

end Sample

/-- The event of a recorded outcome. -/
theorem published_accepted_sample : ∃ type payload frame,
    payloadOf .sample (.sample 8) 5000000 Sample.outcomeRecoveredEvent = .ok (type, payload) ∧
      consoleEvent .sample (.sample 8) 5000000 Sample.outcomeRecoveredEvent 1 "responder" .usEast = .ok frame ∧
      Reaches (fun q => q) frame type payload :=
  published_accepted (@Published.outcome .sample _ Unit Sample.outcomePorts Sample.outcomeRecovered () List.mem_cons_self)
    rfl

end Postmortem
