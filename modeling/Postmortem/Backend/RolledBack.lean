import Postmortem.Backend.Atomicity
import Postmortem.Backend.Sanction

/-!
# What a rolled back turn leaves behind

`transaction.rolled_back` is published for every exception after the flag `transaction_started` is
set. `Opening` is what a turn meets up to that point: `openTurn_ok` says that a turn gets there exactly
if it meets one. `closed_rolledBack` says when the rest publishes the event, and
`rolled_back_clean_iff` compares that with the tables.
-/

namespace Postmortem

/-- The tables a remediation writes, with the usage counts of the runbooks. -/
structure RemediationTables where
  deploys : List Deploy
  episodicEvents : List EpisodicEvent
  remediationActions : List RemediationAction
  services : List Service
  incidents : List Incident
  usageCounts : List (Uuid × Nat)
deriving DecidableEq

/-- The remediation state of a database. -/
def Database.remediationTables (db : Database) : RemediationTables where
  deploys := db.deploys
  episodicEvents := db.episodicEvents
  remediationActions := db.remediationActions
  services := db.services
  incidents := db.incidents
  usageCounts := db.proceduralMemory.map fun r => (r.runbookId, r.usageCount)

/-- The adapters of a service whose remediation port is `CockroachAtomicRemediationStore`. -/
def cockroachPorts (rt : Runtime) (retries : Nat) (env : RemediationEnv) (ports : Ports Database) :
    Ports Database :=
  { ports with
    remediateAndRecord := fun c embedding db =>
      match remediateAndRecord rt retries env c embedding db with
      | (db', out) => (db', out.map .value) }

/-- The log has a published `transaction.rolled_back`. -/
def PublishesRollback (log : List Entry) : Prop :=
  ∃ e, .published e ∈ log ∧ e.type = .transactionRolledBack

lemma publishesRollback_iff {log : List Entry} :
    PublishesRollback log ↔ .transactionRolledBack ∈ eventTypes log := by
  simp only [PublishesRollback, eventTypes, List.mem_filterMap]
  constructor
  · rintro ⟨e, he, broken⟩
    exact ⟨.published e, he, congrArg some broken⟩
  · rintro ⟨entry, he, broken⟩
    cases entry with
    | remediated => cases broken
    | published e => exact ⟨e, he, Option.some.inj broken⟩

/-! ## Up to the call of the store -/

section opening

variable {σ : Type}

/-- The sink accepts the events, the first of them after `n` entries of the log. -/
def Ports.Accepts (ports : Ports σ) (n : Nat) : List AgentEvent → Prop
  | [] => True
  | e :: events => ports.publish n e = none ∧ ports.Accepts (n + 1) events

/-- What a turn reads and builds before it calls the store. -/
structure Opening where
  query : Embedding
  bundle : RecallBundle
  memory : RecallBundle
  data : Dict
  decision : AgentDecision
  proposed : RemediationCommand
  record : ApprovalRecord
  embedding : Embedding

variable (rt : Runtime) (signal : IncidentSignal) (approved : Bool)

/-- The command with the caller's flag. -/
def Opening.command (o : Opening) : RemediationCommand := { o.proposed with approved }

/-- The decision with that command. -/
def Opening.reasoned (o : Opening) : AgentDecision :=
  { o.decision with command := some (o.command approved) }

/-- `incident.received` -/
def receivedEvent : AgentEvent where
  incidentId := signal.incidentId
  type := .incidentReceived
  stage := "perceive"
  message := "Received " ++ signal.severity ++ " incident."
  data := [
    ("service", .str signal.serviceId.text),
    ("service_id", .str signal.serviceId.text),
    ("severity", .str signal.severity),
    ("status", .str "open"),
    ("summary", .str signal.summary)]

/-- `recall.started` and `recall.completed` -/
def recallEvents (data : Dict) : List AgentEvent := [
  { incidentId := signal.incidentId
    type := .recallStarted
    stage := "recall"
    message := "Embedding incident signature."
    data := [
      ("query_summary", .str signal.recallText), ("duration_ms", .int 0), ("results", .arr [])] },
  { incidentId := signal.incidentId
    type := .recallCompleted
    stage := "recall"
    message := "Recalled scoped organizational memory."
    data }]

/-- `reasoning.started` and `decision.proposed` -/
def reasonEvents (decision : AgentDecision) : List AgentEvent := [
  { incidentId := signal.incidentId
    type := .reasoningStarted
    stage := "reason"
    message := "Selecting a grounded response." },
  { incidentId := signal.incidentId
    type := .decisionProposed
    stage := "reason"
    message := decision.explanation
    data := decisionData decision }]

/-- `action.proposed` and `transaction.started` -/
def actEvents (command : RemediationCommand) (record : ApprovalRecord) : List AgentEvent := [
  { incidentId := signal.incidentId
    type := .actionProposed
    stage := "act"
    message := "Grounded remediation proposed."
    data := actionData command },
  { incidentId := signal.incidentId
    type := .transactionStarted
    stage := "act+record"
    message := "Starting atomic operational action and episodic append."
    data := startedData rt command record }]

/-- The events after `incident.received`, up to `transaction.started`. -/
def Opening.events (o : Opening) : List AgentEvent :=
  recallEvents signal o.data ++
    (reasonEvents signal o.decision ++ actEvents rt signal (o.command approved) o.record)

/-- The adapters answer, the gates pass and the sink accepts the events, `n` entries into the log. -/
structure Opening.Opens (ports : Ports σ) (approver : Option String) (n : Nat) (o : Opening) : Prop where
  embedded : ports.embed 0 signal.recallText = .ok o.query
  recalled : ports.recall (ResponderService.recallQuery signal o.query) = .ok (.value o.bundle)
  screened : guardUntrustedRecallBundle rt o.bundle = .ok o.memory
  reported : recallData rt signal o.memory = .ok o.data
  decided : ports.decide signal o.memory = .ok (.value o.decision)
  remediates : o.decision.kind = .remediate
  proposes : o.decision.command = some o.proposed
  grounded : requireGroundedAction (o.command approved)
    (o.memory.allCandidates.map MemoryCandidate.memoryId) = .ok ()
  unpaused : ¬ ((o.command approved).requiresHumanApproval ∧ (o.command approved).approved = false)
  authorized : authorizeAction rt ports.now (o.command approved) approved approver
    signal.serviceTags = .ok o.record
  acting : ports.embed 1 (o.command approved).memoryText = .ok o.embedding
  accepted : ports.Accepts n (o.events rt signal approved)

end opening

section returns

open ResponderService

variable {σ : Type} {rt : Runtime} {ports : Ports σ} {signal : IncidentSignal} {approved : Bool}
  {approver : Option String} {s t : TurnState σ}

lemma accepts_append {n : Nat} {before after : List AgentEvent} :
    ports.Accepts n (before ++ after) ↔
      ports.Accepts n before ∧ ports.Accepts (n + before.length) after := by
  induction before generalizing n with
  | nil => simp [Ports.Accepts]
  | cons e before ih =>
    simp only [List.cons_append, Ports.Accepts, ih, List.length_cons, and_assoc]
    rw [show n + 1 + before.length = n + (before.length + 1) by omega]

/-- The turn after these events. -/
def TurnState.after (s : TurnState σ) (events : List AgentEvent) : TurnState σ :=
  { s with log := s.log ++ events.map .published }

@[simp] lemma after_nil : s.after [] = s := by simp [TurnState.after]

@[simp] lemma after_after {before after : List AgentEvent} :
    (s.after before).after after = s.after (before ++ after) := by
  simp [TurnState.after]

@[simp] lemma after_length {events : List AgentEvent} :
    (s.after events).log.length = s.log.length + events.length := by
  simp [TurnState.after]

@[simp] lemma after_store {events : List AgentEvent} : (s.after events).store = s.store := rfl

@[simp] lemma after_flag {events : List AgentEvent} :
    (s.after events).transactionStarted = s.transactionStarted := rfl

lemma event_ok {type stage message data} :
    event ports signal type stage message data s = (.ok (), t) ↔
      ports.publish s.log.length { incidentId := signal.incidentId, type, stage, message, data } = none ∧
        t = s.after [{ incidentId := signal.incidentId, type, stage, message, data }] := by
  unfold event
  simp only
  cases ports.publish s.log.length { incidentId := signal.incidentId, type, stage, message, data } with
  | none => simp [TurnState.after, eq_comm]
  | some raised => simp

lemma event_refused {type stage message data raised}
    (h : ports.publish s.log.length { incidentId := signal.incidentId, type, stage, message, data } =
      some raised) :
    event ports signal type stage message data s =
      (.error raised, s.after [{ incidentId := signal.incidentId, type, stage, message, data }]) := by
  simp only [event, h]
  rfl

lemma recallStage_ok {memory} :
    recallStage rt ports signal s = (.ok memory, t) ↔
      ∃ query bundle data, ports.embed 0 signal.recallText = .ok query ∧
        ports.recall (recallQuery signal query) = .ok (.value bundle) ∧
        guardUntrustedRecallBundle rt bundle = .ok memory ∧ recallData rt signal memory = .ok data ∧
        ports.Accepts s.log.length (recallEvents signal data) ∧ t = s.after (recallEvents signal data) := by
  simp only [recallStage, Effect.bind_ok_iff, Effect.lift_ok_iff, Effect.pure_ok_iff]
  constructor
  · rintro ⟨_, _, started, query, _, ⟨embedded, rfl⟩, returned, _, ⟨recalled, rfl⟩, _, _, ⟨screened, rfl⟩,
      data, _, ⟨reported, rfl⟩, _, _, completed, rfl, rfl⟩
    obtain ⟨first, rfl⟩ := event_ok.mp started
    obtain ⟨second, rfl⟩ := event_ok.mp completed
    cases returned with
    | malformed reading => cases screened
    | value bundle =>
      refine ⟨query, bundle, data, embedded, recalled, screened, reported, ⟨first, ?_, trivial⟩, after_after⟩
      simpa using second
  · rintro ⟨query, bundle, data, embedded, recalled, screened, reported, ⟨first, second, _⟩, rfl⟩
    refine ⟨(), _, event_ok.mpr ⟨first, rfl⟩, query, _, ⟨embedded, rfl⟩, .value bundle, _, ⟨recalled, rfl⟩,
      memory, _, ⟨screened, rfl⟩, data, _, ⟨reported, rfl⟩, (), _, event_ok.mpr ⟨?_, rfl⟩, rfl, ?_⟩
    · simpa using second
    · rw [after_after]
      rfl

lemma reasonStage_ok {memory decision} :
    reasonStage ports signal memory s = (.ok decision, t) ↔
      ports.decide signal memory = .ok (.value decision) ∧
        ports.Accepts s.log.length (reasonEvents signal decision) ∧
        t = s.after (reasonEvents signal decision) := by
  simp only [reasonStage, Effect.bind_ok_iff, Effect.lift_ok_iff, Effect.pure_ok_iff]
  constructor
  · rintro ⟨_, _, started, returned, _, ⟨decided, rfl⟩, _, _, ⟨read, rfl⟩, _, _, proposed, rfl, rfl⟩
    obtain ⟨first, rfl⟩ := event_ok.mp started
    obtain ⟨second, rfl⟩ := event_ok.mp proposed
    cases returned with
    | malformed reading => cases read
    | value _ =>
      cases read
      refine ⟨decided, ⟨first, ?_, trivial⟩, after_after⟩
      simpa using second
  · rintro ⟨decided, ⟨first, second, _⟩, rfl⟩
    refine ⟨(), _, event_ok.mpr ⟨first, rfl⟩, .value decision, _, ⟨decided, rfl⟩, decision, _, ⟨rfl, rfl⟩,
      (), _, event_ok.mpr ⟨?_, rfl⟩, rfl, ?_⟩
    · simpa using second
    · rw [after_after]
      rfl

lemma gateStage_ok {memory command embedding} :
    gateStage rt ports signal memory approver command s = (.ok (some embedding), t) ↔
      ∃ record, requireGroundedAction command (memory.allCandidates.map MemoryCandidate.memoryId) = .ok () ∧
        ¬ (command.requiresHumanApproval ∧ command.approved = false) ∧
        authorizeAction rt ports.now command command.approved approver signal.serviceTags = .ok record ∧
        ports.embed 1 command.memoryText = .ok embedding ∧
        ports.Accepts s.log.length (actEvents rt signal command record) ∧
        t = s.after (actEvents rt signal command record) := by
  simp only [gateStage, Effect.bind_ok_iff, Effect.lift_ok_iff]
  constructor
  · rintro ⟨_, _, ⟨_, rfl⟩, _, _, ⟨_, rfl⟩, _, _, ⟨grounded, rfl⟩, _, _, proposed, rest⟩
    obtain ⟨first, rfl⟩ := event_ok.mp proposed
    split at rest
    case isTrue paused =>
      simp only [Effect.bind_ok_iff, Effect.pure_ok_iff] at rest
      obtain ⟨_, _, _, none, _⟩ := rest
      cases none
    case isFalse unpaused =>
      simp only [Effect.bind_ok_iff, Effect.lift_ok_iff, Effect.pure_ok_iff] at rest
      obtain ⟨record, _, ⟨authorized, rfl⟩, _, _, ⟨acting, rfl⟩, _, _, started, same, rfl⟩ := rest
      obtain ⟨second, rfl⟩ := event_ok.mp started
      cases same
      refine ⟨record, grounded, unpaused, authorized, acting, ⟨first, ?_, trivial⟩, after_after⟩
      simpa using second
  · rintro ⟨record, grounded, unpaused, authorized, acting, ⟨first, second, _⟩, rfl⟩
    refine ⟨_, _, ⟨rfl, rfl⟩, _, _, ⟨rfl, rfl⟩, (), _, ⟨grounded, rfl⟩, (), _, event_ok.mpr ⟨first, rfl⟩, ?_⟩
    rw [if_neg unpaused]
    simp only [Effect.bind_ok_iff, Effect.lift_ok_iff, Effect.pure_ok_iff]
    refine ⟨record, _, ⟨authorized, rfl⟩, embedding, _, ⟨acting, rfl⟩, (), _, event_ok.mpr ⟨?_, rfl⟩, rfl, ?_⟩
    · simpa using second
    · rw [after_after]
      rfl

/-- Act on a decision, up to the call of the store. -/
def askStage (rt : Runtime) (ports : Ports σ) (signal : IncidentSignal) (memory : RecallBundle)
    (approved : Bool) (approver : Option String) (decision : AgentDecision) :
    Turn σ (AgentDecision × Option (RemediationCommand × Embedding)) :=
  match decision.kind, decision.command with
  | .remediate, some proposed => do
    let command := { proposed with approved }
    let embedding ← gateStage rt ports signal memory approver command
    return ({ decision with command := some command }, embedding.map fun e => (command, e))
  | _, _ => return (decision, none)

/-- The turn up to the call of the store: the decision, and the call where one is due. -/
def openTurn (rt : Runtime) (ports : Ports σ) (signal : IncidentSignal) (approved : Bool)
    (approver : Option String) : Turn σ (AgentDecision × Option (RemediationCommand × Embedding)) := do
  let memory ← recallStage rt ports signal
  let decision ← reasonStage ports signal memory
  askStage rt ports signal memory approved approver decision

/-- The rest of the turn. -/
def closeTurn (rt : Runtime) (ports : Ports σ) (signal : IncidentSignal) :
    AgentDecision × Option (RemediationCommand × Embedding) → Turn σ ResponseResult
  | (decision, none) => recordStage ports signal decision none
  | (decision, some (command, embedding)) => do
    let result ← executeStage rt ports signal command embedding
    recordStage ports signal decision (some result)

lemma act_eq {memory decision} :
    (do
      let (decision, remediation) ← actStage rt ports signal memory approved approver decision
      recordStage ports signal decision remediation) =
    askStage rt ports signal memory approved approver decision >>= closeTurn rt ports signal := by
  unfold actStage askStage
  cases decision.kind
  case remediate =>
    cases decision.command with
    | none => rfl
    | some proposed =>
      simp only [Effect.bind_assoc]
      apply congrArg (gateStage rt ports signal memory approver { proposed with approved } >>= ·)
      funext embedding
      cases embedding with
      | none => rfl
      | some embedding =>
        simp only [Effect.bind_assoc]
        rfl
  all_goals rfl

lemma respond_eq : respond rt ports signal approved approver =
    openTurn rt ports signal approved approver >>= closeTurn rt ports signal := by
  unfold respond openTurn
  simp only [Effect.bind_assoc, ← act_eq]

lemma askStage_ok {memory decision reasoned command embedding} :
    askStage rt ports signal memory approved approver decision s =
        (.ok (reasoned, some (command, embedding)), t) ↔
      ∃ proposed, decision.kind = .remediate ∧ decision.command = some proposed ∧
        command = { proposed with approved } ∧ reasoned = { decision with command := some command } ∧
        gateStage rt ports signal memory approver command s = (.ok (some embedding), t) := by
  unfold askStage
  cases kind : decision.kind
  case remediate =>
    cases proposes : decision.command with
    | none => simp
    | some proposed =>
      simp only [Effect.bind_ok_iff, Effect.pure_ok_iff]
      constructor
      · rintro ⟨gated, _, gates, same, rfl⟩
        cases gated with
        | none => cases same
        | some _ =>
          cases same
          exact ⟨proposed, trivial, rfl, rfl, rfl, gates⟩
      · rintro ⟨_, _, ⟨⟩, rfl, rfl, gates⟩
        exact ⟨some embedding, t, gates, rfl, rfl⟩
  all_goals simp

/-- A turn gets to the call of the store exactly if it meets an opening. -/
lemma openTurn_ok {decision command embedding} :
    openTurn rt ports signal approved approver s = (.ok (decision, some (command, embedding)), t) ↔
      ∃ o : Opening, o.Opens rt signal approved ports approver s.log.length ∧
        decision = o.reasoned approved ∧ command = o.command approved ∧ embedding = o.embedding ∧
        t = s.after (o.events rt signal approved) := by
  simp only [openTurn, Effect.bind_ok_iff, askStage_ok]
  constructor
  · rintro ⟨memory, _, remembered, decided, _, reason, proposed, kind, proposes, rfl, rfl, gates⟩
    obtain ⟨query, bundle, data, embedded, recalled, screened, reported, first, rfl⟩ :=
      recallStage_ok.mp remembered
    obtain ⟨reasoned, second, rfl⟩ := reasonStage_ok.mp reason
    obtain ⟨record, grounded, unpaused, authorized, acting, third, rfl⟩ := gateStage_ok.mp gates
    refine ⟨⟨query, bundle, memory, data, decided, proposed, record, embedding⟩,
      ⟨embedded, recalled, screened, reported, reasoned, kind, proposes, grounded, unpaused, authorized,
        acting, ?_⟩, rfl, rfl, rfl, ?_⟩
    · refine accepts_append.mpr ⟨first, accepts_append.mpr ⟨?_, ?_⟩⟩
      · simpa using second
      · rw [after_length, after_length] at third
        exact third
    · rw [after_after, after_after]
      rfl
  · rintro ⟨o, opens, rfl, rfl, rfl, rfl⟩
    obtain ⟨first, rest⟩ := accepts_append.mp opens.accepted
    obtain ⟨second, third⟩ := accepts_append.mp rest
    refine ⟨o.memory, _, recallStage_ok.mpr ⟨_, _, _, opens.embedded, opens.recalled, opens.screened,
      opens.reported, first, rfl⟩, o.decision, _, reasonStage_ok.mpr ⟨opens.decided, ?_, rfl⟩, o.proposed,
      opens.remediates, opens.proposes, rfl, rfl, gateStage_ok.mpr ⟨o.record, opens.grounded, opens.unpaused,
        opens.authorized, opens.acting, ?_, ?_⟩⟩
    · rw [after_length]
      exact second
    · rw [after_length, after_length]
      exact third
    · rw [after_after, after_after]
      rfl

end returns

section keeps

open ResponderService

variable {σ : Type} {rt : Runtime} {ports : Ports σ} {signal : IncidentSignal} {approved : Bool}
  {approver : Option String} {I : TurnState σ → Prop}

/-- The state of a turn has `I` whatever the sink does with the event. -/
lemma event_keeps {type stage message data}
    (keeps : ∀ s e, e.type = type → I s → I (s.after [e])) :
    Effect.Meets I (event ports signal type stage message data) (fun _ => I) (fun _ => I) := by
  intro s hs
  have kept := keeps s { incidentId := signal.incidentId, type, stage, message, data } rfl hs
  unfold event
  simp only
  cases ports.publish s.log.length { incidentId := signal.incidentId, type, stage, message, data } with
  | none => exact kept
  | some _ => exact kept

lemma lift_keeps {α : Type} {x : Except Raised α} :
    Effect.Meets I (Effect.lift x : Turn σ α) (fun _ => I) (fun _ => I) :=
  Effect.Meets.lift (fun _ _ _ hs => hs) (fun _ _ _ hs => hs)

section opening

variable (keeps : ∀ s e, e.type ≠ .transactionRolledBack → I s → I (s.after [e]))

include keeps

lemma quiet_keeps {type stage message data} (quiet : type ≠ .transactionRolledBack) :
    Effect.Meets I (event ports signal type stage message data) (fun _ => I) (fun _ => I) := by
  apply event_keeps
  rintro s e rfl
  exact keeps s e quiet

lemma recallStage_keeps : Effect.Meets I (recallStage rt ports signal) (fun _ => I) (fun _ => I) := by
  apply (quiet_keeps keeps (by decide)).bind
  intro _
  apply lift_keeps.bind
  intro _
  apply lift_keeps.bind
  intro _
  apply lift_keeps.bind
  intro _
  apply lift_keeps.bind
  intro _
  apply (quiet_keeps keeps (by decide)).bind
  intro _
  exact Effect.Meets.pure fun _ hs => hs

lemma reasonStage_keeps {memory} :
    Effect.Meets I (reasonStage ports signal memory) (fun _ => I) (fun _ => I) := by
  apply (quiet_keeps keeps (by decide)).bind
  intro _
  apply lift_keeps.bind
  intro _
  apply lift_keeps.bind
  intro _
  apply (quiet_keeps keeps (by decide)).bind
  intro _
  exact Effect.Meets.pure fun _ hs => hs

lemma gateStage_keeps {memory command} :
    Effect.Meets I (gateStage rt ports signal memory approver command) (fun _ => I) (fun _ => I) := by
  apply lift_keeps.bind
  intro _
  apply lift_keeps.bind
  intro _
  apply lift_keeps.bind
  intro _
  apply (quiet_keeps keeps (by decide)).bind
  intro _
  split
  · apply (quiet_keeps keeps (by decide)).bind
    intro _
    exact Effect.Meets.pure fun _ hs => hs
  · apply lift_keeps.bind
    intro _
    apply lift_keeps.bind
    intro _
    apply (quiet_keeps keeps (by decide)).bind
    intro _
    exact Effect.Meets.pure fun _ hs => hs

/-- What events other than `transaction.rolled_back` keep, a turn keeps up to the call of the store. -/
lemma openTurn_keeps :
    Effect.Meets I (openTurn rt ports signal approved approver) (fun _ => I) (fun _ => I) := by
  apply (recallStage_keeps keeps).bind
  intro memory
  apply (reasonStage_keeps keeps).bind
  intro decision
  unfold askStage
  split
  · apply (gateStage_keeps keeps).bind
    intro _
    exact Effect.Meets.pure fun _ hs => hs
  · exact Effect.Meets.pure fun _ hs => hs

lemma recordStage_keeps {decision remediation} :
    Effect.Meets I (recordStage ports signal decision remediation) (fun _ => I) (fun _ => I) := by
  apply (quiet_keeps keeps (by decide)).bind
  intro _
  exact Effect.Meets.pure fun _ hs => hs

end opening

end keeps

/-! ## From the call of the store on -/

section closing

open ResponderService

variable {σ : Type} {rt : Runtime} {ports : Ports σ} {signal : IncidentSignal} {s t : TurnState σ}

/-- `transaction.committed` and `response.completed` -/
def closingEvents (rt : Runtime) (signal : IncidentSignal) (decision : AgentDecision)
    (r : RemediationResult) : List AgentEvent := [
  { incidentId := signal.incidentId
    type := .transactionCommitted
    stage := "act+record"
    message := "Operational action and memory committed together."
    data := committedData rt r },
  { incidentId := signal.incidentId
    type := .responseCompleted
    stage := "record"
    message := "Responder turn completed."
    data := completedData decision (some r) }]

/-- The state after a call of the store that ended with `out`. -/
def TurnState.called (s : TurnState σ) (c : RemediationCommand) (embedding : Embedding) (store : σ)
    (out : Except Raised (Returned RemediationResult)) : TurnState σ :=
  { store, log := s.log ++ [.remediated c embedding out], transactionStarted := true }

/-- The rest of a turn returns exactly if the store returns a result and the sink accepts both events. -/
lemma closeTurn_ok {decision c embedding result} :
    closeTurn rt ports signal (decision, some (c, embedding)) s = (.ok result, t) ↔
      ∃ store r, ports.remediateAndRecord c embedding s.store = (store, .ok (.value r)) ∧
        ports.Accepts (s.log.length + 1) (closingEvents rt signal decision r) ∧
        result = { incidentId := signal.incidentId, decision, remediation := some r } ∧
        t = (s.called c embedding store (.ok (.value r))).after (closingEvents rt signal decision r) := by
  simp only [closeTurn, executeStage, recordStage, Effect.bind_ok_iff, Effect.lift_ok_iff,
    Effect.pure_ok_iff]
  have call : ∀ {returned u v}, callRemediation ports c embedding u = (.ok returned, v) ↔
      ∃ store, ports.remediateAndRecord c embedding u.store = (store, .ok returned) ∧
        v = { u with store, log := u.log ++ [.remediated c embedding (.ok returned)] } := by
    intro returned u v
    unfold callRemediation
    generalize ports.remediateAndRecord c embedding u.store = out
    obtain ⟨store, _ | _⟩ := out
    case error => simp
    case ok =>
      constructor
      · intro h
        cases h
        exact ⟨store, rfl, rfl⟩
      · rintro ⟨_, same, rfl⟩
        cases same
        rfl
  constructor
  · rintro ⟨r, _, ⟨_, _, flagged, returned, _, called, _, _, ⟨read, rfl⟩, _, _, committed, rfl, rfl⟩,
      _, _, completed, rfl, rfl⟩
    cases flagged
    obtain ⟨store, remediated, rfl⟩ := call.mp called
    obtain ⟨first, rfl⟩ := event_ok.mp committed
    obtain ⟨second, rfl⟩ := event_ok.mp completed
    cases returned with
    | malformed reading => cases read
    | value _ =>
      cases read
      refine ⟨store, r, remediated, ⟨?_, ?_, trivial⟩, rfl, after_after⟩
      · simpa using first
      · simpa using second
  · rintro ⟨store, r, remediated, ⟨first, second, _⟩, rfl, rfl⟩
    refine ⟨r, _, ⟨(), _, rfl, .value r, _, call.mpr ⟨store, remediated, rfl⟩, r, _, ⟨rfl, rfl⟩, (), _,
      event_ok.mpr ⟨?_, rfl⟩, rfl, rfl⟩, (), _, event_ok.mpr ⟨?_, rfl⟩, rfl, ?_⟩
    · simpa using first
    · simpa using second
    · rw [after_after]
      rfl

/-- The store left `store`, and the handler of exceptions will hear that a transaction started. -/
structure Left (store : σ) (t : TurnState σ) : Prop where
  tables : t.store = store
  started : t.transactionStarted = true

/-- The rest of a turn does not touch what the store left. -/
lemma closeTurn_left {decision c embedding} :
    Effect.Meets (fun t => t = s) (closeTurn rt ports signal (decision, some (c, embedding)))
      (fun _ => Left (ports.remediateAndRecord c embedding s.store).1)
      (fun _ => Left (ports.remediateAndRecord c embedding s.store).1) := by
  have flag : Effect.Meets (fun t => t = s)
      (Effect.update fun s : TurnState σ => { s with transactionStarted := true })
      (fun _ => Left s.store)
      (fun (_ : Raised) => Left (ports.remediateAndRecord c embedding s.store).1) := by
    apply Effect.Meets.update
    rintro _ rfl
    exact ⟨rfl, rfl⟩
  have call : Effect.Meets (Left s.store) (callRemediation ports c embedding)
      (fun _ => Left (ports.remediateAndRecord c embedding s.store).1)
      (fun _ => Left (ports.remediateAndRecord c embedding s.store).1) := by
    rintro u ⟨same, started⟩
    unfold callRemediation
    rw [same]
    generalize ports.remediateAndRecord c embedding s.store = out
    obtain ⟨store, _ | _⟩ := out
    case error => exact ⟨rfl, started⟩
    case ok => exact ⟨rfl, started⟩
  have execute : Effect.Meets (fun t => t = s) (executeStage rt ports signal c embedding)
      (fun _ => Left (ports.remediateAndRecord c embedding s.store).1)
      (fun _ => Left (ports.remediateAndRecord c embedding s.store).1) := by
    apply flag.bind
    intro _
    apply call.bind
    intro _
    apply lift_keeps.bind
    intro _
    apply (event_keeps fun _ _ _ h => ⟨h.tables, h.started⟩).bind
    intro _
    exact Effect.Meets.pure fun _ h => h
  apply execute.bind
  intro _
  exact recordStage_keeps fun _ _ _ h => ⟨h.tables, h.started⟩

end closing

/-! ## The whole turn -/

section turn

open ResponderService

variable {σ : Type} {rt : Runtime} {ports : Ports σ} {signal : IncidentSignal} {approved : Bool}
  {approver : Option String} {db : σ} {s : TurnState σ}

/-- Nothing happened to the tables and no transaction was said to be rolled back. -/
structure Idle (db : σ) (s : TurnState σ) : Prop where
  tables : s.store = db
  started : s.transactionStarted = false
  unbroken : ¬ PublishesRollback s.log

lemma publishesRollback_after {events : List AgentEvent} :
    PublishesRollback (s.after events).log ↔
      PublishesRollback s.log ∨ ∃ e ∈ events, e.type = .transactionRolledBack := by
  simp only [PublishesRollback, TurnState.after, List.mem_append, List.mem_map, Entry.published.injEq,
    exists_eq_right, or_and_right, exists_or]

lemma Idle.after {e : AgentEvent} (quiet : e.type ≠ .transactionRolledBack) (h : Idle db s) :
    Idle db (s.after [e]) := by
  refine ⟨h.tables, h.started, ?_⟩
  rw [publishesRollback_after]
  rintro (broken | ⟨_, he, broken⟩)
  · exact h.unbroken broken
  · cases List.mem_singleton.mp he
    exact quiet broken

/-- The event the handler of exceptions publishes. -/
def failedEvent (signal : IncidentSignal) (exc : Raised) (started : Bool) : AgentEvent where
  incidentId := signal.incidentId
  type := failure started
  stage := if started then "act+record" else "response"
  message := "Responder failed safely; no partial remediation was recorded."
  data := [("error_type", .str exc.cls.name), ("error", .str exc.message)]

/-- The handler of exceptions raises and leaves one more event. -/
lemma failSafely_eq {exc} : ∃ e, (failSafely ports signal exc : Turn σ ResponseResult) s =
    (.error e, s.after [failedEvent signal exc s.transactionStarted]) := by
  have run : (failSafely ports signal exc : Turn σ ResponseResult) s =
      Effect.next (fun _ : Unit => Effect.raise exc) (failureEvent ports signal exc s.transactionStarted s) :=
    rfl
  rw [run]
  unfold failureEvent event
  simp only
  split
  · exact ⟨exc, rfl⟩
  · exact ⟨_, rfl⟩

lemma failSafely_idle {exc} :
    Effect.Meets (Idle db) (failSafely ports signal exc) (fun _ => Idle db) (fun _ => Idle db) := by
  intro s hs
  obtain ⟨e, run⟩ := @failSafely_eq σ ports signal s exc
  rw [run, hs.started]
  have quiet : (failedEvent signal exc false).type ≠ .transactionRolledBack := nofun
  exact hs.after quiet

/-- A turn publishes `incident.received` first. -/
lemma handleSanitized_eq : handleSanitized rt ports signal approved approver s =
    Effect.next (fun _ : Unit => Effect.attempt (openTurn rt ports signal approved approver >>=
        closeTurn rt ports signal) (failSafely ports signal))
      (event ports signal (receivedEvent signal).type (receivedEvent signal).stage
        (receivedEvent signal).message (receivedEvent signal).data s) := by
  rw [← respond_eq]
  rfl

/-- A turn ends where the sink refuses `incident.received`. -/
lemma handleSanitized_refused {raised}
    (h : ports.publish s.log.length (receivedEvent signal) = some raised) :
    handleSanitized rt ports signal approved approver s =
      (.error raised, s.after [receivedEvent signal]) := by
  have refused : event ports signal (receivedEvent signal).type (receivedEvent signal).stage
      (receivedEvent signal).message (receivedEvent signal).data s =
        (.error raised, s.after [receivedEvent signal]) := event_refused h
  rw [handleSanitized_eq, refused]
  rfl

/-- A turn runs its two parts where the sink accepts `incident.received`. -/
lemma handleSanitized_received (h : ports.publish s.log.length (receivedEvent signal) = none) :
    handleSanitized rt ports signal approved approver s =
      Effect.attempt (openTurn rt ports signal approved approver >>= closeTurn rt ports signal)
        (failSafely ports signal) (s.after [receivedEvent signal]) := by
  have accepted : event ports signal (receivedEvent signal).type (receivedEvent signal).stage
      (receivedEvent signal).message (receivedEvent signal).data s =
        (.ok (), s.after [receivedEvent signal]) := event_ok.mpr ⟨h, rfl⟩
  rw [handleSanitized_eq, accepted]
  rfl

/-- A turn that does not get to the call of the store leaves the tables alone and says so. -/
lemma handleSanitized_idle
    (closed : ports.publish 0 (receivedEvent signal) = none →
      ¬ ∃ o : Opening, o.Opens rt signal approved ports approver 1) :
    Idle db (handleSanitized rt ports signal approved approver { store := db }).2 := by
  have received : Idle db (({ store := db } : TurnState σ).after [receivedEvent signal]) := by
    have quiet : (receivedEvent signal).type ≠ .transactionRolledBack := nofun
    refine Idle.after quiet ⟨rfl, rfl, ?_⟩
    rintro ⟨_, broken, _⟩
    cases broken
  cases accepted : ports.publish 0 (receivedEvent signal) with
  | some raised =>
    rw [handleSanitized_refused accepted]
    exact received
  | none =>
    rw [handleSanitized_received accepted]
    have opening : Effect.Meets (fun s => s = ({ store := db } : TurnState σ).after [receivedEvent signal])
        (openTurn rt ports signal approved approver) (fun r s => Idle db s ∧ r.2 = none)
        (fun _ => Idle db) := by
      rintro s rfl
      have kept : Effect.Meets (Idle db) (openTurn rt ports signal approved approver) (fun _ => Idle db)
          (fun _ => Idle db) := openTurn_keeps fun _ _ quiet h => h.after quiet
      have idle := kept _ received
      generalize run : openTurn rt ports signal approved approver
        (({ store := db } : TurnState σ).after [receivedEvent signal]) = out at idle
      obtain ⟨_ | ⟨decision, _ | ⟨command, embedding⟩⟩, t⟩ := out
      case error => exact idle
      case ok.none => exact ⟨idle, rfl⟩
      case ok.some =>
        obtain ⟨o, opens, _⟩ := openTurn_ok.mp run
        exact absurd ⟨o, opens⟩ (closed accepted)
    have closing : ∀ r : AgentDecision × Option (RemediationCommand × Embedding),
        Effect.Meets (fun s => Idle db s ∧ r.2 = none) (closeTurn rt ports signal r) (fun _ => Idle db)
          (fun _ => Idle db) := by
      rintro ⟨decision, _⟩ s ⟨hs, rfl⟩
      exact recordStage_keeps (fun _ _ quiet h => h.after quiet) s hs
    have turn : Effect.Meets (fun s => s = ({ store := db } : TurnState σ).after [receivedEvent signal])
        (Effect.attempt (openTurn rt ports signal approved approver >>= closeTurn rt ports signal)
          (failSafely ports signal)) (fun _ => Idle db) (fun _ => Idle db) :=
      (opening.bind closing).attempt fun _ => failSafely_idle
    have whole := turn _ rfl
    generalize Effect.attempt (openTurn rt ports signal approved approver >>= closeTurn rt ports signal)
      (failSafely ports signal) (({ store := db } : TurnState σ).after [receivedEvent signal]) = out at whole
    obtain ⟨_ | _, _⟩ := out
    case error => exact whole
    case ok => exact whole

/-- What the turn hears of the store and can report of it. -/
def Reports (rt : Runtime) (ports : Ports σ) (signal : IncidentSignal) (decision : AgentDecision)
    (out : Except Raised (Returned RemediationResult)) : Prop :=
  ∃ r, out = .ok (.value r) ∧ ports.Accepts 8 (closingEvents rt signal decision r)

/-- From the call of the store on, the tables stay as the store left them, and the turn says that the
transaction was rolled back unless it reports the result. -/
lemma closed_rolledBack {decision c embedding} (length : s.log.length = 7)
    (quiet : ¬ PublishesRollback s.log) :
    (Effect.attempt (closeTurn rt ports signal (decision, some (c, embedding))) (failSafely ports signal)
        s).2.store = (ports.remediateAndRecord c embedding s.store).1 ∧
      (PublishesRollback (Effect.attempt (closeTurn rt ports signal (decision, some (c, embedding)))
          (failSafely ports signal) s).2.log ↔
        ¬ Reports rt ports signal decision (ports.remediateAndRecord c embedding s.store).2) := by
  have left := @closeTurn_left σ rt ports signal s decision c embedding s rfl
  unfold Effect.attempt
  cases run : closeTurn rt ports signal (decision, some (c, embedding)) s with
  | mk out t =>
    rw [run] at left
    cases out with
    | ok result =>
      refine ⟨left.tables, ?_⟩
      obtain ⟨store, r, returned, accepted, _, rfl⟩ := closeTurn_ok.mp run
      have silent : ¬ PublishesRollback
          ((s.called c embedding store (.ok (.value r))).after (closingEvents rt signal decision r)).log := by
        rw [publishesRollback_after]
        simp only [TurnState.called, PublishesRollback, closingEvents, List.mem_append, List.mem_singleton]
        rintro (⟨e, he | ⟨⟨⟩⟩, broken⟩ | ⟨e, he, broken⟩)
        · exact quiet ⟨e, he, broken⟩
        · simp at he
          rcases he with rfl | rfl
          all_goals cases broken
      have reports : Reports rt ports signal decision (ports.remediateAndRecord c embedding s.store).2 := by
        refine ⟨r, by rw [returned], ?_⟩
        rwa [length] at accepted
      exact ⟨fun broken => absurd broken silent, fun h => absurd reports h⟩
    | error exc =>
      obtain ⟨raised, failed⟩ := @failSafely_eq σ ports signal t exc
      simp only [failed]
      refine ⟨left.tables, ?_⟩
      have broken : PublishesRollback (t.after [failedEvent signal exc t.transactionStarted]).log := by
        rw [publishesRollback_after, left.started]
        exact .inr ⟨_, List.mem_singleton.mpr rfl, rfl⟩
      have unreported : ¬ Reports rt ports signal decision
          (ports.remediateAndRecord c embedding s.store).2 := by
        rintro ⟨r, returned, accepted⟩
        have ends := closeTurn_ok.mpr ⟨(ports.remediateAndRecord c embedding s.store).1, r,
          Prod.ext rfl returned, by rw [length]; exact accepted, rfl, rfl⟩
        rw [run] at ends
        cases ends
      exact ⟨fun _ => unreported, fun _ => broken⟩

/-- A turn that calls the store leaves the tables as the store left them, and says that the transaction
was rolled back unless it reports the result. -/
lemma handleSanitized_opened {o : Opening} (received : ports.publish 0 (receivedEvent signal) = none)
    (opens : o.Opens rt signal approved ports approver 1) :
    (handleSanitized rt ports signal approved approver { store := db }).2.store =
        (ports.remediateAndRecord (o.command approved) o.embedding db).1 ∧
      (PublishesRollback (handleSanitized rt ports signal approved approver { store := db }).2.log ↔
        ¬ Reports rt ports signal (o.reasoned approved)
          (ports.remediateAndRecord (o.command approved) o.embedding db).2) := by
  rw [handleSanitized_received received]
  have opening : openTurn rt ports signal approved approver
      (({ store := db } : TurnState σ).after [receivedEvent signal]) =
        (.ok (o.reasoned approved, some (o.command approved, o.embedding)),
          ({ store := db } : TurnState σ).after (receivedEvent signal :: o.events rt signal approved)) := by
    refine openTurn_ok.mpr ⟨o, opens, rfl, rfl, rfl, ?_⟩
    rw [after_after]
    rfl
  have run : Effect.attempt (openTurn rt ports signal approved approver >>= closeTurn rt ports signal)
      (failSafely ports signal) (({ store := db } : TurnState σ).after [receivedEvent signal]) =
        Effect.attempt (closeTurn rt ports signal
          (o.reasoned approved, some (o.command approved, o.embedding))) (failSafely ports signal)
          (({ store := db } : TurnState σ).after (receivedEvent signal :: o.events rt signal approved)) := by
    unfold Effect.attempt
    rw [Effect.bind_apply, opening]
    rfl
  rw [run]
  apply closed_rolledBack
  · simp [Opening.events, recallEvents, reasonEvents, actEvents]
  · rw [publishesRollback_after]
    simp [PublishesRollback, receivedEvent, Opening.events, recallEvents, reasonEvents, actEvents]

end turn

/-! ## With the tables of CockroachDB -/

section cockroach

variable (rt : Runtime) (retries : Nat) (env : RemediationEnv) (ports : Ports Database)
  (signal : IncidentSignal) (approved : Bool) (approver : Option String) (db : Database)

/-- A turn of the service on the database. -/
def cockroachTurn : Except Raised ResponseResult × TurnState Database :=
  ResponderService.handle rt (cockroachPorts rt retries env ports) signal approved approver { store := db }

/-- Where the turn says that the transaction was rolled back, the remediation state is the one before. -/
def RolledBackClean : Prop :=
  PublishesRollback (cockroachTurn rt retries env ports signal approved approver db).2.log →
    (cockroachTurn rt retries env ports signal approved approver db).2.store.remediationTables =
      db.remediationTables

/-- The gates, the adapters and the sink let the turn on the sanitized signal call the store. -/
structure Calls (signal' : IncidentSignal) (o : Opening) : Prop where
  sanitized : sanitizeSignal rt signal = .ok signal'
  received : ports.publish 0 (receivedEvent signal') = none
  opens : o.Opens rt signal' approved ports approver 1

/-- Attempt `n` commits the command, and the turn does not hear of it or cannot report it. -/
structure Unreported (signal' : IncidentSignal) (o : Opening) (n : Nat) (g : Generated) : Prop where
  valid : validate (o.command approved) o.embedding = .ok ()
  allowed : n ≤ retries
  reaches : env.Reaches n
  gates : Gates (remediationParams rt (o.command approved) o.embedding) db
  unused : ¬ KeyTaken (remediationParams rt (o.command approved) o.embedding) db
  fresh : ¬ Collides g db
  unheard : (∃ ack, env.attempt n = .commitLost g ack) ∨
    (env.attempt n = .commit g ∧
      ¬ ports.Accepts 8 (closingEvents rt signal' (o.reasoned approved) (remediationRow g).result))

end cockroach

/-- The writes of the statement show in the tables. -/
lemma remediated_ne {p g action} {db : Database} :
    (remediated p g db action).remediationTables ≠ db.remediationTables := by
  intro same
  have rows : db.deploys ++ [deployRow p g action] = db.deploys :=
    congrArg RemediationTables.deploys same
  simp at rows

/-- The store is not asked before the turn calls it. -/
lemma accepts_cockroach {rt retries env n} {ports : Ports Database} {events : List AgentEvent} :
    (cockroachPorts rt retries env ports).Accepts n events ↔ ports.Accepts n events := by
  induction events generalizing n with
  | nil => exact Iff.rfl
  | cons e events ih => exact and_congr_right fun _ => ih

lemma opens_cockroach {rt retries env signal approved approver n} {ports : Ports Database} {o : Opening} :
    o.Opens rt signal approved (cockroachPorts rt retries env ports) approver n ↔
      o.Opens rt signal approved ports approver n := by
  constructor
  · intro h
    exact ⟨h.embedded, h.recalled, h.screened, h.reported, h.decided, h.remediates, h.proposes, h.grounded,
      h.unpaused, h.authorized, h.acting, accepts_cockroach.mp h.accepted⟩
  · intro h
    exact ⟨h.embedded, h.recalled, h.screened, h.reported, h.decided, h.remediates, h.proposes, h.grounded,
      h.unpaused, h.authorized, h.acting, accepts_cockroach.mpr h.accepted⟩

/-- A call changes the tables and is not reported exactly if a transaction of it commits unreported. -/
lemma unreported_iff {rt retries env ports signal' approved} {db : Database} {o : Opening} :
    (¬ Reports rt (cockroachPorts rt retries env ports) signal' (o.reasoned approved)
        ((remediateAndRecord rt retries env (o.command approved) o.embedding db).2.map .value) ∧
      (remediateAndRecord rt retries env (o.command approved) o.embedding db).1.remediationTables ≠
        db.remediationTables) ↔
      ∃ n g, Unreported rt retries env ports approved db signal' o n g := by
  constructor
  · rintro ⟨unreported, changed⟩
    cases valid : validate (o.command approved) o.embedding with
    | error e =>
      rw [show remediateAndRecord rt retries env (o.command approved) o.embedding db = (db, .error e) by
        simp only [remediateAndRecord, valid]] at changed
      exact absurd rfl changed
    | ok u =>
      have ended := @remediateAndRecord_ended rt retries env _ _ db valid
      generalize remediateAndRecord rt retries env (o.command approved) o.embedding db = out at *
      cases ended with
      | @committed n g _ allowed reaches fate wrote =>
        refine ⟨n, g, valid, allowed, reaches, wrote.gates, wrote.unused, wrote.fresh, .inr ⟨fate, ?_⟩⟩
        intro accepted
        exact unreported ⟨_, rfl, accepts_cockroach.mpr accepted⟩
      | @lost n g ack _ allowed reaches fate wrote =>
        exact ⟨n, g, valid, allowed, reaches, wrote.gates, wrote.unused, wrote.fresh, .inl ⟨ack, fate⟩⟩
      | replayed => exact absurd rfl changed
      | failed => exact absurd rfl changed
  · rintro ⟨n, g, u⟩
    obtain ⟨action, ha⟩ := deployAction?_of_validate u.valid
    obtain ⟨ack, fate⟩ | ⟨fate, refused⟩ := u.unheard
    · rw [remediateAndRecord_lost u.valid u.allowed u.reaches fate ha u.gates u.unused u.fresh]
      refine ⟨?_, remediated_ne⟩
      rintro ⟨r, ⟨⟩, _⟩
    · rw [remediateAndRecord_commit u.valid u.allowed u.reaches fate ha u.unused u.fresh, if_pos u.gates]
      refine ⟨?_, remediated_ne⟩
      rintro ⟨r, returned, accepted⟩
      cases returned
      exact refused (accepts_cockroach.mp accepted)

/-- A turn that calls the store is torn exactly if a transaction of it commits unreported. -/
lemma opened_torn_iff {rt retries env ports signal signal' approved approver} {db : Database} {o : Opening}
    (calls : Calls rt ports signal approved approver signal' o) :
    (PublishesRollback (cockroachTurn rt retries env ports signal approved approver db).2.log ∧
      (cockroachTurn rt retries env ports signal approved approver db).2.store.remediationTables ≠
        db.remediationTables) ↔
      ∃ n g, Unreported rt retries env ports approved db signal' o n g := by
  unfold cockroachTurn
  rw [ResponderService.handle_accepted rt _ signal calls.sanitized]
  obtain ⟨tables, broken⟩ := @handleSanitized_opened _ rt (cockroachPorts rt retries env ports) signal'
    approved approver db o calls.received (opens_cockroach.mpr calls.opens)
  rw [tables, broken]
  exact unreported_iff

/-- A turn that says its transaction was rolled back leaves the remediation state as it was, unless a
transaction of it commits and the turn does not hear of that or cannot report it. -/
theorem rolled_back_clean_iff {rt retries env ports signal approved approver} {db : Database} :
    RolledBackClean rt retries env ports signal approved approver db ↔
      ¬ ∃ signal' o n g, Calls rt ports signal approved approver signal' o ∧
        Unreported rt retries env ports approved db signal' o n g := by
  constructor
  · rintro clean ⟨signal', o, n, g, calls, unreported⟩
    obtain ⟨broken, changed⟩ := (opened_torn_iff calls).mpr ⟨n, g, unreported⟩
    exact changed (clean broken)
  · intro reported broken
    by_contra changed
    cases sanitized : sanitizeSignal rt signal with
    | error e =>
      unfold cockroachTurn at broken
      rw [ResponderService.handle_rejected rt _ signal sanitized] at broken
      obtain ⟨_, ⟨⟩, _⟩ := broken
    | ok signal' =>
      by_cases calls : ∃ o, Calls rt ports signal approved approver signal' o
      · obtain ⟨o, calls⟩ := calls
        obtain ⟨n, g, unreported⟩ := (opened_torn_iff calls).mp ⟨broken, changed⟩
        exact reported ⟨signal', o, n, g, calls, unreported⟩
      · have idle := @handleSanitized_idle _ rt (cockroachPorts rt retries env ports) signal' approved
          approver db (by
            rintro received ⟨o, opens⟩
            exact calls ⟨o, sanitized, received, opens_cockroach.mp opens⟩)
        unfold cockroachTurn at broken
        rw [ResponderService.handle_accepted rt _ signal sanitized] at broken
        exact idle.unbroken broken

/-! ## A lost acknowledgement -/

namespace Sample

/-- Adapters that propose the rollback on the database of the example. -/
def responder : Ports Database where
  embed _ _ := .ok embedding
  «recall» _ := .ok (.value (bundleWith "action"))
  decide _ _ := .ok (.value
    { kind := .remediate
      explanation := "errors since v2"
      citedMemoryId := some memory
      command := some command })
  remediateAndRecord _ _ db := (db, .error gateRejection)
  publish _ _ := none
  now := 0

/-- The first attempt commits and the connection is lost before the answer. -/
def loses : RemediationEnv := ⟨fun _ => .commitLost generated .connectionLost, true⟩

end Sample

/-- The rollback commits, and the turn says that no partial remediation was recorded. -/
theorem lost_acknowledgement_not_clean :
    ¬ RolledBackClean Runtime.sample 3 Sample.loses Sample.responder (Sample.alert "SEV-1") false none
      Sample.db := by
  intro clean
  have changed : (cockroachTurn Runtime.sample 3 Sample.loses Sample.responder (Sample.alert "SEV-1") false
      none Sample.db).2.store.remediationTables ≠ Sample.db.remediationTables := by
    decide +kernel
  have broken : .transactionRolledBack ∈ eventTypes (cockroachTurn Runtime.sample 3 Sample.loses
      Sample.responder (Sample.alert "SEV-1") false none Sample.db).2.log := by
    decide +kernel
  exact changed (clean (publishesRollback_iff.mpr broken))

end Postmortem
