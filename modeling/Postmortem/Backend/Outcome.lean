import Postmortem.Backend.Cockroach

/-!
# The outcome transaction

`adapters/outcome.py`. `recordOutcomeSql` is `RECORD_OUTCOME_SQL`: it finds the action with its
incident (`outcomeTarget`) and an outcome episode already written for the action (`existingOutcome`).
Where there is none it updates the action and the incident and appends the outcome episode; where
there is one it only returns it.
-/

namespace Postmortem

/-- The parameters of `RECORD_OUTCOME_SQL`. -/
structure OutcomeParams where
  orgId : Uuid
  agentId : Uuid
  incidentId : Uuid
  serviceId : Uuid
  actionId : Uuid
  outcome : OutcomeKind
  content : String
  errorSignature : Option String
  observedAt : Timestamp
  embedding : Embedding
deriving DecidableEq

/-- The row `RECORD_OUTCOME_SQL` returns. -/
structure OutcomeRow where
  eventId : Uuid
  recordedAt : Timestamp
  transactionId : Uuid
  incidentStatus : IncidentStatus
  recordedOutcome : Option String
  idempotentReplay : Bool
deriving DecidableEq

section sql

variable (rt : Runtime) (p : OutcomeParams) (g : Generated) (db : Database)

/-- The action of the CTE `target`. -/
def targetAction : Option RemediationAction :=
  db.remediationActions.find? fun a =>
    a.orgId = p.orgId ∧ a.actionId = p.actionId ∧ a.incidentId = p.incidentId ∧
      a.targetId = some p.serviceId

/-- The incident joined in the CTE `target`. -/
def targetIncident (a : RemediationAction) : Option Incident :=
  db.incidents.find? fun i =>
    i.orgId = a.orgId ∧ i.incidentId = a.incidentId ∧ i.serviceId = p.serviceId ∧
      ∃ s ∈ db.services, s.orgId = i.orgId ∧ s.serviceId = i.serviceId

/-- The CTE `target`. -/
def outcomeTarget : Option (RemediationAction × Incident) :=
  match targetAction p db with
  | none => none
  | some a => (targetIncident p db a).map fun i => (a, i)

/-- An outcome episode for the action of the parameters. -/
def IsOutcomeOf (e : EpisodicEvent) : Prop :=
  e.orgId = p.orgId ∧ e.incidentId = some p.incidentId ∧ e.serviceId = some p.serviceId ∧
    e.eventType = .outcome ∧ jsonField rt e.metadata "action_id" = some p.actionId.text

instance (e : EpisodicEvent) : Decidable (IsOutcomeOf rt p e) :=
  inferInstanceAs (Decidable (_ ∧ _ ∧ _ ∧ _ ∧ _))

/-- The CTE `existing`: `ORDER BY created_at LIMIT 1`. -/
def existingOutcome : Option EpisodicEvent :=
  Table.first (fun a b => a.createdAt ≤ b.createdAt)
    (db.episodicEvents.filter fun e => IsOutcomeOf rt p e)

/-- The CTE `action_update`. -/
def actionUpdate : List RemediationAction → List RemediationAction :=
  Table.update (fun a => a.actionId = p.actionId) fun a => { a with outcome := p.outcome.stored }

/-- `resolved_at` after the update. -/
def resolvedAt (i : Incident) : Option Timestamp :=
  if p.outcome = .success then some (i.resolvedAt.getD p.observedAt) else i.resolvedAt

/-- The incident after the CTE `incident_update`. -/
def resolve (i : Incident) : Incident :=
  { i with
    status := if p.outcome = .success then .resolved else i.status
    resolvedAt := resolvedAt p i
    mttrSeconds :=
      if p.outcome = .success then
        some (i.mttrSeconds.getD (max 0 (rt.epochSeconds (p.observedAt - i.openedAt))))
      else i.mttrSeconds }

/-- The CTE `incident_update`. -/
def outcomeIncidentUpdate : List Incident → List Incident :=
  Table.update (fun i => i.orgId = p.orgId ∧ i.incidentId = p.incidentId) (resolve rt p)

/-- The CHECK `incident_time_order` after the update. -/
def TimeOrdered (i : Incident) : Prop :=
  match resolvedAt p i with
  | none => True
  | some t => i.openedAt ≤ t

instance (i : Incident) : Decidable (TimeOrdered p i) := by
  unfold TimeOrdered
  split <;> infer_instance

/-- The CTE `episode`. -/
def outcomeEpisode (a : RemediationAction) (i : Incident) : EpisodicEvent where
  eventId := g.eventId
  orgId := p.orgId
  agentId := p.agentId
  incidentId := some p.incidentId
  sessionId := none
  serviceId := some p.serviceId
  occurredAt := p.observedAt
  eventType := .outcome
  content := some p.content
  metadata := .obj [
    ("outcome", .str p.outcome.value),
    ("action_id", .str a.actionId.text),
    ("transaction_id", .str a.transactionId.text),
    ("action_type", .str a.actionType.text),
    ("params", a.params),
    ("service_id", .str p.serviceId.text),
    ("error_signature", Json.ofText? p.errorSignature),
    ("consolidation_ready", .bool true),
    ("source", .str "responder_outcome")]
  runbookId := i.runbookId
  importance := 19 / 20
  embedding := some p.embedding
  createdAt := g.now

/-- The state once every CTE has written. -/
def outcomeRecorded (a : RemediationAction) (i : Incident) : Database :=
  { db with
    remediationActions := actionUpdate p db.remediationActions
    incidents := outcomeIncidentUpdate rt p db.incidents
    episodicEvents := db.episodicEvents ++ [outcomeEpisode p g a i] }

/-- `RECORD_OUTCOME_SQL`. -/
def recordOutcomeSql : Except SqlState (Database × Option OutcomeRow) :=
  match outcomeTarget p db with
  | none => .ok (db, none)
  | some (a, i) =>
    match existingOutcome rt p db with
    | some e =>
      .ok (db, some {
        eventId := e.eventId
        recordedAt := e.createdAt
        transactionId := a.transactionId
        incidentStatus := i.status
        recordedOutcome := jsonField rt e.metadata "outcome"
        idempotentReplay := true })
    | none =>
      if ¬ TimeOrdered p i then .error .checkViolation
      else if ∃ e ∈ db.episodicEvents, e.eventId = g.eventId then .error .uniqueViolation
      else
        .ok (outcomeRecorded rt p g db a i, some {
          eventId := g.eventId
          recordedAt := g.now
          transactionId := a.transactionId
          incidentStatus := (resolve rt p i).status
          recordedOutcome := some p.outcome.value
          idempotentReplay := false })

/-- The statement went from `db` to `db'` and wrote, for the action `a` of the incident `i`. -/
structure OutcomeRecorded (a : RemediationAction) (i : Incident) (db' : Database) : Prop where
  target : outcomeTarget p db = some (a, i)
  first : existingOutcome rt p db = none
  timeOrdered : TimeOrdered p i
  fresh : ∀ e ∈ db.episodicEvents, e.eventId ≠ g.eventId
  written : db' = outcomeRecorded rt p g db a i

end sql

/-- What the statement did, when it did not fail: nothing, or all of its writes. -/
lemma recordOutcomeSql_spec {rt p g db db' row}
    (h : recordOutcomeSql rt p g db = .ok (db', row)) :
    (db' = db ∧ ∀ r, row = some r → r.idempotentReplay = true) ∨
      ∃ a i, OutcomeRecorded rt p g db a i db' ∧
        ∃ r, row = some r ∧ r.eventId = g.eventId ∧ r.idempotentReplay = false := by
  unfold recordOutcomeSql at h
  split at h
  case h_1 =>
    cases h
    exact .inl ⟨rfl, by rintro r ⟨⟩⟩
  case h_2 a i target =>
    split at h
    case h_1 =>
      cases h
      refine .inl ⟨rfl, ?_⟩
      rintro r ⟨⟩
      rfl
    case h_2 first =>
      split at h
      case isTrue => cases h
      case isFalse ordered =>
        split at h
        case isTrue => cases h
        case isFalse fresh =>
          cases h
          refine .inr ⟨a, i, ⟨target, first, not_not.mp ordered, ?_, rfl⟩, _, rfl, rfl, rfl⟩
          intro e he eq
          exact fresh ⟨e, he, eq⟩

/-- The statement's result where it writes: all of its writes, and the outcome it was given. -/
lemma recordOutcomeSql_written {rt p g db a i db'} (wrote : OutcomeRecorded rt p g db a i db') :
    ∃ row, recordOutcomeSql rt p g db = .ok (db', some row) ∧
      row.recordedOutcome = some p.outcome.value := by
  obtain ⟨target, first, ordered, fresh, rfl⟩ := wrote
  have unused : ¬ ∃ e ∈ db.episodicEvents, e.eventId = g.eventId := by
    rintro ⟨e, he, eq⟩
    exact fresh e he eq
  unfold recordOutcomeSql
  simp only [target, first, if_neg (not_not.mpr ordered), if_neg unused]
  exact ⟨_, rfl, rfl⟩

/-- The action of `target` is the one the parameters name. -/
lemma targetAction_spec {p : OutcomeParams} {db a} (h : targetAction p db = some a) :
    a ∈ db.remediationActions ∧ a.orgId = p.orgId ∧ a.actionId = p.actionId ∧
      a.incidentId = p.incidentId ∧ a.targetId = some p.serviceId := by
  have mem := List.mem_of_find?_eq_some h
  have sat := List.find?_some h
  exact ⟨mem, of_decide_eq_true sat⟩

/-- What the CTE `target` found. -/
lemma outcomeTarget_spec {p : OutcomeParams} {db a i} (h : outcomeTarget p db = some (a, i)) :
    targetAction p db = some a ∧ i ∈ db.incidents ∧ i.orgId = p.orgId ∧
      i.incidentId = p.incidentId := by
  unfold outcomeTarget at h
  split at h
  · cases h
  · rename_i a' ha
    obtain ⟨i', hi, e⟩ := Option.map_eq_some_iff.mp h
    cases e
    obtain ⟨_, eo, _, ei, _⟩ := targetAction_spec ha
    unfold targetIncident at hi
    have mem := List.mem_of_find?_eq_some hi
    have sat := List.find?_some hi
    obtain ⟨io, ii, _⟩ := of_decide_eq_true sat
    exact ⟨ha, mem, io.trans eo, ii.trans ei⟩

/-- `_execute_once` raises what the driver raised on 40001, and wraps everything else. -/
def outcomeRolledBack (e : Raised) : Raised :=
  if e.state = some .serializationFailure then e
  else
    { cls := .OutcomeRecordingError
      message := "CockroachDB rolled back outcome recording."
      cause := e.sqlstate }

/-- The error where the statement returns no row. -/
def outcomeRejection : Raised :=
  { cls := .ProvenanceError
    message := "Outcome rejected: action does not belong to the org, incident, and service." }

/-- `str(recorded_outcome)` -/
def recordedText (row : OutcomeRow) : String := row.recordedOutcome.getD "None"

/-- The error where another outcome is on record. -/
def outcomeConflict (row : OutcomeRow) : Raised :=
  { cls := .OutcomeConflict
    message := "An outcome is already recorded for this action as " ++ recordedText row ++ "." }

/-- The result built from a row of `RECORD_OUTCOME_SQL`. -/
def OutcomeRow.result (row : OutcomeRow) (c : OutcomeCommand) : OutcomeResult where
  actionId := c.actionId
  transactionId := row.transactionId
  eventId := row.eventId
  incidentId := c.incidentId
  outcome := c.outcome
  incidentStatus := row.incidentStatus.text
  recordedAt := row.recordedAt
  idempotentReplay := row.idempotentReplay

/-- The transaction of one attempt. A conflict is raised inside it, so the attempt rolls back; past
that check `OutcomeKind(str(recorded_outcome))` is the command's own outcome. -/
def outcomeTransact (rt : Runtime) (c : OutcomeCommand) (p : OutcomeParams) (g : Generated)
    (ack : Option LostAck) (db : Database) : Database × Except Raised OutcomeResult :=
  match recordOutcomeSql rt p g db with
  | .error state => (db, .error (outcomeRolledBack (.database state)))
  | .ok (_, none) => (db, .error outcomeRejection)
  | .ok (db', some row) =>
    if recordedText row ≠ c.outcome.value then (db, .error (outcomeConflict row))
    else
      match ack with
      | none => (db', .ok (row.result c))
      | some lost => (db', .error (outcomeRolledBack lost.raised))

/-- `CockroachOutcomeStore._execute_once`. -/
def outcomeExecuteOnce (rt : Runtime) (c : OutcomeCommand) (p : OutcomeParams) (fate : Fate)
    (db : Database) : Database × Except Raised OutcomeResult :=
  match fate with
  | .abort state => (db, .error (outcomeRolledBack ⟨.other "DatabaseError", "", state, none⟩))
  | .commit g => outcomeTransact rt c p g none db
  | .commitLost g lost => outcomeTransact rt c p g (some lost) db

/-- The loop over attempts. -/
def outcomeRetry (rt : Runtime) (c : OutcomeCommand) (p : OutcomeParams) (env : Nat → Fate)
    (attempt : Nat) : Nat → Database → Database × Except Raised OutcomeResult
  | remaining, db =>
    match outcomeExecuteOnce rt c p (env attempt) db with
    | (db', .ok r) => (db', .ok r)
    | (db', .error e) =>
      if e.state ≠ some .serializationFailure then (db', .error e)
      else
        match remaining with
        | 0 => (db', .error e)
        | remaining + 1 => outcomeRetry rt c p env (attempt + 1) remaining db'

/-- The dictionary `params`. -/
def outcomeParams (rt : Runtime) (c : OutcomeCommand) (embedding : Embedding) : OutcomeParams where
  orgId := c.orgId
  agentId := c.agentId
  incidentId := c.incidentId
  serviceId := c.serviceId
  actionId := c.actionId
  outcome := c.outcome
  content := c.memoryText
  errorSignature := c.errorSignature
  observedAt := c.observedAt
  embedding := vectorLiteral rt 9 embedding

/-- `record_outcome`, with `retries` for `max_serialization_retries`. -/
def recordOutcome (rt : Runtime) (retries : Nat) (env : Nat → Fate) (c : OutcomeCommand)
    (embedding : Embedding) (db : Database) : Database × Except Raised OutcomeResult :=
  if embedding.length ≠ 1024 then
    (db, .error ⟨.OutcomeRecordingError, "Outcome embedding must have exactly 1024 dimensions.",
      none, none⟩)
  else outcomeRetry rt c (outcomeParams rt c embedding) env 0 retries db

/-- A transaction leaves the state alone, or runs the statement to its commit. -/
lemma outcomeTransact_spec {rt c p g ack db} :
    (outcomeTransact rt c p g ack db).1 = db ∨
      ∃ a i, OutcomeRecorded rt p g db a i (outcomeTransact rt c p g ack db).1 := by
  unfold outcomeTransact
  split
  · exact .inl rfl
  · exact .inl rfl
  · rename_i db' row e
    split
    · exact .inl rfl
    · obtain ⟨rfl, _⟩ | ⟨a, i, wrote, _⟩ := recordOutcomeSql_spec e
      · left
        cases ack <;> rfl
      · right
        cases ack <;> exact ⟨a, i, wrote⟩

/-- A lost acknowledgement is not retried. -/
lemma outcomeRolledBack_lost_state {lost : LostAck} :
    (outcomeRolledBack lost.raised).state ≠ some .serializationFailure := by
  cases lost <;> decide

/-- An attempt whose statement ran is not repeated. -/
lemma outcomeTransact_final {rt c p g ack db e} (h : (outcomeTransact rt c p g ack db).2 = .error e) :
    e.state ≠ some .serializationFailure := by
  unfold outcomeTransact at h
  split at h
  · rename_i state hs
    cases h
    -- the statement itself fails only with the two constraint violations
    unfold recordOutcomeSql at hs
    split at hs
    · cases hs
    · split at hs
      · cases hs
      · split at hs
        · cases hs
          decide
        · split at hs <;> cases hs
          decide
  · cases h
    decide
  · split at h
    · cases h
      show (none : Option SqlState) ≠ _
      decide
    · cases ack with
      | none => cases h
      | some lost =>
        cases h
        exact outcomeRolledBack_lost_state

/-! ## The loop over attempts -/

/-- The attempt reaches the statement; the acknowledgement of its commit may be lost. -/
def Fate.running (g : Generated) : Option LostAck → Fate
  | none => .commit g
  | some lost => .commitLost g lost

/-- An attempt within the budget runs the statement, after serialization failures only. -/
def RunsStatement (env : Nat → Fate) (retries : Nat) (g : Generated) : Prop :=
  ∃ n ≤ retries, (∃ ack, env n = .running g ack) ∧ ∀ j < n, env j = .abort (some .serializationFailure)

/-- The loop attempts again while the result asks for it. -/
lemma outcomeRetry_loop {rt c p env attempt remaining db} :
    outcomeRetry rt c p env attempt remaining db =
      Retry.loop (fun n => outcomeExecuteOnce rt c p (env n)) retried attempt remaining db := by
  induction remaining generalizing attempt db with
  | zero =>
    rw [outcomeRetry, Retry.loop]
    generalize outcomeExecuteOnce rt c p (env attempt) db = out
    obtain ⟨db', e | r⟩ := out
    · simp only [ite_self]
    · rfl
  | succ n ih =>
    rw [outcomeRetry, Retry.loop]
    generalize outcomeExecuteOnce rt c p (env attempt) db = out
    obtain ⟨db', e | r⟩ := out
    · simp only [ih, retried, decide_eq_true_eq, ne_eq, ite_not]
    · rfl

lemma outcomeRolledBack_abort_state {state : Option SqlState} :
    (outcomeRolledBack ⟨.other "DatabaseError", "", state, none⟩).state = state := by
  unfold outcomeRolledBack
  split
  · exact Option.or_none
  · exact Option.none_or

/-- An attempt is retried where a serialization failure aborted it. -/
lemma outcomeExecuteOnce_retried {rt c p fate db} :
    retried (outcomeExecuteOnce rt c p fate db).2 = true ↔
      fate = .abort (some .serializationFailure) := by
  have final : ∀ g ack, retried (outcomeTransact rt c p g ack db).2 ≠ true := by
    intro g ack again
    cases res : (outcomeTransact rt c p g ack db).2 with
    | ok r =>
      rw [res] at again
      cases again
    | error e =>
      rw [res] at again
      exact outcomeTransact_final res (of_decide_eq_true again)
  cases fate with
  | abort state =>
    show decide ((outcomeRolledBack _).state = _) = true ↔ _
    rw [outcomeRolledBack_abort_state, decide_eq_true_iff, Fate.abort.injEq]
  | commit g => exact iff_of_false (final g none) nofun
  | commitLost g lost => exact iff_of_false (final g (some lost)) nofun

/-- An attempt that is retried leaves the state alone. -/
lemma outcomeExecuteOnce_idle {rt c p} {env : Nat → Fate} {db} : ∀ n,
    retried (outcomeExecuteOnce rt c p (env n) db).2 = true →
      (outcomeExecuteOnce rt c p (env n) db).1 = db := by
  intro n h
  rw [outcomeExecuteOnce_retried.mp h]
  rfl

/-! ## What a call does -/

/-- What a call has to meet to record its outcome, for the action `a` of the incident `i`. -/
structure Records (rt : Runtime) (retries : Nat) (env : Nat → Fate) (c : OutcomeCommand)
    (embedding : Embedding) (g : Generated) (a : RemediationAction) (i : Incident) (db : Database) :
    Prop where
  dims : embedding.length = 1024
  runs : RunsStatement env retries g
  target : outcomeTarget (outcomeParams rt c embedding) db = some (a, i)
  first : existingOutcome rt (outcomeParams rt c embedding) db = none
  timeOrdered : TimeOrdered (outcomeParams rt c embedding) i
  fresh : ∀ e ∈ db.episodicEvents, e.eventId ≠ g.eventId

section call

variable {rt : Runtime} {retries : Nat} {env : Nat → Fate} {c : OutcomeCommand} {embedding : Embedding}
  {g : Generated} {a : RemediationAction} {i : Incident} {db : Database}

/-- The statement writes where the call records. -/
lemma Records.written (h : Records rt retries env c embedding g a i db) :
    OutcomeRecorded rt (outcomeParams rt c embedding) g db a i
      (outcomeRecorded rt (outcomeParams rt c embedding) g db a i) :=
  ⟨h.target, h.first, h.timeOrdered, h.fresh, rfl⟩

/-- A call whose statement runs does what the transaction does. -/
lemma recordOutcome_runs {n ack} (dims : embedding.length = 1024) (le : n ≤ retries)
    (fate : env n = .running g ack) (aborts : ∀ j < n, env j = .abort (some .serializationFailure)) :
    recordOutcome rt retries env c embedding db =
      outcomeTransact rt c (outcomeParams rt c embedding) g ack db := by
  have runs : outcomeExecuteOnce rt c (outcomeParams rt c embedding) (env n) db =
      outcomeTransact rt c (outcomeParams rt c embedding) g ack db := by
    rw [fate]
    cases ack <;> rfl
  have first := @Retry.loop_of_first _ _
    (fun n => outcomeExecuteOnce rt c (outcomeParams rt c embedding) (env n)) retried 0 retries n db
    outcomeExecuteOnce_idle le
  simp only [Nat.zero_add] at first
  rw [recordOutcome, if_neg (not_not.mpr dims), outcomeRetry_loop, ← runs]
  apply first
  · intro j hj
    exact outcomeExecuteOnce_retried.mpr (aborts j hj)
  · apply Bool.eq_false_iff.mpr
    intro h
    have aborted := fate.symm.trans (outcomeExecuteOnce_retried.mp h)
    cases ack <;> cases aborted

/-- A call leaves the state alone, or it runs the statement. -/
lemma recordOutcome_attempt (dims : embedding.length = 1024) :
    (recordOutcome rt retries env c embedding db).1 = db ∨
      ∃ g ack, RunsStatement env retries g ∧ recordOutcome rt retries env c embedding db =
        outcomeTransact rt c (outcomeParams rt c embedding) g ack db := by
  obtain ⟨n, le, ends, before, _⟩ := @Retry.loop_ends _ _
    (fun n => outcomeExecuteOnce rt c (outcomeParams rt c embedding) (env n)) retried 0 retries db
    outcomeExecuteOnce_idle
  simp only [Nat.zero_add] at ends before
  have aborts : ∀ j < n, env j = .abort (some .serializationFailure) :=
    fun j hj => outcomeExecuteOnce_retried.mp (before j hj)
  rw [recordOutcome, if_neg (not_not.mpr dims), outcomeRetry_loop, ends]
  cases fate : env n with
  | abort state => exact .inl rfl
  | commit g => exact .inr ⟨g, none, ⟨n, le, ⟨none, fate⟩, aborts⟩, rfl⟩
  | commitLost g lost => exact .inr ⟨g, some lost, ⟨n, le, ⟨some lost, fate⟩, aborts⟩, rfl⟩

/-- Under these conditions the call makes the statement's writes. -/
lemma recordOutcome_records (h : Records rt retries env c embedding g a i db) :
    (recordOutcome rt retries env c embedding db).1 =
      outcomeRecorded rt (outcomeParams rt c embedding) g db a i := by
  obtain ⟨n, le, ⟨ack, fate⟩, aborts⟩ := h.runs
  have call := @recordOutcome_runs rt _ _ c _ _ db _ _ h.dims le fate aborts
  obtain ⟨row, wrote, value⟩ := recordOutcomeSql_written h.written
  -- the row carries the command's own outcome, so there is no conflict
  have agrees : ¬ recordedText row ≠ c.outcome.value := by
    rw [recordedText, value]
    exact not_not.mpr rfl
  rw [call, outcomeTransact, wrote]
  simp only [if_neg agrees]
  cases ack <;> rfl

/-- What a call can do to the state: nothing, or, under these conditions, the statement's writes. -/
lemma recordOutcome_spec :
    (recordOutcome rt retries env c embedding db).1 = db ∨
      ∃ g a i, Records rt retries env c embedding g a i db ∧
        (recordOutcome rt retries env c embedding db).1 =
          outcomeRecorded rt (outcomeParams rt c embedding) g db a i := by
  by_cases dims : embedding.length = 1024
  case neg =>
    left
    rw [recordOutcome, if_pos dims]
  case pos =>
    obtain idle | ⟨g, ack, runs, call⟩ := @recordOutcome_attempt rt retries env c embedding db dims
    · exact .inl idle
    · rw [call]
      obtain idle | ⟨a, i, wrote⟩ := @outcomeTransact_spec rt c (outcomeParams rt c embedding) g ack db
      · exact .inl idle
      · obtain ⟨target, first, ordered, fresh, written⟩ := wrote
        exact .inr ⟨g, a, i, ⟨dims, runs, target, first, ordered, fresh⟩, written⟩

end call

end Postmortem
