import Postmortem.Writers
import Postmortem.Backend.RolledBack
import Postmortem.Backend.Transport
import Postmortem.Backend.IdempotencyKey

/-!
# The endpoints that act on the tables

`respond` and `record_outcome` of `api.py`, over the runtime that `build_runtime` wires for CockroachDB: the remediation
port is the store in a `ProvenanceGuardedRemediation`, and the sink is the event broker, whose `publish` does not
raise. `handle_guarded` says that the wrapper does not show in a turn, `Turned` how a turn ends, and `Tells` what the
answer to a request says of the tables. An answer is encoded after the tables were written: one that does not encode
(a number that is not finite) is sent as 500, and tells least.
-/

namespace Postmortem

/-! ## The guarded port -/

/-- `require_grounded_action`, without the identifiers recalled this turn. -/
def requireCitation (c : RemediationCommand) : Except Raised Unit :=
  if c.citedMemoryId = Uuid.nil then
    .error ⟨.ProvenanceError, "Ungrounded action refused: no cited memory/runbook id (R4).", none, none⟩
  else .ok ()

/-- `ProvenanceGuardedRemediation` around the remediation port, without `recalled_ids`. -/
def provenanceGuarded {σ : Type} (ports : Ports σ) : Ports σ :=
  { ports with
    remediateAndRecord := fun c embedding store =>
      match requireCitation c with
      | .error e => (store, .error e)
      | .ok () => ports.remediateAndRecord c embedding store }

section guarded

open ResponderService

variable {σ : Type} {rt : Runtime} {ports : Ports σ} {signal : IncidentSignal} {approved : Bool}
  {approver : Option String} {s : TurnState σ}

lemma callRemediation_guarded {c : RemediationCommand} {embedding} (cited : c.citedMemoryId ≠ Uuid.nil) :
    callRemediation (provenanceGuarded ports) c embedding = callRemediation ports c embedding := by
  funext s
  unfold callRemediation
  simp only [provenanceGuarded, requireCitation, if_neg cited]

lemma closeTurn_guarded {decision} {c : RemediationCommand} {embedding} (cited : c.citedMemoryId ≠ Uuid.nil) :
    closeTurn rt (provenanceGuarded ports) signal (decision, some (c, embedding)) =
      closeTurn rt ports signal (decision, some (c, embedding)) := by
  have execute : executeStage rt (provenanceGuarded ports) signal c embedding =
      executeStage rt ports signal c embedding := by
    unfold executeStage
    rw [callRemediation_guarded cited]
    rfl
  unfold closeTurn
  simp only
  rw [execute]
  rfl

/-- What the wrapper refuses, the service has refused before. -/
lemma handle_guarded :
    ResponderService.handle rt (provenanceGuarded ports) signal approved approver s =
      ResponderService.handle rt ports signal approved approver s := by
  cases sanitized : sanitizeSignal rt signal with
  | error e => rw [handle_rejected rt _ signal sanitized, handle_rejected rt _ signal sanitized]
  | ok signal' =>
    have body : (openTurn rt (provenanceGuarded ports) signal' approved approver >>=
        closeTurn rt (provenanceGuarded ports) signal') =
          (openTurn rt ports signal' approved approver >>= closeTurn rt ports signal') := by
      funext t
      -- up to the call the turn does not read the port
      have opening : openTurn rt (provenanceGuarded ports) signal' approved approver =
          openTurn rt ports signal' approved approver := rfl
      rw [Effect.bind_apply, Effect.bind_apply, opening]
      cases run : openTurn rt ports signal' approved approver t with
      | mk out u =>
        obtain _ | ⟨decision, _ | ⟨command, embedding⟩⟩ := out
        case error => rfl
        case ok.none => rfl
        case ok.some =>
          obtain ⟨o, opens, _, rfl, _⟩ := openTurn_ok.mp run
          exact congrFun (closeTurn_guarded (requireGroundedAction_ok opens.grounded).1) u
    rw [handle_accepted rt _ signal sanitized, handle_accepted rt _ signal sanitized, handleSanitized_eq,
      handleSanitized_eq, body]
    rfl

end guarded

/-! ## How a turn ends -/

/-- What the service has checked of a command before it asks the store for it. -/
structure Vetted (approved : Bool) (c : RemediationCommand) : Prop where
  cited : c.citedMemoryId ≠ Uuid.nil
  flagged : c.approved = approved
  unpaused : ¬ (c.requiresHumanApproval ∧ c.approved = false)

/-- How a turn on the database ends, and the database it leaves. -/
inductive Turned (rt : Runtime) (retries : Nat) (env : RemediationEnv) (approved : Bool) (db : Database) :
    Except Raised ResponseResult → Database → Prop where
  | idle {result : ResponseResult} : result.remediation = none → Turned rt retries env approved db (.ok result) db
  | acted {result : ResponseResult} {c embedding r db'} : Vetted approved c → result.decision.command = some c →
    result.remediation = some r → remediateAndRecord rt retries env c embedding db = (db', .ok r) →
    Turned rt retries env approved db (.ok result) db'
  | failed {e} : Turned rt retries env approved db (.error e) db
  | raised {c embedding e db'} : Vetted approved c →
    remediateAndRecord rt retries env c embedding db = (db', .error e) →
    Turned rt retries env approved db (.error e) db'

section turned

open ResponderService

variable {rt : Runtime} {retries : Nat} {env : RemediationEnv} {ports : Ports Database} {signal : IncidentSignal}
  {approved : Bool} {approver : Option String} {db : Database} {s : TurnState Database}

/-- A sink that does not raise keeps what its events keep. -/
lemma event_quiet {type stage message data} {I : TurnState Database → Prop} {E : Raised → TurnState Database → Prop}
    (quiet : ∀ n e, ports.publish n e = none) (keeps : ∀ t e, I t → I (t.after [e])) :
    Effect.Meets I (event ports signal type stage message data) (fun _ => I) E := by
  intro t h
  unfold event
  simp only [quiet]
  exact keeps t _ h

/-- The turn answers what the store answers. -/
lemma executeStage_answers {c embedding} (quiet : ∀ n e, ports.publish n e = none) :
    Effect.Meets (fun t => t.store = db)
      (executeStage rt (cockroachPorts rt retries env ports) signal c embedding)
      (fun r t => remediateAndRecord rt retries env c embedding db = (t.store, .ok r))
      (fun e t => remediateAndRecord rt retries env c embedding db = (t.store, .error e)) := by
  have flag : Effect.Meets (fun t => t.store = db)
      (Effect.update fun s : TurnState Database => { s with transactionStarted := true })
      (fun _ t => t.store = db)
      (fun e t => remediateAndRecord rt retries env c embedding db = (t.store, .error e)) :=
    Effect.Meets.update fun _ h => h
  apply flag.bind
  intro _
  have call : Effect.Meets (fun t => t.store = db)
      (callRemediation (cockroachPorts rt retries env ports) c embedding)
      (fun returned t => ∃ r, returned = .value r ∧
        remediateAndRecord rt retries env c embedding db = (t.store, .ok r))
      (fun e t => remediateAndRecord rt retries env c embedding db = (t.store, .error e)) := by
    rintro t rfl
    unfold callRemediation cockroachPorts
    simp only
    generalize remediateAndRecord rt retries env c embedding t.store = out
    obtain ⟨store, e | r⟩ := out
    case error => rfl
    case ok => exact ⟨r, rfl, rfl⟩
  apply call.bind
  intro returned
  have got : Effect.Meets (fun t => ∃ r, returned = .value r ∧
        remediateAndRecord rt retries env c embedding db = (t.store, .ok r))
      (Effect.lift returned.get : Turn Database RemediationResult)
      (fun r t => remediateAndRecord rt retries env c embedding db = (t.store, .ok r))
      (fun e t => remediateAndRecord rt retries env c embedding db = (t.store, .error e)) := by
    rintro t ⟨r, rfl, answered⟩
    exact answered
  apply got.bind
  intro r
  apply (event_quiet quiet fun _ _ h => h).bind
  intro _
  exact Effect.Meets.pure fun _ h => h

lemma failSafely_quiet {exc} (quiet : ∀ n e, ports.publish n e = none) :
    (failSafely ports signal exc : Turn Database ResponseResult) s =
      (.error exc, s.after [failedEvent signal exc s.transactionStarted]) := by
  have run : (failSafely ports signal exc : Turn Database ResponseResult) s =
      Effect.next (fun _ : Unit => Effect.raise exc) (failureEvent ports signal exc s.transactionStarted s) := rfl
  rw [run]
  unfold failureEvent event
  simp only [quiet]
  rfl

/-- A turn up to the call leaves the tables alone, and what it asks of the store is the command of its decision. -/
lemma openTurn_asks : Effect.Meets (fun t => t.store = db) (openTurn rt ports signal approved approver)
    (fun r t => t.store = db ∧ ∀ c embedding, r.2 = some (c, embedding) →
      r.1.command = some c ∧ Vetted approved c)
    (fun _ t => t.store = db) := by
  intro t h
  have kept : Effect.Meets (fun t => t.store = db) (openTurn rt ports signal approved approver)
      (fun _ t => t.store = db) (fun _ t => t.store = db) := openTurn_keeps fun _ _ _ h => h
  have kept := kept t h
  generalize run : openTurn rt ports signal approved approver t = out at kept
  obtain ⟨e | ⟨decision, asked⟩, u⟩ := out
  case error => exact kept
  case ok =>
    refine ⟨kept, ?_⟩
    rintro c embedding rfl
    obtain ⟨o, opens, rfl, rfl, _⟩ := openTurn_ok.mp run
    exact ⟨rfl, (requireGroundedAction_ok opens.grounded).1, rfl, opens.unpaused⟩

lemma closeTurn_turned {r : AgentDecision × Option (RemediationCommand × Embedding)}
    (quiet : ∀ n e, ports.publish n e = none) :
    Effect.Meets (fun t => t.store = db ∧ ∀ c embedding, r.2 = some (c, embedding) →
      r.1.command = some c ∧ Vetted approved c)
      (closeTurn rt (cockroachPorts rt retries env ports) signal r)
      (fun result t => Turned rt retries env approved db (.ok result) t.store)
      (fun e t => Turned rt retries env approved db (.error e) t.store) := by
  obtain ⟨decision, _ | ⟨c, embedding⟩⟩ := r
  case none =>
    have same : Effect.Meets (fun t => t.store = db) (closeTurn rt (cockroachPorts rt retries env ports) signal
        (decision, none)) (fun result t => Turned rt retries env approved db (.ok result) t.store)
        (fun e t => Turned rt retries env approved db (.error e) t.store) := by
      apply (event_quiet (I := fun t => t.store = db) quiet fun _ _ h => h).bind
      intro _
      apply Effect.Meets.pure
      rintro t rfl
      exact .idle rfl
    exact fun t h => same t h.1
  case some =>
    rintro t ⟨h, asked⟩
    obtain ⟨decided, vetted⟩ := asked c embedding rfl
    have whole : Effect.Meets (fun t => t.store = db) (closeTurn rt (cockroachPorts rt retries env ports) signal
        (decision, some (c, embedding))) (fun result t => Turned rt retries env approved db (.ok result) t.store)
        (fun e t => Turned rt retries env approved db (.error e) t.store) := by
      have execute : Effect.Meets (fun t => t.store = db)
          (executeStage rt (cockroachPorts rt retries env ports) signal c embedding)
          (fun r t => remediateAndRecord rt retries env c embedding db = (t.store, .ok r))
          (fun e t => Turned rt retries env approved db (.error e) t.store) :=
        (executeStage_answers quiet).mono (fun _ h => h) (fun _ _ h => h) (fun _ _ h => .raised vetted h)
      apply execute.bind
      intro r
      apply (event_quiet quiet fun _ _ h => h).bind
      intro _
      apply Effect.Meets.pure
      intro t answered
      exact .acted vetted decided rfl answered
    exact whole t h

/-- How the turn ends. -/
lemma handle_turned (quiet : ∀ n e, ports.publish n e = none) :
    Turned rt retries env approved db
      (ResponderService.handle rt (cockroachPorts rt retries env ports) signal approved approver { store := db }).1
      (ResponderService.handle rt (cockroachPorts rt retries env ports) signal approved approver
        { store := db }).2.store := by
  cases sanitized : sanitizeSignal rt signal with
  | error e =>
    rw [handle_rejected rt _ signal sanitized]
    exact .failed
  | ok signal' =>
    have received := @handleSanitized_received _ rt (cockroachPorts rt retries env ports) signal' approved approver
      { store := db } (quiet _ _)
    rw [handle_accepted rt _ signal sanitized, received]
    have opening : Effect.Meets (fun t => t.store = db)
        (openTurn rt (cockroachPorts rt retries env ports) signal' approved approver)
        (fun r t => t.store = db ∧ ∀ c embedding, r.2 = some (c, embedding) →
          r.1.command = some c ∧ Vetted approved c)
        (fun e t => Turned rt retries env approved db (.error e) t.store) := by
      apply openTurn_asks.mono (fun _ h => h) (fun _ _ h => h)
      rintro e t rfl
      exact .failed
    have handler : ∀ e, Effect.Meets (fun t => Turned rt retries env approved db (.error e) t.store)
        (failSafely (cockroachPorts rt retries env ports) signal' e)
        (fun result t => Turned rt retries env approved db (.ok result) t.store)
        (fun e t => Turned rt retries env approved db (.error e) t.store) := by
      intro e t h
      have safely := @failSafely_quiet (cockroachPorts rt retries env ports) signal' t e quiet
      rw [safely]
      exact h
    -- the handler raises what it was given and does not touch the store
    have closing := opening.bind fun r => @closeTurn_turned rt retries env ports signal' approved db r quiet
    have whole := closing.attempt handler (({ store := db } : TurnState Database).after [receivedEvent signal']) rfl
    generalize Effect.attempt _ _ (({ store := db } : TurnState Database).after [receivedEvent signal']) = out
      at whole ⊢
    obtain ⟨e | result, t⟩ := out
    case error => exact whole
    case ok => exact whole

end turned

/-! ## The endpoints -/

namespace Api

/-- What the endpoints read of `Settings`. -/
structure Settings where
  orgId : Uuid
  agentId : Uuid

/-- `RespondRequest` -/
structure RespondRequest where
  sessionId : Uuid
  serviceId : Uuid
  severity : String
  summary : String
  errorSignature : Option String := none
  serviceTags : List String := []
  metadata : Dict := []
  approved : Bool := false
  approvedBy : Option String := none
  coldStart : Bool := false

/-- The bounds of the fields. -/
def RespondRequest.Valid (body : RespondRequest) : Prop :=
  (1 ≤ body.severity.length ∧ body.severity.length ≤ 20) ∧ (1 ≤ body.summary.length ∧ body.summary.length ≤ 8000) ∧
    (∀ text ∈ body.errorSignature, text.length ≤ 500) ∧ body.serviceTags.length ≤ 50 ∧
    ∀ name ∈ body.approvedBy, name.length ≤ 254

instance {body : RespondRequest} : Decidable body.Valid := inferInstanceAs (Decidable (_ ∧ _ ∧ _ ∧ _ ∧ _))

/-- `OutcomeRequest` -/
structure OutcomeRequest where
  actionId : Uuid
  serviceId : Uuid
  outcome : OutcomeKind
  summary : String
  errorSignature : Option String := none
  observedAt : Option Timestamp := none

/-- The bounds of the fields. -/
def OutcomeRequest.Valid (body : OutcomeRequest) : Prop :=
  (1 ≤ body.summary.length ∧ body.summary.length ≤ 8000) ∧ ∀ text ∈ body.errorSignature, text.length ≤ 500

instance {body : OutcomeRequest} : Decidable body.Valid := inferInstanceAs (Decidable (_ ∧ _))

/-- What a turn meets outside the program: the adapters, the ends of its transactions, and the default of
`observed_at`. -/
structure TurnEnv where
  ports : Ports Database
  store : RemediationEnv
  observedAt : Timestamp

/-- What the record of an outcome meets outside the program: the embedder, the ends of its transactions, the clock and
the default of `observed_at`. -/
structure OutcomeEnv where
  embed : String → Except Raised Embedding
  store : Nat → Fate
  now : Timestamp
  milliseconds : Int → Int
  observedAt : Timestamp

/-- A request, with what it meets. -/
inductive Request where
  | respond (incidentId : Uuid) (env : TurnEnv) (body : RespondRequest)
  | recordOutcome (incidentId : Uuid) (env : OutcomeEnv) (body : OutcomeRequest)

/-- An answer. -/
inductive Response where
  | responded (result : ResponseResult)
  | recorded (result : OutcomeResult)
  /-- The body does not validate. -/
  | unprocessable
  /-- What the handler of the exception makes of it. -/
  | raised (exc : Raised)
  /-- The content could not be encoded: an exception that has no handler. -/
  | unrendered

/-- The answer to what a service returns or raises. -/
def Response.of {α : Type} (returned : α → Response) : Except Raised α → Response
  | .ok result => returned result
  | .error exc => .raised exc

/-- The classes below `PostmortemError`. -/
def isPostmortemError : ErrorClass → Bool
  | .ProvenanceError | .ApprovalRequired | .UnsupportedAction | .RecallError | .ReasoningError
  | .AtomicRemediationError | .OutcomeConflict | .OutcomeRecordingError | .ToolNotAllowed
  | .DestructiveActionBlocked | .PromptInjectionDetected => true
  | .ValueError | .TypeError | .KeyError | .IndexError | .AttributeError | .OverflowError => false
  | .other name =>
    ["PostmortemError", "ConfigurationError", "InputValidationError", "WebhookAuthenticationError",
      "RoleScopeViolation"].contains name

/-- The status of the handler for the nearest class; without one the server answers 500. -/
def statusOf (exc : Raised) : Nat :=
  match exc.cls with
  | .other "WebhookAuthenticationError" => 401
  | .other "InputValidationError" => 400
  | .PromptInjectionDetected => 400
  | .ReasoningError => 502
  | .RecallError => 503
  | .AtomicRemediationError => 503
  | .OutcomeRecordingError => 503
  | cls => if isPostmortemError cls then 409 else 500

/-- The status of an answer. -/
def Response.status : Response → Nat
  | .responded _ => 200
  | .recorded _ => 200
  | .unprocessable => 422
  | .raised exc => statusOf exc
  | .unrendered => 500

/-- `asdict`, `jsonable_encoder` and `JSONResponse.render`: the text of a content, where it has one. -/
structure Renderer where
  result : ResponseResult → Option String
  outcome : OutcomeResult → Option String
  /-- The errors of a body that does not validate. -/
  errors : Request → Option String
  /-- The class and the message of an exception that has a handler. -/
  exception : Raised → Option String

section render

variable (render : Renderer)

/-- The body of an answer. -/
def Renderer.body (r : Request) : Response → Option String
  | .responded result => render.result result
  | .recorded result => render.outcome result
  | .unprocessable => render.errors r
  | .raised exc => if statusOf exc = 500 then some "Internal Server Error" else render.exception exc
  | .unrendered => some "Internal Server Error"

/-- What is sent for an answer. -/
def Renderer.send (r : Request) (response : Response) : Response :=
  if (render.body r response).isSome then response else .unrendered

end render

section serve

variable (cfg : Config) (settings : Settings) (render : Renderer)

/-- The signal of a request. -/
def RespondRequest.signal (incidentId : Uuid) (observedAt : Timestamp) (body : RespondRequest) : IncidentSignal where
  incidentId
  sessionId := body.sessionId
  orgId := settings.orgId
  agentId := settings.agentId
  serviceId := body.serviceId
  severity := body.severity
  summary := body.summary
  errorSignature := body.errorSignature
  serviceTags := body.serviceTags
  observedAt
  metadata := Assoc.set body.metadata "cold_start" (.bool body.coldStart)

/-- The adapters `build_runtime` gives the responder. -/
def TurnEnv.runtime (env : TurnEnv) : Ports Database :=
  provenanceGuarded (cockroachPorts cfg.rt cfg.retries env.store { env.ports with publish := fun _ _ => none })

/-- `respond` -/
def respond (incidentId : Uuid) (env : TurnEnv) (body : RespondRequest) (db : Database) : Response × Database :=
  let send := render.send (.respond incidentId env body)
  if body.Valid then
    match ResponderService.handle cfg.rt (env.runtime cfg) (body.signal settings incidentId env.observedAt)
        body.approved body.approvedBy { store := db } with
    | (out, turn) => (send (.of .responded out), turn.store)
  else (send .unprocessable, db)

/-- The command of a request. -/
def OutcomeRequest.command (incidentId : Uuid) (observedAt : Timestamp) (body : OutcomeRequest) : OutcomeCommand where
  orgId := settings.orgId
  agentId := settings.agentId
  incidentId
  serviceId := body.serviceId
  actionId := body.actionId
  outcome := body.outcome
  summary := body.summary
  errorSignature := body.errorSignature
  observedAt := body.observedAt.getD observedAt

/-- The adapters `build_runtime` gives the outcome service. -/
def OutcomeEnv.runtime (env : OutcomeEnv) : OutcomePorts Database where
  embed := env.embed
  recordOutcome c embedding db :=
    match Postmortem.recordOutcome cfg.rt cfg.outcomeRetries env.store c embedding db with
    | (db', out) => (db', out.map .value)
  publish _ := none
  now := env.now
  milliseconds := env.milliseconds

/-- `record_outcome` -/
def recordOutcome (incidentId : Uuid) (env : OutcomeEnv) (body : OutcomeRequest) (db : Database) :
    Response × Database :=
  let send := render.send (.recordOutcome incidentId env body)
  if body.Valid then
    match OutcomeService.record (env.runtime cfg) (body.command settings incidentId env.observedAt) { store := db } with
    | (out, s) => (send (.of .recorded out), s.store)
  else (send .unprocessable, db)

/-- The endpoint of a request. -/
def serve (db : Database) : Request → Response × Database
  | .respond incidentId env body => respond cfg settings render incidentId env body db
  | .recordOutcome incidentId env body => recordOutcome cfg settings render incidentId env body db

end serve

/-! ## What an answer says of the tables -/

/-- The action on record under the key of the command is the one that the result names. -/
def OnRecord (c : RemediationCommand) (r : RemediationResult) (db : Database) : Prop :=
  ∃ a ∈ db.remediationActions, a.orgId = c.orgId ∧ a.idempotencyKey = c.effectiveIdempotencyKey ∧
    a.actionId = r.actionId ∧ a.memoryRef = some r.eventId

/-- The outcome on record for the action of the command is the command's own, and the result names its event. -/
def OutcomeOnRecord (rt : Runtime) (c : OutcomeCommand) (embedding : Embedding) (result : OutcomeResult)
    (db : Database) : Prop :=
  ∃ e, existingOutcome rt (outcomeParams rt c embedding) db = some e ∧ e.eventId = result.eventId ∧
    jsonField rt e.metadata "outcome" = some c.outcome.value

/-- What the answer to a request says of the database before and after it. -/
inductive Tells (cfg : Config) (settings : Settings) (render : Renderer) (db : Database) :
    Request → Response → Database → Prop where
  /-- No action was taken. -/
  | idle {incidentId env body} {result : ResponseResult} : result.remediation = none →
    Tells cfg settings render db (.respond incidentId env body) (.responded result) db
  /-- The command was carried out once, and the result names its rows. -/
  | acted {incidentId env} {body : RespondRequest} {result : ResponseResult} {c embedding g db'} :
    Vetted body.approved c → result.decision.command = some c →
    Remediated (remediationParams cfg.rt c embedding) g db db' →
    result.remediation = some (remediationRow g).result →
    Tells cfg settings render db (.respond incidentId env body) (.responded result) db'
  /-- The command had been carried out before. -/
  | acting {incidentId env} {body : RespondRequest} {result : ResponseResult} {c r} :
    Vetted body.approved c → result.decision.command = some c → result.remediation = some r → OnRecord c r db →
    Tells cfg settings render db (.respond incidentId env body) (.responded result) db
  /-- The outcome was recorded. -/
  | recorded {incidentId} {env : OutcomeEnv} {body : OutcomeRequest} {result : OutcomeResult} {embedding g a i db'} :
    result.idempotentReplay = false → result.eventId = g.eventId →
    OutcomeRecorded cfg.rt (outcomeParams cfg.rt (body.command settings incidentId env.observedAt) embedding) g db a i
      db' →
    Tells cfg settings render db (.recordOutcome incidentId env body) (.recorded result) db'
  /-- The same outcome had been recorded before. -/
  | recordedBefore {incidentId} {env : OutcomeEnv} {body : OutcomeRequest} {result : OutcomeResult} {embedding} :
    result.idempotentReplay = true →
    OutcomeOnRecord cfg.rt (body.command settings incidentId env.observedAt) embedding result db →
    Tells cfg settings render db (.recordOutcome incidentId env body) (.recorded result) db
  /-- Nothing was written. -/
  | refused {r} {response : Response} : response.status ≠ 200 → Tells cfg settings render db r response db
  /-- The command was carried out once, and the acknowledgement was lost. -/
  | unheard {incidentId env} {body : RespondRequest} {exc c embedding g db'} : statusOf exc = 503 →
    Vetted body.approved c → Remediated (remediationParams cfg.rt c embedding) g db db' →
    Tells cfg settings render db (.respond incidentId env body) (.raised exc) db'
  /-- The outcome was recorded, and the acknowledgement was lost. -/
  | outcomeUnheard {incidentId} {env : OutcomeEnv} {body : OutcomeRequest} {exc embedding g a i db'} :
    statusOf exc = 503 →
    OutcomeRecorded cfg.rt (outcomeParams cfg.rt (body.command settings incidentId env.observedAt) embedding) g db a i
      db' →
    Tells cfg settings render db (.recordOutcome incidentId env body) (.raised exc) db'
  /-- The answer would have told, but could not be encoded. -/
  | unrendered {r response db'} : render.body r response = none → Tells cfg settings render db r response db' →
    Tells cfg settings render db r .unrendered db'

section tells

variable {cfg : Config} {settings : Settings} {render : Renderer} {db db' : Database}

lemma statusOf_ne {exc : Raised} : statusOf exc ≠ 200 := by
  unfold statusOf
  split
  case h_8 =>
    split
    · decide
    · decide
  all_goals decide

lemma raised_tells {r : Request} {exc : Raised} : Tells cfg settings render db r (.raised exc) db :=
  .refused statusOf_ne

/-- What is sent tells what the answer tells. -/
lemma send_tells {r : Request} {response : Response} (tells : Tells cfg settings render db r response db') :
    Tells cfg settings render db r (render.send r response) db' := by
  unfold Renderer.send
  cases body : render.body r response with
  | none => exact .unrendered body tells
  | some text => exact tells

lemma unprocessable_tells {r : Request} : Tells cfg settings render db r .unprocessable db := by
  apply Tells.refused
  decide

/-- A replayed result is on record. -/
lemma replay_onRecord {rt : Runtime} {c embedding lookup r}
    (found : replay rt (remediationParams rt c embedding) lookup db = .ok (some r)) : OnRecord c r db := by
  unfold replay at found
  split at found
  case isFalse => cases found
  case isTrue =>
    split at found
    case h_1 => cases found
    case h_2 => cases found
    case h_3 row looked =>
      split at found
      case h_1 => cases found
      case h_2 eventId ref =>
        cases found
        unfold replayLookupSql at looked
        split at looked
        case h_1 => cases looked
        case h_2 a keyed =>
          split at looked
          case h_1 => cases looked
          case h_2 =>
            cases looked
            obtain ⟨mem, org, key⟩ := actionOfKey_spec keyed
            exact ⟨a, mem, org, key, rfl, ref⟩

lemma lost_status {lost : LostAck} : statusOf (rolledBack lost.raised) = 503 := by
  cases lost <;> decide

lemma outcomeLost_status {lost : LostAck} : statusOf (outcomeRolledBack lost.raised) = 503 := by
  cases lost <;> decide

/-- What the answer of the store says of the tables. -/
lemma turned_tells {incidentId env body out}
    (turned : Turned cfg.rt cfg.retries env.store body.approved db out db') :
    Tells cfg settings render db (.respond incidentId env body) (.of .responded out) db' := by
  cases turned with
  | idle none => exact .idle none
  | failed => exact raised_tells
  | @acted result c embedding r _ vetted decided answered call =>
    cases valid : validate c embedding with
    | error e =>
      simp only [remediateAndRecord, valid] at call
      cases call
    | ok =>
      have ended := @remediateAndRecord_ended cfg.rt cfg.retries env.store c embedding db valid
      rw [call] at ended
      cases ended with
      | committed _ _ _ wrote => exact .acted vetted decided wrote answered
      | replayed found => exact .acting vetted decided answered (replay_onRecord found)
  | @raised c embedding e _ vetted call =>
    cases valid : validate c embedding with
    | error e =>
      simp only [remediateAndRecord, valid] at call
      cases call
      exact raised_tells
    | ok =>
      have ended := @remediateAndRecord_ended cfg.rt cfg.retries env.store c embedding db valid
      rw [call] at ended
      -- an error after a commit is a lost acknowledgement, which the store raises as 503
      cases ended with
      | lost _ _ _ wrote => exact .unheard lost_status vetted wrote
      | failed => exact raised_tells

lemma respond_turned {incidentId env body} : body.Valid → ∃ out,
    Turned cfg.rt cfg.retries env.store body.approved db out (respond cfg settings render incidentId env body db).2 ∧
      (respond cfg settings render incidentId env body db).1 =
        render.send (.respond incidentId env body) (.of .responded out) := by
  intro valid
  -- what is proved of the turn without the wrapper holds with it
  have turned := @handle_turned cfg.rt cfg.retries env.store { env.ports with publish := fun _ _ => none }
    (body.signal settings incidentId env.observedAt) body.approved body.approvedBy db fun _ _ => rfl
  rw [← handle_guarded] at turned
  unfold respond TurnEnv.runtime
  rw [if_pos valid]
  generalize ResponderService.handle cfg.rt _ _ _ _ _ = run at turned ⊢
  obtain ⟨out, t⟩ := run
  exact ⟨_, turned, rfl⟩

/-- A call that does not run its statement to a commit raises. -/
lemma recordOutcome_ends {rt : Runtime} {retries env c embedding} :
    (∃ e, Postmortem.recordOutcome rt retries env c embedding db = (db, .error e)) ∨
      ∃ g ack, Postmortem.recordOutcome rt retries env c embedding db =
        outcomeTransact rt c (outcomeParams rt c embedding) g ack db := by
  by_cases dims : embedding.length = 1024
  case neg =>
    left
    exact ⟨_, by rw [Postmortem.recordOutcome, if_pos dims]⟩
  case pos =>
    obtain ⟨n, _, ends, _, _⟩ := @Retry.loop_ends _ _
      (fun n => outcomeExecuteOnce rt c (outcomeParams rt c embedding) (env n)) retried 0 retries db
      outcomeExecuteOnce_idle
    rw [Postmortem.recordOutcome, if_neg (not_not.mpr dims), outcomeRetry_loop, ends]
    cases env (0 + n) with
    | abort state => exact .inl ⟨_, rfl⟩
    | commit g => exact .inr ⟨g, none, rfl⟩
    | commitLost g lost => exact .inr ⟨g, some lost, rfl⟩

lemma recordedText_value {row : OutcomeRow} {kind : OutcomeKind} (same : recordedText row = kind.value) :
    row.recordedOutcome = some kind.value := by
  unfold recordedText at same
  cases recorded : row.recordedOutcome with
  | none =>
    rw [recorded] at same
    cases kind <;> exact absurd same (by decide)
  | some text =>
    rw [recorded] at same
    exact congrArg some same

/-- A replayed row is the event on record. -/
lemma recordOutcomeSql_replayed {rt : Runtime} {p g row}
    (statement : recordOutcomeSql rt p g db = .ok (db', some row)) (replays : row.idempotentReplay = true) :
    ∃ e, existingOutcome rt p db = some e ∧ e.eventId = row.eventId ∧
      jsonField rt e.metadata "outcome" = row.recordedOutcome := by
  unfold recordOutcomeSql at statement
  split at statement
  case h_1 => cases statement
  case h_2 a i target =>
    split at statement
    case h_1 e found =>
      cases statement
      exact ⟨e, found, rfl, rfl⟩
    case h_2 =>
      split at statement
      case isTrue => cases statement
      case isFalse =>
        split at statement
        case isTrue => cases statement
        case isFalse =>
          cases statement
          cases replays

/-- What the transaction of an outcome says of the tables. -/
lemma outcomeTransact_tells {incidentId env body c embedding g ack}
    (asked : OutcomeRequest.command settings incidentId env.observedAt body = c) :
    Tells cfg settings render db (.recordOutcome incidentId env body)
      (.of .recorded (outcomeTransact cfg.rt c (outcomeParams cfg.rt c embedding) g ack db).2)
      (outcomeTransact cfg.rt c (outcomeParams cfg.rt c embedding) g ack db).1 := by
  cases statement : recordOutcomeSql cfg.rt (outcomeParams cfg.rt c embedding) g db with
  | error state =>
    simp only [outcomeTransact, statement]
    exact raised_tells
  | ok answer =>
    obtain ⟨written, _ | row⟩ := answer
    case none =>
      simp only [outcomeTransact, statement]
      exact raised_tells
    case some =>
      by_cases same : recordedText row = c.outcome.value
      case neg =>
        simp only [outcomeTransact, statement, if_pos same]
        exact raised_tells
      case pos =>
        simp only [outcomeTransact, statement, if_neg (not_not.mpr same)]
        rcases recordOutcomeSql_spec statement with ⟨rfl, replays⟩ | ⟨a, i, wrote, r, answer, event, first⟩
        · cases ack with
          | none =>
            -- past the check for a conflict, the outcome on record is the command's own
            have replayed := replays row rfl
            obtain ⟨e, found, named, kind⟩ := recordOutcomeSql_replayed statement replayed
            subst asked
            exact .recordedBefore replayed ⟨e, found, named, kind.trans (recordedText_value same)⟩
          | some lost => exact raised_tells
        · cases answer
          subst asked
          cases ack with
          | none => exact .recorded first event wrote
          | some lost => exact .outcomeUnheard outcomeLost_status wrote

end tells

/-! ## Requests and other writers -/

/-- What happens to the database: a request is served, or another writer writes. A request is one step: it touches the
tables in one transaction only, and what it recalls before is given by its `TurnEnv`. -/
inductive Traffic where
  | request (r : Request)
  | write (w : Write)

/-- The database after it. -/
def Traffic.step (cfg : Config) (settings : Settings) (render : Renderer) (db : Database) : Traffic → Database
  | .request r => (serve cfg settings render db r).2
  | .write w => writeStep cfg db w

/-- The database moves by one write of the system at most. -/
def Moves (cfg : Config) (db db' : Database) : Prop :=
  ∃ ws : List Write, ws.length ≤ 1 ∧ db' = Run.run (writeStep cfg) db ws

section traffic

variable {cfg : Config} {settings : Settings} {render : Renderer} {db db' : Database}

/-- The tables are as they were, unless the answer is a 200 or a 503 or has a content that does not encode. -/
lemma Tells.unchanged {r : Request} {response : Response} (tells : Tells cfg settings render db r response db')
    (fails : response.status ≠ 200) (heard : response.status ≠ 503) (rendered : response ≠ .unrendered) :
    db' = db := by
  cases tells with
  | idle => rfl
  | acting => rfl
  | recordedBefore => rfl
  | refused => rfl
  | acted => exact absurd rfl fails
  | recorded => exact absurd rfl fails
  | unheard status => exact absurd status heard
  | outcomeUnheard status => exact absurd status heard
  | unrendered => exact absurd rfl rendered

lemma Moves.idle : Moves cfg db db := ⟨[], Nat.zero_le _, rfl⟩

lemma Moves.one {w : Write} : Moves cfg db (writeStep cfg db w) := ⟨[w], le_refl _, rfl⟩

lemma turned_moves {env approved out} (turned : Turned cfg.rt cfg.retries env approved db out db') :
    Moves cfg db db' := by
  have called : ∀ {c embedding r}, remediateAndRecord cfg.rt cfg.retries env c embedding db = (db', r) →
      Moves cfg db db' := by
    intro c embedding r call
    have moved : step cfg db (.remediate env c embedding) = db' := congrArg Prod.fst call
    rw [← moved]
    exact @Moves.one cfg db (.op (.remediate env c embedding))
  cases turned with
  | idle => exact .idle
  | failed => exact .idle
  | acted _ _ _ call => exact called call
  | raised _ call => exact called call

/-- The outcome service answers what the store answers. -/
lemma record_eq {env : OutcomeEnv} {command : OutcomeCommand} :
    (∃ e, OutcomeService.record (env.runtime cfg) command { store := db } = (.error e, { store := db })) ∨
      ∃ embedding published, OutcomeService.record (env.runtime cfg) command { store := db } =
        ((Postmortem.recordOutcome cfg.rt cfg.outcomeRetries env.store command embedding db).2,
          { store := (Postmortem.recordOutcome cfg.rt cfg.outcomeRetries env.store command embedding db).1
            published }) := by
  cases embedded : env.embed command.memoryText with
  | error e =>
    left
    refine ⟨e, ?_⟩
    simp [OutcomeService.record, Effect.bind_apply, Effect.lift, Effect.next, OutcomeEnv.runtime, embedded]
  | ok embedding =>
    right
    refine ⟨embedding, ?_⟩
    -- what follows the call of the store adds to the published events only, since the sink does not raise
    simp only [OutcomeService.record, Effect.bind_apply, Effect.lift, OutcomeEnv.runtime, embedded, Effect.next,
      OutcomeService.callRecord]
    generalize Postmortem.recordOutcome cfg.rt cfg.outcomeRetries env.store command embedding db = answer
    obtain ⟨store, e | result⟩ := answer
    case error => exact ⟨[], rfl⟩
    case ok =>
      simp only [Except.map, Returned.get]
      split
      case isTrue => exact ⟨_, rfl⟩
      case isFalse => exact ⟨[], rfl⟩

lemma recordOutcome_tells {incidentId env body} :
    Tells cfg settings render db (.recordOutcome incidentId env body)
        (recordOutcome cfg settings render incidentId env body db).1
        (recordOutcome cfg settings render incidentId env body db).2 ∧
      Moves cfg db (recordOutcome cfg settings render incidentId env body db).2 := by
  unfold recordOutcome
  split
  case isFalse => exact ⟨send_tells unprocessable_tells, .idle⟩
  case isTrue =>
    rcases @record_eq cfg db env (body.command settings incidentId env.observedAt) with
      ⟨e, run⟩ | ⟨embedding, published, run⟩
    · rw [run]
      exact ⟨send_tells raised_tells, .idle⟩
    · have moved : Moves cfg db (Postmortem.recordOutcome cfg.rt cfg.outcomeRetries env.store
          (body.command settings incidentId env.observedAt) embedding db).1 :=
        @Moves.one cfg db (.op (.recordOutcome env.store (body.command settings incidentId env.observedAt) embedding))
      rw [run]
      refine ⟨send_tells ?_, moved⟩
      have ends := @recordOutcome_ends db cfg.rt cfg.outcomeRetries env.store
        (body.command settings incidentId env.observedAt) embedding
      rcases ends with ⟨e, ends⟩ | ⟨g, ack, ends⟩
      · rw [ends]
        exact raised_tells
      · rw [ends]
        exact outcomeTransact_tells rfl

lemma respond_tells {incidentId env body} :
    Tells cfg settings render db (.respond incidentId env body) (respond cfg settings render incidentId env body db).1
        (respond cfg settings render incidentId env body db).2 ∧
      Moves cfg db (respond cfg settings render incidentId env body db).2 := by
  by_cases valid : body.Valid
  case pos =>
    obtain ⟨out, turned, answer⟩ := @respond_turned cfg settings render db incidentId env body valid
    rw [answer]
    exact ⟨send_tells (turned_tells turned), turned_moves turned⟩
  case neg =>
    unfold respond
    rw [if_neg valid]
    exact ⟨send_tells unprocessable_tells, .idle⟩

lemma serve_tells {r : Request} :
    Tells cfg settings render db r (serve cfg settings render db r).1 (serve cfg settings render db r).2 ∧
      Moves cfg db (serve cfg settings render db r).2 := by
  cases r with
  | respond incidentId env body => exact @respond_tells cfg settings render db incidentId env body
  | recordOutcome incidentId env body => exact @recordOutcome_tells cfg settings render db incidentId env body

lemma Traffic.step_moves {t : Traffic} : Moves cfg db (t.step cfg settings render db) := by
  cases t with
  | request r => exact serve_tells.2
  | write w => exact .one

/-- A run in which each step moves by one write at most is a run of the system. -/
lemma run_moves {traffic : List Traffic} : ∃ ws : List Write, ws.length ≤ traffic.length ∧
    Run.run (Traffic.step cfg settings render) db traffic = Run.run (writeStep cfg) db ws := by
  induction traffic generalizing db with
  | nil => exact ⟨[], le_refl _, rfl⟩
  | cons t traffic ih =>
    obtain ⟨first, one, moved⟩ := @Traffic.step_moves cfg settings render db t
    obtain ⟨rest, fits, ran⟩ := @ih (t.step cfg settings render db)
    refine ⟨first ++ rest, ?_, ?_⟩
    · rw [List.length_append, List.length_cons]
      omega
    · rw [Run.run_cons, ran, Run.run_append, moved]

end traffic

/-- Whatever requests were served and whatever other writers did in between, the tables are those of a run of the
system with at most one write a step, and the answer to the next request tells what becomes of them: a status other
than 200, 500 and 503 says that nothing was written, 503 that nothing was or that all of one vetted command or of the
outcome was, 500 the same where the content of the answer could not be encoded and nothing otherwise, and a 200 which
rows are there. -/
theorem answers_tell (cfg : Config) (settings : Settings) (render : Renderer) (db : Database) (traffic : List Traffic)
    (r : Request) :
    let here := Run.run (Traffic.step cfg settings render) db traffic
    let answer := serve cfg settings render here r
    (∃ ws : List Write, ws.length ≤ traffic.length ∧ here = Run.run (writeStep cfg) db ws) ∧
    Tells cfg settings render here r answer.1 answer.2 ∧
    (answer.1.status ≠ 200 → answer.1.status ≠ 503 → answer.1 ≠ .unrendered → answer.2 = here) := by
  intro here answer
  have tells := (@serve_tells cfg settings render here r).1
  exact ⟨run_moves, tells, tells.unchanged⟩

end Api

end Postmortem
