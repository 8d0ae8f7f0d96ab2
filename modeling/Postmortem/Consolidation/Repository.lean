import Postmortem.Consolidation.Contracts

/-!
# Runbook repositories

`consolidation/postmortem_consolidation/repository.py`. `InMemoryRunbookRepository` remembers the key
of every group it applied; `CockroachRunbookRepository.apply` infers a replay from the provenance rows
of the incident. `Applied` lists what one call of the latter can do, one constructor for each branch,
and `apply_spec` is its inversion: later modules argue by cases on it.
-/

namespace Postmortem

/-- `reinforcements_to_activate`; the constructors of both repositories refuse less than 1. -/
structure Activation where
  reinforcements : Nat := 2
  positive : 1 ≤ reinforcements := by first | exact Nat.two_pos | decide

/-- The operation a mutation reports. -/
inductive Operation where
  | create | reinforce | weaken | ignoredCounterexample | noop
deriving DecidableEq

/-- `RunbookMutation`; the status is `absent` where there is no runbook. -/
structure RunbookMutation where
  operation : Operation
  runbookId : String
  version : Nat
  successCount : Nat
  failureCount : Nat
  status : String
  idempotentReplay : Bool := false
deriving DecidableEq

/-- The mutation for a counterexample with nothing to weaken. -/
def ignoredCounterexample : RunbookMutation where
  operation := .ignoredCounterexample
  runbookId := ""
  version := 0
  successCount := 0
  failureCount := 0
  status := "absent"

/-- The `ValueError` for an embedding of another dimension. -/
def embeddingError : Raised :=
  ⟨.ValueError, "candidate runbook must have a VECTOR(1024) embedding", none, none⟩

/-! ## In memory -/

/-- `_LocalRunbook` -/
structure LocalRunbook where
  runbookId : String
  version : Nat
  stepsHash : String
  successCount : Nat
  failureCount : Nat
  status : RunbookStatus
  embedding : Embedding
deriving DecidableEq

/-- `(org_id, agent_id, name)` -/
abbrev RunbookKey := String × String × String

/-- The key of a candidate. -/
def CandidateRunbook.key (c : CandidateRunbook) : RunbookKey := (c.orgId, c.agentId, c.name)

/-- `InMemoryRunbookRepository`; the versions of a key are in the order they were appended. -/
structure InMemoryRunbookRepository where
  runbooks : List (RunbookKey × List LocalRunbook) := []
  processed : List (String × RunbookMutation) := []

namespace InMemoryRunbookRepository

/-- The mutation that reports a version. -/
def mutation (operation : Operation) (r : LocalRunbook) : RunbookMutation where
  operation := operation
  runbookId := r.runbookId
  version := r.version
  successCount := r.successCount
  failureCount := r.failureCount
  status := r.status.text

/-- The branch for a counterexample. -/
def weakened (r : LocalRunbook) : LocalRunbook :=
  { r with
    failureCount := r.failureCount + 1
    status := if r.failureCount + 1 ≥ r.successCount then .deprecated else r.status }

/-- The branch for a success with the incumbent's steps. -/
def reinforced (activation : Activation) (r : LocalRunbook) : LocalRunbook :=
  { r with
    successCount := r.successCount + 1
    status :=
      if r.status = .draft ∧ r.successCount + 1 ≥ activation.reinforcements + 1 then .active
      else r.status }

/-- The branch for a success with new steps; `runbooks` already has the key. -/
def created (rt : Runtime) (c : CandidateRunbook) (runbooks : Nat) (versions : List LocalRunbook) :
    LocalRunbook where
  runbookId := "rb-" ++ toString runbooks ++ "-" ++ toString (versions.length + 1)
  version := match versions.getLast? with
    | some r => r.version + 1
    | none => 1
  stepsHash := c.stepsHash rt
  successCount := 1
  failureCount := 0
  status := .draft
  embedding := c.embedding

/-- The branches of `apply`: the versions of the key afterwards, and the mutation. -/
def branch (rt : Runtime) (activation : Activation) (c : CandidateRunbook) (runbooks : Nat)
    (versions : List LocalRunbook) : Except Raised (List LocalRunbook × RunbookMutation) :=
  match versions.getLast? with
  | none =>
    if c.outcome ≠ .success then .ok (versions, Postmortem.ignoredCounterexample)
    else if c.embedding.length ≠ 1024 then .error embeddingError
    else
      let r := created rt c runbooks versions
      .ok (versions ++ [r], mutation .create r)
  | some latest =>
    if c.outcome ≠ .success then
      let r := weakened latest
      .ok (versions.dropLast ++ [r], mutation .weaken r)
    else if latest.stepsHash ≠ c.stepsHash rt then
      if c.embedding.length ≠ 1024 then .error embeddingError
      else
        let r := created rt c runbooks versions
        .ok (versions ++ [r], mutation .create r)
    else
      let r := reinforced activation latest
      .ok (versions.dropLast ++ [r], mutation .reinforce r)

/-- The versions of a key. -/
def versions (s : InMemoryRunbookRepository) (key : RunbookKey) : List LocalRunbook :=
  (Assoc.get s.runbooks key).getD []

/-- `InMemoryRunbookRepository.apply`. An exception leaves the key `setdefault` entered. -/
def apply (rt : Runtime) (activation : Activation) (s : InMemoryRunbookRepository)
    (c : CandidateRunbook) (idempotencyKey : String) :
    InMemoryRunbookRepository × Except Raised RunbookMutation :=
  match Assoc.get s.processed idempotencyKey with
  | some previous => (s, .ok { previous with operation := .noop, idempotentReplay := true })
  | none =>
    let runbooks := Assoc.set s.runbooks c.key (s.versions c.key)
    match branch rt activation c runbooks.length (s.versions c.key) with
    | .error e => ({ s with runbooks }, .error e)
    | .ok (versions, m) =>
      ({ runbooks := Assoc.set runbooks c.key versions
         processed := Assoc.set s.processed idempotencyKey m }, .ok m)

/-- Reading the versions once a key is written. -/
lemma versions_set {runbooks : List (RunbookKey × List LocalRunbook)} {versions processed k k'} :
    (InMemoryRunbookRepository.mk (Assoc.set runbooks k versions) processed).versions k' =
      if k' = k then versions else (InMemoryRunbookRepository.mk runbooks processed).versions k' := by
  split
  case isTrue e => rw [e, InMemoryRunbookRepository.versions, Assoc.get_set_self]; rfl
  case isFalse ne =>
    simp only [InMemoryRunbookRepository.versions, Assoc.get_set_ne (Ne.symm ne)]

/-- Entering the key of a candidate without versions changes no version. -/
lemma versions_setdefault {s : InMemoryRunbookRepository} {c : CandidateRunbook} {processed k} :
    (InMemoryRunbookRepository.mk (Assoc.set s.runbooks c.key (s.versions c.key)) processed).versions k =
      s.versions k := by
  rw [versions_set]
  split
  case isTrue e => rw [e]
  case isFalse => rfl

end InMemoryRunbookRepository

/-! ## In the database -/

/-- The values CockroachDB generates while it executes the statements of a call. -/
structure GeneratedRunbook where
  now : Timestamp
  runbookId : Uuid
deriving DecidableEq

namespace CockroachRunbookRepository

/-- The candidate's identifiers, cast by the columns they are compared with. -/
structure Ids where
  org : Uuid
  agent : Uuid
  incident : Uuid
deriving DecidableEq

/-- The cast of the identifiers. -/
def ids? (c : CandidateRunbook) : Option Ids :=
  match Uuid.ofText? c.orgId, Uuid.ofText? c.agentId, Uuid.ofText? c.incidentId with
  | some org, some agent, some incident => some ⟨org, agent, incident⟩
  | _, _, _ => none

/-- The runbook is a version of the name. -/
def IsVersion (i : Ids) (name : String) (r : Runbook) : Prop :=
  r.orgId = i.org ∧ r.agentId = i.agent ∧ r.name = name

instance (i : Ids) (name : String) (r : Runbook) : Decidable (IsVersion i name r) :=
  inferInstanceAs (Decidable (_ ∧ _ ∧ _))

/-- The versions of the name. -/
def versionsOf (i : Ids) (name : String) (db : Database) : List Runbook :=
  db.proceduralMemory.filter fun r => IsVersion i name r

/-- The incident has a provenance row at the runbook. -/
def Cited (i : Ids) (db : Database) (r : Runbook) : Prop :=
  ∃ p ∈ db.runbookProvenance, p.runbookId = r.runbookId ∧ p.incidentId = i.incident

instance (i : Ids) (db : Database) (r : Runbook) : Decidable (Cited i db r) :=
  inferInstanceAs (Decidable (∃ p ∈ db.runbookProvenance, _))

/-- The replay check. -/
def replayed? (i : Ids) (name : String) (db : Database) : Option Runbook :=
  (versionsOf i name db).find? fun r => Cited i db r

/-- `ORDER BY version DESC LIMIT 1` over the versions of the name. -/
def latest? (i : Ids) (name : String) (db : Database) : Option Runbook :=
  Table.first (fun r s => s.version ≤ r.version) (versionsOf i name db)

/-- The mutation that reports a row. -/
def mutation (operation : Operation) (r : Runbook) : RunbookMutation where
  operation := operation
  runbookId := r.runbookId.text
  version := r.version
  successCount := r.successCount
  failureCount := r.failureCount
  status := r.status.text

/-- The UPDATE for a counterexample. -/
def weakened (now : Timestamp) (r : Runbook) : Runbook :=
  { r with
    usageCount := r.usageCount + 1
    failureCount := r.failureCount + 1
    successRate := (r.successCount : ℚ) / (r.usageCount + 1)
    status := if r.failureCount + 1 ≥ r.successCount then .deprecated else r.status
    lastUsedAt := some now }

/-- The UPDATE for a success with the incumbent's steps. -/
def reinforced (activation : Activation) (now : Timestamp) (r : Runbook) : Runbook :=
  { r with
    usageCount := r.usageCount + 1
    successCount := r.successCount + 1
    successRate := ((r.successCount : ℚ) + 1) / (r.usageCount + 1)
    status :=
      if r.status = .draft ∧ r.successCount + 1 ≥ activation.reinforcements + 1 then .active
      else r.status
    lastUsedAt := some now }

/-- The UPDATE of the prior version where a new one is created. -/
def superseded (r : Runbook) : Runbook := { r with status := .deprecated }

/-- The INSERT for a success with new steps. -/
def created (rt : Runtime) (c : CandidateRunbook) (i : Ids) (version : Nat) (g : GeneratedRunbook) :
    Runbook where
  runbookId := g.runbookId
  orgId := i.org
  agentId := i.agent
  name := c.name
  version := version
  status := .draft
  triggerDesc := c.triggerDesc
  embedding := some (vectorLiteral rt 12 c.embedding)
  applicableServiceTags := c.serviceTags
  applicableErrorSignatures := c.errorSignatures
  preconditions := .arr c.preconditions
  steps := .arr c.steps
  postconditions := .arr c.postconditions
  usageCount := 1
  successCount := 1
  failureCount := 0
  successRate := 1
  lastUsedAt := none
  createdBy := "consolidation_job"
  createdAt := g.now

/-- `UPDATE procedural_memory … WHERE runbook_id = …` -/
def updateRunbook (id : Uuid) (f : Runbook → Runbook) : List Runbook → List Runbook :=
  Table.update (fun r => r.runbookId = id) f

/-- The stored steps, decoded where the column gave a text. -/
def existingSteps (rt : Runtime) (r : Runbook) : Except Raised Json :=
  match r.steps with
  | .str s =>
    match rt.jsonLoads s with
    | some v => .ok v
    | none => .error ⟨.other "JSONDecodeError", "", none, none⟩
  | v => .ok v

/-- The INSERT into `runbook_provenance`, with its foreign keys and primary key. -/
def recordProvenance (c : CandidateRunbook) (i : Ids) (g : GeneratedRunbook) (runbookId : Uuid)
    (role : Role) (db : Database) : Except Raised Database :=
  match c.sourceEventIds.getLast? with
  | none => .error ⟨.IndexError, "tuple index out of range", none, none⟩
  | some text =>
    match Uuid.ofText? text with
    | none => .error (.database .invalidTextRepresentation)
    | some event =>
      if ¬ ∃ n ∈ db.incidents, n.incidentId = i.incident then
        .error (.database .foreignKeyViolation)
      else if ¬ ∃ e ∈ db.episodicEvents, e.eventId = event then
        .error (.database .foreignKeyViolation)
      else if ∃ p ∈ db.runbookProvenance,
          (p.runbookId, p.incidentId, p.recordedAt) = (runbookId, i.incident, g.now) then
        .error (.database .uniqueViolation)
      else
        .ok { db with
          runbookProvenance := db.runbookProvenance ++ [{
            runbookId := runbookId
            incidentId := i.incident
            episodicEventId := some event
            role := role
            recordedAt := g.now }] }

/-- The writes of a branch that goes on to the provenance row. -/
def finish (c : CandidateRunbook) (i : Ids) (g : GeneratedRunbook) (role : Role) (m : RunbookMutation)
    (runbookId : Uuid) (proceduralMemory : List Runbook) (db : Database) :
    Except Raised (Database × RunbookMutation) :=
  match recordProvenance c i g runbookId role { db with proceduralMemory } with
  | .error e => .error e
  | .ok db' => .ok (db', m)

/-- The rows of `procedural_memory` where the newest version `prior`, if any, is superseded. -/
def supersede : Option Runbook → List Runbook → List Runbook
  | some r, rows => updateRunbook r.runbookId superseded rows
  | none, rows => rows

/-- The version number after `prior`. -/
def nextVersion : Option Runbook → Nat
  | some r => r.version + 1
  | none => 1

/-- The INSERT of a new version over `prior`, after `_vector_literal` and the deprecation of the
newest version. -/
def create (rt : Runtime) (c : CandidateRunbook) (i : Ids) (g : GeneratedRunbook)
    (prior : Option Runbook) (db : Database) : Except Raised (Database × RunbookMutation) :=
  if c.embedding.length ≠ 1024 then .error embeddingError
  else if ¬ (Json.storableList (c.steps ++ c.preconditions ++ c.postconditions)) then
    .error (.database .invalidTextRepresentation)
  else if i.org ∉ db.organizations then .error (.database .foreignKeyViolation)
  else if ∃ r ∈ db.proceduralMemory, r.runbookId = g.runbookId then
    .error (.database .uniqueViolation)
  else
    let r := created rt c i (nextVersion prior) g
    finish c i g .source (mutation .create r) r.runbookId
      (supersede prior db.proceduralMemory ++ [r]) db

/-- The branches after the replay check. -/
def branch (rt : Runtime) (activation : Activation) (c : CandidateRunbook) (i : Ids)
    (g : GeneratedRunbook) (db : Database) : Except Raised (Database × RunbookMutation) :=
  match latest? i c.name db with
  | none =>
    if c.outcome ≠ .success then .ok (db, ignoredCounterexample)
    else create rt c i g none db
  | some latest =>
    match existingSteps rt latest with
    | .error e => .error e
    | .ok steps =>
      if c.outcome ≠ .success then
        finish c i g .counterexample (mutation .weaken (weakened g.now latest)) latest.runbookId
          (updateRunbook latest.runbookId (weakened g.now) db.proceduralMemory) db
      else if ¬ Json.pyEq steps (.arr c.steps) then create rt c i g (some latest) db
      else
        finish c i g .reinforcement (mutation .reinforce (reinforced activation g.now latest))
          latest.runbookId
          (updateRunbook latest.runbookId (reinforced activation g.now) db.proceduralMemory) db

/-- `CockroachRunbookRepository.apply`. The transaction either commits all of its statements or, on an
exception, none; the idempotency key is not read. -/
def apply (rt : Runtime) (activation : Activation) (c : CandidateRunbook) (g : GeneratedRunbook)
    (db : Database) : Except Raised (Database × RunbookMutation) :=
  match ids? c with
  | none => .error (.database .invalidTextRepresentation)
  | some i =>
    match replayed? i c.name db with
    | some r => .ok (db, { mutation .noop r with idempotentReplay := true })
    | none => branch rt activation c i g db

/-- The provenance row of a call. -/
def provenanceRow (i : Ids) (g : GeneratedRunbook) (runbookId event : Uuid) (role : Role) :
    RunbookProvenance where
  runbookId := runbookId
  incidentId := i.incident
  episodicEventId := some event
  role := role
  recordedAt := g.now

/-- The state once a branch has written the runbooks and the provenance row. -/
def written (i : Ids) (g : GeneratedRunbook) (runbookId event : Uuid) (role : Role)
    (proceduralMemory : List Runbook) (db : Database) : Database :=
  { db with
    proceduralMemory
    runbookProvenance := db.runbookProvenance ++ [provenanceRow i g runbookId event role] }

/-- The constraints the provenance row of a call meets. -/
structure SourceEvent (c : CandidateRunbook) (i : Ids) (g : GeneratedRunbook) (runbookId event : Uuid)
    (db : Database) : Prop where
  last : c.sourceEventIds.getLast? = some event.text
  incident : ∃ n ∈ db.incidents, n.incidentId = i.incident
  episode : ∃ e ∈ db.episodicEvents, e.eventId = event
  unused : ∀ p ∈ db.runbookProvenance,
    (p.runbookId, p.incidentId, p.recordedAt) ≠ (runbookId, i.incident, g.now)

/-- What a call that returns can do, one constructor for each branch. -/
inductive Applied (rt : Runtime) (activation : Activation) (c : CandidateRunbook) (i : Ids)
    (g : GeneratedRunbook) (db : Database) : Database → RunbookMutation → Prop where
  | replay {r} : replayed? i c.name db = some r →
    Applied rt activation c i g db db { mutation .noop r with idempotentReplay := true }
  | ignored : replayed? i c.name db = none → latest? i c.name db = none → c.outcome ≠ .success →
    Applied rt activation c i g db db ignoredCounterexample
  | weaken {r event} : replayed? i c.name db = none → latest? i c.name db = some r →
    c.outcome ≠ .success → SourceEvent c i g r.runbookId event db →
    Applied rt activation c i g db
      (written i g r.runbookId event .counterexample
        (updateRunbook r.runbookId (weakened g.now) db.proceduralMemory) db)
      (mutation .weaken (weakened g.now r))
  | create {prior event} : replayed? i c.name db = none → latest? i c.name db = prior →
    c.outcome = .success → (∀ r, prior = some r → ∃ steps, existingSteps rt r = .ok steps ∧
      Json.pyEq steps (.arr c.steps) = false) →
    c.embedding.length = 1024 → i.org ∈ db.organizations →
    (∀ r ∈ db.proceduralMemory, r.runbookId ≠ g.runbookId) →
    SourceEvent c i g g.runbookId event db →
    Applied rt activation c i g db
      (written i g g.runbookId event .source
        (supersede prior db.proceduralMemory ++ [created rt c i (nextVersion prior) g]) db)
      (mutation .create (created rt c i (nextVersion prior) g))
  | reinforce {r event steps} : replayed? i c.name db = none → latest? i c.name db = some r →
    c.outcome = .success → existingSteps rt r = .ok steps → Json.pyEq steps (.arr c.steps) = true →
    SourceEvent c i g r.runbookId event db →
    Applied rt activation c i g db
      (written i g r.runbookId event .reinforcement
        (updateRunbook r.runbookId (reinforced activation g.now) db.proceduralMemory) db)
      (mutation .reinforce (reinforced activation g.now r))

lemma latest?_mem {i name db r} (h : latest? i name db = some r) :
    r ∈ db.proceduralMemory ∧ IsVersion i name r := by
  have mem := Table.first_mem h
  obtain ⟨hr, is⟩ := List.mem_filter.mp mem
  exact ⟨hr, of_decide_eq_true is⟩

instance : Std.Total fun r s : Runbook => s.version ≤ r.version := ⟨fun _ _ => Nat.le_total _ _⟩

instance : IsTrans Runbook fun r s => s.version ≤ r.version := ⟨fun _ _ _ h h' => h'.trans h⟩

lemma latest?_le {i name db r} (h : latest? i name db = some r) :
    ∀ s ∈ db.proceduralMemory, IsVersion i name s → s.version ≤ r.version := by
  intro s hs is
  apply Table.first_le h
  exact List.mem_filter.mpr ⟨hs, decide_eq_true is⟩

lemma latest?_eq_none {i name db} :
    latest? i name db = none ↔ ∀ r ∈ db.proceduralMemory, ¬ IsVersion i name r := by
  rw [latest?, Table.first_eq_none, versionsOf, List.filter_eq_nil_iff]
  simp

/-- What the provenance insert did when it did not fail. -/
lemma recordProvenance_spec {c i g id role db db'}
    (h : recordProvenance c i g id role db = .ok db') :
    ∃ event, SourceEvent c i g id event db ∧
      db' = written i g id event role db.proceduralMemory db := by
  unfold recordProvenance at h
  split at h
  case h_1 => cases h
  case h_2 text hl =>
    split at h
    case h_1 => cases h
    case h_2 event he =>
      split at h
      case isTrue => cases h
      case isFalse hi =>
        split at h
        case isTrue => cases h
        case isFalse hep =>
          split at h
          case isTrue => cases h
          case isFalse unused =>
            cases h
            obtain rfl := Uuid.text_of_ofText? he
            refine ⟨event, ⟨hl, not_not.mp hi, not_not.mp hep, ?_⟩, rfl⟩
            intro p hp eq
            exact unused ⟨p, hp, eq⟩

/-- What the writes of a branch did when they did not fail. -/
lemma finish_spec {c i g role m id rows db db' m'}
    (h : finish c i g role m id rows db = .ok (db', m')) :
    m' = m ∧ ∃ event, SourceEvent c i g id event db ∧ db' = written i g id event role rows db := by
  unfold finish at h
  split at h
  case h_1 => cases h
  case h_2 db'' e =>
    cases h
    obtain ⟨event, src, rfl⟩ := recordProvenance_spec e
    exact ⟨rfl, event, ⟨src.last, src.incident, src.episode, src.unused⟩, rfl⟩

/-- What the creation of a version did when it did not fail. -/
lemma create_spec {rt c i g prior db db' m} (h : create rt c i g prior db = .ok (db', m)) :
    c.embedding.length = 1024 ∧ i.org ∈ db.organizations ∧
      (∀ r ∈ db.proceduralMemory, r.runbookId ≠ g.runbookId) ∧
      m = mutation .create (created rt c i (nextVersion prior) g) ∧
      ∃ event, SourceEvent c i g g.runbookId event db ∧
        db' = written i g g.runbookId event .source
          (supersede prior db.proceduralMemory ++ [created rt c i (nextVersion prior) g]) db := by
  unfold create at h
  split at h
  case isTrue => cases h
  case isFalse len =>
    split at h
    case isTrue => cases h
    case isFalse =>
      split at h
      case isTrue => cases h
      case isFalse org =>
        split at h
        case isTrue => cases h
        case isFalse fresh =>
          obtain ⟨rfl, event, src, rfl⟩ := finish_spec h
          refine ⟨not_not.mp len, not_not.mp org, ?_, rfl, event, src, rfl⟩
          intro r hr e
          exact fresh ⟨r, hr, e⟩

/-- What a call did when it returned. -/
lemma apply_spec {rt activation c g db db' m}
    (h : apply rt activation c g db = .ok (db', m)) :
    ∃ i, ids? c = some i ∧ Applied rt activation c i g db db' m := by
  unfold apply at h
  split at h
  case h_1 => cases h
  case h_2 i hi =>
    refine ⟨i, hi, ?_⟩
    split at h
    case h_1 r hr => cases h; exact .replay hr
    case h_2 nr =>
      unfold branch at h
      split at h
      case h_1 nl =>
        split at h
        case isTrue ns => cases h; exact .ignored nr nl ns
        case isFalse ns =>
          obtain ⟨len, org, fresh, rfl, event, src, rfl⟩ := create_spec h
          exact .create nr nl (not_not.mp ns) (by rintro r ⟨⟩) len org fresh src
      case h_2 r hl =>
        split at h
        case h_1 => cases h
        case h_2 steps hs =>
          split at h
          case isTrue ns =>
            obtain ⟨rfl, event, src, rfl⟩ := finish_spec h
            exact .weaken nr hl ns src
          case isFalse ns =>
            split at h
            case isTrue ne =>
              obtain ⟨len, org, fresh, rfl, event, src, rfl⟩ := create_spec h
              refine .create nr hl (not_not.mp ns) ?_ len org fresh src
              rintro _ ⟨⟩
              exact ⟨steps, hs, Bool.not_eq_true _ ▸ ne⟩
            case isFalse eq =>
              obtain ⟨rfl, event, src, rfl⟩ := finish_spec h
              exact .reinforce nr hl (not_not.mp ns) hs (not_not.mp eq) src

end CockroachRunbookRepository

end Postmortem
