import Postmortem.Backend.Fakes
import Postmortem.Backend.OutcomeOnce
import Postmortem.Lib.Mirror

/-!
# The fake store against CockroachDB

The fake and the database are given the same commands, and generate the same identifiers. `Corresponds` relates
their states: the dictionaries of the fake mirror the tables of the database (`Mirror.Mirrors`), and an action has an
outcome episode in both or in neither. The fake has none of the gates of the statement on the status of the incident
and of the runbook, accepts a blank version, knows nothing of idempotency keys and writes `resolved_at` anew. Where
none of these matters (`Meets`) the two stay together (`fake_refines`).
-/

namespace Postmortem

/-- The stored text of the health. -/
def Health.text : Health → String
  | healthy => "healthy"
  | degraded => "degraded"
  | down => "down"
  | recovering => "recovering"

namespace FakeStore

open Mirror

/-! ## Corresponding states -/

/-- The service of the fake is the row. -/
structure SameService (f : FakeService) (r : Service) : Prop where
  orgId : f.orgId = r.orgId
  status : f.status = r.health.text
  currentDeployId : f.currentDeployId = r.currentDeployId

/-- The incident of the fake is the row. -/
structure SameIncident (f : FakeIncident) (r : Incident) : Prop where
  orgId : f.orgId = r.orgId
  serviceId : f.serviceId = r.serviceId
  status : f.status = r.status.text
  runbookId : f.runbookId = r.runbookId
  resolvedAt : f.resolvedAt = r.resolvedAt

/-- The action of the fake is the row. -/
structure SameAction (f : FakeAction) (r : RemediationAction) : Prop where
  orgId : f.orgId = r.orgId
  incidentId : f.incidentId = r.incidentId
  targetId : r.targetId = some f.targetId
  outcome : f.outcome = r.outcome.text
  transactionId : f.transactionId = r.transactionId
  idempotencyKey : f.idempotencyKey = r.idempotencyKey

/-- The outcome episode of the fake is the event, for the action. -/
structure SameOutcome (rt : Runtime) (a : RemediationAction) (f : Uuid × FakeEpisode) (e : EpisodicEvent) : Prop where
  names : OutcomeOf rt a e
  eventId : e.eventId = f.1
  outcome : Assoc.get f.2.metadata "outcome" = some (.str a.outcome.text)
  dated : f.2.createdAt ≠ none

/-- The states of the fake and of the database correspond, and no failure is injected into the fake. -/
structure Corresponds (rt : Runtime) (db : Database) (s : FakeStore) : Prop where
  settled : Settled rt db
  works : s.failAt = none
  services : Mirrors SameService s.tables.services Service.serviceId db.services
  incidents : Mirrors SameIncident s.tables.incidents Incident.incidentId db.incidents
  actions : Mirrors SameAction s.tables.remediationActions RemediationAction.actionId db.remediationActions
  homes : ∀ i ∈ db.incidents, ∃ r ∈ db.services, r.orgId = i.orgId ∧ r.serviceId = i.serviceId
  episodes : ∀ f ∈ s.tables.episodes, (∃ e ∈ db.episodicEvents, e.eventId = f.1) ∧
    (f.2.eventType = "outcome" → ∃ a ∈ db.remediationActions, Dict.get f.2.metadata "action_id" = .str a.actionId.text)
  outcomes : ∀ c : OutcomeCommand, ∀ a ∈ db.remediationActions, a.actionId = c.actionId →
    match recordedEpisode c s.tables with
    | none => ∀ e ∈ db.episodicEvents, ¬ OutcomeOf rt a e
    | some f => ∃ e ∈ db.episodicEvents, SameOutcome rt a f e

/-- The two stores. -/
structure Pair where
  db : Database
  fake : FakeStore

/-- The environment in which the statement runs to its commit and generates these values. -/
def committing (g : Generated) : RemediationEnv := ⟨fun _ => .commit g, true⟩

/-- The command, for the database. -/
def Command.op (g : Generated) : Command → Op
  | .remediate c embedding => .remediate (committing g) c embedding
  | .outcome c embedding => .recordOutcome (fun _ => .commit g) c embedding

/-- Both stores after a command. -/
def both (cfg : Config) (t : Pair) (x : Generated × Command) : Pair where
  db := Postmortem.step cfg t.db (x.2.op x.1)
  fake := (call x.1 x.2 t.fake).2

/-- The SQL adapter returns. -/
def SqlAccepts (cfg : Config) (g : Generated) (db : Database) : Command → Prop
  | .remediate c embedding =>
    Returns (Postmortem.remediateAndRecord cfg.rt cfg.retries (committing g) c embedding db).2
  | .outcome c embedding =>
    Returns (Postmortem.recordOutcome cfg.rt cfg.outcomeRetries (fun _ => .commit g) c embedding db).2

/-- The fake treats the command as the database does: it is accepted by both or by neither, and a repeated
idempotency key yields the first action. -/
structure Refines (cfg : Config) (t : Pair) (x : Generated × Command) : Prop where
  accepts : (call x.1 x.2 t.fake).1 = none ↔ SqlAccepts cfg x.1 t.db x.2
  repeated : ∀ c embedding result s', x.2 = .remediate c embedding →
    remediateAndRecord c x.1 embedding t.fake = (.ok result, s') →
    ∀ a ∈ t.db.remediationActions, a.orgId = c.orgId → a.idempotencyKey = c.effectiveIdempotencyKey →
      result.actionId = a.actionId

/-- The gates that the fake lacks: on the version, the status of the incident and the runbook. -/
structure Gated (rt : Runtime) (c : RemediationCommand) (embedding : Embedding) (db : Database) : Prop where
  version : Python.strip c.targetVersion ≠ ""
  status : ∀ i ∈ db.incidents, i.incidentId = c.incidentId → i.status = .open ∨ i.status = .mitigating
  runbook : RunbookGate (remediationParams rt c embedding) db

/-- The fake with what `auto_seed` adds. -/
def seeded (c : RemediationCommand) (s : FakeStore) : FakeStore := if s.autoSeed then seedMissing c s else s

/-- A valid remediation seeds no service and no incident, and where both match: the gates that the fake lacks pass,
the cited memory is known to the database and the key is unused, if the fake knows the cited memory; and if it does
not, the database rejects the command too. -/
def Guarded (rt : Runtime) (c : RemediationCommand) (embedding : Embedding) (t : Pair) : Prop :=
  validate c embedding = .ok () →
    (t.fake.autoSeed = true → Assoc.get t.fake.tables.services c.serviceId ≠ none ∧
      Assoc.get t.fake.tables.incidents c.incidentId ≠ none) ∧
    (Returns (targetService c t.fake.tables) → Returns (targetIncident c t.fake.tables) →
      if c.citedMemoryId ∈ (seeded c t.fake).provenance then
        Gated rt c embedding t.db ∧ Provenance (remediationParams rt c embedding) t.db ∧
          ¬ KeyTaken (remediationParams rt c embedding) t.db
      else ¬ (Gated rt c embedding t.db ∧ Provenance (remediationParams rt c embedding) t.db))

/-- The first outcome of an action, if it is a success, is not earlier than the incident, and where the incident was
resolved before, at the same time. -/
def Timed (rt : Runtime) (c : OutcomeCommand) (embedding : Embedding) (t : Pair) : Prop :=
  ∀ a i, embedding.length = 1024 → outcomeTarget (outcomeParams rt c embedding) t.db = some (a, i) →
    recordedEpisode c t.fake.tables = none → c.outcome = .success →
    match i.resolvedAt with
    | none => i.openedAt ≤ c.observedAt
    | some resolvedAt => resolvedAt = c.observedAt

/-- The generated identifiers are new, and nothing that the fake lacks matters. -/
def Meets (cfg : Config) (t : Pair) (x : Generated × Command) : Prop :=
  ¬ Collides x.1 t.db ∧
    match x.2 with
    | .remediate c embedding => Guarded cfg.rt c embedding t
    | .outcome c embedding => Timed cfg.rt c embedding t

/-! ## Remediations -/

section remediation

variable {cfg : Config} {rt : Runtime} {c : RemediationCommand} {g : Generated} {embedding : Embedding} {db : Database}
  {s : FakeStore}

/-- The adapter checks the version too. -/
lemma validate_iff : Postmortem.validate c embedding = .ok () ↔
    validate c embedding = .ok () ∧ Python.strip c.targetVersion ≠ "" := by
  unfold Postmortem.validate validate
  split
  case isTrue => exact iff_of_false nofun nofun
  case isFalse =>
    split
    case isTrue => exact iff_of_false nofun nofun
    case isFalse =>
      split
      case isTrue => exact iff_of_false nofun nofun
      case isFalse =>
        split
        case isTrue blank => exact iff_of_false nofun fun h => h.2 blank
        case isFalse named => exact iff_of_true rfl ⟨rfl, named⟩

/-- Where service and incident are there, nothing but the citation is seeded. -/
lemma seeded_tables (there : s.autoSeed = true → Assoc.get s.tables.services c.serviceId ≠ none ∧
    Assoc.get s.tables.incidents c.incidentId ≠ none) : (seeded c s).tables = s.tables := by
  unfold seeded
  split
  case isTrue auto =>
    obtain ⟨service, incident⟩ := there auto
    obtain ⟨_, found⟩ := Option.ne_none_iff_exists'.mp service
    obtain ⟨_, found'⟩ := Option.ne_none_iff_exists'.mp incident
    simp [seedMissing, Assoc.setDefault, found, found']
  case isFalse => rfl

lemma seeded_failAt : (seeded c s).failAt = s.failAt := by
  unfold seeded
  split
  case isTrue => rfl
  case isFalse => rfl

/-- The service of the command is there. -/
lemma targetService_ok {f : FakeService} :
    targetService c s.tables = .ok f ↔ Assoc.get s.tables.services c.serviceId = some f ∧ f.orgId = c.orgId := by
  unfold targetService
  cases found : Assoc.get s.tables.services c.serviceId with
  | none => exact iff_of_false nofun nofun
  | some service =>
    dsimp only
    split
    case isTrue other =>
      refine iff_of_false nofun ?_
      rintro ⟨⟨⟩, same⟩
      exact other same
    case isFalse same =>
      constructor
      · rintro ⟨⟩
        exact ⟨rfl, not_not.mp same⟩
      · rintro ⟨⟨⟩, _⟩
        rfl

/-- The incident of the command is there. -/
lemma targetIncident_ok {f : FakeIncident} : targetIncident c s.tables = .ok f ↔
    Assoc.get s.tables.incidents c.incidentId = some f ∧ f.orgId = c.orgId ∧ f.serviceId = c.serviceId := by
  unfold targetIncident
  cases found : Assoc.get s.tables.incidents c.incidentId with
  | none => exact iff_of_false nofun nofun
  | some incident =>
    dsimp only
    split
    case isTrue other =>
      refine iff_of_false nofun ?_
      rintro ⟨⟨⟩, org, service⟩
      obtain other | other := other
      · exact other org
      · exact other service
    case isFalse same =>
      obtain ⟨org, service⟩ := not_or.mp same
      constructor
      · rintro ⟨⟩
        exact ⟨rfl, not_not.mp org, not_not.mp service⟩
      · rintro ⟨⟨⟩, _⟩
        rfl

/-- The rows that a command is about. -/
structure Rows (c : RemediationCommand) (db : Database) (r : Service) (i : Incident) : Prop where
  service : r ∈ db.services
  serviceId : r.serviceId = c.serviceId
  serviceOrg : r.orgId = c.orgId
  incident : i ∈ db.incidents
  incidentId : i.incidentId = c.incidentId
  incidentOrg : i.orgId = c.orgId
  incidentService : i.serviceId = c.serviceId

lemma Corresponds.rows {f : FakeService} {fi : FakeIncident} (h : Corresponds rt db s)
    (service : targetService c s.tables = .ok f) (incident : targetIncident c s.tables = .ok fi) :
    ∃ r i, Rows c db r i ∧ SameService f r ∧ SameIncident fi i := by
  obtain ⟨found, org⟩ := targetService_ok.mp service
  obtain ⟨found', org', home⟩ := targetIncident_ok.mp incident
  obtain ⟨r, mem, own, same⟩ := h.services.row found
  obtain ⟨i, mem', own', same'⟩ := h.incidents.row found'
  refine ⟨r, i, ⟨mem, own, ?_, mem', own', ?_, ?_⟩, same, same'⟩
  · rw [← same.orgId, org]
  · rw [← same'.orgId, org']
  · rw [← same'.serviceId, home]

/-- The statement finds its target where the fake does, and the incident is open or mitigating. -/
lemma Corresponds.target (h : Corresponds rt db s) : Target (remediationParams rt c embedding) db ↔
    Returns (targetService c s.tables) ∧ Returns (targetIncident c s.tables) ∧
      ∀ i ∈ db.incidents, i.incidentId = c.incidentId → i.status = .open ∨ i.status = .mitigating := by
  constructor
  case mp =>
    rintro ⟨i, mem, org, own, home, active, r, mem', serviceId, serviceOrg⟩
    obtain ⟨f, found, same⟩ := h.services.entry h.settled.admitted.services mem'
    obtain ⟨fi, found', same'⟩ := h.incidents.entry h.settled.admitted.incidents mem
    have own : i.incidentId = c.incidentId := own
    have home : i.serviceId = c.serviceId := home
    have org : i.orgId = c.orgId := org
    rw [serviceId, home] at found
    rw [own] at found'
    refine ⟨⟨f, targetService_ok.mpr ⟨found, ?_⟩⟩, ⟨fi, targetIncident_ok.mpr ⟨found', ?_, ?_⟩⟩, ?_⟩
    · rw [same.orgId, serviceOrg, org]
    · rw [same'.orgId, org]
    · rw [same'.serviceId, home]
    · intro i' mem'' own'
      obtain rfl := h.settled.admitted.incidents.eq mem mem'' (own.trans own'.symm)
      exact active
  case mpr =>
    rintro ⟨⟨f, service⟩, ⟨fi, incident⟩, active⟩
    obtain ⟨r, i, rows, _, _⟩ := h.rows service incident
    exact ⟨i, rows.incident, rows.incidentOrg, rows.incidentId, rows.incidentService, active i rows.incident rows.incidentId,
      r, rows.service, rows.serviceId.trans rows.incidentService.symm, rows.serviceOrg.trans rows.incidentOrg.symm⟩

/-- The first attempt runs the statement. -/
lemma sql_remediate (valid : Postmortem.validate c embedding = .ok ()) :
    Postmortem.remediateAndRecord rt cfg.retries (committing g) c embedding db =
      attemptOnce rt (remediationParams rt c embedding) (committing g) 0 db := by
  apply remediateAndRecord_reaches valid (Nat.zero_le _)
  · exact fun _ h => absurd h (Nat.not_lt_zero _)
  · exact nofun

lemma sql_gated (gates : ¬ Gates (remediationParams rt c embedding) db) :
    attemptOnce rt (remediationParams rt c embedding) (committing g) 0 db = (db, .error gateRejection) := by
  have transacted : transact (remediationParams rt c embedding) g none db = (db, .error gateRejection) := by
    unfold transact
    rw [remediateAndRecordSql_gated gates]
  unfold attemptOnce executeOnce committing
  dsimp only
  rw [transacted]
  rfl

lemma sql_fresh {action : DeployAction} (ha : deployAction? c.action = some action)
    (gates : Gates (remediationParams rt c embedding) db) (unused : ¬ KeyTaken (remediationParams rt c embedding) db)
    (fresh : ¬ Collides g db) :
    attemptOnce rt (remediationParams rt c embedding) (committing g) 0 db =
      (remediated (remediationParams rt c embedding) g db action, .ok (remediationRow g).result) := by
  have transacted : transact (remediationParams rt c embedding) g none db =
      (remediated (remediationParams rt c embedding) g db action, .ok (remediationRow g).result) := by
    unfold transact
    rw [remediateAndRecordSql_fresh ha gates unused fresh]
  unfold attemptOnce executeOnce committing
  dsimp only
  rw [transacted]

/-- The tables after all writes of a remediation. -/
def remediatedTables (c : RemediationCommand) (g : Generated) (embedding : Embedding) (f : FakeService)
    (fi : FakeIncident) (t : FakeTables) : FakeTables :=
  writeUsage c (writeAction c g (writeEpisode c g embedding (writeOperation c g f fi t)))

@[simp] lemma writeUsage_services {t : FakeTables} : (writeUsage c t).services = t.services := by
  unfold writeUsage
  split
  case h_1 => rfl
  case h_2 => rfl

@[simp] lemma writeUsage_incidents {t : FakeTables} : (writeUsage c t).incidents = t.incidents := by
  unfold writeUsage
  split
  case h_1 => rfl
  case h_2 => rfl

@[simp] lemma writeUsage_episodes {t : FakeTables} : (writeUsage c t).episodes = t.episodes := by
  unfold writeUsage
  split
  case h_1 => rfl
  case h_2 => rfl

@[simp] lemma writeUsage_actions {t : FakeTables} : (writeUsage c t).remediationActions = t.remediationActions := by
  unfold writeUsage
  split
  case h_1 => rfl
  case h_2 => rfl

/-- The fake writes where its own checks pass. -/
lemma fake_accepts {f : FakeService} {fi : FakeIncident} (valid : validate c embedding = .ok ())
    (works : s.failAt = none) (there : (seeded c s).tables = s.tables) (service : targetService c s.tables = .ok f)
    (incident : targetIncident c s.tables = .ok fi) (cited : c.citedMemoryId ∈ (seeded c s).provenance) :
    ∃ result, remediateAndRecord c g embedding s = (.ok result, { seeded c s with
      tables := remediatedTables c g embedding f fi s.tables
      commitCount := (seeded c s).commitCount + 1 }) := by
  have staged : stageRemediation c g embedding (seeded c s).provenance (seeded c s).failAt (seeded c s).tables =
      .ok (remediatedTables c g embedding f fi s.tables) := by
    unfold stageRemediation
    rw [seeded_failAt, works, there, service, incident]
    show (if c.citedMemoryId ∉ (seeded c s).provenance then _ else _ : Except Raised FakeTables) = _
    rw [if_neg (not_not.mpr cited)]
    rfl
  have seeding : (if s.autoSeed then seedMissing c s else s) = seeded c s := rfl
  unfold remediateAndRecord
  simp only [valid, seeding, staged]
  exact ⟨_, rfl⟩

/-- The fake raises where one of them fails, and only the citation is added. -/
lemma fake_rejects (valid : validate c embedding = .ok ()) (there : (seeded c s).tables = s.tables)
    (fails : ¬ (Returns (targetService c s.tables) ∧ Returns (targetIncident c s.tables) ∧
      c.citedMemoryId ∈ (seeded c s).provenance)) :
    ∃ e, remediateAndRecord c g embedding s = (.error e, { seeded c s with
      rollbackCount := (seeded c s).rollbackCount + 1 }) := by
  have stuck : ¬ Returns (stageRemediation c g embedding (seeded c s).provenance (seeded c s).failAt
      (seeded c s).tables) := by
    rw [stageRemediation_returns, there]
    rintro ⟨service, incident, cited, _⟩
    exact fails ⟨service, incident, cited⟩
  have seeding : (if s.autoSeed then seedMissing c s else s) = seeded c s := rfl
  cases staged : stageRemediation c g embedding (seeded c s).provenance (seeded c s).failAt (seeded c s).tables with
  | error e =>
    refine ⟨e, ?_⟩
    unfold remediateAndRecord
    simp only [valid, seeding, staged]
  | ok tables => exact absurd ⟨tables, staged⟩ stuck

/-- States that differ in nothing that is compared. -/
lemma Corresponds.same {s' : FakeStore} (h : Corresponds rt db s) (tables : s'.tables = s.tables)
    (works : s'.failAt = s.failAt) : Corresponds rt db s' := by
  obtain ⟨settled, fine, services, incidents, actions, homes, episodes, outcomes⟩ := h
  rw [← tables] at services incidents actions episodes outcomes
  exact ⟨settled, works.trans fine, services, incidents, actions, homes, episodes, outcomes⟩

section written

variable {p : RemediationParams} {action : DeployAction} {a : RemediationAction} {oc : OutcomeCommand}

/-- What the fake has on record for an action is its outcome episode, and where it has nothing there is none. -/
def Matches (rt : Runtime) (a : RemediationAction) (events : List EpisodicEvent) : Option (Uuid × FakeEpisode) → Prop
  | none => ∀ e ∈ events, ¬ OutcomeOf rt a e
  | some f => ∃ e ∈ events, SameOutcome rt a f e

lemma Matches.append {events : List EpisodicEvent} {e : EpisodicEvent} {f? : Option (Uuid × FakeEpisode)}
    (h : Matches rt a events f?) (other : ¬ OutcomeOf rt a e) : Matches rt a (events ++ [e]) f? := by
  cases f? with
  | none =>
    intro e' mem names
    obtain mem | mem := List.mem_append.mp mem
    · exact h e' mem names
    · obtain rfl := List.mem_singleton.mp mem
      exact other names
  | some f =>
    obtain ⟨e', mem, same⟩ := h
    exact ⟨e', List.mem_append_left _ mem, same⟩

lemma Corresponds.onRecord (h : Corresponds rt db s) (mem : a ∈ db.remediationActions) (own : a.actionId = oc.actionId) :
    Matches rt a db.episodicEvents (recordedEpisode oc s.tables) := by
  have before := h.outcomes oc a mem own
  revert before
  cases recordedEpisode oc s.tables with
  | none => exact fun before => before
  | some f => exact fun before => before

/-- Nothing is on record for an action that is new. -/
lemma Corresponds.unrecorded (h : Corresponds rt db s) (fresh : ∀ b ∈ db.remediationActions, b.actionId ≠ a.actionId)
    (own : a.actionId = oc.actionId) : Matches rt a db.episodicEvents (recordedEpisode oc s.tables) := by
  cases on : recordedEpisode oc s.tables with
  | none =>
    intro e mem names
    obtain ⟨b, memb, names', _⟩ := h.settled.source e mem names.1
    exact fresh b memb (Uuid.ext (Option.some.inj (names'.2.symm.trans names.2)))
  | some f =>
    have chosen := List.find?_some on
    obtain ⟨outcome, name⟩ := of_decide_eq_true chosen
    obtain ⟨b, memb, name'⟩ := (h.episodes f (List.mem_of_find?_eq_some on)).2 outcome
    have text := Json.str.inj (name'.symm.trans name)
    exact absurd (Uuid.ext (text.trans (congrArg Uuid.text own.symm))) (fresh b memb)

/-- A generated identifier that does not collide is in none of the tables. -/
lemma not_collides (fresh : ¬ Collides g db) : (∀ e ∈ db.episodicEvents, e.eventId ≠ g.eventId) ∧
    ∀ a ∈ db.remediationActions, a.actionId ≠ g.actionId := by
  obtain ⟨_, rest⟩ := not_or.mp fresh
  obtain ⟨events, actions⟩ := not_or.mp rest
  constructor
  · exact fun e mem same => events ⟨e, mem, same⟩
  · exact fun a mem same => actions ⟨a, mem, same⟩

/-- The key of a new episode is new to the fake too. -/
lemma Corresponds.fresh_episode {e : EpisodicEvent} (h : Corresponds rt db s)
    (fresh : ∀ e' ∈ db.episodicEvents, e'.eventId ≠ e.eventId) : Assoc.get s.tables.episodes e.eventId = none := by
  apply Assoc.get_eq_none.mpr
  intro f mem same
  obtain ⟨⟨e', mem', own⟩, _⟩ := h.episodes f mem
  exact fresh e' mem' (own.trans same)

/-- An episode that is no outcome is no outcome on record. -/
lemma recordedEpisode_concat {oc : OutcomeCommand} {id : Uuid} {f : FakeEpisode} {t : FakeTables}
    (fresh : Assoc.get t.episodes id = none) (other : f.eventType ≠ "outcome") :
    recordedEpisode oc { t with episodes := Assoc.set t.episodes id f } = recordedEpisode oc t := by
  unfold recordedEpisode
  rw [Assoc.set_fresh fresh, List.find?_append, List.find?_singleton, if_neg, Option.or_none]
  intro chosen
  exact other (of_decide_eq_true chosen).1

lemma recordedEpisode_congr {oc : OutcomeCommand} {t t' : FakeTables} (same : t'.episodes = t.episodes) :
    recordedEpisode oc t' = recordedEpisode oc t := by
  unfold recordedEpisode
  rw [same]

/-- Both stores make the same writes. -/
lemma Corresponds.remediated {f : FakeService} {fi : FakeIncident} {s' : FakeStore} (h : Corresponds rt db s)
    (service : targetService c s.tables = .ok f) (incident : targetIncident c s.tables = .ok fi)
    (wrote : Remediated (remediationParams rt c embedding) g db
      (Postmortem.remediated (remediationParams rt c embedding) g db action))
    (tables : s'.tables = remediatedTables c g embedding f fi s.tables) (works : s'.failAt = none) :
    Corresponds rt (Postmortem.remediated (remediationParams rt c embedding) g db action) s' := by
  obtain ⟨r, i, rows, sameService, sameIncident⟩ := h.rows service incident
  obtain ⟨freshEvent, freshAction⟩ := not_collides wrote.fresh
  have admitted := h.settled.admitted
  have newKey : Assoc.get s.tables.episodes g.eventId = none :=
    @Corresponds.fresh_episode rt db s (actionEpisode (remediationParams rt c embedding) g) h freshEvent
  have isAction : "action" ≠ "outcome" := by decide
  have recorded : ∀ oc, recordedEpisode oc s'.tables = recordedEpisode oc s.tables := by
    intro oc
    rw [tables]
    calc recordedEpisode oc (remediatedTables c g embedding f fi s.tables)
        = recordedEpisode oc (writeEpisode c g embedding s.tables) := recordedEpisode_congr writeUsage_episodes
      _ = recordedEpisode oc s.tables := recordedEpisode_concat newKey isAction
  constructor
  case settled => exact h.settled.apart (wrote.admitted admitted) wrote.apart
  case works => exact works
  case services =>
    rw [tables, remediatedTables, writeUsage_services]
    apply h.services.update_row admitted.services rows.service rows.serviceId
    · exact decide_eq_true ⟨rows.serviceOrg, rows.serviceId⟩
    · exact fun _ selected => (of_decide_eq_true selected).2
    · exact fun _ => rfl
    · exact ⟨sameService.orgId, rfl, rfl⟩
  case incidents =>
    rw [tables, remediatedTables, writeUsage_incidents]
    apply h.incidents.update_row admitted.incidents rows.incident rows.incidentId
    · exact decide_eq_true ⟨rows.incidentOrg, rows.incidentId⟩
    · exact fun _ selected => (of_decide_eq_true selected).2
    · exact fun _ => rfl
    · exact ⟨sameIncident.orgId, sameIncident.serviceId, rfl, rfl, sameIncident.resolvedAt⟩
  case actions =>
    rw [tables, remediatedTables, writeUsage_actions]
    exact @Mirrors.insert _ _ _ _ _ _ _ _ _ (actionRow (remediationParams rt c embedding) g) h.actions freshAction
      ⟨rfl, rfl, rfl, rfl, rfl, rfl⟩
  case homes =>
    intro i' mem
    obtain ⟨i₀, mem₀, rfl⟩ := Table.mem_update.mp mem
    obtain ⟨r₀, memr, org, own⟩ := h.homes i₀ mem₀
    obtain ⟨r', mem', same, sameOrg⟩ := wrote.apart.services r₀ memr
    refine ⟨r', mem', ?_, ?_⟩
    · rw [sameOrg, org]
      split
      case isTrue => rfl
      case isFalse => rfl
    · rw [same, own]
      split
      case isTrue => rfl
      case isFalse => rfl
  case episodes =>
    rw [tables, remediatedTables, writeUsage_episodes]
    intro e mem
    obtain rfl | mem := Assoc.mem_set mem
    · exact ⟨⟨_, List.mem_append_right _ List.mem_cons_self, rfl⟩, fun outcome => absurd outcome isAction⟩
    · obtain ⟨⟨e', mem', own⟩, named⟩ := h.episodes e mem
      refine ⟨⟨e', List.mem_append_left _ mem', own⟩, ?_⟩
      intro outcome
      obtain ⟨a, mema, name⟩ := named outcome
      exact ⟨a, List.mem_append_left _ mema, name⟩
  case outcomes =>
    intro oc a mem own
    rw [recorded]
    obtain mem | mem := List.mem_append.mp mem
    · exact (h.onRecord mem own).append nofun
    · obtain rfl := List.mem_singleton.mp mem
      exact (h.unrecorded freshAction own).append nofun

end written

section together

variable {t : Pair}

lemma call_raised {e : Raised} {s' : FakeStore} (raised : remediateAndRecord c g embedding s = (.error e, s')) :
    call g (.remediate c embedding) s = (some e, s') := by
  simp only [call, raised]

lemma call_returned {result : RemediationResult} {s' : FakeStore}
    (returned : remediateAndRecord c g embedding s = (.ok result, s')) :
    call g (.remediate c embedding) s = (none, s') := by
  simp only [call, returned]

/-- Both reject the remediation. -/
lemma Corresponds.rejected {e e' : Raised} {s' : FakeStore} (h : Corresponds cfg.rt t.db t.fake)
    (raised : remediateAndRecord c g embedding t.fake = (.error e, s')) (tables : s'.tables = t.fake.tables)
    (works : s'.failAt = t.fake.failAt)
    (refused : Postmortem.remediateAndRecord cfg.rt cfg.retries (committing g) c embedding t.db = (t.db, .error e')) :
    Refines cfg t (g, .remediate c embedding) ∧
      Corresponds cfg.rt (both cfg t (g, .remediate c embedding)).db (both cfg t (g, .remediate c embedding)).fake := by
  refine ⟨⟨?_, ?_⟩, ?_⟩
  · rw [call_raised raised]
    refine iff_of_false nofun ?_
    show ¬ Returns (Postmortem.remediateAndRecord cfg.rt cfg.retries (committing g) c embedding t.db).2
    rw [refused]
    nofun
  · rintro _ _ result s'' ⟨⟩ returned
    cases raised.symm.trans returned
  · show Corresponds cfg.rt (Postmortem.remediateAndRecord cfg.rt cfg.retries (committing g) c embedding t.db).1
      (call g (.remediate c embedding) t.fake).2
    rw [refused, call_raised raised]
    exact h.same tables works

/-- A remediation that is guarded is treated alike. -/
lemma Corresponds.remediates (h : Corresponds cfg.rt t.db t.fake) (guarded : Guarded cfg.rt c embedding t)
    (fresh : ¬ Collides g t.db) : Refines cfg t (g, .remediate c embedding) ∧
      Corresponds cfg.rt (both cfg t (g, .remediate c embedding)).db (both cfg t (g, .remediate c embedding)).fake := by
  cases valid : validate c embedding with
  | error e =>
    have raised : remediateAndRecord c g embedding t.fake = (.error e, t.fake) := by
      simp only [remediateAndRecord, valid]
    cases invalid : Postmortem.validate c embedding with
    | ok =>
      have both := (validate_iff.mp invalid).1
      cases valid.symm.trans both
    | error e' =>
      apply h.rejected raised rfl rfl
      simp only [Postmortem.remediateAndRecord, invalid]
      rfl
  | ok =>
  obtain ⟨there, gate⟩ := guarded valid
  have tables := seeded_tables there
  by_cases passes : Returns (targetService c t.fake.tables) ∧ Returns (targetIncident c t.fake.tables) ∧
      c.citedMemoryId ∈ (seeded c t.fake).provenance
  case neg =>
    obtain ⟨e, raised⟩ := @fake_rejects c g embedding t.fake valid tables passes
    cases named : Postmortem.validate c embedding with
    | error e' =>
      apply h.rejected raised tables seeded_failAt
      simp only [Postmortem.remediateAndRecord, named]
      rfl
    | ok =>
      have gated : ¬ Gates (remediationParams cfg.rt c embedding) t.db := by
        rintro ⟨target, provenance, runbook⟩
        obtain ⟨service, incident, status⟩ := h.target.mp target
        have gate := gate service incident
        rw [if_neg fun cited => passes ⟨service, incident, cited⟩] at gate
        exact gate ⟨⟨(validate_iff.mp named).2, status, runbook⟩, provenance⟩
      apply h.rejected raised tables seeded_failAt
      exact (sql_remediate named).trans (sql_gated gated)
  case pos =>
    obtain ⟨⟨f, service⟩, ⟨fi, incident⟩, cited⟩ := passes
    have gate := gate ⟨f, service⟩ ⟨fi, incident⟩
    rw [if_pos cited] at gate
    obtain ⟨⟨version, status, runbook⟩, provenance, unused⟩ := gate
    have named := validate_iff.mpr ⟨valid, version⟩
    obtain ⟨action, ha⟩ := deployAction?_of_validate named
    have gates : Gates (remediationParams cfg.rt c embedding) t.db :=
      ⟨h.target.mpr ⟨⟨f, service⟩, ⟨fi, incident⟩, status⟩, provenance, runbook⟩
    obtain ⟨result, returned⟩ := @fake_accepts c g embedding t.fake f fi valid h.works tables service incident cited
    have committed : Postmortem.remediateAndRecord cfg.rt cfg.retries (committing g) c embedding t.db = _ :=
      (sql_remediate named).trans (sql_fresh ha gates unused fresh)
    refine ⟨⟨?_, ?_⟩, ?_⟩
    · rw [call_returned returned]
      refine iff_of_true rfl ?_
      show Returns (Postmortem.remediateAndRecord cfg.rt cfg.retries (committing g) c embedding t.db).2
      rw [committed]
      exact ⟨_, rfl⟩
    · rintro _ _ _ _ ⟨⟩ _ a mem org key
      exact absurd ⟨a, mem, org, key⟩ unused
    · show Corresponds cfg.rt (Postmortem.remediateAndRecord cfg.rt cfg.retries (committing g) c embedding t.db).1
        (call g (.remediate c embedding) t.fake).2
      rw [committed, call_returned returned]
      exact h.remediated service incident ⟨gates, unused, fresh, action, ha, rfl⟩ rfl (seeded_failAt.trans h.works)

end together

end remediation

/-! ## Outcomes -/

section outcome

variable {cfg : Config} {rt : Runtime} {c : OutcomeCommand} {g : Generated} {embedding : Embedding} {db : Database}
  {s : FakeStore}

lemma outcomeRows_ok {t : FakeTables} {fi : FakeIncident} {fa : FakeAction} : outcomeRows c t = .ok (fi, fa) ↔
    Assoc.get t.incidents c.incidentId = some fi ∧ Assoc.get t.remediationActions c.actionId = some fa ∧
      (fi.orgId = c.orgId ∧ fi.serviceId = c.serviceId) ∧
      fa.orgId = c.orgId ∧ fa.incidentId = c.incidentId ∧ fa.targetId = c.serviceId := by
  unfold outcomeRows
  cases Assoc.get t.incidents c.incidentId with
  | none => exact iff_of_false nofun nofun
  | some incident =>
  cases Assoc.get t.remediationActions c.actionId with
  | none => exact iff_of_false nofun nofun
  | some action =>
    dsimp only
    split
    case isTrue other =>
      refine iff_of_false nofun ?_
      rintro ⟨⟨⟩, ⟨⟩, ⟨org, service⟩, org', incident', target⟩
      obtain other | other | other | other | other := other
      · exact other org
      · exact other service
      · exact other org'
      · exact other incident'
      · exact other target
    case isFalse same =>
      simp only [not_or, not_not] at same
      constructor
      · rintro ⟨⟩
        exact ⟨rfl, rfl, ⟨same.1, same.2.1⟩, same.2.2⟩
      · rintro ⟨⟨⟩, ⟨⟩, _⟩
        rfl

/-- The rows of an outcome, in both stores. -/
structure OutcomeRows (c : OutcomeCommand) (embedding : Embedding) (rt : Runtime) (db : Database) (fi : FakeIncident)
    (fa : FakeAction) (a : RemediationAction) (i : Incident) : Prop where
  target : outcomeTarget (outcomeParams rt c embedding) db = some (a, i)
  action : a ∈ db.remediationActions
  names : Names c a
  incident : i ∈ db.incidents
  incidentOrg : i.orgId = c.orgId
  incidentId : i.incidentId = c.incidentId
  sameAction : SameAction fa a
  sameIncident : SameIncident fi i

lemma Corresponds.outcomeRows {fi : FakeIncident} {fa : FakeAction} (h : Corresponds rt db s)
    (found : FakeStore.outcomeRows c s.tables = .ok (fi, fa)) : ∃ a i, OutcomeRows c embedding rt db fi fa a i := by
  obtain ⟨incident, action, ⟨org, service⟩, org', incidentId, target⟩ := outcomeRows_ok.mp found
  obtain ⟨i, memi, own, sameIncident⟩ := h.incidents.row incident
  obtain ⟨a, mema, own', sameAction⟩ := h.actions.row action
  obtain ⟨r, memr, homeOrg, home⟩ := h.homes i memi
  have aOrg : a.orgId = c.orgId := sameAction.orgId.symm.trans org'
  have aIncident : a.incidentId = c.incidentId := sameAction.incidentId.symm.trans incidentId
  have aTarget : a.targetId = some c.serviceId := sameAction.targetId.trans (congrArg some target)
  have iOrg : i.orgId = c.orgId := sameIncident.orgId.symm.trans org
  have iService : i.serviceId = c.serviceId := sameIncident.serviceId.symm.trans service
  have theAction : targetAction (outcomeParams rt c embedding) db = some a := by
    apply Table.find_of_unique mema (decide_eq_true ⟨aOrg, own', aIncident, aTarget⟩)
    intro b memb sat
    obtain ⟨_, ownb, _⟩ := of_decide_eq_true sat
    exact h.settled.admitted.actions.eq memb mema (Eq.trans ownb own'.symm)
  have theIncident : Postmortem.targetIncident (outcomeParams rt c embedding) db a = some i := by
    apply Table.find_of_unique memi
      (decide_eq_true ⟨iOrg.trans aOrg.symm, own.trans aIncident.symm, iService, r, memr, homeOrg, home⟩)
    intro n memn sat
    obtain ⟨_, ownn, _⟩ := of_decide_eq_true sat
    exact h.settled.admitted.incidents.eq memn memi (ownn.trans (aIncident.trans own.symm))
  refine ⟨a, i, ?_, mema, ⟨own', aOrg, aIncident, aTarget⟩, memi, iOrg, own, sameAction, sameIncident⟩
  simp only [outcomeTarget, theAction, theIncident, Option.map_some]

/-- Where the fake does not find the rows, the statement does not either. -/
lemma Corresponds.mismatch {e : Raised} (h : Corresponds rt db s)
    (missing : FakeStore.outcomeRows c s.tables = .error e) :
    outcomeTarget (outcomeParams rt c embedding) db = none := by
  apply outcomeTarget_mismatch
  rintro ⟨a, mema, ⟨own, org, incidentId, target⟩, i, memi, own', org', service⟩
  obtain ⟨fa, action, sameAction⟩ := h.actions.entry h.settled.admitted.actions mema
  obtain ⟨fi, incident, sameIncident⟩ := h.incidents.entry h.settled.admitted.incidents memi
  rw [own] at action
  rw [own'] at incident
  have found : FakeStore.outcomeRows c s.tables = .ok (fi, fa) := by
    apply outcomeRows_ok.mpr
    refine ⟨incident, action, ⟨sameIncident.orgId.trans org', sameIncident.serviceId.trans service⟩,
      sameAction.orgId.trans org, sameAction.incidentId.trans incidentId, ?_⟩
    exact Option.some.inj (sameAction.targetId.symm.trans target)
  cases missing.symm.trans found

/-- An outcome on record is returned again exactly if it is the same. -/
lemma replayOutcome_returns {fi : FakeIncident} {fa : FakeAction} {a : RemediationAction} {f : Uuid × FakeEpisode}
    {e : EpisodicEvent} (same : SameOutcome rt a f e) :
    Returns (replayOutcome c fi fa f.1 f.2) ↔ a.outcome.text = c.outcome.value := by
  obtain ⟨at', dated⟩ := Option.ne_none_iff_exists'.mp same.dated
  have kind : ∀ k, outcomeKind (.str a.outcome.text) = .ok k → k.value = a.outcome.text := by
    intro k made
    cases outcome : a.outcome with
    | pending =>
      rw [outcome] at made
      cases made
    | _ =>
      rw [outcome] at made
      cases made
      rfl
  unfold replayOutcome
  rw [same.outcome, dated]
  cases made : outcomeKind (.str a.outcome.text) with
  | error err =>
    refine iff_of_false ?_ ?_
    · rintro ⟨result, returned⟩
      obtain ⟨k, made', _⟩ := bind_ok returned
      cases made.symm.trans made'
    · intro equal
      rw [equal] at made
      cases outcome : c.outcome <;> rw [outcome] at made <;> cases made
  | ok k =>
    have value := kind k made
    by_cases other : k ≠ c.outcome
    case neg =>
      refine iff_of_true ⟨_, bind_ok_iff.mpr ⟨k, made, if_neg other⟩⟩ ?_
      rw [← value, not_not.mp other]
    case pos =>
      have different : a.outcome.text ≠ c.outcome.value := by
        rw [← value]
        intro equal
        cases k <;> cases outcome : c.outcome <;> rw [outcome] at equal other <;>
          first | exact other rfl | exact absurd equal (by decide)
      refine iff_of_false ?_ different
      rintro ⟨result, returned⟩
      obtain ⟨k', made', returned⟩ := bind_ok returned
      cases made.symm.trans made'
      cases (if_pos other).symm.trans returned

/-- The first attempt runs the statement. -/
lemma sql_outcome (dims : embedding.length = 1024) :
    Postmortem.recordOutcome cfg.rt cfg.outcomeRetries (fun _ => .commit g) c embedding db =
      outcomeTransact cfg.rt c (outcomeParams cfg.rt c embedding) g none db := by
  apply @recordOutcome_runs _ _ _ _ _ _ _ 0 none dims (Nat.zero_le _) rfl
  exact fun _ h => absurd h (Nat.not_lt_zero _)

lemma recordedEpisode_action {c' : OutcomeCommand} {t : FakeTables} (same : c'.actionId = c.actionId) :
    recordedEpisode c' t = recordedEpisode c t := by
  unfold recordedEpisode
  rw [same]

/-- The incident that an outcome leaves is the same in both stores. -/
lemma SameIncident.afterOutcome {fi : FakeIncident} {i : Incident} (same : SameIncident fi i)
    (timed : c.outcome = .success → match i.resolvedAt with
      | none => i.openedAt ≤ c.observedAt
      | some resolvedAt => resolvedAt = c.observedAt) :
    SameIncident (FakeStore.afterOutcome c fi) (resolve rt (outcomeParams rt c embedding) i) := by
  unfold FakeStore.afterOutcome resolve Postmortem.resolvedAt
  by_cases success : c.outcome = .success
  case pos =>
    have outcome : (outcomeParams rt c embedding).outcome = .success := success
    have timed := timed success
    rw [if_pos success, if_pos outcome, if_pos outcome, if_pos outcome]
    refine ⟨same.orgId, same.serviceId, rfl, same.runbookId, ?_⟩
    show some c.observedAt = some (i.resolvedAt.getD c.observedAt)
    cases before : i.resolvedAt with
    | none => rfl
    | some at' =>
      rw [before] at timed
      exact congrArg some timed.symm
  case neg =>
    have outcome : ¬ (outcomeParams rt c embedding).outcome = .success := success
    rw [if_neg success, if_neg outcome, if_neg outcome, if_neg outcome]
    exact ⟨same.orgId, same.serviceId, same.status, same.runbookId, same.resolvedAt⟩

/-- The CHECK of the database passes. -/
lemma Corresponds.timeOrdered {i : Incident} (h : Corresponds rt db s) (mem : i ∈ db.incidents)
    (timed : c.outcome = .success → match i.resolvedAt with
      | none => i.openedAt ≤ c.observedAt
      | some resolvedAt => resolvedAt = c.observedAt) : TimeOrdered (outcomeParams rt c embedding) i := by
  unfold TimeOrdered Postmortem.resolvedAt
  by_cases success : c.outcome = .success
  case pos =>
    have outcome : (outcomeParams rt c embedding).outcome = .success := success
    have timed := timed success
    rw [if_pos outcome]
    cases before : i.resolvedAt with
    | none =>
      rw [before] at timed
      exact timed
    | some at' => exact h.settled.admitted.timeOrder i mem at' before
  case neg =>
    have outcome : ¬ (outcomeParams rt c embedding).outcome = .success := success
    rw [if_neg outcome]
    cases before : i.resolvedAt with
    | none => trivial
    | some at' => exact h.settled.admitted.timeOrder i mem at' before

/-- The tables after an outcome. -/
def outcomeTables (c : OutcomeCommand) (g : Generated) (embedding : Embedding) (fi : FakeIncident) (fa : FakeAction)
    (t : FakeTables) : FakeTables :=
  { t with
    incidents := Assoc.set t.incidents c.incidentId (afterOutcome c fi)
    remediationActions := Assoc.set t.remediationActions c.actionId { fa with outcome := c.outcome.value }
    episodes := Assoc.set t.episodes g.eventId (outcomeEpisodeOf c embedding (afterOutcome c fi) fa) }

/-- A new outcome episode is the one on record for its action, and for no other. -/
lemma recordedEpisode_outcome {c' : OutcomeCommand} {fi : FakeIncident} {fa : FakeAction}
    (fresh : Assoc.get s.tables.episodes g.eventId = none) :
    recordedEpisode c' (outcomeTables c g embedding fi fa s.tables) = (recordedEpisode c' s.tables).or
      (if c.actionId = c'.actionId then some (g.eventId, outcomeEpisodeOf c embedding (afterOutcome c fi) fa) else none) := by
  unfold recordedEpisode outcomeTables
  dsimp only
  rw [Assoc.set_fresh fresh, List.find?_append, List.find?_singleton]
  congr 1
  have chosen : ((outcomeEpisodeOf c embedding (afterOutcome c fi) fa).eventType = "outcome" ∧
      Dict.get (outcomeEpisodeOf c embedding (afterOutcome c fi) fa).metadata "action_id" = .str c'.actionId.text) ↔
      c.actionId = c'.actionId := by
    constructor
    · rintro ⟨_, name⟩
      exact Uuid.ext (Json.str.inj name)
    · intro same
      exact ⟨rfl, congrArg (fun id => Json.str (Uuid.text id)) same⟩
  by_cases same : c.actionId = c'.actionId
  case pos => rw [if_pos same, if_pos (decide_eq_true (chosen.mpr same))]
  case neg => rw [if_neg same, if_neg fun h => same (chosen.mp (of_decide_eq_true h))]

/-- Both stores make the same writes. -/
lemma Corresponds.recorded {fi : FakeIncident} {fa : FakeAction} {a : RemediationAction} {i : Incident} {s' : FakeStore}
    (h : Corresponds rt db s) (rows : OutcomeRows c embedding rt db fi fa a i)
    (first : recordedEpisode c s.tables = none)
    (timed : c.outcome = .success → match i.resolvedAt with
      | none => i.openedAt ≤ c.observedAt
      | some resolvedAt => resolvedAt = c.observedAt)
    (wrote : OutcomeRecorded rt (outcomeParams rt c embedding) g db a i
      (outcomeRecorded rt (outcomeParams rt c embedding) g db a i))
    (tables : s'.tables = outcomeTables c g embedding fi fa s.tables) (works : s'.failAt = s.failAt) :
    Corresponds rt (outcomeRecorded rt (outcomeParams rt c embedding) g db a i) s' := by
  have admitted := h.settled.admitted
  have newKey : Assoc.get s.tables.episodes g.eventId = none :=
    @Corresponds.fresh_episode rt db s (outcomeEpisode (outcomeParams rt c embedding) g a i) h wrote.fresh
  obtain ⟨named, outcome⟩ := @outcomeEpisode_fields rt (outcomeParams rt c embedding) g a i
  constructor
  case settled => exact wrote.settled h.settled
  case works => exact works.trans h.works
  case services =>
    rw [tables]
    exact h.services
  case incidents =>
    rw [tables]
    apply h.incidents.update_row admitted.incidents rows.incident rows.incidentId
    · exact decide_eq_true ⟨rows.incidentOrg, rows.incidentId⟩
    · exact fun _ selected => (of_decide_eq_true selected).2
    · exact fun _ => rfl
    · exact rows.sameIncident.afterOutcome timed
  case actions =>
    rw [tables]
    have same := rows.sameAction
    apply h.actions.update_row admitted.actions rows.action rows.names.1
    · exact decide_eq_true rows.names.1
    · exact fun _ selected => of_decide_eq_true selected
    · exact fun _ => rfl
    · exact ⟨same.orgId, same.incidentId, same.targetId, OutcomeKind.stored_text.symm, same.transactionId,
        same.idempotencyKey⟩
  case homes =>
    intro i' mem
    obtain ⟨i₀, mem₀, rfl⟩ := Table.mem_update.mp mem
    obtain ⟨r, memr, org, own⟩ := h.homes i₀ mem₀
    refine ⟨r, memr, ?_, ?_⟩
    · split
      case isTrue => exact org
      case isFalse => exact org
    · split
      case isTrue => exact own
      case isFalse => exact own
  case episodes =>
    have kept : ∀ b ∈ db.remediationActions, ∃ b' ∈ actionUpdate (outcomeParams rt c embedding) db.remediationActions,
        b'.actionId = b.actionId := key_update fun _ => rfl
    rw [tables]
    intro e mem
    obtain rfl | mem := Assoc.mem_set mem
    · refine ⟨⟨_, List.mem_append_right _ List.mem_cons_self, rfl⟩, fun _ => ?_⟩
      obtain ⟨b, memb, own⟩ := kept a rows.action
      exact ⟨b, memb, congrArg (fun id => Json.str (Uuid.text id)) (own.trans rows.names.1).symm⟩
    · obtain ⟨⟨e', mem', own⟩, name⟩ := h.episodes e mem
      refine ⟨⟨e', List.mem_append_left _ mem', own⟩, fun isOutcome => ?_⟩
      obtain ⟨b, memb, name⟩ := name isOutcome
      obtain ⟨b', memb', same⟩ := kept b memb
      exact ⟨b', memb', name.trans (congrArg (fun id => Json.str (Uuid.text id)) same.symm)⟩
  case outcomes =>
    intro c' a' mem' own
    rw [tables, recordedEpisode_outcome newKey]
    obtain ⟨b, memb, rfl⟩ := Table.mem_update.mp mem'
    by_cases same : c.actionId = c'.actionId
    case pos =>
      -- the outcome just written
      have ownb : b.actionId = c.actionId := by
        rw [same, ← own]
        split
        case isTrue => rfl
        case isFalse => rfl
      have taken : decide (b.actionId = (outcomeParams rt c embedding).actionId) = true := decide_eq_true ownb
      obtain rfl := admitted.actions.eq memb rows.action (ownb.trans rows.names.1.symm)
      rw [recordedEpisode_action same.symm, first, if_pos same, if_pos taken]
      refine ⟨_, List.mem_append_right _ List.mem_cons_self, named, rfl, ?_, nofun⟩
      show some (Json.str c.outcome.value) = some (.str c.outcome.stored.text)
      rw [OutcomeKind.stored_text]
    case neg =>
      have other : ¬ b.actionId = c.actionId := by
        intro ownb
        have taken : decide (b.actionId = (outcomeParams rt c embedding).actionId) = true := decide_eq_true ownb
        rw [if_pos taken] at own
        exact same (ownb.symm.trans own)
      have skipped : ¬ decide (b.actionId = (outcomeParams rt c embedding).actionId) = true :=
        fun taken => other (of_decide_eq_true taken)
      rw [if_neg skipped] at own ⊢
      rw [if_neg same, Option.or_none]
      apply (h.onRecord memb own).append
      exact fun names => other ((Uuid.ext (Option.some.inj (names.2.symm.trans named.2))).trans rows.names.1)

/-- The rows are missing. -/
lemma outcome_mismatched {e : Raised} (dims : embedding.length = 1024) (missing : outcomeRows c s.tables = .error e) :
    recordOutcome c g embedding s = (.error e, { s with outcomeRollbackCount := s.outcomeRollbackCount + 1 }) := by
  unfold recordOutcome stageOutcome
  rw [if_neg (not_not.mpr dims), missing]
  rfl

/-- The outcome is on record. -/
lemma outcome_replayed {fi : FakeIncident} {fa : FakeAction} {f : Uuid × FakeEpisode} (dims : embedding.length = 1024)
    (found : outcomeRows c s.tables = .ok (fi, fa)) (on : recordedEpisode c s.tables = some f) :
    (Returns (recordOutcome c g embedding s).1 ↔ Returns (replayOutcome c fi fa f.1 f.2)) ∧
      (recordOutcome c g embedding s).2.tables = s.tables ∧ (recordOutcome c g embedding s).2.failAt = s.failAt := by
  have staged : stageOutcome c g embedding s.failAt s.tables =
      (replayOutcome c fi fa f.1 f.2).map fun result => (result, none) := by
    simp only [stageOutcome, found, bind, Except.bind, on]
    cases replayOutcome c fi fa f.1 f.2 with
    | error => rfl
    | ok => rfl
  unfold recordOutcome
  rw [if_neg (not_not.mpr dims), staged]
  cases replayOutcome c fi fa f.1 f.2 with
  | error e => exact ⟨iff_of_false nofun nofun, rfl, rfl⟩
  | ok result => exact ⟨iff_of_true ⟨_, rfl⟩ ⟨_, rfl⟩, rfl, rfl⟩

/-- The outcome is new. -/
lemma outcome_written {fi : FakeIncident} {fa : FakeAction} (dims : embedding.length = 1024) (works : s.failAt = none)
    (found : outcomeRows c s.tables = .ok (fi, fa)) (first : recordedEpisode c s.tables = none) :
    Returns (recordOutcome c g embedding s).1 ∧
      (recordOutcome c g embedding s).2.tables = outcomeTables c g embedding fi fa s.tables ∧
      (recordOutcome c g embedding s).2.failAt = s.failAt := by
  unfold recordOutcome
  rw [if_neg (not_not.mpr dims), works]
  simp only [stageOutcome, found, bind, Except.bind, first]
  exact ⟨⟨_, rfl⟩, rfl, rfl⟩

lemma raised_error {α : Type} {e : Raised} : ¬ Returns (.error e : Except Raised α) := by
  rintro ⟨a, returned⟩
  cases returned

lemma call_outcome : ((call g (.outcome c embedding) s).1 = none ↔ Returns (recordOutcome c g embedding s).1) ∧
    (call g (.outcome c embedding) s).2 = (recordOutcome c g embedding s).2 := by
  cases answered : recordOutcome c g embedding s with
  | mk returned s' =>
    simp only [call, answered]
    cases returned with
    | error => exact ⟨iff_of_false (Option.some_ne_none _) raised_error, rfl⟩
    | ok => exact ⟨iff_of_true rfl ⟨_, rfl⟩, rfl⟩

/-- The statement answers from an outcome on record. -/
lemma sql_replayed {a : RemediationAction} {i : Incident} {e : EpisodicEvent} (st : Settled rt db)
    (target : outcomeTarget (outcomeParams rt c embedding) db = some (a, i)) (mem : a ∈ db.remediationActions)
    (names : Names c a) (mem' : e ∈ db.episodicEvents) (own : OutcomeOf rt a e) :
    (outcomeTransact rt c (outcomeParams rt c embedding) g none db).1 = db ∧
      (Returns (outcomeTransact rt c (outcomeParams rt c embedding) g none db).2 ↔
        a.outcome.text = c.outcome.value) := by
  have existing := @Settled.existing rt db c a e st mem mem' own names embedding
  obtain ⟨_, _, _, text, _⟩ := st.own mem mem' own
  simp only [outcomeTransact, recordOutcomeSql, target, existing]
  split
  case isTrue conflicts =>
    simp only [recordedText, text, Option.getD_some] at conflicts
    exact ⟨rfl, iff_of_false raised_error conflicts⟩
  case isFalse agrees =>
    simp only [recordedText, text, Option.getD_some, not_not] at agrees
    exact ⟨rfl, iff_of_true ⟨_, rfl⟩ agrees⟩

/-- The statement writes a new outcome. -/
lemma sql_written {a : RemediationAction} {i : Incident} {db' : Database}
    (wrote : OutcomeRecorded rt (outcomeParams rt c embedding) g db a i db') :
    (outcomeTransact rt c (outcomeParams rt c embedding) g none db).1 = db' ∧
      Returns (outcomeTransact rt c (outcomeParams rt c embedding) g none db).2 := by
  obtain ⟨row, written, value⟩ := recordOutcomeSql_written wrote
  have agrees : ¬ recordedText row ≠ c.outcome.value := by
    rw [recordedText, value]
    exact not_not.mpr rfl
  simp only [outcomeTransact, written, if_neg agrees]
  exact ⟨trivial, _, rfl⟩

section together

variable {t : Pair}

/-- The stores answer alike and correspond afterwards. -/
lemma alike {db' : Database} {s' : FakeStore}
    (sql : (Postmortem.recordOutcome cfg.rt cfg.outcomeRetries (fun _ => .commit g) c embedding t.db).1 = db')
    (fake : (recordOutcome c g embedding t.fake).2 = s')
    (accepts : Returns (recordOutcome c g embedding t.fake).1 ↔
      Returns (Postmortem.recordOutcome cfg.rt cfg.outcomeRetries (fun _ => .commit g) c embedding t.db).2)
    (after : Corresponds cfg.rt db' s') : Refines cfg t (g, .outcome c embedding) ∧
      Corresponds cfg.rt (both cfg t (g, .outcome c embedding)).db (both cfg t (g, .outcome c embedding)).fake := by
  obtain ⟨raised, store⟩ := @call_outcome c g embedding t.fake
  refine ⟨⟨raised.trans accepts, ?_⟩, ?_⟩
  · intro _ _ _ _ remediation
    cases remediation
  · show Corresponds cfg.rt
      (Postmortem.recordOutcome cfg.rt cfg.outcomeRetries (fun _ => .commit g) c embedding t.db).1
      (call g (.outcome c embedding) t.fake).2
    rw [store, sql, fake]
    exact after

/-- An outcome that is timed is treated alike. -/
lemma Corresponds.records (h : Corresponds cfg.rt t.db t.fake) (timed : Timed cfg.rt c embedding t)
    (fresh : ¬ Collides g t.db) : Refines cfg t (g, .outcome c embedding) ∧
      Corresponds cfg.rt (both cfg t (g, .outcome c embedding)).db (both cfg t (g, .outcome c embedding)).fake := by
  by_cases dims : embedding.length = 1024
  case neg =>
    have sql : ∃ e, Postmortem.recordOutcome cfg.rt cfg.outcomeRetries (fun _ => .commit g) c embedding t.db =
        (t.db, .error e) := by
      rw [Postmortem.recordOutcome, if_pos dims]
      exact ⟨_, rfl⟩
    have fake : ∃ e, recordOutcome c g embedding t.fake = (.error e, t.fake) := by
      rw [recordOutcome, if_pos dims]
      exact ⟨_, rfl⟩
    obtain ⟨e, sql⟩ := sql
    obtain ⟨e', fake⟩ := fake
    refine alike (congrArg Prod.fst sql) (congrArg Prod.snd fake) ?_ h
    rw [sql, fake]
    exact iff_of_false raised_error raised_error
  case pos =>
  have sql := @sql_outcome cfg c g embedding t.db dims
  cases found : FakeStore.outcomeRows c t.fake.tables with
  | error e =>
    have target := @Corresponds.mismatch cfg.rt c embedding t.db t.fake e h found
    have fake := @outcome_mismatched c g embedding t.fake e dims found
    have rejected : outcomeTransact cfg.rt c (outcomeParams cfg.rt c embedding) g none t.db =
        (t.db, .error outcomeRejection) := by
      simp only [outcomeTransact, recordOutcomeSql, target]
    refine alike (congrArg Prod.fst (sql.trans rejected)) (congrArg Prod.snd fake) ?_ (h.same rfl rfl)
    rw [sql, rejected, fake]
    exact iff_of_false raised_error raised_error
  | ok rows =>
  obtain ⟨fi, fa⟩ := rows
  obtain ⟨a, i, rows⟩ := @Corresponds.outcomeRows cfg.rt c embedding t.db t.fake fi fa h found
  have before := h.outcomes c a rows.action rows.names.1
  cases on : recordedEpisode c t.fake.tables with
  | some f =>
    rw [on] at before
    obtain ⟨e, mem, same⟩ := before
    obtain ⟨returns, tables, works⟩ := @outcome_replayed c g embedding t.fake fi fa f dims found on
    obtain ⟨kept, answers⟩ := @sql_replayed cfg.rt c g embedding t.db a i e h.settled rows.target rows.action
      rows.names mem same.names
    refine alike (congrArg Prod.fst sql |>.trans kept) rfl ?_ (h.same tables works)
    rw [sql]
    exact returns.trans ((replayOutcome_returns same).trans answers.symm)
  | none =>
    rw [on] at before
    have first : existingOutcome cfg.rt (outcomeParams cfg.rt c embedding) t.db = none := by
      apply Table.first_eq_none.mpr
      apply List.filter_eq_nil_iff.mpr
      intro e mem chosen
      obtain ⟨_, _, _, isOutcome, name⟩ := of_decide_eq_true chosen
      exact before e mem ⟨isOutcome, name.trans (congrArg (fun id => some (Uuid.text id)) rows.names.1.symm)⟩
    have timed := fun success => timed a i dims rows.target on success
    obtain ⟨events, _⟩ := not_collides fresh
    have wrote : OutcomeRecorded cfg.rt (outcomeParams cfg.rt c embedding) g t.db a i
        (outcomeRecorded cfg.rt (outcomeParams cfg.rt c embedding) g t.db a i) :=
      ⟨rows.target, first, h.timeOrdered rows.incident timed, events, rfl⟩
    obtain ⟨returns, tables, works⟩ := @outcome_written c g embedding t.fake fi fa dims h.works found on
    obtain ⟨written, answers⟩ := sql_written wrote
    refine alike (congrArg Prod.fst sql |>.trans written) rfl ?_ (h.recorded rows on timed wrote tables works)
    rw [sql]
    exact iff_of_true returns answers

end together

end outcome

/-! ## Runs -/

/-- In every run whose steps all meet the condition the fake refines the database. -/
theorem fake_refines {cfg : Config} {t : Pair} {ops : List (Generated × Command)}
    (h : Corresponds cfg.rt t.db t.fake) (meets : Run.Each (both cfg) (Meets cfg) t ops) :
    Run.Each (both cfg) (fun t x => Refines cfg t x ∧
      Corresponds cfg.rt (both cfg t x).db (both cfg t x).fake) t ops := by
  induction ops generalizing t with
  | nil => trivial
  | cons x ops ih =>
    obtain ⟨first, rest⟩ := meets
    have alike : Refines cfg t x ∧ Corresponds cfg.rt (both cfg t x).db (both cfg t x).fake := by
      obtain ⟨g, command⟩ := x
      obtain ⟨fresh, matters⟩ := first
      cases command with
      | remediate c embedding => exact h.remediates matters fresh
      | outcome c embedding => exact h.records matters fresh
    exact ⟨alike, ih alike.2 rest⟩

namespace Sample

/-- The database of the example, and the fake seeded with the same. -/
def pair : Pair where
  db := Postmortem.Sample.db
  fake := seed Postmortem.Sample.service Postmortem.Sample.incident Postmortem.Sample.memory Postmortem.Sample.org {}

def remediation : Generated × Command :=
  ⟨Postmortem.Sample.generated, .remediate Postmortem.Sample.command Postmortem.Sample.embedding⟩

def outcome : Generated × Command :=
  ⟨Postmortem.Sample.outcomeGenerated, .outcome Postmortem.Sample.outcome Postmortem.Sample.embedding⟩

lemma pair_corresponds : Corresponds Runtime.sample pair.db pair.fake := by
  constructor
  case settled =>
    apply Settled.start Postmortem.Sample.db_admitted
    intro e mem
    obtain rfl := List.mem_singleton.mp mem
    nofun
  case works => rfl
  case services =>
    let r : Service := ⟨Postmortem.Sample.service, Postmortem.Sample.org, "checkout", .degraded, "v2", none, 0⟩
    exact @Mirrors.singleton _ _ _ _ _ Service.serviceId _ r ⟨rfl, rfl, rfl⟩
  case incidents =>
    let r : Incident :=
      ⟨Postmortem.Sample.incident, Postmortem.Sample.org, Postmortem.Sample.service, .open, none, 0, none, none⟩
    exact @Mirrors.singleton _ _ _ _ _ Incident.incidentId _ r ⟨rfl, rfl, rfl, rfl, rfl⟩
  case actions => exact Mirrors.empty
  case homes => decide +kernel
  case episodes =>
    intro _ mem
    cases mem
  case outcomes =>
    intro _ _ mem
    cases mem

lemma remediation_meets : Meets Postmortem.Sample.config pair remediation := by
  refine ⟨by decide +kernel, ?_⟩
  intro _
  refine ⟨nofun, fun _ _ => ?_⟩
  rw [if_pos (by decide +kernel)]
  exact ⟨⟨by decide +kernel, by decide +kernel, by decide +kernel⟩, by decide +kernel, by decide +kernel⟩

lemma outcome_meets : Meets Postmortem.Sample.config (both Postmortem.Sample.config pair remediation) outcome := by
  refine ⟨by decide +kernel, ?_⟩
  intro a i _ target _ _
  have found : (outcomeTarget (outcomeParams Runtime.sample Postmortem.Sample.outcome Postmortem.Sample.embedding)
      (both Postmortem.Sample.config pair remediation).db).map (fun t => (t.2.resolvedAt, t.2.openedAt)) =
        some (none, 0) := by
    decide +kernel
  have target : outcomeTarget (outcomeParams Runtime.sample Postmortem.Sample.outcome Postmortem.Sample.embedding)
      (both Postmortem.Sample.config pair remediation).db = some (a, i) := target
  rw [target] at found
  obtain ⟨unresolved, opened⟩ := Prod.mk.inj (Option.some.inj found)
  rw [unresolved]
  show i.openedAt ≤ (2000000 : ℤ)
  rw [opened]
  decide

end Sample

/-- A remediation and its outcome: the fake does what the database does. -/
theorem fake_refines_sample : Run.Each (both Postmortem.Sample.config)
    (fun t x => Refines Postmortem.Sample.config t x ∧ Corresponds Runtime.sample
      (both Postmortem.Sample.config t x).db (both Postmortem.Sample.config t x).fake)
    Sample.pair [Sample.remediation, Sample.outcome] :=
  fake_refines Sample.pair_corresponds ⟨Sample.remediation_meets, Sample.outcome_meets, trivial⟩

/-- The same command twice: the fake makes a second action, where the database returns the first. -/
theorem fake_repeats : Corresponds Runtime.sample Sample.pair.db Sample.pair.fake ∧
    ¬ Run.Each (both Postmortem.Sample.config) (Refines Postmortem.Sample.config) Sample.pair
      [Sample.remediation, (Postmortem.Sample.outcomeGenerated, Sample.remediation.2)] := by
  refine ⟨Sample.pair_corresponds, ?_⟩
  rintro ⟨_, ⟨_, repeated⟩, _⟩
  have again : (remediateAndRecord Postmortem.Sample.command Postmortem.Sample.outcomeGenerated
      Postmortem.Sample.embedding (both Postmortem.Sample.config Sample.pair Sample.remediation).fake).1.map
        RemediationResult.actionId = .ok Postmortem.Sample.outcomeGenerated.actionId := by
    decide +kernel
  have first : ∃ a ∈ (both Postmortem.Sample.config Sample.pair Sample.remediation).db.remediationActions,
      a.orgId = Postmortem.Sample.command.orgId ∧
        a.idempotencyKey = Postmortem.Sample.command.effectiveIdempotencyKey ∧
        a.actionId = Postmortem.Sample.generated.actionId := by
    decide +kernel
  obtain ⟨a, mem, org, key, named⟩ := first
  cases answered : remediateAndRecord Postmortem.Sample.command Postmortem.Sample.outcomeGenerated
      Postmortem.Sample.embedding (both Postmortem.Sample.config Sample.pair Sample.remediation).fake with
  | mk returned s' =>
    rw [answered] at again
    cases returned with
    | error e => cases again
    | ok result =>
      have same := repeated _ _ result s' rfl answered a mem org key
      have own := Except.ok.inj again
      rw [same, named] at own
      exact absurd own (by decide)

end FakeStore

end Postmortem
