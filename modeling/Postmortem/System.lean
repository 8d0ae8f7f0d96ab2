import Postmortem.Backend.Outcome
import Postmortem.Consolidation.Repository
import Postmortem.Lib.Run
import Mathlib.Tactic.Positivity
import Mathlib.Algebra.Order.Field.Basic

/-!
# The shared database

Everything that writes the memory tables, as one system: remediations, outcomes, applications of
consolidated candidates, a runbook an operator deprecates and an episode the TTL job deletes. Each
operation is one serializable transaction, so a run is a list of operations in commit order.

`step_spec` says once what a step can do; `step_admitted` and `run_admitted` are the first use of it:
the constraints of the schema hold along every run.
-/

namespace Postmortem

/-- How the components are configured. -/
structure Config where
  rt : Runtime
  retries : Nat := 3
  outcomeRetries : Nat := 3
  activation : Activation := {}

/-- `UPDATE procedural_memory SET status = 'deprecated' WHERE runbook_id = id`. -/
def deprecateRunbook (id : Uuid) (db : Database) : Database :=
  { db with
    proceduralMemory := CockroachRunbookRepository.updateRunbook id
      CockroachRunbookRepository.superseded db.proceduralMemory }

/-- `ON DELETE SET NULL`. -/
def unlink (id : Uuid) (ref : Option Uuid) : Option Uuid := if ref = some id then none else ref

/-- The TTL job deletes an episode (`0004_episodic_retention.sql`). -/
def expireEpisode (id : Uuid) (db : Database) : Database :=
  { db with
    episodicEvents := Table.delete (fun e => e.eventId = id) db.episodicEvents
    remediationActions := db.remediationActions.map fun a =>
      { a with memoryRef := unlink id a.memoryRef }
    runbookProvenance := db.runbookProvenance.map fun p =>
      { p with episodicEventId := unlink id p.episodicEventId }
    factProvenance := db.factProvenance.map fun p =>
      { p with episodicEventId := unlink id p.episodicEventId } }

/-- An operation of the system, with what its environment decides. -/
inductive Op where
  | remediate (env : RemediationEnv) (c : RemediationCommand) (embedding : Embedding)
  | recordOutcome (env : Nat → Fate) (c : OutcomeCommand) (embedding : Embedding)
  | consolidate (c : CandidateRunbook) (g : GeneratedRunbook)
  | retire (runbookId : Uuid)
  | expire (eventId : Uuid)

/-- One operation. -/
def step (cfg : Config) (db : Database) : Op → Database
  | .remediate env c embedding => (remediateAndRecord cfg.rt cfg.retries env c embedding db).1
  | .recordOutcome env c embedding =>
    (recordOutcome cfg.rt cfg.outcomeRetries env c embedding db).1
  | .consolidate c g =>
    match CockroachRunbookRepository.apply cfg.rt cfg.activation c g db with
    | .ok (db', _) => db'
    | .error _ => db
  | .retire id => deprecateRunbook id db
  | .expire id => expireEpisode id db

/-- What a step can do to the state. -/
inductive Stepped (cfg : Config) (db : Database) : Op → Database → Prop where
  | idle {op} : Stepped cfg db op db
  | remediate {env c embedding g db'} :
    Remediated (remediationParams cfg.rt c embedding) g db db' →
    Stepped cfg db (.remediate env c embedding) db'
  | recordOutcome {env c embedding g a i db'} :
    OutcomeRecorded cfg.rt (outcomeParams cfg.rt c embedding) g db a i db' →
    Stepped cfg db (.recordOutcome env c embedding) db'
  | consolidate {c g i db' m} :
    CockroachRunbookRepository.ids? c = some i →
    CockroachRunbookRepository.Applied cfg.rt cfg.activation c i g db db' m →
    Stepped cfg db (.consolidate c g) db'
  | retire {id} : Stepped cfg db (.retire id) (deprecateRunbook id db)
  | expire {id} : Stepped cfg db (.expire id) (expireEpisode id db)

lemma step_spec {cfg db op} : Stepped cfg db op (step cfg db op) := by
  cases op with
  | remediate env c embedding =>
    simp only [step]
    obtain e | ⟨g, wrote⟩ := @remediateAndRecord_spec cfg.rt cfg.retries env c embedding db
    · rw [e]
      exact .idle
    · exact .remediate wrote
  | recordOutcome env c embedding =>
    simp only [step]
    obtain e | ⟨g, a, i, records, e⟩ :=
      @recordOutcome_spec cfg.rt cfg.outcomeRetries env c embedding db
    · rw [e]
      exact .idle
    · rw [e]
      exact .recordOutcome records.written
  | consolidate c g =>
    simp only [step]
    split
    case h_1 db' m e =>
      obtain ⟨i, hi, applied⟩ := CockroachRunbookRepository.apply_spec e
      exact .consolidate hi applied
    case h_2 => exact .idle
  | retire id => exact .retire
  | expire id => exact .expire

/-! ## The constraints of the schema -/

section admitted

open CockroachRunbookRepository

variable {α κ : Type} {key : α → κ} {t t' : List α}

lemma Remediated.admitted {p g db db'} (adm : db.Admitted) (wrote : Remediated p g db db') :
    db'.Admitted := by
  obtain ⟨⟨target, _, gate⟩, unused, fresh, action, _, rfl⟩ := wrote
  obtain ⟨n, hn, no, ni, _⟩ := target
  have runbooks : ∀ r ∈ db.proceduralMemory, ∃ r' ∈ runbookUsage p g db.proceduralMemory,
      r'.runbookId = r.runbookId := key_update fun _ => rfl
  have incidents : ∀ i ∈ db.incidents, ∃ i' ∈ incidentUpdate p db.incidents,
      i'.incidentId = i.incidentId := key_update fun _ => rfl
  have incident : ∃ i ∈ incidentUpdate p db.incidents, i.incidentId = p.incidentId :=
    present_mono ⟨n, hn, ni⟩ incidents
  have cited : References Runbook.runbookId (runbookUsage p g db.proceduralMemory) p.runbookId := by
    intro x e
    obtain none | ⟨r, hr, _, er, _⟩ := gate
    · rw [e] at none; cases none
    · rw [e] at er
      exact present_mono ⟨r, hr, (Option.some.inj er).symm⟩ runbooks
  constructor
  case services => exact adm.services.update fun _ _ _ => rfl
  case deploys =>
    apply adm.deploys.insert
    intro d hd e
    exact fresh (.inl ⟨d, hd, e⟩)
  case incidents => exact adm.incidents.update fun _ _ _ => rfl
  case episodicEvents =>
    apply adm.episodicEvents.insert
    intro e he eq
    exact fresh (.inr (.inl ⟨e, he, eq⟩))
  case semanticFacts => exact adm.semanticFacts
  case runbooks => exact adm.runbooks.update fun _ _ _ => rfl
  case versions => exact adm.versions.update fun _ _ _ => rfl
  case provenance => exact adm.provenance
  case actions =>
    apply adm.actions.insert
    intro a ha eq
    exact fresh (.inr (.inr ⟨a, ha, eq⟩))
  case idempotency =>
    apply adm.idempotency.insert
    intro a ha eq
    obtain ⟨eo, ek⟩ := Prod.mk.inj eq
    exact unused ⟨a, ha, eo, ek⟩
  case incidentRunbook =>
    apply Table.forall_update
    · intro i hi
      exact (adm.incidentRunbook i hi).mono runbooks
    · intro i _ _
      exact cited
  case episodeRunbook =>
    apply Table.forall_insert
    · intro e he
      exact (adm.episodeRunbook e he).mono runbooks
    · exact cited
  case episodeIncident =>
    apply Table.forall_insert
    · intro e he
      exact (adm.episodeIncident e he).mono incidents
    · exact .of_present incident
  case memoryRef =>
    apply Table.forall_insert
    · intro a ha
      exact (adm.memoryRef a ha).mono key_append
    · exact .of_present ⟨actionEpisode p g, List.mem_append_right _ List.mem_cons_self, rfl⟩
  case actionIncident =>
    apply Table.forall_insert
    · intro a ha
      exact present_mono (adm.actionIncident a ha) incidents
    · exact incident
  case provenanceRunbook =>
    intro q hq
    exact present_mono (adm.provenanceRunbook q hq) runbooks
  case provenanceIncident =>
    intro q hq
    exact present_mono (adm.provenanceIncident q hq) incidents
  case provenanceEpisode =>
    intro q hq
    exact (adm.provenanceEpisode q hq).mono key_append
  case counts =>
    apply Table.forall_update adm.counts
    intro r hr _
    have h := adm.counts r hr
    show r.successCount + r.failureCount ≤ r.usageCount + 1
    omega
  case rate => exact Table.forall_update adm.rate fun r hr _ => adm.rate r hr
  case version => exact Table.forall_update adm.version fun r hr _ => adm.version r hr
  case timeOrder => exact Table.forall_update adm.timeOrder fun i hi _ => adm.timeOrder i hi

lemma OutcomeRecorded.admitted {rt p g db a i db'} (adm : db.Admitted)
    (wrote : OutcomeRecorded rt p g db a i db') : db'.Admitted := by
  obtain ⟨target, _, ordered, fresh, rfl⟩ := wrote
  obtain ⟨ha, hi, io, ii⟩ := outcomeTarget_spec target
  have incidents : ∀ n ∈ db.incidents, ∃ n' ∈ outcomeIncidentUpdate rt p db.incidents,
      n'.incidentId = n.incidentId := key_update fun _ => rfl
  constructor
  case services => exact adm.services
  case deploys => exact adm.deploys
  case incidents => exact adm.incidents.update fun _ _ _ => rfl
  case episodicEvents => exact adm.episodicEvents.insert fresh
  case semanticFacts => exact adm.semanticFacts
  case runbooks => exact adm.runbooks
  case versions => exact adm.versions
  case provenance => exact adm.provenance
  case actions => exact adm.actions.update fun _ _ _ => rfl
  case idempotency => exact adm.idempotency.update fun _ _ _ => rfl
  case incidentRunbook =>
    exact Table.forall_update adm.incidentRunbook fun n hn _ => adm.incidentRunbook n hn
  case episodeRunbook => exact Table.forall_insert adm.episodeRunbook (adm.incidentRunbook i hi)
  case episodeIncident =>
    apply Table.forall_insert
    · intro e he
      exact (adm.episodeIncident e he).mono incidents
    · exact .of_present (present_mono ⟨i, hi, ii⟩ incidents)
  case memoryRef =>
    have stays : ∀ b ∈ db.remediationActions, References EpisodicEvent.eventId
        (db.episodicEvents ++ [outcomeEpisode p g a i]) b.memoryRef := by
      intro b hb
      exact (adm.memoryRef b hb).mono key_append
    exact Table.forall_update stays fun b hb _ => stays b hb
  case actionIncident =>
    have stays : ∀ b ∈ db.remediationActions, ∃ n ∈ outcomeIncidentUpdate rt p db.incidents,
        n.incidentId = b.incidentId := by
      intro b hb
      exact present_mono (adm.actionIncident b hb) incidents
    exact Table.forall_update stays fun b hb _ => stays b hb
  case provenanceRunbook => exact adm.provenanceRunbook
  case provenanceIncident =>
    intro q hq
    exact present_mono (adm.provenanceIncident q hq) incidents
  case provenanceEpisode =>
    intro q hq
    exact (adm.provenanceEpisode q hq).mono key_append
  case counts => exact adm.counts
  case rate => exact adm.rate
  case version => exact adm.version
  case timeOrder =>
    apply Table.forall_update adm.timeOrder
    intro n hn sel t ht
    -- the selected incident is the one the CHECK was evaluated on
    obtain ⟨_, e⟩ := of_decide_eq_true sel
    obtain rfl := adm.incidents.eq hn hi (e.trans ii.symm)
    unfold TimeOrdered at ordered
    have e' : resolvedAt p n = some t := ht
    rw [e'] at ordered
    exact ordered

/-- The rows may take the place of `procedural_memory`. -/
structure RunbookRows (db : Database) (rows : List Runbook) : Prop where
  keys : ∀ r ∈ db.proceduralMemory, ∃ r' ∈ rows, r'.runbookId = r.runbookId
  runbooks : Table.Unique Runbook.runbookId rows
  versions : Table.Unique (fun r : Runbook => (r.orgId, r.agentId, r.name, r.version)) rows
  counts : ∀ r ∈ rows, r.successCount + r.failureCount ≤ r.usageCount
  rate : ∀ r ∈ rows, 0 ≤ r.successRate ∧ r.successRate ≤ 1
  version : ∀ r ∈ rows, 0 < r.version

lemma RunbookRows.admitted {rows} {db : Database} (adm : db.Admitted) (ok : RunbookRows db rows) :
    Database.Admitted { db with proceduralMemory := rows } := by
  constructor
  case services => exact adm.services
  case deploys => exact adm.deploys
  case incidents => exact adm.incidents
  case episodicEvents => exact adm.episodicEvents
  case semanticFacts => exact adm.semanticFacts
  case runbooks => exact ok.runbooks
  case versions => exact ok.versions
  case provenance => exact adm.provenance
  case actions => exact adm.actions
  case idempotency => exact adm.idempotency
  case incidentRunbook =>
    intro n hn
    exact (adm.incidentRunbook n hn).mono ok.keys
  case episodeRunbook =>
    intro e he
    exact (adm.episodeRunbook e he).mono ok.keys
  case episodeIncident => exact adm.episodeIncident
  case memoryRef => exact adm.memoryRef
  case actionIncident => exact adm.actionIncident
  case provenanceRunbook =>
    intro q hq
    exact present_mono (adm.provenanceRunbook q hq) ok.keys
  case provenanceIncident => exact adm.provenanceIncident
  case provenanceEpisode => exact adm.provenanceEpisode
  case counts => exact ok.counts
  case rate => exact ok.rate
  case version => exact ok.version
  case timeOrder => exact adm.timeOrder

/-- The runbooks of a call that writes, and its provenance row, keep the constraints. -/
lemma written_admitted {c i g id event role rows} {db : Database} (adm : db.Admitted)
    (ok : RunbookRows db rows) (hid : ∃ r ∈ rows, r.runbookId = id)
    (src : SourceEvent c i g id event db) : (written i g id event role rows db).Admitted :=
  have replaced := ok.admitted adm
  { replaced with
    provenance := adm.provenance.insert src.unused
    provenanceRunbook := Table.forall_insert replaced.provenanceRunbook hid
    provenanceIncident := Table.forall_insert replaced.provenanceIncident src.incident
    provenanceEpisode := Table.forall_insert replaced.provenanceEpisode (.of_present src.episode) }

/-- The columns an update of a runbook leaves alone, and the CHECKs its new values meet. -/
structure RunbookUpdate (f : Runbook → Runbook) : Prop where
  runbookId : ∀ r, (f r).runbookId = r.runbookId
  key : ∀ r, ((f r).orgId, (f r).agentId, (f r).name, (f r).version) =
    (r.orgId, r.agentId, r.name, r.version)
  counts : ∀ r, r.successCount + r.failureCount ≤ r.usageCount →
    (f r).successCount + (f r).failureCount ≤ (f r).usageCount
  rate : ∀ r, r.successCount + r.failureCount ≤ r.usageCount →
    0 ≤ r.successRate ∧ r.successRate ≤ 1 → 0 ≤ (f r).successRate ∧ (f r).successRate ≤ 1

lemma rate_of_le {a b : Nat} (h : a ≤ b + 1) : 0 ≤ (a : ℚ) / (b + 1) ∧ (a : ℚ) / (b + 1) ≤ 1 := by
  have pos : (0 : ℚ) < b + 1 := by positivity
  constructor
  · positivity
  · rw [div_le_one pos]
    exact_mod_cast h

lemma weakened_update {now} : RunbookUpdate (weakened now) where
  runbookId _ := rfl
  key _ := rfl
  counts r h := by
    show r.successCount + (r.failureCount + 1) ≤ r.usageCount + 1
    omega
  rate r h _ := rate_of_le (by omega)

lemma reinforced_update {activation now} : RunbookUpdate (reinforced activation now) where
  runbookId _ := rfl
  key _ := rfl
  counts r h := by
    show r.successCount + 1 + r.failureCount ≤ r.usageCount + 1
    omega
  rate r h _ := by
    have := @rate_of_le (r.successCount + 1) r.usageCount (by omega)
    push_cast at this
    exact this

lemma superseded_update : RunbookUpdate superseded where
  runbookId _ := rfl
  key _ := rfl
  counts _ h := h
  rate _ _ h := h

lemma updateRunbook_rows {f id} {db : Database} (adm : db.Admitted) (up : RunbookUpdate f) :
    RunbookRows db (updateRunbook id f db.proceduralMemory) := by
  constructor
  case keys => exact key_update up.runbookId
  case runbooks => exact adm.runbooks.update fun r _ _ => up.runbookId r
  case versions => exact adm.versions.update fun r _ _ => up.key r
  case counts =>
    apply Table.forall_update adm.counts
    intro r hr _
    exact up.counts r (adm.counts r hr)
  case rate =>
    apply Table.forall_update adm.rate
    intro r hr _
    exact up.rate r (adm.counts r hr) (adm.rate r hr)
  case version =>
    apply Table.forall_update adm.version
    intro r hr _
    have key := up.key r
    simp only [Prod.mk.injEq] at key
    rw [key.2.2.2]
    exact adm.version r hr

lemma supersede_rows {prior} {db : Database} (adm : db.Admitted) :
    RunbookRows db (supersede prior db.proceduralMemory) := by
  cases prior with
  | none =>
    exact ⟨fun r hr => ⟨r, hr, rfl⟩, adm.runbooks, adm.versions, adm.counts, adm.rate, adm.version⟩
  | some r => exact updateRunbook_rows adm superseded_update

/-- Superseding changes no key. -/
lemma mem_supersede {prior rows r} (h : r ∈ supersede prior rows) :
    ∃ r0 ∈ rows, r.runbookId = r0.runbookId ∧ r.orgId = r0.orgId ∧ r.agentId = r0.agentId ∧
      r.name = r0.name ∧ r.version = r0.version := by
  cases prior with
  | none => exact ⟨r, h, rfl, rfl, rfl, rfl, rfl⟩
  | some p =>
    obtain ⟨r0, hr0, rfl⟩ := Table.mem_update.mp h
    refine ⟨r0, hr0, ?_⟩
    split <;> exact ⟨rfl, rfl, rfl, rfl, rfl⟩

/-- A new version over the newest one keeps the rows in order. -/
lemma created_rows {rt c i g prior} {db : Database} (adm : db.Admitted)
    (hl : latest? i c.name db = prior) (fresh : ∀ r ∈ db.proceduralMemory, r.runbookId ≠ g.runbookId) :
    RunbookRows db
      (supersede prior db.proceduralMemory ++ [created rt c i (nextVersion prior) g]) := by
  have ok := @supersede_rows prior db adm
  have newest : ∀ r ∈ db.proceduralMemory, IsVersion i c.name r → r.version < nextVersion prior := by
    intro r hr is
    cases prior with
    | none => exact absurd is (latest?_eq_none.mp hl r hr)
    | some p => exact Nat.lt_succ_of_le (latest?_le hl r hr is)
  constructor
  case keys =>
    intro r hr
    obtain ⟨r', hr', e⟩ := ok.keys r hr
    exact ⟨r', List.mem_append_left _ hr', e⟩
  case runbooks =>
    apply ok.runbooks.insert
    intro s hs e
    obtain ⟨s0, hs0, es, _⟩ := mem_supersede hs
    exact fresh s0 hs0 (es.symm.trans e)
  case versions =>
    apply ok.versions.insert
    intro s hs e
    obtain ⟨s0, hs0, _, eo, ea, en, ev⟩ := mem_supersede hs
    simp only [Prod.mk.injEq] at e
    obtain ⟨o, a, n, v⟩ := e
    have lt := newest s0 hs0 ⟨eo.symm.trans o, ea.symm.trans a, en.symm.trans n⟩
    have v' : s.version = nextVersion prior := v
    omega
  case counts => exact Table.forall_insert ok.counts (Nat.le_refl 1)
  case rate => exact Table.forall_insert ok.rate ⟨zero_le_one, le_refl _⟩
  case version =>
    apply Table.forall_insert ok.version
    show 0 < nextVersion prior
    cases prior with
    | none => exact Nat.one_pos
    | some p => exact Nat.succ_pos _

lemma Applied.admitted {rt activation c i g db db' m} (adm : db.Admitted)
    (applied : Applied rt activation c i g db db' m) : db'.Admitted := by
  have present : ∀ {f r}, RunbookUpdate f → latest? i c.name db = some r →
      ∃ r' ∈ updateRunbook r.runbookId f db.proceduralMemory, r'.runbookId = r.runbookId := by
    intro f r up hl
    obtain ⟨hr, _⟩ := latest?_mem hl
    exact (updateRunbook_rows adm up).keys r hr
  cases applied with
  | replay _ => exact adm
  | ignored _ _ _ => exact adm
  | weaken _ hl _ src =>
    have up := @weakened_update g.now
    exact written_admitted adm (updateRunbook_rows adm up) (present up hl) src
  | create _ hl _ _ _ _ fresh src =>
    apply written_admitted adm (created_rows adm hl fresh) _ src
    exact ⟨_, List.mem_append_right _ List.mem_cons_self, rfl⟩
  | reinforce _ hl _ _ _ src =>
    have up := @reinforced_update activation g.now
    exact written_admitted adm (updateRunbook_rows adm up) (present up hl) src

lemma deprecateRunbook_admitted {id} {db : Database} (adm : db.Admitted) :
    (deprecateRunbook id db).Admitted :=
  (updateRunbook_rows adm superseded_update).admitted adm

/-- A reference that is not set to NULL is to an episode that is not deleted. -/
lemma unlink_references {id ref} {t : List EpisodicEvent}
    (h : References EpisodicEvent.eventId t ref) :
    References EpisodicEvent.eventId (Table.delete (fun e => e.eventId = id) t) (unlink id ref) := by
  intro x e
  unfold unlink at e
  split at e
  case isTrue => cases e
  case isFalse ne =>
    obtain ⟨r, hr, rfl⟩ := h x e
    refine ⟨r, Table.mem_delete.mpr ⟨hr, ?_⟩, rfl⟩
    apply decide_eq_false
    rintro rfl
    exact ne e

lemma expireEpisode_admitted {id} {db : Database} (adm : db.Admitted) :
    (expireEpisode id db).Admitted := by
  constructor
  case services => exact adm.services
  case deploys => exact adm.deploys
  case incidents => exact adm.incidents
  case episodicEvents => exact adm.episodicEvents.delete
  case semanticFacts => exact adm.semanticFacts
  case runbooks => exact adm.runbooks
  case versions => exact adm.versions
  case provenance => exact adm.provenance.map fun _ => rfl
  case actions => exact adm.actions.map fun _ => rfl
  case idempotency => exact adm.idempotency.map fun _ => rfl
  case incidentRunbook => exact adm.incidentRunbook
  case episodeRunbook =>
    intro e he
    exact adm.episodeRunbook e (Table.mem_delete.mp he).1
  case episodeIncident =>
    intro e he
    exact adm.episodeIncident e (Table.mem_delete.mp he).1
  case memoryRef =>
    intro a ha
    obtain ⟨a0, ha0, rfl⟩ := List.mem_map.mp ha
    exact unlink_references (adm.memoryRef a0 ha0)
  case actionIncident =>
    intro a ha
    obtain ⟨a0, ha0, rfl⟩ := List.mem_map.mp ha
    exact adm.actionIncident a0 ha0
  case provenanceRunbook =>
    intro q hq
    obtain ⟨q0, hq0, rfl⟩ := List.mem_map.mp hq
    exact adm.provenanceRunbook q0 hq0
  case provenanceIncident =>
    intro q hq
    obtain ⟨q0, hq0, rfl⟩ := List.mem_map.mp hq
    exact adm.provenanceIncident q0 hq0
  case provenanceEpisode =>
    intro q hq
    obtain ⟨q0, hq0, rfl⟩ := List.mem_map.mp hq
    exact unlink_references (adm.provenanceEpisode q0 hq0)
  case counts => exact adm.counts
  case rate => exact adm.rate
  case version => exact adm.version
  case timeOrder => exact adm.timeOrder

/-- A step keeps the constraints of the schema. -/
theorem step_admitted {cfg db op} (adm : db.Admitted) : (step cfg db op).Admitted := by
  generalize e : step cfg db op = db'
  have spec := @step_spec cfg db op
  rw [e] at spec
  cases spec with
  | idle => exact adm
  | remediate wrote => exact wrote.admitted adm
  | recordOutcome wrote => exact wrote.admitted adm
  | consolidate _ applied => exact Applied.admitted adm applied
  | retire => exact deprecateRunbook_admitted adm
  | expire => exact expireEpisode_admitted adm

/-- Every state a run reaches meets the constraints of the schema. -/
theorem run_admitted {cfg db ops} (adm : db.Admitted) : (Run.run (step cfg) db ops).Admitted :=
  Run.run_invariant (fun _ _ _ => step_admitted) adm

end admitted

/-! ## What a step leaves of the memory tables -/

/-- A step other than a deletion leaves every action in place, up to its outcome, and every episode. -/
lemma step_keeps {cfg op} {db : Database} (ne : ∀ id, op ≠ .expire id) :
    (∀ a ∈ db.remediationActions, ∃ o : ActionOutcome,
        { a with outcome := o } ∈ (step cfg db op).remediationActions) ∧
      ∀ e ∈ db.episodicEvents, e ∈ (step cfg db op).episodicEvents := by
  generalize e : step cfg db op = db'
  have spec := @step_spec cfg db op
  rw [e] at spec
  cases spec with
  | idle => exact ⟨fun a ha => ⟨a.outcome, ha⟩, fun _ h => h⟩
  | remediate wrote =>
    obtain ⟨_, _, _, action, _, rfl⟩ := wrote
    exact ⟨fun a ha => ⟨a.outcome, List.mem_append_left _ ha⟩, fun _ h => List.mem_append_left _ h⟩
  | @recordOutcome _ c embedding _ _ _ _ wrote =>
    obtain ⟨_, _, _, _, rfl⟩ := wrote
    refine ⟨?_, fun _ h => List.mem_append_left _ h⟩
    intro a ha
    by_cases sel : a.actionId = c.actionId
    · exact ⟨c.outcome.stored, Table.mem_update.mpr ⟨a, ha, by simp [sel, outcomeParams]⟩⟩
    · exact ⟨a.outcome, Table.mem_update.mpr ⟨a, ha, by simp [sel, outcomeParams]⟩⟩
  | consolidate _ applied =>
    cases applied <;> exact ⟨fun a ha => ⟨a.outcome, ha⟩, fun _ h => h⟩
  | retire => exact ⟨fun a ha => ⟨a.outcome, ha⟩, fun _ h => h⟩
  | expire => exact absurd rfl (ne _)

/-! ## An example organization

One service with an open incident and one memory of it, used where a result is evaluated. -/

namespace Sample

def org : Uuid := .sample 1
def agent : Uuid := .sample 2
def incident : Uuid := .sample 3
def session : Uuid := .sample 4
def service : Uuid := .sample 5
def memory : Uuid := .sample 6

def config : Config := { rt := Runtime.sample }

def embedding : Embedding := List.replicate 1024 1

/-- The cited memory: an observation on the service. -/
def observation : EpisodicEvent where
  eventId := memory
  orgId := org
  agentId := agent
  incidentId := none
  sessionId := none
  serviceId := some service
  occurredAt := 0
  eventType := .observation
  content := some "deploy of v2"
  metadata := .obj []
  runbookId := none
  importance := 1 / 2
  embedding := some embedding
  createdAt := 0

def db : Database where
  organizations := [org]
  services := [⟨service, org, "checkout", .degraded, "v2", none, 0⟩]
  incidents := [⟨incident, org, service, .open, none, 0, none, none⟩]
  episodicEvents := [observation]

/-- A rollback that cites the memory. -/
def command : RemediationCommand where
  orgId := org
  agentId := agent
  incidentId := incident
  sessionId := session
  serviceId := service
  action := .rollback
  targetVersion := "v1"
  citedMemoryId := memory
  runbookId := none
  rationale := "errors since v2"

def generated : Generated := ⟨1000000, .sample 7, .sample 8, .sample 9, .sample 10⟩

/-- The verified outcome of the rollback. -/
def outcome : OutcomeCommand where
  orgId := org
  agentId := agent
  incidentId := incident
  serviceId := service
  actionId := generated.actionId
  outcome := .success
  summary := "recovered"
  observedAt := 2000000

def outcomeGenerated : Generated := ⟨3000000, .sample 11, .sample 12, .sample 13, .sample 14⟩

/-- The environment in which the first attempt commits. -/
def commits (g : Generated) : RemediationEnv := ⟨fun _ => .commit g, true⟩

def remediate : Op := .remediate (commits generated) command embedding

def recordOutcome : Op := .recordOutcome (fun _ => .commit outcomeGenerated) outcome embedding

lemma db_admitted : db.Admitted := by
  constructor <;> simp [db, observation, Table.Unique, References]

end Sample

end Postmortem
