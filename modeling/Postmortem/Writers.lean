import Postmortem.System
import Postmortem.Backend.Facts
import Postmortem.Lib.Evolve

/-!
# The writers leave a record

All that writes the memory tables, the operations of `System` and the fact transitions, as one system. What
its runs leave of the rows that are there is `Database.Keeps`: deployments, actions, runbooks, facts and the
provenance of both stay where they are and are followed by new ones, of an episode only the TTL job disposes,
and a row that stays changes in the columns that record its progress and in no other.
-/

namespace Postmortem

/-- A write of the system. -/
inductive Write where
  | op (op : Op)
  | transition (op : TransitionOp)

/-- One write. -/
def writeStep (cfg : Config) (db : Database) : Write → Database
  | .op op => step cfg db op
  | .transition op => { db with semanticFacts := transitionStep cfg.rt db.semanticFacts op }

/-- `Database.Admitted`, and the constraints of services, facts and their provenance that results about all
tables use. -/
structure Database.Sound (db : Database) : Prop where
  admitted : db.Admitted
  facts : FactsAdmitted db.semanticFacts
  factEpisode : ∀ p ∈ db.factProvenance, References EpisodicEvent.eventId db.episodicEvents p.episodicEventId
  provenanceFact : ∀ p ∈ db.factProvenance, ∃ f ∈ db.semanticFacts, f.factId = p.factId
  serviceDeploy : ∀ s ∈ db.services, References Deploy.deployId db.deploys s.currentDeployId

/-- An operation other than a transition leaves the facts alone, and all but a deletion their provenance. -/
lemma step_facts {cfg db op} : (step cfg db op).semanticFacts = db.semanticFacts ∧
    ((∀ id, op ≠ .expire id) → (step cfg db op).factProvenance = db.factProvenance) := by
  generalize e : step cfg db op = db'
  have spec := @step_spec cfg db op
  rw [e] at spec
  cases spec with
  | idle => exact ⟨rfl, fun _ => rfl⟩
  | remediate wrote =>
    obtain ⟨_, _, _, action, _, rfl⟩ := wrote
    exact ⟨rfl, fun _ => rfl⟩
  | recordOutcome wrote =>
    obtain ⟨_, _, _, _, rfl⟩ := wrote
    exact ⟨rfl, fun _ => rfl⟩
  | consolidate _ applied =>
    cases applied with
    | replay => exact ⟨rfl, fun _ => rfl⟩
    | ignored => exact ⟨rfl, fun _ => rfl⟩
    | weaken => exact ⟨rfl, fun _ => rfl⟩
    | create => exact ⟨rfl, fun _ => rfl⟩
    | reinforce => exact ⟨rfl, fun _ => rfl⟩
  | retire => exact ⟨rfl, fun _ => rfl⟩
  | expire => exact ⟨rfl, fun kept => absurd rfl (kept _)⟩

lemma step_factEpisode {cfg} {db : Database} {op} (sound : db.Sound) : ∀ p ∈ (step cfg db op).factProvenance,
    References EpisodicEvent.eventId (step cfg db op).episodicEvents p.episodicEventId := by
  by_cases expires : ∃ id, op = .expire id
  · obtain ⟨id, rfl⟩ := expires
    intro p hp
    obtain ⟨q, hq, rfl⟩ := List.mem_map.mp hp
    exact unlink_references (sound.factEpisode q hq)
  · have kept : ∀ id, op ≠ .expire id := fun id e => expires ⟨id, e⟩
    rw [step_facts.2 kept]
    intro p hp
    exact (sound.factEpisode p hp).mono fun e he => ⟨e, (step_keeps kept).2 e he, rfl⟩

/-- The provenance of facts names the facts that it named. -/
lemma step_provenanceFact {cfg} {db : Database} {op} : ∀ p ∈ (step cfg db op).factProvenance,
    ∃ q ∈ db.factProvenance, q.factId = p.factId := by
  by_cases expires : ∃ id, op = .expire id
  · obtain ⟨id, rfl⟩ := expires
    intro p hp
    obtain ⟨q, hq, rfl⟩ := List.mem_map.mp hp
    exact ⟨q, hq, rfl⟩
  · have kept : ∀ id, op ≠ .expire id := fun id e => expires ⟨id, e⟩
    rw [step_facts.2 kept]
    exact fun p hp => ⟨p, hp, rfl⟩

lemma Remediated.serviceDeploy {p g} {db db' : Database} (wrote : Remediated p g db db')
    (deployed : ∀ s ∈ db.services, References Deploy.deployId db.deploys s.currentDeployId) :
    ∀ s ∈ db'.services, References Deploy.deployId db'.deploys s.currentDeployId := by
  obtain ⟨_, _, _, action, _, rfl⟩ := wrote
  apply Table.forall_update
  case kept => exact fun s hs => (deployed s hs).mono key_append
  case changed => exact fun _ _ _ => .of_present ⟨deployRow p g action, by simp [remediated], rfl⟩

/-- The deployment of a service is there. -/
lemma step_serviceDeploy {cfg} {db : Database} {op}
    (deployed : ∀ s ∈ db.services, References Deploy.deployId db.deploys s.currentDeployId) :
    ∀ s ∈ (step cfg db op).services, References Deploy.deployId (step cfg db op).deploys s.currentDeployId := by
  generalize e : step cfg db op = db'
  have spec := @step_spec cfg db op
  rw [e] at spec
  cases spec with
  | idle => exact deployed
  | remediate wrote => exact wrote.serviceDeploy deployed
  | recordOutcome wrote =>
    obtain ⟨_, _, _, _, rfl⟩ := wrote
    exact deployed
  | consolidate _ applied =>
    cases applied with
    | replay => exact deployed
    | ignored => exact deployed
    | weaken => exact deployed
    | create => exact deployed
    | reinforce => exact deployed
  | retire => exact deployed
  | expire => exact deployed

/-- A fact stays, closed or not. -/
lemma Transitioned.stays {p now} {facts facts' : List SemanticFact} (moved : Transitioned p now facts facts') :
    ∀ f ∈ facts, ∃ f' ∈ facts', f'.factId = f.factId := by
  obtain ⟨_, _, q, _, rfl⟩ := moved
  intro f hf
  have keys : ∀ f, (replacedBy p f).factId = f.factId := fun _ => rfl
  obtain ⟨f', hf', e⟩ := key_update keys f hf
  exact ⟨f', List.mem_append_left _ hf', e⟩

lemma transition_admitted {db : Database} {facts} (adm : db.Admitted) (ids : Table.Unique SemanticFact.factId facts) :
    Database.Admitted { db with semanticFacts := facts } :=
  { adm with semanticFacts := ids }

/-- A write keeps the constraints. -/
lemma writeStep_sound {cfg} {db : Database} {w} (sound : db.Sound) : (writeStep cfg db w).Sound := by
  cases w with
  | op op =>
    constructor
    case admitted => exact step_admitted sound.admitted
    case facts =>
      show FactsAdmitted (step cfg db op).semanticFacts
      rw [step_facts.1]
      exact sound.facts
    case factEpisode => exact step_factEpisode sound
    case provenanceFact =>
      intro p hp
      obtain ⟨q, hq, e⟩ := step_provenanceFact p hp
      rw [← e]
      show ∃ f ∈ (step cfg db op).semanticFacts, f.factId = q.factId
      rw [step_facts.1]
      exact sound.provenanceFact q hq
    case serviceDeploy => exact step_serviceDeploy sound.serviceDeploy
  | transition op =>
    have facts : FactsAdmitted (transitionStep cfg.rt db.semanticFacts op) := transitionStep_admitted sound.facts
    -- a transition closes facts and removes none
    have named : ∀ p ∈ db.factProvenance, ∃ f ∈ transitionStep cfg.rt db.semanticFacts op, f.factId = p.factId := by
      rcases @transitionStep_spec cfg.rt db.semanticFacts op sound.facts with idle | ⟨now, moved⟩
      · rw [idle]
        exact sound.provenanceFact
      · exact fun p hp => present_mono (sound.provenanceFact p hp) moved.stays
    exact ⟨transition_admitted sound.admitted facts.ids, facts, sound.factEpisode, named, sound.serviceDeploy⟩

/-! ## What may become of a row -/

/-- A service keeps its identity. -/
structure Service.Keeps (s s' : Service) : Prop where
  identity : (s'.serviceId, s'.orgId, s'.name) = (s.serviceId, s.orgId, s.name)

/-- An incident keeps its identity and its opening, and its resolution once it has one. -/
structure Incident.Keeps (i i' : Incident) : Prop where
  identity : (i'.incidentId, i'.orgId, i'.serviceId, i'.openedAt) = (i.incidentId, i.orgId, i.serviceId, i.openedAt)
  resolved : i.status = .resolved → i'.status = .resolved
  resolvedAt : ∀ t, i.resolvedAt = some t → i'.resolvedAt = some t
  mttrSeconds : ∀ n, i.mttrSeconds = some n → i'.mttrSeconds = some n

/-- An action keeps all columns but its outcome, and the reference to its episode or no reference. -/
structure RemediationAction.Keeps (a a' : RemediationAction) : Prop where
  columns : { a' with outcome := a.outcome, memoryRef := a.memoryRef } = a
  memoryRef : a'.memoryRef = a.memoryRef ∨ a'.memoryRef = none

/-- A provenance row keeps all columns, and the reference to its episode or no reference. -/
structure RunbookProvenance.Keeps (p p' : RunbookProvenance) : Prop where
  columns : { p' with episodicEventId := p.episodicEventId } = p
  episode : p'.episodicEventId = p.episodicEventId ∨ p'.episodicEventId = none

/-- The provenance of a fact, likewise. -/
structure FactProvenance.Keeps (p p' : FactProvenance) : Prop where
  columns : { p' with episodicEventId := p.episodicEventId } = p
  episode : p'.episodicEventId = p.episodicEventId ∨ p'.episodicEventId = none

/-- A runbook keeps the procedure it is, its counters do not fall, and it stays deprecated. -/
structure Runbook.Keeps (r r' : Runbook) : Prop where
  procedure : { r' with
    status := r.status
    usageCount := r.usageCount
    successCount := r.successCount
    failureCount := r.failureCount
    successRate := r.successRate
    lastUsedAt := r.lastUsedAt } = r
  usageCount : r.usageCount ≤ r'.usageCount
  successCount : r.successCount ≤ r'.successCount
  failureCount : r.failureCount ≤ r'.failureCount
  deprecated : r.status = .deprecated → r'.status = .deprecated

/-- A fact keeps what it states, and once it is closed it stays as it is. -/
structure SemanticFact.Keeps (f f' : SemanticFact) : Prop where
  statement : { f' with validTo := f.validTo, supersededBy := f.supersededBy } = f
  closed : f.validTo ≠ none → f' = f

section rows

lemma Service.Keeps.refl (s : Service) : s.Keeps s := ⟨rfl⟩

lemma Service.Keeps.trans {s t u : Service} (h : s.Keeps t) (h' : t.Keeps u) : s.Keeps u :=
  ⟨h'.identity.trans h.identity⟩

lemma Incident.Keeps.refl (i : Incident) : i.Keeps i := ⟨rfl, id, fun _ => id, fun _ => id⟩

lemma Incident.Keeps.trans {i j k : Incident} (h : i.Keeps j) (h' : j.Keeps k) : i.Keeps k where
  identity := h'.identity.trans h.identity
  resolved e := h'.resolved (h.resolved e)
  resolvedAt t e := h'.resolvedAt t (h.resolvedAt t e)
  mttrSeconds n e := h'.mttrSeconds n (h.mttrSeconds n e)

lemma RemediationAction.Keeps.refl (a : RemediationAction) : a.Keeps a := ⟨rfl, .inl rfl⟩

lemma RemediationAction.Keeps.trans {a b c : RemediationAction} (h : a.Keeps b) (h' : b.Keeps c) : a.Keeps c := by
  obtain ⟨columns, ref⟩ := h
  obtain ⟨columns', ref'⟩ := h'
  constructor
  · rw [← columns, ← columns']
  · rcases ref' with same | unlinked
    · rw [same]
      exact ref
    · exact .inr unlinked

lemma RunbookProvenance.Keeps.refl (p : RunbookProvenance) : p.Keeps p := ⟨rfl, .inl rfl⟩

lemma RunbookProvenance.Keeps.trans {p q r : RunbookProvenance} (h : p.Keeps q) (h' : q.Keeps r) : p.Keeps r := by
  obtain ⟨columns, ref⟩ := h
  obtain ⟨columns', ref'⟩ := h'
  constructor
  · rw [← columns, ← columns']
  · rcases ref' with same | unlinked
    · rw [same]
      exact ref
    · exact .inr unlinked

lemma FactProvenance.Keeps.refl (p : FactProvenance) : p.Keeps p := ⟨rfl, .inl rfl⟩

lemma FactProvenance.Keeps.trans {p q r : FactProvenance} (h : p.Keeps q) (h' : q.Keeps r) : p.Keeps r := by
  obtain ⟨columns, ref⟩ := h
  obtain ⟨columns', ref'⟩ := h'
  constructor
  · rw [← columns, ← columns']
  · rcases ref' with same | unlinked
    · rw [same]
      exact ref
    · exact .inr unlinked

lemma Runbook.Keeps.refl (r : Runbook) : r.Keeps r := ⟨rfl, le_refl _, le_refl _, le_refl _, id⟩

lemma Runbook.Keeps.trans {r s t : Runbook} (h : r.Keeps s) (h' : s.Keeps t) : r.Keeps t where
  procedure := by rw [← h.procedure, ← h'.procedure]
  usageCount := h.usageCount.trans h'.usageCount
  successCount := h.successCount.trans h'.successCount
  failureCount := h.failureCount.trans h'.failureCount
  deprecated e := h'.deprecated (h.deprecated e)

lemma SemanticFact.Keeps.refl (f : SemanticFact) : f.Keeps f := ⟨rfl, fun _ => rfl⟩

lemma SemanticFact.Keeps.trans {f g h : SemanticFact} (first : f.Keeps g) (second : g.Keeps h) : f.Keeps h where
  statement := by rw [← first.statement, ← second.statement]
  closed e := by
    have same := first.closed e
    rw [← same] at e
    rw [second.closed e, same]

end rows

/-- What a run leaves of the rows of a table that stays: each changed as `R` allows, and then new ones. -/
abbrev Grows {α : Type} (R : α → α → Prop) : List α → List α → Prop := Evolves R fun _ => True

/-- The rows of the first state are still there in the second, and what they record. -/
structure Database.Keeps (db db' : Database) : Prop where
  organizations : db'.organizations = db.organizations
  services : Evolves Service.Keeps (fun _ => False) db.services db'.services
  deploys : Grows Eq db.deploys db'.deploys
  incidents : Evolves Incident.Keeps (fun _ => False) db.incidents db'.incidents
  episodes : ∃ kept written, db'.episodicEvents = kept ++ written ∧ kept.Sublist db.episodicEvents
  actions : Grows RemediationAction.Keeps db.remediationActions db'.remediationActions
  runbooks : Grows Runbook.Keeps db.proceduralMemory db'.proceduralMemory
  provenance : Grows RunbookProvenance.Keeps db.runbookProvenance db'.runbookProvenance
  facts : Grows SemanticFact.Keeps db.semanticFacts db'.semanticFacts
  factProvenance : Grows FactProvenance.Keeps db.factProvenance db'.factProvenance

namespace Database.Keeps

lemma refl (db : Database) : db.Keeps db where
  organizations := rfl
  services := .refl Service.Keeps.refl
  deploys := .refl Eq.refl
  incidents := .refl Incident.Keeps.refl
  episodes := ⟨db.episodicEvents, [], (List.append_nil _).symm, List.Sublist.refl _⟩
  actions := .refl RemediationAction.Keeps.refl
  runbooks := .refl Runbook.Keeps.refl
  provenance := .refl RunbookProvenance.Keeps.refl
  facts := .refl SemanticFact.Keeps.refl
  factProvenance := .refl FactProvenance.Keeps.refl

/-- Of the episodes that were kept and then written, some are kept. -/
lemma kept_trans {a b c : List EpisodicEvent} (h : ∃ kept written, b = kept ++ written ∧ kept.Sublist a)
    (h' : ∃ kept written, c = kept ++ written ∧ kept.Sublist b) : ∃ kept written, c = kept ++ written ∧ kept.Sublist a := by
  obtain ⟨kept, written, rfl, sub⟩ := h
  obtain ⟨kept', written', rfl, sub'⟩ := h'
  obtain ⟨old, new, rfl, fromKept, _⟩ := List.sublist_append_iff.mp sub'
  exact ⟨old, new ++ written', List.append_assoc _ _ _, fromKept.trans sub⟩

lemma trans {a b c : Database} (h : a.Keeps b) (h' : b.Keeps c) : a.Keeps c where
  organizations := h'.organizations.trans h.organizations
  services := h.services.trans (fun _ _ _ => Service.Keeps.trans) (fun _ _ _ => id) h'.services
  deploys := h.deploys.trans (fun _ _ _ => Eq.trans) (fun _ _ _ => id) h'.deploys
  incidents := h.incidents.trans (fun _ _ _ => Incident.Keeps.trans) (fun _ _ _ => id) h'.incidents
  episodes := kept_trans h.episodes h'.episodes
  actions := h.actions.trans (fun _ _ _ => RemediationAction.Keeps.trans) (fun _ _ _ => id) h'.actions
  runbooks := h.runbooks.trans (fun _ _ _ => Runbook.Keeps.trans) (fun _ _ _ => id) h'.runbooks
  provenance := h.provenance.trans (fun _ _ _ => RunbookProvenance.Keeps.trans) (fun _ _ _ => id) h'.provenance
  facts := h.facts.trans (fun _ _ _ => SemanticFact.Keeps.trans) (fun _ _ _ => id) h'.facts
  factProvenance := h.factProvenance.trans (fun _ _ _ => FactProvenance.Keeps.trans) (fun _ _ _ => id) h'.factProvenance

end Database.Keeps

/-! ## One write -/

section step

variable {db db' : Database}

lemma Remediated.keeps {p g} (unique : Table.Unique Incident.incidentId db.incidents)
    (wrote : Remediated p g db db') : db.Keeps db' := by
  obtain ⟨⟨⟨n, hn, _, name, _, unresolved, _⟩, _⟩, _, _, action, _, rfl⟩ := wrote
  have same := Database.Keeps.refl db
  -- the incident that the statement updates is the one it found open or mitigating
  have mitigates : ∀ i ∈ db.incidents, decide (i.orgId = p.orgId ∧ i.incidentId = p.incidentId) = true →
      i.Keeps { i with status := .mitigating, runbookId := p.runbookId } := by
    intro i hi sel
    have found : i = n := unique.eq hi hn ((of_decide_eq_true sel).2.trans name.symm)
    refine ⟨rfl, ?_, fun _ => id, fun _ => id⟩
    rw [found]
    rintro resolved
    rw [resolved] at unresolved
    rcases unresolved with ⟨⟨⟩⟩ | ⟨⟨⟩⟩
  constructor
  case organizations => rfl
  case services => exact .update Service.Keeps.refl fun _ => ⟨rfl⟩
  case deploys => exact same.deploys.insert trivial
  case incidents => exact .update_selected Incident.Keeps.refl mitigates
  case episodes => exact ⟨_, _, rfl, List.Sublist.refl _⟩
  case actions => exact same.actions.insert trivial
  case runbooks => exact .update Runbook.Keeps.refl fun r => ⟨rfl, Nat.le_succ _, le_refl _, le_refl _, id⟩
  case provenance => exact same.provenance
  case facts => exact same.facts
  case factProvenance => exact same.factProvenance

lemma OutcomeRecorded.keeps {rt p g a i} (wrote : OutcomeRecorded rt p g db a i db') : db.Keeps db' := by
  obtain ⟨_, _, _, _, rfl⟩ := wrote
  have same := Database.Keeps.refl db
  have resolved : ∀ n, Incident.Keeps n (resolve rt p n) := by
    intro n
    refine ⟨rfl, ?_, ?_, ?_⟩
    · intro e
      show (if p.outcome = .success then IncidentStatus.resolved else n.status) = .resolved
      split
      · rfl
      · exact e
    · intro t e
      show resolvedAt p n = some t
      unfold resolvedAt
      split
      · rw [e]
        rfl
      · exact e
    · intro m e
      show (if p.outcome = .success then _ else n.mttrSeconds) = some m
      split
      · rw [e]
        rfl
      · exact e
  constructor
  case organizations => rfl
  case services => exact same.services
  case deploys => exact same.deploys
  case incidents => exact .update Incident.Keeps.refl resolved
  case episodes => exact ⟨_, _, rfl, List.Sublist.refl _⟩
  case actions => exact .update RemediationAction.Keeps.refl fun _ => ⟨rfl, .inl rfl⟩
  case runbooks => exact same.runbooks
  case provenance => exact same.provenance
  case facts => exact same.facts
  case factProvenance => exact same.factProvenance

/-- Runbooks that are kept, and a provenance row. -/
lemma written_keeps {i g id event role rows} (runbooks : Grows Runbook.Keeps db.proceduralMemory rows) :
    db.Keeps (CockroachRunbookRepository.written i g id event role rows db) :=
  have same := Database.Keeps.refl db
  { same with
    runbooks
    provenance := same.provenance.insert trivial }

lemma superseded_keeps (r : Runbook) : r.Keeps (CockroachRunbookRepository.superseded r) :=
  ⟨rfl, le_refl _, le_refl _, le_refl _, fun _ => rfl⟩

lemma weakened_keeps {now} (r : Runbook) : r.Keeps (CockroachRunbookRepository.weakened now r) := by
  refine ⟨rfl, Nat.le_succ _, le_refl _, Nat.le_succ _, ?_⟩
  intro e
  show (if r.failureCount + 1 ≥ r.successCount then RunbookStatus.deprecated else r.status) = .deprecated
  split
  · rfl
  · exact e

lemma reinforced_keeps {activation now} (r : Runbook) :
    r.Keeps (CockroachRunbookRepository.reinforced activation now r) := by
  refine ⟨rfl, Nat.le_succ _, Nat.le_succ _, le_refl _, ?_⟩
  intro e
  show (if r.status = .draft ∧ _ then RunbookStatus.active else r.status) = .deprecated
  split
  case isTrue draft =>
    rw [e] at draft
    cases draft.1
  case isFalse => exact e

lemma updateRunbook_grows {id f} {rows : List Runbook} (change : ∀ r : Runbook, r.Keeps (f r)) :
    Grows Runbook.Keeps rows (CockroachRunbookRepository.updateRunbook id f rows) :=
  .update Runbook.Keeps.refl change

lemma supersede_grows {prior} {rows : List Runbook} :
    Grows Runbook.Keeps rows (CockroachRunbookRepository.supersede prior rows) := by
  cases prior with
  | none => exact .refl Runbook.Keeps.refl
  | some r => exact updateRunbook_grows superseded_keeps

lemma applied_keeps {rt activation c i g m}
    (applied : CockroachRunbookRepository.Applied rt activation c i g db db' m) : db.Keeps db' := by
  cases applied with
  | replay => exact .refl db
  | ignored => exact .refl db
  | weaken => exact written_keeps (updateRunbook_grows weakened_keeps)
  | create => exact written_keeps (supersede_grows.insert trivial)
  | reinforce => exact written_keeps (updateRunbook_grows reinforced_keeps)

lemma deprecateRunbook_keeps {id} : db.Keeps (deprecateRunbook id db) :=
  { Database.Keeps.refl db with runbooks := updateRunbook_grows superseded_keeps }

/-- A table whose rows are changed one by one. -/
lemma grows_map {α : Type} {R : α → α → Prop} {f : α → α} {rows : List α} (change : ∀ r, R r (f r)) :
    Grows R rows (rows.map f) := by
  induction rows with
  | nil => exact .born nofun
  | cons r rows ih => exact .cons (change r) ih

lemma unlink_eq {id} {ref : Option Uuid} : unlink id ref = ref ∨ unlink id ref = none := by
  unfold unlink
  split
  · exact .inr rfl
  · exact .inl rfl

lemma expireEpisode_keeps {id} : db.Keeps (expireEpisode id db) :=
  { Database.Keeps.refl db with
    episodes := ⟨_, [], (List.append_nil _).symm, List.filter_sublist⟩
    actions := grows_map fun _ => ⟨rfl, unlink_eq⟩
    provenance := grows_map fun _ => ⟨rfl, unlink_eq⟩
    factProvenance := grows_map fun _ => ⟨rfl, unlink_eq⟩ }

/-- A transition closes facts that are current and adds one. -/
lemma Transitioned.grows {p now} {facts facts' : List SemanticFact} (moved : Transitioned p now facts facts') :
    Grows SemanticFact.Keeps facts facts' := by
  obtain ⟨_, _, q, _, rfl⟩ := moved
  refine Evolves.insert ?_ trivial
  apply grows_map
  intro f
  show f.Keeps (if decide (f.CurrentOf p.key) then replacedBy p f else f)
  split
  case isTrue sel =>
    obtain ⟨_, current⟩ := of_decide_eq_true sel
    exact ⟨rfl, fun e => absurd current e⟩
  case isFalse => exact .refl f

lemma writeStep_keeps {cfg w} (sound : db.Sound) : db.Keeps (writeStep cfg db w) := by
  cases w with
  | op op =>
    show db.Keeps (step cfg db op)
    generalize e : step cfg db op = db'
    have spec := @step_spec cfg db op
    rw [e] at spec
    cases spec with
    | idle => exact .refl db
    | remediate wrote => exact wrote.keeps sound.admitted.incidents
    | recordOutcome wrote => exact wrote.keeps
    | consolidate _ applied => exact applied_keeps applied
    | retire => exact deprecateRunbook_keeps
    | expire => exact expireEpisode_keeps
  | transition op =>
    have same := Database.Keeps.refl db
    rcases @transitionStep_spec cfg.rt db.semanticFacts op sound.facts with idle | ⟨now, moved⟩
    · show db.Keeps { db with semanticFacts := transitionStep cfg.rt db.semanticFacts op }
      rw [idle]
      exact same
    · exact { same with facts := moved.grows }

end step

/-- Whatever the writers do, and in whatever order, no row is rewritten: deployments, actions, runbooks, facts and
the provenance of both stay in place, changed only in the columns that record their progress, an incident that
is resolved stays resolved at its time, a closed fact stays as it is, and only episodes are ever deleted. -/
theorem writers_keep_records {cfg : Config} {db : Database} {ws : List Write} (sound : db.Sound) :
    db.Keeps (Run.run (writeStep cfg) db ws) := by
  have both : db.Sound → (Run.run (writeStep cfg) db ws).Sound ∧ db.Keeps (Run.run (writeStep cfg) db ws) := by
    apply Run.run_relation (R := fun s t : Database => s.Sound → t.Sound ∧ s.Keeps t)
    · exact fun s sound => ⟨sound, .refl s⟩
    · intro s t u first second sound
      obtain ⟨sound, keeps⟩ := first sound
      obtain ⟨sound, keeps'⟩ := second sound
      exact ⟨sound, keeps.trans keeps'⟩
    · exact fun s _ _ sound => ⟨writeStep_sound sound, writeStep_keeps sound⟩
  exact (both sound).2

/-- The rows of the example organization, through a remediation, its outcome, and the end of the memory it cites. -/
theorem writers_keep_records_sample : Sample.db.Keeps (Run.run (writeStep Sample.config) Sample.db
    [.op Sample.remediate, .op Sample.recordOutcome, .op (.expire Sample.memory)]) :=
  writers_keep_records
    { admitted := Sample.db_admitted
      facts := .empty
      factEpisode := by simp [Sample.db]
      provenanceFact := by simp [Sample.db]
      serviceDeploy := by simp [Sample.db, References] }

end Postmortem
