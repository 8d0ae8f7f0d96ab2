import Postmortem.Consolidation.Model
import Postmortem.Lib.Tenancy
import Postmortem.Writers

/-!
# Organizations do not meet

What an organization has in the database is `Database.tenant`, and a write is on behalf of one organization
(`Write.For`). In a state where no row refers to a row of another organization (`Database.Separated`), a write
for one organization leaves what every other one has as it is, and the state stays separated. The one thing the
statements do not check themselves is that a consolidated candidate comes from an incident and an episode of
its own organization (`Write.OwnEvidence`), which the grouping of the rows gives (`Write.Grouped.ownEvidence`).
-/

namespace Postmortem

open CockroachRunbookRepository Tenancy

/-- The row is of one of the runbooks. -/
def RunbookProvenance.Of (runbooks : List Runbook) (p : RunbookProvenance) : Prop :=
  ∃ r ∈ runbooks, r.runbookId = p.runbookId

instance {runbooks p} : Decidable (RunbookProvenance.Of runbooks p) := inferInstanceAs (Decidable (∃ r ∈ runbooks, _))

/-- What the organization has in the database. -/
def Database.tenant (org : Uuid) (db : Database) : Database :=
  let runbooks := db.proceduralMemory.filter fun r => r.orgId = org
  { organizations := db.organizations.filter fun o => o = org
    services := db.services.filter fun s => s.orgId = org
    deploys := db.deploys.filter fun d => d.orgId = org
    incidents := db.incidents.filter fun i => i.orgId = org
    episodicEvents := db.episodicEvents.filter fun e => e.orgId = org
    semanticFacts := db.semanticFacts.filter fun f => f.orgId = org
    factProvenance := db.factProvenance.filter fun p => p.orgId = org
    proceduralMemory := runbooks
    runbookProvenance := db.runbookProvenance.filter fun p => p.Of runbooks
    remediationActions := db.remediationActions.filter fun a => a.orgId = org }

/-- The provenance of a runbook. -/
def provenanceOf (id : Uuid) (rows : List RunbookProvenance) : List RunbookProvenance :=
  rows.filter fun p => p.runbookId = id

/-- The provenance of a runbook of the organization refers to the organization's rows. -/
def ProvenanceWithin {β : Type} (ref : RunbookProvenance → Option Uuid) (key owner : β → Uuid)
    (rows : List RunbookProvenance) (t : List β) (id org : Uuid) : Prop :=
  Within ref (fun _ => org) key owner (provenanceOf id rows) t

instance {β : Type} {ref} {key owner : β → Uuid} {rows t id org} :
    Decidable (ProvenanceWithin ref key owner rows t id org) := inferInstanceAs (Decidable (Within ..))

/-- No row refers to a row of another organization, in any column that names a row; a provenance row is its
runbook's. -/
structure Database.Separated (db : Database) : Prop where
  serviceDeploy : Within Service.currentDeployId Service.orgId Deploy.deployId Deploy.orgId db.services db.deploys
  deployService : Within (fun d : Deploy => some d.serviceId) Deploy.orgId Service.serviceId Service.orgId
    db.deploys db.services
  incidentService : Within (fun i : Incident => some i.serviceId) Incident.orgId Service.serviceId Service.orgId
    db.incidents db.services
  incidentRunbook : Within Incident.runbookId Incident.orgId Runbook.runbookId Runbook.orgId
    db.incidents db.proceduralMemory
  episodeIncident : Within EpisodicEvent.incidentId EpisodicEvent.orgId Incident.incidentId Incident.orgId
    db.episodicEvents db.incidents
  episodeRunbook : Within EpisodicEvent.runbookId EpisodicEvent.orgId Runbook.runbookId Runbook.orgId
    db.episodicEvents db.proceduralMemory
  episodeService : Within EpisodicEvent.serviceId EpisodicEvent.orgId Service.serviceId Service.orgId
    db.episodicEvents db.services
  actionIncident : Within (fun a : RemediationAction => some a.incidentId) RemediationAction.orgId
    Incident.incidentId Incident.orgId db.remediationActions db.incidents
  actionTarget : Within RemediationAction.targetId RemediationAction.orgId Service.serviceId Service.orgId
    db.remediationActions db.services
  memoryRef : Within RemediationAction.memoryRef RemediationAction.orgId EpisodicEvent.eventId EpisodicEvent.orgId
    db.remediationActions db.episodicEvents
  provenanceIncident : ∀ r ∈ db.proceduralMemory,
    ProvenanceWithin (fun p => some p.incidentId) Incident.incidentId Incident.orgId
      db.runbookProvenance db.incidents r.runbookId r.orgId
  provenanceEpisode : ∀ r ∈ db.proceduralMemory,
    ProvenanceWithin RunbookProvenance.episodicEventId EpisodicEvent.eventId EpisodicEvent.orgId
      db.runbookProvenance db.episodicEvents r.runbookId r.orgId
  supersededBy : Within SemanticFact.supersededBy SemanticFact.orgId SemanticFact.factId SemanticFact.orgId
    db.semanticFacts db.semanticFacts
  provenanceFact : Within (fun p : FactProvenance => some p.factId) FactProvenance.orgId SemanticFact.factId
    SemanticFact.orgId db.factProvenance db.semanticFacts
  factIncident : Within (fun p : FactProvenance => some p.incidentId) FactProvenance.orgId Incident.incidentId
    Incident.orgId db.factProvenance db.incidents
  factEpisode : Within FactProvenance.episodicEventId FactProvenance.orgId EpisodicEvent.eventId EpisodicEvent.orgId
    db.factProvenance db.episodicEvents

/-- The organization a write is for: that of its command, or of the row it names. -/
def Write.For (org : Uuid) (db : Database) : Write → Prop
  | .op (.remediate _ c _) => c.orgId = org
  | .op (.recordOutcome _ c _) => c.orgId = org
  | .op (.consolidate c _) => Uuid.ofText? c.orgId = some org
  | .op (.retire id) => ∃ r ∈ db.proceduralMemory, r.runbookId = id ∧ r.orgId = org
  | .op (.expire id) => ∃ e ∈ db.episodicEvents, e.eventId = id ∧ e.orgId = org
  | .transition t => t.call.orgId = org

/-- A candidate comes from an incident and an episode of its own organization. -/
def Write.OwnEvidence (db : Database) : Write → Prop
  | .op (.consolidate c _) => ∀ i, ids? c = some i →
    (∀ n ∈ db.incidents, n.incidentId = i.incident → n.orgId = i.org) ∧
      ∀ event, c.sourceEventIds.getLast? = some event.text → ∀ e ∈ db.episodicEvents, e.eventId = event → e.orgId = i.org
  | _ => True

/-! ## What other organizations have -/

section isolation

variable {db db' : Database} {org : Uuid}

lemma Remediated.tenant {p g} (wrote : Remediated p g db db') (other : p.orgId ≠ org) :
    db'.tenant org = db.tenant org := by
  obtain ⟨_, _, _, action, _, rfl⟩ := wrote
  have foreign : ∀ o : Uuid, o = p.orgId → decide (o = org) = false := by
    rintro _ rfl
    exact decide_eq_false other
  have services : ((serviceUpdate p g db.services).filter fun s => s.orgId = org) =
      db.services.filter fun s => s.orgId = org :=
    filter_update_other (fun _ => rfl) fun s _ sel => foreign _ (of_decide_eq_true sel).1
  have incidents : ((incidentUpdate p db.incidents).filter fun i => i.orgId = org) =
      db.incidents.filter fun i => i.orgId = org :=
    filter_update_other (fun _ => rfl) fun i _ sel => foreign _ (of_decide_eq_true sel).1
  have runbooks : ((runbookUsage p g db.proceduralMemory).filter fun r => r.orgId = org) =
      db.proceduralMemory.filter fun r => r.orgId = org :=
    filter_update_other (fun _ => rfl) fun r _ sel => foreign _ (of_decide_eq_true sel).1
  have deploys : ((db.deploys ++ [deployRow p g action]).filter fun d => d.orgId = org) =
      db.deploys.filter fun d => d.orgId = org :=
    filter_insert_other (foreign _ rfl)
  have episodes : ((db.episodicEvents ++ [actionEpisode p g]).filter fun e => e.orgId = org) =
      db.episodicEvents.filter fun e => e.orgId = org :=
    filter_insert_other (foreign _ rfl)
  have actions : ((db.remediationActions ++ [actionRow p g]).filter fun a => a.orgId = org) =
      db.remediationActions.filter fun a => a.orgId = org :=
    filter_insert_other (foreign _ rfl)
  unfold Database.tenant remediated
  dsimp only
  rw [services, incidents, runbooks, deploys, episodes, actions]

lemma OutcomeRecorded.tenant {rt p g a i} (adm : db.Admitted) (wrote : OutcomeRecorded rt p g db a i db')
    (other : p.orgId ≠ org) : db'.tenant org = db.tenant org := by
  obtain ⟨target, _, _, _, rfl⟩ := wrote
  obtain ⟨found, _⟩ := outcomeTarget_spec target
  obtain ⟨ha, own, ea, _⟩ := targetAction_spec found
  have foreign : ∀ o : Uuid, o = p.orgId → decide (o = org) = false := by
    rintro _ rfl
    exact decide_eq_false other
  have incidents : ((outcomeIncidentUpdate rt p db.incidents).filter fun n => n.orgId = org) =
      db.incidents.filter fun n => n.orgId = org :=
    filter_update_other (fun _ => rfl) fun n _ sel => foreign _ (of_decide_eq_true sel).1
  -- the statement selects the action by its id alone, which only the target has
  have actions : ((actionUpdate p db.remediationActions).filter fun b => b.orgId = org) =
      db.remediationActions.filter fun b => b.orgId = org := by
    refine filter_update_other (fun _ => rfl) ?_
    intro b hb sel
    have same : b = a := adm.actions.eq hb ha ((of_decide_eq_true sel).trans ea.symm)
    rw [same]
    exact foreign _ own
  have episodes : ((db.episodicEvents ++ [outcomeEpisode p g a i]).filter fun e => e.orgId = org) =
      db.episodicEvents.filter fun e => e.orgId = org :=
    filter_insert_other (foreign _ rfl)
  unfold Database.tenant outcomeRecorded
  dsimp only
  rw [incidents, actions, episodes]

/-- An update of the runbook of one organization. -/
lemma updateRunbook_other {f r} (unique : Table.Unique Runbook.runbookId db.proceduralMemory)
    (hr : r ∈ db.proceduralMemory) (other : r.orgId ≠ org) (keep : ∀ r, (f r).orgId = r.orgId) :
    ((updateRunbook r.runbookId f db.proceduralMemory).filter fun r => r.orgId = org) =
      db.proceduralMemory.filter fun r => r.orgId = org := by
  apply filter_update_other
  · intro s
    rw [keep s]
  · intro s hs sel
    rw [unique.eq hs hr (of_decide_eq_true sel)]
    exact decide_eq_false other

/-- Runbooks and a provenance row that are none of the organization's. -/
lemma written_tenant {i g id event role rows}
    (runbooks : (rows.filter fun r : Runbook => r.orgId = org) = db.proceduralMemory.filter fun r => r.orgId = org)
    (owner : ∀ r ∈ db.proceduralMemory, r.runbookId = id → r.orgId ≠ org) :
    (written i g id event role rows db).tenant org = db.tenant org := by
  have unowned : decide ((provenanceRow i g id event role).Of (db.proceduralMemory.filter fun r => r.orgId = org)) = false := by
    apply decide_eq_false
    rintro ⟨r, hr, e⟩
    obtain ⟨mem, own⟩ := List.mem_filter.mp hr
    exact owner r mem e (of_decide_eq_true own)
  have provenance : ((db.runbookProvenance ++ [provenanceRow i g id event role]).filter
      fun p => p.Of (db.proceduralMemory.filter fun r => r.orgId = org)) =
      db.runbookProvenance.filter fun p => p.Of (db.proceduralMemory.filter fun r => r.orgId = org) :=
    filter_insert_other unowned
  unfold Database.tenant written
  dsimp only
  rw [runbooks, provenance]

lemma ids?_org {c : CandidateRunbook} {i} (h : ids? c = some i) : Uuid.ofText? c.orgId = some i.org := by
  unfold ids? at h
  split at h
  case h_1 org _ _ e _ _ =>
    cases h
    exact e
  case h_2 => cases h

lemma Applied.tenant {rt activation c i g m} (adm : db.Admitted) (applied : Applied rt activation c i g db db' m)
    (other : i.org ≠ org) : db'.tenant org = db.tenant org := by
  have newest : ∀ {r}, latest? i c.name db = some r → r ∈ db.proceduralMemory ∧ r.orgId ≠ org := by
    intro r hl
    obtain ⟨hr, own, _⟩ := latest?_mem hl
    exact ⟨hr, own ▸ other⟩
  have owner : ∀ {r}, latest? i c.name db = some r → ∀ s ∈ db.proceduralMemory, s.runbookId = r.runbookId →
      s.orgId ≠ org := by
    intro r hl s hs e
    obtain ⟨hr, foreign⟩ := newest hl
    rw [adm.runbooks.eq hs hr e]
    exact foreign
  cases applied with
  | replay => rfl
  | ignored => rfl
  | weaken _ hl =>
    exact written_tenant (updateRunbook_other adm.runbooks (newest hl).1 (newest hl).2 fun _ => rfl) (owner hl)
  | @create prior _ _ hl _ _ _ _ fresh =>
    apply written_tenant
    · refine (filter_insert_other (q := fun r : Runbook => r.orgId = org) (decide_eq_false other)).trans ?_
      cases prior with
      | none => rfl
      | some r => exact updateRunbook_other adm.runbooks (newest hl).1 (newest hl).2 fun _ => rfl
    · intro r hr e
      exact absurd e (fresh r hr)
  | reinforce _ hl =>
    exact written_tenant (updateRunbook_other adm.runbooks (newest hl).1 (newest hl).2 fun _ => rfl) (owner hl)

lemma deprecateRunbook_tenant {id} (other : ∀ r ∈ db.proceduralMemory, r.runbookId = id → r.orgId ≠ org) :
    (deprecateRunbook id db).tenant org = db.tenant org := by
  have runbooks : ((updateRunbook id superseded db.proceduralMemory).filter fun r => r.orgId = org) =
      db.proceduralMemory.filter fun r => r.orgId = org :=
    filter_update_other (fun _ => rfl) fun r hr sel => decide_eq_false (other r hr (of_decide_eq_true sel))
  unfold Database.tenant deprecateRunbook
  dsimp only
  rw [runbooks]

/-- A row that refers to an episode of the organization does not lose the reference with an episode of another. -/
lemma unlink_other {id} {ref : Option Uuid} (present : References EpisodicEvent.eventId db.episodicEvents ref)
    (own : ∀ e ∈ db.episodicEvents, ref = some e.eventId → e.orgId = org)
    (other : ∀ e ∈ db.episodicEvents, e.eventId = id → e.orgId ≠ org) : unlink id ref = ref := by
  unfold unlink
  split
  case isTrue referred =>
    obtain ⟨e, he, rfl⟩ := present id referred
    exact absurd (own e he referred) (other e he rfl)
  case isFalse => rfl

lemma expireEpisode_tenant {id} (sound : db.Sound) (sep : db.Separated)
    (other : ∀ e ∈ db.episodicEvents, e.eventId = id → e.orgId ≠ org) :
    (expireEpisode id db).tenant org = db.tenant org := by
  have episodes : ((Table.delete (fun e => e.eventId = id) db.episodicEvents).filter fun e => e.orgId = org) =
      db.episodicEvents.filter fun e => e.orgId = org :=
    filter_delete_other fun e he sel => decide_eq_false (other e he (of_decide_eq_true sel))
  have actions : ((db.remediationActions.map fun a => { a with memoryRef := unlink id a.memoryRef }).filter
      fun a => a.orgId = org) = db.remediationActions.filter fun a => a.orgId = org := by
    refine filter_map_other (fun _ _ => rfl) ?_
    intro a ha own
    have same : unlink id a.memoryRef = a.memoryRef := by
      refine unlink_other (sound.admitted.memoryRef a ha) ?_ other
      intro e he ref
      exact (sep.memoryRef a ha e he ref).trans (of_decide_eq_true own)
    rw [same]
  have facts : ((db.factProvenance.map fun p => { p with episodicEventId := unlink id p.episodicEventId }).filter
      fun p => p.orgId = org) = db.factProvenance.filter fun p => p.orgId = org := by
    refine filter_map_other (fun _ _ => rfl) ?_
    intro p hp own
    have same : unlink id p.episodicEventId = p.episodicEventId := by
      refine unlink_other (sound.factEpisode p hp) ?_ other
      intro e he ref
      exact (sep.factEpisode p hp e he ref).trans (of_decide_eq_true own)
    rw [same]
  have provenance : ((db.runbookProvenance.map fun p => { p with episodicEventId := unlink id p.episodicEventId }).filter
      fun p => p.Of (db.proceduralMemory.filter fun r => r.orgId = org)) =
      db.runbookProvenance.filter fun p => p.Of (db.proceduralMemory.filter fun r => r.orgId = org) := by
    refine filter_map_other (fun _ _ => rfl) ?_
    intro p hp sel
    obtain ⟨r, hr, ep⟩ := of_decide_eq_true sel
    obtain ⟨mem, own⟩ := List.mem_filter.mp hr
    have its : p ∈ provenanceOf r.runbookId db.runbookProvenance := List.mem_filter.mpr ⟨hp, decide_eq_true ep.symm⟩
    have same : unlink id p.episodicEventId = p.episodicEventId := by
      refine unlink_other (sound.admitted.provenanceEpisode p hp) ?_ other
      intro e he ref
      exact (sep.provenanceEpisode r mem p its e he ref).trans (of_decide_eq_true own)
    rw [same]
  unfold Database.tenant expireEpisode
  dsimp only
  rw [episodes, actions, facts, provenance]

lemma Transitioned.tenant {p now} {facts facts' : List SemanticFact} (moved : Transitioned p now facts facts')
    (other : p.orgId ≠ org) : (facts'.filter fun f => f.orgId = org) = facts.filter fun f => f.orgId = org := by
  obtain ⟨_, _, q, _, rfl⟩ := moved
  refine (filter_insert_other (q := fun f : SemanticFact => f.orgId = org) (decide_eq_false other)).trans ?_
  refine filter_update_other (fun _ => rfl) ?_
  intro f _ sel
  obtain ⟨key, _⟩ := of_decide_eq_true sel
  have own : f.orgId = p.orgId := congrArg Prod.fst key
  rw [own]
  exact decide_eq_false other

/-- A write for another organization. -/
lemma writeStep_tenant {cfg w} (sound : db.Sound) (sep : db.Separated) (other : ¬ w.For org db) :
    (writeStep cfg db w).tenant org = db.tenant org := by
  cases w with
  | op op =>
    show (step cfg db op).tenant org = db.tenant org
    generalize e : step cfg db op = db'
    have spec := @step_spec cfg db op
    rw [e] at spec
    cases spec with
    | idle => rfl
    | remediate wrote => exact wrote.tenant other
    | recordOutcome wrote => exact wrote.tenant sound.admitted other
    | @consolidate c g i _ _ ids applied =>
      apply Applied.tenant sound.admitted applied
      rintro rfl
      exact other (ids?_org ids)
    | retire => exact deprecateRunbook_tenant fun r hr e own => other ⟨r, hr, e, own⟩
    | expire => exact expireEpisode_tenant sound sep fun e he eid own => other ⟨e, he, eid, own⟩
  | transition op =>
    rcases @transitionStep_spec cfg.rt db.semanticFacts op sound.facts with idle | ⟨now, moved⟩
    · show Database.tenant org { db with semanticFacts := transitionStep cfg.rt db.semanticFacts op } = _
      rw [idle]
    · show Database.tenant org { db with semanticFacts := transitionStep cfg.rt db.semanticFacts op } = _
      unfold Database.tenant
      dsimp only
      rw [moved.tenant other]

end isolation

/-! ## No row refers to a row of another organization -/

section separation

variable {db db' : Database}

/-- A change of a runbook that keeps its name and its organization. -/
abbrev KeepsOwner (f : Runbook → Runbook) : Prop := ∀ r, r.runbookId = (f r).runbookId ∧ r.orgId = (f r).orgId

/-- Runbooks that come from runbooks of the same name and organization. -/
abbrev FromRunbooks (rows rows' : List Runbook) : Prop :=
  ∀ r' ∈ rows', ∃ r ∈ rows, r.runbookId = r'.runbookId ∧ r.orgId = r'.orgId

lemma from_update {p : Runbook → Bool} {f} {rows : List Runbook} (keep : KeepsOwner f) :
    FromRunbooks rows (Table.update p f rows) :=
  origin_update (R := fun r r' : Runbook => r.runbookId = r'.runbookId ∧ r.orgId = r'.orgId) (fun _ => ⟨rfl, rfl⟩) keep

/-- What is said of the provenance of all runbooks is said where only other columns have changed. -/
lemma FromRunbooks.provenance {β : Type} {ref} {key owner : β → Uuid} {provenance} {t : List β} {rows rows'}
    (origin : FromRunbooks rows rows')
    (h : ∀ r ∈ rows, ProvenanceWithin ref key owner provenance t r.runbookId r.orgId) :
    ∀ r ∈ rows', ProvenanceWithin ref key owner provenance t r.runbookId r.orgId := by
  intro r' hr'
  obtain ⟨r, hr, name, owner⟩ := origin r' hr'
  rw [← name, ← owner]
  exact h r hr

lemma Remediated.separated {p g} (sound : db.Sound) (sep : db.Separated) (wrote : Remediated p g db db') :
    db'.Separated := by
  obtain ⟨⟨target, _, gate⟩, _, fresh, action, _, rfl⟩ := wrote
  obtain ⟨n, hn, own, en, ns, _, s, hs, es, so⟩ := target
  have adm := sound.admitted
  -- the service, the incident and the runbook that the new rows name are the organization's
  have service : ∀ t ∈ db.services, some p.serviceId = some t.serviceId → t.orgId = p.orgId := by
    intro t ht e
    rw [adm.services.eq ht hs ((Option.some.inj e).symm.trans (ns.symm.trans es.symm))]
    exact so.trans own
  have incident : ∀ i ∈ db.incidents, some p.incidentId = some i.incidentId → i.orgId = p.orgId := by
    intro i hi e
    rw [adm.incidents.eq hi hn ((Option.some.inj e).symm.trans en.symm)]
    exact own
  have runbook : ∀ r ∈ db.proceduralMemory, p.runbookId = some r.runbookId → r.orgId = p.orgId := by
    intro r hr e
    obtain none | ⟨s, hs, own, es, _⟩ := gate
    · rw [none] at e
      cases e
    · rw [adm.runbooks.eq hr hs (Option.some.inj (e.symm.trans es))]
      exact own
  have unnamed : ∀ {ref}, References EpisodicEvent.eventId db.episodicEvents ref → ref ≠ some g.eventId :=
    fun present => present.ne fun e he eq => fresh (.inr (.inl ⟨e, he, eq⟩))
  have origin : FromRunbooks db.proceduralMemory (runbookUsage p g db.proceduralMemory) := from_update fun _ => ⟨rfl, rfl⟩
  constructor
  case serviceDeploy =>
    apply Table.forall_update
    case kept =>
      -- no service named the deployment before it was written
      apply Within.insert_referred sep.serviceDeploy
      exact fun t ht => (sound.serviceDeploy t ht).ne fun d hd named => fresh (.inl ⟨d, hd, named⟩)
    case changed =>
      intro t ht sel
      obtain ⟨owner, _⟩ := of_decide_eq_true sel
      apply Table.forall_insert
      · intro d hd e
        exact absurd (.inl ⟨d, hd, (Option.some.inj e).symm⟩) fresh
      · exact fun _ => owner.symm
  case deployService =>
    refine Within.update_referred ?_ fun _ => ⟨rfl, rfl⟩
    exact sep.deployService.insert_referring service
  case incidentService =>
    refine Within.update_referred ?_ fun _ => ⟨rfl, rfl⟩
    exact sep.incidentService.update_referring fun _ => ⟨rfl, rfl⟩
  case incidentRunbook =>
    refine Within.referred ?_ origin
    exact Table.forall_update sep.incidentRunbook fun i hi sel r hr e =>
      (runbook r hr e).trans (of_decide_eq_true sel).1.symm
  case episodeIncident =>
    refine Within.update_referred ?_ fun _ => ⟨rfl, rfl⟩
    exact sep.episodeIncident.insert_referring incident
  case episodeRunbook =>
    exact (sep.episodeRunbook.insert_referring runbook).referred origin
  case episodeService =>
    refine Within.update_referred ?_ fun _ => ⟨rfl, rfl⟩
    exact sep.episodeService.insert_referring service
  case actionIncident =>
    refine Within.update_referred ?_ fun _ => ⟨rfl, rfl⟩
    exact sep.actionIncident.insert_referring incident
  case actionTarget =>
    refine Within.update_referred ?_ fun _ => ⟨rfl, rfl⟩
    exact sep.actionTarget.insert_referring service
  case memoryRef =>
    apply Within.insert_referring
    · exact sep.memoryRef.insert_referred fun a ha => unnamed (adm.memoryRef a ha)
    · apply Table.forall_insert
      · intro e he eq
        exact absurd eq.symm (unnamed (.of_present ⟨e, he, rfl⟩))
      · exact fun _ => rfl
  case provenanceIncident =>
    apply origin.provenance
    intro r hr
    exact Within.update_referred (sep.provenanceIncident r hr) fun _ => ⟨rfl, rfl⟩
  case provenanceEpisode =>
    apply origin.provenance
    intro r hr
    apply Within.insert_referred (sep.provenanceEpisode r hr)
    intro q hq
    exact unnamed (adm.provenanceEpisode q (List.mem_filter.mp hq).1)
  case supersededBy => exact sep.supersededBy
  case provenanceFact => exact sep.provenanceFact
  case factIncident => exact sep.factIncident.update_referred fun _ => ⟨rfl, rfl⟩
  case factEpisode => exact sep.factEpisode.insert_referred fun q hq => unnamed (sound.factEpisode q hq)

lemma OutcomeRecorded.separated {rt p g a i} (sound : db.Sound) (sep : db.Separated)
    (wrote : OutcomeRecorded rt p g db a i db') : db'.Separated := by
  obtain ⟨target, _, _, fresh, rfl⟩ := wrote
  obtain ⟨found, hi, own, ei⟩ := outcomeTarget_spec target
  obtain ⟨ha, actionOwn, _, _, targets⟩ := targetAction_spec found
  have adm := sound.admitted
  -- the service is the target of the action
  have service : ∀ s ∈ db.services, some p.serviceId = some s.serviceId → s.orgId = p.orgId := by
    intro s hs e
    exact (sep.actionTarget a ha s hs (targets.trans e)).trans actionOwn
  have incident : ∀ n ∈ db.incidents, some p.incidentId = some n.incidentId → n.orgId = p.orgId := by
    intro n hn e
    rw [adm.incidents.eq hn hi ((Option.some.inj e).symm.trans ei.symm)]
    exact own
  have runbook : ∀ r ∈ db.proceduralMemory, i.runbookId = some r.runbookId → r.orgId = p.orgId := by
    intro r hr e
    exact (sep.incidentRunbook i hi r hr e).trans own
  have unnamed : ∀ {ref}, References EpisodicEvent.eventId db.episodicEvents ref → ref ≠ some g.eventId :=
    fun present => present.ne fresh
  constructor
  case serviceDeploy => exact sep.serviceDeploy
  case deployService => exact sep.deployService
  case incidentService => exact sep.incidentService.update_referring fun _ => ⟨rfl, rfl⟩
  case incidentRunbook => exact sep.incidentRunbook.update_referring fun _ => ⟨rfl, rfl⟩
  case episodeIncident =>
    refine Within.update_referred ?_ fun _ => ⟨rfl, rfl⟩
    exact sep.episodeIncident.insert_referring incident
  case episodeRunbook => exact sep.episodeRunbook.insert_referring runbook
  case episodeService => exact sep.episodeService.insert_referring service
  case actionIncident =>
    refine Within.update_referred ?_ fun _ => ⟨rfl, rfl⟩
    exact sep.actionIncident.update_referring fun _ => ⟨rfl, rfl⟩
  case actionTarget => exact sep.actionTarget.update_referring fun _ => ⟨rfl, rfl⟩
  case memoryRef =>
    refine Within.update_referring ?_ fun _ => ⟨rfl, rfl⟩
    exact sep.memoryRef.insert_referred fun b hb => unnamed (adm.memoryRef b hb)
  case provenanceIncident =>
    intro r hr
    exact Within.update_referred (sep.provenanceIncident r hr) fun _ => ⟨rfl, rfl⟩
  case provenanceEpisode =>
    intro r hr
    apply Within.insert_referred (sep.provenanceEpisode r hr)
    intro q hq
    exact unnamed (adm.provenanceEpisode q (List.mem_filter.mp hq).1)
  case supersededBy => exact sep.supersededBy
  case provenanceFact => exact sep.provenanceFact
  case factIncident => exact sep.factIncident.update_referred fun _ => ⟨rfl, rfl⟩
  case factEpisode => exact sep.factEpisode.insert_referred fun q hq => unnamed (sound.factEpisode q hq)

/-- The provenance of a runbook after a row for one of its organization. -/
lemma provenance_written {β : Type} {ref} {key owner : β → Uuid} {rows : List RunbookProvenance} {t : List β}
    {p : RunbookProvenance} {id org : Uuid} (h : ProvenanceWithin ref key owner rows t id org)
    (own : p.runbookId = id → ∀ b ∈ t, ref p = some (key b) → owner b = org) :
    ProvenanceWithin ref key owner (rows ++ [p]) t id org := by
  unfold ProvenanceWithin provenanceOf
  rw [Table.filter_insert]
  split
  case isTrue its => exact Within.insert_referring h (own (of_decide_eq_true its))
  case isFalse => exact h

/-- Runbooks and a provenance row for one of them, from rows of its organization. -/
lemma written_separated {c i g id event role rows} (sep : db.Separated) (source : SourceEvent c i g id event db)
    (own : Write.OwnEvidence db (.op (.consolidate c g))) (ids : ids? c = some i)
    (origin : ∀ r' ∈ rows, (∃ r ∈ db.proceduralMemory, r.runbookId = r'.runbookId ∧ r.orgId = r'.orgId) ∨
      (∀ r ∈ db.proceduralMemory, r.runbookId ≠ r'.runbookId) ∧ r'.orgId = i.org)
    (owner : ∀ r' ∈ rows, r'.runbookId = id → r'.orgId = i.org)
    (adm : db.Admitted) : (written i g id event role rows db).Separated := by
  obtain ⟨incident, episode⟩ := own i ids
  -- a new runbook has no rows yet
  have unused : ∀ r' : Runbook, (∀ r ∈ db.proceduralMemory, r.runbookId ≠ r'.runbookId) →
      provenanceOf r'.runbookId db.runbookProvenance = [] := by
    intro r' fresh
    apply List.filter_eq_nil_iff.mpr
    intro p hp its
    obtain ⟨r, hr, e⟩ := adm.provenanceRunbook p hp
    exact fresh r hr (e.trans (of_decide_eq_true its))
  have referred : ∀ {α : Type} {ref : α → Option Uuid} {oa : α → Uuid} {t : List α},
      Within ref oa Runbook.runbookId Runbook.orgId t db.proceduralMemory →
      (∀ a ∈ t, References Runbook.runbookId db.proceduralMemory (ref a)) →
      Within ref oa Runbook.runbookId Runbook.orgId t rows := by
    intro α ref oa t within present a ha r' hr' e
    obtain ⟨r, hr, name, same⟩ | ⟨fresh, _⟩ := origin r' hr'
    · rw [← same]
      exact within a ha r hr (e.trans (congrArg some name.symm))
    · obtain ⟨r, hr, name⟩ := present a ha _ e
      exact absurd name (fresh r hr)
  constructor
  case serviceDeploy => exact sep.serviceDeploy
  case deployService => exact sep.deployService
  case incidentService => exact sep.incidentService
  case incidentRunbook => exact referred sep.incidentRunbook adm.incidentRunbook
  case episodeIncident => exact sep.episodeIncident
  case episodeRunbook => exact referred sep.episodeRunbook adm.episodeRunbook
  case episodeService => exact sep.episodeService
  case actionIncident => exact sep.actionIncident
  case actionTarget => exact sep.actionTarget
  case memoryRef => exact sep.memoryRef
  case provenanceIncident =>
    intro r' hr'
    refine provenance_written ?_ fun its n hn e => ?_
    · obtain ⟨r, hr, name, same⟩ | ⟨fresh, _⟩ := origin r' hr'
      · rw [← name, ← same]
        exact sep.provenanceIncident r hr
      · unfold ProvenanceWithin
        rw [unused r' fresh]
        exact .nil
    · rw [owner r' hr' its.symm]
      exact incident n hn (Option.some.inj e).symm
  case provenanceEpisode =>
    intro r' hr'
    refine provenance_written ?_ fun its e he eq => ?_
    · obtain ⟨r, hr, name, same⟩ | ⟨fresh, _⟩ := origin r' hr'
      · rw [← name, ← same]
        exact sep.provenanceEpisode r hr
      · unfold ProvenanceWithin
        rw [unused r' fresh]
        exact .nil
    · rw [owner r' hr' its.symm]
      exact episode event source.last e he (Option.some.inj eq).symm
  case supersededBy => exact sep.supersededBy
  case provenanceFact => exact sep.provenanceFact
  case factIncident => exact sep.factIncident
  case factEpisode => exact sep.factEpisode

/-- An update of the newest version of a name. -/
lemma updated_separated {c i g r event role f} (adm : db.Admitted) (sep : db.Separated)
    (own : Write.OwnEvidence db (.op (.consolidate c g))) (ids : ids? c = some i)
    (newest : latest? i c.name db = some r) (source : SourceEvent c i g r.runbookId event db) (keep : KeepsOwner f) :
    (written i g r.runbookId event role (updateRunbook r.runbookId f db.proceduralMemory) db).Separated := by
  obtain ⟨hr, version⟩ := latest?_mem newest
  have origin : FromRunbooks db.proceduralMemory (updateRunbook r.runbookId f db.proceduralMemory) := from_update keep
  apply written_separated sep source own ids _ _ adm
  · exact fun r' hr' => .inl (origin r' hr')
  · intro r' hr' e
    obtain ⟨s, hs, name, same⟩ := origin r' hr'
    rw [← same, adm.runbooks.eq hs hr (name.trans e)]
    exact version.1

lemma Applied.separated {rt activation c i g m} (adm : db.Admitted) (sep : db.Separated)
    (own : Write.OwnEvidence db (.op (.consolidate c g))) (ids : ids? c = some i)
    (applied : Applied rt activation c i g db db' m) : db'.Separated := by
  cases applied with
  | replay => exact sep
  | ignored => exact sep
  | weaken _ newest _ source => exact updated_separated adm sep own ids newest source fun _ => ⟨rfl, rfl⟩
  | @create prior event _ newest _ _ _ _ fresh source =>
    have origin : FromRunbooks db.proceduralMemory (supersede prior db.proceduralMemory) := by
      cases prior with
      | none => exact fun r hr => ⟨r, hr, rfl, rfl⟩
      | some r => exact from_update fun _ => ⟨rfl, rfl⟩
    apply written_separated sep source own ids _ _ adm
    · apply Table.forall_insert
      · exact fun r' hr' => .inl (origin r' hr')
      · exact .inr ⟨fresh, rfl⟩
    · apply Table.forall_insert
      · intro r' hr' e
        obtain ⟨s, hs, name, _⟩ := origin r' hr'
        exact absurd (name.trans e) (fresh s hs)
      · exact fun _ => rfl
  | reinforce _ newest _ _ _ source => exact updated_separated adm sep own ids newest source fun _ => ⟨rfl, rfl⟩

lemma deprecateRunbook_separated {id} (sep : db.Separated) : (deprecateRunbook id db).Separated := by
  have origin : FromRunbooks db.proceduralMemory (updateRunbook id superseded db.proceduralMemory) :=
    from_update fun _ => ⟨rfl, rfl⟩
  exact { sep with
    incidentRunbook := sep.incidentRunbook.referred origin
    episodeRunbook := sep.episodeRunbook.referred origin
    provenanceIncident := origin.provenance sep.provenanceIncident
    provenanceEpisode := origin.provenance sep.provenanceEpisode }

lemma expireEpisode_separated {id} (sep : db.Separated) : (expireEpisode id db).Separated := by
  have subset : ∀ e ∈ Table.delete (fun e : EpisodicEvent => e.eventId = id) db.episodicEvents, e ∈ db.episodicEvents :=
    fun e he => (Table.mem_delete.mp he).1
  -- the provenance of a runbook, unlinked
  have origin : ∀ {name}, ∀ p' ∈ provenanceOf name (expireEpisode id db).runbookProvenance,
      ∃ p ∈ provenanceOf name db.runbookProvenance, p.incidentId = p'.incidentId ∧
        (p'.episodicEventId = p.episodicEventId ∨ p'.episodicEventId = none) := by
    intro name p' hp'
    obtain ⟨mem, its⟩ := List.mem_filter.mp hp'
    obtain ⟨p, hp, rfl⟩ := List.mem_map.mp mem
    exact ⟨p, List.mem_filter.mpr ⟨hp, its⟩, rfl, unlink_eq⟩
  constructor
  case serviceDeploy => exact sep.serviceDeploy
  case deployService => exact sep.deployService
  case incidentService => exact sep.incidentService
  case incidentRunbook => exact sep.incidentRunbook
  case episodeIncident => exact fun e he => sep.episodeIncident e (subset e he)
  case episodeRunbook => exact fun e he => sep.episodeRunbook e (subset e he)
  case episodeService => exact fun e he => sep.episodeService e (subset e he)
  case actionIncident => exact sep.actionIncident.map_referring fun _ => ⟨rfl, .inl rfl⟩
  case actionTarget => exact sep.actionTarget.map_referring fun _ => ⟨rfl, .inl rfl⟩
  case memoryRef =>
    apply Within.map_referring sep.memoryRef.delete_referred
    exact fun _ => ⟨rfl, unlink_eq⟩
  case provenanceIncident =>
    intro r hr
    apply Within.referring (sep.provenanceIncident r hr)
    intro p' hp'
    obtain ⟨p, hp, incident, _⟩ := origin p' hp'
    exact ⟨p, hp, rfl, .inl (congrArg some incident.symm)⟩
  case provenanceEpisode =>
    intro r hr
    apply Within.referring (Within.delete_referred (sep.provenanceEpisode r hr))
    intro p' hp'
    obtain ⟨p, hp, _, episode⟩ := origin p' hp'
    exact ⟨p, hp, rfl, episode⟩
  case supersededBy => exact sep.supersededBy
  case provenanceFact => exact sep.provenanceFact.map_referring fun _ => ⟨rfl, .inl rfl⟩
  case factIncident => exact sep.factIncident.map_referring fun _ => ⟨rfl, .inl rfl⟩
  case factEpisode =>
    apply Within.map_referring sep.factEpisode.delete_referred
    exact fun _ => ⟨rfl, unlink_eq⟩

/-- What did not name the new fact of a transition refers to the facts it referred to. -/
lemma Transitioned.referred {α : Type} {ref : α → Option Uuid} {owner : α → Uuid} {rows : List α} {p now}
    {facts facts' : List SemanticFact} (moved : Transitioned p now facts facts')
    (sep : Within ref owner SemanticFact.factId SemanticFact.orgId rows facts)
    (unnamed : ∀ a ∈ rows, ref a ≠ some p.newFactId) :
    Within ref owner SemanticFact.factId SemanticFact.orgId rows facts' := by
  obtain ⟨_, _, q, _, rfl⟩ := moved
  apply Within.insert_referred
  · exact Within.update_referred sep fun _ => ⟨rfl, rfl⟩
  · exact unnamed

/-- A fact that is closed is of the key of the fact that supersedes it. -/
lemma Transitioned.superseded {p now} {facts facts' : List SemanticFact} (moved : Transitioned p now facts facts')
    (adm : FactsAdmitted facts)
    (sep : Within SemanticFact.supersededBy SemanticFact.orgId SemanticFact.factId SemanticFact.orgId facts facts) :
    Within SemanticFact.supersededBy SemanticFact.orgId SemanticFact.factId SemanticFact.orgId facts' facts' := by
  have kept : Within SemanticFact.supersededBy SemanticFact.orgId SemanticFact.factId SemanticFact.orgId facts facts' := by
    apply moved.referred sep
    exact fun f hf => (adm.superseded f hf).ne moved.fresh
  obtain ⟨_, fresh, q, _, rfl⟩ := moved
  apply Within.insert_referring
  · apply Table.forall_update kept
    -- a fact that is closed now names the new one, whose identifier no older fact has
    intro f _ sel
    obtain ⟨key, _⟩ := of_decide_eq_true sel
    have owner : f.orgId = p.orgId := congrArg Prod.fst key
    apply Table.forall_insert
    case old =>
      apply Table.forall_update
      · exact fun g hg e => absurd (Option.some.inj e).symm (fresh g hg)
      · exact fun g hg _ e => absurd (Option.some.inj e).symm (fresh g hg)
    case new => exact fun _ => owner.symm
  · intro g _ e
    cases e

lemma transition_separated {p now} {facts' : List SemanticFact} (moved : Transitioned p now db.semanticFacts facts')
    (sound : db.Sound) (sep : db.Separated) : Database.Separated { db with semanticFacts := facts' } :=
  { sep with
    supersededBy := moved.superseded sound.facts sep.supersededBy
    provenanceFact := by
      apply moved.referred sep.provenanceFact
      intro q hq e
      obtain ⟨f, hf, named⟩ := sound.provenanceFact q hq
      exact moved.fresh f hf (named.trans (Option.some.inj e)) }

/-- A write keeps the organizations apart. -/
lemma writeStep_separated {cfg w} (sound : db.Sound) (sep : db.Separated) (own : w.OwnEvidence db) :
    (writeStep cfg db w).Separated := by
  cases w with
  | op op =>
    show (step cfg db op).Separated
    generalize e : step cfg db op = db'
    have spec := @step_spec cfg db op
    rw [e] at spec
    cases spec with
    | idle => exact sep
    | remediate wrote => exact wrote.separated sound sep
    | recordOutcome wrote => exact wrote.separated sound sep
    | consolidate ids applied => exact Applied.separated sound.admitted sep own ids applied
    | retire => exact deprecateRunbook_separated sep
    | expire => exact expireEpisode_separated sep
  | transition op =>
    show Database.Separated { db with semanticFacts := transitionStep cfg.rt db.semanticFacts op }
    rcases @transitionStep_spec cfg.rt db.semanticFacts op sound.facts with idle | ⟨now, moved⟩
    · rw [idle]
      exact sep
    · exact transition_separated moved sound sep

end separation

/-! ## Runs -/

/-- A row of the changefeed shows an episode. -/
structure ChangeEvent.Shows (row : ChangeEvent) (e : EpisodicEvent) : Prop where
  eventId : row.eventId = e.eventId.text
  orgId : row.orgId = e.orgId.text
  incidentId : ∃ i, e.incidentId = some i ∧ row.incidentId = i.text

/-- A candidate is made of a group of rows that show episodes of the database. -/
def Write.Grouped (rt : Runtime) (db : Database) : Write → Prop
  | .op (.consolidate c _) => ∃ rows g, g ∈ groupCompletedIncidents rt rows ∧ FromGroup g c ∧
    ∀ row ∈ g.episodes, ∃ e ∈ db.episodicEvents, row.Shows e
  | _ => True

lemma ids?_incident {c : CandidateRunbook} {i} (h : ids? c = some i) : Uuid.ofText? c.incidentId = some i.incident := by
  unfold ids? at h
  split at h
  case h_1 org _ _ _ _ e =>
    cases h
    exact e
  case h_2 => cases h

/-- The group of an incident has rows of its organization only. -/
lemma Write.Grouped.ownEvidence {rt} {db : Database} {w : Write} (adm : db.Admitted) (sep : db.Separated)
    (grouped : w.Grouped rt db) : w.OwnEvidence db := by
  cases w with
  | transition => trivial
  | op op =>
  cases op with
  | remediate => trivial
  | recordOutcome => trivial
  | retire => trivial
  | expire => trivial
  | consolidate c g =>
    obtain ⟨rows, group, mem, made, shown⟩ := grouped
    intro i ids
    have org := Uuid.text_of_ofText? (ids?_org ids)
    have incident := Uuid.text_of_ofText? (ids?_incident ids)
    have own : ∀ row ∈ group.episodes, ∃ e ∈ db.episodicEvents, row.eventId = e.eventId.text ∧ e.orgId = i.org ∧
        e.incidentId = some i.incident := by
      intro row hr
      obtain ⟨e, he, shows⟩ := shown row hr
      obtain ⟨n, en, text⟩ := shows.incidentId
      obtain ⟨sameOrg, sameIncident⟩ := Prod.mk.inj ((mem_episodes mem).mp hr).2
      refine ⟨e, he, shows.eventId, ?_, ?_⟩
      · apply Uuid.ext
        rw [org, made.orgId, ← sameOrg, shows.orgId]
      · rw [en]
        refine congrArg some (Uuid.ext ?_)
        rw [incident, made.incidentId, ← sameIncident, text]
    constructor
    · intro n hn en
      obtain ⟨_, _, _, some⟩ := groupOf_spec (mem_groupCompletedIncidents mem)
      obtain ⟨row, hr⟩ := List.exists_mem_of_ne_nil _ some
      obtain ⟨e, he, _, ours, names⟩ := own row hr
      rw [← ours]
      exact sep.episodeIncident e he n hn (names.trans (congrArg _ en.symm))
    · intro event last e he ee
      rw [made.sources] at last
      obtain ⟨row, hr, text⟩ := List.mem_map.mp (List.mem_of_getLast? last)
      obtain ⟨e', he', names, ours, _⟩ := own row hr
      have same : e' = e := by
        apply adm.episodicEvents.eq he' he
        exact (Uuid.ext (names.symm.trans text)).trans ee.symm
      rw [← same]
      exact ours

/-- However the writes of the organizations interleave, no row ever refers to a row of another organization,
and a write leaves everything of the organizations that it is not for as it was. -/
theorem organizations_isolated {cfg : Config} {db : Database} {ws : List Write} (sound : db.Sound) (sep : db.Separated)
    (grouped : ∀ before w after, ws = before ++ w :: after → w.Grouped cfg.rt (Run.run (writeStep cfg) db before)) :
    (Run.run (writeStep cfg) db ws).Separated ∧ ∀ before w after org, ws = before ++ w :: after →
      ¬ w.For org (Run.run (writeStep cfg) db before) →
      (Run.run (writeStep cfg) db (before ++ [w])).tenant org = (Run.run (writeStep cfg) db before).tenant org := by
  have reached : ∀ before after, ws = before ++ after →
      (Run.run (writeStep cfg) db before).Sound ∧ (Run.run (writeStep cfg) db before).Separated := by
    intro before
    induction before using List.reverseRecOn with
    | nil => exact fun _ _ => ⟨sound, sep⟩
    | append_singleton before w ih =>
      intro after e
      have split : ws = before ++ w :: after := by rw [e, List.append_assoc]; rfl
      obtain ⟨sound, sep⟩ := ih (w :: after) split
      rw [Run.run_append]
      have own := (grouped before w after split).ownEvidence sound.admitted sep
      exact ⟨writeStep_sound sound, writeStep_separated sound sep own⟩
  constructor
  · exact (reached ws [] (List.append_nil ws).symm).2
  · intro before w after org split other
    obtain ⟨sound, sep⟩ := reached before (w :: after) split
    rw [Run.run_append]
    exact writeStep_tenant sound sep other

namespace Sample

/-- A second organization. -/
def rival : Uuid := .sample 1 3

/-- Two organizations, each with a service, an open incident and a memory. -/
def tenants : Database where
  organizations := [org, rival]
  services := db.services ++ [⟨.sample 5 3, rival, "search", .degraded, "v5", none, 0⟩]
  incidents := db.incidents ++ [⟨.sample 3 3, rival, .sample 5 3, .open, none, 0, none, none⟩]
  episodicEvents := [observation,
    { observation with eventId := .sample 6 3, orgId := rival, serviceId := some (.sample 5 3) }]

/-- The rollback of the second organization. -/
def rivalRemediate : Op :=
  .remediate (commits ⟨1500000, .sample 7 3, .sample 8 3, .sample 9 3, .sample 10 3⟩)
    { command with
      orgId := rival
      incidentId := .sample 3 3
      serviceId := .sample 5 3
      targetVersion := "v4"
      citedMemoryId := .sample 6 3 }
    embedding

/-- The rows of the action and of the outcome of the first organization. -/
def tenantRows : List ChangeEvent :=
  let action : ChangeEvent := {
    eventId := generated.eventId.text
    orgId := org.text
    agentId := agent.text
    incidentId := incident.text
    serviceId := service.text
    eventType := "action"
    content := "rollback"
    occurredAt := 1000000
    updatedAt := .ofInt 1 }
  [action, { action with
    eventId := outcomeGenerated.eventId.text
    eventType := "outcome"
    content := "recovered"
    occurredAt := 2000000
    metadata := [("outcome", .str "success")] }]

/-- What they teach. -/
def learned : CandidateRunbook where
  orgId := org.text
  agentId := agent.text
  incidentId := incident.text
  serviceId := service.text
  name := "checkout-rollback"
  triggerDesc := "errors since v2"
  steps := [.obj [("order", .int 1), ("action", .str "rollback_deploy")]]
  preconditions := []
  postconditions := []
  serviceTags := []
  errorSignatures := []
  outcome := .success
  sourceEventIds := tenantRows.map ChangeEvent.eventId
  embedding := embedding

/-- Both organizations roll back; the first recovers, learns a runbook and loses the memory that it cited. -/
def tenantWrites : List Write := [.op remediate, .op rivalRemediate, .op recordOutcome,
  .op (.consolidate learned ⟨4000000, .sample 2 3⟩), .op (.expire memory)]

/-- The state after so many of them. -/
def tenantsAfter (n : Nat) : Database := Run.run (writeStep config) tenants (tenantWrites.take n)

lemma tenants_sound : tenants.Sound := by
  have admitted : tenants.Admitted := by
    constructor
    case services =>
      show (tenants.services.map Service.serviceId).Nodup
      decide +kernel
    case incidents =>
      show (tenants.incidents.map Incident.incidentId).Nodup
      decide +kernel
    case episodicEvents =>
      show (tenants.episodicEvents.map EpisodicEvent.eventId).Nodup
      decide +kernel
    all_goals simp [tenants, db, observation, Table.Unique, References]
  exact ⟨admitted, .empty, by simp [tenants], by simp [tenants], by simp [tenants, db, References]⟩

lemma learned_grouped : Write.Grouped config.rt (tenantsAfter 3) (.op (.consolidate learned ⟨4000000, .sample 2 3⟩)) := by
  have grouped : ∃ g ∈ groupCompletedIncidents config.rt tenantRows, (g.orgId, g.agentId, g.incidentId) =
      (learned.orgId, learned.agentId, learned.incidentId) ∧ g.outcome = .success ∧ g.episodes = tenantRows := by
    decide +kernel
  have stored : ∀ row ∈ tenantRows, ∃ e ∈ (tenantsAfter 3).episodicEvents, row.eventId = e.eventId.text ∧
      row.orgId = e.orgId.text ∧ e.incidentId = some incident ∧ row.incidentId = incident.text := by
    decide +kernel
  obtain ⟨g, mem, ids, outcome, rows⟩ := grouped
  rw [Prod.mk.injEq, Prod.mk.injEq] at ids
  refine ⟨tenantRows, g, mem, ⟨ids.1.symm, ids.2.1.symm, ids.2.2.symm, outcome.symm, ?_⟩, ?_⟩
  · rw [rows]
    rfl
  · rw [rows]
    intro row hr
    obtain ⟨e, he, id, owner, names, text⟩ := stored row hr
    exact ⟨e, he, id, owner, incident, names, text⟩

lemma tenantWrites_grouped : ∀ before w after, tenantWrites = before ++ w :: after →
    w.Grouped config.rt (Run.run (writeStep config) tenants before) := by
  intro before w after e
  have front : before = tenantWrites.take before.length := by rw [e, List.take_left]
  have here : tenantWrites[before.length]? = some w := by rw [e]; simp
  have inside : before.length < 5 := by
    have length := congrArg List.length e
    rw [List.length_append, List.length_cons] at length
    have all : tenantWrites.length = 5 := rfl
    omega
  generalize before.length = n at front here inside
  subst front
  obtain rfl | rfl | rfl | rfl | rfl : n = 0 ∨ n = 1 ∨ n = 2 ∨ n = 3 ∨ n = 4 := by omega
  all_goals cases here
  -- only the consolidation rests on evidence
  case inr.inr.inr.inl => exact learned_grouped
  all_goals trivial

end Sample

/-- Two organizations: the first learns from its incident, which the second does not see. -/
theorem organizations_isolated_sample : (Run.run (writeStep Sample.config) Sample.tenants Sample.tenantWrites).Separated ∧
    (Sample.tenantsAfter 4).proceduralMemory.length = 1 ∧
      (Sample.tenantsAfter 4).tenant Sample.rival = (Sample.tenantsAfter 3).tenant Sample.rival := by
  have sep : Sample.tenants.Separated := by constructor <;> decide +kernel
  obtain ⟨separated, others⟩ := @organizations_isolated Sample.config Sample.tenants Sample.tenantWrites
    Sample.tenants_sound sep Sample.tenantWrites_grouped
  refine ⟨separated, by decide +kernel, others (Sample.tenantWrites.take 3) _ _ Sample.rival rfl ?_⟩
  show Uuid.ofText? Sample.learned.orgId ≠ some Sample.rival
  decide +kernel

end Postmortem
