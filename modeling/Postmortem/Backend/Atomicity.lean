import Postmortem.Backend.Replay

/-!
# Remediation is all or nothing

What a remediation leaves in the tables, said without the SQL: `RemediationEffect` lists the rows that appear and
the columns that change, by the identifiers of the command and of the result. `Acceptable` is what the
command has to meet in the state it finds.

`remediation_atomic` reads the effect off the end of the call (`Ended`).
-/

namespace Postmortem

/-- A call whose first attempt to reach the statement commits returns the row where the command is
accepted, and the gate's rejection where a gate does not pass. -/
lemma remediateAndRecord_commit {rt retries env c embedding db n g action}
    (valid : validate c embedding = .ok ()) (le : n ≤ retries) (reaches : env.Reaches n)
    (fate : env.attempt n = .commit g) (ha : deployAction? c.action = some action)
    (nk : ¬ KeyTaken (remediationParams rt c embedding) db) (nc : ¬ Collides g db) :
    remediateAndRecord rt retries env c embedding db =
      if Gates (remediationParams rt c embedding) db then
        (remediated (remediationParams rt c embedding) g db action,
          .ok (remediationRow g).result)
      else (db, .error gateRejection) := by
  rw [remediateAndRecord_reaches valid le reaches (by simp [fate])]
  simp only [attemptOnce, fate, executeOnce, transact]
  by_cases gates : Gates (remediationParams rt c embedding) db
  · rw [remediateAndRecordSql_fresh ha gates nk nc, if_pos gates]
  · rw [remediateAndRecordSql_gated gates, if_neg gates]
    rfl

/-- A call whose first attempt to reach the statement loses the acknowledgement raises, with the
statement's writes in the tables. -/
lemma remediateAndRecord_lost {rt retries env c embedding db n g ack action}
    (valid : validate c embedding = .ok ()) (le : n ≤ retries) (reaches : env.Reaches n)
    (fate : env.attempt n = .commitLost g ack) (ha : deployAction? c.action = some action)
    (gates : Gates (remediationParams rt c embedding) db)
    (nk : ¬ KeyTaken (remediationParams rt c embedding) db) (nc : ¬ Collides g db) :
    remediateAndRecord rt retries env c embedding db =
      (remediated (remediationParams rt c embedding) g db action,
        .error (rolledBack ack.raised)) := by
  rw [remediateAndRecord_reaches valid le reaches (by simp [fate])]
  simp only [attemptOnce, fate, executeOnce, transact, remediateAndRecordSql_fresh ha gates nk nc,
    rolledBack_lost_state.1, if_false]

/-! ## The effect, row by row -/

section effect

variable (c : RemediationCommand) (r : RemediationResult) (db db' : Database)

/-- One remediation of the command, with the identifiers of the result, and nothing else. -/
structure RemediationEffect : Prop where
  deploy : ∃ d, db'.deploys = db.deploys ++ [d] ∧ r.deployId = some d.deployId ∧
    d.orgId = c.orgId ∧ d.serviceId = c.serviceId ∧ d.version = c.targetVersion ∧
    ∀ d' ∈ db.deploys, d'.deployId ≠ d.deployId
  episode : ∃ e, db'.episodicEvents = db.episodicEvents ++ [e] ∧ e.eventId = r.eventId ∧
    e.orgId = c.orgId ∧ e.incidentId = some c.incidentId ∧ e.eventType = .action ∧
    ∀ e' ∈ db.episodicEvents, e'.eventId ≠ e.eventId
  action : ∃ a, db'.remediationActions = db.remediationActions ++ [a] ∧ a.actionId = r.actionId ∧
    a.memoryRef = some r.eventId ∧ a.orgId = c.orgId ∧
    a.idempotencyKey = c.effectiveIdempotencyKey ∧ ∀ a' ∈ db.remediationActions, a'.actionId ≠ a.actionId
  service : ∃ s ∈ db.services, s.serviceId = c.serviceId ∧ ∃ now,
    db'.services = Table.update (fun s => s.serviceId = c.serviceId) (fun s =>
      { s with
        health := .recovering
        currentVersion := c.targetVersion
        currentDeployId := r.deployId
        updatedAt := now }) db.services
  incident : ∃ i ∈ db.incidents, i.incidentId = c.incidentId ∧
    db'.incidents = Table.update (fun i => i.incidentId = c.incidentId) (fun i =>
      { i with status := .mitigating, runbookId := c.runbookId }) db.incidents
  cited : ∀ id, c.runbookId = some id → ∃ b ∈ db.proceduralMemory, b.runbookId = id ∧ ∃ now,
    db'.proceduralMemory = Table.update (fun b => b.runbookId = id) (fun b =>
      { b with usageCount := b.usageCount + 1, lastUsedAt := some now }) db.proceduralMemory
  uncited : c.runbookId = none → db'.proceduralMemory = db.proceduralMemory
  organizations : db'.organizations = db.organizations
  semanticFacts : db'.semanticFacts = db.semanticFacts
  factProvenance : db'.factProvenance = db.factProvenance
  runbookProvenance : db'.runbookProvenance = db.runbookProvenance

/-- What the command has to meet in the state. -/
structure Acceptable : Prop where
  incident : ∃ i ∈ db.incidents, i.incidentId = c.incidentId ∧ i.orgId = c.orgId ∧
    i.serviceId = c.serviceId ∧ (i.status = .open ∨ i.status = .mitigating)
  cited : (∃ e ∈ db.episodicEvents, e.eventId = c.citedMemoryId ∧ e.orgId = c.orgId) ∨
    ∃ b ∈ db.proceduralMemory, b.runbookId = c.citedMemoryId ∧ b.orgId = c.orgId
  runbook : c.runbookId = none ∨ ∃ b ∈ db.proceduralMemory, c.runbookId = some b.runbookId ∧
    b.orgId = c.orgId ∧ b.status = .active
  unused : ∀ a ∈ db.remediationActions, a.orgId = c.orgId →
    a.idempotencyKey ≠ c.effectiveIdempotencyKey

/-- The service is one of the command's organization. -/
def ServiceOfOrg : Prop := ∃ s ∈ db.services, s.serviceId = c.serviceId ∧ s.orgId = c.orgId

end effect

/-- The gates and the unique index are the conditions. -/
lemma acceptable_iff {rt c embedding} {db : Database} :
    Acceptable c db ∧ ServiceOfOrg c db ↔
      Gates (remediationParams rt c embedding) db ∧
        ¬ KeyTaken (remediationParams rt c embedding) db := by
  constructor
  · rintro ⟨⟨⟨i, hi, ei, eo, es, open_⟩, cited, runbook, unused⟩, s, hs, e, o⟩
    refine ⟨⟨?_, ?_, ?_⟩, ?_⟩
    · exact ⟨i, hi, eo, ei, es, open_, s, hs, e.trans es.symm, o.trans eo.symm⟩
    · rcases cited with ⟨e, he, ee, eo⟩ | ⟨b, hb, eb, eo⟩
      · exact .inl ⟨e, he, eo, ee⟩
      · exact .inr ⟨b, hb, eo, eb⟩
    · rcases runbook with none | ⟨b, hb, eb, eo, active⟩
      · exact .inl none
      · exact .inr ⟨b, hb, eo, eb, active⟩
    · rintro ⟨a, ha, eo, ek⟩
      exact unused a ha eo ek
  · rintro ⟨⟨⟨i, hi, eo, ei, es, open_, s, hs, e, o⟩, cited, runbook⟩, unused⟩
    refine ⟨⟨⟨i, hi, ei, eo, es, open_⟩, ?_, ?_, ?_⟩, s, hs, e.trans es, o.trans eo⟩
    · rcases cited with ⟨e, he, eo, ee⟩ | ⟨b, hb, eo, eb⟩
      · exact .inl ⟨e, he, ee, eo⟩
      · exact .inr ⟨b, hb, eb, eo⟩
    · rcases runbook with none | ⟨b, hb, eo, eb, active⟩
      · exact .inl none
      · exact .inr ⟨b, hb, eb, eo, active⟩
    · intro a ha eo ek
      exact unused ⟨a, ha, eo, ek⟩

/-- Where the identifier is unique, a test that also names the organization selects the same row. -/
lemma update_org {α : Type} {id org : α → Uuid} {t : List α} {f : α → α} {r} {k o : Uuid}
    (u : Table.Unique id t) (hr : r ∈ t) (ek : id r = k) (eo : org r = o) :
    Table.update (fun s => org s = o ∧ id s = k) f t = Table.update (fun s => id s = k) f t := by
  apply Table.update_congr
  intro s hs
  by_cases same : id s = k
  · obtain rfl := u.eq hs hr (same.trans ek.symm)
    simp [same, eo]
  · simp [same]

/-- The writes of the statement are the effect. -/
lemma Remediated.effect {rt c embedding g} {db db' : Database} (adm : db.Admitted)
    (wrote : Remediated (remediationParams rt c embedding) g db db') :
    RemediationEffect c (remediationRow g).result db db' := by
  obtain ⟨⟨⟨i, hi, eo, ei, es, _, s, hs, e, o⟩, _, gate⟩, _, fresh, action, _, rfl⟩ := wrote
  obtain ⟨fd, fe, fa⟩ : (∀ d ∈ db.deploys, d.deployId ≠ g.deployId) ∧
      (∀ e ∈ db.episodicEvents, e.eventId ≠ g.eventId) ∧
      ∀ a ∈ db.remediationActions, a.actionId ≠ g.actionId := by
    simpa [Collides] using fresh
  constructor
  case deploy => exact ⟨_, rfl, rfl, rfl, rfl, rfl, fd⟩
  case episode => exact ⟨_, rfl, rfl, rfl, rfl, rfl, fe⟩
  case action => exact ⟨_, rfl, rfl, rfl, rfl, rfl, fa⟩
  case service =>
    refine ⟨s, hs, e.trans es, g.now, ?_⟩
    exact update_org adm.services hs (e.trans es) (o.trans eo)
  case incident =>
    refine ⟨i, hi, ei, ?_⟩
    exact update_org adm.incidents hi ei eo
  case cited =>
    intro id hid
    rcases gate with none | ⟨b, hb, bo, eb, _⟩
    · cases hid.symm.trans none
    · obtain rfl : id = b.runbookId := Option.some.inj (hid.symm.trans eb)
      refine ⟨b, hb, rfl, g.now, ?_⟩
      have row : (fun r : Runbook => decide (r.orgId = c.orgId ∧ some r.runbookId = c.runbookId)) =
          fun r => decide (r.orgId = c.orgId ∧ r.runbookId = b.runbookId) := by
        funext r
        simp [hid]
      show Table.update (fun r : Runbook => r.orgId = c.orgId ∧ some r.runbookId = c.runbookId) _ _ = _
      rw [row]
      exact update_org adm.runbooks hb rfl bo
  case uncited =>
    intro none
    apply Table.update_eq_self
    intro r _
    show decide (r.orgId = c.orgId ∧ some r.runbookId = c.runbookId) = false
    simp [none]
  case organizations => rfl
  case semanticFacts => rfl
  case factProvenance => rfl
  case runbookProvenance => rfl

/-- A remediation is all or nothing. A call that returns a result that is no replay wrote the whole
effect, one that raises without a lost acknowledgement wrote nothing, and there is nothing in between.
Where an attempt reaches its commit, the effect takes place exactly if the command is acceptable and
the service is one of its organization. -/
theorem remediation_atomic {rt retries env c embedding} {db : Database} (adm : db.Admitted)
    (valid : validate c embedding = .ok ()) :
    (∀ r, (remediateAndRecord rt retries env c embedding db).2 = .ok r →
      RemediationEffect c r db (remediateAndRecord rt retries env c embedding db).1 ∨
        ((remediateAndRecord rt retries env c embedding db).1 = db ∧
          replay rt (remediationParams rt c embedding) env.lookup db = .ok (some r))) ∧
    ((∀ n g ack, env.attempt n ≠ .commitLost g ack) →
      (∃ e, (remediateAndRecord rt retries env c embedding db).2 = .error e) →
      (remediateAndRecord rt retries env c embedding db).1 = db) ∧
    ((remediateAndRecord rt retries env c embedding db).1 = db ∨
      ∃ r, RemediationEffect c r db (remediateAndRecord rt retries env c embedding db).1) ∧
    ∀ n g, n ≤ retries → env.Reaches n → env.attempt n = .commit g → ¬ Collides g db →
      ((∃ r, (remediateAndRecord rt retries env c embedding db).2 = .ok r ∧
        RemediationEffect c r db (remediateAndRecord rt retries env c embedding db).1) ↔
        Acceptable c db ∧ ServiceOfOrg c db) := by
  have ended := @remediateAndRecord_ended rt retries env c embedding db valid
  have commit := @remediateAndRecord_commit rt retries env c embedding db
  generalize remediateAndRecord rt retries env c embedding db = out at *
  refine ⟨?_, ?_, ?_, ?_⟩
  · intro r hr
    cases ended with
    | committed _ _ _ wrote =>
      cases hr
      exact .inl (wrote.effect adm)
    | lost => cases hr
    | replayed found =>
      cases hr
      exact .inr ⟨rfl, found⟩
    | failed => cases hr
  · rintro acknowledged ⟨e, he⟩
    cases ended with
    | committed => cases he
    | lost _ _ fate _ => exact absurd fate (acknowledged _ _ _)
    | replayed => rfl
    | failed => rfl
  · cases ended with
    | committed _ _ _ wrote => exact .inr ⟨_, wrote.effect adm⟩
    | lost _ _ _ wrote => exact .inr ⟨_, wrote.effect adm⟩
    | replayed => exact .inl rfl
    | failed => exact .inl rfl
  · intro n g le reaches fate nc
    obtain ⟨action, ha⟩ := deployAction?_of_validate valid
    rw [@acceptable_iff rt c embedding]
    by_cases taken : KeyTaken (remediationParams rt c embedding) db
    · constructor
      · rintro ⟨r, _, written⟩
        have same : out.1 = db := by
          cases ended with
          | committed _ _ _ wrote => exact absurd taken wrote.unused
          | lost _ _ _ wrote => exact absurd taken wrote.unused
          | replayed => rfl
          | failed => rfl
        obtain ⟨d, rows, _⟩ := written.deploy
        rw [same] at rows
        simp at rows
      · rintro ⟨_, nk⟩
        exact absurd taken nk
    · rw [commit valid le reaches fate ha taken nc]
      by_cases gates : Gates (remediationParams rt c embedding) db
      · rw [if_pos gates]
        have wrote : Remediated (remediationParams rt c embedding) g db
            (remediated (remediationParams rt c embedding) g db action) :=
          ⟨gates, taken, nc, action, ha, rfl⟩
        exact ⟨fun _ => ⟨gates, taken⟩, fun _ => ⟨_, rfl, wrote.effect adm⟩⟩
      · rw [if_neg gates]
        constructor
        · rintro ⟨r, ⟨⟩, _⟩
        · rintro ⟨h, _⟩
          exact absurd h gates

/-- The rollback of the example, with all its rows. -/
theorem remediation_atomic_sample :
    ∃ r, (remediateAndRecord Runtime.sample 3 (Sample.commits Sample.generated) Sample.command
        Sample.embedding Sample.db).2 = .ok r ∧
      RemediationEffect Sample.command r Sample.db (remediateAndRecord Runtime.sample 3
        (Sample.commits Sample.generated) Sample.command Sample.embedding Sample.db).1 := by
  have law := (@remediation_atomic Runtime.sample 3 (Sample.commits Sample.generated) _ _ _
    Sample.db_admitted
    (show validate Sample.command Sample.embedding = .ok () by decide +kernel)).2.2.2
  apply (law 0 Sample.generated (Nat.zero_le _) (fun j hj => by cases hj) rfl
    (by decide +kernel)).mpr
  rw [@acceptable_iff Runtime.sample _ Sample.embedding]
  constructor <;> decide +kernel

/-- The example with the service of another organization. The foreign key of the incident is on
`service_id` alone, so the schema admits it. -/
def Sample.foreignService : Database :=
  { Sample.db with services := [⟨service, .sample 20, "checkout", .degraded, "v2", none, 0⟩] }

/-- The incident is open and matches the organization and the service of the command, the citation
resolves, no runbook is cited and the key is unused; `target` joins the service on the organization of
the incident, and the call is rejected. -/
theorem foreign_service_rejected :
    Sample.foreignService.Admitted ∧ validate Sample.command Sample.embedding = .ok () ∧
      Acceptable Sample.command Sample.foreignService ∧
      remediateAndRecord Runtime.sample 3 (Sample.commits Sample.generated) Sample.command
          Sample.embedding Sample.foreignService =
        (Sample.foreignService, .error gateRejection) := by
  refine ⟨?_, by decide +kernel, ⟨?_, ?_, .inl rfl, ?_⟩, by decide +kernel⟩
  · constructor <;> simp [Sample.foreignService, Sample.db, Sample.observation, Table.Unique, References]
  · decide +kernel
  · decide +kernel
  · decide +kernel

end Postmortem
