import Postmortem.Backend.OutcomeOnce

/-!
# Resolving an incident

`RECORD_OUTCOME_SQL` clamps the duration of an incident at zero, so it provides for an outcome observed before
the incident was opened. The table does not: its CHECK `incident_time_order` refuses a `resolved_at` before
`opened_at`, and the caller's `observed_at` is written as it is. `success_resolves_iff` says which first
successes resolve their incident.
-/

namespace Postmortem

/-- The command names the action and its incident, of which the service is one of the organization's. -/
structure Addresses (c : OutcomeCommand) (db : Database) (a : RemediationAction) (i : Incident) : Prop where
  action : a ∈ db.remediationActions
  names : Names c a
  incident : i ∈ db.incidents
  incidentId : i.incidentId = c.incidentId
  orgId : i.orgId = c.orgId
  serviceId : i.serviceId = c.serviceId
  service : ∃ s ∈ db.services, s.orgId = c.orgId ∧ s.serviceId = c.serviceId

/-- No outcome episode of the action is on record for the incident and the service. -/
def Unrecorded (rt : Runtime) (c : OutcomeCommand) (db : Database) (a : RemediationAction) : Prop :=
  ∀ e ∈ db.episodicEvents, e.orgId = c.orgId → e.incidentId = some c.incidentId →
    e.serviceId = some c.serviceId → ¬ OutcomeOf rt a e

/-- Some attempt runs to its commit, after serialization failures only and with a fresh identifier. -/
def Completes (env : Nat → Fate) (retries : Nat) (db : Database) : Prop :=
  ∃ n ≤ retries, (∃ g, env n = .commit g ∧ ∀ e ∈ db.episodicEvents, e.eventId ≠ g.eventId) ∧
    ∀ j < n, env j = .abort (some .serializationFailure)

/-- The call returns and leaves the incident resolved, with the seconds since its opening, not below zero,
where it had no duration. -/
def ResolvesIncident (rt : Runtime) (c : OutcomeCommand) (i : Incident)
    (out : Database × Except Raised OutcomeResult) : Prop :=
  (∃ r, out.2 = .ok r ∧ r.outcome = c.outcome ∧ r.incidentStatus = "resolved") ∧
    ∃ n ∈ out.1.incidents, n.incidentId = i.incidentId ∧ n.status = .resolved ∧
      n.resolvedAt = some (i.resolvedAt.getD c.observedAt) ∧
      n.mttrSeconds = some (i.mttrSeconds.getD (max 0 (rt.epochSeconds (c.observedAt - i.openedAt))))

section success

variable {rt : Runtime} {retries : Nat} {env : Nat → Fate} {c : OutcomeCommand} {embedding : Embedding}
  {g : Generated} {a : RemediationAction} {i : Incident} {db : Database}

/-- The CTE `target` finds what the command names. -/
lemma Addresses.target (adm : db.Admitted) (h : Addresses c db a i) :
    outcomeTarget (outcomeParams rt c embedding) db = some (a, i) := by
  obtain ⟨ak, ao, ai, at'⟩ := h.names
  have action : targetAction (outcomeParams rt c embedding) db = some a := by
    apply Table.find_of_unique h.action (decide_eq_true ⟨ao, ak, ai, at'⟩)
    intro b hb sat
    obtain ⟨_, bk, _⟩ := of_decide_eq_true sat
    exact adm.actions.eq hb h.action (Eq.trans bk ak.symm)
  have incident : targetIncident (outcomeParams rt c embedding) db a = some i := by
    obtain ⟨s, hs, so, ss⟩ := h.service
    have joined : i.orgId = a.orgId ∧ i.incidentId = a.incidentId ∧ i.serviceId = c.serviceId ∧
        ∃ s ∈ db.services, s.orgId = i.orgId ∧ s.serviceId = i.serviceId :=
      ⟨h.orgId.trans ao.symm, h.incidentId.trans ai.symm, h.serviceId, s, hs, so.trans h.orgId.symm,
        ss.trans h.serviceId.symm⟩
    apply Table.find_of_unique h.incident (decide_eq_true joined)
    intro n hn sat
    obtain ⟨_, ni, _⟩ := of_decide_eq_true sat
    exact adm.incidents.eq hn h.incident (ni.trans joined.2.1.symm)
  simp only [outcomeTarget, action, incident, Option.map_some]

/-- The CTE `existing` finds nothing where no outcome is on record. -/
lemma Unrecorded.existing (unrecorded : Unrecorded rt c db a) (names : Names c a) :
    existingOutcome rt (outcomeParams rt c embedding) db = none := by
  apply Table.first_eq_none.mpr
  apply List.filter_eq_nil_iff.mpr
  intro e he sat
  obtain ⟨eo, ei, es, outcome, text⟩ := of_decide_eq_true sat
  refine unrecorded e he eo ei es ⟨outcome, ?_⟩
  rw [text, names.1]
  rfl

/-- The CHECK of a success, on an admitted incident. -/
lemma timeOrdered_iff (adm : db.Admitted) (hi : i ∈ db.incidents) (success : c.outcome = .success) :
    TimeOrdered (outcomeParams rt c embedding) i ↔ i.resolvedAt ≠ none ∨ i.openedAt ≤ c.observedAt := by
  have written : resolvedAt (outcomeParams rt c embedding) i = some (i.resolvedAt.getD c.observedAt) :=
    if_pos success
  unfold TimeOrdered
  rw [written]
  cases stored : i.resolvedAt with
  | none => simp
  | some t => simpa using adm.timeOrder i hi t stored

/-- A transaction commits what the statement wrote where the row carries the command's outcome. -/
lemma outcomeTransact_ok {p db' row} (ran : recordOutcomeSql rt p g db = .ok (db', some row))
    (agrees : row.recordedOutcome = some c.outcome.value) :
    outcomeTransact rt c p g none db = (db', .ok (row.result c)) := by
  have same : ¬ recordedText row ≠ c.outcome.value := by
    rw [recordedText, agrees]
    exact not_not.mpr rfl
  rw [outcomeTransact, ran]
  simp only [if_neg same]

/-- A first success whose time is in order resolves the incident. -/
lemma outcomeTransact_resolves (adm : db.Admitted) (success : c.outcome = .success) (h : Addresses c db a i)
    (unrecorded : Unrecorded rt c db a) (fresh : ∀ e ∈ db.episodicEvents, e.eventId ≠ g.eventId)
    (ordered : TimeOrdered (outcomeParams rt c embedding) i) :
    ResolvesIncident rt c i (outcomeTransact rt c (outcomeParams rt c embedding) g none db) := by
  have given : (outcomeParams rt c embedding).outcome = .success := success
  have unused : ¬ ∃ e ∈ db.episodicEvents, e.eventId = g.eventId := by
    rintro ⟨e, he, eq⟩
    exact fresh e he eq
  have ran : recordOutcomeSql rt (outcomeParams rt c embedding) g db =
      .ok (outcomeRecorded rt (outcomeParams rt c embedding) g db a i, some {
        eventId := g.eventId
        recordedAt := g.now
        transactionId := a.transactionId
        incidentStatus := (resolve rt (outcomeParams rt c embedding) i).status
        recordedOutcome := some (outcomeParams rt c embedding).outcome.value
        idempotentReplay := false }) := by
    unfold recordOutcomeSql
    simp only [h.target adm, unrecorded.existing h.names, if_neg (not_not.mpr ordered), if_neg unused]
  rw [outcomeTransact_ok ran rfl]
  refine ⟨⟨_, rfl, rfl, ?_⟩, resolve rt (outcomeParams rt c embedding) i, ?_, rfl, ?_, ?_, ?_⟩
  · show (resolve rt (outcomeParams rt c embedding) i).status.text = "resolved"
    simp [resolve, given, IncidentStatus.text]
  · exact Table.mem_update_of_pos h.incident (decide_eq_true ⟨h.orgId, h.incidentId⟩)
  · exact if_pos given
  · exact if_pos given
  · exact if_pos given

/-- A first success out of order is rolled back by the CHECK. -/
lemma outcomeTransact_refused (adm : db.Admitted) (h : Addresses c db a i) (unrecorded : Unrecorded rt c db a)
    (early : ¬ TimeOrdered (outcomeParams rt c embedding) i) :
    outcomeTransact rt c (outcomeParams rt c embedding) g none db =
      (db, .error (outcomeRolledBack (.database .checkViolation))) := by
  unfold outcomeTransact recordOutcomeSql
  simp only [h.target adm, unrecorded.existing h.names, if_pos early]

end success

/-- Of a command that reports a first success for a matching action, in a transaction that the database
completes: it resolves the incident if and only if the incident has a time of resolution already or the
success was not observed before the incident was opened. -/
theorem success_resolves_iff {rt retries env c embedding a i} {db : Database} (adm : db.Admitted)
    (success : c.outcome = .success) (addresses : Addresses c db a i) (unrecorded : Unrecorded rt c db a)
    (dims : embedding.length = 1024) (completes : Completes env retries db) :
    ResolvesIncident rt c i (recordOutcome rt retries env c embedding db) ↔
      i.resolvedAt ≠ none ∨ i.openedAt ≤ c.observedAt := by
  obtain ⟨n, le, ⟨g, fate, fresh⟩, aborts⟩ := completes
  rw [@recordOutcome_runs rt retries env c embedding g db n none dims le fate aborts,
    ← @timeOrdered_iff rt c embedding i db adm addresses.incident success]
  constructor
  · intro resolves
    by_contra early
    rw [outcomeTransact_refused adm addresses unrecorded early] at resolves
    obtain ⟨⟨_, answered, _⟩, _⟩ := resolves
    cases answered
  · exact outcomeTransact_resolves adm success addresses unrecorded fresh

namespace Sample

/-- The outcome of the rollback as a caller with a slow clock reports it. -/
def earlyOutcome : OutcomeCommand :=
  { outcome with
    observedAt := -1000000 }

/-- The state after the rollback. -/
def mitigatingDb : Database := Run.run (step config) db [remediate]

/-- The action of the rollback, and its incident. -/
def rollbackAction : RemediationAction := actionRow (remediationParams config.rt command embedding) generated

def mitigatingIncident : Incident := ⟨incident, org, service, .mitigating, none, 0, none, none⟩

lemma mitigating_addressed {c : OutcomeCommand} (org : c.orgId = outcome.orgId)
    (action : c.actionId = outcome.actionId) (incident : c.incidentId = outcome.incidentId)
    (service : c.serviceId = outcome.serviceId) :
    Addresses c mitigatingDb rollbackAction mitigatingIncident := by
  refine ⟨by decide +kernel, ?_, by decide +kernel, ?_, ?_, ?_, ?_⟩
  · rw [Names, org, action, incident, service]
    decide +kernel
  · rw [incident]
    rfl
  · rw [org]
    rfl
  · rw [service]
    rfl
  · rw [org, service]
    decide +kernel

lemma mitigating_unrecorded {c : OutcomeCommand} : Unrecorded config.rt c mitigatingDb rollbackAction := by
  have none : ∀ e ∈ mitigatingDb.episodicEvents, e.eventType ≠ .outcome := by decide +kernel
  exact fun e he _ _ _ of => none e he of.1

lemma mitigating_completes : Completes (fun _ => .commit outcomeGenerated) 3 mitigatingDb :=
  ⟨0, Nat.zero_le _, ⟨_, rfl, by decide +kernel⟩, by simp⟩

end Sample

/-- The verified outcome of the rollback resolves its incident. -/
theorem success_resolves_iff_sample :
    ResolvesIncident .sample Sample.outcome Sample.mitigatingIncident
      (recordOutcome .sample 3 (fun _ => .commit Sample.outcomeGenerated) Sample.outcome Sample.embedding
        Sample.mitigatingDb) :=
  (success_resolves_iff (run_admitted Sample.db_admitted) rfl (Sample.mitigating_addressed rfl rfl rfl rfl)
    Sample.mitigating_unrecorded List.length_replicate Sample.mitigating_completes).mpr (.inr (by decide))

/-- The same outcome, observed a second before the incident was opened, is refused: the call raises
`OutcomeRecordingError` and the incident stays unresolved. -/
theorem early_success_refused :
    recordOutcome .sample 3 (fun _ => .commit Sample.outcomeGenerated) Sample.earlyOutcome Sample.embedding
        Sample.mitigatingDb =
      (Sample.mitigatingDb, .error (outcomeRolledBack (.database .checkViolation))) ∧
    ¬ ResolvesIncident .sample Sample.earlyOutcome Sample.mitigatingIncident
      (recordOutcome .sample 3 (fun _ => .commit Sample.outcomeGenerated) Sample.earlyOutcome Sample.embedding
        Sample.mitigatingDb) := by
  have adm : Sample.mitigatingDb.Admitted := run_admitted Sample.db_admitted
  have addresses : Addresses Sample.earlyOutcome Sample.mitigatingDb Sample.rollbackAction
      Sample.mitigatingIncident := Sample.mitigating_addressed rfl rfl rfl rfl
  have refused : recordOutcome .sample 3 (fun _ => .commit Sample.outcomeGenerated) Sample.earlyOutcome
      Sample.embedding Sample.mitigatingDb =
        (Sample.mitigatingDb, .error (outcomeRolledBack (.database .checkViolation))) := by
    rw [@recordOutcome_runs .sample 3 (fun _ => .commit Sample.outcomeGenerated) Sample.earlyOutcome Sample.embedding
      Sample.outcomeGenerated Sample.mitigatingDb 0 none List.length_replicate (Nat.zero_le _) rfl (by simp)]
    exact outcomeTransact_refused adm addresses Sample.mitigating_unrecorded (by decide)
  refine ⟨refused, fun resolves => ?_⟩
  rw [refused] at resolves
  obtain ⟨⟨_, answered, _⟩, _⟩ := resolves
  cases answered

end Postmortem
