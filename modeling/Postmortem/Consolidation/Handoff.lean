import Postmortem.Backend.Replay
import Postmortem.Consolidation.Changefeed
import Postmortem.Consolidation.Model

/-!
# From the responder to the consolidator

What the deterministic model makes of an incident the responder handled: one remediation and its
outcome. `REMEDIATE_AND_RECORD_SQL` writes the action episode without the action's type and
parameters, so the model, which reads them from the action episode, falls back to an escalation.
-/

namespace Postmortem

/-- The rows of the incident are those of its episodes. -/
structure Delivered (rt : Runtime) (db : Database) (incident : Uuid) (events : List ChangeEvent) :
    Prop where
  sound : ∀ e ∈ events, e.incidentId = incident.text →
    ∃ row ∈ db.episodicEvents, row.incidentId = some incident ∧ ReadFrom rt row e
  complete : ∀ row ∈ db.episodicEvents, row.incidentId = some incident →
    ∃ e ∈ events, ReadFrom rt row e

/-- A field of a step. -/
def stepField (key : String) : Json → Json
  | .obj fields => Dict.get fields key
  | _ => .null

/-- The candidate's remediation step names the type and the parameters recorded for the action. -/
def NamesAction (db : Database) (id : Uuid) (c : CandidateRunbook) : Prop :=
  ∃ a ∈ db.remediationActions, a.actionId = id ∧ ∃ step ∈ c.steps,
    stepField "tool" step = .str "remediate_and_record" ∧
    stepField "action" step = .str a.actionType.text ∧ stepField "params" step = a.params

instance (db : Database) (id : Uuid) (c : CandidateRunbook) : Decidable (NamesAction db id c) :=
  inferInstanceAs (Decidable (∃ a ∈ db.remediationActions, _))

open DeterministicConsolidationModel in
/-- The steps of a candidate whose action row has neither a type nor parameters escalate. -/
lemma remediation_of_steps {rt alert action step}
    (noType : action.metadata.get "action_type" = .null) (h : step ∈ steps rt alert action)
    (tool : stepField "tool" step = .str "remediate_and_record") :
    stepField "action" step = .str "escalate" := by
  have type : actionType rt action = "escalate" := by
    rw [actionType, noType]
    rfl
  obtain h | h | h := by simpa [steps, remediationStep, type] using h
  · subst h
    simp [stepField, Dict.get, Dict.getD, Assoc.get] at tool
  · subst h
    rfl
  · subst h
    simp [stepField, Dict.get, Dict.getD, Assoc.get] at tool

/-- The one action of an incident the responder handled is the action episode. -/
lemma action_readFrom {rt p g group last events} {db : Database} {outcome : Uuid}
    (kept : actionEpisode p g ∈ db.episodicEvents)
    (other : ∀ e ∈ db.episodicEvents, e.eventId = outcome → e.eventType = .outcome)
    (only : ∀ e ∈ db.episodicEvents, e.incidentId = some p.incidentId →
      e = actionEpisode p g ∨ e.eventId = outcome)
    (delivered : Delivered rt db p.incidentId events) (hg : group ∈ groupCompletedIncidents rt events)
    (org : group.orgId = p.orgId.text) (incident : group.incidentId = p.incidentId.text) :
    ReadFrom rt (actionEpisode p g) (DeterministicConsolidationModel.action group last) := by
  obtain ⟨e, he, read⟩ := delivered.complete _ kept rfl
  obtain ⟨eo, et, ei, _⟩ := read.spec
  have member : e ∈ group.episodes := by
    refine (mem_episodes hg).mpr ⟨he, ?_⟩
    rw [ChangeEvent.incidentKey, eo, ei _ rfl, org, incident]
    rfl
  obtain ⟨mem, type⟩ := @DeterministicConsolidationModel.action_spec group last ⟨e, member, et⟩
  generalize DeterministicConsolidationModel.action group last = action at *
  obtain ⟨ha, key⟩ := (mem_episodes hg).mp mem
  have ofIncident : action.incidentId = p.incidentId.text :=
    (congrArg Prod.snd key).trans incident
  obtain ⟨row, hrow, inc, read'⟩ := delivered.sound action ha ofIncident
  obtain rfl | out := only row hrow inc
  · exact read'
  · have t := read'.spec.2.1
    rw [type, other row hrow out] at t
    exact absurd t (by decide)

/-- For every command, every outcome of its action and every history of other operations in between:
where the incident's episodes are the two these wrote, the candidate the deterministic model makes of
them does not name the recorded action. -/
theorem recorded_action_not_named {cfg : Config} {c embedding g row q g' orow ops} {db db1 db2 : Database}
    {events group result} (adm : db.Admitted)
    (applied : remediateAndRecordSql (remediationParams cfg.rt c embedding) g db = .ok (db1, some row))
    (recorded : recordOutcomeSql cfg.rt q g' (Run.run (step cfg) db1 ops) = .ok (db2, some orow))
    (first : orow.idempotentReplay = false)
    (kept : actionEpisode (remediationParams cfg.rt c embedding) g ∈ db2.episodicEvents)
    (only : ∀ e ∈ db2.episodicEvents, e.incidentId = some c.incidentId →
      e = actionEpisode (remediationParams cfg.rt c embedding) g ∨ e.eventId = orow.eventId)
    (delivered : Delivered cfg.rt db2 c.incidentId events)
    (hg : group ∈ groupCompletedIncidents cfg.rt events) (org : group.orgId = c.orgId.text)
    (incident : group.incidentId = c.incidentId.text)
    (model : DeterministicConsolidationModel.consolidate cfg.rt group = .ok result) :
    ¬ NamesAction db2 g.actionId result.candidate := by
  obtain ⟨wrote, rfl⟩ := remediateAndRecordSql_row applied
  have st := @Standing.run cfg _ _ _ ops _ (wrote.standing adm)
  generalize Run.run (step cfg) db1 ops = db' at *
  obtain ⟨_, replay⟩ | ⟨a, i, out, r, er, eid, _⟩ := recordOutcomeSql_spec recorded
  · rw [replay orow rfl] at first
    cases first
  cases er
  have adm2 := out.admitted st.admitted
  obtain ⟨_, _, _, _, rfl⟩ := out
  have other : ∀ e ∈ (outcomeRecorded cfg.rt q g' db' a i).episodicEvents, e.eventId = orow.eventId →
      e.eventType = .outcome := by
    intro e he e'
    have mem : outcomeEpisode q g' a i ∈ (outcomeRecorded cfg.rt q g' db' a i).episodicEvents :=
      List.mem_append_right _ (List.mem_singleton_self _)
    rw [adm2.episodicEvents.eq he mem (e'.trans eid)]
    rfl
  obtain ⟨first, last, _, _, steps⟩ := DeterministicConsolidationModel.consolidate_steps model
  have read := @action_readFrom _ _ _ _ last _ _ _ kept other only delivered hg org incident
  have metadata := read.spec.2.2.2 _ rfl nofun
  rintro ⟨b, hb, eb, step, mem, tool, action, _⟩
  rw [steps] at mem
  have escalates := remediation_of_steps (by rw [metadata]; rfl) mem tool
  -- the recorded action is the one the remediation inserted
  obtain ⟨a0, ha0, _, _, ea0, _, _, ty, _⟩ := st.action
  have type : b.actionType = a0.actionType := by
    rw [st.admitted.actions.updated ha0 hb (fun _ => rfl) (eb.trans ea0.symm)]
    split <;> rfl
  rw [type, ty, escalates] at action
  unfold remediationParams at action
  split at action <;> simp [ActionType.text] at action

namespace Sample

/-- The database once the rollback and its outcome are recorded. -/
def recovered : Database := Run.run (step config) db [remediate, recordOutcome]

/-- The rows the changefeed delivers for the incident. -/
def rows : List ChangeEvent := (recovered.episodicEvents.filter fun e => e.incidentId = some incident).filterMap
  fun e => (ChangeEvent.fromChangefeed Runtime.sample (changefeedRow Runtime.sample "5" e)).toOption

/-- The candidate the model makes of them. -/
def consolidated : Option ModelResult :=
  (groupCompletedIncidents Runtime.sample rows).head?.bind fun group =>
    (DeterministicConsolidationModel.consolidate Runtime.sample group).toOption

lemma rows_delivered : Delivered Runtime.sample recovered incident rows := by
  constructor
  case sound =>
    intro e he _
    obtain ⟨row, hr, read⟩ := List.mem_filterMap.mp he
    obtain ⟨hr, inc⟩ := List.mem_filter.mp hr
    refine ⟨row, hr, of_decide_eq_true inc, "5", ?_⟩
    cases h : ChangeEvent.fromChangefeed Runtime.sample (changefeedRow Runtime.sample "5" row) with
    | error => rw [h] at read; cases read
    | ok e' => rw [h] at read; cases read; rfl
  case complete =>
    have all : ∀ row ∈ recovered.episodicEvents, row.incidentId = some incident →
        ∃ e ∈ rows, ChangeEvent.fromChangefeed Runtime.sample (changefeedRow Runtime.sample "5" row) =
          .ok e := by
      decide +kernel
    intro row hr inc
    obtain ⟨e, he, read⟩ := all row hr inc
    exact ⟨e, he, "5", read⟩

end Sample

/-- `recorded_action_not_named` on the rollback and its outcome. -/
theorem recorded_action_not_named_sample : ∃ result, Sample.consolidated = some result ∧
    ¬ NamesAction Sample.recovered Sample.generated.actionId result.candidate := by
  have found : Sample.consolidated.isSome = true := by decide +kernel
  obtain ⟨result, e⟩ := Option.isSome_iff_exists.mp found
  refine ⟨result, e, ?_⟩
  obtain ⟨group, hg, model⟩ := Option.bind_eq_some_iff.mp e
  have mem : group ∈ groupCompletedIncidents Runtime.sample Sample.rows := List.mem_of_mem_head? hg
  have keys : ∀ g ∈ groupCompletedIncidents Runtime.sample Sample.rows,
      g.orgId = Sample.org.text ∧ g.incidentId = Sample.incident.text := by
    decide +kernel
  have model : DeterministicConsolidationModel.consolidate Runtime.sample group = .ok result := by
    cases h : DeterministicConsolidationModel.consolidate Runtime.sample group with
    | error => rw [h] at model; cases model
    | ok r => rw [h] at model; cases model; rfl
  refine @recorded_action_not_named Sample.config Sample.command Sample.embedding Sample.generated
    (remediationRow Sample.generated) (outcomeParams Runtime.sample Sample.outcome Sample.embedding)
    Sample.outcomeGenerated
    ⟨Sample.outcomeGenerated.eventId, 3000000, Sample.generated.transactionId, .resolved,
      some "success", false⟩
    [] Sample.db (Run.run (step Sample.config) Sample.db [Sample.remediate]) _ _ _ _
    Sample.db_admitted ?applied ?recorded rfl ?kept ?only Sample.rows_delivered mem (keys _ mem).1
    (keys _ mem).2 model
  case applied => decide +kernel
  case recorded => decide +kernel
  case kept => decide +kernel
  case only => decide +kernel

/-- The recovered rollback is consolidated as an escalation. -/
theorem rollback_escalates : ∃ result, Sample.consolidated = some result ∧
    (¬ NamesAction Sample.recovered Sample.generated.actionId result.candidate) ∧
    ∃ step ∈ result.candidate.steps, stepField "tool" step = .str "remediate_and_record" ∧
      stepField "action" step = .str "escalate" ∧ stepField "params" step = .obj [] := by
  have found : Sample.consolidated.isSome = true := by decide +kernel
  obtain ⟨result, e⟩ := Option.isSome_iff_exists.mp found
  refine ⟨result, e, ?_⟩
  have all : ∀ result ∈ Sample.consolidated,
      (¬ NamesAction Sample.recovered Sample.generated.actionId result.candidate) ∧
      ∃ step ∈ result.candidate.steps, stepField "tool" step = .str "remediate_and_record" ∧
        stepField "action" step = .str "escalate" ∧ stepField "params" step = .obj [] := by
    decide +kernel
  exact all result e

end Postmortem
