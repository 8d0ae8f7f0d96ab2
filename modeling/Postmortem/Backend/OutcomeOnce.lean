import Postmortem.System

/-!
# Outcomes are recorded once

`record_outcome` keeps a promise that no constraint of the schema states: an action has at most one
outcome episode. `Settled` is the invariant: every outcome episode belongs to one action, whose stored
outcome is the episode's, and whose incident is resolved where the outcome is a success. Every step but
the TTL job's keeps it (`Settled.step`).

From a settled state the store answers a second command from the episode on record
(`Settled.resubmit`), and `outcomes_once` collects what follows for every run.
-/

namespace Postmortem

section settled

variable (rt : Runtime)

/-- An outcome episode of the action. -/
def OutcomeOf (a : RemediationAction) (e : EpisodicEvent) : Prop :=
  e.eventType = .outcome ∧ jsonField rt e.metadata "action_id" = some a.actionId.text

instance {a : RemediationAction} {e : EpisodicEvent} : Decidable (OutcomeOf rt a e) :=
  inferInstanceAs (Decidable (_ ∧ _))

/-- The action belongs to an incident of its organization on its target service. -/
def Targeted (db : Database) (a : RemediationAction) : Prop :=
  ∃ i ∈ db.incidents, i.orgId = a.orgId ∧ i.incidentId = a.incidentId ∧
    a.targetId = some i.serviceId ∧ ∃ s ∈ db.services, s.orgId = i.orgId ∧ s.serviceId = i.serviceId

/-- A success is on record for the incident. -/
def SuccessOn (db : Database) (incident : Uuid) : Prop :=
  ∃ e ∈ db.episodicEvents, e.eventType = .outcome ∧ e.incidentId = some incident ∧
    jsonField rt e.metadata "outcome" = some "success"

/-- The outcomes on record are consistent. -/
structure Settled (db : Database) : Prop where
  admitted : db.Admitted
  one : ∀ e ∈ db.episodicEvents, ∀ e' ∈ db.episodicEvents, e.eventType = .outcome →
    e'.eventType = .outcome →
    jsonField rt e.metadata "action_id" = jsonField rt e'.metadata "action_id" → e = e'
  source : ∀ e ∈ db.episodicEvents, e.eventType = .outcome → ∃ a ∈ db.remediationActions,
    OutcomeOf rt a e ∧ e.orgId = a.orgId ∧ e.incidentId = some a.incidentId ∧
      e.serviceId = a.targetId ∧ jsonField rt e.metadata "outcome" = some a.outcome.text ∧ Targeted db a
  resolved : ∀ id, SuccessOn rt db id → ∀ i ∈ db.incidents, i.incidentId = id →
    i.resolvedAt ≠ none ∧ i.mttrSeconds ≠ none

end settled

lemma Settled.start {rt} {db : Database} (adm : db.Admitted)
    (none : ∀ e ∈ db.episodicEvents, e.eventType ≠ .outcome) : Settled rt db := by
  refine ⟨adm, ?_, ?_, ?_⟩
  · intro e he _ _ out
    exact absurd out (none e he)
  · intro e he out
    exact absurd out (none e he)
  · rintro id ⟨e, he, out, _⟩
    exact absurd out (none e he)

/-- The step does not touch outcomes: actions and outcome episodes stay, and incidents and services
keep their identity and resolution. -/
structure Apart (db db' : Database) : Prop where
  actions : ∀ a ∈ db.remediationActions, a ∈ db'.remediationActions
  episodes : ∀ e ∈ db'.episodicEvents, e.eventType = .outcome → e ∈ db.episodicEvents
  incidents : ∀ i ∈ db.incidents, ∃ i' ∈ db'.incidents, i'.incidentId = i.incidentId ∧
    i'.orgId = i.orgId ∧ i'.serviceId = i.serviceId
  resolutions : ∀ i' ∈ db'.incidents, ∃ i ∈ db.incidents, i.incidentId = i'.incidentId ∧
    i.resolvedAt = i'.resolvedAt ∧ i.mttrSeconds = i'.mttrSeconds
  services : ∀ s ∈ db.services, ∃ s' ∈ db'.services, s'.serviceId = s.serviceId ∧ s'.orgId = s.orgId

/-- Where the four tables stay, nothing is touched. -/
lemma Apart.of_eq {db db' : Database} (actions : db'.remediationActions = db.remediationActions)
    (episodes : db'.episodicEvents = db.episodicEvents) (incidents : db'.incidents = db.incidents)
    (services : db'.services = db.services) : Apart db db' := by
  refine ⟨?_, ?_, ?_, ?_, ?_⟩
  · rw [actions]
    exact fun _ h => h
  · rw [episodes]
    exact fun _ h _ => h
  · rw [incidents]
    exact fun i hi => ⟨i, hi, rfl, rfl, rfl⟩
  · rw [incidents]
    exact fun i hi => ⟨i, hi, rfl, rfl, rfl⟩
  · rw [services]
    exact fun s hs => ⟨s, hs, rfl, rfl⟩

/-- A remediation adds rows and leaves resolutions alone. -/
lemma Remediated.apart {p g db db'} (wrote : Remediated p g db db') : Apart db db' := by
  obtain ⟨_, _, _, action, _, rfl⟩ := wrote
  constructor
  case actions => exact fun a ha => List.mem_append_left _ ha
  case episodes =>
    intro e he out
    rcases List.mem_append.mp he with he | he
    · exact he
    · obtain rfl := List.mem_singleton.mp he
      cases out
  case incidents =>
    intro i hi
    cases sel : decide (i.orgId = p.orgId ∧ i.incidentId = p.incidentId)
    · exact ⟨i, Table.mem_update_of_not hi sel, rfl, rfl, rfl⟩
    · exact ⟨_, Table.mem_update_of_pos hi sel, rfl, rfl, rfl⟩
  case resolutions =>
    intro i' hi'
    obtain ⟨i, hi, rfl⟩ := Table.mem_update.mp hi'
    refine ⟨i, hi, ?_⟩
    split <;> exact ⟨rfl, rfl, rfl⟩
  case services =>
    intro s hs
    cases sel : decide (s.orgId = p.orgId ∧ s.serviceId = p.serviceId)
    · exact ⟨s, Table.mem_update_of_not hs sel, rfl, rfl⟩
    · exact ⟨_, Table.mem_update_of_pos hs sel, rfl, rfl⟩

lemma Apart.targeted {db db' a} (apart : Apart db db') (t : Targeted db a) : Targeted db' a := by
  obtain ⟨i, hi, io, ii, is, s, hs, so, ss⟩ := t
  obtain ⟨i', hi', ei, eo, es⟩ := apart.incidents i hi
  obtain ⟨s', hs', et, ep⟩ := apart.services s hs
  exact ⟨i', hi', eo.trans io, ei.trans ii, by rw [is, es], s', hs', by rw [ep, so, eo],
    by rw [et, ss, es]⟩

lemma Settled.apart {rt} {db db' : Database} (st : Settled rt db) (adm : db'.Admitted)
    (apart : Apart db db') : Settled rt db' := by
  refine ⟨adm, ?_, ?_, ?_⟩
  · intro e he e' he' out out'
    exact st.one e (apart.episodes e he out) e' (apart.episodes e' he' out') out out'
  · intro e he out
    obtain ⟨a, ha, of, eo, ei, es, text, t⟩ := st.source e (apart.episodes e he out) out
    exact ⟨a, apart.actions a ha, of, eo, ei, es, text, apart.targeted t⟩
  · rintro id ⟨e, he, out, ei, success⟩ i' hi' rfl
    obtain ⟨i, hi, same, er, em⟩ := apart.resolutions i' hi'
    rw [← er, ← em]
    exact st.resolved i'.incidentId ⟨e, apart.episodes e he out, out, ei, success⟩ i hi same

/-- What the CTE `target` found is an action of the parameters, with its incident and service. -/
lemma outcomeTarget_targeted {p : OutcomeParams} {db a i} (h : outcomeTarget p db = some (a, i)) :
    Targeted db a ∧ i ∈ db.incidents ∧ i.incidentId = a.incidentId := by
  obtain ⟨ha, hi, io, ii⟩ := outcomeTarget_spec h
  obtain ⟨_, ao, _, ai, at'⟩ := targetAction_spec ha
  unfold outcomeTarget at h
  rw [ha] at h
  obtain ⟨i', found, e⟩ := Option.map_eq_some_iff.mp h
  cases e
  unfold targetIncident at found
  have sat := List.find?_some found
  obtain ⟨eo, ei, es, s, hs, so, ss⟩ := of_decide_eq_true sat
  exact ⟨⟨i, hi, eo, ei, by rw [at', es], s, hs, so, ss⟩, hi, ei⟩

/-- The episode written is an outcome of the action, with the outcome of the parameters. -/
lemma outcomeEpisode_fields {rt p g a i} : OutcomeOf rt a (outcomeEpisode p g a i) ∧
    jsonField rt (outcomeEpisode p g a i).metadata "outcome" = some p.outcome.value := by
  refine ⟨⟨rfl, ?_⟩, ?_⟩
  · simp [jsonField, outcomeEpisode, Dict.get, Dict.getD, Assoc.get]
  · simp [jsonField, outcomeEpisode, Dict.get, Dict.getD, Assoc.get]

/-- What `COALESCE` finds it leaves. -/
lemma resolve_resolved {rt p} {i : Incident} (h : i.resolvedAt ≠ none ∧ i.mttrSeconds ≠ none) :
    (resolve rt p i).resolvedAt = i.resolvedAt ∧ (resolve rt p i).mttrSeconds = i.mttrSeconds := by
  obtain ⟨t, ht⟩ := Option.ne_none_iff_exists'.mp h.1
  obtain ⟨m, hm⟩ := Option.ne_none_iff_exists'.mp h.2
  simp [resolve, resolvedAt, ht, hm]

lemma resolve_failure {rt p} {i : Incident} (h : p.outcome ≠ .success) :
    (resolve rt p i).resolvedAt = i.resolvedAt ∧ (resolve rt p i).mttrSeconds = i.mttrSeconds := by
  simp [resolve, resolvedAt, h]

lemma resolve_success {rt p} {i : Incident} (h : p.outcome = .success) :
    (resolve rt p i).resolvedAt ≠ none ∧ (resolve rt p i).mttrSeconds ≠ none := by
  simp [resolve, resolvedAt, h]

lemma OutcomeKind.value_success {o : OutcomeKind} : o.value = "success" ↔ o = .success := by
  cases o <;> decide

/-- The action of an outcome episode is the one it names. -/
lemma Settled.own {rt db a e} (st : Settled rt db) (ha : a ∈ db.remediationActions)
    (he : e ∈ db.episodicEvents) (of : OutcomeOf rt a e) :
    e.orgId = a.orgId ∧ e.incidentId = some a.incidentId ∧ e.serviceId = a.targetId ∧
      jsonField rt e.metadata "outcome" = some a.outcome.text ∧ Targeted db a := by
  obtain ⟨b, hb, ⟨_, names⟩, rest⟩ := st.source e he of.1
  have same : b.actionId = a.actionId := Uuid.ext (Option.some.inj (names.symm.trans of.2))
  obtain rfl := st.admitted.actions.eq hb ha same
  exact rest

lemma ActionOutcome.text_injective {o o' : ActionOutcome} (h : o.text = o'.text) : o = o' := by
  cases o <;> cases o' <;> first | rfl | (revert h; decide)

section recorded

variable {rt : Runtime} {p : OutcomeParams} {g : Generated} {db db' : Database}
  {a : RemediationAction} {i : Incident}

lemma OutcomeRecorded.unsettled (wrote : OutcomeRecorded rt p g db a i db') (st : Settled rt db) :
    ∀ e ∈ db.episodicEvents, ¬ OutcomeOf rt a e := by
  rintro e he ⟨out, names⟩
  obtain ⟨ha, ao, ak, ai, at'⟩ := targetAction_spec (outcomeTarget_spec wrote.target).1
  obtain ⟨eo, ei, es, _⟩ := st.own ha he ⟨out, names⟩
  have isOutcome : IsOutcomeOf rt p e := by
    refine ⟨eo.trans ao, ?_, es.trans at', out, ?_⟩
    · rw [ei, ai]
    · rw [names, ak]
  have none := Table.first_eq_none.mp wrote.first
  have found : e ∈ db.episodicEvents.filter fun e => IsOutcomeOf rt p e :=
    List.mem_filter.mpr ⟨he, decide_eq_true isOutcome⟩
  rw [none] at found
  cases found

lemma OutcomeRecorded.targeted {b} (wrote : OutcomeRecorded rt p g db a i db') (t : Targeted db b) :
    Targeted db' b := by
  obtain ⟨n, hn, no, ni, ns, s, hs, so, ss⟩ := t
  obtain rfl := wrote.written
  cases sel : decide (n.orgId = p.orgId ∧ n.incidentId = p.incidentId)
  · exact ⟨n, Table.mem_update_of_not hn sel, no, ni, ns, s, hs, so, ss⟩
  · exact ⟨resolve rt p n, Table.mem_update_of_pos hn sel, no, ni, ns, s, hs, so, ss⟩

/-- The new outcome is the only one of its action. -/
lemma OutcomeRecorded.one (wrote : OutcomeRecorded rt p g db a i db') (st : Settled rt db) :
    ∀ e ∈ db'.episodicEvents, ∀ e' ∈ db'.episodicEvents, e.eventType = .outcome →
      e'.eventType = .outcome →
      jsonField rt e.metadata "action_id" = jsonField rt e'.metadata "action_id" → e = e' := by
  have unsettled := wrote.unsettled st
  obtain ⟨ofA, _⟩ := @outcomeEpisode_fields rt p g a i
  have apart : ∀ e ∈ db.episodicEvents, e.eventType = .outcome →
      jsonField rt e.metadata "action_id" ≠
        jsonField rt (outcomeEpisode p g a i).metadata "action_id" := by
    intro e he out same
    exact unsettled e he ⟨out, same.trans ofA.2⟩
  rw [wrote.written]
  apply Table.forall_insert
  · intro e he
    apply Table.forall_insert
    · intro e' he' out out' same
      exact st.one e he e' he' out out' same
    · intro out _ same
      exact absurd same (apart e he out)
  · apply Table.forall_insert
    · intro e' he' _ out' same
      exact absurd same.symm (apart e' he' out')
    · intro _ _ _
      rfl

/-- Every outcome names the action it came from. -/
lemma OutcomeRecorded.source (wrote : OutcomeRecorded rt p g db a i db') (st : Settled rt db) :
    ∀ e ∈ db'.episodicEvents, e.eventType = .outcome → ∃ a ∈ db'.remediationActions,
      OutcomeOf rt a e ∧ e.orgId = a.orgId ∧ e.incidentId = some a.incidentId ∧
        e.serviceId = a.targetId ∧ jsonField rt e.metadata "outcome" = some a.outcome.text ∧
          Targeted db' a := by
  have unsettled := wrote.unsettled st
  have targeted := @OutcomeRecorded.targeted rt p g db db' a i
  obtain ⟨ofA, outcome⟩ := @outcomeEpisode_fields rt p g a i
  obtain ⟨ha, ao, ak, ai, at'⟩ := targetAction_spec (outcomeTarget_spec wrote.target).1
  obtain ⟨t, _, _⟩ := outcomeTarget_targeted wrote.target
  have written := wrote.written
  intro e he out
  rw [written] at he
  rcases List.mem_append.mp he with he | he
  · obtain ⟨b, hb, ofB, rest⟩ := st.source e he out
    have other : decide (b.actionId = p.actionId) = false := by
      apply decide_eq_false
      intro same
      have own : b = a := st.admitted.actions.eq hb ha (same.trans ak.symm)
      rw [own] at ofB
      exact unsettled e he ofB
    obtain ⟨eo, ei, es, text, tb⟩ := rest
    refine ⟨b, ?_, ofB, eo, ei, es, text, targeted wrote tb⟩
    rw [written]
    exact Table.mem_update_of_not hb other
  · obtain rfl := List.mem_singleton.mp he
    refine ⟨{ a with outcome := p.outcome.stored }, ?_, ofA, ao.symm, ?_, at'.symm, ?_, targeted wrote t⟩
    · rw [written]
      exact Table.mem_update_of_pos ha (decide_eq_true ak)
    · exact congrArg some ai.symm
    · rw [outcome, OutcomeKind.stored_text]

/-- An incident with a success stays resolved, and the one a new success is for is. -/
lemma OutcomeRecorded.resolved (wrote : OutcomeRecorded rt p g db a i db') (st : Settled rt db) :
    ∀ id, SuccessOn rt db' id → ∀ i ∈ db'.incidents, i.incidentId = id →
      i.resolvedAt ≠ none ∧ i.mttrSeconds ≠ none := by
  obtain ⟨_, outcome⟩ := @outcomeEpisode_fields rt p g a i
  obtain ⟨_, _, _, ai, _⟩ := targetAction_spec (outcomeTarget_spec wrote.target).1
  obtain ⟨_, hi, ii⟩ := outcomeTarget_targeted wrote.target
  rintro id ⟨e, he, out, ei, success⟩ n' hn' rfl
  rw [wrote.written] at he hn'
  obtain ⟨n, hn, rfl⟩ := Table.mem_update.mp hn'
  rcases List.mem_append.mp he with he | he
  · have known : n.resolvedAt ≠ none ∧ n.mttrSeconds ≠ none := by
      apply st.resolved n.incidentId ⟨e, he, out, ?_, success⟩ n hn rfl
      rw [ei]
      split <;> rfl
    split
    · rw [(resolve_resolved known).1, (resolve_resolved known).2]
      exact known
    · exact known
  · obtain rfl := List.mem_singleton.mp he
    have won : p.outcome = .success :=
      OutcomeKind.value_success.mp (Option.some.inj (outcome.symm.trans success))
    have own : n.incidentId = i.incidentId := by
      have e : some a.incidentId = some n.incidentId := by
        rw [ai]
        exact ei.trans (by split <;> rfl)
      exact (Option.some.inj e).symm.trans ii.symm
    obtain rfl := st.admitted.incidents.eq hn hi own
    obtain ⟨_, _, io, ii'⟩ := outcomeTarget_spec wrote.target
    rw [if_pos (decide_eq_true ⟨io, ii'⟩)]
    exact resolve_success won

/-- Recording an outcome keeps the invariant. -/
lemma OutcomeRecorded.settled (wrote : OutcomeRecorded rt p g db a i db') (st : Settled rt db) :
    Settled rt db' where
  admitted := wrote.admitted st.admitted
  one := wrote.one st
  source := wrote.source st
  resolved := wrote.resolved st

end recorded

/-! ## Steps and runs -/

lemma Settled.step {cfg : Config} {db op} (st : Settled cfg.rt db) (ne : ∀ id, op ≠ .expire id) :
    Settled cfg.rt (step cfg db op) := by
  have adm := @step_admitted cfg db op st.admitted
  have spec := @step_spec cfg db op
  generalize Postmortem.step cfg db op = db' at adm spec
  cases spec with
  | idle => exact st
  | remediate wrote => exact st.apart adm wrote.apart
  | recordOutcome wrote => exact wrote.settled st
  | consolidate _ applied => exact st.apart adm (by cases applied <;> exact .of_eq rfl rfl rfl rfl)
  | retire => exact st.apart adm (.of_eq rfl rfl rfl rfl)
  | expire => exact absurd rfl (ne _)

/-- A run without deletions keeps the invariant. -/
lemma Settled.run {cfg : Config} {db ops} (st : Settled cfg.rt db)
    (kept : ∀ op ∈ ops, ∀ id, op ≠ .expire id) :
    Settled cfg.rt (Run.run (Postmortem.step cfg) db ops) :=
  @Run.run_invariant _ _ (Postmortem.step cfg) (Settled cfg.rt) ops db
    (fun _ op h st => st.step (kept op h)) st

/-! ## The store's answers -/

/-- The database answers: some attempt runs to its commit, after serialization failures only. -/
def Answers (env : Nat → Fate) (retries : Nat) : Prop :=
  ∃ n ≤ retries, (∃ g, env n = .commit g) ∧ ∀ j < n, env j = .abort (some .serializationFailure)

/-- A call the database answers. -/
lemma recordOutcome_answered {rt retries env c embedding db} (answers : Answers env retries)
    (dims : embedding.length = 1024) : ∃ g, recordOutcome rt retries env c embedding db =
      outcomeTransact rt c (outcomeParams rt c embedding) g none db := by
  obtain ⟨n, le, ⟨g, fate⟩, aborts⟩ := answers
  exact ⟨g, @recordOutcome_runs _ _ _ _ _ _ _ n none dims le fate aborts⟩

section answers

variable (rt : Runtime) (retries : Nat) (c : OutcomeCommand) (db : Database)

/-- The command names the action, with its organization, incident and service. -/
def Names (a : RemediationAction) : Prop :=
  a.actionId = c.actionId ∧ a.orgId = c.orgId ∧ a.incidentId = c.incidentId ∧
    a.targetId = some c.serviceId

instance {a : RemediationAction} : Decidable (Names c a) :=
  inferInstanceAs (Decidable (_ ∧ _ ∧ _ ∧ _))

/-- Organization, incident, service and action of the command match. -/
def Matches : Prop :=
  ∃ a ∈ db.remediationActions, Names c a ∧ ∃ i ∈ db.incidents, i.incidentId = c.incidentId ∧
    i.orgId = c.orgId ∧ i.serviceId = c.serviceId

/-- The call returns the episode again. -/
def ReplaysOutcome (e : EpisodicEvent) (out : Except Raised OutcomeResult) : Prop :=
  ∃ r, out = .ok r ∧ r.eventId = e.eventId ∧ r.recordedAt = e.createdAt ∧ r.outcome = c.outcome ∧
    r.idempotentReplay = true

/-- How the store treats an action whose outcome is on record, and a command that does not match. -/
structure AnswersOnce : Prop where
  same : ∀ a ∈ db.remediationActions, ∀ e ∈ db.episodicEvents, OutcomeOf rt a e → Names c a →
    a.outcome = c.outcome.stored → ∀ env embedding, (recordOutcome rt retries env c embedding db).1 = db ∧
      (Answers env retries → embedding.length = 1024 →
        ReplaysOutcome c e (recordOutcome rt retries env c embedding db).2)
  different : ∀ a ∈ db.remediationActions, ∀ e ∈ db.episodicEvents, OutcomeOf rt a e → Names c a →
    a.outcome ≠ c.outcome.stored → ∀ env embedding,
      (recordOutcome rt retries env c embedding db).1 = db ∧
      (Answers env retries → embedding.length = 1024 →
        ∃ err, (recordOutcome rt retries env c embedding db).2 = .error err ∧
          err.cls = .OutcomeConflict)
  mismatch : ¬ Matches c db → ∀ env embedding, (recordOutcome rt retries env c embedding db).1 = db ∧
    (Answers env retries → embedding.length = 1024 →
      (recordOutcome rt retries env c embedding db).2 = .error outcomeRejection)

end answers

lemma outcomeTarget_mismatch {rt c embedding db} (h : ¬ Matches c db) :
    outcomeTarget (outcomeParams rt c embedding) db = none := by
  cases found : outcomeTarget (outcomeParams rt c embedding) db with
  | none => rfl
  | some t =>
    obtain ⟨a, i⟩ := t
    obtain ⟨ha, ao, ak, ai, at'⟩ := targetAction_spec (outcomeTarget_spec found).1
    obtain ⟨_, hi, io, ii⟩ := outcomeTarget_spec found
    obtain ⟨⟨n, hn, no, ni, ns, _⟩, _⟩ := outcomeTarget_targeted found
    have service : n.serviceId = c.serviceId := Option.some.inj (ns.symm.trans at')
    exact absurd ⟨a, ha, ⟨ak, ao, ai, at'⟩, n, hn, ni.trans ai, no.trans ao, service⟩ h

/-- Where no statement writes, no call does. -/
lemma recordOutcome_idle {rt retries env c embedding db}
    (h : ∀ g a i db', ¬ OutcomeRecorded rt (outcomeParams rt c embedding) g db a i db') :
    (recordOutcome rt retries env c embedding db).1 = db := by
  obtain idle | ⟨g, a, i, records, _⟩ := @recordOutcome_spec rt retries env c embedding db
  · exact idle
  · exact absurd records.written (h _ _ _ _)

section settled

variable {rt : Runtime} {db : Database} {c : OutcomeCommand} {a : RemediationAction} {e : EpisodicEvent}

/-- What the CTE `target` finds for a command that names an action with an outcome. -/
lemma Settled.target (st : Settled rt db) (ha : a ∈ db.remediationActions)
    (he : e ∈ db.episodicEvents) (of : OutcomeOf rt a e) (names : Names c a) {embedding} :
    ∃ i, outcomeTarget (outcomeParams rt c embedding) db = some (a, i) := by
  obtain ⟨ak, ao, ai, at'⟩ := names
  obtain ⟨_, _, _, _, i, hi, io, ii, is, s, hs, so, ss⟩ := st.own ha he of
  have action : targetAction (outcomeParams rt c embedding) db = some a := by
    apply Table.find_of_unique ha (decide_eq_true ⟨ao, ak, ai, at'⟩)
    intro b hb sat
    obtain ⟨_, bk, _⟩ := of_decide_eq_true sat
    exact st.admitted.actions.eq hb ha (Eq.trans bk ak.symm)
  have service : i.serviceId = c.serviceId := Option.some.inj (is.symm.trans at')
  have incident : targetIncident (outcomeParams rt c embedding) db a = some i := by
    apply Table.find_of_unique hi (decide_eq_true ⟨io, ii, service, s, hs, so, ss⟩)
    intro n hn sat
    obtain ⟨_, ni, _⟩ := of_decide_eq_true sat
    exact st.admitted.incidents.eq hn hi (ni.trans ii.symm)
  refine ⟨i, ?_⟩
  simp only [outcomeTarget, action, incident, Option.map_some]

/-- What the CTE `existing` finds there. -/
lemma Settled.existing (st : Settled rt db) (ha : a ∈ db.remediationActions)
    (he : e ∈ db.episodicEvents) (of : OutcomeOf rt a e) (names : Names c a) {embedding} :
    existingOutcome rt (outcomeParams rt c embedding) db = some e := by
  obtain ⟨ak, ao, ai, at'⟩ := names
  obtain ⟨eo, ei, es, _⟩ := st.own ha he of
  have isOutcome : IsOutcomeOf rt (outcomeParams rt c embedding) e := by
    refine ⟨eo.trans ao, ei.trans (congrArg some ai), es.trans at', of.1, ?_⟩
    rw [of.2, ak]
    rfl
  have found : e ∈ db.episodicEvents.filter fun e => IsOutcomeOf rt (outcomeParams rt c embedding) e :=
    List.mem_filter.mpr ⟨he, decide_eq_true isOutcome⟩
  cases first : existingOutcome rt (outcomeParams rt c embedding) db with
  | none =>
    rw [Table.first_eq_none.mp first] at found
    cases found
  | some e' =>
    obtain ⟨he', sat⟩ := List.mem_filter.mp (Table.first_mem first)
    obtain ⟨_, _, _, out, text⟩ := of_decide_eq_true sat
    rw [st.one e' he' e he out of.1 (text.trans isOutcome.2.2.2.2.symm)]

/-- From a settled state the store answers as it did before. -/
lemma Settled.answersOnce {retries} (st : Settled rt db) : AnswersOnce rt retries c db := by
  -- a command that names a settled action finds the episode, so the statement writes nothing
  have recorded : ∀ a ∈ db.remediationActions, ∀ e ∈ db.episodicEvents, OutcomeOf rt a e →
      Names c a → ∀ embedding, ∃ i, outcomeTarget (outcomeParams rt c embedding) db = some (a, i) ∧
        existingOutcome rt (outcomeParams rt c embedding) db = some e := by
    intro a ha e he of names embedding
    obtain ⟨i, target⟩ := @Settled.target rt db c a e st ha he of names embedding
    exact ⟨i, target, st.existing ha he of names⟩
  have idle : ∀ a ∈ db.remediationActions, ∀ e ∈ db.episodicEvents, OutcomeOf rt a e → Names c a →
      ∀ env embedding, (recordOutcome rt retries env c embedding db).1 = db := by
    intro a ha e he of names env embedding
    obtain ⟨i, target, existing⟩ := recorded a ha e he of names embedding
    apply recordOutcome_idle
    intro g b n db' wrote
    cases existing.symm.trans wrote.first
  constructor
  case same =>
    intro a ha e he of names outcome env embedding
    refine ⟨idle a ha e he of names env embedding, ?_⟩
    intro answers dims
    obtain ⟨g, call⟩ := @recordOutcome_answered rt retries env c embedding db answers dims
    obtain ⟨i, target, existing⟩ := recorded a ha e he of names embedding
    obtain ⟨_, _, _, text, _⟩ := st.own ha he of
    rw [outcome, OutcomeKind.stored_text] at text
    rw [call]
    simp only [outcomeTransact, recordOutcomeSql, target, existing, recordedText, text,
      Option.getD_some, ne_eq, not_true_eq_false, if_false]
    exact ⟨_, rfl, rfl, rfl, rfl, rfl⟩
  case different =>
    intro a ha e he of names outcome env embedding
    refine ⟨idle a ha e he of names env embedding, ?_⟩
    intro answers dims
    obtain ⟨g, call⟩ := @recordOutcome_answered rt retries env c embedding db answers dims
    obtain ⟨i, target, existing⟩ := recorded a ha e he of names embedding
    obtain ⟨_, _, _, text, _⟩ := st.own ha he of
    have other : a.outcome.text ≠ c.outcome.value := by
      rw [← OutcomeKind.stored_text]
      exact fun same => outcome (ActionOutcome.text_injective same)
    rw [call]
    simp only [outcomeTransact, recordOutcomeSql, target, existing, recordedText, text,
      Option.getD_some, ne_eq, other, not_false_eq_true, if_true]
    exact ⟨_, rfl, rfl⟩
  case mismatch =>
    intro not env embedding
    have target := @outcomeTarget_mismatch rt c embedding db not
    constructor
    · apply recordOutcome_idle
      intro g b n db' wrote
      cases target.symm.trans wrote.target
    · intro answers dims
      obtain ⟨g, call⟩ := @recordOutcome_answered rt retries env c embedding db answers dims
      rw [call]
      simp only [outcomeTransact, recordOutcomeSql, target]

end settled

/-! ## Resolutions -/

/-- Between the states the resolution of the incident changes. -/
def Resolves (db db' : Database) (id : Uuid) : Prop :=
  ∃ i ∈ db.incidents, ∃ i' ∈ db'.incidents, i.incidentId = id ∧ i'.incidentId = id ∧
    (i'.resolvedAt ≠ i.resolvedAt ∨ i'.mttrSeconds ≠ i.mttrSeconds)

instance {db db' : Database} {id} : Decidable (Resolves db db' id) :=
  inferInstanceAs (Decidable (∃ i ∈ _, ∃ i' ∈ _, _ ∧ _ ∧ (_ ∨ _)))

lemma Apart.not_resolves {db db' : Database} {id} (apart : Apart db db') (adm : db.Admitted) :
    ¬ Resolves db db' id := by
  rintro ⟨i, hi, i', hi', ei, ei', change⟩
  obtain ⟨n, hn, en, er, em⟩ := apart.resolutions i' hi'
  obtain rfl := adm.incidents.eq hn hi (en.trans (ei'.trans ei.symm))
  rcases change with change | change
  · exact change er.symm
  · exact change em.symm

/-- A resolution is the first success on record for the incident. -/
structure FirstSuccess (cfg : Config) (db : Database) (op : Op) (id : Uuid) : Prop where
  command : ∃ env c embedding, op = .recordOutcome env c embedding ∧ c.outcome = .success ∧
    c.incidentId = id
  first : ¬ SuccessOn cfg.rt db id
  recorded : SuccessOn cfg.rt (step cfg db op) id

/-- Only a first success resolves. -/
lemma Settled.resolves {cfg : Config} {db op id} (st : Settled cfg.rt db)
    (ne : ∀ id, op ≠ .expire id) (h : Resolves db (Postmortem.step cfg db op) id) :
    FirstSuccess cfg db op id := by
  have spec := @step_spec cfg db op
  generalize e : Postmortem.step cfg db op = db' at spec h
  cases spec with
  | idle => exact absurd h (Apart.of_eq rfl rfl rfl rfl |>.not_resolves st.admitted)
  | remediate wrote => exact absurd h (wrote.apart.not_resolves st.admitted)
  | consolidate _ applied =>
    have apart : Apart db db' := by cases applied <;> exact .of_eq rfl rfl rfl rfl
    exact absurd h (apart.not_resolves st.admitted)
  | retire => exact absurd h (Apart.of_eq rfl rfl rfl rfl |>.not_resolves st.admitted)
  | expire => exact absurd rfl (ne _)
  | @recordOutcome env c embedding g a i _ wrote =>
    have written := wrote.written
    obtain ⟨n, hn, n', hn', en, en', change⟩ := h
    rw [written] at hn'
    rw [st.admitted.incidents.updated hn hn' (fun _ => rfl) (en'.trans en.symm)] at change
    -- the row changes, so it is selected, the outcome is a success and no success is on record
    split at change
    case isFalse => simp at change
    case isTrue sel =>
      obtain ⟨_, ni⟩ := of_decide_eq_true sel
      have incident : c.incidentId = id := Eq.trans ni.symm en
      have changed : ¬ ((resolve cfg.rt (outcomeParams cfg.rt c embedding) n).resolvedAt = n.resolvedAt ∧
          (resolve cfg.rt (outcomeParams cfg.rt c embedding) n).mttrSeconds = n.mttrSeconds) := by
        rintro ⟨er, em⟩
        rcases change with change | change
        · exact change er
        · exact change em
      have success : c.outcome = .success := by
        by_contra failure
        exact changed (resolve_failure failure)
      refine ⟨⟨env, c, embedding, rfl, success, incident⟩, ?_, ?_⟩
      · intro on
        exact changed (resolve_resolved (st.resolved id on n hn en))
      · obtain ⟨of, outcome⟩ := @outcomeEpisode_fields cfg.rt (outcomeParams cfg.rt c embedding) g a i
        rw [e, written]
        refine ⟨_, List.mem_append_right _ List.mem_cons_self, of.1, congrArg some incident, ?_⟩
        rw [outcome]
        exact congrArg some (OutcomeKind.value_success.mpr success)

lemma SuccessOn.run {cfg : Config} {db ops id} (on : SuccessOn cfg.rt db id)
    (kept : ∀ op ∈ ops, ∀ id, op ≠ .expire id) : SuccessOn cfg.rt (Run.run (step cfg) db ops) id := by
  refine @Run.run_invariant _ _ (step cfg) (fun db => SuccessOn cfg.rt db id) ops db ?_ on
  rintro db op hop ⟨e, he, success⟩
  exact ⟨e, (step_keeps (kept op hop)).2 e he, success⟩

/-- The resolution of an incident along a run: only its first success changes it, once. -/
structure ResolvesOnce (cfg : Config) (db : Database) (ops : List Op) : Prop where
  first : ∀ before op after, ops = before ++ op :: after → ∀ id,
    Resolves (Run.run (step cfg) db before) (Run.run (step cfg) db (before ++ [op])) id →
      FirstSuccess cfg (Run.run (step cfg) db before) op id
  once : ∀ before op mid op' after, ops = before ++ op :: mid ++ op' :: after → ∀ id,
    Resolves (Run.run (step cfg) db before) (Run.run (step cfg) db (before ++ [op])) id →
      ¬ Resolves (Run.run (step cfg) db (before ++ op :: mid))
        (Run.run (step cfg) db (before ++ op :: mid ++ [op'])) id
  resolved : ∀ i ∈ (Run.run (step cfg) db ops).incidents,
    SuccessOn cfg.rt (Run.run (step cfg) db ops) i.incidentId →
      i.resolvedAt ≠ none ∧ i.mttrSeconds ≠ none

lemma Settled.resolvesOnce {cfg : Config} {db ops} (st : Settled cfg.rt db)
    (kept : ∀ op ∈ ops, ∀ id, op ≠ .expire id) : ResolvesOnce cfg db ops := by
  have firstOf : ∀ before op after, ops = before ++ op :: after → ∀ id,
      Resolves (Run.run (Postmortem.step cfg) db before)
        (Run.run (Postmortem.step cfg) db (before ++ [op])) id →
      FirstSuccess cfg (Run.run (Postmortem.step cfg) db before) op id := by
    rintro before op after rfl id h
    rw [Run.run_append] at h
    apply Settled.resolves (st.run _) _ h
    · exact fun o ho => kept o (List.mem_append_left _ ho)
    · exact kept op (by simp)
  constructor
  case first => exact firstOf
  case once =>
    rintro before op mid op' after rfl id h again
    have won := (firstOf before op (mid ++ op' :: after) (by simp) id h).recorded
    have lost := (firstOf (before ++ op :: mid) op' after rfl id again).first
    have on := @SuccessOn.run cfg _ mid id won fun o ho => kept o (by simp [ho])
    rw [Run.run_append] at lost
    exact lost on
  case resolved =>
    intro i hi on
    exact (st.run kept).resolved i.incidentId on i hi rfl

/-- Outcomes are recorded once. In every run without deletions, from an admitted state without
outcome episodes, an action has at most one outcome episode and its stored outcome is the episode's;
the store answers a second command from the episode, rejects another outcome and a command that does
not match; and an incident is resolved once, by its first success. -/
theorem outcomes_once {cfg : Config} {db ops} (adm : db.Admitted)
    (fresh : ∀ e ∈ db.episodicEvents, e.eventType ≠ .outcome)
    (kept : ∀ op ∈ ops, ∀ id, op ≠ .expire id) :
    (∀ a ∈ (Run.run (step cfg) db ops).remediationActions,
      ∀ e ∈ (Run.run (step cfg) db ops).episodicEvents, OutcomeOf cfg.rt a e →
        jsonField cfg.rt e.metadata "outcome" = some a.outcome.text ∧
        ∀ e' ∈ (Run.run (step cfg) db ops).episodicEvents, OutcomeOf cfg.rt a e' → e' = e) ∧
    (∀ c, AnswersOnce cfg.rt cfg.outcomeRetries c (Run.run (step cfg) db ops)) ∧
    ResolvesOnce cfg db ops := by
  have start : Settled cfg.rt db := .start adm fresh
  have st := start.run kept
  refine ⟨?_, ?_, start.resolvesOnce kept⟩
  · intro a ha e he of
    obtain ⟨_, _, _, text, _⟩ := st.own ha he of
    refine ⟨text, ?_⟩
    intro e' he' of'
    exact st.one e' he' e he of'.1 of.1 (of'.2.trans of.2.symm)
  · exact fun c => st.answersOnce

/-- The remediation of the example and its outcome: an action with a success on record, which the
store returns to a second command. -/
theorem outcomes_once_sample :
    let db := Run.run (step Sample.config) Sample.db [Sample.remediate, Sample.recordOutcome]
    ∃ e ∈ db.episodicEvents, ∃ a ∈ db.remediationActions, a.outcome = .success ∧
      Resolves (Run.run (step Sample.config) Sample.db [Sample.remediate]) db a.incidentId ∧
      ReplaysOutcome Sample.outcome e (recordOutcome Runtime.sample 3
        (fun _ => .commit Sample.generated) Sample.outcome Sample.embedding db).2 := by
  intro db
  obtain ⟨_, answers, _⟩ := @outcomes_once Sample.config Sample.db
    [Sample.remediate, Sample.recordOutcome] Sample.db_admitted
    (by simp [Sample.db, Sample.observation])
    (by simp [Sample.remediate, Sample.recordOutcome])
  have recorded : ∃ e ∈ db.episodicEvents, ∃ a ∈ db.remediationActions,
      OutcomeOf Runtime.sample a e ∧ Names Sample.outcome a ∧ a.outcome = .success := by
    decide +kernel
  obtain ⟨e, he, a, ha, of, names, success⟩ := recorded
  refine ⟨e, he, a, ha, success, ?_, ?_⟩
  · obtain ⟨_, _, incident, _⟩ := names
    rw [incident]
    decide +kernel
  · obtain ⟨_, again⟩ := (answers Sample.outcome).same a ha e he of names success
      (fun _ => .commit Sample.generated) Sample.embedding
    have answered : Answers (fun _ => .commit Sample.generated) Sample.config.outcomeRetries :=
      ⟨0, Nat.zero_le _, ⟨_, rfl⟩, by simp⟩
    exact again answered List.length_replicate

end Postmortem
