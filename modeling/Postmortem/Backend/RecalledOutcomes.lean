import Postmortem.System
import Postmortem.Backend.Recall

/-!
# What recall sees of outcomes

The outcome a recalled episode shows comes from the action that the LATERAL join finds through
`memory_ref`. `Faithful` relates the stored outcomes of a run to the outcomes `record_outcome`
committed; `Unreferenced` says that the join never finds anything for an episode that is not an action
episode. Each is a step lemma and a run lemma.

`ranked_iff_recorded` and `outcome_episode_blank` are what follows for the scores.
-/

namespace Postmortem

/-! ## The score of a recalled episode -/

/-- A rank component of a scored candidate. -/
def component (item : MemoryCandidate) (key : String) : Json :=
  match item.metadata.get "rank_components" with
  | .obj fields => Dict.get fields key
  | _ => .null

/-- The candidate has the component `successful_outcome`, or is marked actionable. -/
def RankedSuccessful (item : MemoryCandidate) : Prop :=
  component item "successful_outcome" = .float (.num 1) ∨
    item.metadata.get "actionable" = .bool true

open RecallRanker

lemma component_ranked {item score f fields key} :
    component (ranked item score [f, ("rank_components", .obj fields)]) key = Dict.get fields key := by
  have h : (ranked item score [f, ("rank_components", .obj fields)]).metadata.get "rank_components" =
      .obj fields := Dict.get_set_self
  unfold component
  rw [h]

/-- What scoring writes into the metadata of an episode. -/
lemma scoreEpisode_spec {rt policy query item item'}
    (h : scoreEpisode rt policy query item = .ok item') :
    component item' "successful_outcome" = .float (.num (successful item)) ∧
      item'.metadata.get "actionable" = .bool (actionable item) := by
  unfold scoreEpisode at h
  cases e : recency rt policy query item.occurredAt with
  | error err => rw [e] at h; cases h
  | ok r =>
    rw [e] at h
    cases h
    constructor
    · exact component_ranked
    · simp [ranked, Dict.update, Dict.get_set]

/-- An episode is ranked as a success exactly where its metadata says so. -/
lemma rankedSuccessful_iff {rt policy query item item'}
    (h : scoreEpisode rt policy query item = .ok item') :
    RankedSuccessful item' ↔ successful item = 1 := by
  obtain ⟨c, a⟩ := scoreEpisode_spec h
  unfold RankedSuccessful
  rw [c, a]
  constructor
  · rintro (e | e)
    · simpa using e
    · have act : actionable item = true := by simpa using e
      have ne : successful item ≠ 0 := by
        intro z
        simp [actionable, z] at act
      unfold successful at ne ⊢
      split
      · rfl
      · simp_all
  · intro e
    left
    rw [e]

/-- The outcome a recalled episode shows is the one of the joined action, and nothing else. -/
lemma episodeCandidate_outcome {rt row} :
    (episodeCandidate rt row).metadata.get "outcome" =
        Json.ofText? (row.action.map fun a => a.outcome.text) ∧
      (episodeCandidate rt row).metadata.get "action_id" =
        uuidText (row.action.map RemediationAction.actionId) := by
  constructor <;> simp [episodeCandidate, episodeFields, Dict.update, Dict.get_set]

/-- A recalled episode counts as a success exactly where the joined action's outcome is `success`. -/
lemma successful_iff {rt row} :
    successful (episodeCandidate rt row) = 1 ↔
      ∃ a, row.action = some a ∧ a.outcome = .success := by
  obtain ⟨e, _⟩ := @episodeCandidate_outcome rt row
  unfold successful
  rw [e]
  cases row.action with
  | none => simp [Json.ofText?, Json.norm]
  | some a =>
    cases h : a.outcome <;> simp [Json.ofText?, Json.norm, ActionOutcome.text, h]

/-! ## Stored outcomes along a run -/

/-- The operation is a `record_outcome` call that commits the outcome `o` for the action. -/
def Writes (cfg : Config) (db : Database) (op : Op) (action : Uuid) (o : OutcomeKind) : Prop :=
  ∃ env c embedding, op = .recordOutcome env c embedding ∧ c.actionId = action ∧ c.outcome = o ∧
    ∃ g a i, OutcomeRecorded cfg.rt (outcomeParams cfg.rt c embedding) g db a i (step cfg db op)

/-- Some call of the run commits the outcome for the action. -/
def Recorded (cfg : Config) : Database → List Op → Uuid → OutcomeKind → Prop
  | _, [], _, _ => False
  | db, op :: ops, action, o => Writes cfg db op action o ∨ Recorded cfg (step cfg db op) ops action o

/-- The stored outcomes against a log of recorded ones: an action stores `success` until its outcome
is recorded, and a recorded outcome from then on. -/
structure Faithful (log : Uuid → OutcomeKind → Prop) (db : Database) : Prop where
  admitted : db.Admitted
  stored : ∀ a ∈ db.remediationActions,
    (a.outcome = .success ∧ ∀ o, ¬ log a.actionId o) ∨ ∃ o, a.outcome = o.stored ∧ log a.actionId o
  logged : ∀ x o, log x o → ∃ a ∈ db.remediationActions, a.actionId = x

/-- Where no call commits an outcome, the log is as before. -/
lemma Faithful.silent {cfg log op} {db : Database} (f : Faithful log db)
    (no : ∀ x o, ¬ Writes cfg db op x o)
    (new : ∀ a ∈ (step cfg db op).remediationActions,
      (∃ a0 ∈ db.remediationActions, a0.actionId = a.actionId ∧ a0.outcome = a.outcome) ∨
        (a.outcome = .success ∧ ∀ a0 ∈ db.remediationActions, a0.actionId ≠ a.actionId))
    (old : ∀ a ∈ db.remediationActions, ∃ a' ∈ (step cfg db op).remediationActions,
      a'.actionId = a.actionId) :
    Faithful (fun x o => log x o ∨ Writes cfg db op x o) (step cfg db op) := by
  have same : (fun x o => log x o ∨ Writes cfg db op x o) = log := by
    funext x o
    simp [no x o]
  rw [same]
  refine ⟨step_admitted f.admitted, ?_, ?_⟩
  · intro a ha
    obtain ⟨a0, ha0, ei, eo⟩ | ⟨eo, ne⟩ := new a ha
    · rw [← ei, ← eo]
      exact f.stored a0 ha0
    · left
      refine ⟨eo, fun o l => ?_⟩
      obtain ⟨a0, ha0, e⟩ := f.logged _ o l
      exact ne a0 ha0 e
  · intro x o l
    obtain ⟨a, ha, rfl⟩ := f.logged x o l
    exact old a ha

/-- Where a call commits an outcome, the action stores it. -/
lemma Faithful.recorded {cfg log env c embedding g a i} {db : Database} (f : Faithful log db)
    (wrote : OutcomeRecorded cfg.rt (outcomeParams cfg.rt c embedding) g db a i
      (step cfg db (.recordOutcome env c embedding))) :
    Faithful (fun x o => log x o ∨ Writes cfg db (.recordOutcome env c embedding) x o)
      (step cfg db (.recordOutcome env c embedding)) := by
  have writes : Writes cfg db (.recordOutcome env c embedding) c.actionId c.outcome :=
    ⟨env, c, embedding, rfl, rfl, rfl, g, a, i, wrote⟩
  have only : ∀ x o, Writes cfg db (.recordOutcome env c embedding) x o → x = c.actionId := by
    rintro x o ⟨_, _, _, ⟨⟩, rfl, _⟩
    rfl
  have rows : (step cfg db (.recordOutcome env c embedding)).remediationActions =
      actionUpdate (outcomeParams cfg.rt c embedding) db.remediationActions :=
    congrArg Database.remediationActions wrote.written
  refine ⟨step_admitted f.admitted, ?_, ?_⟩
  · rw [rows]
    intro b hb
    obtain ⟨b0, hb0, rfl⟩ := Table.mem_update.mp hb
    split
    case isTrue sel =>
      right
      refine ⟨c.outcome, rfl, .inr ?_⟩
      have e : b0.actionId = c.actionId := of_decide_eq_true sel
      show Writes cfg db _ b0.actionId _
      rw [e]
      exact writes
    case isFalse sel =>
      have ne : b0.actionId ≠ c.actionId := fun e => sel (decide_eq_true e)
      obtain ⟨es, no⟩ | ⟨o, es, l⟩ := f.stored b0 hb0
      · left
        refine ⟨es, ?_⟩
        rintro o (l | w)
        · exact no o l
        · exact ne (only _ _ w)
      · exact .inr ⟨o, es, .inl l⟩
  · have keeps : ∀ b ∈ db.remediationActions,
        ∃ b' ∈ actionUpdate (outcomeParams cfg.rt c embedding) db.remediationActions,
          b'.actionId = b.actionId := key_update fun _ => rfl
    rw [rows]
    rintro x o (l | w)
    · obtain ⟨b, hb, rfl⟩ := f.logged x o l
      exact keeps b hb
    · obtain rfl := only x o w
      obtain ⟨ha, _⟩ := outcomeTarget_spec wrote.target
      obtain ⟨hm, _, e, _⟩ := targetAction_spec ha
      obtain ⟨b', hb', e'⟩ := keeps a hm
      exact ⟨b', hb', e'.trans e⟩

lemma Faithful.step {cfg log op} {db : Database} (f : Faithful log db) :
    Faithful (fun x o => log x o ∨ Writes cfg db op x o) (Postmortem.step cfg db op) := by
  by_cases w : ∃ x o, Writes cfg db op x o
  · obtain ⟨_, _, env, c, embedding, rfl, _, _, g, a, i, wrote⟩ := w
    exact f.recorded wrote
  · have no : ∀ x o, ¬ Writes cfg db op x o := fun x o h => w ⟨x, o, h⟩
    have spec := @step_spec cfg db op
    apply f.silent no
    all_goals generalize e : Postmortem.step cfg db op = db' at spec
    · cases spec with
      | idle => exact fun a ha => .inl ⟨a, ha, rfl, rfl⟩
      | remediate wrote =>
        obtain ⟨_, _, fresh, action, _, rfl⟩ := wrote
        intro a ha
        obtain ha | ha := List.mem_append.mp ha
        · exact .inl ⟨a, ha, rfl, rfl⟩
        · obtain rfl := List.mem_singleton.mp ha
          exact .inr ⟨rfl, fun a0 ha0 e => fresh (.inr (.inr ⟨a0, ha0, e⟩))⟩
      | recordOutcome wrote => exact absurd ⟨_, _, _, rfl, rfl, rfl, _, _, _, e ▸ wrote⟩ (no _ _)
      | consolidate _ applied =>
        cases applied <;> exact fun a ha => .inl ⟨a, ha, rfl, rfl⟩
      | retire => exact fun a ha => .inl ⟨a, ha, rfl, rfl⟩
      | expire =>
        intro a ha
        obtain ⟨a0, ha0, rfl⟩ := List.mem_map.mp ha
        exact .inl ⟨a0, ha0, rfl, rfl⟩
    · cases spec with
      | idle => exact fun a ha => ⟨a, ha, rfl⟩
      | remediate wrote =>
        obtain ⟨_, _, _, action, _, rfl⟩ := wrote
        exact key_append
      | recordOutcome wrote => exact absurd ⟨_, _, _, rfl, rfl, rfl, _, _, _, e ▸ wrote⟩ (no _ _)
      | consolidate _ applied =>
        cases applied <;> exact fun a ha => ⟨a, ha, rfl⟩
      | retire => exact fun a ha => ⟨a, ha, rfl⟩
      | expire => exact fun a ha => ⟨_, List.mem_map.mpr ⟨a, ha, rfl⟩, rfl⟩

lemma Faithful.run {cfg log ops} {db : Database} (f : Faithful log db) :
    Faithful (fun x o => log x o ∨ Recorded cfg db ops x o) (Run.run (Postmortem.step cfg) db ops) := by
  induction ops generalizing db log with
  | nil => simpa [Recorded] using f
  | cons op ops ih =>
    have tail := ih (@Faithful.step cfg _ op _ f)
    simpa [Recorded, or_assoc] using tail

lemma Faithful.start {cfg ops} {db : Database} (adm : db.Admitted) (none : db.remediationActions = []) :
    Faithful (Recorded cfg db ops) (Run.run (Postmortem.step cfg) db ops) := by
  have start : Faithful (fun _ _ => False) db := ⟨adm, by simp [none], by simp⟩
  simpa using @Faithful.run cfg _ ops _ start

lemma lateralAction_mem {db org event a} (h : lateralAction db org event = some a) :
    a ∈ db.remediationActions ∧ a.memoryRef = some event := by
  obtain ⟨ha, sat⟩ := List.mem_filter.mp (Table.first_mem h)
  exact ⟨ha, (of_decide_eq_true sat).2⟩

/-- What a row of the episodic recall query is. -/
lemma mem_episodicRecallSql {rt ann query db limit row}
    (h : row ∈ episodicRecallSql rt ann query db limit) :
    row.episode ∈ db.episodicEvents ∧ EpisodeAdmitted query row.episode ∧
      row.action = lateralAction db query.orgId row.episode.eventId := by
  obtain ⟨⟨e, s⟩, he, rfl⟩ := List.mem_map.mp h
  obtain ⟨hn, _⟩ := List.mem_filter.mp he
  obtain ⟨hm, adm⟩ := List.mem_filter.mp (mem_nearest hn)
  exact ⟨hm, of_decide_eq_true adm, rfl⟩

/-- The action that wrote a recalled episode, if any, had `o` recorded as its outcome. -/
def ActionRecorded (cfg : Config) (db : Database) (ops : List Op) (row : EpisodicRecallRow)
    (o : OutcomeKind) : Prop :=
  ∃ a, row.action = some a ∧ Recorded cfg db ops a.actionId o

/-- A recalled episode that is ranked as a success has a recorded success, exactly where the action
that wrote it, if any, had some outcome recorded. -/
theorem ranked_iff_recorded {cfg : Config} {db : Database} {ops ann policy query limit row item}
    (adm : db.Admitted) (none : db.remediationActions = [])
    (hrow : row ∈ episodicRecallSql cfg.rt ann query (Run.run (step cfg) db ops) limit)
    (scored : scoreEpisode cfg.rt policy query (episodeCandidate cfg.rt row) = .ok item) :
    (RankedSuccessful item → ActionRecorded cfg db ops row .success) ↔
      (row.action ≠ .none → ∃ o, ActionRecorded cfg db ops row o) := by
  have f := @Faithful.start cfg ops _ adm none
  obtain ⟨_, _, hact⟩ := mem_episodicRecallSql hrow
  rw [rankedSuccessful_iff scored, successful_iff]
  cases ha : row.action with
  | none => simp
  | some a =>
    rw [ha] at hact
    obtain ⟨mem, _⟩ := lateralAction_mem hact.symm
    simp only [ActionRecorded, ha, Option.some.injEq, exists_eq_left', ne_eq, reduceCtorEq,
      not_false_eq_true, forall_const]
    obtain ⟨eo, no⟩ | ⟨o, eo, l⟩ := f.stored a mem
    · constructor
      · intro h
        exact ⟨_, h eo⟩
      · rintro ⟨o, l⟩
        exact absurd l (no o)
    · constructor
      · intro _
        exact ⟨o, l⟩
      · intro _ es
        cases o with
        | success => exact l
        | failed => rw [eo] at es; cases es
        | noEffect => rw [eo] at es; cases es

namespace Sample

/-- A later incident on the service recalls its memory. -/
def query : RecallQuery where
  orgId := org
  agentId := agent
  serviceId := service
  text := "errors"
  embedding := embedding
  asOf := 10000000
  currentIncidentId := some (.sample 15)

/-- What the recall of the later incident reads. -/
def recalled (ops : List Op) : List EpisodicRecallRow :=
  episodicRecallSql config.rt (AnnSearch.exact config.rt) query (Run.run (step config) db ops) 40

/-- The episode the rollback wrote, with the action it joins. -/
def actionRecallRow (outcome : ActionOutcome) : EpisodicRecallRow where
  episode := actionEpisode (remediationParams config.rt command embedding) generated
  similarity := 1
  action := some { actionRow (remediationParams config.rt command embedding) generated with outcome }

/-- The episode the recorded outcome wrote. -/
def outcomeRecallRow : EpisodicRecallRow where
  episode := outcomeEpisode (outcomeParams config.rt outcome embedding) outcomeGenerated
    (actionRow (remediationParams config.rt command embedding) generated)
    ⟨incident, org, service, .mitigating, none, 0, none, none⟩
  similarity := 1
  action := none

/-- The scored candidate of a row. -/
def scored (row : EpisodicRecallRow) : Except Raised MemoryCandidate :=
  scoreEpisode config.rt {} query (episodeCandidate config.rt row)

end Sample

/-- A rollback whose success was recorded. -/
theorem ranked_iff_recorded_sample : ∃ item,
    Sample.scored (Sample.actionRecallRow .success) = .ok item ∧
      ((RankedSuccessful item → ActionRecorded Sample.config Sample.db
          [Sample.remediate, Sample.recordOutcome] (Sample.actionRecallRow .success) .success) ↔
        ((Sample.actionRecallRow .success).action ≠ none → ∃ o, ActionRecorded Sample.config
          Sample.db [Sample.remediate, Sample.recordOutcome] (Sample.actionRecallRow .success) o)) := by
  have hrow : Sample.actionRecallRow .success ∈
      Sample.recalled [Sample.remediate, Sample.recordOutcome] := by decide +kernel
  obtain ⟨item, e⟩ : ∃ item, Sample.scored (Sample.actionRecallRow .success) = .ok item := ⟨_, rfl⟩
  exact ⟨item, e, @ranked_iff_recorded _ _ _ _ {} _ _ _ _ Sample.db_admitted rfl hrow e⟩

/-- A rollback whose outcome nobody recorded is recalled as an actionable success. -/
theorem unverified_rollback_ranked :
    Sample.actionRecallRow .success ∈ Sample.recalled [Sample.remediate] ∧
      (∃ item, Sample.scored (Sample.actionRecallRow .success) = .ok item ∧
        RankedSuccessful item) ∧
      ∀ x o, ¬ Recorded Sample.config Sample.db [Sample.remediate] x o := by
  refine ⟨by decide +kernel, ⟨_, rfl, .inl (by decide +kernel)⟩, ?_⟩
  rintro x o (⟨_, _, _, ⟨⟩, _⟩ | h)
  exact h

/-! ## Outcome episodes -/

/-- No action refers to the episode `id`, as long as that is not an action episode. -/
def Unreferenced (id : Uuid) (db : Database) : Prop :=
  ∀ e ∈ db.episodicEvents, e.eventId = id → e.eventType ≠ .action →
    ∀ a ∈ db.remediationActions, a.memoryRef ≠ some id

/-- An identifier no episode has is referred to by no action. -/
lemma unreferenced_of_fresh {id} {db : Database} (adm : db.Admitted)
    (fresh : ∀ e ∈ db.episodicEvents, e.eventId ≠ id) :
    ∀ a ∈ db.remediationActions, a.memoryRef ≠ some id := by
  intro a ha e
  obtain ⟨ep, hep, eq⟩ := adm.memoryRef a ha id e
  exact fresh ep hep eq

/-- The outcome transaction keeps references, whatever the episode. -/
lemma OutcomeRecorded.unreferenced {rt p g db a i db' id} (adm : db.Admitted)
    (wrote : OutcomeRecorded rt p g db a i db') (u : id = g.eventId ∨ Unreferenced id db) :
    Unreferenced id db' := by
  obtain ⟨_, _, _, fresh, rfl⟩ := wrote
  have keep : ∀ b ∈ actionUpdate p db.remediationActions, ∃ b0 ∈ db.remediationActions,
      b.memoryRef = b0.memoryRef := by
    intro b hb
    obtain ⟨b0, hb0, rfl⟩ := Table.mem_update.mp hb
    refine ⟨b0, hb0, ?_⟩
    split <;> rfl
  intro e he eid ne b hb eq
  obtain ⟨b0, hb0, eb⟩ := keep b hb
  rw [eb] at eq
  by_cases h : id = g.eventId
  · subst h
    exact unreferenced_of_fresh adm fresh b0 hb0 eq
  · obtain he | he := List.mem_append.mp he
    · exact (u.resolve_left h) e he eid ne b0 hb0 eq
    · obtain rfl := List.mem_singleton.mp he
      exact h eid.symm

lemma Unreferenced.step {cfg op id} {db : Database} (adm : db.Admitted) (u : Unreferenced id db) :
    Unreferenced id (Postmortem.step cfg db op) := by
  generalize e : Postmortem.step cfg db op = db'
  have spec := @step_spec cfg db op
  rw [e] at spec
  cases spec with
  | idle => exact u
  | @remediate _ c embedding g _ wrote =>
    obtain ⟨_, _, fresh, action, _, rfl⟩ := wrote
    intro x hx ex ne a ha eq
    obtain hx | hx := List.mem_append.mp hx
    · obtain ha | ha := List.mem_append.mp ha
      · exact u x hx ex ne a ha eq
      · obtain rfl := List.mem_singleton.mp ha
        cases eq
        exact fresh (.inr (.inl ⟨x, hx, ex⟩))
    · obtain rfl := List.mem_singleton.mp hx
      exact ne rfl
  | recordOutcome wrote => exact wrote.unreferenced adm (.inr u)
  | consolidate _ applied => cases applied <;> exact u
  | retire => exact u
  | expire =>
    intro x hx ex ne a ha
    obtain ⟨a0, ha0, rfl⟩ := List.mem_map.mp ha
    have h := u x (Table.mem_delete.mp hx).1 ex ne a0 ha0
    intro eq
    unfold unlink at eq
    split at eq
    · cases eq
    · exact h eq

lemma Unreferenced.run {cfg ops id} {db : Database} (adm : db.Admitted) (u : Unreferenced id db) :
    Unreferenced id (Run.run (Postmortem.step cfg) db ops) := by
  have both := @Run.run_invariant _ _ (Postmortem.step cfg) (fun db => db.Admitted ∧ Unreferenced id db) ops db
    (fun _ _ _ h => ⟨step_admitted h.1, h.2.step h.1⟩) ⟨adm, u⟩
  exact both.2

/-- The recalled episode carries the outcome and the action, and is scored as a success exactly where
the outcome is one. -/
def CarriesOutcome (rt : Runtime) (policy : RecallPolicy) (query : RecallQuery)
    (row : EpisodicRecallRow) (action : Uuid) (o : OutcomeKind) : Prop :=
  (episodeCandidate rt row).metadata.get "outcome" = .str o.value ∧
    (episodeCandidate rt row).metadata.get "action_id" = .str action.text ∧
    ∀ item, scoreEpisode rt policy query (episodeCandidate rt row) = .ok item →
      (RankedSuccessful item ↔ o = .success)

/-- A recalled outcome episode never carries its outcome: it shows no outcome and no action, and is
not ranked as a success. -/
theorem outcome_episode_blank {cfg : Config} {db db1 : Database} {p g orow ops ann policy query limit
    row} (adm : db.Admitted) (out : recordOutcomeSql cfg.rt p g db = .ok (db1, some orow))
    (first : orow.idempotentReplay = false)
    (hrow : row ∈ episodicRecallSql cfg.rt ann query (Run.run (step cfg) db1 ops) limit)
    (written : row.episode.eventId = orow.eventId ∧ row.episode.eventType = .outcome) :
    ¬ CarriesOutcome cfg.rt policy query row p.actionId p.outcome := by
  obtain ⟨_, replay⟩ | ⟨a, i, wrote, r, er, eid, _⟩ := recordOutcomeSql_spec out
  · rw [replay orow rfl] at first
    cases first
  · cases er
    obtain ⟨ew, et⟩ := written
    have u := @Unreferenced.run cfg ops g.eventId _ (wrote.admitted adm)
      (wrote.unreferenced adm (.inl rfl))
    obtain ⟨hm, _, hact⟩ := mem_episodicRecallSql hrow
    have blank : row.action = none := by
      cases h : row.action with
      | none => rfl
      | some b =>
        rw [h] at hact
        obtain ⟨mem, ref⟩ := lateralAction_mem hact.symm
        rw [ew.trans eid] at ref
        exact absurd ref (u row.episode hm (ew.trans eid) (by rw [et]; decide) b mem)
    rintro ⟨o, _⟩
    rw [episodeCandidate_outcome.1, blank] at o
    cases o

/-- The recorded success of the rollback. -/
theorem outcome_episode_blank_sample :
    ¬ CarriesOutcome Runtime.sample {} Sample.query Sample.outcomeRecallRow
      Sample.generated.actionId .success := by
  have adm : (Run.run (step Sample.config) Sample.db [Sample.remediate]).Admitted :=
    run_admitted Sample.db_admitted
  have hrow : Sample.outcomeRecallRow ∈
      Sample.recalled [Sample.remediate, Sample.recordOutcome] := by decide +kernel
  refine @outcome_episode_blank Sample.config _
    (Run.run (step Sample.config) Sample.db [Sample.remediate, Sample.recordOutcome])
    (outcomeParams Runtime.sample Sample.outcome Sample.embedding) Sample.outcomeGenerated
    ⟨Sample.outcomeGenerated.eventId, 3000000, Sample.generated.transactionId, .resolved,
      some "success", false⟩
    [] (AnnSearch.exact Runtime.sample) _ _ 40 _ adm (by decide +kernel) rfl ?_ ⟨rfl, rfl⟩
  rw [Run.run_nil]
  exact hrow

/-- The recorded success is recalled without outcome and action, and not as a success. -/
theorem recorded_success_not_ranked :
    Sample.outcomeRecallRow ∈ Sample.recalled [Sample.remediate, Sample.recordOutcome] ∧
      (episodeCandidate Runtime.sample Sample.outcomeRecallRow).metadata.get "outcome" = .null ∧
      (episodeCandidate Runtime.sample Sample.outcomeRecallRow).metadata.get "action_id" = .null ∧
      ∃ item, Sample.scored Sample.outcomeRecallRow = .ok item ∧
        component item "successful_outcome" = .float 0 ∧
        item.metadata.get "actionable" = .bool false := by
  refine ⟨by decide +kernel, by decide +kernel, by decide +kernel, _, rfl, ?_, ?_⟩
  · decide +kernel
  · decide +kernel

end Postmortem
