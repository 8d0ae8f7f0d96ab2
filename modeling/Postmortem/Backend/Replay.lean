import Postmortem.System

/-!
# Re-submitted remediations

What a command does whose idempotency key was committed before. `remediateAndRecord_taken` runs the
store on a taken key: the gates are evaluated on the current state first, and only where they pass
does the unique violation lead to the replay lookup. `Standing` is what later steps leave of the first
commit: its action keeps its identifiers, and keeps its reference to the episode until the TTL job
deletes that. `resubmission_replays` puts both together.
-/

namespace Postmortem

/-- The database answers a call: aborts it sees are serialization failures, the retries are enough
for one statement to run, and the replay lookup is answered. -/
def RemediationEnv.Answers (env : RemediationEnv) (retries : Nat) : Prop :=
  (∃ k ≤ retries, (∃ g, env.attempt k = .commit g) ∧
    ∀ j < k, env.attempt j = .abort (some .serializationFailure)) ∧ env.lookup = true

/-- The error of an attempt that met the unique index. -/
def keyViolation : Raised := rolledBack (.database .uniqueViolation)

/-- A call with a taken key: the gates of the current state decide whether the lookup is reached. -/
lemma remediateAndRecord_taken {rt retries env c embedding db}
    (valid : validate c embedding = .ok ()) (answers : env.Answers retries)
    (taken : KeyTaken (remediationParams rt c embedding) db) :
    remediateAndRecord rt retries env c embedding db =
      if Gates (remediationParams rt c embedding) db then
        replayed rt (remediationParams rt c embedding) true keyViolation db
      else (db, .error gateRejection) := by
  obtain ⟨⟨k, le, ⟨g, hk⟩, aborts⟩, lookup⟩ := answers
  obtain ⟨action, ha⟩ := deployAction?_of_validate valid
  rw [remediateAndRecord_reaches valid le aborts (by simp [hk])]
  simp only [attemptOnce, hk, executeOnce, transact]
  by_cases gates : Gates (remediationParams rt c embedding) db
  · rw [remediateAndRecordSql_taken ha gates taken, lookup, if_pos gates]
    rfl
  · rw [remediateAndRecordSql_gated gates, if_neg gates]
    rfl

/-- What the state keeps of the first commit; `expired` says whether its episode was deleted. -/
structure Standing (p : RemediationParams) (g : Generated) (expired : Prop) (db : Database) :
    Prop where
  admitted : db.Admitted
  action : ∃ a ∈ db.remediationActions, a.orgId = p.orgId ∧ a.idempotencyKey = p.idempotencyKey ∧
    a.actionId = g.actionId ∧ a.transactionId = g.transactionId ∧ a.appliedAt = g.now ∧
    a.actionType = p.actionType ∧ (expired → a.memoryRef = none) ∧ (¬ expired → a.memoryRef = some g.eventId)
  episode : ¬ expired → actionEpisode p g ∈ db.episodicEvents

/-- The commit itself leaves the action with its episode. -/
lemma Remediated.standing {p g db db'} (adm : db.Admitted) (wrote : Remediated p g db db') :
    Standing p g False db' := by
  have adm' := wrote.admitted adm
  obtain ⟨_, _, _, action, _, rfl⟩ := wrote
  refine ⟨adm', ?_, fun _ => List.mem_append_right _ List.mem_cons_self⟩
  exact ⟨actionRow p g, List.mem_append_right _ List.mem_cons_self, rfl, rfl, rfl, rfl, rfl, rfl,
    False.elim, fun _ => rfl⟩

/-- The operation deletes the episode. -/
def Expires (id : Uuid) (op : Op) : Prop := op = .expire id

/-- A step keeps the first commit, up to the deletion of its episode. -/
lemma Standing.step {cfg p g expired op} {db : Database} (st : Standing p g expired db) :
    Standing p g (expired ∨ Expires g.eventId op) (Postmortem.step cfg db op) := by
  have adm := @step_admitted cfg _ op st.admitted
  obtain ⟨a, ha, ao, ak, ai, at', an, ty, ae, ar⟩ := st.action
  by_cases ex : ∃ id, op = .expire id
  · obtain ⟨id, rfl⟩ := ex
    have hu : { a with memoryRef := unlink id a.memoryRef } ∈
        (Postmortem.step cfg db (.expire id)).remediationActions := List.mem_map.mpr ⟨a, ha, rfl⟩
    by_cases e : id = g.eventId
    · subst e
      have gone : unlink g.eventId a.memoryRef = none := by
        by_cases h : expired
        · simp [unlink, ae h]
        · simp [unlink, ar h]
      refine ⟨adm, ⟨_, hu, ao, ak, ai, at', an, ty, fun _ => gone, ?_⟩, ?_⟩
      · exact fun h => absurd (.inr rfl) h
      · exact fun h => absurd (.inr rfl) h
    · have no : ¬ Expires g.eventId (.expire id) := fun h => e (Op.expire.inj h)
      refine ⟨adm, ⟨_, hu, ao, ak, ai, at', an, ty, ?_, ?_⟩, ?_⟩
      · rintro (h | h)
        · simp [unlink, ae h]
        · exact absurd h no
      · intro h
        have m := ar fun he => h (.inl he)
        simp [unlink, m, Ne.symm e]
      · intro h
        have m := st.episode fun he => h (.inl he)
        exact Table.mem_delete.mpr ⟨m, decide_eq_false (Ne.symm e)⟩
  · have ne : ∀ id, op ≠ .expire id := fun id h => ex ⟨id, h⟩
    have no : ¬ Expires g.eventId op := ne _
    obtain ⟨actions, episodes⟩ := @step_keeps cfg op db ne
    obtain ⟨o, ho⟩ := actions a ha
    refine ⟨adm, ⟨_, ho, ao, ak, ai, at', an, ty, ?_, ?_⟩, ?_⟩
    · rintro (h | h)
      · exact ae h
      · exact absurd h no
    · exact fun h => ar fun he => h (.inl he)
    · exact fun h => episodes _ (st.episode fun he => h (.inl he))

lemma Standing.run {cfg p g expired ops} {db : Database} (st : Standing p g expired db) :
    Standing p g (expired ∨ ∃ op ∈ ops, Expires g.eventId op) (Run.run (Postmortem.step cfg) db ops) := by
  induction ops generalizing db expired with
  | nil => simpa using st
  | cons op ops ih =>
    have tail := ih (@Standing.step cfg _ _ _ op _ st)
    simpa [or_assoc] using tail

/-- The lookup finds the first commit; what it returns depends on the deletion of the episode. -/
lemma Standing.replay {rt p p' g expired e} {db : Database} (st : Standing p g expired db)
    (org : p'.orgId = p.orgId) (key : p'.idempotencyKey = p.idempotencyKey) :
    (¬ expired → replayed rt p' true e db = (db, .ok (remediationRow g).result)) ∧
      (expired → ∃ e', replayed rt p' true e db = (db, .error e')) := by
  obtain ⟨a, ha, ao, ak, ai, at', an, ty, ae, ar⟩ := st.action
  have found : actionOfKey p' db = some a := by
    unfold actionOfKey
    rw [org, key, ← ao, ← ak]
    exact st.admitted.idempotency.find ha
  constructor
  · intro live
    have ep : episodeOfAction db a = some (actionEpisode p g) := by
      unfold episodeOfAction
      have mem := st.episode live
      apply Table.find_of_unique mem
      · simp [ar live, ao, actionEpisode]
      · intro s hs sat
        obtain ⟨es, _⟩ := of_decide_eq_true sat
        rw [ar live] at es
        exact st.admitted.episodicEvents.eq hs mem (Option.some.inj es)
    have deploy : deployIdOf rt (some (actionEpisode p g)) = .ok (some g.deployId) := by
      simp [deployIdOf, actionEpisode, jsonField, Dict.get, Dict.getD, Assoc.get]
    simp [replayed, Postmortem.replay, replayLookupSql, found, ep, deploy, ar live, ai, at', an,
      remediationRow, RemediationRow.result]
  · intro gone
    have ep : episodeOfAction db a = none := by
      apply List.find?_eq_none.mpr
      simp [ae gone]
    exact ⟨_, by simp [replayed, Postmortem.replay, replayLookupSql, found, ep, deployIdOf, ae gone]; rfl⟩

/-- The call changed no table and returned the identifiers of the row. -/
def Replays (row : RemediationRow) (db : Database)
    (res : Database × Except Raised RemediationResult) : Prop :=
  res.1 = db ∧ ∃ r, res.2 = .ok r ∧ r.actionId = row.actionId ∧
    r.transactionId = row.transactionId ∧ r.eventId = row.eventId

/-- Re-submitting a command whose key was committed changes no table and returns the first commit,
exactly where the command validates, the gates pass on the current state and the episode of the first
commit was not deleted. -/
theorem resubmission_replays {cfg : Config} {db db1 : Database} {p g row ops env c embedding}
    (adm : db.Admitted) (first : remediateAndRecordSql p g db = .ok (db1, some row))
    (org : c.orgId = p.orgId) (key : c.effectiveIdempotencyKey = p.idempotencyKey)
    (answers : env.Answers cfg.retries) :
    Replays row (Run.run (step cfg) db1 ops)
        (remediateAndRecord cfg.rt cfg.retries env c embedding (Run.run (step cfg) db1 ops)) ↔
      validate c embedding = .ok () ∧
        Gates (remediationParams cfg.rt c embedding) (Run.run (step cfg) db1 ops) ∧
        ∀ op ∈ ops, ¬ Expires row.eventId op := by
  obtain ⟨wrote, rfl⟩ := remediateAndRecordSql_row first
  have st := @Standing.run cfg _ _ _ ops _ (wrote.standing adm)
  generalize Run.run (step cfg) db1 ops = db2 at *
  have taken : KeyTaken (remediationParams cfg.rt c embedding) db2 := by
    obtain ⟨a, ha, ao, ak, _⟩ := st.action
    exact ⟨a, ha, ao.trans org.symm, ak.trans key.symm⟩
  obtain ⟨live, gone⟩ := @Standing.replay cfg.rt _ (remediationParams cfg.rt c embedding) _ _
    keyViolation _ st org key
  cases valid : validate c embedding with
  | error e => simp [Replays, remediateAndRecord, valid]
  | ok =>
    rw [remediateAndRecord_taken valid answers taken]
    by_cases gates : Gates (remediationParams cfg.rt c embedding) db2
    · rw [if_pos gates]
      by_cases ex : ∃ op ∈ ops, Expires g.eventId op
      · obtain ⟨e', he⟩ := gone (.inr ex)
        rw [he]
        constructor
        · rintro ⟨_, r, ⟨⟩, _⟩
        · rintro ⟨_, _, no⟩
          obtain ⟨op, ho, h⟩ := ex
          exact absurd h (no op ho)
      · rw [live (by simpa using ex)]
        constructor
        · intro _
          exact ⟨rfl, gates, fun op ho h => ex ⟨op, ho, h⟩⟩
        · intro _
          exact ⟨rfl, _, rfl, rfl, rfl, rfl⟩
    · rw [if_neg gates]
      constructor
      · rintro ⟨_, r, ⟨⟩, _⟩
      · rintro ⟨_, h, _⟩
        exact absurd h gates

/-- A rollback, its outcome not yet recorded, and the same command again. -/
theorem resubmission_replays_sample :
    Replays (remediationRow Sample.generated)
      (remediated (remediationParams Runtime.sample Sample.command Sample.embedding)
        Sample.generated Sample.db .rollback)
      (remediateAndRecord Runtime.sample 3 (Sample.commits Sample.outcomeGenerated) Sample.command
        Sample.embedding
        (remediated (remediationParams Runtime.sample Sample.command Sample.embedding)
          Sample.generated Sample.db .rollback)) := by
  have first := @remediateAndRecordSql_fresh
    (remediationParams Runtime.sample Sample.command Sample.embedding)
    Sample.generated Sample.db .rollback rfl
    (by decide +kernel) (by decide +kernel) (by decide +kernel)
  have answers : (Sample.commits Sample.outcomeGenerated).Answers Sample.config.retries :=
    ⟨⟨0, Nat.zero_le _, ⟨_, rfl⟩, by intro j hj; cases hj⟩, rfl⟩
  apply (@resubmission_replays Sample.config _ _ _ _ _ [] _ _ _ Sample.db_admitted first rfl rfl
    answers).mpr
  exact ⟨by decide +kernel, by decide +kernel, by simp⟩

/-- The rollback, its success recorded, and the same command again: the incident is resolved, so the
gate rejects the command before the key is looked at. -/
theorem resubmission_after_success_raises :
    (remediateAndRecord Runtime.sample 3 (Sample.commits Sample.generated) Sample.command
        Sample.embedding Sample.db).2 = .ok (remediationRow Sample.generated).result ∧
      (remediateAndRecord Runtime.sample 3 (Sample.commits Sample.outcomeGenerated) Sample.command
        Sample.embedding
        (Run.run (step Sample.config) Sample.db [Sample.remediate, Sample.recordOutcome])).2 =
          .error gateRejection := by
  constructor <;> decide +kernel

end Postmortem
