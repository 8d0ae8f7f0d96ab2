import Postmortem.Backend.OutcomeOnce
import Mathlib.Order.Basic

/-!
# The order of an incident's statuses

An incident goes from `open` over `mitigating` and `resolved` to `closed`. Two transactions write the
status. `REMEDIATE_AND_RECORD_SQL` sets `mitigating` and gates on the statuses before it;
`RECORD_OUTCOME_SQL` sets `resolved` on a success and gates on the action only, so a success recorded
for a closed incident opens it again (`Reopens`, `closed_reopened`).

`Advances` is the order lifted to the tables. Each writer extends it but for that call
(`step_advances`), and `status_never_back_iff` says that a run moves no status backward exactly when it
makes no such call.
-/

namespace Postmortem

/-! ## The order -/

/-- The place of the status in its order. -/
def IncidentStatus.rank : IncidentStatus → Nat
  | «open» => 0
  | mitigating => 1
  | resolved => 2
  | closed => 3

instance : Preorder IncidentStatus := Preorder.lift IncidentStatus.rank

instance {s t : IncidentStatus} : Decidable (s ≤ t) := inferInstanceAs (Decidable (s.rank ≤ t.rank))

/-- What the gate of the remediation lets through is not past `mitigating`. -/
lemma IncidentStatus.le_mitigating {s : IncidentStatus} (h : s = .open ∨ s = .mitigating) :
    s ≤ .mitigating := by
  obtain rfl | rfl := h <;> decide

lemma IncidentStatus.le_resolved {s : IncidentStatus} : s ≤ .resolved ↔ s ≠ .closed := by
  cases s <;> decide

/-- Every incident is kept, with a status that is not earlier in the order. -/
def Advances (db db' : Database) : Prop :=
  ∀ i ∈ db.incidents, ∃ i' ∈ db'.incidents, i'.incidentId = i.incidentId ∧ i.status ≤ i'.status

lemma Advances.refl {db : Database} : Advances db db := fun i hi => ⟨i, hi, rfl, le_refl _⟩

lemma Advances.trans {db db' db'' : Database} (first : Advances db db') (second : Advances db' db'') :
    Advances db db'' := by
  intro i hi
  obtain ⟨i', hi', ei', le'⟩ := first i hi
  obtain ⟨i'', hi'', ei'', le''⟩ := second i' hi'
  exact ⟨i'', hi'', ei''.trans ei', le_trans le' le''⟩

lemma Advances.of_eq {db db' : Database} (h : db'.incidents = db.incidents) : Advances db db' := by
  intro i hi
  exact ⟨i, h ▸ hi, rfl, le_refl _⟩

/-- An update of incidents advances where it moves no selected status backward. -/
lemma Advances.update_iff {db db' : Database} {p : Incident → Bool} {f : Incident → Incident}
    (adm : db.Admitted) (written : db'.incidents = Table.update p f db.incidents)
    (key : ∀ i, (f i).incidentId = i.incidentId) :
    Advances db db' ↔ ∀ i ∈ db.incidents, p i = true → i.status ≤ (f i).status := by
  constructor
  · intro advances i hi sel
    obtain ⟨i', hi', e, le⟩ := advances i hi
    rw [written] at hi'
    rw [adm.incidents.updated hi hi' key e, if_pos sel] at le
    exact le
  · intro forward i hi
    cases sel : p i with
    | true => exact ⟨f i, written ▸ Table.mem_update_of_pos hi sel, key i, forward i hi sel⟩
    | false => exact ⟨i, written ▸ Table.mem_update_of_not hi sel, rfl, le_refl _⟩

/-! ## The two writers -/

/-- The remediation moves its incident to `mitigating`, past which its gate lets none through. -/
lemma Remediated.advances {p g db db'} (adm : db.Admitted) (wrote : Remediated p g db db') :
    Advances db db' := by
  obtain ⟨⟨target, _, _⟩, _, _, action, _, rfl⟩ := wrote
  obtain ⟨n, hn, _, en, _, gate, _⟩ := target
  have written : (remediated p g db action).incidents = incidentUpdate p db.incidents := rfl
  apply (Advances.update_iff adm written fun _ => rfl).mpr
  intro i hi sel
  obtain ⟨_, ei⟩ := of_decide_eq_true sel
  -- the selected incident is the one the gate looked at
  obtain rfl := adm.incidents.eq hi hn (ei.trans en.symm)
  exact IncidentStatus.le_mitigating gate

/-- The status an outcome leaves is not earlier, but for a success on a closed incident. -/
lemma le_resolve {rt p} {i : Incident} :
    i.status ≤ (resolve rt p i).status ↔ ¬ (p.outcome = .success ∧ i.status = .closed) := by
  by_cases success : p.outcome = .success
  · have resolved : (resolve rt p i).status = .resolved := if_pos success
    rw [resolved, IncidentStatus.le_resolved, not_and]
    exact ⟨fun h _ => h, fun h => h success⟩
  · have kept : (resolve rt p i).status = i.status := if_neg success
    rw [kept]
    exact ⟨fun _ h => success h.1, fun _ => le_refl _⟩

/-- A recorded outcome moves a status backward where it is a success and the incident is closed. -/
lemma Records.advances_iff {rt retries env c embedding g a i db} (adm : db.Admitted)
    (h : Records rt retries env c embedding g a i db) :
    Advances db (outcomeRecorded rt (outcomeParams rt c embedding) g db a i) ↔
      ¬ (c.outcome = .success ∧ i.status = .closed) := by
  obtain ⟨_, hi, io, ii⟩ := outcomeTarget_spec h.target
  have written : (outcomeRecorded rt (outcomeParams rt c embedding) g db a i).incidents =
      outcomeIncidentUpdate rt (outcomeParams rt c embedding) db.incidents := rfl
  rw [Advances.update_iff adm written fun _ => rfl]
  constructor
  · intro forward
    exact le_resolve.mp (forward i hi (decide_eq_true ⟨io, ii⟩))
  · intro keeps n hn sel
    obtain ⟨_, en⟩ := of_decide_eq_true sel
    obtain rfl := adm.incidents.eq hn hi (en.trans ii.symm)
    exact le_resolve.mpr keeps

/-! ## Steps and runs -/

/-- The operation records the first outcome of an action, a success, while the incident is closed. -/
def Reopens (cfg : Config) (db : Database) (op : Op) : Prop :=
  ∃ env c embedding g a i, op = .recordOutcome env c embedding ∧
    Records cfg.rt cfg.outcomeRetries env c embedding g a i db ∧
    c.outcome = .success ∧ i.status = .closed

/-- Only recorded outcomes move a status backward. -/
lemma advances_of_ne {cfg db op} (adm : db.Admitted)
    (other : ∀ env c embedding, op ≠ .recordOutcome env c embedding) :
    Advances db (step cfg db op) := by
  generalize e : step cfg db op = db'
  have spec := @step_spec cfg db op
  rw [e] at spec
  cases spec with
  | idle => exact .refl
  | remediate wrote => exact wrote.advances adm
  | recordOutcome => exact absurd rfl (other _ _ _)
  | consolidate _ applied => cases applied <;> exact .of_eq rfl
  | retire => exact .of_eq rfl
  | expire => exact .of_eq rfl

lemma step_advances_iff {cfg db op} (adm : db.Admitted) :
    Advances db (step cfg db op) ↔ ¬ Reopens cfg db op := by
  constructor
  · rintro advances ⟨env, c, embedding, g, a, i, rfl, records, reopens⟩
    rw [step, recordOutcome_records records] at advances
    exact (records.advances_iff adm).mp advances reopens
  · intro keeps
    by_cases outcome : ∃ env c embedding, op = .recordOutcome env c embedding
    · obtain ⟨env, c, embedding, rfl⟩ := outcome
      rw [step]
      obtain idle | ⟨g, a, i, records, written⟩ :=
        @recordOutcome_spec cfg.rt cfg.outcomeRetries env c embedding db
      · rw [idle]
        exact .refl
      · rw [written]
        apply (records.advances_iff adm).mpr
        intro reopens
        exact keeps ⟨env, c, embedding, g, a, i, rfl, records, reopens⟩
    · apply advances_of_ne adm
      intro env c embedding e
      exact outcome ⟨env, c, embedding, e⟩

/-- The statuses along a run: no incident is at an earlier status in a later state. -/
def NeverBack (cfg : Config) (db : Database) (ops : List Op) : Prop :=
  ∀ before mid after, ops = before ++ mid ++ after →
    Advances (Run.run (step cfg) db before) (Run.run (step cfg) db (before ++ mid))

/-- A run from an admitted state, of remediations and outcomes among the other operations in any
order, moves no status backward if and only if it records no first success for a closed incident. -/
theorem status_never_back_iff {cfg db ops} (adm : db.Admitted) :
    NeverBack cfg db ops ↔
      ∀ before op after, ops = before ++ op :: after → ¬ Reopens cfg (Run.run (step cfg) db before) op := by
  have step_at : ∀ before op, Advances (Run.run (step cfg) db before)
      (step cfg (Run.run (step cfg) db before) op) ↔ ¬ Reopens cfg (Run.run (step cfg) db before) op :=
    fun before op => step_advances_iff (run_admitted adm)
  constructor
  · intro forward before op after e
    apply (step_at before op).mp
    have one := forward before [op] after (by simp [e])
    rwa [Run.run_append] at one
  · rintro keeps before mid after rfl
    rw [Run.run_append]
    apply Run.run_extends (fun _ => .refl) (fun _ _ _ => .trans)
    rintro first op rest rfl
    rw [← Run.run_append]
    exact (step_at _ op).mpr (keeps (before ++ first) op (rest ++ after) (by simp))

/-! ## States without closed incidents -/

lemma resolve_unclosed {rt p} {i : Incident} (h : i.status ≠ .closed) :
    (resolve rt p i).status ≠ .closed := by
  unfold resolve
  dsimp only
  split
  · nofun
  · exact h

lemma step_unclosed {cfg db op} (h : ∀ i ∈ db.incidents, i.status ≠ .closed) :
    ∀ i ∈ (step cfg db op).incidents, i.status ≠ .closed := by
  generalize e : step cfg db op = db'
  have spec := @step_spec cfg db op
  rw [e] at spec
  cases spec with
  | idle => exact h
  | remediate wrote =>
    obtain ⟨_, _, _, action, _, rfl⟩ := wrote
    intro i hi
    obtain ⟨n, hn, rfl⟩ := Table.mem_update.mp hi
    split
    · nofun
    · exact h n hn
  | recordOutcome wrote =>
    obtain ⟨_, _, _, _, rfl⟩ := wrote
    intro i hi
    obtain ⟨n, hn, rfl⟩ := Table.mem_update.mp hi
    split
    · exact resolve_unclosed (h n hn)
    · exact h n hn
  | consolidate _ applied => cases applied <;> exact h
  | retire => exact h
  | expire => exact h

lemma not_reopens {cfg db op} (h : ∀ i ∈ db.incidents, i.status ≠ .closed) : ¬ Reopens cfg db op := by
  rintro ⟨env, c, embedding, g, a, i, _, records, _, closed⟩
  obtain ⟨_, hi, _⟩ := outcomeTarget_spec records.target
  exact h i hi closed

lemma run_not_reopens {cfg db ops op} (h : ∀ i ∈ db.incidents, i.status ≠ .closed) :
    ¬ Reopens cfg (Run.run (step cfg) db ops) op := by
  apply not_reopens
  exact Run.run_invariant (I := fun db : Database => ∀ i ∈ db.incidents, i.status ≠ .closed)
    (fun _ _ _ => step_unclosed) h

/-- The rollback of the example and its outcome, from `open` over `mitigating` to `resolved`. -/
theorem status_never_back_sample :
    NeverBack Sample.config Sample.db [Sample.remediate, Sample.recordOutcome] ∧
      (Run.run (step Sample.config) Sample.db [Sample.remediate, Sample.recordOutcome]).incidents.map
        Incident.status = [.resolved] := by
  refine ⟨(status_never_back_iff Sample.db_admitted).mpr ?_, by decide +kernel⟩
  intro before op after _
  apply run_not_reopens
  simp [Sample.db]

namespace Sample

/-- The rollback was applied, then its incident was closed before the outcome was verified. -/
def closedDb : Database :=
  { db with
    incidents := [⟨incident, org, service, .closed, none, 0, some 1500000, some 1⟩]
    remediationActions := [{
      actionId := generated.actionId
      orgId := org
      incidentId := incident
      actionType := .rollbackDeploy
      targetId := some service
      params := .obj [("target_version", .str "v1")]
      appliedAt := generated.now
      appliedBy := agent.text
      outcome := .success
      memoryRef := none
      transactionId := generated.transactionId
      idempotencyKey := "rollback-v1" }] }

end Sample

/-- The success of the rollback, recorded for the closed incident, takes it back to `resolved`. -/
theorem closed_reopened :
    Sample.closedDb.Admitted ∧
      Sample.closedDb.incidents.map Incident.status = [.closed] ∧
      (Run.run (step Sample.config) Sample.closedDb [Sample.recordOutcome]).incidents.map
        Incident.status = [.resolved] ∧
      ¬ NeverBack Sample.config Sample.closedDb [Sample.recordOutcome] := by
  refine ⟨?_, rfl, by decide +kernel, ?_⟩
  · constructor <;> simp [Sample.closedDb, Sample.db, Sample.observation, Table.Unique, References]
  · intro forward
    obtain ⟨i', hi', _, le⟩ := forward [] [Sample.recordOutcome] [] rfl _ List.mem_cons_self
    have back : ∀ i ∈ (Run.run (step Sample.config) Sample.closedDb [Sample.recordOutcome]).incidents,
        ¬ IncidentStatus.closed ≤ i.status := by
      decide +kernel
    exact back i' hi' le

end Postmortem
