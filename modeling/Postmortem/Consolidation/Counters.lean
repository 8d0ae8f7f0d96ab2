import Postmortem.Consolidation.Shelf
import Postmortem.Backend.Ranker
import Mathlib.Tactic.FieldSimp
import Mathlib.Tactic.Linarith

/-!
# The counters of a runbook

Two writers count the uses of a runbook: `REMEDIATE_AND_RECORD_SQL` adds one to `usage_count` for each
action that cites it, and `CockroachRunbookRepository.apply` adds one to `usage_count` and
`success_count` for each success. `Tally` is the balance between them where every consolidated outcome
of the name is a success with the same steps: after `u` citing actions and `w` consolidated successes
the one version has `success_count = w` and `usage_count = w + u`, so a reinforcement writes the rate
`w / (w + u)`.
-/

namespace Postmortem

open CockroachRunbookRepository

/-- What an operation does to the name as a consolidation, if it is one that returns. -/
def appliedTo (cfg : Config) (k : RunbookName) (db : Database) : Op → Option Operation
  | .consolidate c g =>
    if candidateName? c = some k then
      match apply cfg.rt cfg.activation c g db with
      | .ok (_, m) => some m.operation
      | .error _ => none
    else none
  | _ => none

/-- 1 for a remediation that commits and cites a version of the name. -/
def used (cfg : Config) (k : RunbookName) (db : Database) : Op → Nat
  | .remediate env c embedding =>
    if (step cfg db (.remediate env c embedding)).remediationActions.length ≠
          db.remediationActions.length ∧
        ∃ r ∈ db.proceduralMemory, OfName k r ∧ c.runbookId = some r.runbookId then 1
    else 0
  | _ => 0

/-- 1 for a consolidated success of the name that was not consolidated before. -/
def won (cfg : Config) (k : RunbookName) (db : Database) (op : Op) : Nat :=
  if appliedTo cfg k db op = some .create ∨ appliedTo cfg k db op = some .reinforce then 1 else 0

/-- The committed remediations of a run that cite the name. -/
def uses (cfg : Config) (k : RunbookName) (db : Database) (ops : List Op) : Nat :=
  Run.total (step cfg) (used cfg k) db ops

/-- The successes of the name a run consolidates. -/
def wins (cfg : Config) (k : RunbookName) (db : Database) (ops : List Op) : Nat :=
  Run.total (step cfg) (won cfg k) db ops

/-- Every outcome an operation consolidates for the name is a success, with the steps. -/
def Succeeds (k : RunbookName) (steps : List Json) (op : Op) : Prop :=
  ∀ c g, op = .consolidate c g → candidateName? c = some k →
    c.outcome = .success ∧ Json.norm (.arr c.steps) = Json.norm (.arr steps)

/-- The versions of the name after `u` citing actions and `w` consolidated successes. -/
inductive Tally (steps : List Json) : Nat → Nat → List Runbook → Prop where
  | empty : Tally steps 0 0 []
  | single {r u w l} : 0 < w → r.successCount = w → r.usageCount = w + u → r.steps = .arr l →
    Json.norm (.arr l) = Json.norm (.arr steps) → Tally steps u w [r]

/-- What one operation does to the versions, with what it adds to the counts of uses and of successes
and whether it is a reinforcement. -/
inductive Counted (cfg : Config) (steps : List Json) :
    Nat → Nat → Bool → List Runbook → List Runbook → Prop where
  | kept {rows} : Counted cfg steps 0 0 false rows rows
  | retired {r} : Counted cfg steps 0 0 false [r] [superseded r]
  | use {r} : Counted cfg steps 1 0 false [r] [{ r with usageCount := r.usageCount + 1 }]
  | create {c i} : Json.norm (.arr c.steps) = Json.norm (.arr steps) →
    Counted cfg steps 0 1 false [] [Shelf.fresh cfg.rt c i none]
  | reinforce {r} : Counted cfg steps 0 1 true [r] [(reinforced cfg.activation 0 r).face]

/-- The balance after one operation. -/
lemma Counted.tally {cfg steps u w du dw b rows rows'}
    (counted : Counted cfg steps du dw b rows rows') (t : Tally steps u w rows) :
    Tally steps (u + du) (w + dw) rows' := by
  cases counted with
  | kept => exact t
  | retired =>
    cases t with
    | single pos s n e eq => exact .single pos s n e eq
  | use =>
    cases t with
    | single pos s n e eq =>
      refine .single pos s ?_ e eq
      simp only [n]
      omega
  | create eq =>
    cases t with
    | empty => exact .single Nat.one_pos rfl rfl rfl eq
  | @reinforce r =>
    cases t with
    | single pos s n e eq =>
      refine .single (Nat.succ_pos _) (congrArg (· + 1) s) ?_ e eq
      show r.usageCount + 1 = _
      omega

/-- The threshold of the success-rate gate, in whole numbers. -/
lemma rate_iff {u w : Nat} (pos : 0 < w) :
    ({} : RecallPolicy).minRunbookSuccessRate ≤ (w : ℚ) / (w + u : Nat) ↔ 3 * u ≤ 2 * w := by
  have den : (0 : ℚ) < (w + u : Nat) := by exact_mod_cast Nat.add_pos_left pos u
  show (60 / 100 : ℚ) ≤ _ ↔ _
  rw [le_div_iff₀ den]
  push_cast
  constructor
  · intro h
    have h' : (3 * u : ℚ) ≤ 2 * w := by linarith
    exact_mod_cast h'
  · intro h
    have h' : (3 * u : ℚ) ≤ 2 * w := by exact_mod_cast h
    linarith

/-- No version is below the success-rate gate. -/
def AboveGate (rows : List Runbook) : Prop :=
  ∀ r ∈ rows, ({} : RecallPolicy).minRunbookSuccessRate ≤ r.successRate

/-- Only a reinforcement can bring a version below the gate, and it does where there are more than two
uses to three successes. -/
lemma Counted.aboveGate {cfg steps u w du dw b rows rows'}
    (counted : Counted cfg steps du dw b rows rows') (t : Tally steps u w rows)
    (above : AboveGate rows) :
    AboveGate rows' ↔ (b = true → 3 * (u + du) ≤ 2 * (w + dw)) := by
  cases counted with
  | kept => exact iff_of_true above nofun
  | retired => exact iff_of_true (by simpa [AboveGate, superseded] using above) nofun
  | use => exact iff_of_true (by simpa [AboveGate] using above) nofun
  | create eq =>
    refine iff_of_true ?_ nofun
    intro r hr
    obtain rfl := List.mem_singleton.mp hr
    show (60 / 100 : ℚ) ≤ 1
    norm_num
  | @reinforce r =>
    cases t with
    | single pos s n e eq =>
      have rate : (reinforced cfg.activation 0 r).face.successRate =
          ((w + 1 : Nat) : ℚ) / (w + 1 + u : Nat) := by
        show ((r.successCount : ℚ) + 1) / (r.usageCount + 1) = _
        rw [s, n]
        push_cast
        congr 1
        exact add_right_comm _ _ _
      simp only [AboveGate, List.mem_singleton, forall_eq, rate, forall_const]
      exact rate_iff (Nat.succ_pos w)

section step

variable {cfg : Config} {k : RunbookName} {steps : List Json} {u w : Nat} {db : Database}

/-- The rows of the name where its shelf has one version. -/
lemma shelfOf_single {r} (h : (shelfOf k db).versions = [r]) :
    ∃ r0 ∈ db.proceduralMemory, OfName k r0 ∧ r0.face = r ∧
      db.proceduralMemory.filter (fun r => OfName k r) = [r0] := by
  obtain ⟨r0, e, rfl⟩ := List.map_eq_singleton_iff.mp h
  have mem : r0 ∈ db.proceduralMemory.filter fun r => OfName k r := e ▸ List.mem_singleton_self r0
  obtain ⟨hr, n⟩ := List.mem_filter.mp mem
  exact ⟨r0, hr, of_decide_eq_true n, rfl, e⟩

/-- A remediation counts one use where it commits and cites the name. -/
lemma remediate_counted {env c embedding} (adm : db.Admitted)
    (t : Tally steps u w (shelfOf k db).versions) :
    Counted cfg steps (used cfg k db (.remediate env c embedding)) 0 false (shelfOf k db).versions
      (shelfOf k (step cfg db (.remediate env c embedding))).versions := by
  have spec := @step_spec cfg db (.remediate env c embedding)
  simp only [used]
  generalize step cfg db (.remediate env c embedding) = db' at *
  cases spec with
  | idle =>
    rw [if_neg fun h => h.1 rfl]
    exact .kept
  | @remediate _ _ _ g _ wrote =>
    obtain ⟨⟨_, _, gate⟩, _, _, action, _, rfl⟩ := wrote
    generalize e : remediationParams cfg.rt c embedding = p at *
    have runbook : c.runbookId = p.runbookId := by rw [← e]; rfl
    have grew : (remediated p g db action).remediationActions.length ≠
        db.remediationActions.length := by
      simp [remediated]
    -- the UPDATE keeps the name of a row, so it acts on the rows of the name
    have rows : (shelfOf k (remediated p g db action)).versions =
        (runbookUsage p g (db.proceduralMemory.filter fun r => OfName k r)).map Runbook.face := by
      apply congrArg (List.map Runbook.face)
      exact Table.filter_update fun _ _ => rfl
    by_cases cites : ∃ r ∈ db.proceduralMemory, OfName k r ∧ c.runbookId = some r.runbookId
    · rw [if_pos ⟨grew, cites⟩]
      obtain ⟨r, hr, n, er⟩ := cites
      have mem : r.face ∈ (shelfOf k db).versions :=
        List.mem_map_of_mem (List.mem_filter.mpr ⟨hr, decide_eq_true n⟩)
      have org : r.orgId = p.orgId := by
        obtain no | ⟨r1, hr1, o1, e1, _⟩ := gate
        · rw [runbook, no] at er
          cases er
        · have same : some r.runbookId = some r1.runbookId := er.symm.trans (runbook.trans e1)
          obtain rfl := adm.runbooks.eq hr hr1 (Option.some.inj same)
          exact o1
      generalize ev : (shelfOf k db).versions = versions at *
      cases t with
      | empty => cases mem
      | single =>
        obtain ⟨r0, hr0, n0, rfl, one⟩ := shelfOf_single ev
        have mem : r ∈ [r0] := one ▸ List.mem_filter.mpr ⟨hr, decide_eq_true n⟩
        obtain rfl := List.mem_singleton.mp mem
        rw [rows, one]
        have sel : r.orgId = p.orgId ∧ some r.runbookId = p.runbookId := ⟨org, er.symm.trans runbook⟩
        have row : (runbookUsage p g [r]).map Runbook.face =
            [{ r.face with usageCount := r.face.usageCount + 1 }] := by
          simp [runbookUsage, Table.update, sel, Runbook.face]
        rw [row]
        exact .use
    · rw [if_neg fun h => cites h.2, rows, runbookUsage, Table.update_eq_self]
      · exact .kept
      · intro r hr
        obtain ⟨hr, n⟩ := List.mem_filter.mp hr
        apply decide_eq_false
        intro sel
        exact cites ⟨r, hr, of_decide_eq_true n, runbook.trans sel.2.symm⟩

/-- A success on a shelf without versions creates the first one. -/
lemma Shelf.apply_empty {rt activation c i} {s : Shelf} (nc : i.incident ∉ s.incidents)
    (success : c.outcome = .success) (e : s.versions = []) :
    s.apply rt activation c i = (counted i s [fresh rt c i none], .create) := by
  have newest : s.newest = none := Table.first_eq_none.mpr e
  simp [Shelf.apply, nc, newest, success, e]

/-- A success with the steps of the only version of a shelf reinforces it. -/
lemma Shelf.apply_single {rt activation c i r} {s : Shelf} (nc : i.incident ∉ s.incidents)
    (success : c.outcome = .success) (e : s.versions = [r]) (same : sameSteps rt c r = true) :
    s.apply rt activation c i = (counted i s [(reinforced activation 0 r).face], .reinforce) := by
  have newest : s.newest = some r := by simp [Shelf.newest, Table.first, e]
  have changed : change r (reinforced activation 0) [r] = [(reinforced activation 0 r).face] := by
    simp [change, Table.update]
  simp [Shelf.apply, nc, newest, success, e, same, changed]

/-- A consolidated success counts for the name it is applied to. -/
lemma consolidate_counted {c g} (adm : db.Admitted) (t : Tally steps u w (shelfOf k db).versions)
    (succ : Succeeds k steps (.consolidate c g)) :
    Counted cfg steps 0 (won cfg k db (.consolidate c g))
      (appliedTo cfg k db (.consolidate c g) = some .reinforce) (shelfOf k db).versions
      (shelfOf k (step cfg db (.consolidate c g))).versions := by
  have kept : ∀ {o : Option Operation}, appliedTo cfg k db (.consolidate c g) = o →
      o ≠ some .create → o ≠ some .reinforce →
      (shelfOf k (step cfg db (.consolidate c g))).versions = (shelfOf k db).versions →
      Counted cfg steps 0 (won cfg k db (.consolidate c g))
        (appliedTo cfg k db (.consolidate c g) = some .reinforce) (shelfOf k db).versions
        (shelfOf k (step cfg db (.consolidate c g))).versions := by
    intro o e nc nr same
    rw [same, won, e, if_neg (by simp [nc, nr]), decide_eq_false nr]
    exact .kept
  cases h : apply cfg.rt cfg.activation c g db with
  | error =>
    apply kept (o := none)
    · simp [appliedTo, h]
    · nofun
    · nofun
    · simp [step, h]
  | ok res =>
    obtain ⟨db', m⟩ := res
    obtain ⟨i, hi, applied⟩ := apply_spec h
    obtain ⟨s, es, shelves⟩ := Applied.onShelf adm applied
    have stepped : step cfg db (.consolidate c g) = db' := by simp [step, h]
    have name : candidateName? c = some (c.nameWith i) := by simp [candidateName?, hi]
    by_cases ek : c.nameWith i = k
    case neg =>
      apply kept (o := none)
      · simp [appliedTo, name, ek]
      · nofun
      · nofun
      · rw [stepped, shelves, if_neg ek]
    case pos =>
      subst ek
      have op : appliedTo cfg (c.nameWith i) db (.consolidate c g) = some m.operation := by
        simp [appliedTo, name, h]
      have after : shelfOf (c.nameWith i) db' = s := by rw [shelves, if_pos rfl]
      obtain ⟨success, eq⟩ := succ c g rfl name
      rw [won, op, stepped, after]
      generalize shelfOf (c.nameWith i) db = shelf at *
      by_cases counts : i.incident ∈ shelf.incidents
      · rw [Shelf.apply, if_pos counts] at es
        obtain ⟨rfl, e⟩ := Prod.mk.inj es
        rw [← e]
        exact .kept
      · generalize ev : shelf.versions = versions at *
        cases t with
        | empty =>
          rw [Shelf.apply_empty counts success ev] at es
          obtain ⟨rfl, e⟩ := Prod.mk.inj es
          rw [← e]
          exact .create eq
        | @single r _ _ _ _ _ _ er eqr =>
          have same : Shelf.sameSteps cfg.rt c r = true := by
            simp [Shelf.sameSteps, existingSteps, er, eqr, eq]
          rw [Shelf.apply_single counts success ev same] at es
          obtain ⟨rfl, e⟩ := Prod.mk.inj es
          rw [← e]
          exact .reinforce

lemma retire_counted {id} (t : Tally steps u w (shelfOf k db).versions) :
    Counted cfg steps 0 0 false (shelfOf k db).versions (shelfOf k (deprecateRunbook id db)).versions := by
  have rows : (shelfOf k (deprecateRunbook id db)).versions =
      (updateRunbook id superseded (db.proceduralMemory.filter fun r => OfName k r)).map
        Runbook.face := by
    apply congrArg (List.map Runbook.face)
    exact Table.filter_update fun _ _ => rfl
  rw [rows]
  generalize ev : (shelfOf k db).versions = versions at *
  cases t with
  | empty =>
    rw [List.map_eq_nil_iff.mp ev]
    exact .kept
  | single =>
    obtain ⟨r, hr, n, rfl, one⟩ := shelfOf_single ev
    rw [one]
    by_cases sel : r.runbookId = id
    · have row : (updateRunbook id superseded [r]).map Runbook.face = [superseded r.face] := by
        simp [updateRunbook, Table.update, sel, Runbook.face, superseded]
      rw [row]
      exact .retired
    · have row : (updateRunbook id superseded [r]).map Runbook.face = [r.face] := by
        simp [updateRunbook, Table.update, sel]
      rw [row]
      exact .kept

/-- One operation adds to the counts what `used` and `won` say. -/
lemma step_counted {op} (adm : db.Admitted) (t : Tally steps u w (shelfOf k db).versions)
    (succ : Succeeds k steps op) :
    Counted cfg steps (used cfg k db op) (won cfg k db op) (appliedTo cfg k db op = some .reinforce)
      (shelfOf k db).versions (shelfOf k (step cfg db op)).versions := by
  have same : ∀ {op}, (∀ env c embedding, op ≠ .remediate env c embedding) →
      (∀ c g, op ≠ .consolidate c g) →
      used cfg k db op = 0 ∧ won cfg k db op = 0 ∧
        decide (appliedTo cfg k db op = some .reinforce) = false := by
    intro op nr nc
    cases op with
    | remediate env c embedding => exact absurd rfl (nr env c embedding)
    | consolidate c g => exact absurd rfl (nc c g)
    | recordOutcome | retire | expire => exact ⟨rfl, rfl, rfl⟩
  cases op with
  | remediate env c embedding => exact remediate_counted adm t
  | consolidate c g => exact consolidate_counted adm t succ
  | recordOutcome env c embedding =>
    have spec := @step_spec cfg db (.recordOutcome env c embedding)
    obtain ⟨u0, w0, b0⟩ := @same (.recordOutcome env c embedding) (fun _ _ _ e => by cases e) fun _ _ e => by cases e
    rw [u0, w0, b0]
    generalize step cfg db (.recordOutcome env c embedding) = db' at *
    cases spec with
    | idle => exact .kept
    | recordOutcome wrote =>
      obtain ⟨_, _, _, _, rfl⟩ := wrote
      exact .kept
  | retire id => exact retire_counted t
  | expire id => exact .kept

/-- The balance after a run from a state without the name. -/
lemma run_tally {ops} (adm : db.Admitted) (new : (shelfOf k db).versions = [])
    (succ : ∀ op ∈ ops, Succeeds k steps op) :
    Tally steps (uses cfg k db ops) (wins cfg k db ops) (shelfOf k (Run.run (step cfg) db ops)).versions := by
  induction ops using List.reverseRecOn with
  | nil =>
    show Tally steps 0 0 (shelfOf k db).versions
    rw [new]
    exact .empty
  | append_singleton ops op ih =>
    have before := ih fun o ho => succ o (List.mem_append_left _ ho)
    have succ := succ op (List.mem_append_right _ (List.mem_singleton_self op))
    rw [uses, wins, Run.total_concat, Run.total_concat, Run.run_append]
    exact (step_counted (run_admitted adm) before succ).tally before

end step

/-- In a run that only ever consolidates successes of a runbook, with its steps, from a state without
it: the runbook stays above the success-rate gate of recall exactly where at every reinforcement the
actions that cited it so far are at most two for three consolidated successes. -/
theorem above_gate_iff {cfg k steps ops} {db : Database} (adm : db.Admitted)
    (new : ∀ r ∈ db.proceduralMemory, ¬ OfName k r) (succ : ∀ op ∈ ops, Succeeds k steps op) :
    (∀ pre, pre <+: ops → ∀ r ∈ (Run.run (step cfg) db pre).proceduralMemory, OfName k r →
      ({} : RecallPolicy).minRunbookSuccessRate ≤ r.successRate) ↔
    ∀ pre op, pre ++ [op] <+: ops →
      appliedTo cfg k (Run.run (step cfg) db pre) op = some .reinforce →
      3 * uses cfg k db (pre ++ [op]) ≤ 2 * wins cfg k db (pre ++ [op]) := by
  have empty : (shelfOf k db).versions = [] := by
    have none : db.proceduralMemory.filter (fun r => OfName k r) = [] := by simpa using new
    simp [shelfOf, none]
  have gate : ∀ pre, (∀ r ∈ (Run.run (step cfg) db pre).proceduralMemory, OfName k r →
      ({} : RecallPolicy).minRunbookSuccessRate ≤ r.successRate) ↔
      AboveGate (shelfOf k (Run.run (step cfg) db pre)).versions := by
    intro pre
    simp only [AboveGate, shelfOf, List.forall_mem_map, List.mem_filter, decide_eq_true_eq, and_imp]
    rfl
  -- the last step of a prefix, with the balance before it
  have last : ∀ pre op, pre ++ [op] <+: ops →
      AboveGate (shelfOf k (Run.run (step cfg) db pre)).versions →
      (AboveGate (shelfOf k (Run.run (step cfg) db (pre ++ [op]))).versions ↔
        (appliedTo cfg k (Run.run (step cfg) db pre) op = some .reinforce →
          3 * uses cfg k db (pre ++ [op]) ≤ 2 * wins cfg k db (pre ++ [op]))) := by
    intro pre op le above
    have succ : ∀ o ∈ pre ++ [op], Succeeds k steps o := fun o ho => succ o (le.subset ho)
    have before := @run_tally cfg k steps db pre adm empty fun o ho => succ o (List.mem_append_left _ ho)
    have counted := @step_counted cfg _ _ _ _ _ _ (run_admitted adm) before (succ op (by simp))
    rw [uses, wins, Run.total_concat, Run.total_concat, Run.run_append]
    have iff := counted.aboveGate before above
    rw [decide_eq_true_eq] at iff
    exact iff
  simp only [gate]
  constructor
  · intro above pre op le
    exact (last pre op le (above pre ((List.prefix_append pre [op]).trans le))).mp (above _ le)
  · intro bound pre
    induction pre using List.reverseRecOn with
    | nil =>
      intro _
      show AboveGate (shelfOf k db).versions
      rw [empty]
      exact List.forall_mem_nil _
    | append_singleton pre op ih =>
      intro le
      have above := ih ((List.prefix_append pre [op]).trans le)
      exact (last pre op le above).mpr (bound pre op le)

namespace Sample

/-- The incident is consolidated. -/
def consolidate (n : Fin 16) : Op := .consolidate (candidate n) ⟨0, .sample n 2⟩

/-- A rollback of the incident that cites the first version of the runbook. -/
def follow (n : Fin 16) : Op :=
  .remediate (commits ⟨0, .sample n 3, .sample n 4, .sample n 5, .sample n 6⟩)
    { command with incidentId := (incidentNumbered n).incidentId, runbookId := some (.sample 0 2) }
    embedding

/-- Three successes make the runbook active, three incidents follow it, and the first of these is
consolidated before the others. -/
def followed : List Op :=
  [consolidate 0, consolidate 1, consolidate 2, follow 3, follow 4, follow 5, consolidate 3]

lemma consolidate_succeeds {n} : Succeeds runbook steps (consolidate n) := by
  rintro c g ⟨⟩ _
  exact ⟨rfl, rfl⟩

end Sample

/-- `above_gate_iff` on a run with one reinforcement and no action in between. -/
theorem above_gate_sample : Sample.busy.Admitted ∧
    ∀ pre, pre <+: [Sample.consolidate 0, Sample.consolidate 1] →
      ∀ r ∈ (Run.run (step Sample.config) Sample.busy pre).proceduralMemory, OfName Sample.runbook r →
        ({} : RecallPolicy).minRunbookSuccessRate ≤ r.successRate := by
  refine ⟨Sample.busy_admitted, ?_⟩
  have succ : ∀ op ∈ [Sample.consolidate 0, Sample.consolidate 1],
      Succeeds Sample.runbook Sample.steps op := by
    simp [Sample.consolidate_succeeds]
  apply (above_gate_iff Sample.busy_admitted (by simp [Sample.busy, Sample.db]) succ).mpr
  intro pre op le reinforced
  obtain ⟨rfl, rfl⟩ | ⟨rfl, rfl⟩ : pre = [] ∧ op = Sample.consolidate 0 ∨
      pre = [Sample.consolidate 0] ∧ op = Sample.consolidate 1 := by
    obtain ⟨rest, e⟩ := le
    rcases pre with _ | ⟨o, pre⟩
    · exact .inl ⟨rfl, (List.cons.inj e).1⟩
    · rcases pre with _ | ⟨o', pre⟩
      · obtain ⟨first, tail⟩ := List.cons.inj e
        obtain ⟨second, _⟩ := List.cons.inj tail
        exact .inr ⟨by rw [first], second⟩
      · simp at e
  · exact absurd reinforced (by decide +kernel)
  · decide +kernel

/-- The runbook has only ever worked, and is below the gate. -/
theorem followed_below_gate :
    (∀ op ∈ Sample.followed, Succeeds Sample.runbook Sample.steps op) ∧
    ∃ r ∈ (Run.run (step Sample.config) Sample.busy Sample.followed).proceduralMemory,
      OfName Sample.runbook r ∧ r.failureCount = 0 ∧ r.status = .active ∧
        r.successRate < ({} : RecallPolicy).minRunbookSuccessRate := by
  constructor
  · intro op h
    simp only [Sample.followed, List.mem_cons, List.not_mem_nil, or_false] at h
    obtain rfl | rfl | rfl | rfl | rfl | rfl | rfl := h
    all_goals first | exact Sample.consolidate_succeeds | (intro _ _ consolidates; cases consolidates)
  · decide +kernel

end Postmortem
