import Postmortem.Consolidation.Lifecycle

/-!
# The evidence for a runbook

A version counts its successes and `runbook_provenance` names the incidents they came from. The replay
check looks an incident up among all versions of the name, so no incident is counted twice: along every
run the successes of a version are as many as the distinct incidents recorded for it, each of them
applied as a success with the steps of the version (`Evidenced`). With the threshold of
`Lifecycle.Sound` this is the guard against poisoning (`poisoning_guard`).
-/

namespace Postmortem

open CockroachRunbookRepository

/-- The incidents recorded for the version as its source or as a reinforcement. -/
def supporters (id : Uuid) (db : Database) : List Uuid :=
  (db.runbookProvenance.filter fun p => p.runbookId = id ∧ p.role ≠ .counterexample).map (·.incidentId)

/-- The operation applied a success of the incident with the steps of the version, and counted it for
the version. -/
structure Credits (cfg : Config) (db : Database) (op : Op) (r : Runbook) (x : Uuid) : Prop where
  applied : ∃ c g i db' m, op = .consolidate c g ∧ ids? c = some i ∧
    apply cfg.rt cfg.activation c g db = .ok (db', m) ∧
    (m.operation = .create ∨ m.operation = .reinforce) ∧ m.runbookId = r.runbookId.text ∧
    OfName (c.nameWith i) r ∧ i.incident = x ∧ c.outcome = .success ∧
    Json.pyEq r.steps (.arr c.steps) = true

/-- What an operation adds to the evidence: `credit id` are the incidents it records for the version. -/
structure Credited (cfg : Config) (db : Database) (op : Op) (credit : Uuid → List Uuid)
    (db' : Database) : Prop where
  supporters : ∀ id, supporters id db' = supporters id db ++ credit id
  rows : ∀ r' ∈ db'.proceduralMemory,
    (∃ r ∈ db.proceduralMemory, r.Changed cfg.activation r' ∧
      r'.successCount = r.successCount + (credit r'.runbookId).length) ∨
    (∃ l, r'.steps = .arr l) ∧ Postmortem.supporters r'.runbookId db = [] ∧
      r'.successCount = (credit r'.runbookId).length
  credits : ∀ r' ∈ db'.proceduralMemory, ∀ x ∈ credit r'.runbookId, Credits cfg db op r' x
  once : (∀ k, (shelfOf k db).incidents.Nodup) → ∀ k, (shelfOf k db').incidents.Nodup

/-- The evidence after a run. -/
structure Evidenced (cfg : Config) (start : Database) (ops : List Op) (db : Database) : Prop where
  admitted : db.Admitted
  steps : ∀ r ∈ db.proceduralMemory, ∃ l, r.steps = .arr l
  counts : ∀ r ∈ db.proceduralMemory, (supporters r.runbookId db).length = r.successCount
  credited : ∀ r ∈ db.proceduralMemory, ∀ x ∈ supporters r.runbookId db,
    ∃ before op after, ops = before ++ op :: after ∧
      Credits cfg (Run.run (step cfg) start before) op r x
  once : ∀ k, (shelfOf k db).incidents.Nodup

section evidence

variable {cfg : Config} {start db db' : Database} {ops : List Op} {op : Op} {credit : Uuid → List Uuid}
  {k : RunbookName} {x : Uuid}

lemma mem_supporters {id} : x ∈ supporters id db ↔
    ∃ p ∈ db.runbookProvenance, p.runbookId = id ∧ p.role ≠ .counterexample ∧ p.incidentId = x := by
  simp [supporters, and_assoc]

/-- A version that only changed is credited by what credited it before. -/
lemma Credits.changed {r r' : Runbook} (h : Credits cfg db op r x)
    (changed : r.Changed cfg.activation r') : Credits cfg db op r' x := by
  obtain ⟨c, g, i, db', m, eo, hi, applied, operation, id, name, e, success, steps⟩ := h.applied
  have key := changed.key
  simp only [Prod.mk.injEq] at key
  obtain ⟨o, a, n, _⟩ := key
  refine ⟨c, g, i, db', m, eo, hi, applied, operation, ?_, ?_, e, success, ?_⟩
  · rw [changed.runbookId]
    exact id
  · rw [OfName, o, a, n]
    exact name
  · rw [changed.steps]
    exact steps

/-- The evidence after one more operation. -/
lemma Evidenced.step (h : Evidenced cfg start ops (Run.run (step cfg) start ops)) (adm : db'.Admitted)
    (credited : Credited cfg (Run.run (Postmortem.step cfg) start ops) op credit db') :
    Evidenced cfg start (ops ++ [op]) db' := by
  constructor
  case admitted => exact adm
  case once => exact credited.once h.once
  case steps =>
    intro r' hr'
    obtain ⟨r, hr, changed, _⟩ | ⟨steps, _⟩ := credited.rows r' hr'
    · rw [changed.steps]
      exact h.steps r hr
    · exact steps
  case counts =>
    intro r' hr'
    rw [credited.supporters, List.length_append]
    obtain ⟨r, hr, changed, count⟩ | ⟨_, none, count⟩ := credited.rows r' hr'
    · rw [count, changed.runbookId, h.counts r hr]
    · rw [none, count, List.length_nil, Nat.zero_add]
  case credited =>
    intro r' hr' x hx
    rw [Run.split_concat (P := fun before op => Credits cfg (Run.run (Postmortem.step cfg) start before)
      op r' x)]
    rw [credited.supporters] at hx
    rcases List.mem_append.mp hx with hx | hx
    · left
      obtain ⟨r, hr, changed, _⟩ | ⟨_, none, _⟩ := credited.rows r' hr'
      · rw [changed.runbookId] at hx
        obtain ⟨before, op, after, e, credits⟩ := h.credited r hr x hx
        exact ⟨before, op, after, e, credits.changed changed⟩
      · rw [none] at hx
        cases hx
    · exact .inr (credited.credits r' hr' x hx)

/-- The changes that leave the successes alone. -/
abbrev Uncounted (activation : Activation) (r r' : Runbook) : Prop :=
  r.Changed activation r' ∧ r'.successCount = r.successCount

/-- Rows that only changed have the identifiers of a name they had. -/
lemma named_of_evolves {activation} {rows rows' : List Runbook}
    (e : Evolves (Runbook.Changed activation) (fun _ => False) rows rows') :
    Named k rows' x ↔ Named k rows x := by
  have names : ∀ r r' : Runbook, r.Changed activation r' → (OfName k r' ↔ OfName k r) := by
    intro r r' changed
    have key := changed.key
    simp only [Prod.mk.injEq] at key
    obtain ⟨o, a, n, _⟩ := key
    rw [OfName, OfName, o, a, n]
  constructor
  · rintro ⟨r', hr', n, id⟩
    obtain ⟨r, hr, changed⟩ | no := e.source hr'
    · exact ⟨r, hr, (names r r' changed).mp n, changed.runbookId.symm.trans id⟩
    · exact no.elim
  · rintro ⟨r, hr, n, id⟩
    obtain ⟨r', hr', changed⟩ := e.mem hr
    exact ⟨r', hr', (names r r' changed).mpr n, changed.runbookId.trans id⟩

/-- An operation that counts no success and records no incident. -/
lemma credited_nothing {f : RunbookProvenance → RunbookProvenance}
    (e : Evolves (Uncounted cfg.activation) (fun _ => False) db.proceduralMemory db'.proceduralMemory)
    (provenance : db'.runbookProvenance = db.runbookProvenance.map f)
    (keep : ∀ p, ((f p).runbookId, (f p).incidentId, (f p).role) = (p.runbookId, p.incidentId, p.role)) :
    Credited cfg db op (fun _ => []) db' := by
  simp only [Prod.mk.injEq] at keep
  constructor
  case supporters =>
    intro id
    rw [supporters, provenance, List.filter_map, List.map_map, List.append_nil]
    simp [Function.comp_def, keep, supporters]
  case rows =>
    intro r' hr'
    obtain ⟨r, hr, changed, same⟩ | no := e.source hr'
    · exact .inl ⟨r, hr, changed, same⟩
    · exact no.elim
  case credits => exact fun _ _ _ mem => absurd mem List.not_mem_nil
  case once =>
    intro once k
    have changed := e.mono (fun _ _ h => h.1) fun _ h => h
    have same : (shelfOf k db').incidents = (shelfOf k db).incidents := by
      simp only [shelfOf, provenance, List.filter_map, List.map_map, named_of_evolves changed]
      simp [Function.comp_def, keep]
    rw [same]
    exact once k

/-- The incidents that a call records for the version `id`, when it writes the row of `rid`. -/
def recordedFor (rid : Uuid) (role : Role) (incident id : Uuid) : List Uuid :=
  if rid = id ∧ role ≠ .counterexample then [incident] else []

lemma mem_recordedFor {rid role incident id} :
    x ∈ recordedFor rid role incident id ↔ (rid = id ∧ role ≠ .counterexample) ∧ x = incident := by
  unfold recordedFor
  split
  case isTrue own => simp [own]
  case isFalse other => simp [other]

/-- The incidents recorded for a version once a call has written its provenance row. -/
lemma supporters_written {i g rid event role rows id} :
    supporters id (written i g rid event role rows db) =
      supporters id db ++ recordedFor rid role i.incident id := by
  simp only [supporters, written, List.filter_append, List.map_append]
  congr 1
  unfold recordedFor
  split
  case isTrue h => simp [provenanceRow, h.1, h.2]
  case isFalse h => simp [provenanceRow, h]

lemma Shelf.apply_nodup {rt activation c i s' o} {s : Shelf}
    (h : s.apply rt activation c i = (s', o)) (nodup : s.incidents.Nodup) : s'.incidents.Nodup := by
  unfold Shelf.apply at h
  split at h
  case isTrue => cases h; exact nodup
  case isFalse new =>
    have counted : ∀ rows, (Shelf.counted i s rows).incidents.Nodup := fun rows =>
      List.nodup_append.mpr ⟨nodup, List.nodup_singleton _, fun a ha b hb e =>
        new (List.mem_singleton.mp hb ▸ e ▸ ha)⟩
    split at h
    case h_1 =>
      split at h
      case isTrue => cases h; exact nodup
      case isFalse => cases h; exact counted _
    case h_2 =>
      split at h
      case isTrue => cases h; exact counted _
      case isFalse =>
        split at h
        case isTrue => cases h; exact counted _
        case isFalse => cases h; exact counted _

/-- Where only a new version counts a success, it is the first of the version. -/
lemma created_counts {c i g prior} (adm : db.Admitted)
    (fresh : ∀ r ∈ db.proceduralMemory, r.runbookId ≠ g.runbookId) :
    ∀ r' ∈ supersede prior db.proceduralMemory ++ [created cfg.rt c i (nextVersion prior) g],
      (∃ r ∈ db.proceduralMemory, r.Changed cfg.activation r' ∧ r'.successCount =
        r.successCount + (recordedFor g.runbookId .source i.incident r'.runbookId).length) ∨
      (∃ l, r'.steps = .arr l) ∧ supporters r'.runbookId db = [] ∧
        r'.successCount = (recordedFor g.runbookId .source i.incident r'.runbookId).length := by
  intro r' hr'
  rcases List.mem_append.mp hr' with hr' | hr'
  · left
    have old : Evolves (Uncounted cfg.activation) (fun _ => False) db.proceduralMemory
        (supersede prior db.proceduralMemory) :=
      supersede_evolves (fun r => ⟨.refl r, rfl⟩) fun r => ⟨.superseded r, rfl⟩
    obtain ⟨s, hs, changed, same⟩ | no := old.source hr'
    case inr => exact no.elim
    have other : ¬ (g.runbookId = r'.runbookId ∧ Role.source ≠ .counterexample) := by
      rintro ⟨e, _⟩
      exact fresh s hs (changed.runbookId.symm.trans e.symm)
    rw [recordedFor, if_neg other]
    exact ⟨s, hs, changed, same⟩
  · right
    obtain rfl := List.mem_singleton.mp hr'
    -- no provenance row can name a version that did not exist
    have unknown : supporters g.runbookId db = [] := by
      apply List.eq_nil_iff_forall_not_mem.mpr
      intro x hx
      obtain ⟨p, hp, e, _⟩ := mem_supporters.mp hx
      obtain ⟨s, hs, e'⟩ := adm.provenanceRunbook p hp
      exact fresh s hs (e'.trans e)
    refine ⟨⟨_, rfl⟩, unknown, ?_⟩
    rw [recordedFor, if_pos ⟨rfl, nofun⟩]
    rfl

/-- The incident recorded for a new version is the one it was created from. -/
lemma created_credits {c i g m prior} (hi : ids? c = some i)
    (returned : apply cfg.rt cfg.activation c g db = .ok (db', m)) (success : c.outcome = .success)
    (made : m = mutation .create (created cfg.rt c i (nextVersion prior) g))
    (fresh : ∀ r ∈ db.proceduralMemory, r.runbookId ≠ g.runbookId) :
    ∀ r' ∈ supersede prior db.proceduralMemory ++ [created cfg.rt c i (nextVersion prior) g],
      ∀ x ∈ recordedFor g.runbookId .source i.incident r'.runbookId,
        Credits cfg db (.consolidate c g) r' x := by
  subst made
  intro r' hr' x hx
  obtain ⟨⟨same, _⟩, rfl⟩ := mem_recordedFor.mp hx
  rcases List.mem_append.mp hr' with hr' | hr'
  · obtain ⟨s, hs, e, _⟩ := mem_supersede hr'
    exact absurd (e.symm.trans same.symm) (fresh s hs)
  · obtain rfl := List.mem_singleton.mp hr'
    exact ⟨c, g, i, _, _, rfl, hi, returned, .inl rfl, rfl, ⟨rfl, rfl, rfl⟩, rfl, success,
      Json.pyEq_iff.mpr rfl⟩

/-- A reinforced version counts one success more. -/
lemma reinforced_counts {i : Ids} {now : Timestamp} {r : Runbook} :
    ∀ r' ∈ updateRunbook r.runbookId (reinforced cfg.activation now) db.proceduralMemory,
      ∃ s ∈ db.proceduralMemory, s.Changed cfg.activation r' ∧ r'.successCount =
        s.successCount + (recordedFor r.runbookId .reinforcement i.incident r'.runbookId).length := by
  intro r' hr'
  obtain ⟨s, hs, rfl⟩ := Table.mem_update.mp hr'
  refine ⟨s, hs, ?_⟩
  by_cases sel : s.runbookId = r.runbookId
  · rw [if_pos (decide_eq_true sel), recordedFor, if_pos ⟨sel.symm, nofun⟩]
    exact ⟨⟨rfl, rfl, rfl, Nat.le_succ _, .reinforced⟩, rfl⟩
  · rw [if_neg (by simpa using sel), recordedFor, if_neg fun h => sel h.1.symm]
    exact ⟨.refl s, rfl⟩

/-- The incident recorded for a reinforced version has its steps. -/
lemma reinforced_credits {c i g m stored} {r : Runbook} (adm : db.Admitted)
    (steps : ∀ r ∈ db.proceduralMemory, ∃ l, r.steps = .arr l) (hi : ids? c = some i)
    (returned : apply cfg.rt cfg.activation c g db = .ok (db', m)) (success : c.outcome = .success)
    (made : m = mutation .reinforce (reinforced cfg.activation g.now r))
    (top : latest? i c.name db = some r) (decoded : existingSteps cfg.rt r = .ok stored)
    (eq : Json.pyEq stored (.arr c.steps) = true) :
    ∀ r' ∈ updateRunbook r.runbookId (reinforced cfg.activation g.now) db.proceduralMemory,
      ∀ x ∈ recordedFor r.runbookId .reinforcement i.incident r'.runbookId,
        Credits cfg db (.consolidate c g) r' x := by
  subst made
  obtain ⟨hr, is⟩ := latest?_mem top
  intro r' hr' x hx
  obtain ⟨⟨same, _⟩, rfl⟩ := mem_recordedFor.mp hx
  obtain rfl := adm.runbooks.updated hr hr' (fun _ => rfl) same.symm
  rw [if_pos (decide_eq_true rfl)]
  obtain ⟨l, el⟩ := steps r hr
  rw [existingSteps, el] at decoded
  cases decoded
  refine ⟨c, g, i, _, _, rfl, hi, returned, .inr rfl, rfl, is, rfl, success, ?_⟩
  show Json.pyEq r.steps _ = true
  rw [el]
  exact eq

/-- A call that returns records the incident for the version whose success it counts. -/
lemma Applied.credited {c i g m} (adm : db.Admitted) (steps : ∀ r ∈ db.proceduralMemory, ∃ l, r.steps = .arr l)
    (hi : ids? c = some i) (returned : apply cfg.rt cfg.activation c g db = .ok (db', m))
    (applied : Applied cfg.rt cfg.activation c i g db db' m) :
    ∃ credit, Credited cfg db (.consolidate c g) credit db' := by
  obtain ⟨shelf, es, shelves⟩ := Applied.onShelf adm applied
  have once : (∀ k, (shelfOf k db).incidents.Nodup) → ∀ k, (shelfOf k db').incidents.Nodup := by
    intro once k
    rw [shelves]
    split
    case isTrue => exact Shelf.apply_nodup es (once _)
    case isFalse => exact once k
  have kept : ∀ rows : List Runbook, Evolves (Uncounted cfg.activation) (fun _ => False) rows rows :=
    fun _ => .refl fun r => ⟨.refl r, rfl⟩
  cases applied with
  | replay => exact ⟨_, credited_nothing (kept _) (List.map_id _).symm fun _ => rfl⟩
  | ignored => exact ⟨_, credited_nothing (kept _) (List.map_id _).symm fun _ => rfl⟩
  | @weaken r event =>
    have rows : Evolves (Uncounted cfg.activation) (fun _ => False) db.proceduralMemory
        (updateRunbook r.runbookId (weakened g.now) db.proceduralMemory) :=
      .update (fun r => ⟨.refl r, rfl⟩) fun r => ⟨⟨rfl, rfl, rfl, Nat.le_succ _, .weakened⟩, rfl⟩
    refine ⟨fun _ => [], fun id => ?_, fun r' hr' => ?_, fun _ _ _ mem => absurd mem List.not_mem_nil, once⟩
    · rw [supporters_written, recordedFor, if_neg fun h => h.2 rfl]
    · obtain ⟨s, hs, changed, same⟩ | no := rows.source hr'
      · exact .inl ⟨s, hs, changed, same⟩
      · exact no.elim
  | create _ _ success _ _ _ fresh =>
    exact ⟨_, fun _ => supporters_written, created_counts adm fresh,
      created_credits hi returned success rfl fresh, once⟩
  | reinforce _ top success decoded eq =>
    exact ⟨_, fun _ => supporters_written, fun r' hr' => .inl (reinforced_counts r' hr'),
      reinforced_credits adm steps hi returned success rfl top decoded eq, once⟩

lemma step_credited (adm : db.Admitted) (steps : ∀ r ∈ db.proceduralMemory, ∃ l, r.steps = .arr l) :
    ∃ credit, Credited cfg db op credit (step cfg db op) := by
  have kept : Evolves (Uncounted cfg.activation) (fun _ => False) db.proceduralMemory
      db.proceduralMemory := .refl fun r => ⟨.refl r, rfl⟩
  by_cases consolidates : ∃ c g, op = .consolidate c g
  case pos =>
    obtain ⟨c, g, rfl⟩ := consolidates
    cases h : apply cfg.rt cfg.activation c g db with
    | error e =>
      have same : step cfg db (.consolidate c g) = db := by simp [step, h]
      rw [same]
      exact ⟨_, credited_nothing kept (List.map_id _).symm fun _ => rfl⟩
    | ok res =>
      obtain ⟨db', m⟩ := res
      obtain ⟨i, hi, applied⟩ := apply_spec h
      have after : step cfg db (.consolidate c g) = db' := by simp [step, h]
      rw [after]
      exact Applied.credited adm steps hi h applied
  case neg =>
    have spec := @step_spec cfg db op
    generalize step cfg db op = db' at spec ⊢
    cases spec with
    | idle => exact ⟨_, credited_nothing kept (List.map_id _).symm fun _ => rfl⟩
    | remediate wrote =>
      obtain ⟨_, _, _, action, _, rfl⟩ := wrote
      refine ⟨_, credited_nothing (.update (fun r => ⟨.refl r, rfl⟩) fun r => ?_) (List.map_id _).symm
        fun _ => rfl⟩
      exact ⟨⟨rfl, rfl, rfl, Nat.le_succ _, .kept⟩, rfl⟩
    | recordOutcome wrote =>
      obtain ⟨_, _, _, _, rfl⟩ := wrote
      exact ⟨_, credited_nothing kept (List.map_id _).symm fun _ => rfl⟩
    | consolidate => exact absurd ⟨_, _, rfl⟩ consolidates
    | retire =>
      refine ⟨_, credited_nothing (.update (fun r => ⟨.refl r, rfl⟩) fun r => ?_) (List.map_id _).symm
        fun _ => rfl⟩
      exact ⟨.superseded r, rfl⟩
    | expire => exact ⟨_, credited_nothing kept rfl fun _ => rfl⟩

lemma run_evidenced (adm : start.Admitted) (empty : start.proceduralMemory = []) :
    Evidenced cfg start ops (Run.run (step cfg) start ops) := by
  induction ops using List.reverseRecOn with
  | nil =>
    have shelf : ∀ k, shelfOf k start = ⟨[], []⟩ := by
      intro k
      simp [shelfOf, empty, Named]
    constructor
    case admitted => exact adm
    case once => intro k; rw [Run.run_nil, shelf]; exact List.nodup_nil
    all_goals
      rw [Run.run_nil, empty]
      exact List.forall_mem_nil _
  | append_singleton ops op ih =>
    obtain ⟨credit, credited⟩ := @step_credited cfg _ op ih.admitted ih.steps
    rw [Run.run_append]
    exact ih.step (step_admitted ih.admitted) credited

lemma supporters_nodup {r} (hr : r ∈ db.proceduralMemory) (n : OfName k r)
    (once : (shelfOf k db).incidents.Nodup) : (supporters r.runbookId db).Nodup := by
  refine once.sublist (List.Sublist.map _ (List.monotone_filter_right _ ?_))
  intro p sel
  exact decide_eq_true ⟨r, hr, n, (of_decide_eq_true sel).1.symm⟩

/-- An incident is recorded for one version of a name, by one row. -/
lemma recorded_once (adm : db.Admitted) (once : ∀ k, (shelfOf k db).incidents.Nodup)
    {p q : RunbookProvenance} {r s : Runbook} (hp : p ∈ db.runbookProvenance)
    (hq : q ∈ db.runbookProvenance) (hr : r ∈ db.proceduralMemory) (hs : s ∈ db.proceduralMemory)
    (er : p.runbookId = r.runbookId) (es : q.runbookId = s.runbookId) (nr : OfName k r)
    (ns : OfName k s) (incident : p.incidentId = q.incidentId) : r = s ∧ p = q := by
  have same : p = q := by
    apply List.inj_on_of_nodup_map (once k) _ _ incident
    · exact List.mem_filter.mpr ⟨hp, decide_eq_true ⟨r, hr, nr, er.symm⟩⟩
    · exact List.mem_filter.mpr ⟨hq, decide_eq_true ⟨s, hs, ns, es.symm⟩⟩
  refine ⟨adm.runbooks.eq hr hs ?_, same⟩
  rw [← er, ← es, same]

end evidence

/-- What a counterexample does to a version: it activates none, and deprecates only where the failures
reach the successes. -/
structure NotPromoted (r r' : Runbook) : Prop where
  runbookId : r'.runbookId = r.runbookId
  active : r'.status = .active → r.status = .active
  deprecated : r'.status = r.status ∨ r'.successCount ≤ r'.failureCount

/-- A counterexample creates no version, activates none and supersedes none. -/
lemma Applied.notPromoted {rt activation c i g} {db db' : Database} {m : RunbookMutation}
    (applied : Applied rt activation c i g db db' m) (failed : c.outcome ≠ .success) :
    m.operation ≠ .create ∧
      Evolves NotPromoted (fun _ => False) db.proceduralMemory db'.proceduralMemory := by
  have kept : ∀ r, NotPromoted r r := fun r => ⟨rfl, id, .inl rfl⟩
  cases applied with
  | replay => exact ⟨nofun, .refl kept⟩
  | ignored => exact ⟨nofun, .refl kept⟩
  | weaken =>
    refine ⟨nofun, .update kept fun r => ?_⟩
    by_cases enough : r.failureCount + 1 ≥ r.successCount
    · have status : (weakened g.now r).status = .deprecated := if_pos enough
      exact ⟨rfl, fun active => (by cases status.symm.trans active), .inr enough⟩
    · have status : (weakened g.now r).status = r.status := if_neg enough
      exact ⟨rfl, fun active => status.symm.trans active, .inl status⟩
  | create _ _ success => exact absurd success failed
  | reinforce _ _ success => exact absurd success failed

/-- The guard against poisoning. From a database without runbooks, a version is active only with enough
distinct incidents recorded for it, each applied as a success with its steps; an incident is recorded
for one version of a name; and a counterexample creates, activates and supersedes nothing. -/
theorem poisoning_guard (cfg : Config) (start : Database) (adm : start.Admitted)
    (empty : start.proceduralMemory = []) (ops : List Op) :
    let db := Run.run (step cfg) start ops
    (∀ r ∈ db.proceduralMemory, r.status = .active → ∃ xs : List Uuid, xs.Nodup ∧
      cfg.activation.reinforcements + 1 ≤ xs.length ∧ ∀ x ∈ xs,
        (∃ p ∈ db.runbookProvenance, p.runbookId = r.runbookId ∧ p.incidentId = x ∧
          (p.role = .source ∨ p.role = .reinforcement)) ∧
        ∃ before op after, ops = before ++ op :: after ∧
          Credits cfg (Run.run (step cfg) start before) op r x) ∧
    (∀ p ∈ db.runbookProvenance, ∀ q ∈ db.runbookProvenance, ∀ r ∈ db.proceduralMemory,
      ∀ s ∈ db.proceduralMemory, p.runbookId = r.runbookId → q.runbookId = s.runbookId →
      (r.orgId, r.agentId, r.name) = (s.orgId, s.agentId, s.name) → p.incidentId = q.incidentId →
      r = s ∧ p = q) ∧
    ∀ c g db' m, apply cfg.rt cfg.activation c g db = .ok (db', m) → c.outcome ≠ .success →
      m.operation ≠ .create ∧
        Evolves NotPromoted (fun _ => False) db.proceduralMemory db'.proceduralMemory := by
  intro db
  have evidence := @run_evidenced cfg start ops adm empty
  refine ⟨fun r hr active => ?_, ?_, ?_⟩
  · have name : OfName ⟨r.orgId, r.agentId, r.name⟩ r := ⟨rfl, rfl, rfl⟩
    refine ⟨supporters r.runbookId db, supporters_nodup hr name (evidence.once _), ?_, fun x hx => ?_⟩
    · rw [evidence.counts r hr]
      have sound := @run_sound cfg start ops (by rw [empty]; nofun) r hr
      exact sound.proven active
    · obtain ⟨p, hp, id, role, e⟩ := mem_supporters.mp hx
      refine ⟨⟨p, hp, id, e, ?_⟩, evidence.credited r hr x hx⟩
      cases er : p.role with
      | source => exact .inl rfl
      | reinforcement => exact .inr rfl
      | counterexample => exact absurd er role
  · intro p hp q hq r hr s hs er es names incident
    have name : OfName ⟨r.orgId, r.agentId, r.name⟩ s := by
      simp only [Prod.mk.injEq] at names
      obtain ⟨o, a, n⟩ := names
      exact ⟨o.symm, a.symm, n.symm⟩
    exact recorded_once evidence.admitted evidence.once hp hq hr hs er es ⟨rfl, rfl, rfl⟩ name incident
  · intro c g db' m returned failed
    obtain ⟨i, _, applied⟩ := apply_spec returned
    exact Applied.notPromoted applied failed

/-- `poisoning_guard` on three consolidated incidents, which activate the runbook. -/
theorem poisoning_guard_sample :
    let db := Run.run (step Sample.config) Sample.busy
      [.consolidate (Sample.candidate 0) ⟨0, .sample 0 2⟩,
        .consolidate (Sample.candidate 1) ⟨1, .sample 1 2⟩,
        .consolidate (Sample.candidate 2) ⟨2, .sample 2 2⟩]
    (∃ r ∈ db.proceduralMemory, r.status = .active) ∧
      ∀ r ∈ db.proceduralMemory, r.status = .active → ∃ xs : List Uuid, xs.Nodup ∧ 3 ≤ xs.length := by
  refine ⟨by decide +kernel, fun r hr active => ?_⟩
  obtain ⟨xs, nodup, enough, _⟩ := (poisoning_guard Sample.config Sample.busy Sample.busy_admitted rfl
    [.consolidate (Sample.candidate 0) ⟨0, .sample 0 2⟩,
      .consolidate (Sample.candidate 1) ⟨1, .sample 1 2⟩,
      .consolidate (Sample.candidate 2) ⟨2, .sample 2 2⟩]).1 r hr active
  exact ⟨xs, nodup, enough⟩

end Postmortem
