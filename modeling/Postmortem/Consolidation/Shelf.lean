import Postmortem.System

/-!
# Shelves

What consolidation keeps for one name, without the identifiers and times the database generates: the
versions of the runbook in order and the incidents that count for one of them. `Shelf.apply` is a
consolidated candidate on a shelf. `Applied.shelf` and `Applied.operation` say that a call of
`CockroachRunbookRepository.apply` that returns is `Shelf.apply` on the shelf of the candidate's name
and changes no other shelf, so results about sequences of calls are proved on shelves.
-/

namespace Postmortem

open CockroachRunbookRepository

/-- The organization, agent and name of a runbook. -/
structure RunbookName where
  org : Uuid
  agent : Uuid
  name : String
deriving DecidableEq

/-- The row is a version of the name. -/
def OfName (k : RunbookName) (r : Runbook) : Prop :=
  r.orgId = k.org ∧ r.agentId = k.agent ∧ r.name = k.name

instance (k : RunbookName) (r : Runbook) : Decidable (OfName k r) :=
  inferInstanceAs (Decidable (_ ∧ _ ∧ _))

/-- The identifier is that of a version of the name. -/
def Named (k : RunbookName) (rows : List Runbook) (id : Uuid) : Prop :=
  ∃ r ∈ rows, OfName k r ∧ r.runbookId = id

instance (k : RunbookName) (rows : List Runbook) (id : Uuid) : Decidable (Named k rows id) :=
  inferInstanceAs (Decidable (∃ r ∈ rows, _))

/-- The name a candidate with these identifiers is applied to. -/
def CandidateRunbook.nameWith (c : CandidateRunbook) (i : Ids) : RunbookName := ⟨i.org, i.agent, c.name⟩

/-- The name a candidate is applied to. -/
def candidateName? (c : CandidateRunbook) : Option RunbookName := (ids? c).map c.nameWith

/-- The key of a name in texts. -/
def RunbookName.key (k : RunbookName) : RunbookKey := (k.org.text, k.agent.text, k.name)

lemma text_of_ids? {c : CandidateRunbook} {i : Ids} (h : ids? c = some i) :
    i.org.text = c.orgId ∧ i.agent.text = c.agentId ∧ i.incident.text = c.incidentId := by
  unfold ids? at h
  split at h
  case h_1 org agent incident eo ea ei =>
    cases h
    exact ⟨Uuid.text_of_ofText? eo, Uuid.text_of_ofText? ea, Uuid.text_of_ofText? ei⟩
  case h_2 => cases h

lemma key_iff {c : CandidateRunbook} {i : Ids} {k : RunbookName} (h : ids? c = some i) : c.key = k.key ↔ c.nameWith i = k := by
  obtain ⟨o, a, _⟩ := text_of_ids? h
  obtain ⟨org, agent, name⟩ := k
  simp only [CandidateRunbook.key, RunbookName.key, CandidateRunbook.nameWith, ← o, ← a,
    Prod.mk.injEq, RunbookName.mk.injEq, ← Uuid.ext_iff]

/-- A row without what the database generates. -/
def Runbook.face (r : Runbook) : Runbook :=
  { r with runbookId := .nil, lastUsedAt := none, createdAt := 0 }

/-- What consolidation keeps for a name. -/
structure Shelf where
  versions : List Runbook := []
  incidents : List Uuid := []
deriving DecidableEq

/-- The shelf of a name. -/
def shelfOf (k : RunbookName) (db : Database) : Shelf where
  versions := (db.proceduralMemory.filter fun r => OfName k r).map Runbook.face
  incidents := (db.runbookProvenance.filter fun p =>
    Named k db.proceduralMemory p.runbookId).map (·.incidentId)

namespace Shelf

variable (rt : Runtime) (activation : Activation) (c : CandidateRunbook) (i : Ids) (s : Shelf)

/-- The newest version. -/
def newest : Option Runbook := Table.first (fun r s => s.version ≤ r.version) s.versions

/-- The stored steps are the candidate's. -/
def sameSteps (r : Runbook) : Bool :=
  match existingSteps rt r with
  | .ok steps => Json.pyEq steps (.arr c.steps)
  | .error _ => false

/-- A version as `created` makes it. -/
def fresh (prior : Option Runbook) : Runbook :=
  (created rt c i (nextVersion prior) ⟨0, .nil⟩).face

/-- Change the version with the number of `r`. -/
def change (r : Runbook) (f : Runbook → Runbook) (versions : List Runbook) : List Runbook :=
  Table.update (fun s => s.version = r.version) (fun s => (f s).face) versions

/-- The versions once the newest one, if any, is superseded. -/
def superseding (versions : List Runbook) : Option Runbook → List Runbook
  | some r => change r superseded versions
  | none => versions

/-- The candidate counts for the shelf. -/
def counted (versions : List Runbook) : Shelf := ⟨versions, s.incidents ++ [i.incident]⟩

/-- A consolidated candidate. -/
def apply : Shelf × Operation :=
  if i.incident ∈ s.incidents then (s, .noop)
  else
    match s.newest with
    | none =>
      if c.outcome ≠ .success then (s, .ignoredCounterexample)
      else (counted i s (s.versions ++ [fresh rt c i none]), .create)
    | some r =>
      if c.outcome ≠ .success then (counted i s (change r (weakened 0) s.versions), .weaken)
      else if ¬ sameSteps rt c r then
        (counted i s (superseding s.versions (some r) ++ [fresh rt c i (some r)]), .create)
      else (counted i s (change r (reinforced activation 0) s.versions), .reinforce)

end Shelf

lemma Shelf.apply_noop {rt activation c i s' o} {s : Shelf}
    (h : s.apply rt activation c i = (s', o)) : o = .noop ↔ i.incident ∈ s.incidents := by
  unfold Shelf.apply at h
  split at h
  case isTrue counts =>
    cases h
    exact iff_of_true rfl counts
  case isFalse counts =>
    refine iff_of_false ?_ counts
    rintro rfl
    split at h
    case h_1 => split at h <;> cases h
    case h_2 =>
      split at h
      case isTrue => cases h
      case isFalse => split at h <;> cases h

/-- Changing the newest version leaves it the newest. -/
lemma Shelf.newest_change {r f incidents} {s : Shelf} (h : s.newest = some r)
    (same : ∀ r : Runbook, (f r).version = r.version) :
    (Shelf.mk (change r f s.versions) incidents).newest = some (f r).face := by
  have image := @Table.first_map Runbook Runbook s.versions
    (fun s => if decide (s.version = r.version) = true then (f s).face else s)
    (fun r s => s.version ≤ r.version) _ (fun r s => s.version ≤ r.version) _ ?order
  case order =>
    have keep : ∀ s : Runbook,
        (if decide (s.version = r.version) = true then (f s).face else s).version = s.version := by
      intro s
      split
      · exact same s
      · rfl
    intro a b
    rw [keep, keep]
  have e : (Shelf.mk (change r f s.versions) incidents).newest = s.newest.map _ := image
  rw [e, h]
  simp

/-- A version with the next number is the newest. -/
lemma Shelf.newest_fresh {rt c i prior incidents} {s : Shelf} (h : s.newest = prior) :
    (Shelf.mk (superseding s.versions prior ++ [fresh rt c i prior]) incidents).newest =
      some (fresh rt c i prior) := by
  apply Table.first_of_lt (List.mem_append_right _ (List.mem_singleton_self _))
  intro b hb le
  obtain old | new := List.mem_append.mp hb
  · exfalso
    have bound : b.version < nextVersion prior := by
      cases prior with
      | none =>
        rw [superseding, Table.first_eq_none.mp h] at old
        cases old
      | some r =>
        obtain ⟨b0, hb0, rfl⟩ := Table.mem_update.mp old
        have le := Table.first_le h b0 hb0
        apply Nat.lt_succ_of_le
        split
        · exact le
        · exact le
    exact Nat.not_le_of_lt bound le
  · exact List.mem_singleton.mp new

/-! ## The database as shelves -/

section shelves

variable {rt : Runtime} {activation : Activation} {c : CandidateRunbook} {i : Ids}
  {g : GeneratedRunbook} {db db' : Database} {m : RunbookMutation} {k : RunbookName}

lemma newest_shelfOf :
    (shelfOf (c.nameWith i) db).newest = (latest? i c.name db).map Runbook.face := by
  apply Table.first_map
  intro r s
  rfl

lemma mem_incidents :
    i.incident ∈ (shelfOf (c.nameWith i) db).incidents ↔ replayed? i c.name db ≠ none := by
  rw [Ne, replayed?, List.find?_eq_none]
  constructor
  · intro h no
    obtain ⟨p, hp, e⟩ := List.mem_map.mp h
    obtain ⟨hp, sel⟩ := List.mem_filter.mp hp
    obtain ⟨r, hr, is, er⟩ := of_decide_eq_true sel
    have mem : r ∈ versionsOf i c.name db := List.mem_filter.mpr ⟨hr, decide_eq_true is⟩
    exact no r mem (decide_eq_true ⟨p, hp, er.symm, e⟩)
  · intro no
    by_contra h
    apply no
    intro r hr cited
    obtain ⟨hr, is⟩ := List.mem_filter.mp hr
    obtain ⟨p, hp, er, e⟩ := of_decide_eq_true cited
    apply h
    apply List.mem_map.mpr
    refine ⟨p, List.mem_filter.mpr ⟨hp, ?_⟩, e⟩
    exact decide_eq_true ⟨r, hr, of_decide_eq_true is, er.symm⟩

/-- Two versions of a name with one number are one row. -/
lemma OfName.eq_of_version {r s} (adm : db.Admitted) (hr : r ∈ db.proceduralMemory)
    (hs : s ∈ db.proceduralMemory) (nr : OfName k r) (ns : OfName k s)
    (e : r.version = s.version) : r = s := by
  apply adm.versions.eq hr hs
  obtain ⟨o, a, n⟩ := nr
  obtain ⟨o', a', n'⟩ := ns
  simp only [Prod.mk.injEq]
  exact ⟨o.trans o'.symm, a.trans a'.symm, n.trans n'.symm, e⟩

/-- The versions of a name after an update of one row. -/
lemma versions_updateRunbook {f r} (adm : db.Admitted) (up : RunbookUpdate f)
    (face : ∀ r, (f r).face = (f r.face).face) (hr : r ∈ db.proceduralMemory) :
    ((updateRunbook r.runbookId f db.proceduralMemory).filter fun r => OfName k r).map Runbook.face =
      if OfName k r then Shelf.change r f (shelfOf k db).versions else (shelfOf k db).versions := by
  have keep : ∀ s ∈ db.proceduralMemory, decide (OfName k (f s)) = decide (OfName k s) := by
    intro s _
    have e := up.key s
    simp only [Prod.mk.injEq] at e
    obtain ⟨o, a, n, _⟩ := e
    exact decide_eq_decide.mpr (by simp only [OfName, o, a, n])
  rw [updateRunbook, Table.filter_update keep]
  split
  case isTrue nr =>
    apply Table.update_map
    · intro s hs
      obtain ⟨hs, ns⟩ := List.mem_filter.mp hs
      have ns := of_decide_eq_true ns
      apply decide_eq_decide.mpr
      constructor
      · intro e
        rw [OfName.eq_of_version adm hs hr ns nr e]
      · intro e
        rw [adm.runbooks.eq hs hr e]
        rfl
    · intro s _ _
      exact face s
  case isFalse nr =>
    rw [Table.update_eq_self]
    · rfl
    · intro s hs
      obtain ⟨hs, ns⟩ := List.mem_filter.mp hs
      apply decide_eq_false
      intro e
      apply nr
      rw [← adm.runbooks.eq hs hr e]
      exact of_decide_eq_true ns

lemma named_updateRunbook {f id x} {rows : List Runbook} (up : RunbookUpdate f) :
    Named k (updateRunbook id f rows) x ↔ Named k rows x := by
  have same : ∀ r : Runbook, OfName k (f r) ↔ OfName k r := by
    intro r
    have e := up.key r
    simp only [Prod.mk.injEq] at e
    obtain ⟨o, a, n, _⟩ := e
    simp only [OfName, o, a, n]
  constructor
  · rintro ⟨_, hr, nr, e⟩
    obtain ⟨r, hr0, rfl⟩ := Table.mem_update.mp hr
    by_cases sel : decide (r.runbookId = id) = true
    · rw [if_pos sel] at nr e
      exact ⟨r, hr0, (same r).mp nr, (up.runbookId r).symm.trans e⟩
    · rw [if_neg sel] at nr e
      exact ⟨r, hr0, nr, e⟩
  · rintro ⟨r, hr, nr, e⟩
    refine ⟨_, Table.mem_update.mpr ⟨r, hr, rfl⟩, ?_⟩
    split
    · exact ⟨(same r).mpr nr, (up.runbookId r).trans e⟩
    · exact ⟨nr, e⟩

lemma named_append {r x} {rows : List Runbook} :
    Named k (rows ++ [r]) x ↔ Named k rows x ∨ OfName k r ∧ r.runbookId = x := by
  simp [Named, or_and_right, exists_or]

lemma named_iff {r} (adm : db.Admitted) (hr : r ∈ db.proceduralMemory) :
    Named k db.proceduralMemory r.runbookId ↔ OfName k r := by
  constructor
  · rintro ⟨s, hs, ns, e⟩
    rw [← adm.runbooks.eq hs hr e]
    exact ns
  · intro nr
    exact ⟨r, hr, nr, rfl⟩

/-- The incidents of a name once a call has written its provenance row. -/
lemma incidents_written {id event role rows} {n : Prop} [Decidable n]
    (old : ∀ p ∈ db.runbookProvenance,
      Named k rows p.runbookId ↔ Named k db.proceduralMemory p.runbookId)
    (new : Named k rows id ↔ n) :
    (shelfOf k (written i g id event role rows db)).incidents =
      if n then (shelfOf k db).incidents ++ [i.incident] else (shelfOf k db).incidents := by
  have filtered : (db.runbookProvenance.filter fun p => Named k rows p.runbookId) =
      db.runbookProvenance.filter fun p => Named k db.proceduralMemory p.runbookId :=
    List.filter_congr fun p hp => decide_eq_decide.mpr (old p hp)
  show (List.filter (fun p => Named k rows p.runbookId) (db.runbookProvenance ++ _)).map _ = _
  have row : (provenanceRow i g id event role).runbookId = id := rfl
  rw [Table.filter_insert, filtered, row]
  by_cases h : n
  · rw [if_pos h, if_pos (decide_eq_true (new.mpr h)), List.map_append]
    rfl
  · rw [if_neg h, if_neg fun e => h (new.mp (of_decide_eq_true e))]
    rfl

/-- A version of the candidate's name is of a name exactly where the names are one. -/
lemma ofName_nameWith {r} (is : IsVersion i c.name r) : OfName k r ↔ c.nameWith i = k := by
  obtain ⟨o, a, n⟩ := is
  constructor
  · rintro ⟨o', a', n'⟩
    rw [CandidateRunbook.nameWith, ← o, ← a, ← n, o', a', n']
  · rintro rfl
    exact ⟨o, a, n⟩

/-- The shelves once a branch has updated a version of the candidate's name. -/
lemma shelfOf_updated {f r event role} (adm : db.Admitted) (up : RunbookUpdate f)
    (face : ∀ r, (f r).face = (f r.face).face) (hr : r ∈ db.proceduralMemory)
    (is : IsVersion i c.name r) :
    shelfOf k (written i g r.runbookId event role (updateRunbook r.runbookId f db.proceduralMemory) db) =
      if c.nameWith i = k then
        Shelf.counted i (shelfOf k db) (Shelf.change r f (shelfOf k db).versions)
      else shelfOf k db := by
  have versions := versions_updateRunbook (k := k) adm up face hr
  have incidents := @incidents_written i g db k r.runbookId event role
    (updateRunbook r.runbookId f db.proceduralMemory) (OfName k r) _
    (fun p _ => named_updateRunbook up) ((named_updateRunbook up).trans (named_iff adm hr))
  simp only [ofName_nameWith is] at versions incidents
  split
  case isTrue e =>
    rw [if_pos e] at versions incidents
    exact congrArg₂ Shelf.mk versions incidents
  case isFalse e =>
    rw [if_neg e] at versions incidents
    exact congrArg₂ Shelf.mk versions incidents

/-- The shelves once a branch has created a version of the candidate's name. -/
lemma shelfOf_created {prior event} (adm : db.Admitted) (hl : latest? i c.name db = prior)
    (unused : ∀ r ∈ db.proceduralMemory, r.runbookId ≠ g.runbookId) :
    shelfOf k (written i g g.runbookId event .source
        (supersede prior db.proceduralMemory ++ [created rt c i (nextVersion prior) g]) db) =
      if c.nameWith i = k then
        Shelf.counted i (shelfOf k db)
          (Shelf.superseding (shelfOf k db).versions (prior.map Runbook.face) ++
            [Shelf.fresh rt c i (prior.map Runbook.face)])
      else shelfOf k db := by
  have new : OfName k (created rt c i (nextVersion prior) g) ↔ c.nameWith i = k :=
    ofName_nameWith ⟨rfl, rfl, rfl⟩
  have rows : ∀ x, Named k (supersede prior db.proceduralMemory) x ↔ Named k db.proceduralMemory x := by
    intro x
    cases prior with
    | none => exact Iff.rfl
    | some r => exact named_updateRunbook superseded_update
  have incidents := @incidents_written i g db k g.runbookId event .source
    (supersede prior db.proceduralMemory ++ [created rt c i (nextVersion prior) g])
    (c.nameWith i = k) _ ?old ?here
  case old =>
    intro p hp
    obtain ⟨q, hq, e⟩ := adm.provenanceRunbook p hp
    have ne : ¬ g.runbookId = p.runbookId := fun h => unused q hq (e.trans h.symm)
    rw [named_append, rows]
    exact or_iff_left fun h => ne h.2
  case here =>
    have none : ¬ Named k db.proceduralMemory g.runbookId := by
      rintro ⟨r, hr, _, e⟩
      exact unused r hr e
    rw [named_append, rows, or_iff_right none, new]
    exact and_iff_left rfl
  have old : ((supersede prior db.proceduralMemory).filter fun r => OfName k r).map Runbook.face =
      if c.nameWith i = k then
        Shelf.superseding (shelfOf k db).versions (prior.map Runbook.face)
      else (shelfOf k db).versions := by
    cases prior with
    | none => simp [supersede, Shelf.superseding, shelfOf]
    | some r =>
      obtain ⟨hr, is⟩ := latest?_mem hl
      have e := versions_updateRunbook (k := k) adm superseded_update (fun _ => rfl) hr
      simp only [ofName_nameWith is] at e
      exact e
  have versions : ((supersede prior db.proceduralMemory ++ [created rt c i (nextVersion prior) g]).filter
      fun r => OfName k r).map Runbook.face =
      if c.nameWith i = k then
        Shelf.superseding (shelfOf k db).versions (prior.map Runbook.face) ++
          [Shelf.fresh rt c i (prior.map Runbook.face)]
      else (shelfOf k db).versions := by
    rw [Table.filter_insert]
    by_cases e : c.nameWith i = k
    · rw [if_pos e] at old ⊢
      rw [if_pos (decide_eq_true (new.mpr e)), List.map_append, old]
      cases prior <;> rfl
    · rw [if_neg e] at old ⊢
      rw [if_neg fun h => e (new.mp (of_decide_eq_true h)), old]
  split
  case isTrue e =>
    rw [if_pos e] at versions incidents
    exact congrArg₂ Shelf.mk versions incidents
  case isFalse e =>
    rw [if_neg e] at versions incidents
    exact congrArg₂ Shelf.mk versions incidents

/-- The stored steps are the candidate's, of a row and of its face. -/
lemma sameSteps_iff {r} : Shelf.sameSteps rt c r.face = true ↔
    ∃ steps, existingSteps rt r = .ok steps ∧ Json.pyEq steps (.arr c.steps) = true := by
  have face : existingSteps rt r.face = existingSteps rt r := rfl
  rw [Shelf.sameSteps, face]
  cases existingSteps rt r with
  | error => simp
  | ok steps => simp

/-- A call that returns is `Shelf.apply` on the shelf of the candidate's name. -/
lemma Applied.onShelf (adm : db.Admitted) (applied : Applied rt activation c i g db db' m) :
    ∃ s, (shelfOf (c.nameWith i) db).apply rt activation c i = (s, m.operation) ∧
      ∀ k, shelfOf k db' = if c.nameWith i = k then s else shelfOf k db := by
  have newest := @newest_shelfOf c i db
  have counts := @mem_incidents c i db
  have shelf : ∀ {s : RunbookName → Shelf},
      (∀ k, shelfOf k db' = if c.nameWith i = k then s k else shelfOf k db) →
      ∀ k, shelfOf k db' = if c.nameWith i = k then s (c.nameWith i) else shelfOf k db := by
    intro s h k
    rw [h k]
    split
    case isTrue e => rw [e]
    case isFalse => rfl
  cases applied with
  | @replay r hr =>
    refine ⟨shelfOf (c.nameWith i) db, ?_, shelf fun k => (ite_self _).symm⟩
    rw [Shelf.apply, if_pos (counts.mpr (by simp [hr]))]
    rfl
  | ignored nr hl ns =>
    refine ⟨shelfOf (c.nameWith i) db, ?_, shelf fun k => (ite_self _).symm⟩
    rw [Shelf.apply, if_neg fun h => counts.mp h nr, newest, hl]
    exact if_pos ns
  | @weaken r event nr hl ns src =>
    obtain ⟨hr, is⟩ := latest?_mem hl
    refine ⟨_, ?_, shelf fun k => shelfOf_updated adm weakened_update (fun _ => rfl) hr is⟩
    rw [Shelf.apply, if_neg fun h => counts.mp h nr, newest, hl]
    exact if_pos ns
  | @create prior event nr hl s ne len org unused src =>
    refine ⟨_, ?_, shelf fun k => shelfOf_created adm hl unused⟩
    rw [Shelf.apply, if_neg fun h => counts.mp h nr, newest, hl]
    cases prior with
    | none => exact if_neg (not_not.mpr s)
    | some r =>
      have differ : ¬ Shelf.sameSteps rt c r.face = true := by
        obtain ⟨steps, e, ne⟩ := ne r rfl
        rw [sameSteps_iff, e]
        rintro ⟨_, ⟨⟩, eq⟩
        rw [ne] at eq
        cases eq
      exact (if_neg (not_not.mpr s)).trans (if_pos differ)
  | @reinforce r event steps nr hl s e eq src =>
    obtain ⟨hr, is⟩ := latest?_mem hl
    refine ⟨_, ?_, shelf fun k => shelfOf_updated adm reinforced_update (fun _ => rfl) hr is⟩
    rw [Shelf.apply, if_neg fun h => counts.mp h nr, newest, hl]
    have same : Shelf.sameSteps rt c r.face = true := sameSteps_iff.mpr ⟨steps, e, eq⟩
    exact (if_neg (not_not.mpr s)).trans (if_neg (not_not.mpr same))

end shelves

namespace Sample

/-- An open incident on the service. -/
def incidentNumbered (n : Fin 16) : Incident :=
  ⟨.sample n 1, org, service, .open, none, 0, none, none⟩

/-- The organization with seven open incidents. -/
def busy : Database := { db with incidents := (List.range 7).map fun n => incidentNumbered (Fin.ofNat 16 n) }

def runbook : RunbookName := ⟨org, agent, "checkout-rollback"⟩

def steps : List Json := [.obj [("order", .int 1), ("action", .str "rollback_deploy")]]

/-- A successful incident of the runbook. -/
def candidate (n : Fin 16) : CandidateRunbook where
  orgId := org.text
  agentId := agent.text
  incidentId := (incidentNumbered n).incidentId.text
  serviceId := service.text
  name := runbook.name
  triggerDesc := "errors since v2"
  steps := steps
  preconditions := []
  postconditions := []
  serviceTags := []
  errorSignatures := []
  outcome := .success
  sourceEventIds := [memory.text]
  embedding := embedding

lemma busy_admitted : busy.Admitted := by
  constructor
  case incidents =>
    show (busy.incidents.map Incident.incidentId).Nodup
    decide +kernel
  all_goals simp [busy, db, observation, incidentNumbered, Table.Unique, References]

end Sample

end Postmortem
