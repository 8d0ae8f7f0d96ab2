import Postmortem.Consolidation.Shelf

/-!
# The in-memory repository and the database

`InMemoryRunbookRepository` remembers the key of every group it applied; `CockroachRunbookRepository`
takes an incident with a provenance row at a version of the name for an applied one. On a sequence in
which the two agree on what was applied before, every call reports the same operation and leaves the
same newest version of every name (`simulates`); `Simulated` is the relation between the two states
that the calls keep.
-/

namespace Postmortem

open CockroachRunbookRepository

/-- One application of a group, with what the database generates for it. -/
structure Application where
  group : EpisodeGroup
  candidate : CandidateRunbook
  generated : GeneratedRunbook

/-- The call in memory. -/
def applyInMemory (rt : Runtime) (activation : Activation) (s : InMemoryRunbookRepository)
    (a : Application) : InMemoryRunbookRepository × Except Raised RunbookMutation :=
  InMemoryRunbookRepository.apply rt activation s a.candidate (a.group.idempotencyKey rt)

/-- The call in the database. -/
def applyInDatabase (rt : Runtime) (activation : Activation) (db : Database) (a : Application) :
    Database × Except Raised RunbookMutation :=
  match apply rt activation a.candidate a.generated db with
  | .ok (db', m) => (db', .ok m)
  | .error e => (db, .error e)

/-- The version, the status and the counts. -/
abbrev VersionState := Nat × RunbookStatus × Nat × Nat

/-- The newest version of a name in memory. -/
def InMemoryRunbookRepository.standing (s : InMemoryRunbookRepository) (k : RunbookName) :
    Option VersionState :=
  (s.versions k.key).getLast?.map fun r => (r.version, r.status, r.successCount, r.failureCount)

/-- The newest version of a name in the database. -/
def Database.standing (db : Database) (k : RunbookName) : Option VersionState :=
  (Table.first (fun r s => s.version ≤ r.version)
    (db.proceduralMemory.filter fun r => OfName k r)).map fun r =>
      (r.version, r.status, r.successCount, r.failureCount)

/-- The operation a call reports. -/
def reported : Except Raised RunbookMutation → Option Operation
  | .ok m => some m.operation
  | .error _ => none

section simulation

variable (rt : Runtime) (activation : Activation)

/-- The state in memory after a sequence of applications. -/
def inMemory (calls : List Application) : InMemoryRunbookRepository :=
  Run.run (fun s a => (applyInMemory rt activation s a).1) {} calls

/-- The state of the database after a sequence of applications. -/
def inDatabase (db : Database) (calls : List Application) : Database :=
  Run.run (fun db a => (applyInDatabase rt activation db a).1) db calls

/-- Both repositories report the same operation for every call and hold the same newest version of
every name after it. -/
def Simulates (db : Database) (calls : List Application) : Prop :=
  ∀ pre a post, calls = pre ++ a :: post →
    (∃ o, reported (applyInMemory rt activation (inMemory rt activation pre) a).2 = some o ∧
      reported (applyInDatabase rt activation (inDatabase rt activation db pre) a).2 = some o) ∧
    ∀ k, (inMemory rt activation (pre ++ [a])).standing k =
      (inDatabase rt activation db (pre ++ [a])).standing k

end simulation

/-- The call is not an ignored counterexample: a success, or one after a success of the name. -/
def Effective (pre : List Application) (a : Application) : Prop :=
  a.candidate.outcome = .success ∨
    ∃ b ∈ pre, b.candidate.key = a.candidate.key ∧ b.candidate.outcome = .success

/-- An earlier call that was not ignored had the name and the incident. -/
def Consolidated (pre : List Application) (key : RunbookKey) (incident : String) : Prop :=
  ∃ before b after, pre = before ++ b :: after ∧ b.candidate.key = key ∧
    b.candidate.incidentId = incident ∧ Effective before b

/-- What the columns and the foreign keys of the database ask of a candidate. -/
structure Storable (db : Database) (c : CandidateRunbook) : Prop where
  ids : ∃ i, ids? c = some i ∧ i.org ∈ db.organizations ∧
    ∃ n ∈ db.incidents, n.incidentId = i.incident
  event : ∃ event, c.sourceEventIds.getLast? = some event.text ∧
    ∃ e ∈ db.episodicEvents, e.eventId = event
  embedding : c.embedding.length = 1024
  json : Json.storableList (c.steps ++ c.preconditions ++ c.postconditions) = true

/-- A new call adds what it consolidates. -/
lemma consolidated_concat {pre a key incident} : Consolidated (pre ++ [a]) key incident ↔
    Consolidated pre key incident ∨
      a.candidate.key = key ∧ a.candidate.incidentId = incident ∧ Effective pre a :=
  Run.split_concat (P := fun before (b : Application) => b.candidate.key = key ∧
    b.candidate.incidentId = incident ∧ Effective before b)

/-- Where an incident is consolidated for a name, some call of the name was a success. -/
lemma Consolidated.success {pre key incident} (h : Consolidated pre key incident) :
    ∃ b ∈ pre, b.candidate.key = key ∧ b.candidate.outcome = .success := by
  obtain ⟨before, b, after, rfl, rfl, _, success | ⟨d, hd, ed, sd⟩⟩ := h
  · exact ⟨b, by simp, rfl, success⟩
  · exact ⟨d, List.mem_append_left _ hd, ed, sd⟩

section calls

variable {rt : Runtime} {activation : Activation} {c : CandidateRunbook} {i : Ids}
  {g : GeneratedRunbook} {db db' : Database} {m : RunbookMutation} {k : RunbookName}

/-- The provenance row of a call that the replay check let through is accepted. -/
lemma finish_returns {role id rows} (st : Storable db c) (hi : ids? c = some i)
    (unused : ∀ p ∈ db.runbookProvenance, p.runbookId = id → p.incidentId ≠ i.incident) :
    ∃ db', finish c i g role m id rows db = .ok (db', m) := by
  obtain ⟨i', hi', _, incident⟩ := st.ids
  obtain rfl := Option.some.inj (hi.symm.trans hi')
  obtain ⟨event, last, episode⟩ := st.event
  have free : ¬ ∃ p ∈ db.runbookProvenance,
      (p.runbookId, p.incidentId, p.recordedAt) = (id, i.incident, g.now) := by
    rintro ⟨p, hp, e⟩
    simp only [Prod.mk.injEq] at e
    exact unused p hp e.1 e.2.1
  simp only [finish, recordProvenance, last, Uuid.ofText?_text, incident, episode, free,
    not_true_eq_false, if_false]
  exact ⟨_, rfl⟩

/-- A new version of a candidate that the database can store is written. -/
lemma create_returns {prior} (adm : db.Admitted) (st : Storable db c) (hi : ids? c = some i)
    (fresh : ∀ r ∈ db.proceduralMemory, r.runbookId ≠ g.runbookId) :
    ∃ db' m, create rt c i g prior db = .ok (db', m) := by
  obtain ⟨i', hi', org, _⟩ := st.ids
  obtain rfl := Option.some.inj (hi.symm.trans hi')
  have unused : ∀ p ∈ db.runbookProvenance, p.runbookId = g.runbookId → p.incidentId ≠ i.incident := by
    intro p hp e
    obtain ⟨r, hr, er⟩ := adm.provenanceRunbook p hp
    exact absurd (er.trans e) (fresh r hr)
  have new : ¬ ∃ r ∈ db.proceduralMemory, r.runbookId = g.runbookId := by
    rintro ⟨r, hr, e⟩
    exact fresh r hr e
  rw [create, if_neg (not_not.mpr st.embedding), if_neg (not_not.mpr st.json), if_neg (not_not.mpr org),
    if_neg new]
  obtain ⟨db', e⟩ := finish_returns (g := g) st hi unused
  exact ⟨db', _, e⟩

/-- The branches of a call that the database can store return. -/
lemma branch_returns (adm : db.Admitted) (st : Storable db c) (hi : ids? c = some i)
    (fresh : ∀ r ∈ db.proceduralMemory, r.runbookId ≠ g.runbookId)
    (decoded : ∀ r, latest? i c.name db = some r → ∃ l, r.steps = .arr l)
    (unused : ∀ r, latest? i c.name db = some r → ∀ p ∈ db.runbookProvenance,
      p.runbookId = r.runbookId → p.incidentId ≠ i.incident) :
    ∃ db' m, branch rt activation c i g db = .ok (db', m) := by
  unfold branch
  cases hl : latest? i c.name db with
  | none =>
    by_cases success : c.outcome = .success
    · simp only [if_neg (not_not.mpr success)]
      exact create_returns adm st hi fresh
    · simp only [if_pos success]
      exact ⟨_, _, rfl⟩
  | some r =>
    obtain ⟨l, el⟩ := decoded r hl
    have steps : existingSteps rt r = .ok (.arr l) := by rw [existingSteps, el]
    simp only [steps]
    by_cases success : c.outcome = .success
    · rw [if_neg (not_not.mpr success)]
      by_cases same : Json.pyEq (.arr l) (.arr c.steps) = true
      · rw [if_neg (not_not.mpr same)]
        obtain ⟨db', e⟩ := finish_returns (g := g) st hi (unused r hl)
        exact ⟨db', _, e⟩
      · rw [if_pos same]
        exact create_returns adm st hi fresh
    · rw [if_pos success]
      obtain ⟨db', e⟩ := finish_returns (g := g) st hi (unused r hl)
      exact ⟨db', _, e⟩

/-- A call that the database can store returns. -/
lemma apply_returns (adm : db.Admitted) (st : Storable db c)
    (fresh : ∀ r ∈ db.proceduralMemory, r.runbookId ≠ g.runbookId)
    (decoded : ∀ i r, ids? c = some i → latest? i c.name db = some r → ∃ l, r.steps = .arr l) :
    ∃ db' m, apply rt activation c g db = .ok (db', m) := by
  obtain ⟨i, hi, _⟩ := st.ids
  simp only [apply, hi]
  cases hr : replayed? i c.name db with
  | some r => exact ⟨_, _, rfl⟩
  | none =>
    apply branch_returns adm st hi fresh fun r => decoded i r hi
    intro r hl p hp e e'
    obtain ⟨hr', is⟩ := latest?_mem hl
    have mem : r ∈ versionsOf i c.name db := List.mem_filter.mpr ⟨hr', decide_eq_true is⟩
    exact List.find?_eq_none.mp hr r mem (decide_eq_true ⟨p, hp, e, e'⟩)

/-- The identifiers a call leaves are those that were there and the one it generates. -/
lemma Applied.runbookIds (applied : Applied rt activation c i g db db' m) :
    ∀ r ∈ db'.proceduralMemory, r.runbookId = g.runbookId ∨
      ∃ r0 ∈ db.proceduralMemory, r0.runbookId = r.runbookId := by
  have updated : ∀ {id f}, RunbookUpdate f → ∀ r ∈ updateRunbook id f db.proceduralMemory,
      r.runbookId = g.runbookId ∨ ∃ r0 ∈ db.proceduralMemory, r0.runbookId = r.runbookId := by
    intro id f up r hr
    obtain ⟨r0, hr0, rfl⟩ := Table.mem_update.mp hr
    refine .inr ⟨r0, hr0, ?_⟩
    split
    · exact (up.runbookId r0).symm
    · rfl
  cases applied with
  | replay => exact fun r hr => .inr ⟨r, hr, rfl⟩
  | ignored => exact fun r hr => .inr ⟨r, hr, rfl⟩
  | weaken => exact updated weakened_update
  | reinforce => exact updated reinforced_update
  | create =>
    intro r hr
    obtain hr | hr := List.mem_append.mp hr
    · obtain ⟨r0, hr0, e, _⟩ := mem_supersede hr
      exact .inr ⟨r0, hr0, e.symm⟩
    · obtain rfl := List.mem_singleton.mp hr
      exact .inl rfl

end calls

lemma InMemoryRunbookRepository.branch_operation {rt activation c n versions versions' m}
    (h : branch rt activation c n versions = .ok (versions', m)) : m.operation ≠ .noop := by
  unfold branch at h
  split at h
  case h_1 =>
    split at h
    case isTrue => cases h; nofun
    case isFalse =>
      split at h
      case isTrue => cases h
      case isFalse => cases h; nofun
  case h_2 =>
    split at h
    case isTrue => cases h; nofun
    case isFalse =>
      split at h
      case isTrue =>
        split at h
        case isTrue => cases h
        case isFalse => cases h; nofun
      case isFalse => cases h; nofun

/-! ## The relation -/

/-- A newest version in memory and one in the database that stand alike: a call of the sequence gave
one its hash and the other its steps. -/
inductive Match (rt : Runtime) (pre : List Application) : Option LocalRunbook → Option Runbook → Prop where
  | absent : Match rt pre none none
  | present {l r a} : a ∈ pre → l.version = r.version → l.status = r.status →
    l.successCount = r.successCount → l.failureCount = r.failureCount →
    l.stepsHash = a.candidate.stepsHash rt → r.steps = .arr a.candidate.steps →
    Match rt pre (some l) (some r)

/-- The states of the two repositories after the same calls. -/
structure Simulated (rt : Runtime) (pre : List Application) (s : InMemoryRunbookRepository)
    (db : Database) : Prop where
  admitted : db.Admitted
  processed : ∀ key, (Assoc.get s.processed key).isSome ↔
    key ∈ pre.map fun a => a.group.idempotencyKey rt
  newest : ∀ k, Match rt pre (s.versions k.key).getLast? (shelfOf k db).newest
  incidents : ∀ k x, x ∈ (shelfOf k db).incidents ↔ Consolidated pre k.key x.text
  started : ∀ k, (shelfOf k db).newest ≠ none ↔
    ∃ a ∈ pre, a.candidate.key = k.key ∧ a.candidate.outcome = .success
  generated : ∀ r ∈ db.proceduralMemory, r.runbookId ∈ pre.map fun a => a.generated.runbookId

/-- Matching versions stand alike. -/
lemma Match.standing {rt pre l r} (h : Match rt pre l r) :
    (l.map fun l => (l.version, l.status, l.successCount, l.failureCount)) =
      r.map fun r => (r.version, r.status, r.successCount, r.failureCount) := by
  cases h with
  | absent => rfl
  | present _ v st sc fc => simp [v, st, sc, fc]

lemma Match.mono {rt pre post l r} (h : Match rt pre l r) : Match rt (pre ++ post) l r := by
  cases h with
  | absent => exact .absent
  | present mem v st sc fc hash steps => exact .present (List.mem_append_left _ mem) v st sc fc hash steps

lemma standing_eq {db k} : db.standing k =
    (shelfOf k db).newest.map fun r => (r.version, r.status, r.successCount, r.failureCount) := by
  have e : (shelfOf k db).newest = (Table.first (fun r s : Runbook => s.version ≤ r.version)
      (db.proceduralMemory.filter fun r => OfName k r)).map Runbook.face :=
    Table.first_map fun _ _ => Iff.rfl
  rw [e, Option.map_map]
  rfl

lemma Simulated.standing {rt pre s db} (h : Simulated rt pre s db) (k) :
    s.standing k = db.standing k := by
  rw [standing_eq]
  exact (h.newest k).standing

lemma Simulated.start {rt} {db : Database} (adm : db.Admitted) (empty : db.proceduralMemory = []) :
    Simulated rt [] {} db := by
  have shelf : ∀ k, shelfOf k db = ⟨[], []⟩ := by
    intro k
    simp [shelfOf, empty, Named]
  constructor
  case admitted => exact adm
  case processed => simp [Assoc.get]
  case newest =>
    intro k
    rw [shelf]
    exact .absent
  case incidents =>
    intro k x
    rw [shelf]
    refine iff_of_false (List.not_mem_nil) ?_
    rintro ⟨before, b, after, e, _⟩
    simp at e
  case started =>
    intro k
    rw [shelf]
    refine iff_of_false (not_not.mpr rfl) ?_
    rintro ⟨a, ha, _⟩
    cases ha
  case generated =>
    rw [empty]
    intro r mem
    cases mem

section step

variable {rt : Runtime} {activation : Activation} {pre : List Application} {a : Application}
  {s : InMemoryRunbookRepository} {db : Database}

/-- A call on related states returns in the database. -/
lemma Simulated.returns (h : Simulated rt pre s db) (st : Storable db a.candidate)
    (fresh : a.generated.runbookId ∉ pre.map fun a => a.generated.runbookId) :
    ∃ db' m, apply rt activation a.candidate a.generated db = .ok (db', m) := by
  apply apply_returns h.admitted st
  · intro r hr e
    apply fresh
    rw [← e]
    exact h.generated r hr
  · intro i r hi hl
    have e := @newest_shelfOf a.candidate i db
    rw [hl] at e
    have m := h.newest (a.candidate.nameWith i)
    rw [e] at m
    generalize (s.versions (a.candidate.nameWith i).key).getLast? = l at m
    cases m with
    | present _ _ _ _ _ _ steps => exact ⟨_, steps⟩

/-- The relation after a call, from what the call did to the versions of its name. -/
lemma Simulated.extend {i s' db' versions shelf} (h : Simulated rt pre s db)
    (hi : ids? a.candidate = some i) (adm : db'.Admitted)
    (memory : ∀ key, s'.versions key = if key = a.candidate.key then versions else s.versions key)
    (processed : ∀ key, (Assoc.get s'.processed key).isSome ↔
      (Assoc.get s.processed key).isSome ∨ key = a.group.idempotencyKey rt)
    (shelves : ∀ k, shelfOf k db' = if a.candidate.nameWith i = k then shelf else shelfOf k db)
    (newest : Match rt (pre ++ [a]) versions.getLast? shelf.newest)
    (incidents : ∀ x, x ∈ shelf.incidents ↔
      x ∈ (shelfOf (a.candidate.nameWith i) db).incidents ∨ x = i.incident ∧ Effective pre a)
    (started : shelf.newest ≠ none ↔
      (shelfOf (a.candidate.nameWith i) db).newest ≠ none ∨ a.candidate.outcome = .success)
    (generated : ∀ r ∈ db'.proceduralMemory, r.runbookId = a.generated.runbookId ∨
      ∃ r0 ∈ db.proceduralMemory, r0.runbookId = r.runbookId) :
    Simulated rt (pre ++ [a]) s' db' := by
  have name : ∀ k : RunbookName, a.candidate.key = k.key ↔ a.candidate.nameWith i = k :=
    fun k => key_iff hi
  obtain ⟨_, _, incident⟩ := text_of_ids? hi
  constructor
  case admitted => exact adm
  case processed =>
    intro key
    rw [processed, h.processed]
    simp
  case newest =>
    intro k
    rw [memory, shelves]
    by_cases e : a.candidate.nameWith i = k
    · rw [if_pos ((name k).mpr e).symm, if_pos e]
      exact newest
    · rw [if_neg fun e' => e ((name k).mp e'.symm), if_neg e]
      exact (h.newest k).mono
  case incidents =>
    intro k x
    rw [shelves, consolidated_concat, ← h.incidents, name, ← incident, ← Uuid.ext_iff]
    by_cases e : a.candidate.nameWith i = k
    · rw [if_pos e, incidents, e]
      simp [eq_comm]
    · rw [if_neg e]
      simp [e]
  case started =>
    intro k
    rw [shelves]
    simp only [List.mem_append, List.mem_singleton, or_and_right, exists_or, exists_eq_left, name]
    rw [← h.started]
    by_cases e : a.candidate.nameWith i = k
    · rw [if_pos e, started, e]
      simp
    · rw [if_neg e]
      simp [e]
  case generated =>
    intro r hr
    rw [List.map_append]
    obtain e | ⟨r0, hr0, e⟩ := generated r hr
    · exact List.mem_append_right _ (by simp [e])
    · rw [← e]
      exact List.mem_append_left _ (h.generated r0 hr0)

/-- What `InMemoryRunbookRepository.apply` does with a key it has not seen. -/
lemma applyInMemory_new {versions m} (new : Assoc.get s.processed (a.group.idempotencyKey rt) = none)
    (e : InMemoryRunbookRepository.branch rt activation a.candidate
      (Assoc.set s.runbooks a.candidate.key (s.versions a.candidate.key)).length
      (s.versions a.candidate.key) = .ok (versions, m)) :
    (applyInMemory rt activation s a).2 = .ok m ∧
      (∀ key, (applyInMemory rt activation s a).1.versions key =
        if key = a.candidate.key then versions else s.versions key) ∧
      ∀ key, (Assoc.get (applyInMemory rt activation s a).1.processed key).isSome ↔
        (Assoc.get s.processed key).isSome ∨ key = a.group.idempotencyKey rt := by
  simp only [applyInMemory, InMemoryRunbookRepository.apply, new, e]
  refine ⟨trivial, ?_, ?_⟩
  · intro key
    rw [InMemoryRunbookRepository.versions_set, InMemoryRunbookRepository.versions_setdefault]
  · intro key
    by_cases ek : key = a.group.idempotencyKey rt
    · rw [ek, Assoc.get_set_self]
      simp
    · rw [Assoc.get_set_ne (Ne.symm ek)]
      simp [ek]

/-- What the branches of one call did to the versions of a name, in memory and on the shelf. -/
structure Branched (rt : Runtime) (activation : Activation) (pre : List Application) (a : Application)
    (i : Ids) (n : Nat) (versions : List LocalRunbook) (shelf : Shelf) (versions' : List LocalRunbook)
    (m : RunbookMutation) (shelf' : Shelf) : Prop where
  branch : InMemoryRunbookRepository.branch rt activation a.candidate n versions = .ok (versions', m)
  apply : shelf.apply rt activation a.candidate i = (shelf', m.operation)
  newest : Match rt (pre ++ [a]) versions'.getLast? shelf'.newest
  incidents : ∀ x, x ∈ shelf'.incidents ↔ x ∈ shelf.incidents ∨
    x = i.incident ∧ (a.candidate.outcome = .success ∨ shelf.newest ≠ none)
  started : shelf'.newest ≠ none ↔ shelf.newest ≠ none ∨ a.candidate.outcome = .success

section branches

variable {i : Ids} {n : Nat} {versions : List LocalRunbook} {shelf : Shelf} {l : LocalRunbook}
  {r : Runbook}

/-- The incidents once a call that is not ignored has counted its own. -/
lemma mem_counted {rows} (effective : a.candidate.outcome = .success ∨ shelf.newest ≠ none) :
    ∀ x, x ∈ (Shelf.counted i shelf rows).incidents ↔ x ∈ shelf.incidents ∨
      x = i.incident ∧ (a.candidate.outcome = .success ∨ shelf.newest ≠ none) := by
  intro x
  simp [Shelf.counted, effective]

/-- A counterexample of a name without versions. -/
lemma branched_ignored (el : versions.getLast? = none) (er : shelf.newest = none)
    (new : i.incident ∉ shelf.incidents) (failed : a.candidate.outcome ≠ .success) :
    Branched rt activation pre a i n versions shelf versions Postmortem.ignoredCounterexample shelf := by
  constructor
  case branch => simp only [InMemoryRunbookRepository.branch, el, if_pos failed]
  case apply =>
    rw [Shelf.apply, if_neg new, er]
    exact if_pos failed
  case newest =>
    rw [el, er]
    exact .absent
  case incidents => simp [failed, er]
  case started => simp [failed, er]

/-- A counterexample of a name with versions. -/
lemma branched_weaken (h : Match rt pre (some l) (some r)) (el : versions.getLast? = some l)
    (er : shelf.newest = some r) (new : i.incident ∉ shelf.incidents)
    (failed : a.candidate.outcome ≠ .success) :
    Branched rt activation pre a i n versions shelf
      (versions.dropLast ++ [InMemoryRunbookRepository.weakened l])
      (InMemoryRunbookRepository.mutation .weaken (InMemoryRunbookRepository.weakened l))
      (Shelf.counted i shelf (Shelf.change r (weakened 0) shelf.versions)) := by
  have top := @Shelf.newest_change _ (weakened 0) (shelf.incidents ++ [i.incident]) _ er fun _ => rfl
  have some : shelf.newest ≠ none := er ▸ Option.some_ne_none _
  constructor
  case branch => simp only [InMemoryRunbookRepository.branch, el, if_pos failed]
  case apply =>
    rw [Shelf.apply, if_neg new, er]
    exact if_pos failed
  case newest =>
    cases h with
    | present hb v stat sc fc hashed steps =>
      rw [List.getLast?_concat]
      refine top.symm ▸ .present (List.mem_append_left _ hb) v ?_ sc (congrArg (· + 1) fc) hashed steps
      simp [InMemoryRunbookRepository.weakened, weakened, Runbook.face, sc, fc, stat]
  case incidents => exact mem_counted (.inr some)
  case started => exact iff_of_true (top.symm ▸ Option.some_ne_none _) (.inl some)

/-- A success with the steps of the newest version. -/
lemma branched_reinforce (h : Match rt pre (some l) (some r)) (el : versions.getLast? = some l)
    (er : shelf.newest = some r) (new : i.incident ∉ shelf.incidents)
    (success : a.candidate.outcome = .success) (hash : l.stepsHash = a.candidate.stepsHash rt)
    (steps : Shelf.sameSteps rt a.candidate r = true) :
    Branched rt activation pre a i n versions shelf
      (versions.dropLast ++ [InMemoryRunbookRepository.reinforced activation l])
      (InMemoryRunbookRepository.mutation .reinforce (InMemoryRunbookRepository.reinforced activation l))
      (Shelf.counted i shelf (Shelf.change r (reinforced activation 0) shelf.versions)) := by
  have top := @Shelf.newest_change _ (reinforced activation 0) (shelf.incidents ++ [i.incident]) _ er
    fun _ => rfl
  have success' : ¬ a.candidate.outcome ≠ .success := not_not.mpr success
  constructor
  case branch =>
    simp only [InMemoryRunbookRepository.branch, el, if_neg success', if_neg (not_not.mpr hash)]
  case apply =>
    rw [Shelf.apply, if_neg new, er]
    exact (if_neg success').trans (if_neg (not_not.mpr steps))
  case newest =>
    cases h with
    | present hb v stat sc fc hashed steps =>
      rw [List.getLast?_concat]
      refine top.symm ▸ .present (List.mem_append_left _ hb) v ?_ (congrArg (· + 1) sc) fc hashed steps
      simp [InMemoryRunbookRepository.reinforced, reinforced, Runbook.face, sc, stat]
  case incidents => exact mem_counted (.inl success)
  case started => exact iff_of_true (top.symm ▸ Option.some_ne_none _) (.inr success)

/-- A success with other steps than the newest version, or of a name without versions. -/
lemma branched_create {o : Option Runbook} (h : Match rt pre versions.getLast? o) (er : shelf.newest = o)
    (new : i.incident ∉ shelf.incidents) (success : a.candidate.outcome = .success)
    (len : a.candidate.embedding.length = 1024)
    (hash : ∀ l, versions.getLast? = some l → l.stepsHash ≠ a.candidate.stepsHash rt)
    (steps : ∀ r, o = some r → ¬ Shelf.sameSteps rt a.candidate r = true) :
    Branched rt activation pre a i n versions shelf
      (versions ++ [InMemoryRunbookRepository.created rt a.candidate n versions])
      (InMemoryRunbookRepository.mutation .create
        (InMemoryRunbookRepository.created rt a.candidate n versions))
      (Shelf.counted i shelf
        (Shelf.superseding shelf.versions o ++ [Shelf.fresh rt a.candidate i o])) := by
  have top := @Shelf.newest_fresh rt a.candidate i _ (shelf.incidents ++ [i.incident]) _ er
  have success' : ¬ a.candidate.outcome ≠ .success := not_not.mpr success
  have len' : ¬ a.candidate.embedding.length ≠ 1024 := not_not.mpr len
  constructor
  case branch =>
    cases el : versions.getLast? with
    | none => simp only [InMemoryRunbookRepository.branch, el, if_neg success', if_neg len']
    | some l =>
      simp only [InMemoryRunbookRepository.branch, el, if_neg success', if_pos (hash l el), if_neg len']
  case apply =>
    rw [Shelf.apply, if_neg new, er]
    cases o with
    | none => exact if_neg success'
    | some r => exact (if_neg success').trans (if_pos (steps r rfl))
  case newest =>
    have version : (InMemoryRunbookRepository.created rt a.candidate n versions).version =
        nextVersion o := by
      unfold InMemoryRunbookRepository.created
      generalize versions.getLast? = last at h
      cases h with
      | absent => rfl
      | present _ v => exact congrArg (· + 1) v
    rw [List.getLast?_concat]
    exact top.symm ▸ .present (List.mem_append_right _ (List.mem_singleton_self a)) version rfl rfl rfl
      rfl rfl
  case incidents => exact mem_counted (.inl success)
  case started => exact iff_of_true (top.symm ▸ Option.some_ne_none _) (.inr success)

/-- Matching versions take the same branch and match after it. -/
lemma branched_of_match (h : Match rt pre versions.getLast? shelf.newest)
    (new : i.incident ∉ shelf.incidents) (len : a.candidate.embedding.length = 1024)
    (hash : ∀ b ∈ pre, b.candidate.stepsHash rt = a.candidate.stepsHash rt ↔
      Json.pyEq (.arr b.candidate.steps) (.arr a.candidate.steps) = true) :
    ∃ versions' m shelf', Branched rt activation pre a i n versions shelf versions' m shelf' := by
  by_cases success : a.candidate.outcome = .success
  case neg =>
    cases el : versions.getLast? with
    | none =>
      rw [el] at h
      cases er : shelf.newest with
      | none => exact ⟨_, _, _, branched_ignored el er new success⟩
      | some r => rw [er] at h; cases h
    | some l =>
      rw [el] at h
      cases er : shelf.newest with
      | none => rw [er] at h; cases h
      | some r => exact ⟨_, _, _, branched_weaken (er ▸ h) el er new success⟩
  case pos =>
    -- the hashes of matching versions agree with the steps of the call together
    have alike : ∀ l r, versions.getLast? = some l → shelf.newest = some r →
        (Shelf.sameSteps rt a.candidate r = true ↔ l.stepsHash = a.candidate.stepsHash rt) := by
      intro l r el er
      rw [el, er] at h
      cases h with
      | present hb _ _ _ _ hashed steps =>
        rw [Shelf.sameSteps, existingSteps, steps, hashed, hash _ hb]
    by_cases same : ∃ l, versions.getLast? = some l ∧ l.stepsHash = a.candidate.stepsHash rt
    · obtain ⟨l, el, eq⟩ := same
      cases er : shelf.newest with
      | none => rw [el, er] at h; cases h
      | some r =>
        rw [el, er] at h
        exact ⟨_, _, _, branched_reinforce h el er new success eq ((alike l r el er).mpr eq)⟩
    · have differ : ∀ l, versions.getLast? = some l → l.stepsHash ≠ a.candidate.stepsHash rt :=
        fun l el eq => same ⟨l, el, eq⟩
      refine ⟨_, _, _, branched_create h rfl new success len differ fun r er eq => ?_⟩
      cases el : versions.getLast? with
      | none => rw [el, er] at h; cases h
      | some l => exact differ l el ((alike l r el er).mp eq)

end branches

/-- One call on related states: where the two repositories agree on whether it was applied before, both
report the same operation and their states stay related. -/
lemma Simulated.step (h : Simulated rt pre s db) (st : Storable db a.candidate)
    (fresh : a.generated.runbookId ∉ pre.map fun a => a.generated.runbookId)
    (hash : ∀ b ∈ pre, b.candidate.stepsHash rt = a.candidate.stepsHash rt ↔
      Json.pyEq (.arr b.candidate.steps) (.arr a.candidate.steps) = true)
    (seen : a.group.idempotencyKey rt ∈ pre.map (fun a => a.group.idempotencyKey rt) ↔
      Consolidated pre a.candidate.key a.candidate.incidentId) :
    (∃ o, reported (applyInMemory rt activation s a).2 = some o ∧
      reported (applyInDatabase rt activation db a).2 = some o) ∧
    Simulated rt (pre ++ [a]) (applyInMemory rt activation s a).1
      (applyInDatabase rt activation db a).1 := by
  obtain ⟨db', m, e⟩ := @Simulated.returns _ activation _ _ _ _ h st fresh
  obtain ⟨i, hi, applied⟩ := apply_spec e
  have inDb : applyInDatabase rt activation db a = (db', .ok m) := by simp [applyInDatabase, e]
  rw [inDb]
  obtain ⟨shelf, es, shelves⟩ := Applied.onShelf h.admitted applied
  have adm := Applied.admitted h.admitted applied
  have generated := Applied.runbookIds applied
  have key := (key_iff (k := a.candidate.nameWith i) hi).mpr rfl
  obtain ⟨_, _, incident⟩ := text_of_ids? hi
  have counts := h.incidents (a.candidate.nameWith i) i.incident
  rw [← key, incident, ← seen, ← h.processed] at counts
  have started := h.started (a.candidate.nameWith i)
  rw [← key] at started
  have newest := h.newest (a.candidate.nameWith i)
  rw [← key] at newest
  have extend := fun s' versions => @Simulated.extend rt pre a s db i s' db' versions shelf h hi adm
  by_cases hc : i.incident ∈ (shelfOf (a.candidate.nameWith i) db).incidents
  case pos =>
    -- both know the call: nothing changes
    obtain ⟨previous, hp⟩ := Option.isSome_iff_exists.mp (counts.mp hc)
    have inMem : applyInMemory rt activation s a =
        (s, .ok { previous with operation := .noop, idempotentReplay := true }) := by
      simp only [applyInMemory, InMemoryRunbookRepository.apply, hp]
    rw [Shelf.apply, if_pos hc] at es
    obtain ⟨rfl, op⟩ := Prod.mk.inj es
    rw [inMem]
    refine ⟨⟨.noop, rfl, congrArg some op.symm⟩, ?_⟩
    apply extend s (s.versions a.candidate.key)
    case memory =>
      intro key
      split
      case isTrue e => rw [e]
      case isFalse => rfl
    case processed =>
      intro key
      refine (or_iff_left_of_imp ?_).symm
      rintro rfl
      exact counts.mp hc
    case shelves => exact shelves
    case newest => exact newest.mono
    case incidents =>
      intro x
      refine (or_iff_left_of_imp ?_).symm
      rintro ⟨rfl, _⟩
      exact hc
    case started =>
      refine (or_iff_left_of_imp fun _ => ?_).symm
      exact started.mpr (seen.mp ((h.processed _).mp (counts.mp hc))).success
    case generated => exact generated
  case neg =>
    -- neither knows it: both take the same branch
    have new : Assoc.get s.processed (a.group.idempotencyKey rt) = none := by
      simpa using fun c => hc (counts.mpr c)
    obtain ⟨versions, m', shelf', branched⟩ := @branched_of_match _ activation _ _ _
      (Assoc.set s.runbooks a.candidate.key (s.versions a.candidate.key)).length _ _
      newest hc st.embedding hash
    obtain ⟨rfl, op⟩ := Prod.mk.inj (es.symm.trans branched.apply)
    obtain ⟨ok, memory, processed⟩ := applyInMemory_new new branched.branch
    rw [ok]
    refine ⟨⟨m.operation, congrArg some op.symm, rfl⟩, ?_⟩
    apply extend _ versions memory processed shelves branched.newest _ branched.started generated
    intro x
    rw [branched.incidents, Effective, started]

end step

section run

variable {rt : Runtime} {activation : Activation} {calls : List Application} {db : Database}

/-- The tables a call does not write. -/
lemma applyInDatabase_tables {a : Application} :
    (applyInDatabase rt activation db a).1.organizations = db.organizations ∧
      (applyInDatabase rt activation db a).1.incidents = db.incidents ∧
      (applyInDatabase rt activation db a).1.episodicEvents = db.episodicEvents := by
  unfold applyInDatabase
  split
  case h_1 db' m e =>
    obtain ⟨i, _, applied⟩ := apply_spec e
    cases applied <;> exact ⟨rfl, rfl, rfl⟩
  case h_2 => exact ⟨rfl, rfl, rfl⟩

/-- What the database asks of a candidate it asks after every call. -/
lemma Storable.after {c a} (st : Storable db c) : Storable (applyInDatabase rt activation db a).1 c := by
  obtain ⟨org, incident, episode⟩ := @applyInDatabase_tables rt activation db a
  constructor
  case ids => rw [org, incident]; exact st.ids
  case event => rw [episode]; exact st.event
  case embedding => exact st.embedding
  case json => exact st.json

/-- What the calls of a sequence share: candidates the database can store, fresh identifiers, and hashes
that agree with equality of steps. -/
structure Usable (rt : Runtime) (db : Database) (calls : List Application) : Prop where
  storable : ∀ a ∈ calls, Storable db a.candidate
  fresh : (calls.map fun a => a.generated.runbookId).Nodup
  hash : ∀ a ∈ calls, ∀ b ∈ calls, a.candidate.stepsHash rt = b.candidate.stepsHash rt ↔
    Json.pyEq (.arr a.candidate.steps) (.arr b.candidate.steps) = true

/-- Both repositories were told of a call before, or neither was. -/
def SeenAlike (rt : Runtime) (pre : List Application) (a : Application) : Prop :=
  a.group.idempotencyKey rt ∈ pre.map (fun a => a.group.idempotencyKey rt) ↔
    Consolidated pre a.candidate.key a.candidate.incidentId

/-- `Simulated.step` for a call of a usable sequence. -/
lemma Simulated.next {pre a post s db'} (related : Simulated rt pre s db') (usable : Usable rt db calls)
    (e : calls = pre ++ a :: post) (storable : ∀ c, Storable db c → Storable db' c)
    (alike : SeenAlike rt pre a) :
    (∃ o, reported (applyInMemory rt activation s a).2 = some o ∧
      reported (applyInDatabase rt activation db' a).2 = some o) ∧
    Simulated rt (pre ++ [a]) (applyInMemory rt activation s a).1
      (applyInDatabase rt activation db' a).1 := by
  have mem : a ∈ calls := by simp [e]
  have fresh : a.generated.runbookId ∉ pre.map fun a => a.generated.runbookId := by
    have nodup := usable.fresh
    rw [e, List.map_append] at nodup
    intro h
    exact (List.nodup_append.mp nodup).2.2 _ h _ List.mem_cons_self rfl
  have hash := fun b (hb : b ∈ pre) => usable.hash b (by simp [e, hb]) a mem
  exact related.step (storable _ (usable.storable a mem)) fresh hash alike

/-- The states after a sequence of calls both repositories see alike are related. -/
lemma Simulated.run {pre post} (usable : Usable rt db calls) (e : calls = pre ++ post)
    (adm : db.Admitted) (empty : db.proceduralMemory = [])
    (alike : ∀ before a after, pre = before ++ a :: after → SeenAlike rt before a) :
    Simulated rt pre (inMemory rt activation pre) (inDatabase rt activation db pre) ∧
      ∀ c, Storable db c → Storable (inDatabase rt activation db pre) c := by
  induction pre using List.reverseRecOn generalizing post with
  | nil => exact ⟨.start adm empty, fun _ st => st⟩
  | append_singleton pre a ih =>
    have e : calls = pre ++ (a :: post) := by simpa using e
    obtain ⟨related, storable⟩ := ih e fun before b after eq =>
      alike before b (after ++ [a]) (by simp [eq])
    have next := @Simulated.next _ activation _ _ _ _ _ _ _ related usable e storable (alike pre a [] rfl)
    rw [inMemory, inDatabase, Run.run_append, Run.run_append]
    exact ⟨next.2, fun c st => (storable c st).after⟩

/-- From empty stores, a sequence of applications that both repositories see alike is simulated: every
call reports the same operation and leaves the same newest version of every name. -/
theorem simulates (adm : db.Admitted) (empty : db.proceduralMemory = []) (usable : Usable rt db calls)
    (alike : ∀ pre a post, calls = pre ++ a :: post → SeenAlike rt pre a) :
    Simulates rt activation db calls := by
  intro pre a post e
  obtain ⟨related, storable⟩ := @Simulated.run _ activation _ _ _ _ usable e adm empty
    fun before b after eq => alike before b (after ++ a :: post) (by simp [e, eq])
  obtain ⟨same, after⟩ := @Simulated.next _ activation _ _ _ _ _ _ _ related usable e storable
    (alike pre a post e)
  refine ⟨same, fun k => ?_⟩
  rw [inMemory, inDatabase, Run.run_append, Run.run_append]
  exact after.standing k

lemma reported_inMemory {s a o} (h : reported (applyInMemory rt activation s a).2 = some o) :
    o = .noop ↔ (Assoc.get s.processed (a.group.idempotencyKey rt)).isSome := by
  cases e : Assoc.get s.processed (a.group.idempotencyKey rt) with
  | some previous =>
    simp only [applyInMemory, InMemoryRunbookRepository.apply, e, reported] at h
    cases h
    simp
  | none =>
    simp only [applyInMemory, InMemoryRunbookRepository.apply, e] at h
    generalize eb : InMemoryRunbookRepository.branch _ _ _ _ _ = b at h
    refine iff_of_false ?_ Bool.false_ne_true
    rintro rfl
    cases b with
    | error => cases h
    | ok res =>
      obtain ⟨versions, m⟩ := res
      have op : m.operation = .noop := Option.some.inj h
      exact InMemoryRunbookRepository.branch_operation eb op

/-- A call in the database reports a replay exactly where the incident counts for the name. -/
lemma reported_inDatabase {a i o} {db : Database} (adm : db.Admitted) (hi : ids? a.candidate = some i)
    (h : reported (applyInDatabase rt activation db a).2 = some o) :
    o = .noop ↔ i.incident ∈ (shelfOf (a.candidate.nameWith i) db).incidents := by
  unfold applyInDatabase at h
  split at h
  case h_2 => cases h
  case h_1 db' m e =>
    cases h
    obtain ⟨i', hi', applied⟩ := apply_spec e
    obtain rfl := Option.some.inj (hi.symm.trans hi')
    obtain ⟨shelf, es, _⟩ := Applied.onShelf adm applied
    exact Shelf.apply_noop es

/-- In a sequence that is simulated both repositories see every call alike. -/
theorem seenAlike_of_simulates (adm : db.Admitted) (empty : db.proceduralMemory = [])
    (usable : Usable rt db calls) (sim : Simulates rt activation db calls) :
    ∀ pre a post, calls = pre ++ a :: post → SeenAlike rt pre a := by
  suffices ∀ pre post, calls = pre ++ post → ∀ before a after, pre = before ++ a :: after →
      SeenAlike rt before a from fun pre a post e => this calls [] (by simp) pre a post e
  intro pre
  induction pre using List.reverseRecOn with
  | nil =>
    intro post e before a after e'
    simp at e'
  | append_singleton pre a ih =>
    intro post e before b after eq
    have e : calls = pre ++ (a :: post) := by simpa using e
    have ih := ih (a :: post) e
    cases after using List.reverseRecOn with
    | append_singleton after c =>
      have eq : pre ++ [a] = (before ++ b :: after) ++ [c] := by simpa using eq
      obtain ⟨rfl, _⟩ := List.append_inj' eq rfl
      exact ih before b after rfl
    | nil =>
      obtain ⟨rfl, same⟩ := List.append_inj' eq rfl
      cases same
      obtain ⟨related, storable⟩ := @Simulated.run _ activation _ _ _ _ usable e adm empty ih
      obtain ⟨⟨o, mem, inDb⟩, _⟩ := sim pre a post e
      obtain ⟨i, hi, _⟩ := (storable _ (usable.storable a (by simp [e]))).ids
      have counts := related.incidents (a.candidate.nameWith i) i.incident
      obtain ⟨_, _, incident⟩ := text_of_ids? hi
      rw [← (key_iff (k := a.candidate.nameWith i) hi).mpr rfl, incident] at counts
      rw [SeenAlike, ← related.processed, ← counts, ← reported_inMemory mem,
        reported_inDatabase related.admitted hi inDb]

end run

namespace Sample

/-- The library on the texts the examples hash. -/
def digests : Runtime :=
  { Runtime.sample with
    sha256 := fun s =>
      if s = "[\x7b\"action\":\"rollback_deploy\",\"order\":1\x7d]" then
        "ba4653785e98807995d0b9c3293fba4d412edce6ffef25889913af3f65328de0"
      else if s = org.text ++ ":" ++ (incidentNumbered 0).incidentId.text ++ ":" ++ memory.text then
        "9d167fbc3056902410432bf2963b546ae40f7b44f8bc781b496264cf5a67a2d3"
      else "00ef1e6805281eba9942937657b74d1ec1fae9b4b1c7b2bd46cb536dcb5301cf" }

/-- The cited memory as a row of the first incident. -/
def row (id : Uuid) : ChangeEvent where
  eventId := id.text
  orgId := org.text
  agentId := agent.text
  incidentId := (incidentNumbered 0).incidentId.text
  serviceId := service.text
  eventType := "outcome"
  content := "recovered"
  occurredAt := 0
  updatedAt := .ofInt 1
  metadata := [("outcome", .str "success")]

/-- A group of one row of the first incident, applied with the candidate of the incident. -/
def application (id : Uuid) (n : Fin 16) : Application where
  group := ⟨org.text, agent.text, (incidentNumbered 0).incidentId.text, service.text, [row id], .success⟩
  candidate := { candidate 0 with sourceEventIds := [id.text] }
  generated := ⟨0, .sample n 2⟩

def second : Uuid := .sample 6 1

/-- Two rows of the first incident. -/
def twoRows : Database :=
  { busy with episodicEvents := [observation, { observation with eventId := second }] }

lemma twoRows_admitted : twoRows.Admitted := by
  constructor
  case incidents =>
    show (busy.incidents.map Incident.incidentId).Nodup
    decide +kernel
  case episodicEvents =>
    show ([memory, second]).Nodup
    decide +kernel
  all_goals simp [twoRows, busy, db, observation, incidentNumbered, Table.Unique, References]

/-- Applications of the first incident that generate different identifiers are usable. -/
lemma applications_usable {calls : List (Uuid × Fin 16)}
    (rows : ∀ c ∈ calls, c.1 = memory ∨ c.1 = second) (fresh : (calls.map Prod.snd).Nodup) :
    Usable digests twoRows (calls.map fun c => application c.1 c.2) := by
  have generated : Function.Injective fun n : Fin 16 => Uuid.sample n 2 := by decide +kernel
  constructor
  case storable =>
    intro a ha
    obtain ⟨⟨id, n⟩, hc, rfl⟩ := List.mem_map.mp ha
    constructor
    case ids =>
      refine ⟨⟨org, agent, (incidentNumbered 0).incidentId⟩, ?_, List.mem_singleton_self _, ?_⟩
      · simp [ids?, application, candidate]
      · exact ⟨incidentNumbered 0, by decide +kernel, rfl⟩
    case event =>
      refine ⟨id, rfl, ?_⟩
      obtain rfl | rfl := rows _ hc
      · exact ⟨observation, by simp [twoRows], rfl⟩
      · exact ⟨{ observation with eventId := second }, by simp [twoRows], rfl⟩
    case embedding => exact List.length_replicate
    case json => rfl
  case fresh =>
    have e : (calls.map fun c => application c.1 c.2).map (fun a => a.generated.runbookId) =
        (calls.map Prod.snd).map fun n => Uuid.sample n 2 := by
      rw [List.map_map, List.map_map]
      rfl
    rw [e]
    exact fresh.map generated
  case hash =>
    intro a ha b hb
    obtain ⟨⟨id, n⟩, _, rfl⟩ := List.mem_map.mp ha
    obtain ⟨⟨id', n'⟩, _, rfl⟩ := List.mem_map.mp hb
    exact iff_of_true rfl (Json.pyEq_iff.mpr rfl)

end Sample

/-- Two groups of one incident: in memory the second reinforces, in the database it is a replay. -/
theorem regrouped_not_simulated :
    Usable Sample.digests Sample.twoRows
      [Sample.application Sample.memory 0, Sample.application Sample.second 1] ∧
    ¬ Simulates Sample.digests {} Sample.twoRows
      [Sample.application Sample.memory 0, Sample.application Sample.second 1] := by
  constructor
  · exact @Sample.applications_usable [(Sample.memory, 0), (Sample.second, 1)]
      (by simp) (by decide)
  · intro sim
    obtain ⟨⟨o, mem, inDb⟩, _⟩ := sim [Sample.application Sample.memory 0] _ [] rfl
    have reinforced : reported (applyInMemory Sample.digests {}
        (inMemory Sample.digests {} [Sample.application Sample.memory 0])
        (Sample.application Sample.second 1)).2 = some .reinforce := by decide +kernel
    have replayed : reported (applyInDatabase Sample.digests {}
        (inDatabase Sample.digests {} Sample.twoRows [Sample.application Sample.memory 0])
        (Sample.application Sample.second 1)).2 = some .noop := by decide +kernel
    cases reinforced.symm.trans (mem.trans (inDb.symm.trans replayed))

/-- `simulates` on a group and its redelivery. -/
theorem simulates_sample : Simulates Sample.digests {} Sample.twoRows
    [Sample.application Sample.memory 0, Sample.application Sample.memory 1] := by
  apply simulates Sample.twoRows_admitted rfl
    (@Sample.applications_usable [(Sample.memory, 0), (Sample.memory, 1)] (by simp) (by decide))
  intro pre a post e
  rcases pre with _ | ⟨b, pre⟩
  · refine iff_of_false List.not_mem_nil ?_
    rintro ⟨before, c, after, e, _⟩
    simp at e
  · obtain ⟨first, tail⟩ := List.cons.inj e
    rcases pre with _ | ⟨c, pre⟩
    · obtain ⟨rfl, _⟩ := List.cons.inj tail
      subst first
      exact iff_of_true (List.mem_singleton_self _) ⟨[], _, [], rfl, rfl, rfl, .inl rfl⟩
    · simp at tail

end Postmortem
