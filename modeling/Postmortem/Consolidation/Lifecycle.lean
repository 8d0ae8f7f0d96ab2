import Postmortem.Consolidation.Shelf
import Postmortem.Lib.Evolve

/-!
# The life of a runbook version

A version begins as a draft with one success. `InMemoryRunbookRepository` and
`CockroachRunbookRepository` then change it in the same three ways, which `Lifecycle` states without
what they store beside it: it is weakened, reinforced or superseded. What holds of every version
(`Lifecycle.Sound`) and what is never undone (`Lifecycle.Later`) is proved there, and both
repositories are shown to take no other step (`apply_evolves`, `step_rows`).
-/

namespace Postmortem

/-- The counts and the status of a version. -/
structure Lifecycle where
  successCount : Nat
  failureCount : Nat
  status : RunbookStatus

namespace Lifecycle

variable (activation : Activation) (v : Lifecycle)

/-- A version as it is created. -/
def start : Lifecycle := ⟨1, 0, .draft⟩

/-- A counterexample. -/
def weakened : Lifecycle :=
  { v with
    failureCount := v.failureCount + 1
    status := if v.failureCount + 1 ≥ v.successCount then .deprecated else v.status }

/-- A success with the same steps. -/
def reinforced : Lifecycle :=
  { v with
    successCount := v.successCount + 1
    status :=
      if v.status = .draft ∧ v.successCount + 1 ≥ activation.reinforcements + 1 then .active
      else v.status }

/-- A newer version, or an operator's deprecation. -/
def superseded : Lifecycle := { v with status := .deprecated }

/-- What can happen to a version at once. -/
inductive Step : Lifecycle → Prop where
  | kept : Step v
  | weakened : Step v.weakened
  | reinforced : Step (v.reinforced activation)
  | superseded : Step v.superseded

/-- Counterexamples stay below the successes until the version is deprecated, and an active version has
been reinforced often enough. -/
structure Sound : Prop where
  supported : v.status ≠ .deprecated → v.failureCount < v.successCount
  proven : v.status = .active → activation.reinforcements + 1 ≤ v.successCount

/-- No count decreases, and a deprecated version stays deprecated. -/
structure Later (v' : Lifecycle) : Prop where
  successCount : v.successCount ≤ v'.successCount
  failureCount : v.failureCount ≤ v'.failureCount
  deprecated : v.status = .deprecated → v'.status = .deprecated

variable {activation v} {v' v'' : Lifecycle}

lemma start_sound : start.Sound activation := ⟨fun _ => Nat.one_pos, nofun⟩

lemma Later.refl : v.Later v := ⟨Nat.le_refl _, Nat.le_refl _, id⟩

lemma Later.trans (h : v.Later v') (h' : v'.Later v'') : v.Later v'' where
  successCount := h.successCount.trans h'.successCount
  failureCount := h.failureCount.trans h'.failureCount
  deprecated e := h'.deprecated (h.deprecated e)

/-- A weakened version that is not deprecated was not, and has more successes. -/
lemma weakened_status (h : v.weakened.status ≠ .deprecated) :
    v.failureCount + 1 < v.successCount ∧ v.weakened.status = v.status := by
  unfold weakened at h ⊢
  dsimp only at h ⊢
  split at h
  case isTrue => exact absurd rfl h
  case isFalse few =>
    rw [if_neg few]
    exact ⟨Nat.lt_of_not_le few, rfl⟩

/-- A reinforced version changes its status only from draft to active. -/
lemma reinforced_status : (v.reinforced activation).status = v.status ∨
    v.status = .draft ∧ (v.reinforced activation).status = .active ∧
      activation.reinforcements + 1 ≤ v.successCount + 1 := by
  unfold reinforced
  dsimp only
  split
  case isTrue h => exact .inr ⟨h.1, rfl, h.2⟩
  case isFalse => exact .inl rfl

lemma Step.sound (h : Step activation v v') (sound : v.Sound activation) : v'.Sound activation := by
  cases h with
  | kept => exact sound
  | weakened =>
    constructor
    case supported => exact fun live => (weakened_status live).1
    case proven =>
      intro active
      have live : v.weakened.status ≠ .deprecated := by rw [active]; nofun
      exact sound.proven ((weakened_status live).2.symm.trans active)
  | reinforced =>
    constructor
    case supported =>
      intro live
      apply Nat.lt_succ_of_lt (sound.supported _)
      obtain same | ⟨draft, _⟩ := @reinforced_status activation v
      · exact same ▸ live
      · rw [draft]; nofun
    case proven =>
      intro active
      obtain same | ⟨_, _, enough⟩ := @reinforced_status activation v
      · exact Nat.le_succ_of_le (sound.proven (same.symm.trans active))
      · exact enough
  | superseded => exact ⟨fun live => absurd rfl live, nofun⟩

lemma Step.later (h : Step activation v v') : v.Later v' := by
  cases h with
  | kept => exact .refl
  | weakened =>
    refine ⟨Nat.le_refl _, Nat.le_succ _, fun deprecated => ?_⟩
    by_contra live
    exact live ((weakened_status live).2.trans deprecated)
  | reinforced =>
    refine ⟨Nat.le_succ _, Nat.le_refl _, fun deprecated => ?_⟩
    obtain same | ⟨draft, _⟩ := @reinforced_status activation v
    · exact same.trans deprecated
    · cases draft.symm.trans deprecated
  | superseded => exact ⟨Nat.le_refl _, Nat.le_refl _, fun _ => rfl⟩

end Lifecycle

/-! ## In memory -/

/-- The life of a version in memory. -/
def LocalRunbook.lifecycle (r : LocalRunbook) : Lifecycle := ⟨r.successCount, r.failureCount, r.status⟩

/-- A version in memory, later. -/
structure LocalRunbook.Later (r r' : LocalRunbook) : Prop where
  runbookId : r'.runbookId = r.runbookId
  version : r'.version = r.version
  stepsHash : r'.stepsHash = r.stepsHash
  lifecycle : r.lifecycle.Later r'.lifecycle

/-- What one call does to a version in memory. -/
structure LocalRunbook.Changed (activation : Activation) (r r' : LocalRunbook) : Prop where
  runbookId : r'.runbookId = r.runbookId
  version : r'.version = r.version
  stepsHash : r'.stepsHash = r.stepsHash
  lifecycle : Lifecycle.Step activation r.lifecycle r'.lifecycle

namespace InMemoryRunbookRepository

/-- What a call that returns, or not, does to the versions of the candidate's key. -/
inductive Applied (rt : Runtime) (activation : Activation) (c : CandidateRunbook) (n : Nat)
    (versions : List LocalRunbook) : List LocalRunbook → Prop where
  | kept : Applied rt activation c n versions versions
  | weaken {r} : versions.getLast? = some r → c.outcome ≠ .success →
    Applied rt activation c n versions (versions.dropLast ++ [weakened r])
  | create : c.outcome = .success → c.embedding.length = 1024 →
    (∀ r, versions.getLast? = some r → r.stepsHash ≠ c.stepsHash rt) →
    Applied rt activation c n versions (versions ++ [created rt c n versions])
  | reinforce {r} : versions.getLast? = some r → c.outcome = .success →
    r.stepsHash = c.stepsHash rt →
    Applied rt activation c n versions (versions.dropLast ++ [reinforced activation r])

variable {rt : Runtime} {activation : Activation} {c : CandidateRunbook} {key : String} {n : Nat}
  {s : InMemoryRunbookRepository} {versions versions' : List LocalRunbook} {m : RunbookMutation}

lemma branch_spec (h : branch rt activation c n versions = .ok (versions', m)) :
    Applied rt activation c n versions versions' := by
  unfold branch at h
  split at h
  case h_1 none =>
    split at h
    case isTrue => cases h; exact .kept
    case isFalse success =>
      split at h
      case isTrue => cases h
      case isFalse len =>
        cases h
        refine .create (not_not.mp success) (not_not.mp len) fun r e => ?_
        cases none.symm.trans e
  case h_2 latest e =>
    split at h
    case isTrue failed => cases h; exact .weaken e failed
    case isFalse success =>
      split at h
      case isTrue differ =>
        split at h
        case isTrue => cases h
        case isFalse len =>
          cases h
          refine .create (not_not.mp success) (not_not.mp len) fun r e' => ?_
          cases e.symm.trans e'
          exact differ
      case isFalse same => cases h; exact .reinforce e (not_not.mp success) (not_not.mp same)

/-- What a call does to the versions of every key. -/
lemma apply_spec : ∃ n versions, Applied rt activation c n (s.versions c.key) versions ∧
    (∀ k, (apply rt activation s c key).1.versions k =
      if k = c.key then versions else s.versions k) ∧
    (Assoc.get s.processed key ≠ none → versions = s.versions c.key) := by
  have same : ∀ k, s.versions k = if k = c.key then s.versions c.key else s.versions k := by
    intro k
    split
    case isTrue e => rw [e]
    case isFalse => rfl
  unfold apply
  split
  case h_1 => exact ⟨0, _, .kept, same, fun _ => rfl⟩
  case h_2 new =>
    dsimp only
    split
    case h_1 => exact ⟨0, _, .kept, fun k => versions_setdefault.trans (same k), fun _ => rfl⟩
    case h_2 versions m e =>
      refine ⟨_, versions, branch_spec e, fun k => ?_, fun seen => absurd new seen⟩
      rw [versions_set, versions_setdefault]

/-- What a call does to a version, and how a version begins. -/
lemma Applied.evolves (applied : Applied rt activation c n versions versions') :
    Evolves (LocalRunbook.Changed activation) (fun r => r.lifecycle = .start) versions versions' := by
  have kept : ∀ r, LocalRunbook.Changed activation r r := fun r => ⟨rfl, rfl, rfl, .kept⟩
  cases applied with
  | kept => exact .refl kept
  | weaken e => exact .last kept e ⟨rfl, rfl, rfl, .weakened⟩
  | create => exact (Evolves.refl kept).insert rfl
  | reinforce e => exact .last kept e ⟨rfl, rfl, rfl, .reinforced⟩

/-- A call, on the versions of a key. -/
lemma apply_evolves {k} :
    Evolves (LocalRunbook.Changed activation) (fun r => r.lifecycle = .start) (s.versions k)
      ((apply rt activation s c key).1.versions k) := by
  obtain ⟨n, versions, applied, after, _⟩ := @apply_spec rt activation c key s
  rw [after]
  split
  case isTrue e => exact e ▸ applied.evolves
  case isFalse => exact .refl fun r => ⟨rfl, rfl, rfl, .kept⟩

/-- The state after a sequence of calls. -/
def applyAll (rt : Runtime) (activation : Activation) (s : InMemoryRunbookRepository)
    (calls : List (CandidateRunbook × String)) : InMemoryRunbookRepository :=
  Run.run (fun s a => (apply rt activation s a.1 a.2).1) s calls

lemma applyAll_append {calls calls'} : applyAll rt activation s (calls ++ calls') =
    applyAll rt activation (applyAll rt activation s calls) calls' :=
  Run.run_append

lemma applyAll_sound {calls k} (h : ∀ r ∈ s.versions k, r.lifecycle.Sound activation) :
    ∀ r ∈ (applyAll rt activation s calls).versions k, r.lifecycle.Sound activation := by
  refine Run.run_invariant (I := fun s : InMemoryRunbookRepository =>
    ∀ r ∈ s.versions k, r.lifecycle.Sound activation) (fun s a _ h => ?_) h
  apply apply_evolves.all _ _ h
  · intro r start
    rw [start]
    exact Lifecycle.start_sound
  · exact fun _ _ changed => changed.lifecycle.sound

/-- What a sequence of calls does to the versions. -/
lemma applyAll_evolves {calls k} :
    Evolves LocalRunbook.Later (fun _ => True) (s.versions k)
      ((applyAll rt activation s calls).versions k) := by
  apply Run.run_relation (R := fun s s' : InMemoryRunbookRepository =>
    Evolves LocalRunbook.Later (fun _ => True) (s.versions k) (s'.versions k))
  · exact fun s => .refl fun r => ⟨rfl, rfl, rfl, .refl⟩
  · intro s t u e e'
    refine e.trans ?_ (fun _ _ _ _ => trivial) e'
    intro r r' r'' h h'
    exact ⟨h'.runbookId.trans h.runbookId, h'.version.trans h.version, h'.stepsHash.trans h.stepsHash,
      h.lifecycle.trans h'.lifecycle⟩
  · intro s a _
    exact apply_evolves.mono
      (fun _ _ h => ⟨h.runbookId, h.version, h.stepsHash, h.lifecycle.later⟩) fun _ _ => trivial

end InMemoryRunbookRepository

/-! ## In the database -/

open CockroachRunbookRepository

/-- The life of a version in the database. -/
def Runbook.lifecycle (r : Runbook) : Lifecycle := ⟨r.successCount, r.failureCount, r.status⟩

/-- A row of `procedural_memory`, later. -/
structure Runbook.Later (r r' : Runbook) : Prop where
  runbookId : r'.runbookId = r.runbookId
  key : (r'.orgId, r'.agentId, r'.name, r'.version) = (r.orgId, r.agentId, r.name, r.version)
  steps : r'.steps = r.steps
  usageCount : r.usageCount ≤ r'.usageCount
  lifecycle : r.lifecycle.Later r'.lifecycle

/-- What one operation does to a row of `procedural_memory`. -/
structure Runbook.Changed (activation : Activation) (r r' : Runbook) : Prop where
  runbookId : r'.runbookId = r.runbookId
  key : (r'.orgId, r'.agentId, r'.name, r'.version) = (r.orgId, r.agentId, r.name, r.version)
  steps : r'.steps = r.steps
  usageCount : r.usageCount ≤ r'.usageCount
  lifecycle : Lifecycle.Step activation r.lifecycle r'.lifecycle

section database

variable {cfg : Config} {db : Database} {op : Op}

lemma Runbook.Changed.refl {activation} (r : Runbook) : r.Changed activation r :=
  ⟨rfl, rfl, rfl, Nat.le_refl _, .kept⟩

lemma Runbook.Changed.later {activation} {r r' : Runbook} (h : r.Changed activation r') : r.Later r' :=
  ⟨h.runbookId, h.key, h.steps, h.usageCount, h.lifecycle.later⟩

lemma Runbook.Changed.superseded {activation} (r : Runbook) : r.Changed activation (superseded r) :=
  ⟨rfl, rfl, rfl, Nat.le_refl _, .superseded⟩

/-- The rows of `procedural_memory` after an operation: the rows changed, or a version was created. -/
inductive RowsStepped (rt : Runtime) (activation : Activation) (db : Database) : List Runbook → Prop where
  | changed {rows} : Evolves (Runbook.Changed activation) (fun _ => False) db.proceduralMemory rows →
    RowsStepped rt activation db rows
  | created {c i g prior} : latest? i c.name db = prior →
    RowsStepped rt activation db
      (supersede prior db.proceduralMemory ++ [created rt c i (nextVersion prior) g])

/-- A call, on the rows of `procedural_memory`. -/
lemma Applied.rows {rt activation c i g db'} {m : RunbookMutation}
    (applied : Applied rt activation c i g db db' m) :
    RowsStepped rt activation db db'.proceduralMemory := by
  cases applied with
  | replay => exact .changed (.refl .refl)
  | ignored => exact .changed (.refl .refl)
  | weaken => exact .changed (.update .refl fun r => ⟨rfl, rfl, rfl, Nat.le_succ _, .weakened⟩)
  | reinforce => exact .changed (.update .refl fun r => ⟨rfl, rfl, rfl, Nat.le_succ _, .reinforced⟩)
  | create _ newest => exact .created newest

lemma step_rows : RowsStepped cfg.rt cfg.activation db (step cfg db op).proceduralMemory := by
  have spec := @step_spec cfg db op
  generalize step cfg db op = db' at spec ⊢
  cases spec with
  | idle => exact .changed (.refl .refl)
  | remediate wrote =>
    obtain ⟨_, _, _, action, _, rfl⟩ := wrote
    exact .changed (.update .refl fun r => ⟨rfl, rfl, rfl, Nat.le_succ _, .kept⟩)
  | recordOutcome wrote =>
    obtain ⟨_, _, _, _, rfl⟩ := wrote
    exact .changed (.refl .refl)
  | consolidate _ applied => exact Applied.rows applied
  | retire => exact .changed (.update .refl .superseded)
  | expire => exact .changed (.refl .refl)

lemma supersede_evolves {R : Runbook → Runbook → Prop} {Born prior rows} (refl : ∀ r, R r r)
    (h : ∀ r, R r (superseded r)) : Evolves R Born rows (supersede prior rows) := by
  cases prior with
  | none => exact .refl refl
  | some r => exact .update refl h

/-- The versions change as `Runbook.Changed` says, and a new one starts as a draft. -/
lemma RowsStepped.evolves {rt activation rows} (h : RowsStepped rt activation db rows) :
    Evolves (Runbook.Changed activation) (fun r => r.lifecycle = .start) db.proceduralMemory rows := by
  cases h with
  | changed e => exact e.mono (fun _ _ h => h) nofun
  | created => exact (supersede_evolves .refl .superseded).insert rfl

lemma run_sound {ops} (h : ∀ r ∈ db.proceduralMemory, r.lifecycle.Sound cfg.activation) :
    ∀ r ∈ (Run.run (step cfg) db ops).proceduralMemory, r.lifecycle.Sound cfg.activation := by
  refine Run.run_invariant (I := fun db : Database =>
    ∀ r ∈ db.proceduralMemory, r.lifecycle.Sound cfg.activation) (fun db op _ h => ?_) h
  apply step_rows.evolves.all _ _ h
  · intro r start
    rw [start]
    exact Lifecycle.start_sound
  · exact fun _ _ changed => changed.lifecycle.sound

/-- What a run does to the rows of `procedural_memory`. -/
lemma run_evolves {ops} :
    Evolves Runbook.Later (fun _ => True) db.proceduralMemory
      (Run.run (step cfg) db ops).proceduralMemory := by
  apply Run.run_relation (R := fun db db' : Database =>
    Evolves Runbook.Later (fun _ => True) db.proceduralMemory db'.proceduralMemory)
  · exact fun db => .refl fun r => (@Runbook.Changed.refl cfg.activation r).later
  · intro db db' db'' e e'
    refine e.trans ?_ (fun _ _ _ _ => trivial) e'
    intro r r' r'' h h'
    exact ⟨h'.runbookId.trans h.runbookId, h'.key.trans h.key, h'.steps.trans h.steps,
      h.usageCount.trans h'.usageCount, h.lifecycle.trans h'.lifecycle⟩
  · intro db op _
    exact step_rows.evolves.mono (fun _ _ h => h.later) fun _ _ => trivial

end database

/-- Along every sequence of calls of either repository, in the database between any other operations,
every version is in order, and from any point on no count decreases and no deprecation is undone. -/
theorem runbook_versions_in_order (cfg : Config) :
    (∀ pre post k,
      let s := InMemoryRunbookRepository.applyAll cfg.rt cfg.activation {} pre
      let s' := InMemoryRunbookRepository.applyAll cfg.rt cfg.activation {} (pre ++ post)
      (∀ r ∈ s.versions k, r.lifecycle.Sound cfg.activation) ∧
      ∀ (n : Nat) (r : LocalRunbook), (s.versions k)[n]? = some r →
        ∃ r', (s'.versions k)[n]? = some r' ∧ r.Later r') ∧
    ∀ db : Database, db.Admitted →
      (∀ r ∈ db.proceduralMemory, r.lifecycle.Sound cfg.activation) → ∀ pre post,
      let before := Run.run (step cfg) db pre
      let after := Run.run (step cfg) db (pre ++ post)
      (∀ r ∈ before.proceduralMemory,
        r.successCount + r.failureCount ≤ r.usageCount ∧ 0 ≤ r.successRate ∧ r.successRate ≤ 1 ∧
          r.lifecycle.Sound cfg.activation) ∧
      ∀ r ∈ before.proceduralMemory, ∃ r' ∈ after.proceduralMemory, r.Later r' := by
  refine ⟨fun pre post k => ⟨?_, ?_⟩, fun db adm sound pre post => ⟨fun r hr => ?_, fun r hr => ?_⟩⟩
  · exact InMemoryRunbookRepository.applyAll_sound (fun r hr => by cases hr)
  · intro n r h
    have e := @InMemoryRunbookRepository.applyAll_evolves cfg.rt cfg.activation
      (InMemoryRunbookRepository.applyAll cfg.rt cfg.activation {} pre) post k
    rw [← InMemoryRunbookRepository.applyAll_append] at e
    exact e.getElem? h
  · have adm := @run_admitted cfg db pre adm
    exact ⟨adm.counts r hr, (adm.rate r hr).1, (adm.rate r hr).2, run_sound sound r hr⟩
  · rw [Run.run_append]
    exact run_evolves.mem hr

/-- `runbook_versions_in_order` on two consolidated incidents. -/
theorem runbook_versions_in_order_sample :
    let before := Run.run (step Sample.config) Sample.busy
      [.consolidate (Sample.candidate 0) ⟨0, .sample 0 2⟩]
    let after := Run.run (step Sample.config) Sample.busy
      ([.consolidate (Sample.candidate 0) ⟨0, .sample 0 2⟩] ++
        [.consolidate (Sample.candidate 1) ⟨1, .sample 1 2⟩])
    ∀ r ∈ before.proceduralMemory, ∃ r' ∈ after.proceduralMemory, r.Later r' :=
  ((runbook_versions_in_order Sample.config).2 Sample.busy Sample.busy_admitted nofun _ _).2

/-! ## One live version -/

/-- At most one version of the name is not deprecated, and it is the newest one. -/
structure SingleLive (k : RunbookName) (rows : List Runbook) : Prop where
  newest : ∀ r ∈ rows, OfName k r → r.status ≠ .deprecated →
    ∀ s ∈ rows, OfName k s → s.version ≤ r.version
  one : ∀ r ∈ rows, OfName k r → r.status ≠ .deprecated →
    ∀ s ∈ rows, OfName k s → s.status ≠ .deprecated → r = s

/-- In memory the newest version is the last one. -/
structure LocalSingleLive (versions : List LocalRunbook) : Prop where
  newest : ∀ (n : Nat) (r : LocalRunbook), versions[n]? = some r → r.status ≠ .deprecated →
    n + 1 = versions.length
  one : ∀ (n m : Nat) (r s : LocalRunbook), versions[n]? = some r → r.status ≠ .deprecated →
    versions[m]? = some s → s.status ≠ .deprecated → n = m

/-- In memory every version but the last is deprecated. -/
lemma localSingleLive_iff {versions : List LocalRunbook} :
    LocalSingleLive versions ↔ ∀ r ∈ versions.dropLast, r.status = .deprecated := by
  constructor
  · intro live r hr
    by_contra h
    obtain ⟨n, lt, rfl⟩ := List.mem_iff_getElem.mp hr
    rw [List.length_dropLast] at lt
    have at_n : versions[n]? = some versions.dropLast[n] := by
      rw [List.getElem_dropLast]
      exact List.getElem?_eq_getElem _
    have last := live.newest n _ at_n h
    omega
  · intro h
    have newest : ∀ (n : Nat) (r : LocalRunbook), versions[n]? = some r → r.status ≠ .deprecated →
        n + 1 = versions.length := by
      intro n r e live
      obtain ⟨lt, e⟩ := List.getElem?_eq_some_iff.mp e
      by_contra ne
      have lt' : n < versions.dropLast.length := by rw [List.length_dropLast]; omega
      apply live
      rw [← e, ← List.getElem_dropLast lt']
      exact h _ (List.getElem_mem lt')
    refine ⟨newest, fun n m r s er hr es hs => ?_⟩
    have := newest n r er hr
    have := newest m s es hs
    omega

namespace InMemoryRunbookRepository

variable {rt : Runtime} {activation : Activation} {c : CandidateRunbook} {key : String}
  {s : InMemoryRunbookRepository}

/-- The call creates a version over one that is not deprecated. -/
def Displaces (rt : Runtime) (s : InMemoryRunbookRepository) (c : CandidateRunbook) (key : String) :
    Prop :=
  Assoc.get s.processed key = none ∧ c.outcome = .success ∧ c.embedding.length = 1024 ∧
    ∃ r, (s.versions c.key).getLast? = some r ∧ r.stepsHash ≠ c.stepsHash rt ∧ r.status ≠ .deprecated

/-- A call that displaces a version leaves it as it was. -/
lemma versions_of_displaces (h : Displaces rt s c key) :
    ∃ r, (apply rt activation s c key).1.versions c.key = s.versions c.key ++ [r] := by
  obtain ⟨new, success, len, r, last, differ, _⟩ := h
  simp only [apply, new, branch, last, success, len, differ, ne_eq, not_true_eq_false, not_false_eq_true,
    if_true, if_false]
  exact ⟨_, versions_set.trans (if_pos rfl)⟩

/-- One call keeps a single live version exactly where it displaces none. -/
lemma apply_singleLive :
    (∀ k, LocalSingleLive ((apply rt activation s c key).1.versions k)) ↔
      (∀ k, LocalSingleLive (s.versions k)) ∧ ¬ Displaces rt s c key := by
  simp only [localSingleLive_iff]
  obtain ⟨n, versions, applied, after, seen⟩ := @apply_spec rt activation c key s
  constructor
  · intro live
    refine ⟨fun k r hr => ?_, fun displaces => ?_⟩
    · have live := live k
      rw [after] at live
      split at live
      case isFalse => exact live r hr
      case isTrue e =>
        subst e
        cases applied with
        | kept => exact live r hr
        | weaken => exact live r (by rwa [List.dropLast_concat])
        | reinforce => exact live r (by rwa [List.dropLast_concat])
        | create => exact live r (by rw [List.dropLast_concat]; exact List.mem_of_mem_dropLast hr)
    · obtain ⟨new, e⟩ := @versions_of_displaces rt activation c key s displaces
      obtain ⟨_, _, _, r, last, _, alive⟩ := displaces
      have live := live c.key
      rw [e, List.dropLast_concat] at live
      exact alive (live r (List.mem_of_getLast? last))
  · rintro ⟨live, nd⟩ k
    rw [after]
    split
    case isFalse => exact live k
    case isTrue e =>
      subst e
      cases applied with
      | kept => exact live _
      | weaken => rw [List.dropLast_concat]; exact live _
      | reinforce => rw [List.dropLast_concat]; exact live _
      | create success len differ =>
        rw [List.dropLast_concat]
        intro r hr
        have new : Assoc.get s.processed key = none := by
          by_contra known
          have grew := congrArg List.length (seen known)
          simp at grew
        cases last : (s.versions c.key).getLast? with
        | none =>
          rw [List.getLast?_eq_none_iff.mp last] at hr
          cases hr
        | some latest =>
          rw [← List.dropLast_append_getLast? latest last] at hr
          rcases List.mem_append.mp hr with hr | hr
          · exact live _ r hr
          · rw [List.mem_singleton.mp hr]
            by_contra alive
            exact nd ⟨new, success, len, latest, last, differ latest last, alive⟩

/-- A sequence of calls keeps a single live version of every key exactly where no call of it displaces a
version. -/
lemma applyAll_singleLive {calls} (live : ∀ k, LocalSingleLive (s.versions k)) :
    (∀ k, LocalSingleLive ((applyAll rt activation s calls).versions k)) ↔
      ¬ ∃ pre a post, calls = pre ++ a :: post ∧
        Displaces rt (applyAll rt activation s pre) a.1 a.2 := by
  induction calls using List.reverseRecOn with
  | nil => exact iff_of_true live fun ⟨pre, a, post, e, _⟩ => by simp at e
  | append_singleton calls a ih =>
    rw [Run.split_concat, not_or, ← ih, applyAll_append]
    exact apply_singleLive
end InMemoryRunbookRepository

section database

variable {cfg : Config} {db : Database} {k : RunbookName} {rows : List Runbook}

/-- Changed rows have a single live version of a name where the rows had. -/
lemma newest_changed {activation}
    (e : Evolves (Runbook.Changed activation) (fun _ => False) db.proceduralMemory rows)
    (live : SingleLive k db.proceduralMemory) :
    ∀ r ∈ rows, OfName k r → r.status ≠ .deprecated → ∀ s ∈ rows, OfName k s →
      s.version ≤ r.version := by
  have before : ∀ r' ∈ rows, OfName k r' → ∃ r ∈ db.proceduralMemory, OfName k r ∧
      r'.version = r.version ∧ (r.status = .deprecated → r'.status = .deprecated) := by
    intro r' hr' n'
    obtain ⟨r, hr, changed⟩ | no := e.source hr'
    case inr => exact no.elim
    have key := changed.key
    simp only [Prod.mk.injEq] at key
    obtain ⟨o, a, n, v⟩ := key
    exact ⟨r, hr, by rwa [OfName, o, a, n] at n', v, changed.lifecycle.later.deprecated⟩
  intro r' hr' nr' alive s' hs' ns'
  obtain ⟨r, hr, nr, vr, kept⟩ := before r' hr' nr'
  obtain ⟨s, hs, ns, vs, _⟩ := before s' hs' ns'
  rw [vr, vs]
  exact live.newest r hr nr (fun d => alive (kept d)) s hs ns

/-- Where a version is created, the versions of its name are deprecated. -/
lemma supersede_deprecated {c : CandidateRunbook} {i prior} (adm : db.Admitted) (top : latest? i c.name db = prior)
    (live : SingleLive (c.nameWith i) db.proceduralMemory) :
    ∀ r ∈ supersede prior db.proceduralMemory, OfName (c.nameWith i) r →
      r.status = .deprecated ∧ r.version < nextVersion prior := by
  intro r' hr' n'
  cases prior with
  | none => exact absurd n' (latest?_eq_none.mp top r' hr')
  | some latest =>
    obtain ⟨hl, nl⟩ := latest?_mem top
    obtain ⟨r, hr, rfl⟩ := Table.mem_update.mp hr'
    by_cases sel : r.runbookId = latest.runbookId
    · obtain rfl := adm.runbooks.eq hr hl sel
      rw [if_pos (decide_eq_true rfl)]
      exact ⟨rfl, Nat.lt_succ_self _⟩
    · rw [if_neg (by simpa using sel)] at n' ⊢
      have le : r.version ≤ latest.version := latest?_le top r hr n'
      refine ⟨?_, Nat.lt_succ_of_le le⟩
      by_contra alive
      have ge := live.newest r hr n' alive latest hl nl
      have one := OfName.eq_of_version adm hr hl n' nl (Nat.le_antisymm le ge)
      exact sel (congrArg Runbook.runbookId one)

/-- The rows after an operation have a single live version of a name where those before had. -/
lemma RowsStepped.newest {rt activation} (stepped : RowsStepped rt activation db rows)
    (adm : db.Admitted) (live : ∀ k, SingleLive k db.proceduralMemory) :
    ∀ r ∈ rows, OfName k r → r.status ≠ .deprecated → ∀ s ∈ rows, OfName k s →
      s.version ≤ r.version := by
  cases stepped with
  | changed e => exact newest_changed e (live k)
  | @created c i g prior top =>
    -- a new version of the name is newer than the versions of the name, which are deprecated
    have new : OfName k (CockroachRunbookRepository.created rt c i (nextVersion prior) g) →
        ∀ r ∈ supersede prior db.proceduralMemory, OfName k r →
          r.status = .deprecated ∧ r.version < nextVersion prior := by
      intro n r hr nr
      obtain rfl := (ofName_nameWith (c := c) (i := i) ⟨rfl, rfl, rfl⟩).mp n
      exact supersede_deprecated adm top (live _) r hr nr
    intro r hr nr alive s hs ns
    rcases List.mem_append.mp hr with hr | hr
    · rcases List.mem_append.mp hs with hs | hs
      · have old : Evolves (Runbook.Changed activation) (fun _ => False) db.proceduralMemory
            (supersede prior db.proceduralMemory) := supersede_evolves .refl .superseded
        exact newest_changed old (live k) r hr nr alive s hs ns
      · obtain rfl := List.mem_singleton.mp hs
        exact absurd (new ns r hr nr).1 alive
    · obtain rfl := List.mem_singleton.mp hr
      rcases List.mem_append.mp hs with hs | hs
      · exact (new nr s hs ns).2.le
      · rw [List.mem_singleton.mp hs]

lemma run_singleLive {ops} (adm : db.Admitted) (live : ∀ k, SingleLive k db.proceduralMemory) :
    ∀ k, SingleLive k (Run.run (step cfg) db ops).proceduralMemory := by
  refine (Run.run_invariant (I := fun db : Database =>
    db.Admitted ∧ ∀ k, SingleLive k db.proceduralMemory) (fun db op _ h => ?_) ⟨adm, live⟩).2
  obtain ⟨adm, live⟩ := h
  have adm' := @step_admitted cfg db op adm
  refine ⟨adm', fun k => ?_⟩
  have newest := RowsStepped.newest (k := k) (@step_rows cfg db op) adm live
  refine ⟨newest, fun r hr nr alive s hs ns alive' => ?_⟩
  have le := newest r hr nr alive s hs ns
  have ge := newest s hs ns alive' r hr nr
  exact OfName.eq_of_version adm' hr hs nr ns (Nat.le_antisymm ge le)

end database

/-- In the database every run keeps a single live version of every name. In memory a sequence of calls
does exactly where no call of it creates a version over one that is not deprecated. -/
theorem single_live_version (cfg : Config) :
    (∀ db : Database, db.Admitted → db.proceduralMemory = [] → ∀ ops k,
      SingleLive k (Run.run (step cfg) db ops).proceduralMemory) ∧
    ∀ calls, (∀ k, LocalSingleLive
        ((InMemoryRunbookRepository.applyAll cfg.rt cfg.activation {} calls).versions k)) ↔
      ¬ ∃ pre a post, calls = pre ++ a :: post ∧ InMemoryRunbookRepository.Displaces cfg.rt
        (InMemoryRunbookRepository.applyAll cfg.rt cfg.activation {} pre) a.1 a.2 := by
  constructor
  · intro db adm empty ops
    apply run_singleLive adm
    intro k
    rw [empty]
    exact ⟨List.forall_mem_nil _, List.forall_mem_nil _⟩
  · intro calls
    apply InMemoryRunbookRepository.applyAll_singleLive
    exact fun k => localSingleLive_iff.mpr nofun

namespace Sample

/-- The first incident, and the second with other steps. -/
def twoProcedures : List (CandidateRunbook × String) :=
  [(candidate 0, "first"), ({ candidate 1 with steps := [.obj [("order", .int 2)]] }, "second")]

end Sample

/-- `single_live_version` on the consolidated incidents. -/
theorem single_live_version_sample :
    SingleLive Sample.runbook (Run.run (step Sample.config) Sample.busy
      [.consolidate (Sample.candidate 0) ⟨0, .sample 0 2⟩]).proceduralMemory :=
  (single_live_version Sample.config).1 Sample.busy Sample.busy_admitted rfl _ _

/-- In memory the version of a changed procedure stays a draft. -/
theorem two_procedures_both_live :
    ¬ ∀ k, LocalSingleLive ((InMemoryRunbookRepository.applyAll Sample.config.rt
      Sample.config.activation {} Sample.twoProcedures).versions k) := by
  intro live
  have deprecated := localSingleLive_iff.mp (live Sample.runbook.key)
  have draft : ((InMemoryRunbookRepository.applyAll Sample.config.rt Sample.config.activation {}
      Sample.twoProcedures).versions Sample.runbook.key).dropLast.map LocalRunbook.status = [.draft] := by
    decide +kernel
  obtain ⟨r, e, alive⟩ := List.map_eq_singleton_iff.mp draft
  rw [e] at deprecated
  cases alive.symm.trans (deprecated r (List.mem_singleton_self r))

end Postmortem
