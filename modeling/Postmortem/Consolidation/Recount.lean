import Postmortem.Consolidation.Shelf

/-!
# Candidates that are applied again

Consolidation is at least once: a candidate can be applied after it was applied. A shelf only ever
grows, so a run of candidates leaves it as it was exactly where none of them writes (`run_eq_iff`).
`Harmless` says, on the state before a run of candidates, that a candidate would write nothing after
it. `Ahead` carries the difference that a candidate made through the candidates that follow.
-/

namespace Postmortem

open CockroachRunbookRepository

namespace Shelf

variable (rt : Runtime) (activation : Activation) (k : RunbookName)

/-- A candidate, on the shelf of the name `k`. -/
def step (s : Shelf) (c : CandidateRunbook) : Shelf :=
  match ids? c with
  | some i => if c.nameWith i = k then (s.apply rt activation c i).1 else s
  | none => s

/-- The candidate writes to the shelf of the name `k`. -/
def Writes (s : Shelf) (c : CandidateRunbook) : Prop :=
  ∃ i, ids? c = some i ∧ c.nameWith i = k ∧ i.incident ∉ s.incidents ∧
    (c.outcome = .success ∨ s.versions ≠ [])

/-- The successes and counterexamples of all versions. -/
def evidence (s : Shelf) : Nat := (s.versions.map fun r => r.successCount + r.failureCount).sum

/-- What holds of the shelves of a database. -/
structure Sound (s : Shelf) : Prop where
  versions : Table.Unique Runbook.version s.versions
  incidents : s.incidents ≠ [] → s.versions ≠ []

/-- What a candidate that writes does. -/
structure Written (s : Shelf) (c : CandidateRunbook) (s' : Shelf) : Prop where
  sound : s'.Sound
  some : s'.versions ≠ []
  evidence : s'.evidence = s.evidence + 1
  incidents : ∀ i, ids? c = .some i → s'.incidents = s.incidents ++ [i.incident]

variable {rt activation k} {s : Shelf} {c : CandidateRunbook} {i : Ids} {r : Runbook}
  {f : Runbook → Runbook}

lemma newest_mem (h : s.newest = some r) : r ∈ s.versions := Table.first_mem h

lemma newest_eq_none : s.newest = none ↔ s.versions = [] := Table.first_eq_none

lemma change_versions (same : ∀ r : Runbook, (f r).version = r.version) (r : Runbook) :
    (change r f s.versions).map Runbook.version = s.versions.map Runbook.version :=
  Table.map_update fun r _ _ => same r

/-- A change of the newest version that adds one to its counts. -/
lemma written_change (sound : s.Sound) (h : s.newest = some r) (hi : ids? c = some i)
    (same : ∀ r : Runbook, (f r).version = r.version)
    (adds : ∀ r : Runbook, (f r).successCount + (f r).failureCount = r.successCount + r.failureCount + 1) :
    Written s c (counted i s (change r f s.versions)) := by
  have mem := newest_mem h
  have versions := change_versions (s := s) same r
  have some : change r f s.versions ≠ [] := by
    intro empty
    rw [empty, eq_comm, List.map_nil, List.map_eq_nil_iff] at versions
    rw [versions] at mem
    cases mem
  refine ⟨⟨?_, fun _ => some⟩, some, ?_, ?_⟩
  · show (List.map _ (change r f s.versions)).Nodup
    rw [versions]
    exact sound.versions
  · have sum := Table.sum_update (f := fun r => (f r).face)
      (m := fun r => r.successCount + r.failureCount) sound.versions mem
    have one : ((f r).face.successCount + (f r).face.failureCount) =
        r.successCount + r.failureCount + 1 := adds r
    show (List.map _ (change r f s.versions)).sum = _ + 1
    rw [one] at sum
    simp only [change, evidence]
    omega
  · rintro _ e
    cases hi.symm.trans e
    rfl

lemma written_fresh {prior} (sound : s.Sound) (h : s.newest = prior) (hi : ids? c = some i) :
    Written s c (counted i s (superseding s.versions prior ++ [fresh rt c i prior])) := by
  have versions : (superseding s.versions prior).map Runbook.version =
      s.versions.map Runbook.version := by
    cases prior with
    | none => rfl
    | some r => exact change_versions (f := superseded) (fun _ => rfl) r
  have counts : ((superseding s.versions prior).map fun r => r.successCount + r.failureCount) =
      s.versions.map fun r => r.successCount + r.failureCount := by
    cases prior with
    | none => rfl
    | some r => exact Table.map_update fun r _ _ => rfl
  refine ⟨⟨?_, fun _ => by simp [counted]⟩, by simp [counted], ?_, ?_⟩
  · show (List.map _ (_ ++ [_])).Nodup
    rw [List.map_append, versions]
    apply List.Nodup.append sound.versions (List.nodup_singleton _)
    intro v old new
    obtain ⟨r, hr, rfl⟩ := List.mem_map.mp old
    obtain e := List.mem_singleton.mp new
    cases prior with
    | none =>
      rw [newest_eq_none.mp h] at hr
      cases hr
    | some top =>
      have le : r.version ≤ top.version := Table.first_le h r hr
      have next : r.version = top.version + 1 := e
      omega
  · show (List.map _ (_ ++ [_])).sum = _ + 1
    rw [List.map_append, counts, List.sum_append]
    rfl
  · rintro _ e
    cases hi.symm.trans e
    rfl

lemma step_eq_self (h : ¬ Writes k s c) : step rt activation k s c = s := by
  unfold step
  cases hi : ids? c with
  | none => rfl
  | some i =>
    show (if c.nameWith i = k then _ else s) = s
    split
    case isFalse => rfl
    case isTrue name =>
      unfold Shelf.apply
      split
      case isTrue => rfl
      case isFalse counts =>
        have blank : ¬ (c.outcome = .success ∨ s.versions ≠ []) := fun writes =>
          h ⟨i, hi, name, counts, writes⟩
        rw [not_or, not_not] at blank
        rw [newest_eq_none.mpr blank.2]
        exact congrArg Prod.fst (if_pos blank.1)

lemma step_written (sound : s.Sound) (h : Writes k s c) :
    Written s c (step rt activation k s c) := by
  obtain ⟨i, hi, name, counts, writes⟩ := h
  simp only [step, hi, if_pos name, Shelf.apply, if_neg counts]
  cases top : s.newest with
  | none =>
    have success : c.outcome = .success := writes.resolve_right fun ne => ne (newest_eq_none.mp top)
    simp only [success, ne_eq, not_true_eq_false, if_false]
    exact written_fresh sound top hi
  | some r =>
    simp only
    split
    case isTrue => exact written_change sound top hi (fun _ => rfl) fun _ => rfl
    case isFalse =>
      split
      case isTrue => exact written_fresh sound top hi
      case isFalse =>
        exact written_change sound top hi (fun _ => rfl) fun r => Nat.add_right_comm _ _ _

lemma step_eq_iff (sound : s.Sound) : step rt activation k s c = s ↔ ¬ Writes k s c := by
  refine ⟨fun e writes => ?_, step_eq_self⟩
  have more := (@step_written rt activation _ _ _ sound writes).evidence
  rw [e] at more
  omega

lemma step_sound (sound : s.Sound) : (step rt activation k s c).Sound := by
  by_cases writes : Writes k s c
  · exact (step_written sound writes).sound
  · rw [step_eq_self writes]
    exact sound

lemma step_incidents (sound : s.Sound) :
    s.incidents ⊆ (step rt activation k s c).incidents := by
  by_cases writes : Writes k s c
  · obtain ⟨i, hi, _⟩ := id writes
    rw [(step_written sound writes).incidents i hi]
    exact List.subset_append_left _ _
  · rw [step_eq_self writes]
    exact fun _ h => h

/-- The versions of a shelf after a candidate. -/
lemma step_versions (sound : s.Sound) :
    (step rt activation k s c).versions ≠ [] ↔
      s.versions ≠ [] ∨ (candidateName? c = some k ∧ c.outcome = .success) := by
  by_cases writes : Writes k s c
  · obtain ⟨i, hi, name, _, success | known⟩ := id writes
    · exact iff_of_true (step_written sound writes).some (.inr ⟨by simp [candidateName?, hi, name], success⟩)
    · exact iff_of_true (step_written sound writes).some (.inl known)
  · rw [step_eq_self writes]
    refine (or_iff_left_of_imp ?_).symm
    rintro ⟨name, success⟩
    obtain ⟨i, hi, name⟩ := Option.map_eq_some_iff.mp name
    apply sound.incidents
    intro none
    exact writes ⟨i, hi, name, by simp [none], .inl success⟩

/-- The incidents of a shelf after a candidate. -/
lemma mem_step_incidents {x} (sound : s.Sound) :
    x ∈ (step rt activation k s c).incidents ↔ x ∈ s.incidents ∨
      ∃ i, ids? c = some i ∧ c.nameWith i = k ∧ i.incident = x ∧
        (c.outcome = .success ∨ s.versions ≠ []) := by
  by_cases writes : Writes k s c
  · obtain ⟨i, hi, name, _, or⟩ := id writes
    rw [(step_written sound writes).incidents i hi, List.mem_append, List.mem_singleton]
    apply or_congr_right
    refine ⟨fun e => ⟨i, hi, name, e.symm, or⟩, ?_⟩
    rintro ⟨j, hj, _, e, _⟩
    cases hi.symm.trans hj
    exact e.symm
  · rw [step_eq_self writes]
    refine (or_iff_left_of_imp ?_).symm
    rintro ⟨i, hi, name, rfl, or⟩
    by_contra counts
    exact writes ⟨i, hi, name, counts, or⟩

/-! ## Runs of candidates -/

variable {cs : List CandidateRunbook}

lemma run_sound (sound : s.Sound) : (Run.run (step rt activation k) s cs).Sound :=
  Run.run_invariant (fun _ _ _ sound => step_sound sound) sound

/-- A run of candidates adds to the evidence, or none of them writes. -/
lemma run_grows (sound : s.Sound) :
    s.evidence < (Run.run (step rt activation k) s cs).evidence ∨ ∀ c ∈ cs, ¬ Writes k s c := by
  have grows := @Run.run_measure _ _ (step rt activation k) Sound evidence cs s
    (fun _ _ _ sound => step_sound sound) ?each sound
  case each =>
    intro s c _ sound
    by_cases writes : Writes k s c
    · right
      rw [(step_written sound writes).evidence]
      exact Nat.lt_succ_self _
    · exact .inl (step_eq_self writes)
  rcases grows with grows | idle
  · exact .inl grows
  · exact .inr fun c hc => (step_eq_iff sound).mp (idle c hc)

lemma run_eq_self (h : ∀ c ∈ cs, ¬ Writes k s c) : Run.run (step rt activation k) s cs = s :=
  Run.run_idle fun c hc => step_eq_self (h c hc)

/-- The versions of a shelf after a run of candidates. -/
lemma run_versions (sound : s.Sound) :
    (Run.run (step rt activation k) s cs).versions ≠ [] ↔ s.versions ≠ [] ∨
      ∃ c ∈ cs, candidateName? c = some k ∧ c.outcome = .success := by
  induction cs using List.reverseRecOn with
  | nil => simp
  | append_singleton cs c ih =>
    rw [Run.run_append, Run.run_cons, Run.run_nil, step_versions (run_sound sound), ih, or_assoc]
    simp [or_and_right, exists_or]

/-- The incidents of a shelf after a run of candidates. -/
lemma mem_run_incidents {x} (sound : s.Sound) :
    x ∈ (Run.run (step rt activation k) s cs).incidents ↔ x ∈ s.incidents ∨
      ∃ before c after, cs = before ++ c :: after ∧
        ∃ i, ids? c = some i ∧ c.nameWith i = k ∧ i.incident = x ∧
          (c.outcome = .success ∨ s.versions ≠ [] ∨
            ∃ b ∈ before, candidateName? b = some k ∧ b.outcome = .success) := by
  induction cs using List.reverseRecOn with
  | nil => simp
  | append_singleton cs c ih =>
    rw [Run.run_append, Run.run_cons, Run.run_nil, mem_step_incidents (run_sound sound), ih, or_assoc,
      run_versions sound]
    apply or_congr_right
    exact (Run.split_concat (P := fun before (c : CandidateRunbook) => ∃ i, ids? c = some i ∧
      c.nameWith i = k ∧ i.incident = x ∧ (c.outcome = .success ∨ s.versions ≠ [] ∨
        ∃ b ∈ before, candidateName? b = some k ∧ b.outcome = .success))).symm

/-- The shelf `t` is ahead of `s`, which knows every incident of the candidates that `t` knows. -/
structure Ahead (k : RunbookName) (cs : List CandidateRunbook) (s t : Shelf) : Prop where
  evidence : s.evidence < t.evidence
  versions : s.versions ≠ [] → t.versions ≠ []
  incidents : ∀ c ∈ cs, ∀ i, ids? c = some i → c.nameWith i = k → i.incident ∈ t.incidents →
    i.incident ∈ s.incidents

/-- Two candidates of different incidents. -/
def Apart (a b : CandidateRunbook) : Prop := (a.orgId, a.incidentId) ≠ (b.orgId, b.incidentId)

/-- Candidates of different incidents keep the distance of two shelves. -/
lemma Ahead.run {t} (ahead : Ahead k cs s t) (apart : cs.Pairwise Apart) (hs : s.Sound)
    (ht : t.Sound) : (Run.run (step rt activation k) s cs).evidence <
      (Run.run (step rt activation k) t cs).evidence := by
  induction cs generalizing s t with
  | nil => exact ahead.evidence
  | cons c cs ih =>
    obtain ⟨apart, rest⟩ := List.pairwise_cons.mp apart
    refine ih ?_ rest (step_sound hs) (step_sound ht)
    by_cases writes : Writes k t c
    case neg =>
      -- what `t` does not write, `s` does not
      have idle : ¬ Writes k s c := by
        rintro ⟨i, hi, name, counts, success | known⟩
        · exact writes ⟨i, hi, name,
            fun h => counts (ahead.incidents c List.mem_cons_self i hi name h), .inl success⟩
        · exact writes ⟨i, hi, name,
            fun h => counts (ahead.incidents c List.mem_cons_self i hi name h),
            .inr (ahead.versions known)⟩
      rw [step_eq_self writes, step_eq_self idle]
      exact ⟨ahead.evidence, ahead.versions,
        fun c hc => ahead.incidents c (List.mem_cons_of_mem _ hc)⟩
    case pos =>
      have wt := @step_written rt activation _ _ _ ht writes
      refine ⟨?_, fun _ => wt.some, ?_⟩
      · rw [wt.evidence]
        by_cases writes' : Writes k s c
        · rw [(step_written hs writes').evidence]
          exact Nat.succ_lt_succ ahead.evidence
        · rw [step_eq_self writes']
          exact Nat.lt_succ_of_lt ahead.evidence
      · intro c' hc' j hj name' mem
        apply step_incidents hs
        obtain ⟨i, hi, name, _⟩ := id writes
        rw [wt.incidents i hi, List.mem_append, List.mem_singleton] at mem
        rcases mem with old | same
        · exact ahead.incidents c' (List.mem_cons_of_mem _ hc') j hj name' old
        · exfalso
          apply apart c' hc'
          obtain ⟨org, _, incident⟩ := text_of_ids? hi
          obtain ⟨org', _, incident'⟩ := text_of_ids? hj
          have names : i.org = j.org := congrArg RunbookName.org (name.trans name'.symm)
          rw [← org, ← incident, ← org', ← incident', same, names]

end Shelf

/-! ## On the database -/

/-- The candidate's incident counts for its name. -/
def IncidentRecorded (db : Database) (c : CandidateRunbook) : Prop :=
  ∃ i, ids? c = some i ∧ replayed? i c.name db ≠ none

/-- The candidate's name has a runbook. -/
def HasRunbook (db : Database) (c : CandidateRunbook) : Prop :=
  ∃ i, ids? c = some i ∧ latest? i c.name db ≠ none

/-- The candidate makes a runbook of the name, if there is none. -/
def Creates (key : RunbookKey) (c : CandidateRunbook) : Prop := c.key = key ∧ c.outcome = .success

/-- One of the candidates makes the incident of `c` count for its name. -/
def Settles (db : Database) (cs : List CandidateRunbook) (c : CandidateRunbook) : Prop :=
  ∃ before a after, cs = before ++ a :: after ∧ a.key = c.key ∧ a.incidentId = c.incidentId ∧
    (a.outcome = .success ∨ HasRunbook db c ∨ ∃ b ∈ before, Creates c.key b)

/-- After the candidates `cs` the candidate `c` writes nothing: its incident counts for its name, or
it is a counterexample without a runbook. -/
def Harmless (db : Database) (cs : List CandidateRunbook) (c : CandidateRunbook) : Prop :=
  IncidentRecorded db c ∨ Settles db cs c ∨
    (c.outcome ≠ .success ∧ ¬ HasRunbook db c ∧ ∀ a ∈ cs, ¬ Creates c.key a)

lemma shelfOf_sound {k : RunbookName} {db : Database} (adm : db.Admitted) : (shelfOf k db).Sound := by
  constructor
  case versions =>
    show (List.map _ (List.map _ _)).Nodup
    rw [List.map_map]
    have distinct : (db.proceduralMemory.filter fun r => OfName k r).Pairwise
        fun r r' => r.version ≠ r'.version := by
      have rows := List.pairwise_map.mp adm.versions
      refine List.Pairwise.imp_of_mem ?_ (rows.filter _)
      intro r r' hr hr' ne e
      apply ne
      obtain ⟨o, a, n⟩ := of_decide_eq_true (List.mem_filter.mp hr).2
      obtain ⟨o', a', n'⟩ := of_decide_eq_true (List.mem_filter.mp hr').2
      rw [o, a, n, o', a', n', e]
    exact List.pairwise_map.mpr distinct
  case incidents =>
    intro ne empty
    apply ne
    show List.map _ _ = []
    rw [List.map_eq_nil_iff, List.filter_eq_nil_iff]
    rintro p hp named
    obtain ⟨r, hr, is, _⟩ := of_decide_eq_true named
    have mem : r.face ∈ (shelfOf k db).versions :=
      List.mem_map.mpr ⟨r, List.mem_filter.mpr ⟨hr, decide_eq_true is⟩, rfl⟩
    rw [empty] at mem
    cases mem

section harmless

variable {rt : Runtime} {activation : Activation} {db : Database} {cs : List CandidateRunbook}
  {c : CandidateRunbook} {i : Ids}

/-- The key of a candidate that can be stored is that of its name. -/
lemma candidateName_iff {a : CandidateRunbook} (ha : ids? a ≠ none) (hi : ids? c = some i) :
    candidateName? a = some (c.nameWith i) ↔ a.key = c.key := by
  obtain ⟨j, hj⟩ := Option.ne_none_iff_exists'.mp ha
  have own : c.key = (c.nameWith i).key := (key_iff hi).mpr rfl
  rw [own, key_iff hj, candidateName?, hj]
  simp

lemma incidentRecorded_iff (hi : ids? c = some i) :
    IncidentRecorded db c ↔ i.incident ∈ (shelfOf (c.nameWith i) db).incidents := by
  rw [mem_incidents, IncidentRecorded, hi]
  simp

lemma hasRunbook_iff (hi : ids? c = some i) :
    HasRunbook db c ↔ (shelfOf (c.nameWith i) db).versions ≠ [] := by
  rw [Ne, ← Shelf.newest_eq_none, newest_shelfOf, HasRunbook, hi]
  simp

lemma creates_iff {a : CandidateRunbook} (ha : ids? a ≠ none) (hi : ids? c = some i) :
    (candidateName? a = some (c.nameWith i) ∧ a.outcome = .success) ↔ Creates c.key a := by
  rw [candidateName_iff ha hi, Creates]

lemma exists_creates_iff (stored : ∀ a ∈ cs, ids? a ≠ none) (hi : ids? c = some i) :
    (∃ a ∈ cs, candidateName? a = some (c.nameWith i) ∧ a.outcome = .success) ↔
      ∃ a ∈ cs, Creates c.key a :=
  exists_congr fun a => and_congr_right fun ha => creates_iff (stored a ha) hi

/-- What makes the incident count, on the shelf of the candidate's name. -/
lemma settles_iff (hi : ids? c = some i) (stored : ∀ a ∈ cs, ids? a ≠ none) :
    Settles db cs c ↔ ∃ before a after, cs = before ++ a :: after ∧ ∃ j, ids? a = some j ∧
      a.nameWith j = c.nameWith i ∧ j.incident = i.incident ∧ (a.outcome = .success ∨
        (shelfOf (c.nameWith i) db).versions ≠ [] ∨
        ∃ b ∈ before, candidateName? b = some (c.nameWith i) ∧ b.outcome = .success) := by
  refine exists_congr fun before => exists_congr fun a => exists_congr fun after =>
    and_congr_right fun e => ?_
  subst e
  obtain ⟨j, hj⟩ := Option.ne_none_iff_exists'.mp (stored a (by simp))
  have first := @exists_creates_iff before c i (fun b hb => stored b (List.mem_append_left _ hb)) hi
  have name : a.nameWith j = c.nameWith i ↔ a.key = c.key := by
    rw [← candidateName_iff (stored a (by simp)) hi, candidateName?, hj]
    simp
  obtain ⟨_, _, ei⟩ := text_of_ids? hi
  obtain ⟨_, _, ej⟩ := text_of_ids? hj
  have incident : j.incident = i.incident ↔ a.incidentId = c.incidentId := by
    rw [← ei, ← ej, ← Uuid.ext_iff]
  rw [first, ← hasRunbook_iff hi, ← name, ← incident, hj]
  simp

lemma writes_iff {s : Shelf} (hi : ids? c = some i) : Shelf.Writes (c.nameWith i) s c ↔
    i.incident ∉ s.incidents ∧ (c.outcome = .success ∨ s.versions ≠ []) := by
  rw [Shelf.Writes, hi]
  simp

/-- The candidate writes nothing after the others exactly where it is harmless. -/
lemma harmless_iff (adm : db.Admitted) (hi : ids? c = some i) (stored : ∀ a ∈ cs, ids? a ≠ none) :
    Harmless db cs c ↔ ¬ Shelf.Writes (c.nameWith i)
      (Run.run (Shelf.step rt activation (c.nameWith i)) (shelfOf (c.nameWith i) db) cs) c := by
  have sound := @shelfOf_sound (c.nameWith i) db adm
  have versions := @Shelf.run_versions rt activation (c.nameWith i) _ cs sound
  rw [exists_creates_iff stored hi, ← hasRunbook_iff hi] at versions
  have incidents := @Shelf.mem_run_incidents rt activation (c.nameWith i) _ cs i.incident sound
  rw [← settles_iff hi stored, ← incidentRecorded_iff hi] at incidents
  rw [writes_iff hi, incidents, versions, Harmless, not_and_or, not_not, not_or, not_or, or_assoc]
  simp only [not_exists, not_and]

end harmless

end Postmortem
