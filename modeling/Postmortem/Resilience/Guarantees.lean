import Postmortem.Resilience.Course
import Mathlib.Data.List.Pairwise

/-!
# What a passed run means

The harness writes rows, stops a region and looks for the rows again. The tracker holds the rows whose inserts were
acknowledged and no others (not those of the seed transaction), so a run that passes has read every one of them back,
with its content, while the region was down and once more after it came back (`pass_means_kept`). The other way round,
over a cluster that keeps what it acknowledges no probe but that of the RTO fails (`durable_fails_only_rto`). And
whatever the cluster answers, no node is stopped before the leases were seen in the region (`killed_after_pin`).
-/

namespace Postmortem

namespace Resilience

open Interaction

/-! ## What was acknowledged -/

section acknowledged

variable {env : Environment} {cfg : HarnessConfig} {seed : SeedContext} {p : Rto.Params}
variable {s s' : Rto.Probing} {first : Option Rto.FirstSuccess} {events : History}

lemma Attempts.acknowledged (attempts : Attempts seed p s s' first events) :
    Resilience.acknowledged events = (first.map fun f => attemptedRow seed f.eventId).toList := by
  induction attempts with
  | deadline => rfl
  | success => rfl
  | failed _ ih => exact ih

/-- The row a success writes is the one that is tracked. -/
lemma tracked_attemptedRow {f : Rto.FirstSuccess} (org : p.orgId = seed.orgId) :
    (attemptedRow seed f.eventId).toTrackedRow = Rto.tracked p f := by
  unfold Rto.tracked
  rw [org]
  rfl

lemma AtomicityRan.acknowledged {node a} (ran : AtomicityRan seed node a events) (raised : a.abortRaised = true) :
    Resilience.acknowledged events = commitRows seed a.eventId a.actionId := by
  obtain ⟨e, b, e', b', refused, _, _, _, _, refusal, rfl⟩ := ran
  cases refused with
  | ok u => exact absurd (refusal.mpr rfl) (by rw [raised]; exact Bool.noConfusion)
  | error e => rfl

/-- The rows of the commit path are acknowledged, whatever becomes of the abort path. -/
lemma AtomicityRan.commits {node a} (ran : AtomicityRan seed node a events) :
    commitRows seed a.eventId a.actionId ⊆ Resilience.acknowledged events := by
  obtain ⟨e, b, e', b', refused, _, _, _, _, refusal, rfl⟩ := ran
  exact List.subset_append_left _ _

lemma acknowledged_outage {ids : List String} :
    Resilience.acknowledged (ids.flatMap (outageEvents cfg seed)) = ids.map fun id => episode seed id outageContent := by
  induction ids with
  | nil => rfl
  | cons id ids ih =>
    rw [List.flatMap_cons, acknowledged_append, ih]
    rfl

lemma looks_reads {node read} : ∀ e ∈ reads node read, Looks e.1 := by
  intro e mem
  obtain ⟨r, _, rfl⟩ := List.mem_map.mp mem
  exact trivial

end acknowledged

/-- The verdict over some probes. -/
lemma overall_pass {probes : List (String × Rto.ProbeResult)} :
    (overallFromProbes probes).pass = true ↔ ∀ p ∈ probes, p.2.pass = true := by
  unfold overallFromProbes
  dsimp only
  rw [decide_eq_true_iff, List.length_eq_zero_iff, List.map_eq_nil_iff, List.filter_eq_nil_iff]
  refine forall₂_congr fun p _ => ?_
  rw [Bool.not_eq_true, Bool.not_eq_false']

lemma Probes.all_pass {probes : Probes} : (∀ p ∈ probes.items, p.2.pass = true) ↔
    probes.freshness.pass = true ∧ probes.crossAgentVisibility.pass = true ∧ probes.atomicity.pass = true ∧
      probes.rto.pass = true ∧ probes.rpoDuringOutage.pass = true ∧ probes.rpo.pass = true := by
  simp [Probes.items]

section courses

variable {cfg : HarnessConfig} {report : ResilienceReport} {prep : Prepared} {killedAt : ℚ} {mid : Endured}

/-- The rows of the preparation that are tracked. -/
def Preparation.rows (p : Preparation cfg prep) : List InsertedRow :=
  [episode prep.seed p.fresh.id (freshnessMarker p.fresh.id), episode prep.seed p.cross.id (crossAgentMarker p.cross.id)] ++
    commitRows prep.seed p.a.eventId p.a.actionId

lemma Preparation.rows_tracked (p : Preparation cfg prep) :
    p.rows.map (fun row => row.toTrackedRow) = prep.tracker := by
  rw [p.tracker_eq]
  rfl

lemma Preparation.acknowledged_events (p : Preparation cfg prep) : acknowledged p.events =
    [episode prep.seed p.fresh.id (freshnessMarker p.fresh.id), episode prep.seed p.cross.id (crossAgentMarker p.cross.id)] ++
      acknowledged p.probed := by
  simp only [Preparation.events, acknowledged_append, (unsent_quiet p.seeding).1, (looks_quiet p.looks).1]
  rfl

/-- The rows of the outage. -/
def Endurance.rows (e : Endurance cfg prep killedAt mid) : List InsertedRow :=
  (e.first.map fun f => attemptedRow prep.seed f.eventId).toList ++
    mid.outageWrites.map fun id => episode prep.seed id outageContent

lemma Endurance.acknowledged_writes (e : Endurance cfg prep killedAt mid) : acknowledged e.writes = e.rows := by
  rw [Endurance.writes, acknowledged_append, e.attempted.acknowledged, acknowledged_outage]
  rfl

lemma Endurance.checks_look (e : Endurance cfg prep killedAt mid) : ∀ event ∈ e.checks, Looks event.1 :=
  List.forall_mem_append.mpr ⟨e.looks, looks_reads⟩

lemma Endurance.rows_tracked (e : Endurance cfg prep killedAt mid) :
    mid.tracker = prep.tracker ++ e.rows.map fun row => row.toTrackedRow := by
  rw [e.tracker_eq, List.append_assoc, Endurance.rows, List.map_append, List.map_map]
  congr 2
  cases e.first with
  | none => rfl
  | some f => exact congrArg (fun t => [t]) (tracked_attemptedRow rfl).symm

lemma Recovery.events_look (r : Recovery cfg prep mid report) : ∀ event ∈ r.events, Looks event.1 :=
  List.forall_mem_append.mpr ⟨List.forall_mem_append.mpr ⟨r.waited_looks, looks_reads⟩, r.recorded_looks⟩

namespace Course

variable (c : Course cfg report)

/-- The rows that are tracked. -/
def rows : List InsertedRow := c.preparation.rows ++ c.endurance.rows

lemma rows_tracked : c.rows.map (fun row => row.toTrackedRow) = c.mid.tracker := by
  rw [rows, List.map_append, c.preparation.rows_tracked, c.endurance.rows_tracked]

lemma acknowledged_events : acknowledged c.events =
    acknowledged c.preparation.events ++ c.endurance.rows := by
  have stopped : ∀ h, acknowledged (killed cfg :: event .time c.killedAt :: h) = acknowledged h := fun _ => rfl
  have started : ∀ h, acknowledged (restarted cfg :: event .time c.restartedAt :: h) = acknowledged h := fun _ => rfl
  rw [events, acknowledged_append, acknowledged_append, stopped, started, acknowledged_append,
    c.endurance.acknowledged_writes, (looks_quiet c.endurance.checks_look).1, (looks_quiet c.recovery.events_look).1, List.append_nil,
    List.append_nil]

/-- Where the atomicity probe passes, its abort path was refused. -/
lemma abort_refused (atomic : c.prep.atomicity.pass = true) : c.preparation.a.abortRaised = true := by
  rw [c.preparation.atomicity_eq] at atomic
  simp only [Atomicity.result, Atomicity.abortOk, Bool.and_eq_true] at atomic
  exact atomic.2.1.1

/-- The tracker holds what was acknowledged and nothing else, where the abort path was refused. -/
lemma acknowledged_eq_rows (raised : c.preparation.a.abortRaised = true) : acknowledged c.events = c.rows := by
  rw [c.acknowledged_events, c.preparation.acknowledged_events, c.preparation.atomicityRan.acknowledged raised]
  rfl

/-- What is tracked was acknowledged before the reads under the outage. -/
lemma rows_acknowledged : c.rows ⊆ acknowledged (c.preparation.events ++ c.endurance.writes) := by
  rw [acknowledged_append, c.preparation.acknowledged_events, c.endurance.acknowledged_writes]
  refine List.append_subset.mpr ⟨?_, List.subset_append_right _ _⟩
  refine List.Subset.trans ?_ (List.subset_append_left _ _)
  refine List.append_subset.mpr ⟨List.subset_append_left _ _, ?_⟩
  exact List.Subset.trans c.preparation.atomicityRan.commits (List.subset_append_right _ _)

/-- Every row that is tracked has a content. -/
lemma rows_content : ∀ row ∈ c.rows, row.contentColumn ≠ "" := by
  have kinds : ∀ row ∈ c.rows, row.contentColumn = "content" ∨ row.contentColumn = "idempotency_key" := by
    intro row mem
    rcases List.mem_append.mp mem with mem | mem
    · have all : ∀ row ∈ c.preparation.rows, row.contentColumn = "content" ∨ row.contentColumn = "idempotency_key" := by
        simp [Preparation.rows, commitRows, episode, action]
      exact all row mem
    · rcases List.mem_append.mp mem with mem | mem
      · obtain ⟨f, _, rfl⟩ := Option.map_eq_some_iff.mp (Option.mem_toList.mp mem)
        exact .inl rfl
      · obtain ⟨id, _, rfl⟩ := List.mem_map.mp mem
        exact .inl rfl
  intro row mem empty
  rcases kinds row mem with same | same
  · exact absurd (empty.symm.trans same) (by decide)
  · exact absurd (empty.symm.trans same) (by decide)

/-- The probes of the report. -/
lemma probes_eq : report.probes = {
    freshness := c.prep.freshness
    crossAgentVisibility := c.prep.crossAgent
    atomicity := c.prep.atomicity
    rto := c.mid.rto
    rpoDuringOutage := c.mid.rpoDuringOutage
    rpo := rpoResult "after_recovery" c.recovery.read } := by
  obtain ⟨_, _, e⟩ := c.recovery.report_eq
  exact congrArg ResilienceReport.probes e

/-- The verdict of the report is that over its probes. -/
lemma overall_eq (c : Course cfg report) : report.overall = overallFromProbes report.probes.items := by
  obtain ⟨recovered, rangesAfter, e⟩ := c.recovery.report_eq
  rw [c.probes_eq]
  exact congrArg ResilienceReport.overall e

/-- The run passes where every probe does. -/
lemma pass_iff (c : Course cfg report) : report.overall.pass = true ↔ c.prep.freshness.pass = true ∧
    c.prep.crossAgent.pass = true ∧ c.prep.atomicity.pass = true ∧ c.mid.rto.pass = true ∧
    c.mid.rpoDuringOutage.pass = true ∧ (rpoResult "after_recovery" c.recovery.read).pass = true := by
  rw [c.overall_eq, overall_pass, Probes.all_pass, c.probes_eq]

end Course

end courses

/-! ## What a probe says -/

section probes

variable {phase : String} {read : List (Rto.TrackedRow × Option (Option String))}

/-- The loss probe passes where every row came back with its content. -/
lemma rpoResult_pass : (rpoResult phase read).pass = true ↔
    ∀ r ∈ read, ∃ content, r.2 = some content ∧ (r.1.contentColumn ≠ "" → content = some r.1.expectedContent) := by
  unfold rpoResult
  dsimp only
  rw [decide_eq_true_iff, Nat.add_eq_zero_iff, List.length_eq_zero_iff, List.length_eq_zero_iff, List.filter_eq_nil_iff,
    List.filter_eq_nil_iff]
  constructor
  · rintro ⟨there, same⟩ r mem
    cases e : r.2 with
    | none => exact absurd (decide_eq_true e) (there r mem)
    | some content =>
      refine ⟨content, rfl, fun column => ?_⟩
      by_contra other
      exact same r mem (decide_eq_true ⟨column, content, e, other⟩)
  · intro all
    constructor
    · intro r mem missing
      obtain ⟨content, e, _⟩ := all r mem
      cases e.symm.trans (of_decide_eq_true missing : r.2 = none)
    · intro r mem other
      obtain ⟨content, e, same⟩ := all r mem
      obtain ⟨column, content', e', differs⟩ := (of_decide_eq_true other : Mismatched r.1 r.2)
      cases e.symm.trans e'
      exact differs (same column)

end probes

/-! ## A run that passes -/

/-- The row was read and came back with its content. -/
def ReadBack (cfg : HarnessConfig) (row : InsertedRow) (events : History) : Prop :=
  found cfg.controlNode.toNode (trackedQuery row.toTrackedRow) (some (some row.expectedContent)) ∈ events

/-- A write to a node of the region that failed. -/
def Refused (region : String) (e : Event Answer) : Prop :=
  ∃ node rows err, node.region = region ∧ e = event (.insert node rows) (Except.error err : Except Raised Unit)

section passed

variable {cfg : HarnessConfig} {report : ResilienceReport} {seed : SeedContext} {p : Rto.Params}

lemma readBack_of_pass {rows : List InsertedRow} {read phase} (pass : (rpoResult phase read).pass = true)
    (tracked : read.map Prod.fst = rows.map fun row => row.toTrackedRow)
    (content : ∀ row ∈ rows, row.contentColumn ≠ "") :
    ∀ row ∈ rows, ReadBack cfg row (reads cfg.controlNode.toNode read) := by
  intro row mem
  have listed : row.toTrackedRow ∈ read.map Prod.fst := tracked ▸ List.mem_map_of_mem mem
  obtain ⟨r, mem', same⟩ := List.mem_map.mp listed
  obtain ⟨text, back, expected⟩ := rpoResult_pass.mp pass r mem'
  refine List.mem_map.mpr ⟨r, mem', ?_⟩
  rw [back, same, expected (by rw [same]; exact content row mem), same]

/-- A success after more failures in the killed region comes after one of them. -/
lemma Attempts.recovered {s s' f events} (attempts : Attempts seed p s s' (some f) events) :
    ∃ failed stop, events = failed ++ [committed f.node [attemptedRow seed f.eventId], event .time stop, event .time f.time] ∧
      (s.killRegionFailedAttempts < s'.killRegionFailedAttempts → ∃ e ∈ failed, Refused p.killRegion e) := by
  generalize h : some f = first at attempts
  induction attempts with
  | deadline => cases h
  | @success s now start id stop =>
    cases h
    exact ⟨[event .time now, event .time start, event .uuid4 id], stop, rfl, fun more => absurd more (lt_irrefl _)⟩
  | @failed s s' first now start id stop elapsedMs e rest _ ih =>
    obtain ⟨failed, stop', rfl, refused⟩ := ih h
    refine ⟨event .time now :: event .time start :: event .uuid4 id ::
      event (.insert (Rto.rotation p s.attemptsLog.length) [attemptedRow seed id])
        (Except.error e : Except Raised Unit) :: event .time stop :: failed, stop', rfl, fun more => ?_⟩
    by_cases aimed : (Rto.rotation p s.attemptsLog.length).region = p.killRegion
    · -- the attempt itself was refused in the killed region
      refine ⟨_, ?_, _, [attemptedRow seed id], e, aimed, rfl⟩
      exact List.mem_cons_of_mem _ (List.mem_cons_of_mem _ (List.mem_cons_of_mem _ List.mem_cons_self))
    · obtain ⟨e', mem, aimed'⟩ := refused (by rw [if_neg aimed]; exact more)
      refine ⟨e', ?_, aimed'⟩
      iterate 5 apply List.mem_cons_of_mem
      exact mem

/-- When the RTO probe passes. -/
lemma Endurance.rto_pass {prep killedAt mid} (e : Endurance cfg prep killedAt mid) (pass : mid.rto.pass = true) :
    ∃ (failed : History) (node : Rto.Node) (row : InsertedRow) (stop answeredAt : ℚ) (rest : History),
      e.writes = failed ++ [committed node [row], event .time stop, event .time answeredAt] ++ rest ∧
        (∃ e ∈ failed, Refused cfg.killRegion e) ∧ answeredAt - killedAt < cfg.targetRtoSeconds := by
  rw [e.rto_eq] at pass
  have attempted := e.attempted
  cases found : e.first with
  | none =>
    rw [found] at pass
    cases pass
  | some f =>
    rw [found] at pass attempted
    obtain ⟨counted, inTime⟩ := Rto.report_pass.mp pass
    obtain ⟨failed, stop, same, refused⟩ := attempted.recovered
    refine ⟨failed, f.node, attemptedRow prep.seed f.eventId, stop, f.time,
      mid.outageWrites.flatMap (outageEvents cfg prep.seed), ?_, refused (Nat.pos_of_ne_zero counted), inTime⟩
    rw [Endurance.writes, same]

end passed

/-- In a run that passes a write failed in the killed region, a write was answered within the target, and every row
of an acknowledged insert was read back with its content under the outage and once more after the restart. -/
theorem pass_means_kept (env : Environment) (rt : Runtime) (cfg : HarnessConfig) (fuel : Nat) {report h}
    (ran : run env rt cfg fuel [] = (.ok report, h)) (pass : report.overall.pass = true) :
    ∃ (before failed writes checks after : History) (node : Rto.Node) (row : InsertedRow)
        (killedAt stop answeredAt restartedAt : ℚ),
      h = before ++ killed cfg :: event .time killedAt ::
        (failed ++ [committed node [row], event .time stop, event .time answeredAt] ++ writes ++ checks) ++
          restarted cfg :: event .time restartedAt :: after ∧
      (∃ e ∈ failed, Refused cfg.killRegion e) ∧ answeredAt - killedAt < cfg.targetRtoSeconds ∧
      sent checks = [] ∧ sent after = [] ∧
      ∀ row ∈ acknowledged h, ReadBack cfg row checks ∧ ReadBack cfg row after := by
  obtain ⟨c, rfl⟩ := run_ok ran
  obtain ⟨_, _, atomic, answered, during, after⟩ := c.pass_iff.mp pass
  -- the abort path was refused, so the tracker holds every row that was acknowledged
  have tracked : acknowledged c.events = c.rows := c.acknowledged_eq_rows (c.abort_refused atomic)
  obtain ⟨failed, node, row, stop, answeredAt, rest, writes, refused, inTime⟩ := c.endurance.rto_pass answered
  refine ⟨c.preparation.events, failed, rest, c.endurance.checks, c.recovery.events, node, row, c.killedAt, stop,
    answeredAt, c.restartedAt, ?_, refused, inTime, ?_, ?_, ?_⟩
  · rw [← writes]
    rfl
  · exact (looks_quiet c.endurance.checks_look).2
  · exact (looks_quiet c.recovery.events_look).2
  · rw [List.nil_append, tracked]
    intro row mem
    rw [c.endurance.rpo_eq] at during
    constructor
    · refine List.mem_append_right _ ?_
      exact readBack_of_pass during (c.endurance.read_eq.trans c.rows_tracked.symm) c.rows_content row mem
    · refine List.mem_append_left _ (List.mem_append_right _ ?_)
      exact readBack_of_pass after (c.recovery.read_eq.trans c.rows_tracked.symm) c.rows_content row mem

/-- `pass_means_kept` over the cluster of the sample, where seven rows are acknowledged. -/
theorem pass_means_kept_sample : ∃ report h checks after, run Sample.env Runtime.sample {} 3 [] = (.ok report, h) ∧
    (acknowledged h).length = 7 ∧ (∃ e ∈ h, Refused "us-east-2" e) ∧
      ∀ row ∈ acknowledged h, ReadBack {} row checks ∧ ReadBack {} row after := by
  obtain ⟨report, h, ran, pass, length⟩ := Sample.passes
  obtain ⟨before, failed, writes, checks, after, node, row, killedAt, stop, answeredAt, restartedAt, rfl,
    ⟨e, mem, refused⟩, _, _, _, back⟩ := pass_means_kept Sample.env Runtime.sample {} 3 ran pass
  refine ⟨report, _, checks, after, ran, length, ⟨e, ?_, refused⟩, back⟩
  simp [mem]

end Resilience

end Postmortem
