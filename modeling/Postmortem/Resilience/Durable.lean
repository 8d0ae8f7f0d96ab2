import Postmortem.Resilience.Guarantees

/-!
# A cluster that keeps what it acknowledges

`Durable` is what a history looks like over such a cluster: a row whose transaction returned is read with its
content from then on, a row that is read was sent in a transaction that meets the CHECK of its table, and a
transaction that does not meet it is refused. No probe but that of the RTO can fail there.
-/

namespace Postmortem

namespace Resilience

open Interaction

/-- The answer is the row, with its content where the query asks for it. -/
def Query.Shows (q : Query) (row : InsertedRow) (answer : Option (Option String)) : Prop :=
  answer.isSome ∧ (q.column = some row.contentColumn → answer = some (some row.expectedContent))

instance {q : Query} {row : InsertedRow} {answer} : Decidable (q.Shows row answer) :=
  inferInstanceAs (Decidable (_ ∧ (_ → _)))

/-- The cluster keeps what it acknowledges, shows nothing that was not sent and enforces the CHECK. -/
structure Durable (h : History) : Prop where
  distinct : (drawn h).Nodup
  refuses : ∀ before node rows after, h = before ++ committed node rows :: after → ∀ row ∈ rows, row.Valid
  kept : ∀ before node q answer after, h = before ++ found node q answer :: after →
    ∀ row ∈ acknowledged before, q.Matches row → q.Shows row answer
  real : ∀ before node q content after, h = before ++ found node q (some content) :: after →
    ∃ rows ∈ sent before, (∀ row ∈ rows, row.Valid) ∧ ∃ row ∈ rows, q.Matches row

/-! ## Looking at a history -/

/-- The answer fits what was sent and acknowledged before. -/
def fits (before : History) : Event Answer → Bool
  | ⟨.insert _ rows, (answer : Except Raised Unit)⟩ =>
    match answer with
    | .ok _ => decide (∀ row ∈ rows, row.Valid)
    | .error _ => true
  | ⟨.select _ q, (answer : Except Raised (Option (Option String)))⟩ =>
    match answer with
    | .ok answer => decide (∀ row ∈ acknowledged before, q.Matches row → q.Shows row answer) &&
        (answer.isNone || decide (∃ rows ∈ sent before, (∀ row ∈ rows, row.Valid) ∧ ∃ row ∈ rows, q.Matches row))
    | .error _ => true
  | _ => true

/-- Every answer fits what comes before it. -/
def allFit : History → History → Bool
  | _, [] => true
  | before, e :: rest => fits before e && allFit (before ++ [e]) rest

lemma fits_of_allFit {before h middle after : History} {e : Event Answer} (all : allFit before h = true)
    (split : h = middle ++ e :: after) : fits (before ++ middle) e = true := by
  induction middle generalizing before h with
  | nil =>
    subst split
    rw [List.append_nil]
    exact (Bool.and_eq_true_iff.mp all).1
  | cons e' middle ih =>
    subst split
    rw [List.append_cons]
    exact ih (Bool.and_eq_true_iff.mp all).2 rfl

lemma durable_of_allFit {h : History} (distinct : (drawn h).Nodup) (all : allFit [] h = true) : Durable h where
  distinct := distinct
  refuses _ _ _ _ split := of_decide_eq_true (fits_of_allFit all split)
  kept _ _ _ _ _ split := of_decide_eq_true (Bool.and_eq_true_iff.mp (fits_of_allFit all split)).1
  real _ _ _ _ _ split := of_decide_eq_true (Bool.and_eq_true_iff.mp (fits_of_allFit all split)).2

/-! ## Identifiers -/

section identifiers

variable {h h' : History} {seed : SeedContext}

/-- The identifiers of the rows that were sent. -/
def sentIds (h : History) : List String := (sent h).flatten.map fun row => row.rowId

/-- Every row that was sent has an identifier of its own. -/
def Fresh (h : History) : Prop := (sentIds h).Sublist (drawn h)

lemma Fresh.append (fresh : Fresh h) (fresh' : Fresh h') : Fresh (h ++ h') := by
  unfold Fresh sentIds
  rw [sent_append, drawn_append, List.flatten_append, List.map_append]
  exact List.Sublist.append fresh fresh'

lemma fresh_of_unsent (unsent : sent h = []) : Fresh h := by
  unfold Fresh sentIds
  rw [unsent]
  exact List.nil_sublist _

lemma AtomicityRan.fresh {node a events} (ran : AtomicityRan seed node a events) : Fresh events := by
  obtain ⟨_, _, _, _, _, _, _, _, _, _, rfl⟩ := ran
  exact List.Sublist.refl _

lemma AtomicityRan.sends {node a events} (ran : AtomicityRan seed node a events) :
    abortRows seed a.abortEventId a.abortActionId ∈ sent events := by
  obtain ⟨_, _, _, _, _, _, _, _, _, _, rfl⟩ := ran
  exact List.mem_cons_of_mem _ List.mem_cons_self

lemma Attempts.fresh {p s s' first events} (attempts : Attempts seed p s s' first events) : Fresh events := by
  induction attempts with
  | deadline => exact fresh_of_unsent rfl
  | success => exact List.Sublist.refl _
  | failed _ ih => exact List.Sublist.cons_cons _ ih

lemma Course.fresh {cfg report} (c : Course cfg report) : Fresh c.events := by
  have outage : ∀ ids : List String, Fresh (ids.flatMap (outageEvents cfg c.prep.seed)) := by
    intro ids
    induction ids with
    | nil => exact fresh_of_unsent rfl
    | cons id ids ih => exact List.Sublist.cons_cons _ ih
  have trip : ∀ (t : RoundTrip) marker agentId writer reader,
      Fresh (t.events c.prep.seed marker agentId writer reader) := fun _ _ _ _ _ => List.Sublist.refl _
  have prepared : Fresh c.preparation.events :=
    ((((fresh_of_unsent (unsent_quiet c.preparation.seeding).2).append
      (fresh_of_unsent (looks_quiet c.preparation.looks).2)).append (trip _ _ _ _ _)).append (trip _ _ _ _ _)).append
        c.preparation.atomicityRan.fresh
  have endured : Fresh (killed cfg :: event .time c.killedAt :: (c.endurance.writes ++ c.endurance.checks)) :=
    (c.endurance.attempted.fresh.append (outage _)).append (fresh_of_unsent (looks_quiet c.endurance.checks_look).2)
  have recovered : Fresh (restarted cfg :: event .time c.restartedAt :: c.recovery.events) := fresh_of_unsent (looks_quiet c.recovery.events_look).2
  exact (prepared.append endured).append recovered

lemma Fresh.nodup (fresh : Fresh h) (distinct : (drawn h).Nodup) : (sentIds h).Nodup := distinct.sublist fresh

/-- Of the transactions that were sent only one has a row with the identifier. -/
lemma sent_unique {rows rows' : List InsertedRow} {row row' : InsertedRow} (nodup : (sentIds h).Nodup)
    (mem : rows ∈ sent h) (mem' : rows' ∈ sent h) (listed : row ∈ rows) (listed' : row' ∈ rows')
    (same : row.rowId = row'.rowId) : rows = rows' := by
  by_contra apart
  rw [sentIds, List.map_flatten, List.nodup_flatten, List.pairwise_map] at nodup
  have disjoint : ∀ l ∈ sent h, ∀ l' ∈ sent h, l ≠ l' →
      List.Disjoint (l.map fun row => row.rowId) (l'.map fun row => row.rowId) := by
    have : Std.Symm fun l l' : List InsertedRow =>
        List.Disjoint (l.map fun row => row.rowId) (l'.map fun row => row.rowId) := ⟨fun _ _ d => List.disjoint_symm d⟩
    exact fun l mem l' mem' => nodup.2.forall mem mem'
  exact disjoint rows mem rows' mem' apart (List.mem_map_of_mem listed) (same ▸ List.mem_map_of_mem listed')

end identifiers

/-! ## The probes over such a cluster -/

namespace Durable

variable {before events after : History} {seed : SeedContext} {node : Rto.Node}

/-- An event of a part of the history. -/
lemma splitAt {e : Event Answer} (n : Nat) (split : events = events.take n ++ e :: events.drop (n + 1)) :
    before ++ events ++ after = before ++ events.take n ++ e :: (events.drop (n + 1) ++ after) := by
  conv_lhs => rw [split]
  simp

lemma keptAt {q answer row} (durable : Durable (before ++ events ++ after)) (n : Nat)
    (split : events = events.take n ++ found node q answer :: events.drop (n + 1))
    (acked : row ∈ acknowledged (events.take n)) (matched : q.Matches row) : q.Shows row answer := by
  refine durable.kept _ _ _ _ _ (splitAt n split) row ?_ matched
  rw [acknowledged_append]
  exact List.mem_append_right _ acked

lemma refusesAt {rows} (durable : Durable (before ++ events ++ after)) (n : Nat)
    (split : events = events.take n ++ committed node rows :: events.drop (n + 1)) : ∀ row ∈ rows, row.Valid :=
  durable.refuses _ _ _ _ (splitAt n split)

/-- What was written is read at once. -/
lemma roundTrip {t : RoundTrip} {marker agentId writer reader}
    (durable : Durable (before ++ t.events seed marker agentId writer reader ++ after))
    (agent : ∀ a, agentId = some a → seed.agentId = a) : t.row = some (some (marker t.id)) := by
  have shown : (contentQuery seed agentId t.id).Shows (episode seed t.id (marker t.id)) t.row := by
    refine durable.keptAt 3 rfl List.mem_cons_self ?_
    exact ⟨rfl, rfl, rfl, rfl, fun a e => congrArg some (agent a e)⟩
  exact shown.2 rfl

/-- Tracked rows that were acknowledged come back. -/
lemma rpo {rows : List InsertedRow} {read phase} (durable : Durable (before ++ reads node read ++ after))
    (tracked : read.map Prod.fst = rows.map fun row => row.toTrackedRow) (acked : rows ⊆ acknowledged before) :
    (rpoResult phase read).pass = true := by
  refine rpoResult_pass.mpr fun r mem => ?_
  have listed : r.1 ∈ rows.map fun row => row.toTrackedRow := tracked ▸ List.mem_map_of_mem mem
  obtain ⟨row, mem', same⟩ := List.mem_map.mp listed
  obtain ⟨earlier, later, split⟩ := List.append_of_mem mem
  have shown := durable.kept (before ++ reads node earlier) node (trackedQuery r.1) r.2 (reads node later ++ after)
    (by simp [split]) row (by
      rw [acknowledged_append]
      exact List.mem_append_left _ (acked mem'))
    (by
      rw [← same]
      refine ⟨rfl, rfl, rfl, rfl, fun a e => ?_⟩
      cases e)
  obtain ⟨content, back⟩ := Option.isSome_iff_exists.mp shown.1
  refine ⟨content, back, fun column => ?_⟩
  have whole := shown.2 (by rw [trackedQuery, if_neg column, ← same])
  rw [back] at whole
  rw [← same]
  exact Option.some.inj whole

/-- The CHECK refuses the abort path. -/
lemma abortRows_invalid {eventId actionId : String} : ¬ ∀ row ∈ abortRows seed eventId actionId, row.Valid := by
  intro valid
  have allowed := valid _ (List.mem_cons_of_mem _ List.mem_cons_self) "not_a_valid_outcome" rfl
  exact absurd allowed (by decide)

/-- The identifiers of a transaction that is refused are not read. -/
lemma absent {h : History} {rows : List InsertedRow} {row : InsertedRow} {q : Query} {answer} (durable : Durable h)
    (fresh : Fresh h) (split : h = before ++ found node q answer :: after) (mem : rows ∈ sent h) (listed : row ∈ rows)
    (asked : q.rowId = row.rowId) (invalid : ¬ ∀ row ∈ rows, row.Valid) : answer = none := by
  cases answer with
  | none => rfl
  | some content =>
    obtain ⟨rows', mem', valid, row', listed', matched⟩ := durable.real _ _ _ _ _ split
    have sub : rows' ∈ sent h := by
      rw [split, sent_append]
      exact List.mem_append_left _ mem'
    have same := sent_unique (fresh.nodup durable.distinct) mem sub listed listed' (asked.symm.trans matched.2.2.1)
    rw [← same] at valid
    exact absurd valid invalid

/-- The commit path is there, the abort path is refused and leaves nothing. -/
lemma atomicity {a : Atomicity} (durable : Durable (before ++ events ++ after))
    (fresh : Fresh (before ++ events ++ after)) (ran : AtomicityRan seed node a events) : a.result.pass = true := by
  have tried : abortRows seed a.abortEventId a.abortActionId ∈ sent (before ++ events ++ after) := by
    rw [sent_append, sent_append]
    exact List.mem_append_left _ (List.mem_append_right _ ran.sends)
  obtain ⟨e, b, e', b', refused, there, there', gone, gone', refusal, rfl⟩ := ran
  have episodic : Query.Shows _ (episode seed a.eventId "atomicity probe: commit path") e :=
    durable.keptAt 5 rfl List.mem_cons_self ⟨rfl, rfl, rfl, rfl, fun _ e => by cases e⟩
  have applied : Query.Shows _ (action seed a.actionId ("resilience-atomicity-commit-" ++ a.actionId) "success") b :=
    durable.keptAt 6 rfl (List.mem_cons_of_mem _ List.mem_cons_self) ⟨rfl, rfl, rfl, rfl, fun _ e => by cases e⟩
  have raised : a.abortRaised = true := by
    by_contra accepted
    obtain rfl := refusal.mp (Bool.eq_false_iff.mpr accepted)
    exact abortRows_invalid (durable.refusesAt 7 rfl)
  have undone : e' = none := durable.absent fresh (splitAt 8 rfl) tried List.mem_cons_self rfl abortRows_invalid
  have undone' : b' = none :=
    durable.absent fresh (splitAt 9 rfl) tried (List.mem_cons_of_mem _ List.mem_cons_self) rfl abortRows_invalid
  simp [Atomicity.result, Atomicity.commitOk, Atomicity.abortOk, there, there', gone, gone', episodic.1, applied.1, raised,
    undone, undone']

end Durable

section course

variable {cfg : HarnessConfig} {report : ResilienceReport}

lemma acknowledged_subset {h h' : History} (sub : h ⊆ h') : acknowledged h ⊆ acknowledged h' := by
  intro row mem
  obtain ⟨e, mem, row_mem⟩ := List.mem_flatMap.mp mem
  exact List.mem_flatMap.mpr ⟨e, sub mem, row_mem⟩

lemma Durable.of_eq {h h' : History} (durable : Durable h) (e : h = h') : Durable h' := e ▸ durable

namespace Course

variable (c : Course cfg report)

/-- What comes after the preparation. -/
def afterwards : History :=
  killed cfg :: event .time c.killedAt :: (c.endurance.writes ++ c.endurance.checks) ++
    restarted cfg :: event .time c.restartedAt :: c.recovery.events

lemma events_fresh : c.events = c.preparation.seeded ++ c.preparation.pinned ++
    c.preparation.fresh.events c.prep.seed freshnessMarker none cfg.controlNode.toNode (thirdRegionNode cfg).toNode ++
      (c.preparation.cross.events c.prep.seed crossAgentMarker (some c.prep.seed.agentId) c.preparation.writer
        cfg.controlNode.toNode ++ (c.preparation.probed ++ c.afterwards)) := by
  simp [events, Preparation.events, afterwards]

lemma events_cross : c.events = c.preparation.seeded ++ c.preparation.pinned ++
    c.preparation.fresh.events c.prep.seed freshnessMarker none cfg.controlNode.toNode (thirdRegionNode cfg).toNode ++
      c.preparation.cross.events c.prep.seed crossAgentMarker (some c.prep.seed.agentId) c.preparation.writer
        cfg.controlNode.toNode ++ (c.preparation.probed ++ c.afterwards) := by
  simp [events, Preparation.events, afterwards]

lemma events_probed : c.events = c.preparation.seeded ++ c.preparation.pinned ++
    c.preparation.fresh.events c.prep.seed freshnessMarker none cfg.controlNode.toNode (thirdRegionNode cfg).toNode ++
      c.preparation.cross.events c.prep.seed crossAgentMarker (some c.prep.seed.agentId) c.preparation.writer
        cfg.controlNode.toNode ++ c.preparation.probed ++ c.afterwards := by
  simp [events, Preparation.events, afterwards]

/-- The reads under the outage come after the writes. -/
lemma events_during : c.events = c.preparation.events ++ killed cfg :: event .time c.killedAt ::
    (c.endurance.writes ++ c.endurance.waited) ++ reads cfg.controlNode.toNode c.endurance.read ++
      restarted cfg :: event .time c.restartedAt :: c.recovery.events := by
  simp [events, Endurance.checks]

lemma events_after : c.events = c.preparation.events ++ killed cfg :: event .time c.killedAt ::
    (c.endurance.writes ++ c.endurance.checks) ++ restarted cfg :: event .time c.restartedAt :: c.recovery.waited ++
      reads cfg.controlNode.toNode c.recovery.read ++ c.recovery.recorded := by
  simp [events, Recovery.events]

end Course

end course

/-- Over a cluster that keeps what it acknowledges, no probe fails but that of the RTO. -/
theorem durable_fails_only_rto (env : Environment) (rt : Runtime) (cfg : HarnessConfig) (fuel : Nat) {report h}
    (ran : run env rt cfg fuel [] = (.ok report, h)) (durable : Durable h) :
    report.overall.pass = report.probes.rto.pass ∧
      report.overall.failedProbes = if report.probes.rto.pass then [] else ["rto"] := by
  obtain ⟨c, rfl⟩ := run_ok ran
  rw [List.nil_append] at durable
  have freshness : c.prep.freshness.pass = true := by
    have back : c.preparation.fresh.row = some (some (freshnessMarker c.preparation.fresh.id)) :=
      (durable.of_eq c.events_fresh).roundTrip fun a e => by cases e
    rw [c.preparation.freshness_eq]
    simp [freshnessResult, matches?, back]
  have crossAgent : c.prep.crossAgent.pass = true := by
    have back : c.preparation.cross.row = some (some (crossAgentMarker c.preparation.cross.id)) :=
      (durable.of_eq c.events_cross).roundTrip fun a e => Option.some.inj e
    rw [c.preparation.crossAgent_eq]
    simp [crossAgentResult, matches?, back]
  have atomicity : c.prep.atomicity.pass = true := by
    rw [c.preparation.atomicity_eq]
    exact (durable.of_eq c.events_probed).atomicity (c.events_probed ▸ c.fresh) c.preparation.atomicityRan
  have during : c.mid.rpoDuringOutage.pass = true := by
    rw [c.endurance.rpo_eq]
    refine (durable.of_eq c.events_during).rpo (c.endurance.read_eq.trans c.rows_tracked.symm) ?_
    refine List.Subset.trans c.rows_acknowledged (acknowledged_subset (List.append_subset.mpr ⟨List.subset_append_left _ _, ?_⟩))
    refine List.subset_append_of_subset_right _ (List.subset_cons_of_subset _ (List.subset_cons_of_subset _ ?_))
    exact List.subset_append_left _ _
  have after : (rpoResult "after_recovery" c.recovery.read).pass = true := by
    refine (durable.of_eq c.events_after).rpo (c.recovery.read_eq.trans c.rows_tracked.symm) ?_
    refine List.Subset.trans c.rows_acknowledged (acknowledged_subset (List.subset_append_of_subset_left _ ?_))
    refine List.append_subset.mpr ⟨List.subset_append_left _ _, ?_⟩
    refine List.subset_append_of_subset_right _ (List.subset_cons_of_subset _ (List.subset_cons_of_subset _ ?_))
    exact List.subset_append_left _ _
  have judged : report.overall.failedProbes = if report.probes.rto.pass then [] else ["rto"] := by
    rw [c.overall_eq, c.probes_eq]
    cases e : c.mid.rto.pass with
    | true => simp [overallFromProbes, Probes.items, freshness, crossAgent, atomicity, during, after, e]
    | false => simp [overallFromProbes, Probes.items, freshness, crossAgent, atomicity, during, after, e]
  refine ⟨?_, judged⟩
  rw [c.probes_eq, Bool.eq_iff_iff, c.pass_iff]
  simp [freshness, crossAgent, atomicity, during, after]

/-- `durable_fails_only_rto` over the cluster of the sample, where the RTO probe passes too. -/
theorem durable_fails_only_rto_sample : ∃ report h, run Sample.env Runtime.sample {} 3 [] = (.ok report, h) ∧
    report.probes.rto.pass = true ∧ report.overall.pass = true ∧ report.overall.failedProbes = [] := by
  have seen : (match run Sample.env Runtime.sample {} 3 [] with
    | (.ok report, h) => report.probes.rto.pass && decide (drawn h).Nodup && allFit [] h
    | (.error _, _) => false) = true := by decide +kernel
  cases ran : run Sample.env Runtime.sample {} 3 [] with
  | mk out h =>
    rw [ran] at seen
    cases out with
    | error e => cases seen
    | ok report =>
      obtain ⟨both, all⟩ := Bool.and_eq_true_iff.mp seen
      obtain ⟨rto, distinct⟩ := Bool.and_eq_true_iff.mp both
      have durable := durable_of_allFit (of_decide_eq_true distinct) all
      obtain ⟨pass, failed⟩ := durable_fails_only_rto Sample.env Runtime.sample {} 3 ran durable
      rw [rto] at pass failed
      exact ⟨report, h, rfl, rto, pass, failed⟩

end Resilience

end Postmortem
