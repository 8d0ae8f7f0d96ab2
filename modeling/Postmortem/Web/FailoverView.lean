import Postmortem.Resilience.Guarantees
import Postmortem.Web.Console

/-!
# The failover view

What the harness writes to `phase3-resilience.json` (`ResilienceReport.toDict`) and what the console makes of it:
`resilienceViewFromReport` and `failoverPhases` of `web/lib/resilience.ts`. A report of the harness is accepted, and
the rows lost that are pinned through the three phases are those that did not come back after the restart
(`console_shows_losses`).
-/

namespace Postmortem

namespace Resilience

/-! ## The report as it is written -/

/-- `ProbeResult.to_dict` -/
def probeDict (p : Rto.ProbeResult) : Dict := [
  ("probe_type", .str p.probeType), ("status", .str (if p.pass then "pass" else "fail")),
  ("measured_value", match p.measuredValue with
    | some q => .float (.num q)
    | none => .null),
  ("unit", .str p.unit), ("details", .obj p.details)]

/-- `ResilienceReport.to_dict` -/
def ResilienceReport.toDict (r : ResilienceReport) (generatedAt : String) : Dict := [
  ("generated_at", .str generatedAt),
  ("topology", .obj [
    ("regions", .arr (r.regions.map .str)), ("primary_region", .str r.primaryRegion),
    ("killed_region", .str r.killedRegion), ("nodes_total", .int r.nodesTotal), ("replication_factor", .int 5)]),
  ("run", .obj [
    ("org_id", .str r.seed.orgId), ("agent_id", .str r.seed.agentId), ("service_id", .str r.seed.serviceId),
    ("incident_id", .str r.seed.incidentId), ("outage_writes", .arr (r.outageWrites.map .str)),
    ("rows_tracked_for_rpo", .int r.rowsTrackedForRpo)]),
  ("probes", .obj (r.probes.items.map fun p => (p.1, .obj (probeDict p.2)))),
  ("node_liveness", .obj [
    ("before_kill", .int r.nodeLiveness.beforeKill), ("during_outage", .int r.nodeLiveness.duringOutage),
    ("after_recovery", .int r.nodeLiveness.afterRecovery), ("expected", .int r.nodeLiveness.expected),
    ("region_down_detected", .bool r.nodeLiveness.regionDownDetected),
    ("region_down_detection_seconds", .float (.num r.nodeLiveness.regionDownDetectionSeconds)),
    ("recovery_reached_full_liveness", .bool r.nodeLiveness.recoveryReachedFullLiveness),
    ("recovery_elapsed_seconds", .float (.num r.nodeLiveness.recoveryElapsedSeconds))]),
  ("range_snapshot", .obj [
    ("before_kill", r.rangesBefore), ("during_outage", r.rangesDuring), ("after_recovery", r.rangesAfter)]),
  ("overall", .obj [
    ("pass", .bool r.overall.pass), ("failed_probes", .arr (r.overall.failedProbes.map .str)),
    ("summary", .str r.overall.summary)]),
  ("leaseholder_pin", .obj (r.leaseholderPin.map fun p => (p.1, .obj p.2.toDict))),
  ("schema_version", .str "postmortem-resilience-v1")]

end Resilience

namespace Web

/-! ## The view -/

/-- `ProbeStatus` -/
inductive ProbeStatus where
  | pass
  | fail
deriving DecidableEq

/-- `bool` -/
def bool (value : Option Json) : Bool :=
  match value with
  | some (.bool b) => b
  | _ => false

/-- `num` -/
def num (value : Option Json) : Option Flt :=
  match value with
  | some (.int i) => some (.num i)
  | some (.float x) => some x
  | _ => none

/-- `arrayLength` -/
def arrayLength (value : Option Json) : Option Nat :=
  match value with
  | some (.arr items) => some items.length
  | _ => none

/-- `str` -/
def str (value : Option Json) : String :=
  match value with
  | some (.str s) => s
  | _ => ""

/-- `ResilienceView.liveness` -/
structure LivenessView where
  beforeKill : Flt
  duringOutage : Flt
  afterRecovery : Flt
  expected : Flt
  regionDownDetected : Bool
  regionDownDetectionSeconds : Flt
  recoveryElapsedSeconds : Flt

/-- `ResilienceView.rpo`; `none` is `null`. -/
structure RpoView where
  rowsLost : Option Flt
  rowsExpected : Flt
  rowsFound : Flt
  status : ProbeStatus

/-- `ResilienceView.rto`; `seconds` is what stands in the report. -/
structure RtoView where
  seconds : Option Json
  targetSeconds : Flt
  recoveredViaRegion : Option String
  status : ProbeStatus

/-- `ResilienceView.freshness` -/
structure FreshnessView where
  staleMs : Option Json
  foundImmediately : Bool
  writeNode : String
  readNode : String
  status : ProbeStatus

/-- `ResilienceView.crossAgent` -/
structure CrossAgentView where
  latencyMs : Option Json
  writerRegion : String
  readerRegion : String
  crossRegion : Bool
  foundImmediately : Bool
  status : ProbeStatus

/-- `ResilienceView.atomicity` -/
structure AtomicityView where
  commitPass : Bool
  abortPass : Bool
  constraintViolationRaised : Bool
  status : ProbeStatus

/-- `ResilienceView.overall` -/
structure OverallView where
  pass : Bool
  failedProbes : List Json
  summary : String

/-- `ResilienceView` -/
structure ResilienceView where
  generatedAt : String
  regions : List Json
  primaryRegion : String
  killedRegion : String
  nodesTotal : Flt
  replicationFactor : Flt
  liveness : LivenessView
  rpo : RpoView
  rto : RtoView
  freshness : FreshnessView
  crossAgent : CrossAgentView
  atomicity : AtomicityView
  overall : OverallView

/-- A probe with its status and its details. -/
structure RawProbe where
  status : ProbeStatus
  measuredValue : Option Json
  details : Json

/-- A value that `isProbe` accepts. -/
def rawProbe (value : Option Json) : Option RawProbe := do
  let probe ← value
  let details ← prop probe "details"
  if isString (prop probe "probe_type") && isRecord (some details) then
    match prop probe "status" with
    | some (.str "pass") => some ⟨.pass, prop probe "measured_value", details⟩
    | some (.str "fail") => some ⟨.fail, prop probe "measured_value", details⟩
    | _ => none
  else none

/-- The rows lost: what was measured, or else the rows that are listed, or else unknown. -/
def rowsLost (rpo : RawProbe) : Option Flt :=
  match num rpo.measuredValue with
  | some lost => some lost
  | none =>
    match arrayLength (prop rpo.details "rows_missing"), arrayLength (prop rpo.details "rows_content_mismatched") with
    | none, none => none
    | missing, mismatched => some (.num ((missing.getD 0 + mismatched.getD 0 : Nat) : ℚ))

/-- What the checks of `resilienceViewFromReport` find. -/
structure Checked where
  generatedAt : String
  topology : Json
  regions : List Json
  killedRegion : String
  nodesTotal : Flt
  liveness : Json
  beforeKill : Flt
  duringOutage : Flt
  afterRecovery : Flt
  rpo : RawProbe
  rto : RawProbe
  freshness : RawProbe
  crossAgent : RawProbe
  atomicity : RawProbe
  overall : Json
  pass : Bool

/-- The checks of `resilienceViewFromReport`. -/
def checkedReport (report : Json) : Option Checked := do
  let topology ← prop report "topology"
  let liveness ← prop report "node_liveness"
  let probes ← prop report "probes"
  let overall ← prop report "overall"
  let nodesTotal ← num (prop topology "nodes_total")
  let beforeKill ← num (prop liveness "before_kill")
  let duringOutage ← num (prop liveness "during_outage")
  let afterRecovery ← num (prop liveness "after_recovery")
  let rpo ← rawProbe (prop probes "rpo")
  let rto ← rawProbe (prop probes "rto")
  let freshness ← rawProbe (prop probes "freshness")
  let crossAgent ← rawProbe (prop probes "cross_agent_visibility")
  let atomicity ← rawProbe (prop probes "atomicity")
  match prop report "generated_at", prop topology "regions", prop topology "killed_region", prop overall "pass" with
  | some (.str generatedAt), some (.arr regions), some (.str killedRegion), some (.bool pass) => some {
      generatedAt, topology, regions, killedRegion, nodesTotal, liveness, beforeKill, duringOutage, afterRecovery
      rpo, rto, freshness, crossAgent, atomicity, overall, pass }
  | _, _, _, _ => none

/-- What `resilienceViewFromReport` returns after its checks. -/
def Checked.view (c : Checked) : ResilienceView :=
  let commitPath := (prop c.atomicity.details "commit_path").getD .null
  let abortPath := (prop c.atomicity.details "abort_path").getD .null
  { generatedAt := c.generatedAt
    regions := c.regions
    primaryRegion := str (prop c.topology "primary_region")
    killedRegion := c.killedRegion
    nodesTotal := c.nodesTotal
    replicationFactor := (num (prop c.topology "replication_factor")).getD 0
    liveness := {
      beforeKill := c.beforeKill
      duringOutage := c.duringOutage
      afterRecovery := c.afterRecovery
      expected := (num (prop c.liveness "expected")).getD c.nodesTotal
      regionDownDetected := bool (prop c.liveness "region_down_detected")
      regionDownDetectionSeconds := (num (prop c.liveness "region_down_detection_seconds")).getD 0
      recoveryElapsedSeconds := (num (prop c.liveness "recovery_elapsed_seconds")).getD 0 }
    rpo := {
      rowsLost := rowsLost c.rpo
      rowsExpected := (num (prop c.rpo.details "rows_expected")).getD 0
      rowsFound := (num (prop c.rpo.details "rows_found")).getD 0
      status := c.rpo.status }
    rto := {
      seconds := c.rto.measuredValue
      targetSeconds := (num (prop c.rto.details "target_seconds")).getD 10
      recoveredViaRegion := match prop c.rto.details "recovered_via_region" with
        | some (.str region) => some region
        | _ => none
      status := c.rto.status }
    freshness := {
      staleMs := c.freshness.measuredValue
      foundImmediately := bool (prop c.freshness.details "found_immediately")
      writeNode := str (prop c.freshness.details "write_node")
      readNode := str (prop c.freshness.details "read_node")
      status := c.freshness.status }
    crossAgent := {
      latencyMs := c.crossAgent.measuredValue
      writerRegion := str (prop c.crossAgent.details "writer_region")
      readerRegion := str (prop c.crossAgent.details "reader_region")
      crossRegion := bool (prop c.crossAgent.details "cross_region")
      foundImmediately := bool (prop c.crossAgent.details "found_immediately")
      status := c.crossAgent.status }
    atomicity := {
      commitPass := bool (prop commitPath "pass")
      abortPass := bool (prop abortPath "pass")
      constraintViolationRaised := bool (prop abortPath "constraint_violation_raised")
      status := c.atomicity.status }
    overall := {
      pass := c.pass
      failedProbes := match prop c.overall "failed_probes" with
        | some (.arr failed) => failed
        | _ => []
      summary := str (prop c.overall "summary") } }

/-- `resilienceViewFromReport` -/
def resilienceViewFromReport (report : Json) : Option ResilienceView := (checkedReport report).map Checked.view

/-- `FailoverPhaseId` -/
inductive FailoverPhaseId where
  | steady
  | regionDown
  | recovered
deriving DecidableEq

/-- `FailoverPhase`; `none` is `null`. -/
structure FailoverPhase where
  id : FailoverPhaseId
  label : String
  caption : String
  liveNodes : Flt
  regionDown : Bool
  rtoSeconds : Option Json
  rpoRowsLost : Option Flt

/-- `failoverPhases`; `text` is a number in a template. -/
def failoverPhases (text : Flt → String) (view : ResilienceView) : List FailoverPhase := [
  { id := .steady
    label := "Steady state"
    caption := text view.liveness.beforeKill ++ "/" ++ text view.liveness.expected ++ " nodes live · all " ++
      toString view.regions.length ++ " regions healthy · agent writing memory"
    liveNodes := view.liveness.beforeKill
    regionDown := false
    rtoSeconds := some .null
    rpoRowsLost := view.rpo.rowsLost },
  { id := .regionDown
    label := view.killedRegion ++ " killed"
    caption := "region down in " ++ text view.liveness.regionDownDetectionSeconds ++
      "s · surviving quorum keeps writing · agent's sentence never breaks"
    liveNodes := view.liveness.duringOutage
    regionDown := true
    rtoSeconds := view.rto.seconds
    rpoRowsLost := view.rpo.rowsLost },
  { id := .recovered
    label := "Recovered"
    caption := "full liveness restored in " ++ text view.liveness.recoveryElapsedSeconds ++
      "s · every tracked row re-read intact"
    liveNodes := view.liveness.afterRecovery
    regionDown := false
    rtoSeconds := view.rto.seconds
    rpoRowsLost := view.rpo.rowsLost }]

/-! ## What a report is shown as -/

section shown

open Resilience

variable {double : ℚ → ℚ}

/-- A probe of the harness, as it is read back. -/
def raw (double : ℚ → ℚ) (p : Rto.ProbeResult) : RawProbe where
  status := if p.pass then .pass else .fail
  measuredValue := some (match p.measuredValue with
    | some q => .float (.num (double q))
    | none => .null)
  details := wire double (.obj p.details)

lemma rawProbe_wire {p : Rto.ProbeResult} : rawProbe (some (wire double (.obj (probeDict p)))) = some (raw double p) := by
  unfold raw probeDict
  cases p.pass with
  | false =>
    cases p.measuredValue with
    | none => rfl
    | some q => rfl
  | true =>
    cases p.measuredValue with
    | none => rfl
    | some q => rfl

lemma wireList_str {l : List String} : wireList double (l.map .str) = l.map .str := by
  induction l with
  | nil => rfl
  | cons s l ih =>
    rw [List.map_cons, wireList, ih]
    rfl

/-- What the console shows of a report: its figures and its verdict, and what the details of its probes say. -/
structure Shows (double : ℚ → ℚ) (r : ResilienceReport) (view : ResilienceView) : Prop where
  regions : view.regions = r.regions.map .str
  killedRegion : view.killedRegion = r.killedRegion
  nodesTotal : view.nodesTotal = .num (double r.nodesTotal)
  beforeKill : view.liveness.beforeKill = .num (double r.nodeLiveness.beforeKill)
  duringOutage : view.liveness.duringOutage = .num (double r.nodeLiveness.duringOutage)
  afterRecovery : view.liveness.afterRecovery = .num (double r.nodeLiveness.afterRecovery)
  regionDownDetected : view.liveness.regionDownDetected = r.nodeLiveness.regionDownDetected
  rpo : view.rpo = {
    rowsLost := rowsLost (raw double r.probes.rpo)
    rowsExpected := (num (prop (raw double r.probes.rpo).details "rows_expected")).getD 0
    rowsFound := (num (prop (raw double r.probes.rpo).details "rows_found")).getD 0
    status := (raw double r.probes.rpo).status }
  rto : view.rto.seconds = (raw double r.probes.rto).measuredValue ∧ view.rto.status = (raw double r.probes.rto).status
  freshness : view.freshness.status = (raw double r.probes.freshness).status
  crossAgent : view.crossAgent.status = (raw double r.probes.crossAgentVisibility).status
  atomicity : view.atomicity.status = (raw double r.probes.atomicity).status
  pass : view.overall.pass = r.overall.pass
  failedProbes : view.overall.failedProbes = r.overall.failedProbes.map .str
  summary : view.overall.summary = r.overall.summary

/-- Every report of the harness is accepted, and shown as it is. -/
lemma report_shows {r : ResilienceReport} {generatedAt : String} :
    ∃ view, resilienceViewFromReport (wire double (.obj (r.toDict generatedAt))) = some view ∧ Shows double r view := by
  have probe (name : String) (p : Rto.ProbeResult)
      (listed : prop (.obj (r.probes.items.map fun p => (p.1, .obj (probeDict p.2)))) name = some (.obj (probeDict p))) :
      rawProbe (prop (wire double (.obj (r.probes.items.map fun p => (p.1, .obj (probeDict p.2))))) name) =
        some (raw double p) := by
    rw [prop_wire, listed, Option.map_some, rawProbe_wire]
  have regions : wire double (.arr (r.regions.map .str)) = .arr (r.regions.map .str) := by
    rw [wire, wireList_str]
  have failed : wire double (.arr (r.overall.failedProbes.map .str)) = .arr (r.overall.failedProbes.map .str) := by
    rw [wire, wireList_str]
  have rpo := probe "rpo" _ rfl
  have rto := probe "rto" _ rfl
  have freshness := probe "freshness" _ rfl
  have cross := probe "cross_agent_visibility" _ rfl
  have atomicity := probe "atomicity" _ rfl
  -- the four sections, and what stands in them
  obtain ⟨topology, hasTopology, regions_eq, killed_eq, total_eq⟩ : ∃ topology,
      prop (wire double (.obj (r.toDict generatedAt))) "topology" = some topology ∧
        prop topology "regions" = some (.arr (r.regions.map .str)) ∧
        prop topology "killed_region" = some (.str r.killedRegion) ∧
        num (prop topology "nodes_total") = some (.num (double r.nodesTotal)) :=
    ⟨_, rfl, congrArg some regions, rfl, rfl⟩
  obtain ⟨liveness, hasLiveness, before_eq, during_eq, after_eq, down_eq⟩ : ∃ liveness,
      prop (wire double (.obj (r.toDict generatedAt))) "node_liveness" = some liveness ∧
        num (prop liveness "before_kill") = some (.num (double r.nodeLiveness.beforeKill)) ∧
        num (prop liveness "during_outage") = some (.num (double r.nodeLiveness.duringOutage)) ∧
        num (prop liveness "after_recovery") = some (.num (double r.nodeLiveness.afterRecovery)) ∧
        prop liveness "region_down_detected" = some (.bool r.nodeLiveness.regionDownDetected) :=
    ⟨_, rfl, rfl, rfl, rfl, rfl⟩
  obtain ⟨overall, hasOverall, pass_eq, failed_eq, summary_eq⟩ : ∃ overall,
      prop (wire double (.obj (r.toDict generatedAt))) "overall" = some overall ∧
        prop overall "pass" = some (.bool r.overall.pass) ∧
        prop overall "failed_probes" = some (.arr (r.overall.failedProbes.map .str)) ∧
        prop overall "summary" = some (.str r.overall.summary) :=
    ⟨_, rfl, rfl, congrArg some failed, rfl⟩
  have hasProbes : prop (wire double (.obj (r.toDict generatedAt))) "probes" =
      some (wire double (.obj (r.probes.items.map fun p => (p.1, .obj (probeDict p.2))))) := rfl
  have written : prop (wire double (.obj (r.toDict generatedAt))) "generated_at" = some (.str generatedAt) := rfl
  let c : Checked := {
    generatedAt, topology, regions := r.regions.map .str, killedRegion := r.killedRegion
    nodesTotal := .num (double r.nodesTotal)
    liveness
    beforeKill := .num (double r.nodeLiveness.beforeKill)
    duringOutage := .num (double r.nodeLiveness.duringOutage)
    afterRecovery := .num (double r.nodeLiveness.afterRecovery)
    rpo := raw double r.probes.rpo
    rto := raw double r.probes.rto
    freshness := raw double r.probes.freshness
    crossAgent := raw double r.probes.crossAgentVisibility
    atomicity := raw double r.probes.atomicity
    overall, pass := r.overall.pass }
  have found : checkedReport (wire double (.obj (r.toDict generatedAt))) = some c := by
    unfold checkedReport
    refine Option.bind_eq_some_iff.mpr ⟨_, hasTopology, Option.bind_eq_some_iff.mpr ⟨_, hasLiveness, ?_⟩⟩
    refine Option.bind_eq_some_iff.mpr ⟨_, hasProbes, Option.bind_eq_some_iff.mpr ⟨_, hasOverall, ?_⟩⟩
    refine Option.bind_eq_some_iff.mpr ⟨_, total_eq, Option.bind_eq_some_iff.mpr ⟨_, before_eq, ?_⟩⟩
    refine Option.bind_eq_some_iff.mpr ⟨_, during_eq, Option.bind_eq_some_iff.mpr ⟨_, after_eq, ?_⟩⟩
    refine Option.bind_eq_some_iff.mpr ⟨_, rpo, Option.bind_eq_some_iff.mpr ⟨_, rto, ?_⟩⟩
    refine Option.bind_eq_some_iff.mpr ⟨_, freshness, Option.bind_eq_some_iff.mpr ⟨_, cross, ?_⟩⟩
    refine Option.bind_eq_some_iff.mpr ⟨_, atomicity, ?_⟩
    rw [written, regions_eq, killed_eq, pass_eq]
  refine ⟨c.view, by rw [resilienceViewFromReport, found]; rfl, ?_⟩
  constructor
  case regionDownDetected => exact congrArg bool down_eq
  case failedProbes =>
    show (match prop overall "failed_probes" with
      | some (.arr failed) => failed
      | _ => []) = _
    rw [failed_eq]
  case summary => exact congrArg str summary_eq
  case rto => exact ⟨rfl, rfl⟩
  all_goals rfl

/-- The row did not come back as it was written. -/
def Lost (r : Rto.TrackedRow × Option (Option String)) : Prop := Missing r.2 ∨ Mismatched r.1 r.2

instance {r} : Decidable (Lost r) := inferInstanceAs (Decidable (_ ∨ _))

lemma lost_count {read : List (Rto.TrackedRow × Option (Option String))} :
    (read.filter fun r => Missing r.2).length + (read.filter fun r => Mismatched r.1 r.2).length =
      (read.filter fun r => Lost r).length := by
  induction read with
  | nil => rfl
  | cons r read ih =>
    simp only [List.filter_cons]
    by_cases missing : Missing r.2
    · have back : ¬ Mismatched r.1 r.2 := by
        rintro ⟨_, content, there, _⟩
        cases missing.symm.trans there
      rw [if_pos (decide_eq_true missing), if_neg (by simpa using back), if_pos (decide_eq_true (.inl missing)),
        List.length_cons, List.length_cons, ← ih]
      omega
    · rw [if_neg (by simpa using missing)]
      by_cases other : Mismatched r.1 r.2
      · rw [if_pos (decide_eq_true other), if_pos (decide_eq_true (.inr other)), List.length_cons, List.length_cons, ← ih]
        omega
      · have kept : ¬ Lost r := fun lost => lost.elim missing other
        rw [if_neg (by simpa using other), if_neg (by simpa using kept), ← ih]

lemma rowsLost_rpo {phase : String} {read : List (Rto.TrackedRow × Option (Option String))} :
    rowsLost (raw double (rpoResult phase read)) = some (.num (double (read.filter fun r => Lost r).length)) := by
  rw [← lost_count]
  rfl

/-- The loss probe passes where nothing was lost. -/
lemma rpo_pass_iff {phase : String} {read : List (Rto.TrackedRow × Option (Option String))} :
    (rpoResult phase read).pass = true ↔ (read.filter fun r => Lost r).length = 0 := by
  rw [← lost_count]
  exact decide_eq_true_iff

/-- The three phases show the same rows lost. -/
lemma phases_rowsLost {text : Flt → String} {view : ResilienceView} :
    ∀ phase ∈ failoverPhases text view, phase.rpoRowsLost = view.rpo.rowsLost := by
  simp [failoverPhases]

end shown

section runs

open Resilience Interaction

/-- The console accepts the report of every run that returns, whatever the cluster answered, and shows in each phase
as many rows lost as did not come back, as they were written, when all that is tracked was read after the restart. A
row lost is never shown as a zero nor within a pass; and where the console shows a pass, every row of an acknowledged
insert was read back. -/
theorem console_shows_losses (env : Environment) (rt : Runtime) (cfg : HarnessConfig) (fuel : Nat) {report h}
    (ran : run env rt cfg fuel [] = (.ok report, h)) (generatedAt : String) (text : Flt → String) (double : ℚ → ℚ)
    (exact : ∀ n : Nat, n ≤ report.rowsTrackedForRpo → double n = n) :
    ∃ (view : ResilienceView) (before waited recorded : Resilience.History) (restartedAt : ℚ)
        (read : List (Rto.TrackedRow × Option (Option String))),
      resilienceViewFromReport (wire double (.obj (report.toDict generatedAt))) = some view ∧
      h = before ++ restarted cfg :: event .time restartedAt ::
        (waited ++ reads cfg.controlNode.toNode read ++ recorded) ∧
      read.length = report.rowsTrackedForRpo ∧
      (∀ phase ∈ failoverPhases text view,
        phase.rpoRowsLost = some (.num ((read.filter fun r => Lost r).length : ℚ))) ∧
      view.overall.pass = report.overall.pass ∧
      (∀ r ∈ read, Lost r → view.overall.pass = false ∧ view.rpo.status = .fail ∧
        .str "rpo" ∈ view.overall.failedProbes) ∧
      (view.overall.pass = true →
        (∀ phase ∈ failoverPhases text view, phase.rpoRowsLost = some 0) ∧
        ∀ row ∈ acknowledged h, ReadBack cfg row (reads cfg.controlNode.toNode read)) := by
  obtain ⟨c, rfl⟩ := run_ok ran
  obtain ⟨view, accepted, shows⟩ := @report_shows double report generatedAt
  have probed : report.probes.rpo = rpoResult "after_recovery" c.recovery.read := by rw [c.probes_eq]
  have length : c.recovery.read.length = report.rowsTrackedForRpo := by
    obtain ⟨_, _, e⟩ := c.recovery.report_eq
    have tracked : report.rowsTrackedForRpo = c.mid.tracker.length := congrArg ResilienceReport.rowsTrackedForRpo e
    rw [tracked, ← c.recovery.read_eq, List.length_map]
  have lost : view.rpo.rowsLost = some (.num ((c.recovery.read.filter fun r => Lost r).length : ℚ)) := by
    rw [shows.rpo, probed]
    dsimp only
    rw [rowsLost_rpo, exact _ ((List.length_filter_le _ _).trans_eq length)]
  have phases : ∀ phase ∈ failoverPhases text view,
      phase.rpoRowsLost = some (.num ((c.recovery.read.filter fun r => Lost r).length : ℚ)) := by
    intro phase mem
    exact (phases_rowsLost phase mem).trans lost
  refine ⟨view, _, c.recovery.waited, c.recovery.recorded, c.restartedAt, c.recovery.read, accepted, rfl, length, phases,
    shows.pass, ?_, ?_⟩
  · intro r mem gone
    have failed : (rpoResult "after_recovery" c.recovery.read).pass = false := by
      rw [← Bool.not_eq_true, rpo_pass_iff, List.length_eq_zero_iff, List.filter_eq_nil_iff]
      exact fun none => none r mem (decide_eq_true gone)
    refine ⟨?_, ?_, ?_⟩
    · rw [shows.pass, ← Bool.not_eq_true, c.pass_iff]
      rintro ⟨_, _, _, _, _, pass⟩
      exact Bool.false_ne_true (failed.symm.trans pass)
    · rw [shows.rpo, probed]
      show (if (rpoResult "after_recovery" c.recovery.read).pass then _ else _) = _
      rw [failed]
      rfl
    · rw [shows.failedProbes, c.overall_eq]
      refine List.mem_map_of_mem (List.mem_map.mpr ⟨("rpo", report.probes.rpo), List.mem_filter.mpr ⟨?_, ?_⟩, rfl⟩)
      · simp [Probes.items]
      · rw [probed, failed]
        rfl
  · intro pass
    rw [shows.pass, c.pass_iff] at pass
    obtain ⟨_, _, atomic, _, _, after⟩ := pass
    constructor
    · intro phase mem
      rw [phases phase mem, rpo_pass_iff.mp after]
      rfl
    · -- the abort path was refused, so the rows that were acknowledged are the tracked ones
      rw [List.nil_append, c.acknowledged_eq_rows (c.abort_refused atomic)]
      exact readBack_of_pass after (c.recovery.read_eq.trans c.rows_tracked.symm) c.rows_content

end runs

namespace Sample

open Resilience Interaction

/-- The cluster of the example, which forgets an action over the restart of the region. -/
def forgetful (h : Resilience.History) : (r : Resilience.Request) → Resilience.Answer r
  | .select node q =>
    (if q.table = "remediation_actions" ∧ h.any fun e => match e.1 with
        | .composeStart _ => true
        | _ => false then .ok none
    else Resilience.Sample.env h (.select node q) : Except Raised (Option (Option String)))
  | r => Resilience.Sample.env h r

/-- The console shows one row lost in each phase. -/
lemma forgets : ∃ report h view, run forgetful Runtime.sample {} 3 [] = (.ok report, h) ∧
    resilienceViewFromReport (wire (fun q => q) (.obj (report.toDict "2026-07-31T14:32:55+00:00"))) = some view ∧
      (failoverPhases (fun _ => "") view).map FailoverPhase.rpoRowsLost = List.replicate 3 (some (.num 1)) := by
  have seen : (match run forgetful Runtime.sample {} 3 [] with
    | (.ok report, _) =>
      (resilienceViewFromReport (wire (fun q => q) (.obj (report.toDict "2026-07-31T14:32:55+00:00")))).any fun view =>
        (failoverPhases (fun _ => "") view).map FailoverPhase.rpoRowsLost = List.replicate 3 (some (.num 1))
    | (.error _, _) => false) = true := by decide +kernel
  generalize run forgetful Runtime.sample {} 3 [] = out at seen
  obtain ⟨_ | report, h⟩ := out
  case error => cases seen
  case ok =>
    obtain ⟨view, accepted, lost⟩ := (Option.any_eq_true _ _).mp seen
    exact ⟨report, h, view, rfl, accepted, of_decide_eq_true lost⟩

end Sample

section runs

open Resilience Interaction

/-- A run in which nothing is lost, and one over the cluster that forgets a row. -/
theorem console_shows_losses_sample :
    (∃ report h view, run Resilience.Sample.env Runtime.sample {} 3 [] = (.ok report, h) ∧
      resilienceViewFromReport (wire (fun q => q) (.obj (report.toDict "2026-07-31T14:32:55+00:00"))) = some view ∧
        ∀ phase ∈ failoverPhases (fun _ => "") view, phase.rpoRowsLost = some 0) ∧
    ∃ report h view, run Sample.forgetful Runtime.sample {} 3 [] = (.ok report, h) ∧
      resilienceViewFromReport (wire (fun q => q) (.obj (report.toDict "2026-07-31T14:32:55+00:00"))) = some view ∧
        (failoverPhases (fun _ => "") view).map FailoverPhase.rpoRowsLost = List.replicate 3 (some (.num 1)) ∧
          view.overall.pass = false ∧ .str "rpo" ∈ view.overall.failedProbes := by
  constructor
  case left =>
    obtain ⟨report, h, ran, pass, _⟩ := Resilience.Sample.passes
    obtain ⟨view, _, _, _, _, _, accepted, _, _, _, same, _, kept⟩ := console_shows_losses Resilience.Sample.env
      Runtime.sample {} 3 ran "2026-07-31T14:32:55+00:00" (fun _ => "") (fun q => q) fun _ _ => rfl
    exact ⟨report, h, view, ran, accepted, (kept (same.trans pass)).1⟩
  case right =>
    obtain ⟨report, h, view, ran, accepted, lost⟩ := Sample.forgets
    obtain ⟨view', _, _, _, _, read, accepted', _, _, phases, _, gone, _⟩ := console_shows_losses Sample.forgetful
      Runtime.sample {} 3 ran "2026-07-31T14:32:55+00:00" (fun _ => "") (fun q => q) fun _ _ => rfl
    cases accepted.symm.trans accepted'
    -- what the phases show is the number of the rows lost
    have shown : some (Flt.num 1) ∈ (failoverPhases (fun _ => "") view).map FailoverPhase.rpoRowsLost := by
      rw [lost]
      exact List.mem_cons_self
    obtain ⟨phase, mem, one⟩ := List.mem_map.mp shown
    have count : ((read.filter fun r => Lost r).length : ℚ) = 1 :=
      Flt.num.inj (Option.some.inj ((phases phase mem).symm.trans one))
    have some : 0 < (read.filter fun r => Lost r).length := by
      rw [Nat.cast_eq_one.mp count]
      exact Nat.one_pos
    obtain ⟨r, there⟩ := List.exists_mem_of_length_pos some
    obtain ⟨mem, isLost⟩ := List.mem_filter.mp there
    obtain ⟨failed, _, named⟩ := gone r mem (of_decide_eq_true isLost)
    exact ⟨report, h, view, ran, accepted, lost, failed, named⟩

end runs

end Web

end Postmortem
