import Postmortem.Resilience.Probes

/-!
# The resilience harness

`harness.py`, with `region_control.py` and `report.py`: `ResilienceHarness.run` seeds the cluster, moves the leases of
the probed tables into the region to be killed, writes and tracks rows, kills the region, writes on, reads every
tracked row, restores the region and reads them again. The call is cut at the kill and at the restart; each part
hands the next what it needs.
-/

namespace Postmortem

namespace Resilience

open Interaction Rounding

/-- `PINNED_TABLES` -/
def defaultPinnedTables : List String := ["episodic_events", "remediation_actions"]

/-- `HarnessConfig` -/
structure HarnessConfig where
  killRegion : String := "us-east-2"
  controlNode : Node := Resilience.controlNode
  targetRtoSeconds : ℚ := 10
  rtoDeadlineSeconds : ℚ := 60
  regionDownWaitSeconds : ℚ := 15
  recoveryTimeoutSeconds : ℚ := 150
  extraWritesDuringOutage : Nat := 2
  pinnedTables : List String := defaultPinnedTables
  leaseholderPinTimeoutSeconds : ℚ := 180
  leaseholderPinPollIntervalSeconds : ℚ := 2

/-! ## Region control -/

/-- `NodeLiveness.region` -/
def NodeLiveness.region (n : NodeLiveness) : String :=
  match (n.locality.toList.splitOn ',').find? fun part => "region=".toList.isPrefixOf part with
  | some part => String.ofList (part.drop 7)
  | none => ""

/-- `count_live` -/
def countLive (rows : List NodeLiveness) : Nat := (rows.filter fun r => r.isLive).length

/-- `no nodes configured for region …` -/
def noNodes (rt : Runtime) (region : String) : Raised :=
  ⟨.ValueError, "no nodes configured for region " ++ rt.repr (.str region), none, none⟩

section control

variable (env : Environment) (rt : Runtime)

/-- `kill_region` -/
def killRegion (region : String) : Call ℚ :=
  if servicesInRegion region = [] then raise (noNodes rt region)
  else do
    let answer : Except Raised Unit ← ask env (.composeKill (servicesInRegion region))
    Effect.lift (checked answer)
    time env

/-- `restore_region` -/
def restoreRegion (region : String) : Call ℚ :=
  if servicesInRegion region = [] then raise (noNodes rt region)
  else do
    let answer : Except Raised Unit ← ask env (.composeStart (servicesInRegion region))
    Effect.lift (checked answer)
    time env

/-- `node_status`, and no rows where the command fails. -/
def polledStatus (node : Rto.Node) : Call (List NodeLiveness) := do
  let answer : Except Raised (List NodeLiveness) ← ask env (.nodeStatus node)
  match answer with
  | .ok rows => return rows
  | .error e => if e.cls = .other "CalledProcessError" then return [] else raise e

/-- A loop that polls the status until it is `good`: `reached`, `elapsed_s` and the rows seen last. -/
def pollStatus (node : Rto.Node) (timeoutS pollIntervalS start : ℚ) (good : List NodeLiveness → Bool) :
    Nat → List NodeLiveness → Call (Bool × ℚ × List NodeLiveness)
  | 0, _ => Effect.raise .outOfFuel
  | fuel + 1, seen => do
    let now ← time env
    if now - start < timeoutS then
      let rows ← polledStatus env node
      if good rows then
        let now ← time env
        return (true, now - start, rows)
      else
        sleep env pollIntervalS
        pollStatus node timeoutS pollIntervalS start good fuel rows
    else
      let now ← time env
      return (false, now - start, seen)

/-- The nodes of the region are down and all others are live. -/
def regionDown (region : String) (rows : List NodeLiveness) : Bool :=
  let regionRows := rows.filter fun r => r.region = region
  let otherRows := rows.filter fun r => r.region ≠ region
  !regionRows.isEmpty && (regionRows.all fun r => !r.isLive) &&
    (decide (otherRows.length = topology.length - (nodesInRegion region).length) && otherRows.all fun r => r.isLive)

/-- `wait_for_region_down` -/
def waitForRegionDown (region : String) (timeoutS : ℚ) (node : Rto.Node) (fuel : Nat) :
    Call (Bool × ℚ × List NodeLiveness) := do
  let start ← time env
  pollStatus env node timeoutS (1 / 2) start (regionDown region) fuel []

/-- `wait_for_full_liveness` -/
def waitForFullLiveness (expectedLive : Nat) (timeoutS : ℚ) (node : Rto.Node) (fuel : Nat) :
    Call (Bool × ℚ × List NodeLiveness) := do
  let start ← time env
  pollStatus env node timeoutS 2 start (fun rows => decide (expectedLive ≤ countLive rows)) fuel []

end control

/-! ## The report -/

/-- `probes_by_name` -/
structure Probes where
  freshness : Rto.ProbeResult
  crossAgentVisibility : Rto.ProbeResult
  atomicity : Rto.ProbeResult
  rto : Rto.ProbeResult
  rpoDuringOutage : Rto.ProbeResult
  rpo : Rto.ProbeResult

/-- The items of `probes_by_name`. -/
def Probes.items (p : Probes) : List (String × Rto.ProbeResult) := [
  ("freshness", p.freshness), ("cross_agent_visibility", p.crossAgentVisibility), ("atomicity", p.atomicity),
  ("rto", p.rto), ("rpo_during_outage", p.rpoDuringOutage), ("rpo", p.rpo)]

/-- `overall` -/
structure Overall where
  pass : Bool
  failedProbes : List String
  summary : String

/-- `overall_from_probes` -/
def overallFromProbes (probes : List (String × Rto.ProbeResult)) : Overall :=
  let failed := (probes.filter fun p => !p.2.pass).map Prod.fst
  { pass := decide (failed.length = 0)
    failedProbes := failed
    summary :=
      if failed = [] then
        "all resilience probes passed: RPO=0, RTO<target, freshness=0ms, " ++
          "atomicity holds, cross-agent visibility has no lag"
      else "probes failed: " ++ ", ".intercalate failed }

/-- `node_liveness` -/
structure Liveness where
  beforeKill : Nat
  duringOutage : Nat
  afterRecovery : Nat
  expected : Nat
  regionDownDetected : Bool
  regionDownDetectionSeconds : ℚ
  recoveryReachedFullLiveness : Bool
  recoveryElapsedSeconds : ℚ

/-- `ResilienceReport`; `generated_at` is a reading of the clock that nothing else depends on. -/
structure ResilienceReport where
  regions : List String
  primaryRegion : String
  killedRegion : String
  nodesTotal : Nat
  seed : SeedContext
  outageWrites : List String
  rowsTrackedForRpo : Nat
  probes : Probes
  leaseholderPin : List (String × LeaseholderVerification)
  nodeLiveness : Liveness
  rangesBefore : Json
  rangesDuring : Json
  rangesAfter : Json
  overall : Overall

/-! ## The run -/

/-- A text in the details of a probe. -/
def detail (details : Dict) (key : String) : String :=
  match details.get key with
  | .str s => s
  | _ => ""

/-- A row the tracker is given. -/
def trackedEpisode (orgId eventId content : String) : Rto.TrackedRow :=
  ⟨"episodic_events", "event_id", eventId, orgId, "content", content⟩

/-- What the run has before the kill. -/
structure Prepared where
  seed : SeedContext
  leaseholderPin : List (String × LeaseholderVerification)
  leaseholderNode : Node
  liveBefore : Nat
  rangesBefore : Json
  freshness : Rto.ProbeResult
  crossAgent : Rto.ProbeResult
  atomicity : Rto.ProbeResult
  tracker : List Rto.TrackedRow

/-- What the run has when the region is to be restored. -/
structure Endured where
  rto : Rto.ProbeResult
  outageWrites : List String
  tracker : List Rto.TrackedRow
  down : Bool × ℚ × List NodeLiveness
  rangesDuring : Json
  rpoDuringOutage : Rto.ProbeResult

section run

variable (env : Environment) (rt : Runtime) (cfg : HarnessConfig) (fuel : Nat)

/-- The node that holds the lease of `episodic_events`, which has to be in the region that is killed. -/
def leaseholder (pin : List (String × LeaseholderVerification)) : Except Raised Node :=
  match Assoc.get pin "episodic_events" with
  | none => .error ⟨.KeyError, "'episodic_events'", none, none⟩
  | some verified =>
    let locality := verified.sampleLeaseholderLocality.getD ""
    match if locality = "" then none else resolveNodeFromLocality locality with
    | none => .error {
        cls := .other "RuntimeError"
        message := "could not resolve a concrete node from the pinned episodic_events leaseholder locality " ++
          rt.repr (Json.ofText? verified.sampleLeaseholderLocality) ++
          " -- refusing to proceed without a guaranteed real-leaseholder RTO probe." }
    | some node =>
      if node.region ≠ cfg.killRegion then .error {
        cls := .other "RuntimeError"
        message := "episodic_events leaseholder resolved to " ++ rt.repr (.str node.service) ++ " in region " ++
          rt.repr (.str node.region) ++ ", not the kill region " ++ rt.repr (.str cfg.killRegion) ++
          " -- pin verification should have caught this." }
      else .ok node

/-- `third_region_node` -/
def thirdRegionNode : Node :=
  (topology.filter fun n => n.region ≠ cfg.controlNode.region ∧ n.region ≠ cfg.killRegion).headD cfg.controlNode

/-- The leases are moved and looked for. -/
def pin : Call (List (String × LeaseholderVerification) × Node) := do
  let leaseholderPin ← pinAndVerify env rt cfg.controlNode cfg.killRegion cfg.leaseholderPinTimeoutSeconds
    cfg.leaseholderPinPollIntervalSeconds cfg.pinnedTables fuel
  let leaseholderNode ← Effect.lift (checked (leaseholder rt cfg leaseholderPin))
  return (leaseholderPin, leaseholderNode)

/-- The run up to the kill. -/
def prepare : Call Prepared := do
  let control := cfg.controlNode.toNode
  let seed ← seedBaseline env control
  let (leaseholderPin, leaseholderNode) ← pin env rt cfg fuel
  let livenessBefore ← nodeStatus env control
  let rangesBefore ← rangeSnapshot env control "episodic_events"
  let freshness ← probeFreshness env seed control (thirdRegionNode cfg).toNode
  let writer ← Effect.lift (match nodesInRegion cfg.killRegion with
    | [] => .error (.raised ⟨.IndexError, "tuple index out of range", none, none⟩)
    | n :: _ => .ok n.toNode)
  let crossAgent ← probeCrossAgentVisibility env seed writer control
  let a ← probeAtomicity env seed control
  return {
    seed, leaseholderPin, leaseholderNode, rangesBefore, freshness, crossAgent
    liveBefore := countLive livenessBefore
    atomicity := a.result
    tracker := [
      trackedEpisode seed.orgId (detail freshness.details "event_id") (detail freshness.details "content"),
      trackedEpisode seed.orgId (detail crossAgent.details "event_id") (detail crossAgent.details "content"),
      trackedEpisode seed.orgId a.eventId "atomicity probe: commit path",
      ⟨"remediation_actions", "action_id", a.actionId, seed.orgId, "idempotency_key", a.commitKey⟩] }

/-- The arguments of `probe_rto`. -/
def rtoParams (prep : Prepared) (killStartedAt : ℚ) : Rto.Params where
  killStartedAt := killStartedAt
  candidateNodes := topology.map Node.toNode
  orgId := prep.seed.orgId
  killRegion := cfg.killRegion
  leaseholderNode := prep.leaseholderNode.toNode
  targetSeconds := cfg.targetRtoSeconds
  deadlineSeconds := cfg.rtoDeadlineSeconds
  tracker := true

/-- The content of the extra writes. -/
def outageContent : String := "resilience harness: write during outage"

/-- One of the extra writes, by its identifier. -/
def outageWrite (seed : SeedContext) : Call String := do
  let eventId ← uuid4 env
  insert env cfg.controlNode.toNode [episode seed eventId outageContent]
  return eventId

/-- The run from the kill up to the restart. -/
def endure (prep : Prepared) (killStartedAt : ℚ) : Call Endured := do
  let control := cfg.controlNode.toNode
  let (rto, recovered) ← probeRto env prep.seed (rtoParams cfg prep killStartedAt) fuel
  let outageWrites ← forEach (fun _ => outageWrite env cfg prep.seed) (List.range cfg.extraWritesDuringOutage)
  let tracker := prep.tracker ++ recovered ++
    outageWrites.map fun eventId => trackedEpisode prep.seed.orgId eventId outageContent
  let down ← waitForRegionDown env cfg.killRegion cfg.regionDownWaitSeconds control fuel
  let rangesDuring ← rangeSnapshot env control "episodic_events"
  let rpoDuringOutage ← probeRpo env control tracker "during_outage"
  return { rto, outageWrites, tracker, down, rangesDuring, rpoDuringOutage }

/-- The report. -/
def assemble (prep : Prepared) (mid : Endured) (recovered : Bool × ℚ × List NodeLiveness) (rangesAfter : Json)
    (rpo : Rto.ProbeResult) : ResilienceReport :=
  let probes : Probes := {
    freshness := prep.freshness
    crossAgentVisibility := prep.crossAgent
    atomicity := prep.atomicity
    rto := mid.rto
    rpoDuringOutage := mid.rpoDuringOutage
    rpo := rpo }
  { regions := (topology.map fun n => n.region).dedup.insertionSort (· ≤ ·)
    primaryRegion := cfg.controlNode.region
    killedRegion := cfg.killRegion
    nodesTotal := topology.length
    seed := prep.seed
    outageWrites := mid.outageWrites
    rowsTrackedForRpo := mid.tracker.length
    probes := probes
    leaseholderPin := prep.leaseholderPin
    nodeLiveness := {
      beforeKill := prep.liveBefore
      duringOutage := countLive mid.down.2.2
      afterRecovery := countLive recovered.2.2
      expected := topology.length
      regionDownDetected := mid.down.1
      regionDownDetectionSeconds := roundTo 2 mid.down.2.1
      recoveryReachedFullLiveness := recovered.1
      recoveryElapsedSeconds := roundTo 2 recovered.2.1 }
    rangesBefore := prep.rangesBefore
    rangesDuring := mid.rangesDuring
    rangesAfter := rangesAfter
    overall := overallFromProbes probes.items }

/-- The run after the restart. -/
def recover (prep : Prepared) (mid : Endured) : Call ResilienceReport := do
  let control := cfg.controlNode.toNode
  let recovered ← waitForFullLiveness env topology.length cfg.recoveryTimeoutSeconds control fuel
  let rangesAfter ← rangeSnapshot env control "episodic_events"
  let rpo ← probeRpo env control mid.tracker "after_recovery"
  let _ ← forEach (fun probe => recordProbe env control prep.seed.orgId probe)
    [prep.freshness, prep.crossAgent, prep.atomicity, mid.rto, mid.rpoDuringOutage, rpo]
  return assemble cfg prep mid recovered rangesAfter rpo

/-- `ResilienceHarness.run` -/
def run : Call ResilienceReport := do
  let prep ← prepare env rt cfg fuel
  let killStartedAt ← killRegion env rt cfg.killRegion
  let mid ← endure env cfg fuel prep killStartedAt
  let _ ← restoreRegion env rt cfg.killRegion
  recover env cfg fuel prep mid

end run

end Resilience

end Postmortem
