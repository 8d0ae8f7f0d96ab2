import Postmortem.Resilience.Cluster

/-!
# The probes

`probes/freshness.py`, `cross_agent.py`, `atomicity.py`, `rpo.py`, and `rto.py` as a call: its loop asks for the
readings and the writes that `Rto.World` gives all at once, and reports with the same `Rto.report`.
-/

namespace Postmortem

namespace Resilience

open Interaction Rounding

section probes

variable (env : Environment) (seed : SeedContext)

/-- An episode of the harness. -/
def episode (eventId content : String) : InsertedRow where
  table := "episodic_events"
  idColumn := "event_id"
  rowId := eventId
  orgId := seed.orgId
  contentColumn := "content"
  expectedContent := content
  agentId := some seed.agentId

/-- An action of the harness, known by its idempotency key. -/
def action (actionId idempotencyKey outcome : String) : InsertedRow where
  table := "remediation_actions"
  idColumn := "action_id"
  rowId := actionId
  orgId := seed.orgId
  contentColumn := "idempotency_key"
  expectedContent := idempotencyKey
  outcome := some outcome

/-- `SELECT content FROM episodic_events WHERE org_id = … AND event_id = …` -/
def contentQuery (agentId : Option String) (eventId : String) : Query where
  table := "episodic_events"
  idColumn := "event_id"
  rowId := eventId
  orgId := seed.orgId
  agentId := agentId
  column := some "content"

/-- `content == marker` -/
def matches? (row : Option (Option String)) (marker : String) : Bool := decide (row = some (some marker))

/-- A read that is timed: the row and `elapsed_ms`. -/
def timedSelect (node : Rto.Node) (query : Query) : Call (Option (Option String) × ℚ) := do
  let start ← perfCounter env
  let row ← select env node query
  let stop ← perfCounter env
  return (row, (stop - start) * 1000)

/-- An episode is written at one node and read at another: its identifier, the row and `elapsed_ms`. -/
def writeThenRead (marker : String → String) (agentId : Option String) (writer reader : Rto.Node) :
    Call (String × Option (Option String) × ℚ) := do
  let eventId ← uuid4 env
  insert env writer [episode seed eventId (marker eventId)]
  let (row, elapsedMs) ← timedSelect env reader (contentQuery seed agentId eventId)
  return (eventId, row, elapsedMs)

/-- `marker` of `probe_freshness` -/
def freshnessMarker (eventId : String) : String := "resilience-freshness-" ++ eventId

/-- The result of `probe_freshness`. -/
def freshnessResult (writeNode readNode : Rto.Node) (eventId : String) (row : Option (Option String)) (elapsedMs : ℚ) :
    Rto.ProbeResult where
  probeType := "read_your_write"
  pass := row.isSome && matches? row (freshnessMarker eventId)
  measuredValue := some (roundTo 3 elapsedMs)
  unit := "ms"
  details := [("event_id", .str eventId), ("content", .str (freshnessMarker eventId)),
    ("write_node", .str writeNode.service), ("read_node", .str readNode.service),
    ("same_node", .bool (decide (writeNode.service = readNode.service))), ("found_immediately", .bool row.isSome),
    ("content_matches", .bool (matches? row (freshnessMarker eventId)))]

/-- `probe_freshness` -/
def probeFreshness (writeNode readNode : Rto.Node) : Call Rto.ProbeResult := do
  let (eventId, row, elapsedMs) ← writeThenRead env seed freshnessMarker none writeNode readNode
  return freshnessResult writeNode readNode eventId row elapsedMs

/-- `marker` of `probe_cross_agent_visibility` -/
def crossAgentMarker (eventId : String) : String := "resilience-cross-agent-" ++ eventId

/-- The result of `probe_cross_agent_visibility`. -/
def crossAgentResult (writerNode readerNode : Rto.Node) (eventId : String) (row : Option (Option String))
    (elapsedMs : ℚ) : Rto.ProbeResult where
  probeType := "cross_agent_visibility"
  pass := row.isSome && matches? row (crossAgentMarker eventId)
  measuredValue := some (roundTo 3 elapsedMs)
  unit := "ms"
  details := [("event_id", .str eventId), ("content", .str (crossAgentMarker eventId)),
    ("writer_node", .str writerNode.service), ("writer_region", .str writerNode.region),
    ("reader_node", .str readerNode.service), ("reader_region", .str readerNode.region),
    ("cross_region", .bool (decide (writerNode.region ≠ readerNode.region))), ("found_immediately", .bool row.isSome),
    ("content_matches", .bool (matches? row (crossAgentMarker eventId)))]

/-- `probe_cross_agent_visibility` -/
def probeCrossAgentVisibility (writerNode readerNode : Rto.Node) : Call Rto.ProbeResult := do
  let (eventId, row, elapsedMs) ← writeThenRead env seed crossAgentMarker (some seed.agentId) writerNode readerNode
  return crossAgentResult writerNode readerNode eventId row elapsedMs

/-- `_row_exists` -/
def rowExists (node : Rto.Node) (row : InsertedRow) : Call Bool := do
  let found ← select env node ⟨row.table, row.idColumn, row.rowId, row.orgId, none, none⟩
  return found.isSome

/-- What `probe_atomicity` saw. -/
structure Atomicity where
  eventId : String
  actionId : String
  abortEventId : String
  abortActionId : String
  commitEpisodicPresent : Bool
  commitActionPresent : Bool
  abortRaised : Bool
  abortEpisodicPresent : Bool
  abortActionPresent : Bool

namespace Atomicity

variable (a : Atomicity)

/-- `commit_idempotency_key` -/
def commitKey : String := "resilience-atomicity-commit-" ++ a.actionId

/-- `commit_ok` -/
def commitOk : Bool := a.commitEpisodicPresent && a.commitActionPresent

/-- `abort_ok` -/
def abortOk : Bool := a.abortRaised && !a.abortEpisodicPresent && !a.abortActionPresent

/-- The result of `probe_atomicity`. -/
def result : Rto.ProbeResult where
  probeType := "atomicity"
  pass := a.commitOk && a.abortOk
  measuredValue := some (if a.commitOk && a.abortOk then 1 else 0)
  unit := "bool"
  details := [
    ("commit_path", .obj [("event_id", .str a.eventId), ("event_content", .str "atomicity probe: commit path"),
      ("action_id", .str a.actionId), ("action_idempotency_key", .str a.commitKey),
      ("episodic_present", .bool a.commitEpisodicPresent), ("action_present", .bool a.commitActionPresent),
      ("pass", .bool a.commitOk)]),
    ("abort_path", .obj [("event_id", .str a.abortEventId), ("action_id", .str a.abortActionId),
      ("constraint_violation_raised", .bool a.abortRaised), ("episodic_present", .bool a.abortEpisodicPresent),
      ("action_present", .bool a.abortActionPresent), ("pass", .bool a.abortOk)])]

end Atomicity

/-- The rows of the commit path. -/
def commitRows (eventId actionId : String) : List InsertedRow :=
  [episode seed eventId "atomicity probe: commit path",
    action seed actionId ("resilience-atomicity-commit-" ++ actionId) "success"]

/-- The rows of the abort path; the CHECK on `outcome` refuses the second. -/
def abortRows (eventId actionId : String) : List InsertedRow :=
  [episode seed eventId "atomicity probe: abort path",
    action seed actionId ("resilience-atomicity-abort-" ++ actionId) "not_a_valid_outcome"]

/-- `probe_atomicity` -/
def probeAtomicity (node : Rto.Node) : Call Atomicity := do
  let eventId ← uuid4 env
  let actionId ← uuid4 env
  let abortEventId ← uuid4 env
  let abortActionId ← uuid4 env
  insert env node (commitRows seed eventId actionId)
  let commitEpisodicPresent ← rowExists env node (episode seed eventId "")
  let commitActionPresent ← rowExists env node (action seed actionId "" "")
  let answer : Except Raised Unit ← ask env (.insert node (abortRows seed abortEventId abortActionId))
  let abortEpisodicPresent ← rowExists env node (episode seed abortEventId "")
  let abortActionPresent ← rowExists env node (action seed abortActionId "" "")
  return {
    eventId, actionId, abortEventId, abortActionId, commitEpisodicPresent, commitActionPresent
    abortRaised := match answer with
      | .ok _ => false
      | .error _ => true
    abortEpisodicPresent, abortActionPresent }

/-- The read of a tracked row; without a content column it is `SELECT 1`. -/
def trackedQuery (t : Rto.TrackedRow) : Query where
  table := t.table
  idColumn := t.idColumn
  rowId := t.rowId
  orgId := t.orgId
  column := if t.contentColumn = "" then none else some t.contentColumn

/-- The row does not come back. -/
def Missing (found : Option (Option String)) : Prop := found = none

/-- The row comes back with another content. -/
def Mismatched (t : Rto.TrackedRow) (found : Option (Option String)) : Prop :=
  t.contentColumn ≠ "" ∧ ∃ content, found = some content ∧ content ≠ some t.expectedContent

instance {found} : Decidable (Missing found) := inferInstanceAs (Decidable (_ = _))

instance {t found} : Decidable (Mismatched t found) :=
  decidable_of_iff (t.contentColumn ≠ "" ∧ found ≠ none ∧ found ≠ some (some t.expectedContent)) (by
    unfold Mismatched
    cases found with
    | none => simp
    | some content => simp)

/-- `{"table": …, "row_id": …}` -/
def lostRow (t : Rto.TrackedRow) : Json := .obj [("table", .str t.table), ("row_id", .str t.rowId)]

/-- What `probe_rpo` reports of the rows and what came back for each. -/
def rpoResult (phase : String) (read : List (Rto.TrackedRow × Option (Option String))) : Rto.ProbeResult :=
  let missing := read.filter fun r => Missing r.2
  let mismatched := read.filter fun r => Mismatched r.1 r.2
  let rowsLost := missing.length + mismatched.length
  { probeType := "rpo"
    pass := decide (rowsLost = 0)
    measuredValue := some rowsLost
    unit := "rows_lost"
    details := [("phase", .str phase), ("rows_expected", .int read.length),
      ("rows_found", .int (read.length - missing.length)),
      ("rows_content_checked", .int (read.filter fun r => r.1.contentColumn ≠ "").length),
      ("rows_missing", .arr (missing.map fun r => lostRow r.1)),
      ("rows_content_mismatched", .arr (mismatched.map fun r => lostRow r.1))] }

/-- `probe_rpo` -/
def probeRpo (node : Rto.Node) (tracker : List Rto.TrackedRow) (phase : String) : Call Rto.ProbeResult := do
  let read ← forEach (fun t => do
    let found ← select env node (trackedQuery t)
    return (t, found)) tracker
  return rpoResult phase read

/-- The row of `_attempt_write`. -/
def attemptedRow (eventId : String) : InsertedRow := episode seed eventId ("resilience-rto-probe-" ++ eventId)

/-- `_attempt_write`, with the exception where it raises. -/
def attemptWrite (node : Rto.Node) : Call (Except Raised String) := do
  let eventId ← uuid4 env
  let answer : Except Raised Unit ← ask env (.insert node [attemptedRow seed eventId])
  return answer.map fun _ => eventId

/-- The loop of `probe_rto`. -/
def rtoLoop (p : Rto.Params) : Nat → Rto.Probing → Call (Rto.Probing × Option Rto.FirstSuccess)
  | 0, _ => Effect.raise .outOfFuel
  | fuel + 1, s => do
    let now ← time env
    if now - p.killStartedAt < p.deadlineSeconds then
      let node := Rto.rotation p s.attemptsLog.length
      let attemptStart ← time env
      let attempted ← attemptWrite env seed node
      let attemptEnd ← time env
      let elapsedMs := roundTo 1 ((attemptEnd - attemptStart) * 1000)
      match attempted with
      | .error e =>
        rtoLoop p fuel {
          attemptsLog := s.attemptsLog ++ [⟨node.service, node.region, false, elapsedMs, some e.cls.name⟩]
          killRegionFailedAttempts :=
            if node.region = p.killRegion then s.killRegionFailedAttempts + 1 else s.killRegionFailedAttempts }
      | .ok eventId =>
        let firstSuccessAt ← time env
        return ({ s with attemptsLog := s.attemptsLog ++ [⟨node.service, node.region, true, elapsedMs, none⟩] },
          some ⟨firstSuccessAt, eventId, node⟩)
    else return (s, none)

/-- `probe_rto`: the result and what it hands to the tracker. -/
def probeRto (p : Rto.Params) (fuel : Nat) : Call (Rto.ProbeResult × List Rto.TrackedRow) := do
  let (s, found) ← rtoLoop env seed p fuel {}
  return (Rto.report p s found, (found.map (Rto.tracked p)).toList)

end probes

end Resilience

end Postmortem
