import Postmortem.Data.Python
import Postmortem.Lib.Rounding

/-!
# The RTO probe

`resilience/postmortem_resilience/probes/rto.py`: after a region is killed, `probe_rto` writes to one node after
another until a write succeeds. It reports a pass where a write to the killed region failed before and the success
came in time. `loop_ends` says how the loop ends, with a success after failures or at the deadline.
The rotation comes back to the nodes of the killed region, so a pass is a failover exactly where none of them is
the first to answer after another failed (`rto_pass_is_failover_iff`).
-/

namespace Postmortem

namespace Rto

open Rounding

/-- `Node`; the zone, the host and the ports name the address a connection is made to. -/
structure Node where
  service : String
  region : String
deriving DecidableEq

/-- The arguments of `probe_rto`. -/
structure Params where
  killStartedAt : ℚ
  candidateNodes : List Node
  /-- `seed.org_id` -/
  orgId : String
  killRegion : String
  leaseholderNode : Node
  targetSeconds : ℚ := 10
  deadlineSeconds : ℚ := 60
  /-- A tracker is passed. -/
  tracker : Bool := false

/-- What the probe meets: the readings of `time.time()` one after another, and what `_attempt_write` does at a node
as the attempt with a number, the id of the event it wrote or the class of the exception. -/
structure World where
  clock : Nat → ℚ
  write : Nat → Node → Except String String

/-- An entry of `attempts_log`. -/
structure Attempt where
  node : String
  region : String
  ok : Bool
  elapsedMs : ℚ
  error : Option String

/-- `ProbeResult` -/
structure ProbeResult where
  probeType : String
  pass : Bool
  measuredValue : Option ℚ
  unit : String
  details : Dict

/-- `_TrackedRow` -/
structure TrackedRow where
  table : String
  idColumn : String
  rowId : String
  orgId : String
  contentColumn : String
  expectedContent : String
deriving DecidableEq

/-- `ordered_nodes` -/
def orderedNodes (p : Params) : List Node :=
  p.leaseholderNode :: p.candidateNodes.filter fun n => n.service ≠ p.leaseholderNode.service

/-- The node that `next(rotation)` gives to the attempt. -/
def rotation (p : Params) (attempt : Nat) : Node :=
  (orderedNodes p).get ⟨attempt % (orderedNodes p).length, Nat.mod_lt _ (Nat.succ_pos _)⟩

/-- What the loop keeps. -/
structure Probing where
  attemptsLog : List Attempt := []
  killRegionFailedAttempts : Nat := 0

/-- The variables a success sets. -/
structure FirstSuccess where
  time : ℚ
  eventId : String
  node : Node

section loop

variable (w : World) (p : Params)

/-- The condition of the loop. An attempt that fails reads the clock three times, so the attempt with number `n`
comes after `3 * n` readings. -/
def Within (n : Nat) : Prop := w.clock (3 * n) - p.killStartedAt < p.deadlineSeconds

instance (n : Nat) : Decidable (Within w p n) := inferInstanceAs (Decidable (_ < _))

/-- `elapsed_ms` -/
def elapsedMs (n : Nat) : ℚ := roundTo 1 ((w.clock (3 * n + 2) - w.clock (3 * n + 1)) * 1000)

/-- The entry for a failed attempt. -/
def failedAttempt (n : Nat) (error : String) : Attempt where
  node := (rotation p n).service
  region := (rotation p n).region
  ok := false
  elapsedMs := elapsedMs w n
  error := some error

/-- The entry for a successful attempt. -/
def successfulAttempt (n : Nat) : Attempt where
  node := (rotation p n).service
  region := (rotation p n).region
  ok := true
  elapsedMs := elapsedMs w n
  error := none

/-- The loop, up to a number of attempts. -/
def loop : Nat → Probing → Option (Probing × Option FirstSuccess)
  | 0, _ => none
  | fuel + 1, s =>
    let n := s.attemptsLog.length
    if Within w p n then
      let node := rotation p n
      match w.write n node with
      | .error error =>
        loop fuel {
          attemptsLog := s.attemptsLog ++ [failedAttempt w p n error]
          killRegionFailedAttempts :=
            if node.region = p.killRegion then s.killRegionFailedAttempts + 1 else s.killRegionFailedAttempts }
      | .ok eventId =>
        some ({ s with attemptsLog := s.attemptsLog ++ [successfulAttempt w p n] },
          some ⟨w.clock (3 * n + 3), eventId, node⟩)
    else some (s, none)

end loop

/-! ## The report -/

/-- An entry of the log as it stands in the details. -/
def Attempt.json (a : Attempt) : Json :=
  let fields := [("node", .str a.node), ("region", .str a.region), ("ok", .bool a.ok),
    ("elapsed_ms", .float (.num a.elapsedMs))]
  match a.error with
  | some error => .obj (fields ++ [("error", .str error)])
  | none => .obj fields

/-- The entries after `reason`. -/
def recovered (p : Params) (s : Probing) (found : FirstSuccess) : Dict :=
  [("leaseholder_node", .str p.leaseholderNode.service), ("leaseholder_region", .str p.leaseholderNode.region),
    ("failover_exercised", .bool (decide (1 ≤ s.killRegionFailedAttempts))),
    ("kill_region_failed_attempts", .int s.killRegionFailedAttempts), ("recovered_via_node", .str found.node.service),
    ("recovered_via_region", .str found.node.region), ("first_success_event_id", .str found.eventId),
    ("attempt_count", .int s.attemptsLog.length), ("attempts", .arr (s.attemptsLog.map Attempt.json))]

/-- The results of `probe_rto`. -/
def report (p : Params) (s : Probing) : Option FirstSuccess → ProbeResult
  | none =>
    { probeType := "rto"
      pass := false
      measuredValue := none
      unit := "seconds"
      details := [("target_seconds", .float (.num p.targetSeconds)), ("deadline_seconds", .float (.num p.deadlineSeconds)),
        ("reason", .str "no successful write within deadline"), ("leaseholder_node", .str p.leaseholderNode.service),
        ("leaseholder_region", .str p.leaseholderNode.region),
        ("failover_exercised", .bool (decide (1 ≤ s.killRegionFailedAttempts))),
        ("kill_region_failed_attempts", .int s.killRegionFailedAttempts),
        ("attempts", .arr (s.attemptsLog.map Attempt.json))] }
  | some found =>
    let rtoSeconds := found.time - p.killStartedAt
    if s.killRegionFailedAttempts = 0 then
      { probeType := "rto"
        pass := false
        measuredValue := some (roundTo 3 rtoSeconds)
        unit := "seconds"
        details := [("target_seconds", .float (.num p.targetSeconds)),
          ("reason", .str ("no failover exercised: no write attempt against the killed region's (pinned) leaseholder " ++
            "failed before the first success"))] ++ recovered p s found }
    else
      { probeType := "rto"
        pass := decide (rtoSeconds < p.targetSeconds)
        measuredValue := some (roundTo 3 rtoSeconds)
        unit := "seconds"
        details := [("target_seconds", .float (.num p.targetSeconds))] ++ recovered p s found }

/-- The row that is tracked. -/
def tracked (p : Params) (found : FirstSuccess) : TrackedRow where
  table := "episodic_events"
  idColumn := "event_id"
  rowId := found.eventId
  orgId := p.orgId
  contentColumn := "content"
  expectedContent := "resilience-rto-probe-" ++ found.eventId

/-- `probe_rto`, up to a number of attempts: the result and what it hands to the tracker. -/
def probeRto (w : World) (p : Params) (fuel : Nat) : Option (ProbeResult × List TrackedRow) :=
  (loop w p fuel {}).map fun (s, found) =>
    (report p s found, if p.tracker then (found.map (tracked p)).toList else [])

/-! ## Runs -/

section runs

variable {w : World} {p : Params} {s s' : Probing} {f : Option FirstSuccess} {n fuel : Nat}

/-- The log once the attempt after it failed. -/
def Probing.failed (w : World) (p : Params) (s : Probing) (error : String) : Probing where
  attemptsLog := s.attemptsLog ++ [failedAttempt w p s.attemptsLog.length error]
  killRegionFailedAttempts :=
    if (rotation p s.attemptsLog.length).region = p.killRegion then s.killRegionFailedAttempts + 1
    else s.killRegionFailedAttempts

/-- The log once the attempt after it succeeded. -/
def Probing.succeeded (w : World) (p : Params) (s : Probing) : Probing :=
  { s with attemptsLog := s.attemptsLog ++ [successfulAttempt w p s.attemptsLog.length] }

/-- What the attempt after the log sets where it succeeds. -/
def Probing.found (w : World) (p : Params) (s : Probing) (eventId : String) : FirstSuccess :=
  ⟨w.clock (3 * s.attemptsLog.length + 3), eventId, rotation p s.attemptsLog.length⟩

/-- All attempts so far were made before the deadline and failed. -/
inductive Failing (w : World) (p : Params) : Probing → Prop where
  | start : Failing w p {}
  | failed {s error} : Failing w p s → Within w p s.attemptsLog.length →
    w.write s.attemptsLog.length (rotation p s.attemptsLog.length) = .error error → Failing w p (s.failed w p error)

/-- How the loop ends. -/
inductive Ends (w : World) (p : Params) : Probing → Option FirstSuccess → Prop where
  | success {s eventId} : Failing w p s → Within w p s.attemptsLog.length →
    w.write s.attemptsLog.length (rotation p s.attemptsLog.length) = .ok eventId →
    Ends w p (s.succeeded w p) (some (s.found w p eventId))
  | deadline {s : Probing} : Failing w p s → ¬ Within w p s.attemptsLog.length → Ends w p s none

lemma loop_ends (failing : Failing w p s) (h : loop w p fuel s = some (s', f)) : Ends w p s' f := by
  induction fuel generalizing s with
  | zero => cases h
  | succ fuel ih =>
    unfold loop at h
    dsimp only at h
    split at h
    case isTrue within =>
      cases outcome : w.write s.attemptsLog.length (rotation p s.attemptsLog.length) with
      | error error =>
        rw [outcome] at h
        exact ih (.failed failing within outcome) h
      | ok eventId =>
        rw [outcome] at h
        cases h
        exact .success failing within outcome
    case isFalse late =>
      cases h
      exact .deadline failing late

/-- The first `n` attempts are made and fail. -/
def Fails (w : World) (p : Params) (n : Nat) : Prop :=
  ∀ j < n, Within w p j ∧ ∃ error, w.write j (rotation p j) = .error error

lemma Failing.fails (failing : Failing w p s) : Fails w p s.attemptsLog.length := by
  induction failing with
  | start => exact fun j lt => absurd lt (Nat.not_lt_zero j)
  | @failed s error _ within outcome ih =>
    intro j lt
    have last : j < s.attemptsLog.length + 1 := by simpa [Probing.failed] using lt
    rcases Nat.lt_succ_iff_lt_or_eq.mp last with lt | rfl
    · exact ih j lt
    · exact ⟨within, error, outcome⟩

/-- Where the first attempts fail, the loop comes to the one after them. -/
lemma loop_reaches (fails : Fails w p n) :
    ∃ s, Failing w p s ∧ s.attemptsLog.length = n ∧ ∀ fuel, loop w p (fuel + n) {} = loop w p fuel s := by
  induction n with
  | zero => exact ⟨{}, .start, rfl, fun _ => rfl⟩
  | succ n ih =>
    obtain ⟨s, failing, length, reaches⟩ := ih fun j lt => fails j (Nat.lt_succ_of_lt lt)
    obtain ⟨within, error, outcome⟩ := fails n (Nat.lt_succ_self n)
    rw [← length] at within outcome
    refine ⟨s.failed w p error, .failed failing within outcome, ?_, ?_⟩
    · simp [Probing.failed, length]
    · intro fuel
      rw [Nat.add_comm n 1, ← Nat.add_assoc, reaches, loop]
      simp only [within, if_true, outcome]
      rfl

lemma Failing.not_ok (failing : Failing w p s) : ∀ a ∈ s.attemptsLog, a.ok = false := by
  induction failing with
  | start => exact List.forall_mem_nil _
  | failed _ _ _ ih =>
    intro a mem
    rcases List.mem_append.mp mem with mem | mem
    · exact ih a mem
    · rw [List.mem_singleton.mp mem]
      rfl

/-- The first attempt is made at the leaseholder. -/
lemma Failing.first (failing : Failing w p s) (made : s.attemptsLog ≠ []) :
    ∃ a, s.attemptsLog.head? = some a ∧ a.node = p.leaseholderNode.service ∧ a.region = p.leaseholderNode.region := by
  induction failing with
  | start => exact absurd rfl made
  | @failed s error _ _ _ ih =>
    cases log : s.attemptsLog with
    | nil =>
      have first : rotation p 0 = p.leaseholderNode := by simp [rotation, orderedNodes]
      refine ⟨failedAttempt w p 0 error, by simp [Probing.failed, log], ?_, ?_⟩
      · exact congrArg Node.service first
      · exact congrArg Node.region first
    | cons a log' =>
      obtain ⟨b, head, aimed⟩ := ih (by rw [log]; exact List.cons_ne_nil _ _)
      rw [log] at head
      refine ⟨b, ?_, aimed⟩
      simpa [Probing.failed, log] using head

/-- A failure in the killed region is counted. -/
lemma Failing.counted (failing : Failing w p s) :
    s.killRegionFailedAttempts = 0 ↔ ∀ j < s.attemptsLog.length, (rotation p j).region ≠ p.killRegion := by
  induction failing with
  | start => exact iff_of_true rfl fun j lt => absurd lt (Nat.not_lt_zero j)
  | @failed s error _ _ _ ih =>
    have length : (s.failed w p error).attemptsLog.length = s.attemptsLog.length + 1 := by simp [Probing.failed]
    rw [length, Nat.forall_lt_succ_right, ← ih]
    unfold Probing.failed
    dsimp only
    split
    case isTrue killed => exact iff_of_false (Nat.succ_ne_zero _) fun h => h.2 killed
    case isFalse other => exact (and_iff_left other).symm

/-- The loop returns once the deadline has passed. -/
lemma loop_returns (late : ¬ Within w p (s.attemptsLog.length + n)) : ∃ out, loop w p (n + 1) s = some out := by
  induction n generalizing s with
  | zero =>
    rw [Nat.add_zero] at late
    refine ⟨(s, none), ?_⟩
    simp only [loop, late, if_false]
  | succ n ih =>
    rw [loop]
    dsimp only
    split
    case isTrue within =>
      split
      case h_1 error outcome =>
        apply ih
        rwa [List.length_append, List.length_singleton, Nat.add_assoc, Nat.add_comm 1 n]
      case h_2 => exact ⟨_, rfl⟩
    case isFalse => exact ⟨_, rfl⟩

/-- The loop reads nothing of the attempts before its own. -/
lemma loop_congr {w' : World} {fuel} (clock : ∀ k, 3 * s.attemptsLog.length ≤ k → w.clock k = w'.clock k)
    (write : ∀ m, s.attemptsLog.length ≤ m → w.write m = w'.write m) : loop w p fuel s = loop w' p fuel s := by
  induction fuel generalizing s with
  | zero => rfl
  | succ fuel ih =>
    have now := clock (3 * s.attemptsLog.length) (le_refl _)
    have start := clock (3 * s.attemptsLog.length + 1) (by omega)
    have stop := clock (3 * s.attemptsLog.length + 2) (by omega)
    have after := clock (3 * s.attemptsLog.length + 3) (by omega)
    rw [loop, loop]
    simp only [Within, failedAttempt, successfulAttempt, elapsedMs, now, start, stop, after, write _ (le_refl _)]
    by_cases within : w'.clock (3 * s.attemptsLog.length) - p.killStartedAt < p.deadlineSeconds
    case pos =>
      refine (if_pos within).trans (Eq.trans ?_ (if_pos within).symm)
      cases w'.write s.attemptsLog.length (rotation p s.attemptsLog.length) with
      | error error =>
        apply ih
        · intro k le
          rw [List.length_append, List.length_singleton] at le
          exact clock k (by omega)
        · intro m le
          rw [List.length_append, List.length_singleton] at le
          exact write m (by omega)
      | ok eventId => rfl
    case neg => exact (if_neg within).trans (if_neg within).symm

/-- The world in which the attempt with the number meets these readings and this answer, and any other what it meets
in `w`. -/
def World.attempt (w : World) (n : Nat) (now start stop : ℚ) (answer : Except String String) : World where
  clock k := if k = 3 * n then now else if k = 3 * n + 1 then start else if k = 3 * n + 2 then stop else w.clock k
  write m := if m = n then fun _ => answer else w.write m

section attempt

variable {now start stop : ℚ}

lemma attempt_later {answer} : loop (w.attempt s.attemptsLog.length now start stop answer) p fuel s' = loop w p fuel s' ∨
    s'.attemptsLog.length ≤ s.attemptsLog.length := by
  -- an attempt has three readings of the clock to itself, which no later one reads
  refine or_iff_not_imp_right.mpr fun later => loop_congr ?_ ?_
  · intro k le
    simp only [World.attempt]
    rw [if_neg (by omega), if_neg (by omega), if_neg (by omega)]
  · intro m le
    simp only [World.attempt]
    rw [if_neg (by omega)]

/-- An attempt that fails, and the attempts after it. -/
lemma loop_failed {error} (within : now - p.killStartedAt < p.deadlineSeconds) :
    loop (w.attempt s.attemptsLog.length now start stop (.error error)) p (fuel + 1) s = loop w p fuel {
      attemptsLog := s.attemptsLog ++ [⟨(rotation p s.attemptsLog.length).service,
        (rotation p s.attemptsLog.length).region, false, roundTo 1 ((stop - start) * 1000), some error⟩]
      killRegionFailedAttempts :=
        if (rotation p s.attemptsLog.length).region = p.killRegion then s.killRegionFailedAttempts + 1
        else s.killRegionFailedAttempts } := by
  have here : Within (w.attempt s.attemptsLog.length now start stop (.error error)) p s.attemptsLog.length := by
    simpa [Within, World.attempt] using within
  have written : (w.attempt s.attemptsLog.length now start stop (.error error)).write s.attemptsLog.length
      (rotation p s.attemptsLog.length) = .error error := by simp [World.attempt]
  have elapsed : elapsedMs (w.attempt s.attemptsLog.length now start stop (.error error)) s.attemptsLog.length =
      roundTo 1 ((stop - start) * 1000) := by simp [elapsedMs, World.attempt]
  rw [loop]
  dsimp only
  rw [if_pos here, written]
  dsimp only [failedAttempt]
  rw [elapsed]
  refine attempt_later.resolve_right ?_
  simp

/-- An attempt that succeeds. -/
lemma loop_answered {eventId} (within : now - p.killStartedAt < p.deadlineSeconds) :
    loop (w.attempt s.attemptsLog.length now start stop (.ok eventId)) p (fuel + 1) s =
      some ({ s with attemptsLog := s.attemptsLog ++ [⟨(rotation p s.attemptsLog.length).service,
        (rotation p s.attemptsLog.length).region, true, roundTo 1 ((stop - start) * 1000), none⟩] },
        some ⟨w.clock (3 * s.attemptsLog.length + 3), eventId, rotation p s.attemptsLog.length⟩) := by
  have here : Within (w.attempt s.attemptsLog.length now start stop (.ok eventId)) p s.attemptsLog.length := by
    simpa [Within, World.attempt] using within
  rw [loop]
  dsimp only
  rw [if_pos here]
  simp [World.attempt, successfulAttempt, elapsedMs]

end attempt

/-- More fuel changes nothing once the loop returns. -/
lemma loop_mono {fuel more out} (le : fuel ≤ more) (looped : loop w p fuel s = some out) : loop w p more s = some out := by
  induction fuel generalizing more s with
  | zero => cases looped
  | succ fuel ih =>
    obtain ⟨more, rfl⟩ := Nat.exists_eq_add_of_le' (Nat.one_le_of_lt le)
    rw [loop] at looped ⊢
    dsimp only at looped ⊢
    split
    case isTrue within =>
      rw [if_pos within] at looped
      split
      case h_1 error written =>
        rw [written] at looped
        exact ih (Nat.le_of_succ_le_succ le) looped
      case h_2 id written =>
        rw [written] at looped
        exact looped
    case isFalse late =>
      rw [if_neg late] at looped
      exact looped

/-- On a clock that passes the deadline the probe returns, whatever fuel it has beyond that. -/
theorem probeRto_settles (late : ∃ n, ¬ Within w p n) :
    ∃ fuel out, ∀ more, fuel ≤ more → probeRto w p more = some out := by
  obtain ⟨n, late⟩ := late
  obtain ⟨out, looped⟩ := @loop_returns w p {} n (by simpa using late)
  refine ⟨n + 1, (report p out.1 out.2, if p.tracker then (out.2.map (tracked p)).toList else []), ?_⟩
  intro more le
  rw [probeRto, loop_mono le looped]
  rfl

end runs

/-- The attempt is made before the deadline and is the first to succeed. -/
structure Answers (w : World) (p : Params) (n : Nat) : Prop where
  fails : Fails w p n
  within : Within w p n
  answers : ∃ eventId, w.write n (rotation p n) = .ok eventId

/-- The report shows a failover: a failed attempt at the leaseholder, maybe other failed attempts, and a success
outside the killed region before the target. -/
structure Failover (w : World) (p : Params) (r : ProbeResult) (failed : List Attempt) (success : Attempt) : Prop where
  attempts : r.details.get "attempts" = .arr ((failed ++ [success]).map Attempt.json)
  first : ∃ a, failed.head? = some a ∧ a.node = p.leaseholderNode.service ∧ a.region = p.leaseholderNode.region
  failures : ∀ a ∈ failed, a.ok = false
  answered : success.ok = true
  outside : success.region ≠ p.killRegion
  time : w.clock (3 * failed.length + 3) - p.killStartedAt < p.targetSeconds

/-- The `pass` of a report is a failover. -/
def PassIsFailover (w : World) (p : Params) : Prop :=
  ∀ fuel r rows, probeRto w p fuel = some (r, rows) → r.pass = true → ∃ failed success, Failover w p r failed success

section pass

variable {w : World} {p : Params} {s : Probing} {found : FirstSuccess} {r : ProbeResult}

/-- When the report is a pass. -/
lemma report_pass : (report p s (some found)).pass = true ↔
    s.killRegionFailedAttempts ≠ 0 ∧ found.time - p.killStartedAt < p.targetSeconds := by
  unfold report
  dsimp only
  split
  case isTrue none => exact iff_of_false Bool.false_ne_true fun h => h.1 none
  case isFalse some => exact decide_eq_true_iff.trans (and_iff_right some).symm

/-- Every report has the log. -/
lemma report_attempts {f} : (report p s f).details.get "attempts" = .arr (s.attemptsLog.map Attempt.json) := by
  cases f with
  | none => rfl
  | some found =>
    unfold report
    dsimp only
    split
    case isTrue => rfl
    case isFalse => rfl

lemma Attempt.json_region {a b : Attempt} (h : a.json = b.json) : a.region = b.region := by
  obtain ⟨_, _, _, _, e⟩ := a
  obtain ⟨_, _, _, _, e'⟩ := b
  cases e with
  | none =>
    cases e' with
    | none =>
      cases h
      rfl
    | some => cases h
  | some =>
    cases e' with
    | none => cases h
    | some =>
      cases h
      rfl

/-- A pass comes from a success in time after a failure in the killed region. -/
lemma pass_spec {fuel rows} (h : probeRto w p fuel = some (r, rows)) (pass : r.pass = true) :
    ∃ s eventId, Failing w p s ∧ Within w p s.attemptsLog.length ∧
      w.write s.attemptsLog.length (rotation p s.attemptsLog.length) = .ok eventId ∧
      r = report p (s.succeeded w p) (some (s.found w p eventId)) := by
  obtain ⟨⟨s', f⟩, looped, e⟩ := Option.map_eq_some_iff.mp h
  cases e
  cases loop_ends .start looped with
  | success failing within outcome => exact ⟨_, _, failing, within, outcome, rfl⟩
  | deadline => cases pass

/-- The success a report shows is that of the attempt after the failures. -/
lemma Failover.rotation {f failed success} (shown : Failover w p (report p (s.succeeded w p) f) failed success) :
    (rotation p s.attemptsLog.length).region ≠ p.killRegion := by
  intro killed
  have log := Json.arr.inj (report_attempts.symm.trans shown.attempts)
  rw [Probing.succeeded, List.map_append, List.map_append] at log
  obtain ⟨_, last⟩ := List.append_inj' log rfl
  have region := Attempt.json_region (List.head_eq_of_cons_eq last)
  exact shown.outside (region.symm.trans killed)

end pass

/-- A pass is a failover exactly where the first node to answer before the deadline is outside the killed region, or
is the first of that region that is tried, or answers too late. -/
theorem rto_pass_is_failover_iff (w : World) (p : Params) : PassIsFailover w p ↔
    ∀ n, Answers w p n → (rotation p n).region = p.killRegion →
      (∀ j < n, (rotation p j).region ≠ p.killRegion) ∨ p.targetSeconds ≤ w.clock (3 * n + 3) - p.killStartedAt := by
  constructor
  case mp =>
    intro failover n ⟨fails, within, eventId, answers⟩ killed
    by_contra neither
    obtain ⟨failed, time⟩ := not_or.mp neither
    obtain ⟨s, failing, rfl, reaches⟩ := loop_reaches fails
    have ends : loop w p (1 + s.attemptsLog.length) {} = some (s.succeeded w p, some (s.found w p eventId)) := by
      rw [reaches, loop]
      simp only [within, if_true, answers]
      rfl
    obtain ⟨rows, returned⟩ : ∃ rows, probeRto w p (1 + s.attemptsLog.length) =
        some (report p (s.succeeded w p) (some (s.found w p eventId)), rows) := by
      rw [probeRto, ends]
      exact ⟨_, rfl⟩
    have pass : (report p (s.succeeded w p) (some (s.found w p eventId))).pass = true :=
      report_pass.mpr ⟨fun none => failed (failing.counted.mp none), not_le.mp time⟩
    obtain ⟨failures, success, shown⟩ := failover _ _ _ returned pass
    exact shown.rotation killed
  case mpr =>
    intro condition fuel r rows returned pass
    obtain ⟨s, eventId, failing, within, answers, rfl⟩ := pass_spec returned pass
    obtain ⟨failed, time⟩ := report_pass.mp pass
    have reached : ¬ ∀ j < s.attemptsLog.length, (rotation p j).region ≠ p.killRegion :=
      fun none => failed (failing.counted.mpr none)
    refine ⟨s.attemptsLog, successfulAttempt w p s.attemptsLog.length, report_attempts, ?_, failing.not_ok, rfl, ?_, time⟩
    · apply failing.first
      intro empty
      apply reached
      intro j lt
      rw [empty] at lt
      exact absurd lt (Nat.not_lt_zero j)
    · intro killed
      rcases condition _ ⟨failing.fails, within, eventId, answers⟩ killed with none | late
      · exact reached none
      · exact absurd time (not_lt.mpr late)

/-! ## A leaseholder that answers itself -/

/-- `TOPOLOGY` -/
def topology : List Node :=
  [⟨"crdb-use1-a", "us-east-1"⟩, ⟨"crdb-use1-b", "us-east-1"⟩, ⟨"crdb-use1-c", "us-east-1"⟩,
    ⟨"crdb-use2-a", "us-east-2"⟩, ⟨"crdb-use2-b", "us-east-2"⟩, ⟨"crdb-use2-c", "us-east-2"⟩,
    ⟨"crdb-usw2-a", "us-west-2"⟩, ⟨"crdb-usw2-b", "us-west-2"⟩, ⟨"crdb-usw2-c", "us-west-2"⟩]

namespace Sample

/-- A probe of the cluster after `us-east-2` is killed. -/
def params : Params where
  killStartedAt := 0
  candidateNodes := topology
  orgId := "org"
  killRegion := "us-east-2"
  leaseholderNode := ⟨"crdb-use2-a", "us-east-2"⟩

/-- Every node refuses its first write, a tenth of a second at a time; then the leaseholder answers. -/
def world : World where
  clock n := n / 10
  write n _ := if n < 9 then .error "OperationalError" else .ok "event"

end Sample

/-- After nine failures the leaseholder itself answers, and the report is a pass. -/
theorem leaseholder_answers : ¬ PassIsFailover Sample.world Sample.params := by
  intro failover
  have passed : (probeRto Sample.world Sample.params 10).map (fun out => out.1.pass) = some true := by decide +kernel
  obtain ⟨⟨r, rows⟩, returned, pass⟩ := Option.map_eq_some_iff.mp passed
  obtain ⟨failed, success, shown⟩ := failover _ _ _ returned pass
  obtain ⟨s, eventId, failing, _, answers, rfl⟩ := pass_spec returned pass
  -- the attempts 0 to 8 fail, so the success is that of attempt 9
  have ninth : s.attemptsLog.length = 9 := by
    rcases Nat.lt_trichotomy s.attemptsLog.length 9 with lt | same | gt
    · have refused : ∀ node, Sample.world.write s.attemptsLog.length node = .error "OperationalError" := fun _ => if_pos lt
      cases (refused _).symm.trans answers
    · exact same
    · obtain ⟨_, error, outcome⟩ := failing.fails 9 gt
      cases outcome
  have outside := shown.rotation
  rw [ninth] at outside
  exact outside (by decide +kernel)

end Rto

end Postmortem
