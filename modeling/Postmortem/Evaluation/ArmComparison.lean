import Postmortem.Evaluation.Arms
import Postmortem.Lib.Selection

/-!
# Two arms

The arms of `EvaluationHarness.run`, `_summarize` and the mechanism check of `_decision_quality`, of
`evaluation/postmortem_eval/runner.py`. Two arms on one stream cannot fail the comparison of their streams, and they
differ by their wrong actions alone (`arms_differ_by_wrong_actions`); an arm that is wrong no more often in any scenario
has no worse figures (`fewer_wrong_actions`).
-/

namespace Postmortem.Evaluation

open Simulator Rounding

variable {σ τ : Type}

/-- The arms of `EvaluationHarness.run`, and what it checks of them. -/
def runArms (c : Conductor) (r : Responder σ) (memory : σ) (r' : Responder τ) (memory' : τ) :
    Except Raised (List ArmResult × List ArmResult × Int) := do
  let (memoryResults, memorySeed) ← runArm c r memory
  let (baselineResults, baselineSeed) ← runArm c r' memory'
  if memorySeed ≠ baselineSeed then .error (assertionError "arms did not use the same simulator seed")
  else if memoryResults.map ArmResult.scenarioId ≠ baselineResults.map ArmResult.scenarioId then
    .error (assertionError "arms did not replay the same scenario stream")
  else if memoryResults.map ArmResult.incidentId ≠ baselineResults.map ArmResult.incidentId then
    .error (assertionError "arms produced different deterministic IDs")
  else return (memoryResults, baselineResults, memorySeed)

/-- A `StatisticsError`. -/
def statisticsError : Raised := ⟨.other "StatisticsError", "no median for empty data", none, none⟩

/-- `statistics.median` -/
def median (values : List Int) : Except Raised ℚ :=
  let data := values.insertionSort (· ≤ ·)
  let n := data.length
  if n = 0 then .error statisticsError
  else if n % 2 = 1 then .ok (data.getD (n / 2) 0)
  else .ok ((data.getD (n / 2 - 1) 0 + data.getD (n / 2) 0) / 2)

/-- `_percentile` -/
def percentile (values : List Int) (quantile : ℚ) : Except Raised Int :=
  let ordered := values.insertionSort (· ≤ ·)
  let index := max 0 (⌈quantile * ordered.length⌉ - 1)
  match ordered[index.toNat]? with
  | some value => .ok value
  | none => .error ⟨.IndexError, "list index out of range", none, none⟩

/-- `_summarize`, with `incidents_detail` the results themselves. -/
structure Summary where
  incidents : Nat
  resolved : Nat
  medianMttrSeconds : ℚ
  p90MttrSeconds : Int
  meanActionsToResolution : ℚ
  firstActionAccuracy : ℚ
  wrongActions : Nat
  escalations : Nat
  failedOrders : Nat
  failedOrderValueCents : Int
  tokenProxyTotal : Int
  tokenProxyMean : ℚ
  incidentsDetail : List ArmResult
deriving DecidableEq

/-- `_summarize` -/
def summarize (results : List ArmResult) : Except Raised Summary := do
  let mttr := results.map ArmResult.mttrSeconds
  let tokens := (results.map ArmResult.tokenProxy).sum
  let medianMttrSeconds ← median mttr
  let p90MttrSeconds ← percentile mttr (9 / 10)
  return {
    incidents := results.length
    resolved := results.length
    medianMttrSeconds
    p90MttrSeconds
    meanActionsToResolution := roundTo 3 (mean (results.map fun item => (item.actions : ℚ)))
    firstActionAccuracy := roundTo 6 (mean (results.map fun item => if item.firstActionCorrect then 1 else 0))
    wrongActions := (results.map ArmResult.wrongActions).sum
    escalations := results.countP ArmResult.escalated
    failedOrders := (results.map ArmResult.failedOrders).sum
    failedOrderValueCents := (results.map ArmResult.failedOrderValueCents).sum
    tokenProxyTotal := tokens
    tokenProxyMean := roundTo 3 (tokens / results.length)
    incidentsDetail := results }

/-- `mechanism_check` of `_decision_quality`. -/
structure MechanismCheck where
  deterministicIdsMatch : Bool
  baselinePlayedNoDeliberatelyWrongFirstAction : Bool
  withMemory : Summary
  competentBaseline : Summary
deriving DecidableEq

/-- `mechanism_check` of `_decision_quality`. -/
def mechanismCheck (memoryResults baselineResults : List ArmResult) : Except Raised MechanismCheck := do
  let withMemory ← summarize memoryResults
  let competentBaseline ← summarize baselineResults
  return {
    deterministicIdsMatch := memoryResults.map ArmResult.incidentId = baselineResults.map ArmResult.incidentId
    baselinePlayedNoDeliberatelyWrongFirstAction :=
      baselineResults.all fun item => item.firstActionCorrect || item.abstained
    withMemory
    competentBaseline }

/-! ## What two records have in common -/

/-- The responder reports no time for its decisions. -/
def Prompt (r : Responder σ) : Prop :=
  ∀ observation before decision after, r.decide observation before = (.ok decision, after) →
    timedelta decision.decisionSeconds = .ok 0

lemma timedelta_zero : timedelta 0 = .ok 0 := by
  have still : Rounding.nearest ((0 : ℚ) * 1000000) = 0 := by
    rw [zero_mul]
    exact_mod_cast Rounding.nearest_intCast (K := ℚ) 0
  exact congrArg Except.ok still

/-- The responder with memory reports `DECISION_LATENCY_NOT_MEASURED`. -/
lemma ProceduralMemoryResponder.prompt {r : ProceduralMemoryResponder} : Prompt r.responder := by
  intro observation before decision after decides
  obtain ⟨rfl, _⟩ := Effect.pure_ok_iff.mp decides
  have none_ : (r.decide observation).decisionSeconds = 0 := by
    unfold ProceduralMemoryResponder.decide
    dsimp only
    split
    case h_1 => rfl
    case h_2 => rfl
  rw [none_]
  exact timedelta_zero

/-- So does the one without memory. -/
lemma MemorylessBaselineResponder.prompt {rt : Runtime} : Prompt (MemorylessBaselineResponder.responder rt) := by
  intro observation before decision after decides
  obtain ⟨rfl, _⟩ := Effect.pure_ok_iff.mp decides
  exact timedelta_zero

/-- The records that two arms make of a scenario differ as the numbers of their wrong actions do. -/
structure Differ (c : Conductor) (x y : ArmResult) : Prop where
  scenarioId : x.scenarioId = y.scenarioId
  incidentId : x.incidentId = y.incidentId
  familyId : x.familyId = y.familyId
  variantId : x.variantId = y.variantId
  occurrence : x.occurrence = y.occurrence
  failedOrders : (x.failedOrders : Int) - y.failedOrders = 2 * (x.wrongActions - y.wrongActions)
  failedOrderValueCents : x.failedOrderValueCents - y.failedOrderValueCents =
    (x.wrongActions - y.wrongActions) * c.ordersCents 2
  actions : (x.actions : Int) - y.actions = x.wrongActions - y.wrongActions
  mttrSeconds : ∃ scenario policy, scenario ∈ c.scenarios ∧ scenario.scenarioId = x.scenarioId ∧
    policyOf c scenario = .ok policy ∧
    x.mttrSeconds - y.mttrSeconds = (x.wrongActions - y.wrongActions) * policy.wrongActionPenaltySeconds

section two

variable {c : Conductor} {r : Responder σ} {r' : Responder τ} {memory : σ} {memory' : τ} {first : Arm σ} {second : Arm τ}
  {scenario : Scenario} {earlier : List Scenario} {x y : ArmResult}

/-- Of a prompt responder the time to resolution is that of the actions. -/
lemma Decided.prompt {policy : Policy} {decision : ResponderDecision} {duration : Int} (prompt : Prompt r)
    (decided : Decided c r scenario x policy decision duration) : x.mttrSeconds = workSeconds policy x.wrongActions := by
  obtain ⟨observation, before, after, decides, _⟩ := decided.decided
  cases decided.lasted.symm.trans (prompt _ _ _ _ decides)
  rw [decided.mttrSeconds, Int.zero_add, Int.mul_tdiv_cancel _ (by decide)]

lemma Explained.differ (prompt : Prompt r) (prompt' : Prompt r') (mem : scenario ∈ c.scenarios)
    (explained : Explained c r earlier scenario x) (explained' : Explained c r' earlier scenario y) : Differ c x y := by
  obtain ⟨policy, decision, duration, decided⟩ := explained.decided
  obtain ⟨policy', decision', duration', decided'⟩ := explained'.decided
  cases decided.oracle.symm.trans decided'.oracle
  refine ⟨explained.scenarioId.trans explained'.scenarioId.symm, explained.incidentId.trans explained'.incidentId.symm,
    explained.familyId.trans explained'.familyId.symm, explained.variantId.trans explained'.variantId.symm,
    explained.occurrence.trans explained'.occurrence.symm, ?_, ?_, ?_,
    scenario, policy, mem, explained.scenarioId.symm, decided.oracle, ?_⟩
  · rw [explained.failedOrders, explained'.failedOrders]
    push_cast
    ring
  · rw [explained.failedOrderValueCents, explained'.failedOrderValueCents]
    ring
  · rw [decided.actions, decided'.actions]
    push_cast
    ring
  · rw [decided.prompt prompt, decided'.prompt prompt']
    unfold workSeconds
    ring

/-- Two arms on one stream, record by record. -/
lemma playStream_differ (prompt : Prompt r) (prompt' : Prompt r') (ran : playStream c r memory = .ok first)
    (ran' : playStream c r' memory' = .ok second) : List.Forall₂ (Differ c) first.results second.results := by
  obtain ⟨kept, length⟩ := playStream_kept ran
  obtain ⟨kept', length'⟩ := playStream_kept ran'
  rw [List.forall₂_iff_get]
  refine ⟨length.trans length'.symm, ?_⟩
  intro i inside inside'
  obtain ⟨scenario, scheduled, explained⟩ := kept.explained i _ (List.getElem?_eq_getElem inside)
  obtain ⟨scenario', scheduled', explained'⟩ := kept'.explained i _ (List.getElem?_eq_getElem inside')
  cases scheduled.symm.trans scheduled'
  exact explained.differ prompt prompt' (List.mem_of_getElem? scheduled) explained'

/-- What two lists of records have in common, they list alike. -/
lemma map_eq_of_differ {α : Type} {f : ArmResult → α} {l l' : List ArmResult} (h : List.Forall₂ (Differ c) l l')
    (same : ∀ x y, Differ c x y → f x = f y) : l.map f = l'.map f := by
  rw [← List.forall₂_eq_eq_eq, List.forall₂_map_left_iff, List.forall₂_map_right_iff]
  exact h.imp same

/-- Differences add up. -/
lemma sum_differ {f g : ArmResult → Int} {k : Int} {l l' : List ArmResult} (h : List.Forall₂ (Differ c) l l')
    (each : ∀ x y, Differ c x y → f x - f y = k * (g x - g y)) :
    (l.map f).sum - (l'.map f).sum = k * ((l.map g).sum - (l'.map g).sum) := by
  induction h with
  | nil => simp
  | cons here _ ih =>
    have here := each _ _ here
    rw [List.map_cons, List.map_cons, List.map_cons, List.map_cons, List.sum_cons, List.sum_cons, List.sum_cons,
      List.sum_cons]
    linear_combination here + ih

/-! ### The summary -/

lemma median_returns {values : List Int} (some : values ≠ []) : ∃ m, median values = .ok m := by
  have length : (values.insertionSort (· ≤ ·)).length ≠ 0 := by
    rw [List.length_insertionSort]
    exact fun none => some (List.length_eq_zero_iff.mp none)
  unfold median
  dsimp only
  rw [if_neg length]
  split
  case isTrue => exact ⟨_, rfl⟩
  case isFalse => exact ⟨_, rfl⟩

/-- The place of a percentile in the order. -/
lemma percentile_index {n : Nat} {quantile : ℚ} (some : n ≠ 0) (unit : quantile ≤ 1) :
    (max 0 (⌈quantile * n⌉ - 1)).toNat < n := by
  have below : ⌈quantile * n⌉ ≤ (n : Int) := by
    rw [Int.ceil_le, Int.cast_natCast]
    exact mul_le_of_le_one_left (Nat.cast_nonneg n) unit
  omega

lemma percentile_returns {values : List Int} {q : ℚ} (some : values ≠ []) (unit : q ≤ 1) :
    ∃ p, percentile values q = .ok p := by
  have length : (values.insertionSort (· ≤ ·)).length ≠ 0 := by
    rw [List.length_insertionSort]
    exact fun none => some (List.length_eq_zero_iff.mp none)
  unfold percentile
  dsimp only
  rw [List.getElem?_eq_getElem (percentile_index length unit)]
  exact ⟨_, rfl⟩

lemma getD_mono {l l' : List Int} (h : List.Forall₂ (· ≤ ·) l l') (i : Nat) : l.getD i 0 ≤ l'.getD i 0 := by
  induction h generalizing i with
  | nil => exact le_rfl
  | cons first _ ih =>
    cases i with
    | zero => exact first
    | succ i => exact ih i

lemma median_mono {values values' : List Int} {m m' : ℚ} (h : List.Forall₂ (· ≤ ·) values values')
    (found : median values = .ok m) (found' : median values' = .ok m') : m ≤ m' := by
  have sorted := Selection.insertionSort_mono h
  have length := sorted.length_eq
  have each : ∀ i, (((values.insertionSort (· ≤ ·)).getD i 0 : Int) : ℚ) ≤ (values'.insertionSort (· ≤ ·)).getD i 0 :=
    fun i => Int.cast_le.mpr (getD_mono sorted i)
  unfold median at found found'
  dsimp only at found found'
  rw [← length] at found'
  split at found
  case isTrue => cases found
  case isFalse some =>
  rw [if_neg some] at found'
  split at found
  case isTrue odd =>
    rw [if_pos odd] at found'
    cases found
    cases found'
    exact each _
  case isFalse even =>
    rw [if_neg even] at found'
    cases found
    cases found'
    exact div_le_div_of_nonneg_right (add_le_add (each _) (each _)) (by norm_num)

lemma percentile_mono {values values' : List Int} {quantile : ℚ} {p p' : Int} (h : List.Forall₂ (· ≤ ·) values values')
    (found : percentile values quantile = .ok p) (found' : percentile values' quantile = .ok p') : p ≤ p' := by
  have sorted := Selection.insertionSort_mono h
  have each := getD_mono sorted
  unfold percentile at found found'
  dsimp only at found found'
  rw [← sorted.length_eq] at found'
  generalize (max 0 (⌈quantile * (values.insertionSort (· ≤ ·)).length⌉ - 1)).toNat = index at found found'
  split at found
  case h_2 => cases found
  case h_1 value at_ =>
  split at found'
  case h_2 => cases found'
  case h_1 value' at_' =>
  cases found
  cases found'
  have here := each index
  rwa [List.getD_eq_getElem?_getD, List.getD_eq_getElem?_getD, at_, at_'] at here

/-- Records can be summarized if there are any. -/
lemma summarize_returns {results : List ArmResult} (some : results ≠ []) : ∃ summary, summarize results = .ok summary := by
  have times : results.map ArmResult.mttrSeconds ≠ [] := fun none => some (List.map_eq_nil_iff.mp none)
  obtain ⟨m, middle⟩ := median_returns times
  obtain ⟨p, high⟩ := percentile_returns (q := 9 / 10) times (by norm_num)
  exact ⟨_, bind_ok_iff.mpr ⟨m, middle, bind_ok_iff.mpr ⟨p, high, rfl⟩⟩⟩

/-- The figures of a summary. -/
lemma summarize_eq {results : List ArmResult} {summary : Summary} (summarized : summarize results = .ok summary) :
    median (results.map ArmResult.mttrSeconds) = .ok summary.medianMttrSeconds ∧
      percentile (results.map ArmResult.mttrSeconds) (9 / 10) = .ok summary.p90MttrSeconds ∧
      summary.meanActionsToResolution = roundTo 3 (mean (results.map fun item => (item.actions : ℚ))) ∧
      summary.wrongActions = (results.map ArmResult.wrongActions).sum ∧
      summary.failedOrders = (results.map ArmResult.failedOrders).sum ∧
      summary.failedOrderValueCents = (results.map ArmResult.failedOrderValueCents).sum := by
  obtain ⟨m, middle, summarized⟩ := bind_ok summarized
  obtain ⟨p, high, summarized⟩ := bind_ok summarized
  cases summarized
  exact ⟨middle, high, rfl, rfl, rfl, rfl⟩

/-- A stream of scenarios leaves records to summarize. -/
lemma mechanismCheck_returns {l l' : List ArmResult} (some : l ≠ []) (some' : l' ≠ []) :
    ∃ check, mechanismCheck l l' = .ok check := by
  obtain ⟨summary, summarized⟩ := summarize_returns some
  obtain ⟨summary', summarized'⟩ := summarize_returns some'
  unfold mechanismCheck
  rw [summarized, summarized']
  exact ⟨_, rfl⟩

lemma mechanismCheck_eq {l l' : List ArmResult} {check : MechanismCheck} (checked : mechanismCheck l l' = .ok check) :
    summarize l = .ok check.withMemory ∧ summarize l' = .ok check.competentBaseline ∧
      check.deterministicIdsMatch = Decidable.decide (l.map ArmResult.incidentId = l'.map ArmResult.incidentId) := by
  obtain ⟨summary, summarized, checked⟩ := bind_ok checked
  obtain ⟨summary', summarized', checked⟩ := bind_ok checked
  cases checked
  exact ⟨summarized, summarized', rfl⟩

lemma forall₂_both {α : Type} {R S : α → α → Prop} {l l' : List α} (h : List.Forall₂ R l l') (h' : List.Forall₂ S l l') :
    List.Forall₂ (fun a b => R a b ∧ S a b) l l' := by
  induction h with
  | nil => exact .nil
  | cons here _ ih =>
    cases h' with
    | cons here' rest' => exact .cons ⟨here, here'⟩ (ih rest')

/-- A figure that is no greater in each record. -/
lemma map_le {K : Type} [LE K] {R : ArmResult → ArmResult → Prop} {f : ArmResult → K} {l l' : List ArmResult}
    (h : List.Forall₂ R l l') (each : ∀ x y, R x y → f x ≤ f y) : List.Forall₂ (· ≤ ·) (l.map f) (l'.map f) := by
  rw [List.forall₂_map_left_iff, List.forall₂_map_right_iff]
  exact h.imp each

lemma sum_natCast {f : ArmResult → Nat} {l : List ArmResult} :
    (((l.map f).sum : Nat) : Int) = (l.map fun x => (f x : Int)).sum := by
  rw [Nat.cast_list_sum, List.map_map]
  rfl

lemma order_cents_nonneg {n : Nat} : 0 ≤ c.ordersCents n := by
  apply List.sum_nonneg
  intro cents mem
  obtain ⟨index, _, rfl⟩ := List.mem_map.mp mem
  have rest : 0 ≤ (c.fixture.seed + index * 7919) % 8500 := Int.emod_nonneg _ (by decide)
  unfold Conductor.orderCents
  omega

end two

/-- Of two arms on one stream, with responders that report no time for their decisions: the harness accepts them as
the same stream, and the actions, the time to resolution, the failed orders and their value differ in each record as
the numbers of its wrong actions do, and the failed orders and their value in the totals likewise. -/
theorem arms_differ_by_wrong_actions {c : Conductor} {r : Responder σ} {r' : Responder τ} {memory : σ} {memory' : τ}
    {first : Arm σ} {second : Arm τ} (prompt : Prompt r) (prompt' : Prompt r') (stream : c.scenarios ≠ [])
    (ran : playStream c r memory = .ok first) (ran' : playStream c r' memory' = .ok second) :
    runArms c r memory r' memory' = .ok (first.results, second.results, c.fixture.seed) ∧
    List.Forall₂ (Differ c) first.results second.results ∧
    ∃ check, mechanismCheck first.results second.results = .ok check ∧ check.deterministicIdsMatch = true ∧
      (check.withMemory.failedOrders : Int) - check.competentBaseline.failedOrders =
        2 * (check.withMemory.wrongActions - check.competentBaseline.wrongActions) ∧
      check.withMemory.failedOrderValueCents - check.competentBaseline.failedOrderValueCents =
        c.ordersCents 2 * (check.withMemory.wrongActions - check.competentBaseline.wrongActions) := by
  have differ := playStream_differ prompt prompt' ran ran'
  have scenarios := map_eq_of_differ differ fun _ _ d => d.scenarioId
  have incidents := map_eq_of_differ differ fun _ _ d => d.incidentId
  have length := (playStream_kept ran).2
  have length' := (playStream_kept ran').2
  have some : first.results ≠ [] := by
    rintro none
    rw [none] at length
    exact stream (List.length_eq_zero_iff.mp length.symm)
  have some' : second.results ≠ [] := by
    rintro none
    rw [none] at length'
    exact stream (List.length_eq_zero_iff.mp length'.symm)
  obtain ⟨check, checked⟩ := mechanismCheck_returns some some'
  obtain ⟨summarized, summarized', match_⟩ := mechanismCheck_eq checked
  obtain ⟨_, _, _, wrong, orders, cents⟩ := summarize_eq summarized
  obtain ⟨_, _, _, wrong', orders', cents'⟩ := summarize_eq summarized'
  refine ⟨?_, differ, check, checked, ?_, ?_, ?_⟩
  · unfold runArms runArm
    rw [ran, ran']
    show (if c.fixture.seed ≠ c.fixture.seed then _ else if first.results.map ArmResult.scenarioId ≠
      second.results.map ArmResult.scenarioId then _ else if first.results.map ArmResult.incidentId ≠
      second.results.map ArmResult.incidentId then _ else _) = _
    rw [if_neg (not_not.mpr rfl), if_neg (not_not.mpr scenarios), if_neg (not_not.mpr incidents)]
    rfl
  · rw [match_]
    exact decide_eq_true incidents
  · rw [orders, orders', wrong, wrong', sum_natCast, sum_natCast, sum_natCast, sum_natCast]
    exact sum_differ differ fun _ _ d => d.failedOrders
  · rw [cents, cents', wrong, wrong', sum_natCast, sum_natCast]
    refine sum_differ differ fun _ _ d => ?_
    rw [d.failedOrderValueCents, mul_comm]

/-- The two bad deploys, with the hasty memory and without memory: two wrong actions, and four failed orders, more. -/
theorem arms_differ_by_wrong_actions_sample : ∃ first second check,
    runArms Simulator.Sample.twoDeploys (Sample.remembering Sample.hastyMemory) () Sample.memoryless () =
      .ok (first, second, 1) ∧
    mechanismCheck first second = .ok check ∧ check.deterministicIdsMatch = true ∧
    check.withMemory.wrongActions = 2 ∧ check.competentBaseline.wrongActions = 0 ∧
    (check.withMemory.failedOrders : Int) - check.competentBaseline.failedOrders = 4 := by
  have ran : (playStream Simulator.Sample.twoDeploys (Sample.remembering Sample.hastyMemory) ()).toOption.any (fun arm =>
      (arm.results.map ArmResult.wrongActions).sum = 2) = true := by decide +kernel
  have ran' : (playStream Simulator.Sample.twoDeploys Sample.memoryless ()).toOption.any (fun arm =>
      (arm.results.map ArmResult.wrongActions).sum = 0) = true := by decide +kernel
  cases played : playStream Simulator.Sample.twoDeploys (Sample.remembering Sample.hastyMemory) () with
  | error e =>
    rw [played] at ran
    cases ran
  | ok first =>
  cases played' : playStream Simulator.Sample.twoDeploys Sample.memoryless () with
  | error e =>
    rw [played'] at ran'
    cases ran'
  | ok second =>
    rw [played] at ran
    rw [played'] at ran'
    obtain ⟨accepted, _, check, checked, match_, orders, _⟩ :=
      arms_differ_by_wrong_actions ProceduralMemoryResponder.prompt MemorylessBaselineResponder.prompt (by decide) played played'
    obtain ⟨summarized, summarized', _⟩ := mechanismCheck_eq checked
    have wrong : check.withMemory.wrongActions = 2 := (summarize_eq summarized).2.2.2.1.trans (of_decide_eq_true ran)
    have wrong' : check.competentBaseline.wrongActions = 0 :=
      (summarize_eq summarized').2.2.2.1.trans (of_decide_eq_true ran')
    rw [wrong, wrong'] at orders
    exact ⟨_, _, check, accepted, checked, match_, wrong, wrong', orders⟩

/-- Of two arms on one stream, with responders that report no time for their decisions and policies without a negative
penalty, the one that is wrong no more often in any scenario has no worse figures: no greater median or 90th percentile
of the times to resolution, no more actions, failed orders or value of these. -/
theorem fewer_wrong_actions {c : Conductor} {r : Responder σ} {r' : Responder τ} {memory : σ} {memory' : τ}
    {first : Arm σ} {second : Arm τ} {check : MechanismCheck} (prompt : Prompt r) (prompt' : Prompt r')
    (penalties : ∀ scenario ∈ c.scenarios, ∀ policy, policyOf c scenario = .ok policy →
      0 ≤ policy.wrongActionPenaltySeconds)
    (ran : playStream c r memory = .ok first) (ran' : playStream c r' memory' = .ok second)
    (fewer : List.Forall₂ (fun x y => x.wrongActions ≤ y.wrongActions) first.results second.results)
    (checked : mechanismCheck first.results second.results = .ok check) :
    check.withMemory.medianMttrSeconds ≤ check.competentBaseline.medianMttrSeconds ∧
    check.withMemory.p90MttrSeconds ≤ check.competentBaseline.p90MttrSeconds ∧
    check.withMemory.meanActionsToResolution ≤ check.competentBaseline.meanActionsToResolution ∧
    check.withMemory.failedOrders ≤ check.competentBaseline.failedOrders ∧
    check.withMemory.failedOrderValueCents ≤ check.competentBaseline.failedOrderValueCents := by
  have differ := forall₂_both (playStream_differ prompt prompt' ran ran') fewer
  have less : ∀ x y : ArmResult, Differ c x y ∧ x.wrongActions ≤ y.wrongActions →
      (x.wrongActions : Int) - y.wrongActions ≤ 0 := by
    rintro x y ⟨_, le⟩
    omega
  have times : List.Forall₂ (· ≤ ·) (first.results.map ArmResult.mttrSeconds) (second.results.map ArmResult.mttrSeconds) := by
    refine map_le differ fun x y both => ?_
    obtain ⟨scenario, policy, mem, _, oracle, time⟩ := both.1.mttrSeconds
    have diff := mul_nonpos_of_nonpos_of_nonneg (less x y both) (penalties scenario mem policy oracle)
    omega
  have actions : List.Forall₂ (· ≤ ·) (first.results.map fun x => (x.actions : ℚ))
      (second.results.map fun x => (x.actions : ℚ)) := by
    refine map_le differ fun x y both => Nat.cast_le.mpr ?_
    have fewer := less x y both
    rw [← both.1.actions] at fewer
    omega
  have orders : List.Forall₂ (· ≤ ·) (first.results.map ArmResult.failedOrders)
      (second.results.map ArmResult.failedOrders) := by
    refine map_le differ fun x y both => ?_
    have fewer := less x y both
    have failed := both.1.failedOrders
    omega
  have values : List.Forall₂ (· ≤ ·) (first.results.map ArmResult.failedOrderValueCents)
      (second.results.map ArmResult.failedOrderValueCents) := by
    refine map_le differ fun x y both => ?_
    have diff := mul_nonpos_of_nonpos_of_nonneg (less x y both) (@order_cents_nonneg c 2)
    rw [← both.1.failedOrderValueCents] at diff
    omega
  obtain ⟨summarized, summarized', _⟩ := mechanismCheck_eq checked
  obtain ⟨middle, high, acted, _, failed, cents⟩ := summarize_eq summarized
  obtain ⟨middle', high', acted', _, failed', cents'⟩ := summarize_eq summarized'
  refine ⟨median_mono times middle middle', percentile_mono times high high', ?_, ?_, ?_⟩
  · rw [acted, acted']
    apply roundTo_mono
    unfold mean
    rw [List.length_map, List.length_map, differ.length_eq]
    exact div_le_div_of_nonneg_right actions.sum_le_sum (Nat.cast_nonneg _)
  · rw [failed, failed']
    exact orders.sum_le_sum
  · rw [cents, cents']
    exact values.sum_le_sum

/-- The two bad deploys, without memory and with the hasty one. -/
theorem fewer_wrong_actions_sample : ∃ first second check,
    playStream Simulator.Sample.twoDeploys Sample.memoryless () = .ok first ∧
    playStream Simulator.Sample.twoDeploys (Sample.remembering Sample.hastyMemory) () = .ok second ∧
    mechanismCheck first.results second.results = .ok check ∧
    check.withMemory.medianMttrSeconds ≤ check.competentBaseline.medianMttrSeconds ∧
    check.withMemory.failedOrders ≤ check.competentBaseline.failedOrders := by
  have ran : (playStream Simulator.Sample.twoDeploys Sample.memoryless ()).toOption.any (fun arm =>
      (arm.results.map ArmResult.wrongActions) = [0, 0]) = true := by decide +kernel
  have ran' : (playStream Simulator.Sample.twoDeploys (Sample.remembering Sample.hastyMemory) ()).toOption.any (fun arm =>
      (arm.results.map ArmResult.wrongActions) = [1, 1]) = true := by decide +kernel
  cases played : playStream Simulator.Sample.twoDeploys Sample.memoryless () with
  | error e =>
    rw [played] at ran
    cases ran
  | ok first =>
  cases played' : playStream Simulator.Sample.twoDeploys (Sample.remembering Sample.hastyMemory) () with
  | error e =>
    rw [played'] at ran'
    cases ran'
  | ok second =>
    rw [played] at ran
    rw [played'] at ran'
    have wrong : first.results.map ArmResult.wrongActions = [0, 0] := of_decide_eq_true ran
    have wrong' : second.results.map ArmResult.wrongActions = [1, 1] := of_decide_eq_true ran'
    have fewer : List.Forall₂ (fun x y => x.wrongActions ≤ y.wrongActions) first.results second.results := by
      rw [← List.forall₂_map_left_iff (f := ArmResult.wrongActions) (R := fun n (y : ArmResult) => n ≤ y.wrongActions),
        ← List.forall₂_map_right_iff (f := ArmResult.wrongActions) (R := fun n m => n ≤ m), wrong, wrong']
      decide
    have penalties : ∀ scenario ∈ Simulator.Sample.twoDeploys.scenarios, ∀ policy,
        policyOf Simulator.Sample.twoDeploys scenario = .ok policy → 0 ≤ policy.wrongActionPenaltySeconds := by
      have each : ∀ scenario ∈ Simulator.Sample.twoDeploys.scenarios,
          (policyOf Simulator.Sample.twoDeploys scenario).toOption.all (fun policy =>
            0 ≤ policy.wrongActionPenaltySeconds) = true := by decide +kernel
      intro scenario mem policy found
      have here := each scenario mem
      rw [found] at here
      exact of_decide_eq_true here
    have some : first.results ≠ [] := by
      intro none
      rw [none] at wrong
      cases wrong
    have some' : second.results ≠ [] := by
      intro none
      rw [none] at wrong'
      cases wrong'
    obtain ⟨check, checked⟩ := mechanismCheck_returns some some'
    obtain ⟨middle, _, _, orders, _⟩ :=
      fewer_wrong_actions MemorylessBaselineResponder.prompt ProceduralMemoryResponder.prompt penalties played played' fewer
        checked
    exact ⟨first, second, check, rfl, rfl, checked, middle, orders⟩

end Postmortem.Evaluation
