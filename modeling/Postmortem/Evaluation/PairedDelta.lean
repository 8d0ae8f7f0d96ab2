import Postmortem.Evaluation.RealAgent
import Postmortem.Lib.Rounding

/-!
# The comparison of the arms

`_paired_delta` of `evaluation/postmortem_eval/real_agent.py`, in exact arithmetic. Some of its figures are over the
whole arms, others over the scenarios that both arms resolved.
-/

namespace Postmortem.Evaluation

open Simulator Rounding

/-- What the comparison reads of a `RealIncidentResult`, its floats exact. -/
structure TimedResult where
  scenarioId : String
  resolved : Bool
  mttrSeconds : Option ℚ
  decisionSeconds : ℚ
  firstActionCorrect : Bool
  wrongActions : Int
  failedOrders : Int
  failedOrderValueCents : Int
deriving DecidableEq

/-- The record of an incident, with the time of its decision. -/
def RealIncidentResult.timed (result : RealIncidentResult) (decisionSeconds : ℚ) : TimedResult :=
  { scenarioId := result.scenarioId
    resolved := result.resolved
    mttrSeconds := result.mttrSeconds.map fun seconds => (seconds : ℚ)
    decisionSeconds := decisionSeconds
    firstActionCorrect := result.firstActionCorrect
    wrongActions := result.wrongActions
    failedOrders := result.failedOrders
    failedOrderValueCents := result.failedOrderValueCents }

/-- The dictionary under `scenario_id`. -/
abbrev ById := List (String × TimedResult)

/-- `by_id_memory` and `by_id_baseline` -/
def byId (items : List TimedResult) : ById := Assoc.index (fun item => item.scenarioId) items

/-- `shared` -/
def shared (byIdMemory byIdBaseline : ById) : List String :=
  ((byIdMemory.map Prod.fst).filter fun scenario => (Assoc.get byIdBaseline scenario).isSome).insertionSort (· ≤ ·)

/-- `by_id[scenario].resolved` -/
def resolvedIn (arm : ById) (scenario : String) : Bool := (Assoc.get arm scenario).any fun item => item.resolved

/-- `both` -/
def resolvedByBoth (byIdMemory byIdBaseline : ById) : List String :=
  (shared byIdMemory byIdBaseline).filter fun scenario => resolvedIn byIdMemory scenario && resolvedIn byIdBaseline scenario

/-- `memory_only` -/
def resolvedByMemoryOnly (byIdMemory byIdBaseline : ById) : List String :=
  (shared byIdMemory byIdBaseline).filter fun scenario => resolvedIn byIdMemory scenario && !resolvedIn byIdBaseline scenario

/-- `baseline_only` -/
def resolvedByBaselineOnly (byIdMemory byIdBaseline : ById) : List String :=
  (shared byIdMemory byIdBaseline).filter fun scenario => resolvedIn byIdBaseline scenario && !resolvedIn byIdMemory scenario

/-- `mttr_seconds` of a scenario, and that time without the decision. -/
def times (arm : ById) (scenario : String) : Except Raised (ℚ × ℚ) :=
  match Assoc.get arm scenario with
  | none => .error (Simulator.keyError scenario)
  | some item =>
    match item.mttrSeconds with
    | none => .error ⟨.TypeError, "unsupported operand type(s) for -: 'NoneType' and 'float'", none, none⟩
    | some seconds => .ok (seconds, seconds - item.decisionSeconds)

/-- `round(statistics.mean(values), 3) if values else None` -/
def roundedMean (values : List ℚ) : Option ℚ := if values = [] then none else some (roundTo 3 (mean values))

/-- `_reduction` -/
def reduction (withMemory without : List ℚ) : Option ℚ :=
  if withMemory = [] then none
  else if mean without = 0 then none
  else some (roundTo 3 ((mean without - mean withMemory) / mean without * 100))

/-- How many incidents were resolved. -/
def resolvedCount (items : List TimedResult) : ℚ := items.countP fun item => item.resolved

/-- The first-action accuracy. -/
def firstActionAccuracy (items : List TimedResult) : ℚ := mean (items.map fun item => if item.firstActionCorrect then 1 else 0)

/-- The report of `_paired_delta`, without `method`. -/
structure PairedDelta where
  incidentsInStream : Nat
  resolvedByBoth : Nat
  resolvedByMemoryOnly : List String
  resolvedByBaselineOnly : List String
  resolutionRateDeltaPoints : Option ℚ
  pairedMeanMttrSecondsWithMemory : Option ℚ
  pairedMeanMttrSecondsNoMemory : Option ℚ
  mttrReductionPercent : Option ℚ
  mttrReductionPercentExcludingModelLatency : Option ℚ
  firstActionAccuracyDelta : Option ℚ
  wrongActionDelta : Int
  failedOrdersAvoided : Int
  failedOrderValueAvoidedCents : Int
deriving DecidableEq

/-- `_paired_delta` -/
def pairedDelta (memory baseline : List TimedResult) : Except Raised PairedDelta := do
  let byIdMemory := byId memory
  let byIdBaseline := byId baseline
  let shared := shared byIdMemory byIdBaseline
  let both := Evaluation.resolvedByBoth byIdMemory byIdBaseline
  let memoryTimes ← both.mapM (times byIdMemory)
  let baselineTimes ← both.mapM (times byIdBaseline)
  return {
    incidentsInStream := shared.length
    resolvedByBoth := both.length
    resolvedByMemoryOnly := Evaluation.resolvedByMemoryOnly byIdMemory byIdBaseline
    resolvedByBaselineOnly := Evaluation.resolvedByBaselineOnly byIdMemory byIdBaseline
    resolutionRateDeltaPoints :=
      if shared = [] then none
      else some (roundTo 3 ((resolvedCount memory - resolvedCount baseline) / shared.length * 100))
    pairedMeanMttrSecondsWithMemory := roundedMean (memoryTimes.map Prod.fst)
    pairedMeanMttrSecondsNoMemory := roundedMean (baselineTimes.map Prod.fst)
    mttrReductionPercent := reduction (memoryTimes.map Prod.fst) (baselineTimes.map Prod.fst)
    mttrReductionPercentExcludingModelLatency := reduction (memoryTimes.map Prod.snd) (baselineTimes.map Prod.snd)
    firstActionAccuracyDelta :=
      if memory = [] ∨ baseline = [] then none
      else some (roundTo 6 (firstActionAccuracy memory - firstActionAccuracy baseline))
    wrongActionDelta := (memory.map fun item => item.wrongActions).sum - (baseline.map fun item => item.wrongActions).sum
    failedOrdersAvoided := (baseline.map fun item => item.failedOrders).sum - (memory.map fun item => item.failedOrders).sum
    failedOrderValueAvoidedCents := (baseline.map fun item => item.failedOrderValueCents).sum -
      (memory.map fun item => item.failedOrderValueCents).sum }

/-! ## The scenarios -/

/-- The arm has the scenario. -/
def Has (items : List TimedResult) (scenario : String) : Prop := ∃ item ∈ items, item.scenarioId = scenario

/-- The arm resolved the scenario. -/
def ResolvedBy (items : List TimedResult) (scenario : String) : Prop :=
  ∃ item ∈ items, item.scenarioId = scenario ∧ item.resolved = true

instance (items : List TimedResult) (scenario : String) : Decidable (ResolvedBy items scenario) :=
  inferInstanceAs (Decidable (∃ item ∈ items, _))

/-- No scenario is in an arm twice. -/
def Distinct (items : List TimedResult) : Prop := (items.map fun item => item.scenarioId).Nodup

instance (items : List TimedResult) : Decidable (Distinct items) := inferInstanceAs (Decidable (List.Nodup _))

/-- Two arms over the same scenarios. -/
structure SameScenarios (memory baseline : List TimedResult) : Prop where
  same : ∀ scenario, Has memory scenario ↔ Has baseline scenario
  memory : Distinct memory
  baseline : Distinct baseline

section scenarios

variable {items items' memory baseline memory' baseline' : List TimedResult} {scenario : String} {item : TimedResult}

lemma SameScenarios.symm (h : SameScenarios memory baseline) : SameScenarios baseline memory :=
  ⟨fun scenario => (h.same scenario).symm, h.baseline, h.memory⟩

lemma get_byId (distinct : Distinct items) :
    Assoc.get (byId items) scenario = some item ↔ item ∈ items ∧ item.scenarioId = scenario :=
  Assoc.get_index distinct

lemma has_iff (distinct : Distinct items) : (Assoc.get (byId items) scenario).isSome = true ↔ Has items scenario := by
  rw [Option.isSome_iff_exists]
  exact exists_congr fun item => get_byId distinct

lemma resolvedIn_iff (distinct : Distinct items) : resolvedIn (byId items) scenario = true ↔ ResolvedBy items scenario := by
  unfold resolvedIn
  rw [Option.any_eq_true]
  constructor
  · rintro ⟨item, found, resolved⟩
    obtain ⟨mem, same⟩ := (get_byId distinct).mp found
    exact ⟨item, mem, same, resolved⟩
  · rintro ⟨item, mem, same, resolved⟩
    exact ⟨item, (get_byId distinct).mpr ⟨mem, same⟩, resolved⟩

lemma mem_keys (distinct : Distinct items) : scenario ∈ (byId items).map Prod.fst ↔ Has items scenario := by
  rw [List.mem_map]
  constructor
  · rintro ⟨⟨_, item⟩, mem, rfl⟩
    exact ⟨item, (get_byId distinct).mp (Assoc.keyed_index.mem_iff.mp mem)⟩
  · rintro ⟨item, mem⟩
    exact ⟨(scenario, item), Assoc.keyed_index.mem_iff.mpr ((get_byId distinct).mpr mem), rfl⟩

lemma mem_shared (h : SameScenarios memory baseline) :
    scenario ∈ shared (byId memory) (byId baseline) ↔ Has memory scenario := by
  unfold shared
  rw [List.mem_insertionSort, List.mem_filter, mem_keys h.memory, has_iff h.baseline, ← h.same, and_self]

lemma shared_nodup : (shared (byId memory) (byId baseline)).Nodup := by
  unfold shared
  rw [(List.perm_insertionSort _ _).nodup_iff]
  exact List.Nodup.filter _ Assoc.keyed_index

lemma shared_pairwise {byIdMemory byIdBaseline : ById} : (shared byIdMemory byIdBaseline).Pairwise (· ≤ ·) :=
  List.pairwise_insertionSort _ _

/-- The shared scenarios depend on which scenarios there are alone. -/
lemma shared_congr (h : SameScenarios memory baseline) (h' : SameScenarios memory' baseline')
    (same : ∀ scenario, Has memory scenario ↔ Has memory' scenario) :
    shared (byId memory) (byId baseline) = shared (byId memory') (byId baseline') := by
  apply List.Perm.eq_of_pairwise' shared_pairwise shared_pairwise
  apply (List.perm_ext_iff_of_nodup shared_nodup shared_nodup).mpr
  intro scenario
  rw [mem_shared h, mem_shared h', same]

lemma ResolvedBy.has (resolved : ResolvedBy items scenario) : Has items scenario := by
  obtain ⟨item, mem, same, _⟩ := resolved
  exact ⟨item, mem, same⟩

lemma mem_both (h : SameScenarios memory baseline) : scenario ∈ resolvedByBoth (byId memory) (byId baseline) ↔
    ResolvedBy memory scenario ∧ ResolvedBy baseline scenario := by
  unfold resolvedByBoth
  rw [List.mem_filter, Bool.and_eq_true, resolvedIn_iff h.memory, resolvedIn_iff h.baseline, mem_shared h]
  exact and_iff_right_of_imp fun resolved => resolved.1.has

lemma mem_memoryOnly (h : SameScenarios memory baseline) :
    scenario ∈ resolvedByMemoryOnly (byId memory) (byId baseline) ↔
      ResolvedBy memory scenario ∧ ¬ ResolvedBy baseline scenario := by
  unfold resolvedByMemoryOnly
  rw [List.mem_filter, Bool.and_eq_true, Bool.not_eq_true', ← Bool.not_eq_true, resolvedIn_iff h.memory,
    resolvedIn_iff h.baseline, mem_shared h]
  exact and_iff_right_of_imp fun resolved => resolved.1.has

lemma both_nodup : (resolvedByBoth (byId memory) (byId baseline)).Nodup := shared_nodup.filter _

lemma memoryOnly_nodup : (resolvedByMemoryOnly (byId memory) (byId baseline)).Nodup := shared_nodup.filter _

/-- The arms change places. -/
lemma shared_swap (h : SameScenarios memory baseline) :
    shared (byId baseline) (byId memory) = shared (byId memory) (byId baseline) :=
  shared_congr h.symm h fun scenario => (h.same scenario).symm

lemma both_swap (h : SameScenarios memory baseline) :
    resolvedByBoth (byId baseline) (byId memory) = resolvedByBoth (byId memory) (byId baseline) := by
  unfold resolvedByBoth
  rw [shared_swap h]
  exact List.filter_congr fun scenario _ => Bool.and_comm _ _

lemma only_swap (h : SameScenarios memory baseline) :
    resolvedByMemoryOnly (byId baseline) (byId memory) = resolvedByBaselineOnly (byId memory) (byId baseline) := by
  unfold resolvedByMemoryOnly resolvedByBaselineOnly
  rw [shared_swap h]

lemma mem_baselineOnly (h : SameScenarios memory baseline) :
    scenario ∈ resolvedByBaselineOnly (byId memory) (byId baseline) ↔
      ResolvedBy baseline scenario ∧ ¬ ResolvedBy memory scenario := by
  rw [← only_swap h, mem_memoryOnly h.symm]

end scenarios

/-! ## The figures -/

section figures

variable {items items' memory baseline memory' baseline' : List TimedResult} {scenario : String} {item : TimedResult}
  {l l' m m' : List ℚ}

/-- The incidents of an arm that both arms resolved. -/
def paired (memory baseline : List TimedResult) : List TimedResult :=
  memory.filter fun item => item.resolved = true ∧ ResolvedBy baseline item.scenarioId

/-- The times of an incident that has an MTTR. -/
def timesOf (item : TimedResult) : Option (ℚ × ℚ) :=
  item.mttrSeconds.map fun seconds => (seconds, seconds - item.decisionSeconds)

/-- The MTTRs of the incidents that both arms resolved. -/
def pairedMttr (memory baseline : List TimedResult) : List ℚ := (paired memory baseline).filterMap fun item =>
  (timesOf item).map Prod.fst

/-- These MTTRs without the time of the decision. -/
def pairedAct (memory baseline : List TimedResult) : List ℚ := (paired memory baseline).filterMap fun item =>
  (timesOf item).map Prod.snd

lemma both_perm (h : SameScenarios memory baseline) : (resolvedByBoth (byId memory) (byId baseline)).Perm
    ((paired memory baseline).map fun item => item.scenarioId) := by
  have distinct : ((paired memory baseline).map fun item => item.scenarioId).Nodup :=
    h.memory.sublist (List.filter_sublist.map _)
  apply (List.perm_ext_iff_of_nodup both_nodup distinct).mpr
  intro scenario
  rw [mem_both h, List.mem_map]
  constructor
  · rintro ⟨⟨item, mem, rfl, resolved⟩, other⟩
    exact ⟨item, List.mem_filter.mpr ⟨mem, decide_eq_true ⟨resolved, other⟩⟩, rfl⟩
  · rintro ⟨item, mem, rfl⟩
    obtain ⟨mem, both⟩ := List.mem_filter.mp mem
    obtain ⟨resolved, other⟩ := of_decide_eq_true both
    exact ⟨⟨item, mem, rfl, resolved⟩, other⟩

/-- The times that are averaged are those of the incidents that both arms resolved. -/
lemma times_perm {ts : List (ℚ × ℚ)} (h : SameScenarios memory baseline)
    (timed : (resolvedByBoth (byId memory) (byId baseline)).mapM (times (byId memory)) = .ok ts) :
    ts.Perm ((paired memory baseline).filterMap timesOf) := by
  rw [mapM_toOption timed]
  apply ((both_perm h).filterMap _).trans
  rw [List.filterMap_map]
  apply List.Perm.of_eq
  apply List.filterMap_congr
  intro item mem
  have found : Assoc.get (byId memory) item.scenarioId = some item :=
    (get_byId h.memory).mpr ⟨List.mem_of_mem_filter mem, rfl⟩
  show (times (byId memory) item.scenarioId).toOption = _
  unfold times timesOf
  rw [found]
  dsimp only
  cases item.mttrSeconds with
  | none => rfl
  | some seconds => rfl

lemma roundedMean_perm (h : l.Perm l') : roundedMean l = roundedMean l' := by
  unfold roundedMean
  rw [mean_perm h]
  exact if_congr (by rw [← List.length_eq_zero_iff, h.length_eq, List.length_eq_zero_iff]) rfl rfl

lemma reduction_perm (h : l.Perm l') (h' : m.Perm m') : reduction l m = reduction l' m' := by
  unfold reduction
  rw [mean_perm h, mean_perm h']
  exact if_congr (by rw [← List.length_eq_zero_iff, h.length_eq, List.length_eq_zero_iff]) rfl rfl

/-- How many an arm resolved: those that both did and those that it alone did. -/
lemma resolvedCount_eq (h : SameScenarios memory baseline) : resolvedCount memory =
    (resolvedByBoth (byId memory) (byId baseline)).length + (resolvedByMemoryOnly (byId memory) (byId baseline)).length := by
  have perm : ((memory.filter fun item => item.resolved).map fun item => item.scenarioId).Perm
      (resolvedByBoth (byId memory) (byId baseline) ++ resolvedByMemoryOnly (byId memory) (byId baseline)) := by
    have distinct : ((memory.filter fun item => item.resolved).map fun item => item.scenarioId).Nodup :=
      h.memory.sublist (List.filter_sublist.map _)
    have apart : (resolvedByBoth (byId memory) (byId baseline)).Disjoint (resolvedByMemoryOnly (byId memory) (byId baseline)) :=
      fun scenario both only => ((mem_memoryOnly h).mp only).2 ((mem_both h).mp both).2
    apply (List.perm_ext_iff_of_nodup distinct (both_nodup.append memoryOnly_nodup apart)).mpr
    intro scenario
    rw [List.mem_append, mem_both h, mem_memoryOnly h, ← and_or_left, and_iff_left (Classical.em _), List.mem_map]
    constructor
    · rintro ⟨item, mem, rfl⟩
      obtain ⟨mem, resolved⟩ := List.mem_filter.mp mem
      exact ⟨item, mem, rfl, resolved⟩
    · rintro ⟨item, mem, rfl, resolved⟩
      exact ⟨item, List.mem_filter.mpr ⟨mem, resolved⟩, rfl⟩
  have count := perm.length_eq
  rw [List.length_map, ← List.countP_eq_length_filter, List.length_append] at count
  rw [resolvedCount, count]
  push_cast
  rfl

lemma shared_length (h : SameScenarios memory baseline) : (shared (byId memory) (byId baseline)).length = memory.length := by
  have perm : (shared (byId memory) (byId baseline)).Perm (memory.map fun item => item.scenarioId) := by
    apply (List.perm_ext_iff_of_nodup shared_nodup h.memory).mpr
    intro scenario
    rw [mem_shared h, List.mem_map]
    rfl
  rw [perm.length_eq, List.length_map]

lemma shared_eq_nil (h : SameScenarios memory baseline) : shared (byId memory) (byId baseline) = [] ↔ memory = [] := by
  rw [← List.length_eq_zero_iff, shared_length h, List.length_eq_zero_iff]

/-- The comparison returns where the scenarios that both arms resolved have an MTTR. -/
lemma pairedDelta_returns (h : SameScenarios memory baseline)
    (timed : ∀ item ∈ memory ++ baseline, item.resolved = true → item.mttrSeconds ≠ none) :
    Returns (pairedDelta memory baseline) := by
  have times : ∀ arm, Distinct arm → (∀ item ∈ arm, item.resolved = true → item.mttrSeconds ≠ none) →
      ∀ scenario, ResolvedBy arm scenario → Returns (times (byId arm) scenario) := by
    intro arm distinct timed scenario
    rintro ⟨item, mem, same, resolved⟩
    unfold Evaluation.times
    rw [(get_byId distinct).mpr ⟨mem, same⟩]
    dsimp only
    cases seconds : item.mttrSeconds with
    | none => exact absurd seconds (timed item mem resolved)
    | some seconds => exact ⟨_, rfl⟩
  obtain ⟨memoryTimes, memoryTimed⟩ := mapM_returns.mpr fun scenario mem => times memory h.memory
    (fun item mem => timed item (List.mem_append_left _ mem)) scenario ((mem_both h).mp mem).1
  obtain ⟨baselineTimes, baselineTimed⟩ := mapM_returns.mpr fun scenario mem => times baseline h.baseline
    (fun item mem => timed item (List.mem_append_right _ mem)) scenario ((mem_both h).mp mem).2
  exact ⟨_, bind_ok_iff.mpr ⟨_, memoryTimed, bind_ok_iff.mpr ⟨_, baselineTimed, rfl⟩⟩⟩

/-- A record of the arms has an MTTR where it says that the incident was resolved. -/
lemma recordIncident_timed {incident : Simulator.Incident} {retrieved : List String} {orderMark : Nat}
    {response : PlannedResponse} {tally : Tally} {w : WorldState} {decisionSeconds : ℚ}
    (resolved : ((recordIncident incident retrieved orderMark response tally w).timed decisionSeconds).resolved = true) :
    ((recordIncident incident retrieved orderMark response tally w).timed decisionSeconds).mttrSeconds ≠ none := by
  intro untimed
  obtain ⟨seconds, timed⟩ := Option.isSome_iff_exists.mp resolved
  have none : ((Assoc.get w.incidents incident.incidentId).bind Simulator.Incident.mttrSeconds).map
      (fun s => (s : ℚ)) = none := untimed
  rw [timed] at none
  cases none

end figures

/-! ## The report -/

/-- The figures of a report, by the incidents: the rate by those that one arm alone resolved, the times by those that
both arms resolved. -/
structure Compared (memory baseline : List TimedResult) (r : PairedDelta) : Prop where
  both : r.resolvedByBoth = (resolvedByBoth (byId memory) (byId baseline)).length
  memoryOnly : r.resolvedByMemoryOnly = resolvedByMemoryOnly (byId memory) (byId baseline)
  baselineOnly : r.resolvedByBaselineOnly = resolvedByBaselineOnly (byId memory) (byId baseline)
  rate : r.resolutionRateDeltaPoints = if memory = [] then none else
    some (roundTo 3 ((r.resolvedByMemoryOnly.length - r.resolvedByBaselineOnly.length : ℚ) / memory.length * 100))
  mttrWithMemory : r.pairedMeanMttrSecondsWithMemory = roundedMean (pairedMttr memory baseline)
  mttrNoMemory : r.pairedMeanMttrSecondsNoMemory = roundedMean (pairedMttr baseline memory)
  reduction : r.mttrReductionPercent = reduction (pairedMttr memory baseline) (pairedMttr baseline memory)
  reductionAct : r.mttrReductionPercentExcludingModelLatency =
    Evaluation.reduction (pairedAct memory baseline) (pairedAct baseline memory)

/-- The report with the arms in each other's place. -/
structure Swapped (r r' : PairedDelta) : Prop where
  memoryOnly : r'.resolvedByMemoryOnly = r.resolvedByBaselineOnly
  baselineOnly : r'.resolvedByBaselineOnly = r.resolvedByMemoryOnly
  rate : r'.resolutionRateDeltaPoints = r.resolutionRateDeltaPoints.map fun x => -x
  firstAction : r'.firstActionAccuracyDelta = r.firstActionAccuracyDelta.map fun x => -x
  wrongActions : r'.wrongActionDelta = -r.wrongActionDelta
  failedOrders : r'.failedOrdersAvoided = -r.failedOrdersAvoided
  failedOrderValue : r'.failedOrderValueAvoidedCents = -r.failedOrderValueAvoidedCents

section report

variable {memory baseline memory' baseline' : List TimedResult} {r : PairedDelta}

lemma pairedDelta_compared (h : SameScenarios memory baseline) (returned : pairedDelta memory baseline = .ok r) :
    Compared memory baseline r := by
  obtain ⟨memoryTimes, memoryTimed, returned⟩ := bind_ok returned
  obtain ⟨baselineTimes, baselineTimed, returned⟩ := bind_ok returned
  cases returned
  have withMemory := times_perm h memoryTimed
  have without : baselineTimes.Perm _ := times_perm h.symm (by rw [both_swap h]; exact baselineTimed)
  have counts := resolvedCount_eq h
  have counts' := resolvedCount_eq h.symm
  rw [both_swap h, only_swap h] at counts'
  constructor
  case both => rfl
  case memoryOnly => rfl
  case baselineOnly => rfl
  case rate =>
    dsimp only
    rw [shared_length h, counts, counts', add_sub_add_left_eq_sub]
    exact if_congr (shared_eq_nil h) rfl rfl
  case mttrWithMemory =>
    rw [pairedMttr, ← List.map_filterMap]
    exact roundedMean_perm (withMemory.map _)
  case mttrNoMemory =>
    rw [pairedMttr, ← List.map_filterMap]
    exact roundedMean_perm (without.map _)
  case reduction =>
    rw [pairedMttr, pairedMttr, ← List.map_filterMap, ← List.map_filterMap]
    exact reduction_perm (withMemory.map _) (without.map _)
  case reductionAct =>
    rw [pairedAct, pairedAct, ← List.map_filterMap, ← List.map_filterMap]
    exact reduction_perm (withMemory.map _) (without.map _)

/-- The arms change places: what one alone resolved is what the other alone resolved, and the differences change
sign. -/
lemma pairedDelta_swapped (h : SameScenarios memory baseline) (returned : pairedDelta memory baseline = .ok r) :
    ∃ r', pairedDelta baseline memory = .ok r' ∧ Swapped r r' := by
  obtain ⟨memoryTimes, memoryTimed, returned⟩ := bind_ok returned
  obtain ⟨baselineTimes, baselineTimed, returned⟩ := bind_ok returned
  cases returned
  rw [← both_swap h] at memoryTimed baselineTimed
  refine ⟨_, bind_ok_iff.mpr ⟨_, baselineTimed, bind_ok_iff.mpr ⟨_, memoryTimed, rfl⟩⟩, ?_⟩
  constructor
  case memoryOnly => exact only_swap h
  case baselineOnly => exact (only_swap h.symm).symm
  case rate =>
    dsimp only
    rw [shared_swap h]
    split
    case isTrue => rfl
    case isFalse =>
      rw [Option.map_some, ← roundTo_neg, ← neg_mul, ← neg_div, neg_sub]
  case firstAction =>
    dsimp only
    rcases Decidable.em (memory = [] ∨ baseline = []) with empty | nonempty
    · rw [if_pos empty, if_pos empty.symm, Option.map_none]
    · rw [if_neg nonempty, if_neg fun empty => nonempty empty.symm, Option.map_some, ← roundTo_neg, neg_sub]
  case wrongActions => exact (neg_sub _ _).symm
  case failedOrders => exact (neg_sub _ _).symm
  case failedOrderValue => exact (neg_sub _ _).symm

lemma byId_perm {items items' : List TimedResult} (distinct : Distinct items) (perm : items.Perm items') :
    Distinct items' ∧ (∀ scenario, Has items' scenario ↔ Has items scenario) ∧
      ∀ scenario, Assoc.get (byId items') scenario = Assoc.get (byId items) scenario := by
  have distinct' : Distinct items' := (perm.map _).nodup_iff.mp distinct
  refine ⟨distinct', fun scenario => exists_congr fun item => and_congr_left fun _ => perm.mem_iff.symm, ?_⟩
  intro scenario
  apply Option.ext
  intro item
  rw [get_byId distinct', get_byId distinct, perm.mem_iff]

lemma perm_nil {items items' : List TimedResult} (perm : items.Perm items') : items' = [] ↔ items = [] := by
  rw [← List.length_eq_zero_iff, ← perm.length_eq, List.length_eq_zero_iff]

/-- The order of the incidents in an arm does not matter. -/
lemma pairedDelta_perm (h : SameScenarios memory baseline) (perm : memory.Perm memory') (perm' : baseline.Perm baseline') :
    pairedDelta memory' baseline' = pairedDelta memory baseline := by
  obtain ⟨distinct, has, read⟩ := byId_perm h.memory perm
  obtain ⟨distinct', has', read'⟩ := byId_perm h.baseline perm'
  have h' : SameScenarios memory' baseline' :=
    ⟨fun scenario => (has scenario).trans ((h.same scenario).trans (has' scenario).symm), distinct, distinct'⟩
  have sharedSame := shared_congr h' h has
  have resolved : resolvedIn (byId memory') = resolvedIn (byId memory) := by
    funext scenario
    rw [resolvedIn, resolvedIn, read]
  have resolved' : resolvedIn (byId baseline') = resolvedIn (byId baseline) := by
    funext scenario
    rw [resolvedIn, resolvedIn, read']
  have timesSame : times (byId memory') = times (byId memory) := by
    funext scenario
    rw [times, times, read]
  have timesSame' : times (byId baseline') = times (byId baseline) := by
    funext scenario
    rw [times, times, read']
  have sums {M : Type} [AddCommMonoid M] (f : TimedResult → M) : (memory'.map f).sum = (memory.map f).sum :=
    (perm.symm.map f).sum_eq
  have sums' {M : Type} [AddCommMonoid M] (f : TimedResult → M) : (baseline'.map f).sum = (baseline.map f).sum :=
    (perm'.symm.map f).sum_eq
  unfold pairedDelta resolvedByBoth resolvedByMemoryOnly resolvedByBaselineOnly resolvedCount firstActionAccuracy
  dsimp only
  rw [sharedSame, resolved, resolved', timesSame, timesSame', sums, sums', sums, sums', sums, sums',
    perm.symm.countP_eq, perm'.symm.countP_eq, mean_perm (perm.symm.map _), mean_perm (perm'.symm.map _)]
  simp only [perm_nil perm, perm_nil perm']

end report

/-- Two arms over the same scenarios, none of them twice: what both, the one and the other alone resolved are disjoint and
are what either resolved; the rate is by what one alone resolved and the times are over what both resolved; the order
of the incidents does not matter; and where the arms change places the differences change sign. -/
theorem paired_delta_spec (memory baseline : List TimedResult) (h : SameScenarios memory baseline) :
    (let both := resolvedByBoth (byId memory) (byId baseline)
      let memoryOnly := resolvedByMemoryOnly (byId memory) (byId baseline)
      let baselineOnly := resolvedByBaselineOnly (byId memory) (byId baseline)
      both.Disjoint memoryOnly ∧ both.Disjoint baselineOnly ∧ memoryOnly.Disjoint baselineOnly ∧
        ∀ scenario, scenario ∈ both ∨ scenario ∈ memoryOnly ∨ scenario ∈ baselineOnly ↔
          ResolvedBy memory scenario ∨ ResolvedBy baseline scenario) ∧
    (∀ r, pairedDelta memory baseline = .ok r → Compared memory baseline r) ∧
    (∀ memory' baseline', memory.Perm memory' → baseline.Perm baseline' →
      pairedDelta memory' baseline' = pairedDelta memory baseline) ∧
    ∀ r, pairedDelta memory baseline = .ok r → ∃ r', pairedDelta baseline memory = .ok r' ∧ Swapped r r' := by
  refine ⟨?_, fun _ => pairedDelta_compared h, fun _ _ => pairedDelta_perm h, fun _ => pairedDelta_swapped h⟩
  refine ⟨?_, ?_, ?_, ?_⟩
  · intro scenario both only
    exact ((mem_memoryOnly h).mp only).2 ((mem_both h).mp both).2
  · intro scenario both only
    exact ((mem_baselineOnly h).mp only).2 ((mem_both h).mp both).1
  · intro scenario only only'
    exact ((mem_memoryOnly h).mp only).2 ((mem_baselineOnly h).mp only').1
  · intro scenario
    rw [mem_both h, mem_memoryOnly h, mem_baselineOnly h]
    by_cases resolved : ResolvedBy memory scenario
    case pos =>
      by_cases resolved' : ResolvedBy baseline scenario
      case pos => simp [resolved, resolved']
      case neg => simp [resolved, resolved']
    case neg => simp [resolved]

/-- One scenario that both arms resolved and one that the memory's arm alone resolved. -/
theorem paired_delta_spec_sample :
    let memory : List TimedResult := [⟨"a", true, some 60, 2, true, 0, 1, 900⟩, ⟨"b", true, some 90, 3, false, 1, 2, 1800⟩]
    let baseline : List TimedResult := [⟨"b", false, none, 4, false, 3, 5, 4500⟩, ⟨"a", true, some 120, 2, false, 2, 3, 2700⟩]
    SameScenarios memory baseline ∧ ∃ r r', pairedDelta memory baseline = .ok r ∧
      r.resolvedByMemoryOnly = ["b"] ∧ r.resolutionRateDeltaPoints = some 50 ∧ r.mttrReductionPercent = some 50 ∧
      pairedDelta baseline memory = .ok r' ∧ Swapped r r' := by
  intro memory baseline
  have same : SameScenarios memory baseline := by
    constructor
    case same =>
      intro scenario
      simp only [Has, memory, baseline, List.exists_mem_cons_iff, List.not_mem_nil, false_and, exists_false, or_false]
      exact or_comm
    case memory => decide
    case baseline => decide
  obtain ⟨_, _, _, swapped⟩ := paired_delta_spec memory baseline same
  have returned : ∃ r, pairedDelta memory baseline = .ok r ∧
      r.resolvedByMemoryOnly = ["b"] ∧ r.resolutionRateDeltaPoints = some 50 ∧ r.mttrReductionPercent = some 50 :=
    ⟨_, rfl, by decide +kernel⟩
  obtain ⟨r, returned, only, rate, faster⟩ := returned
  obtain ⟨r', returned', swapped⟩ := swapped r returned
  exact ⟨same, r, r', returned, only, rate, faster, returned', swapped⟩

end Postmortem.Evaluation
