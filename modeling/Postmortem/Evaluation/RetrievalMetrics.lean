import Mathlib.Analysis.SpecialFunctions.Log.Base
import Postmortem.Evaluation.TemporalResponder
import Postmortem.Lib.DiscountedGain
import Postmortem.Lib.Rounding

/-!
# The retrieval metrics

`EvaluationHarness._retrieval_metrics` of `evaluation/postmortem_eval/runner.py`, in exact arithmetic and for any
discount of the ranks. The source's discount is `discount`.
-/

namespace Postmortem.Evaluation

open DiscountedGain Rounding

/-- `IncidentResult` -/
structure IncidentResult where
  familyId : String
  variantId : String
  abstained : Bool
  retrievedMemoryIds : List String
  authorizedMemoryId : Option String
deriving DecidableEq

/-- `gold_by_family` -/
abbrev GoldByFamily := List (String × Finset String)

/-- What `EvaluationHarness.__init__` keeps of the corpus. -/
structure EvaluationHarness where
  goldByFamily : GoldByFamily := []
  hardNegativeIds : Finset String := ∅
  distractorIds : Finset String := ∅

/-- The body of the loop over `corpus["memories"]`. -/
def EvaluationHarness.add (self : EvaluationHarness) (item : CorpusItem) : EvaluationHarness :=
  if item.gold.truthy then
    let ids := (Assoc.get self.goldByFamily item.familyId).getD ∅
    { self with goldByFamily := Assoc.set self.goldByFamily item.familyId (insert item.memoryId ids) }
  else if item.familyId = "HARD_NEGATIVE" then
    { self with hardNegativeIds := insert item.memoryId self.hardNegativeIds }
  else { self with distractorIds := insert item.memoryId self.distractorIds }

/-- `EvaluationHarness.__init__` -/
def EvaluationHarness.init (memories : List CorpusItem) : EvaluationHarness := memories.foldl EvaluationHarness.add {}

/-- An item of `scored`, with the gold memories of its family. -/
abbrev Scored := IncidentResult × Finset String

/-- `scored` -/
def scored (gold : GoldByFamily) (results : List IncidentResult) : List Scored :=
  results.filterMap fun item =>
    if item.variantId = "red-herring-slow-query" then none
    else (Assoc.get gold item.familyId).map fun ids => (item, ids)

/-- `set(item.retrieved_memory_ids[:k]) & gold` -/
def found (k : Nat) (item : Scored) : Finset String := (item.1.retrievedMemoryIds.take k).toFinset ∩ item.2

section metrics

variable {K : Type} [Field K] [LinearOrder K] [FloorRing K]

/-- `recall_at_k` -/
def recallAt (k : Nat) (scored : List Scored) : Except Raised K :=
  let hits := scored.countP fun item => (found k item).Nonempty
  if scored = [] then .error ⟨.other "ZeroDivisionError", "division by zero", none, none⟩
  else .ok (roundTo 6 ((hits : K) / scored.length))

/-- An item of `precision_values`. -/
def precision (item : Scored) : K := ((found 10 item).card : K) / 10

/-- `dcg` -/
def dcg (discount : Nat → K) (item : Scored) : K :=
  gain discount (fun memoryId => memoryId ∈ item.2) 0 (item.1.retrievedMemoryIds.take 10)

/-- `ideal_dcg` -/
def idealDcg (discount : Nat → K) (item : Scored) : K := ideal discount 0 (min item.2.card 10)

/-- An item of `ndcg_values`. -/
def ndcg (discount : Nat → K) (item : Scored) : K :=
  if idealDcg discount item = 0 then 0 else dcg discount item / idealDcg discount item

/-- `round(statistics.mean(values), 6)` -/
def roundedMean6 (values : List K) : Except Raised K :=
  if values = [] then .error ⟨.other "StatisticsError", "mean requires at least one data point", none, none⟩
  else .ok (roundTo 6 (mean values))

/-- The mean of a condition. -/
def rate (results : List IncidentResult) (condition : IncidentResult → Bool) : Except Raised K :=
  roundedMean6 (results.map fun item => if condition item then 1 else 0)

/-- The figures of `_retrieval_metrics`. -/
structure RetrievalMetrics (K : Type) where
  hardNegativeCount : Nat
  queries : Nat
  recallAt1 : K
  recallAt5 : K
  recallAt10 : K
  precisionAt10 : K
  ndcgAt10 : K
  novelQueries : Nat
  abstentionAccuracy : K
  nearMissQueries : Nat
  nearMissSafeRejectionAccuracy : K
  poolRunbookNearMissAuthorizationRate : K

/-- `_retrieval_metrics` -/
def retrievalMetrics (discount : Nat → K) (self : EvaluationHarness) (results : List IncidentResult) :
    Except Raised (RetrievalMetrics K) := do
  let scored := scored self.goldByFamily results
  let recallAt1 ← recallAt 1 scored
  let recallAt5 ← recallAt 5 scored
  let recallAt10 ← recallAt 10 scored
  let precisionAt10 ← roundedMean6 (scored.map precision)
  let ndcgAt10 ← roundedMean6 (scored.map (ndcg discount))
  let novel := results.filter fun item => item.familyId = "F10_NOVEL"
  let abstentionAccuracy ← rate novel fun item => item.abstained
  let nearMiss := results.filter fun item => item.variantId = "red-herring-slow-query"
  let nearMissSafeRejectionAccuracy ← rate nearMiss fun item =>
    item.abstained && item.authorizedMemoryId != some "mem-f2-pool"
  let poolRunbookNearMissAuthorizationRate ← rate nearMiss fun item => item.authorizedMemoryId == some "mem-f2-pool"
  return {
    hardNegativeCount := self.hardNegativeIds.card
    queries := scored.length
    recallAt1, recallAt5, recallAt10, precisionAt10, ndcgAt10
    novelQueries := novel.length
    abstentionAccuracy
    nearMissQueries := nearMiss.length
    nearMissSafeRejectionAccuracy, poolRunbookNearMissAuthorizationRate }

end metrics

/-- `1 / math.log2(rank + 2)` -/
noncomputable def discount (rank : Nat) : ℝ := 1 / Real.logb 2 (rank + 2)

lemma log_pos {rank : Nat} : 0 < Real.logb 2 (rank + 2) := by
  apply Real.logb_pos one_lt_two
  have nonneg : (0 : ℝ) ≤ rank := Nat.cast_nonneg _
  linarith

lemma discount_pos (rank : Nat) : 0 < discount rank := one_div_pos.mpr log_pos

/-- The discount of the source decreases. -/
lemma discount_anti : StrictAnti discount := by
  intro rank rank' less
  apply one_div_lt_one_div_of_lt log_pos
  apply Real.logb_lt_logb one_lt_two
  · positivity
  · have cast : (rank : ℝ) < rank' := Nat.cast_lt.mpr less
    linarith

/-! ## The gold memories -/

section gold

variable {gold : GoldByFamily} {results : List IncidentResult} {memories : List CorpusItem} {item : Scored}

/-- A family of the dictionary has a gold memory. -/
lemma init_golden : ∀ entry ∈ (EvaluationHarness.init memories).goldByFamily, entry.2.Nonempty := by
  induction memories using List.reverseRecOn with
  | nil => exact List.forall_mem_nil _
  | append_singleton memories item ih =>
    unfold EvaluationHarness.init
    rw [List.foldl_append]
    show ∀ entry ∈ ((EvaluationHarness.init memories).add item).goldByFamily, entry.2.Nonempty
    unfold EvaluationHarness.add
    split
    case isTrue =>
      intro entry mem
      rcases Assoc.mem_set mem with rfl | mem
      · exact Finset.insert_nonempty _ _
      · exact ih entry mem
    case isFalse =>
      split
      case isTrue => exact ih
      case isFalse => exact ih

lemma scored_gold (mem : item ∈ scored gold results) : (item.1.familyId, item.2) ∈ gold := by
  obtain ⟨result, _, here⟩ := List.mem_filterMap.mp mem
  split at here
  case isTrue => cases here
  case isFalse =>
    obtain ⟨ids, read, rfl⟩ := Option.map_eq_some_iff.mp here
    exact Assoc.mem_of_get read

end gold

/-! ## The bounds -/

section bounds

variable {K : Type} [Field K] [LinearOrder K] [IsStrictOrderedRing K] {item : Scored} {k k' : Nat}

lemma found_mono (h : k ≤ k') : found k item ⊆ found k' item := by
  apply Finset.inter_subset_inter_right
  intro memoryId mem
  rw [List.mem_toFinset] at mem ⊢
  exact (List.take_subset_take_left _ h) mem

/-- More ranks find no less. -/
lemma recallAt_mono [FloorRing K] {items : List Scored} {r r' : K} (h : k ≤ k') (sooner : recallAt k items = .ok r)
    (later : recallAt k' items = .ok r') : r ≤ r' := by
  unfold recallAt at sooner later
  split at sooner
  case isTrue => cases sooner
  case isFalse nonempty =>
    rw [if_neg nonempty] at later
    cases sooner
    cases later
    apply roundTo_mono
    apply div_le_div_of_nonneg_right _ (Nat.cast_nonneg _)
    apply Nat.cast_le.mpr
    apply List.countP_mono_left
    intro item _ hit
    exact decide_eq_true ((of_decide_eq_true hit).mono (found_mono h))

lemma recallAt_unit [FloorRing K] {items : List Scored} (nonempty : items ≠ []) :
    ∃ r : K, recallAt k items = .ok r ∧ 0 ≤ r ∧ r ≤ 1 := by
  refine ⟨_, if_neg nonempty, roundTo_unit ⟨?_, ?_⟩⟩
  · exact div_nonneg (Nat.cast_nonneg _) (Nat.cast_nonneg _)
  · exact div_le_one_of_le₀ (Nat.cast_le.mpr List.countP_le_length) (Nat.cast_nonneg _)

/-- The hits are among the gold memories, and among ten ranks. -/
lemma hits_le (distinct : item.1.retrievedMemoryIds.Nodup) :
    (item.1.retrievedMemoryIds.take 10).countP (fun memoryId => memoryId ∈ item.2) ≤ min item.2.card 10 := by
  have part : (item.1.retrievedMemoryIds.take 10).Nodup := distinct.sublist (List.take_sublist _ _)
  apply le_min
  · rw [List.countP_eq_length_filter, ← List.toFinset_card_of_nodup (part.filter _)]
    apply Finset.card_le_card
    intro memoryId mem
    rw [List.mem_toFinset, List.mem_filter] at mem
    exact of_decide_eq_true mem.2
  · exact List.countP_le_length.trans (List.length_take_le _ _)

lemma roundedMean6_unit [FloorRing K] {values : List K} {r : K} (h : ∀ x ∈ values, 0 ≤ x ∧ x ≤ 1)
    (rounded : roundedMean6 values = .ok r) : 0 ≤ r ∧ r ≤ 1 := by
  unfold roundedMean6 at rounded
  split at rounded
  case isTrue => cases rounded
  case isFalse =>
    cases rounded
    exact roundTo_unit (mean_unit h)

variable {discount : Nat → K}

omit [IsStrictOrderedRing K] in
/-- The recalls and the nDCG of the report are those of the scored results. -/
lemma retrievalMetrics_reads [FloorRing K] {self : EvaluationHarness} {results : List IncidentResult}
    {m : RetrievalMetrics K} (returned : retrievalMetrics discount self results = .ok m) :
    let scored := scored self.goldByFamily results
    recallAt 1 scored = .ok m.recallAt1 ∧ recallAt 5 scored = .ok m.recallAt5 ∧ recallAt 10 scored = .ok m.recallAt10 ∧
      roundedMean6 (scored.map (ndcg discount)) = .ok m.ndcgAt10 := by
  obtain ⟨recallAt1, recall1, returned⟩ := bind_ok returned
  obtain ⟨recallAt5, recall5, returned⟩ := bind_ok returned
  obtain ⟨recallAt10, recall10, returned⟩ := bind_ok returned
  obtain ⟨_, _, returned⟩ := bind_ok returned
  obtain ⟨ndcgAt10, averaged, returned⟩ := bind_ok returned
  obtain ⟨_, _, returned⟩ := bind_ok returned
  obtain ⟨_, _, returned⟩ := bind_ok returned
  obtain ⟨_, _, returned⟩ := bind_ok returned
  cases returned
  exact ⟨recall1, recall5, recall10, averaged⟩

lemma idealDcg_pos (pos : ∀ rank, 0 < discount rank) (golden : item.2.Nonempty) : 0 < idealDcg discount item :=
  ideal_pos pos (lt_min (Finset.card_pos.mpr golden) (by omega))

lemma ndcg_eq (pos : ∀ rank, 0 < discount rank) (golden : item.2.Nonempty) :
    ndcg discount item = dcg discount item / idealDcg discount item :=
  if_neg (idealDcg_pos pos golden).ne'

lemma ndcg_unit (anti : StrictAnti discount) (pos : ∀ rank, 0 < discount rank)
    (distinct : item.1.retrievedMemoryIds.Nodup) (golden : item.2.Nonempty) :
    0 ≤ ndcg discount item ∧ ndcg discount item ≤ 1 := by
  have ideal := idealDcg_pos pos golden
  rw [ndcg_eq pos golden]
  constructor
  · exact div_nonneg (gain_nonneg pos) ideal.le
  · exact div_le_one_of_le₀ (gain_le_ideal anti pos (hits_le distinct)) ideal.le

/-- The ranks that count are all gold. -/
lemma ndcg_eq_one (anti : StrictAnti discount) (pos : ∀ rank, 0 < discount rank)
    (distinct : item.1.retrievedMemoryIds.Nodup) (golden : item.2.Nonempty) :
    ndcg discount item = 1 ↔
      ∀ rank < min item.2.card 10, ∃ memoryId ∈ item.2, item.1.retrievedMemoryIds[rank]? = some memoryId := by
  rw [ndcg_eq pos golden, div_eq_one_iff_eq (idealDcg_pos pos golden).ne']
  unfold dcg idealDcg
  rw [gain_eq_ideal anti pos (hits_le distinct)]
  apply forall₂_congr
  intro rank less
  rw [List.getElem?_take_of_lt (by omega)]
  simp only [decide_eq_true_iff]
  exact exists_congr fun memoryId => and_comm

end bounds

/-- In the harness over any memories, with the discount of the source. -/
theorem init_ndcg_unit {memories : List CorpusItem} {results : List IncidentResult} :
    ∀ item ∈ scored (EvaluationHarness.init memories).goldByFamily results, item.1.retrievedMemoryIds.Nodup →
      0 ≤ ndcg discount item ∧ ndcg discount item ≤ 1 := by
  intro item mem distinct
  exact ndcg_unit discount_anti discount_pos distinct (init_golden _ (scored_gold mem))

/-- Where there is a scored result: the recalls lie between 0 and 1 and grow with the ranks that count, and so they are
reported; the nDCG of a query lies between 0 and 1, and is 1 exactly if the ranks that count all have a gold memory. -/
theorem retrieval_metrics_spec {K : Type} [Field K] [LinearOrder K] [IsStrictOrderedRing K] [FloorRing K]
    (discount : Nat → K) (anti : StrictAnti discount) (pos : ∀ rank, 0 < discount rank) (self : EvaluationHarness)
    (golden : ∀ entry ∈ self.goldByFamily, entry.2.Nonempty) (results : List IncidentResult)
    (nonempty : scored self.goldByFamily results ≠ [])
    (distinct : ∀ item ∈ scored self.goldByFamily results, item.1.retrievedMemoryIds.Nodup) :
    (∃ r1 r5 r10 : K, recallAt 1 (scored self.goldByFamily results) = .ok r1 ∧
      recallAt 5 (scored self.goldByFamily results) = .ok r5 ∧ recallAt 10 (scored self.goldByFamily results) = .ok r10 ∧
      0 ≤ r1 ∧ r1 ≤ r5 ∧ r5 ≤ r10 ∧ r10 ≤ 1 ∧
      ∀ m, retrievalMetrics discount self results = .ok m →
        m.recallAt1 = r1 ∧ m.recallAt5 = r5 ∧ m.recallAt10 = r10 ∧ 0 ≤ m.ndcgAt10 ∧ m.ndcgAt10 ≤ 1) ∧
    ∀ item ∈ scored self.goldByFamily results, 0 ≤ ndcg discount item ∧ ndcg discount item ≤ 1 ∧
      (ndcg discount item = 1 ↔
        ∀ rank < min item.2.card 10, ∃ memoryId ∈ item.2, item.1.retrievedMemoryIds[rank]? = some memoryId) := by
  have unit : ∀ item ∈ scored self.goldByFamily results, 0 ≤ ndcg discount item ∧ ndcg discount item ≤ 1 :=
    fun item mem => ndcg_unit anti pos (distinct item mem) (golden _ (scored_gold mem))
  constructor
  · obtain ⟨r1, recall1, low, _⟩ := @recallAt_unit K _ _ _ 1 _ _ nonempty
    obtain ⟨r5, recall5, _⟩ := @recallAt_unit K _ _ _ 5 _ _ nonempty
    obtain ⟨r10, recall10, _, high⟩ := @recallAt_unit K _ _ _ 10 _ _ nonempty
    refine ⟨r1, r5, r10, recall1, recall5, recall10, low, recallAt_mono (by omega) recall1 recall5,
      recallAt_mono (by omega) recall5 recall10, high, ?_⟩
    intro m returned
    obtain ⟨reported1, reported5, reported10, averaged⟩ := retrievalMetrics_reads returned
    cases reported1.symm.trans recall1
    cases reported5.symm.trans recall5
    cases reported10.symm.trans recall10
    exact ⟨rfl, rfl, rfl, roundedMean6_unit (List.forall_mem_map.mpr unit) averaged⟩
  · intro item mem
    exact ⟨(unit item mem).1, (unit item mem).2, ndcg_eq_one anti pos (distinct item mem) (golden _ (scored_gold mem))⟩

/-- Two queries of one family with two gold memories: the first finds both at once, the second misses at its first
rank. -/
theorem retrieval_metrics_spec_sample :
    let self : EvaluationHarness := { goldByFamily := [("F1", {"m1", "m2"})] }
    let results : List IncidentResult := [⟨"F1", "base", false, ["m2", "m1", "m9"], none⟩, ⟨"F1", "noisy", false, ["m9", "m1"], none⟩]
    let discount : Nat → ℚ := fun rank => 1 / (rank + 1)
    (scored self.goldByFamily results).map (ndcg discount) = [1, 1 / 3] ∧
      ∃ r1 r5 r10 : ℚ, recallAt 1 (scored self.goldByFamily results) = .ok r1 ∧
        recallAt 5 (scored self.goldByFamily results) = .ok r5 ∧
        recallAt 10 (scored self.goldByFamily results) = .ok r10 ∧ r1 ≤ r5 ∧ r5 ≤ r10 := by
  intro self results discount
  have anti : StrictAnti discount := by
    intro rank rank' less
    apply one_div_lt_one_div_of_lt (by positivity)
    have cast : (rank : ℚ) < rank' := Nat.cast_lt.mpr less
    linarith
  have distinct : ∀ item ∈ scored self.goldByFamily results, item.1.retrievedMemoryIds.Nodup := by decide
  obtain ⟨⟨r1, r5, r10, recall1, recall5, recall10, _, le, le', _⟩, _⟩ :=
    retrieval_metrics_spec discount anti (fun rank => by positivity) self (by decide) results (by decide) distinct
  exact ⟨by decide +kernel, r1, r5, r10, recall1, recall5, recall10, le, le'⟩

end Postmortem.Evaluation
