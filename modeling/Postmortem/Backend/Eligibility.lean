import Postmortem.Backend.Ranker

/-!
# The gates of recall

What `RecallRanker.rank` lets through. `EpisodeGate`, `FactGate` and `RunbookGate` are the conditions a
candidate has to meet, each with a minimum that a number reaches or not. The gate of the facts asks for
the minimum; those of the episodes and of the runbooks only refuse what is below it, and nothing is below
or above not-a-number (`episodeEligible_iff`, `factEligible_iff`, `runbookEligible_iff`). So a candidate of
which the similarity is not a number is returned, and `gates_hold_iff` says that nothing else goes wrong.
-/

namespace Postmortem

/-- The number reaches the minimum. -/
def Flt.AtLeast (minimum : ℚ) (x : Flt) : Prop := ∃ q, x = .num q ∧ minimum ≤ q

lemma Flt.le_iff {m : ℚ} {x : Flt} : Flt.le (.num m) x = true ↔ x.AtLeast m := by
  cases x with
  | nan => simp [Flt.le, Flt.AtLeast]
  | num q => simp [Flt.le, Flt.AtLeast]

/-- What is not below a minimum reaches it or is not a number. -/
lemma Flt.not_lt_iff {m : ℚ} {x : Flt} : x.lt (.num m) = false ↔ x.AtLeast m ∨ x = .nan := by
  cases x with
  | nan => simp [Flt.lt]
  | num q => simp [Flt.lt, Flt.AtLeast]

namespace RecallRanker

/-- The candidate is the query's and is valid and known at `as_of`. -/
structure InScope (query : RecallQuery) (c : MemoryCandidate) : Prop where
  orgId : ∀ o, c.orgId = some o → o = query.orgId
  agentId : ∀ a, c.agentId = some a → a = query.agentId
  serviceId : ∀ s, c.serviceId = some s → s = query.serviceId
  validFrom : ∀ t, c.validFrom = some t → t ≤ query.asOf
  validTo : ∀ t, c.validTo = some t → query.asOf < t
  recordedAt : ∀ t, c.recordedAt = some t → t ≤ query.asOf
  occurredAt : ∀ t, c.occurredAt = some t → t ≤ query.asOf

/-- What an episode has to meet. -/
structure EpisodeGate (policy : RecallPolicy) (query : RecallQuery) (c : MemoryCandidate) : Prop where
  kind : c.kind = .episodic
  scope : InScope query c
  similarity : c.similarity.AtLeast policy.minEpisodeSimilarity

/-- What a fact has to meet. -/
structure FactGate (policy : RecallPolicy) (query : RecallQuery) (c : MemoryCandidate) : Prop where
  kind : c.kind = .semantic
  scope : InScope query c
  similarity : c.similarity.AtLeast policy.minFactSimilarity
  confidence : c.confidence.AtLeast policy.minFactConfidence

/-- The track record and the applicability of a runbook. -/
structure Proven (rt : Runtime) (policy : RecallPolicy) (query : RecallQuery) (c : MemoryCandidate) :
    Prop where
  usage : ∃ n, countOf rt c.metadata "usage_count" = .ok n ∧ policy.minRunbookUsageCount ≤ n
  provenance : ∃ positive counterexamples,
    countOf rt c.metadata "positive_provenance_count" = .ok positive ∧
    countOf rt c.metadata "counterexample_count" = .ok counterexamples ∧
    policy.minPositiveProvenance ≤ positive ∧
    (counterexamples : ℚ) / (max (positive + counterexamples) 1 : Int) ≤ policy.maxCounterexampleRatio
  tags : ∃ tags, textsOf rt c.metadata "applicable_service_tags" = .ok tags ∧
    (tags = [] ∨ ∃ t ∈ tags, t ∈ query.serviceTags)
  signatures : ∃ signatures, textsOf rt c.metadata "applicable_error_signatures" = .ok signatures ∧
    (signatures = [] ∨ ∃ s ∈ signatures, query.errorSignature = some s)

/-- What a runbook has to meet. -/
structure RunbookGate (rt : Runtime) (policy : RecallPolicy) (query : RecallQuery) (c : MemoryCandidate) :
    Prop where
  kind : c.kind = .procedural
  scope : InScope query c
  similarity : c.similarity.AtLeast policy.minRunbookSimilarity
  successRate : c.successRate.AtLeast policy.minRunbookSuccessRate
  proven : Proven rt policy query c

section gates

variable {rt : Runtime} {policy : RecallPolicy} {query : RecallQuery} {c item : MemoryCandidate}

lemma all_iff {α : Type} {x : Option α} {p : α → Bool} : x.all p = true ↔ ∀ a, x = some a → p a = true := by
  cases x with
  | none => simp
  | some a => simp

lemma scope_iff : (scopeValid query c && temporallyValid query c) = true ↔ InScope query c := by
  unfold scopeValid temporallyValid
  simp only [Bool.and_eq_true, all_iff, decide_eq_true_iff]
  constructor
  · intro ⟨⟨⟨org, agent⟩, service⟩, ⟨⟨begun, ended⟩, recorded⟩, occurred⟩
    exact ⟨org, agent, service, begun, ended, recorded, occurred⟩
  · intro h
    exact ⟨⟨⟨h.orgId, h.agentId⟩, h.serviceId⟩,
      ⟨⟨h.validFrom, h.validTo⟩, h.recordedAt⟩, h.occurredAt⟩

lemma episodeEligible_iff : episodeEligible policy query c = true ↔
    c.kind = .episodic ∧ InScope query c ∧
      (c.similarity.AtLeast policy.minEpisodeSimilarity ∨ c.similarity = .nan) ∧
      ∀ t, c.occurredAt = some t → query.asOf - t ≤ policy.maxEpisodeAge := by
  rw [← scope_iff, ← Flt.not_lt_iff]
  unfold episodeEligible
  simp only [Bool.and_eq_true, all_iff, decide_eq_true_iff, Bool.not_eq_true', and_assoc]

lemma factEligible_iff : factEligible policy query c = true ↔ FactGate policy query c := by
  unfold factEligible
  simp only [Bool.and_eq_true, decide_eq_true_iff, Flt.le_iff]
  constructor
  · intro ⟨⟨⟨⟨kind, scope⟩, time⟩, similarity⟩, confidence⟩
    exact ⟨kind, scope_iff.mp (Bool.and_eq_true_iff.mpr ⟨scope, time⟩), similarity, confidence⟩
  · intro h
    obtain ⟨scope, time⟩ := Bool.and_eq_true_iff.mp (scope_iff.mpr h.scope)
    exact ⟨⟨⟨⟨h.kind, scope⟩, time⟩, h.similarity⟩, h.confidence⟩

lemma runbookInScope_iff : runbookInScope policy query c = true ↔
    c.kind = .procedural ∧ InScope query c ∧
      (c.similarity.AtLeast policy.minRunbookSimilarity ∨ c.similarity = .nan) ∧
      (c.successRate.AtLeast policy.minRunbookSuccessRate ∨ c.successRate = .nan) := by
  rw [← scope_iff, ← Flt.not_lt_iff, ← Flt.not_lt_iff]
  unfold runbookInScope
  simp only [Bool.and_eq_true, decide_eq_true_iff, Bool.not_eq_true', and_assoc]

lemma applies_iff {tags signatures : List String} : applies query tags signatures = true ↔
    (tags = [] ∨ ∃ t ∈ tags, t ∈ query.serviceTags) ∧
      (signatures = [] ∨ ∃ s ∈ signatures, query.errorSignature = some s) := by
  unfold applies
  rw [Bool.and_eq_true, Bool.or_eq_true, Bool.or_eq_true]
  cases query.errorSignature with
  | none => simp
  | some s => simp

lemma runbookEligible_iff : runbookEligible rt policy query c = .ok true ↔
    runbookInScope policy query c = true ∧ Proven rt policy query c := by
  unfold runbookEligible
  constructor
  · intro h
    split at h
    case isTrue => cases h
    case isFalse scope =>
      obtain ⟨n, usage, h⟩ := bind_ok h
      obtain ⟨positive, supported, h⟩ := bind_ok h
      obtain ⟨counterexamples, countered, h⟩ := bind_ok h
      split at h
      case isTrue => cases h
      case isFalse used =>
        split at h
        case isTrue => cases h
        case isFalse enough =>
          split at h
          case isTrue => cases h
          case isFalse ratio =>
            obtain ⟨tags, et, h⟩ := bind_ok h
            obtain ⟨signatures, es, h⟩ := bind_ok h
            obtain ⟨tagged, signed⟩ := applies_iff.mp (Except.ok.inj h)
            exact ⟨not_not.mp scope, ⟨n, usage, not_lt.mp used⟩,
              ⟨positive, counterexamples, supported, countered, not_lt.mp enough, not_lt.mp ratio⟩,
              ⟨tags, et, tagged⟩, ⟨signatures, es, signed⟩⟩
  · intro ⟨scope, proven⟩
    obtain ⟨n, usage, used⟩ := proven.usage
    obtain ⟨positive, counterexamples, supported, countered, enough, ratio⟩ := proven.provenance
    obtain ⟨tags, et, tagged⟩ := proven.tags
    obtain ⟨signatures, es, signed⟩ := proven.signatures
    rw [if_neg (not_not.mpr scope), usage, supported, countered, et, es]
    show (if n < policy.minRunbookUsageCount then Except.ok false
      else if positive < policy.minPositiveProvenance then .ok false
      else if (counterexamples : ℚ) / (max (positive + counterexamples) 1 : Int) >
        policy.maxCounterexampleRatio then .ok false
      else .ok (applies query tags signatures)) = .ok true
    rw [if_neg (not_lt.mpr used), if_neg (not_lt.mpr enough), if_neg (not_lt.mpr ratio),
      applies_iff.mpr ⟨tagged, signed⟩]

end gates

/-! ## What is returned -/

/-- The item is the candidate with its score and what explains it. -/
def RankedFrom (c item : MemoryCandidate) : Prop := ∃ score explained, item = ranked c score explained

section ranking

variable {rt : Runtime} {policy : RecallPolicy} {query : RecallQuery} {c item : MemoryCandidate}
  {episodes facts runbooks : List MemoryCandidate}

lemma scoreEpisode_ranked (h : scoreEpisode rt policy query c = .ok item) : RankedFrom c item := by
  obtain ⟨recency, _, e⟩ := bind_ok h
  cases e
  exact ⟨_, _, rfl⟩

lemma scoreFact_ranked (h : scoreFact rt policy query c = .ok item) : RankedFrom c item := by
  obtain ⟨recency, _, e⟩ := bind_ok h
  cases e
  exact ⟨_, _, rfl⟩

lemma scoreRunbook_ranked (h : scoreRunbook rt policy query c = .ok item) : RankedFrom c item := by
  obtain ⟨_, _, h⟩ := bind_ok h
  obtain ⟨_, _, h⟩ := bind_ok h
  obtain ⟨_, _, h⟩ := bind_ok h
  obtain ⟨_, _, h⟩ := bind_ok h
  obtain ⟨_, _, e⟩ := bind_ok h
  cases e
  exact ⟨_, _, rfl⟩

lemma select_subset {κ : Type} [DecidableEq κ] {limit : Int} {key : MemoryCandidate → κ}
    {items seen count x} (h : x ∈ select limit key items seen count) : x ∈ items := by
  induction items generalizing seen count with
  | nil => cases h
  | cons item rest ih =>
    unfold select at h
    split at h
    · exact List.mem_cons_of_mem _ (ih h)
    · split at h
      · cases List.mem_singleton.mp h
        exact List.mem_cons_self
      · rcases List.mem_cons.mp h with rfl | h
        · exact List.mem_cons_self
        · exact List.mem_cons_of_mem _ (ih h)

lemma diverse_subset {κ : Type} [DecidableEq κ] {limit : Int} {key : MemoryCandidate → κ} {items x}
    (h : x ∈ diverse items limit key) : x ∈ items :=
  (List.mem_insertionSort _).mp (select_subset h)

lemma diverse_singleton {κ : Type} [DecidableEq κ] {limit : Int} {key : MemoryCandidate → κ} :
    diverse [item] limit key = [item] := by
  show select limit key [item] [] 0 = [item]
  unfold select
  rw [if_neg List.not_mem_nil]
  split <;> rfl

/-- The runbooks that are scored passed the gate. -/
lemma eligibleRunbooks_spec {items items'} (h : eligibleRunbooks rt policy query items = .ok items') :
    ∀ x ∈ items', ∃ c ∈ items, runbookEligible rt policy query c = .ok true ∧
      scoreRunbook rt policy query c = .ok x := by
  induction items generalizing items' with
  | nil =>
    cases h
    simp
  | cons c rest ih =>
    unfold eligibleRunbooks at h
    obtain ⟨eligible, gate, h⟩ := bind_ok h
    split at h
    case isTrue passed =>
      obtain ⟨scored, hs, h⟩ := bind_ok h
      obtain ⟨tail, ht, e⟩ := bind_ok h
      cases e
      intro x hx
      rcases List.mem_cons.mp hx with rfl | hx
      · exact ⟨c, List.mem_cons_self, passed ▸ gate, hs⟩
      · obtain ⟨c', hc, e⟩ := ih ht x hx
        exact ⟨c', List.mem_cons_of_mem _ hc, e⟩
    case isFalse =>
      intro x hx
      obtain ⟨c', hc, e⟩ := ih h x hx
      exact ⟨c', List.mem_cons_of_mem _ hc, e⟩

/-- A cold start returns nothing. -/
lemma rank_cold {bundle} (cold : query.coldStart = true)
    (h : rank rt policy query episodes facts runbooks = .ok bundle) :
    bundle.episodes = [] ∧ bundle.facts = [] ∧ bundle.runbooks = [] := by
  unfold rank at h
  rw [if_pos cold] at h
  cases h
  exact ⟨rfl, rfl, rfl⟩

/-- Every returned item is a candidate that passed its gate, scored. -/
lemma rank_spec {bundle} (h : rank rt policy query episodes facts runbooks = .ok bundle) :
    (∀ item ∈ bundle.episodes, ∃ c ∈ episodes, episodeEligible policy query c = true ∧
      scoreEpisode rt policy query c = .ok item) ∧
    (∀ item ∈ bundle.facts, ∃ c ∈ facts, factEligible policy query c = true ∧
      scoreFact rt policy query c = .ok item) ∧
    ∀ item ∈ bundle.runbooks, ∃ c ∈ runbooks, runbookEligible rt policy query c = .ok true ∧
      scoreRunbook rt policy query c = .ok item := by
  by_cases cold : query.coldStart = true
  · obtain ⟨episodes, facts, runbooks⟩ := rank_cold cold h
    rw [episodes, facts, runbooks]
    exact ⟨List.forall_mem_nil _, List.forall_mem_nil _, List.forall_mem_nil _⟩
  · unfold rank at h
    rw [if_neg cold] at h
    obtain ⟨acceptedEpisodes, he, h⟩ := bind_ok h
    obtain ⟨acceptedFacts, hf, h⟩ := bind_ok h
    obtain ⟨acceptedRunbooks, hr, e⟩ := bind_ok h
    cases e
    refine ⟨fun item mem => ?_, fun item mem => ?_, fun item mem => ?_⟩
    · obtain ⟨c, hc, scored⟩ := (mapM_ok he).1 _ (diverse_subset mem)
      obtain ⟨hc, eligible⟩ := List.mem_filter.mp hc
      exact ⟨c, hc, eligible, scored⟩
    · obtain ⟨c, hc, scored⟩ := (mapM_ok hf).1 _ (diverse_subset mem)
      obtain ⟨hc, eligible⟩ := List.mem_filter.mp hc
      exact ⟨c, hc, eligible, scored⟩
    · exact eligibleRunbooks_spec hr _ (diverse_subset mem)

/-- An episode that passes its gate is returned where it is the only candidate. -/
lemma rank_episode (hot : query.coldStart = false) (eligible : episodeEligible policy query c = true)
    (scored : scoreEpisode rt policy query c = .ok item) :
    ∃ bundle, rank rt policy query [c] [] [] = .ok bundle ∧ bundle.episodes = [item] := by
  have filtered : [c].filter (episodeEligible policy query) = [c] := by simp [eligible]
  have accepted : [c].mapM (scoreEpisode rt policy query) = .ok [item] := by
    rw [List.mapM_cons, scored]
    rfl
  unfold rank
  rw [hot, if_neg Bool.false_ne_true, filtered, accepted]
  exact ⟨_, rfl, diverse_singleton⟩

/-- A runbook that passes its gate is returned where it is the only candidate. -/
lemma rank_runbook (hot : query.coldStart = false) (eligible : runbookEligible rt policy query c = .ok true)
    (scored : scoreRunbook rt policy query c = .ok item) :
    ∃ bundle, rank rt policy query [] [] [c] = .ok bundle ∧ bundle.runbooks = [item] := by
  have accepted : eligibleRunbooks rt policy query [c] = .ok [item] := by
    unfold eligibleRunbooks
    rw [eligible]
    show (scoreRunbook rt policy query c >>= fun item =>
      eligibleRunbooks rt policy query [] >>= fun rest => Except.ok (item :: rest)) = _
    rw [scored]
    rfl
  unfold rank
  rw [hot, if_neg Bool.false_ne_true, accepted]
  exact ⟨_, rfl, diverse_singleton⟩

end ranking

end RecallRanker

open RecallRanker

/-- Every item that the ranker returns is a candidate of its kind that meets the conditions. -/
def GatesKept (rt : Runtime) (policy : RecallPolicy) (query : RecallQuery)
    (episodes facts runbooks : List MemoryCandidate) : Prop :=
  ∀ bundle, rank rt policy query episodes facts runbooks = .ok bundle →
    (∀ item ∈ bundle.episodes, ∃ c ∈ episodes, RankedFrom c item ∧ EpisodeGate policy query c) ∧
    (∀ item ∈ bundle.facts, ∃ c ∈ facts, RankedFrom c item ∧ FactGate policy query c) ∧
    ∀ item ∈ bundle.runbooks, ∃ c ∈ runbooks, RankedFrom c item ∧
      RecallRanker.RunbookGate rt policy query c

/-- No candidate passes its gate and is scored where its similarity or its success rate is not a
number. -/
structure Numeric (rt : Runtime) (policy : RecallPolicy) (query : RecallQuery)
    (episodes runbooks : List MemoryCandidate) : Prop where
  episodes : ∀ c ∈ episodes, ∀ item, episodeEligible policy query c = true →
    scoreEpisode rt policy query c = .ok item → c.similarity ≠ .nan
  runbooks : ∀ c ∈ runbooks, ∀ item, runbookEligible rt policy query c = .ok true →
    scoreRunbook rt policy query c = .ok item → c.similarity ≠ .nan ∧ c.successRate ≠ .nan

section gated

variable {rt : Runtime} {policy : RecallPolicy} {query : RecallQuery}
  {episodes facts runbooks : List MemoryCandidate}

lemma gatesKept_of_numeric (h : Numeric rt policy query episodes runbooks) :
    GatesKept rt policy query episodes facts runbooks := by
  intro bundle ranked
  obtain ⟨fromEpisode, fromFact, fromRunbook⟩ := rank_spec ranked
  refine ⟨fun item mem => ?_, fun item mem => ?_, fun item mem => ?_⟩
  · obtain ⟨c, hc, eligible, scored⟩ := fromEpisode item mem
    obtain ⟨kind, scope, similarity, _⟩ := episodeEligible_iff.mp eligible
    have number := h.episodes c hc item eligible scored
    exact ⟨c, hc, scoreEpisode_ranked scored, kind, scope, similarity.resolve_right number⟩
  · obtain ⟨c, hc, eligible, scored⟩ := fromFact item mem
    exact ⟨c, hc, scoreFact_ranked scored, factEligible_iff.mp eligible⟩
  · obtain ⟨c, hc, eligible, scored⟩ := fromRunbook item mem
    obtain ⟨inScope, proven⟩ := runbookEligible_iff.mp eligible
    obtain ⟨kind, scope, similarity, successRate⟩ := runbookInScope_iff.mp inScope
    obtain ⟨number, rate⟩ := h.runbooks c hc item eligible scored
    exact ⟨c, hc, scoreRunbook_ranked scored, kind, scope, similarity.resolve_right number,
      successRate.resolve_right rate, proven⟩

/-- An episode that is returned alone is measured, where its gate is kept. -/
lemma GatesKept.episode {c item} (gated : GatesKept rt policy query [c] [] []) (hot : query.coldStart = false)
    (eligible : episodeEligible policy query c = true) (scored : scoreEpisode rt policy query c = .ok item) :
    c.similarity ≠ .nan := by
  obtain ⟨bundle, ranked, returned⟩ := rank_episode hot eligible scored
  obtain ⟨c', hc, _, gate⟩ := (gated bundle ranked).1 item (by simp [returned])
  rw [List.mem_singleton.mp hc] at gate
  obtain ⟨q, number, _⟩ := gate.similarity
  simp [number]

/-- A runbook that is returned alone is measured, where its gate is kept. -/
lemma GatesKept.runbook {c item} (gated : GatesKept rt policy query [] [] [c]) (hot : query.coldStart = false)
    (eligible : runbookEligible rt policy query c = .ok true)
    (scored : scoreRunbook rt policy query c = .ok item) : c.similarity ≠ .nan ∧ c.successRate ≠ .nan := by
  obtain ⟨bundle, ranked, returned⟩ := rank_runbook hot eligible scored
  obtain ⟨c', hc, _, gate⟩ := (gated bundle ranked).2.2 item (by simp [returned])
  rw [List.mem_singleton.mp hc] at gate
  obtain ⟨q, number, _⟩ := gate.similarity
  obtain ⟨q', rate, _⟩ := gate.successRate
  exact ⟨by simp [number], by simp [rate]⟩

end gated

/-- The gates of recall hold exactly of numbers: whatever tuples are made of some candidates, every
returned item meets the conditions if and only if none of these candidates passes its gate with a
similarity or, for a runbook, a success rate that is not a number. A cold start returns nothing. -/
theorem gates_hold_iff (rt : Runtime) (policy : RecallPolicy) (query : RecallQuery)
    (episodes facts runbooks : List MemoryCandidate) :
    (∀ es fs rs, es ⊆ episodes → fs ⊆ facts → rs ⊆ runbooks → GatesKept rt policy query es fs rs) ↔
      query.coldStart = true ∨ Numeric rt policy query episodes runbooks := by
  constructor
  · intro gated
    rcases Bool.eq_false_or_eq_true query.coldStart with cold | hot
    · exact .inl cold
    refine .inr ⟨fun c hc item eligible scored => ?_, fun c hc item eligible scored => ?_⟩
    · have alone := gated [c] [] [] (by simpa using hc) (List.nil_subset _) (List.nil_subset _)
      exact alone.episode hot eligible scored
    · have alone := gated [] [] [c] (List.nil_subset _) (List.nil_subset _) (by simpa using hc)
      exact alone.runbook hot eligible scored
  · intro h es fs rs hes hfs hrs
    rcases h with cold | numeric
    · intro bundle ranked
      obtain ⟨episodes, facts, runbooks⟩ := rank_cold cold ranked
      rw [episodes, facts, runbooks]
      exact ⟨List.forall_mem_nil _, List.forall_mem_nil _, List.forall_mem_nil _⟩
    · exact gatesKept_of_numeric ⟨fun c hc => numeric.episodes c (hes hc), fun c hc => numeric.runbooks c (hrs hc)⟩

namespace Sample

/-- A query of an agent. -/
def recallQuery : RecallQuery where
  orgId := .sample 1
  agentId := .sample 2
  serviceId := .sample 3
  text := "errors"
  embedding := []
  asOf := 10000000

/-- An episode with an embedding of zeros, whose cosine distance is not a number. -/
def unmeasured : MemoryCandidate where
  memoryId := .sample 4
  kind := .episodic
  content := "deploy of v2"
  similarity := .nan
  orgId := some (.sample 1)

/-- A runbook with such an embedding. -/
def unmeasuredRunbook : MemoryCandidate where
  memoryId := .sample 5
  kind := .procedural
  content := "rollback"
  similarity := .nan
  successRate := 1
  metadata := [("usage_count", .int 1), ("positive_provenance_count", .int 1)]

end Sample

/-- An episode and a runbook whose similarity is not a number pass the gates, with the default policy. -/
theorem unmeasured_returned :
    ¬ GatesKept .sample {} Sample.recallQuery [Sample.unmeasured] [] [] ∧
    ¬ GatesKept .sample {} Sample.recallQuery [] [] [Sample.unmeasuredRunbook] := by
  refine ⟨fun gated => ?_, fun gated => ?_⟩
  · obtain ⟨item, scored⟩ : ∃ item, scoreEpisode .sample {} Sample.recallQuery Sample.unmeasured =
      .ok item := ⟨_, rfl⟩
    exact gated.episode rfl (by decide +kernel) scored rfl
  · obtain ⟨item, scored⟩ : ∃ item, scoreRunbook .sample {} Sample.recallQuery
      Sample.unmeasuredRunbook = .ok item := ⟨_, rfl⟩
    exact (gated.runbook rfl (by decide +kernel) scored).1 rfl

end Postmortem
