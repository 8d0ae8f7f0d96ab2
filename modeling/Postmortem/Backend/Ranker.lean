import Postmortem.Backend.Domain

/-!
# Recall policy

`recall.py`: the eligibility gates, the scores and the diversity-aware selection of `RecallRanker`.
Scores are `Flt`s, so a similarity that is not a number passes every `<` gate and fails every `>=`
gate, as in the source. A gate or a score that can raise returns in `Except`.
-/

namespace Postmortem

/-- A day in microseconds. -/
def day : Timestamp := 86400000000

/-- `RecallPolicy` -/
structure RecallPolicy where
  candidateMultiplier : Int := 4
  maxCandidateLimit : Int := 40
  maxEpisodes : Int := 3
  maxFacts : Int := 10
  maxRunbooks : Int := 3
  minEpisodeSimilarity : ℚ := 65 / 100
  minFactSimilarity : ℚ := 60 / 100
  minRunbookSimilarity : ℚ := 72 / 100
  minFactConfidence : ℚ := 65 / 100
  minRunbookSuccessRate : ℚ := 60 / 100
  minRunbookUsageCount : Int := 1
  minPositiveProvenance : Int := 1
  maxCounterexampleRatio : ℚ := 50 / 100
  maxEpisodeAge : Timestamp := 365 * day
  recencyHalfLife : Timestamp := 90 * day
deriving DecidableEq

/-- `RecallPolicy.candidate_limit` -/
def RecallPolicy.candidateLimit (p : RecallPolicy) (requestedK : Int) : Int :=
  min (max (max requestedK 1 * p.candidateMultiplier) 20) p.maxCandidateLimit

/-- Iteration over a value, as in `for value in metadata.get(key) or ()`. -/
def iterate (v : Json) : Except Raised (List Json) :=
  if ¬ v.truthy then .ok []
  else
    match v with
    | .arr items => .ok items
    | .str s => .ok (s.toList.map fun c => .str (String.ofList [c]))
    | .obj fields => .ok (fields.map fun f => .str f.1)
    | _ => .error ⟨.TypeError, "object is not iterable", none, none⟩

/-- `int(metadata.get(key) or 0)` -/
def countOf (rt : Runtime) (metadata : Dict) (key : String) : Except Raised Int :=
  Python.int rt ((metadata.get key).orElse (.int 0))

/-- `{str(value) for value in metadata.get(key) or ()}` -/
def textsOf (rt : Runtime) (metadata : Dict) (key : String) : Except Raised (List String) :=
  (iterate (metadata.get key)).map fun items => items.map (Python.str rt)

namespace RecallRanker

variable (rt : Runtime) (policy : RecallPolicy) (query : RecallQuery) (item : MemoryCandidate)

/-- `_scope_valid` -/
def scopeValid : Bool :=
  (item.orgId.all (· = query.orgId)) && (item.agentId.all (· = query.agentId)) &&
    item.serviceId.all (· = query.serviceId)

/-- `_temporally_valid` -/
def temporallyValid : Bool :=
  (item.validFrom.all (· ≤ query.asOf)) && (item.validTo.all (query.asOf < ·)) &&
    (item.recordedAt.all (· ≤ query.asOf)) && item.occurredAt.all (· ≤ query.asOf)

/-- `_episode_eligible` -/
def episodeEligible : Bool :=
  item.kind = .episodic && scopeValid query item && temporallyValid query item &&
    !(item.similarity.lt (.num policy.minEpisodeSimilarity)) &&
    item.occurredAt.all (query.asOf - · ≤ policy.maxEpisodeAge)

/-- `_fact_eligible` -/
def factEligible : Bool :=
  item.kind = .semantic && scopeValid query item && temporallyValid query item &&
    Flt.le (.num policy.minFactSimilarity) item.similarity &&
    Flt.le (.num policy.minFactConfidence) item.confidence

/-- The gates of `_runbook_eligible` before the metadata is read. -/
def runbookInScope : Bool :=
  item.kind = .procedural && scopeValid query item && temporallyValid query item &&
    !(item.similarity.lt (.num policy.minRunbookSimilarity)) &&
    !(item.successRate.lt (.num policy.minRunbookSuccessRate))

/-- The test on tags and signatures: an empty set applies to everything. -/
def applies (tags signatures : List String) : Bool :=
  (tags.isEmpty || tags.any query.serviceTags.contains) &&
    (signatures.isEmpty || query.errorSignature.any signatures.contains)

/-- `_runbook_eligible` -/
def runbookEligible : Except Raised Bool :=
  if ¬ runbookInScope policy query item then .ok false
  else do
    let usageCount ← countOf rt item.metadata "usage_count"
    let positive ← countOf rt item.metadata "positive_provenance_count"
    let counterexamples ← countOf rt item.metadata "counterexample_count"
    if usageCount < policy.minRunbookUsageCount then return false
    if positive < policy.minPositiveProvenance then return false
    if (counterexamples : ℚ) / (max (positive + counterexamples) 1 : Int) >
        policy.maxCounterexampleRatio then return false
    let tags ← textsOf rt item.metadata "applicable_service_tags"
    let signatures ← textsOf rt item.metadata "applicable_error_signatures"
    return applies query tags signatures

/-- `_recency` -/
def recency (timestamp : Option Timestamp) : Except Raised ℚ :=
  match timestamp with
  | none => .ok 0
  | some t =>
    if policy.recencyHalfLife = 0 then
      .error ⟨.other "ZeroDivisionError", "float division by zero", none, none⟩
    else
      let age : ℚ := (max (query.asOf - t) 0 : Int)
      .ok (rt.exp (-(69314718056 / 100000000000) * age / policy.recencyHalfLife))

/-- `_runbook_scope_score` -/
def runbookScopeScore (tags signatures : List String) : ℚ :=
  let tagScore : ℚ :=
    if tags.any query.serviceTags.contains then 1 else if tags.isEmpty then 1 / 2 else 0
  let signatureScore : ℚ :=
    if query.errorSignature.any signatures.contains then 1
    else if signatures.isEmpty then 1 / 2 else 0
  (tagScore + signatureScore) / 2

/-- `_ranked` -/
def ranked (score : Flt) (metadata : Dict) : MemoryCandidate :=
  { item with rankingScore := score, metadata := item.metadata.update metadata }

/-- The component `successful_outcome`. -/
def successful : ℚ := if (item.metadata.get "outcome").pyEq (.str "success") then 1 else 0

/-- The flag `actionable` of an episode. -/
def actionable : Bool :=
  successful item ≠ 0 &&
    (item.runbookId.isSome || (item.metadata.get "action_id").truthy ||
      (item.metadata.get "successful_action").truthy)

/-- `_score_episode` -/
def scoreEpisode : Except Raised MemoryCandidate := do
  let recency ← recency rt policy query item.occurredAt
  let scope : ℚ := if item.serviceId = some query.serviceId then 1 else 1 / 2
  let score := .num (65 / 100) * item.similarity + .num (20 / 100 * recency) +
    .num (10 / 100 * successful item) + .num (5 / 100 * scope)
  return ranked item score [
    ("actionable", .bool (actionable item)),
    ("rank_components", .obj [
      ("similarity", .float item.similarity),
      ("recency", .float (.num recency)),
      ("successful_outcome", .float (.num (successful item))),
      ("scope", .float (.num scope))])]

/-- `_score_fact` -/
def scoreFact : Except Raised MemoryCandidate := do
  let recency ← recency rt policy query item.recordedAt
  let provenance : ℚ := (min item.provenanceIds.length 3 : Nat) / 3
  let score := .num (60 / 100) * item.similarity + .num (25 / 100) * item.confidence +
    .num (10 / 100 * recency) + .num (5 / 100 * provenance)
  return ranked item score [
    ("actionable", .bool false),
    ("rank_components", .obj [
      ("similarity", .float item.similarity),
      ("confidence", .float item.confidence),
      ("recency", .float (.num recency)),
      ("provenance", .float (.num provenance))])]

/-- `_datetime(metadata.get("last_used_at"))` -/
def lastUsedAt : Except Raised (Option Timestamp) :=
  let v := item.metadata.get "last_used_at"
  if ¬ v.truthy then .ok none
  else
    match rt.fromIsoformat (Python.str rt v) with
    | some t => .ok (some t)
    | none => .error ⟨.ValueError, "Invalid isoformat string: " ++ rt.repr v, none, none⟩

/-- `_score_runbook` -/
def scoreRunbook : Except Raised MemoryCandidate := do
  let used ← lastUsedAt rt item
  let recency ← recency rt policy query (used.or item.recordedAt)
  let positive ← countOf rt item.metadata "positive_provenance_count"
  let provenance : ℚ := (min positive 3 : Int) / 3
  let tags ← textsOf rt item.metadata "applicable_service_tags"
  let signatures ← textsOf rt item.metadata "applicable_error_signatures"
  let scope := runbookScopeScore query tags signatures
  let score := .num (55 / 100) * item.similarity + .num (25 / 100) * item.successRate +
    .num (10 / 100 * recency) + .num (5 / 100 * provenance) + .num (5 / 100 * scope)
  return ranked item score [
    ("actionable", .bool true),
    ("provenance_verified", .bool true),
    ("rank_components", .obj [
      ("similarity", .float item.similarity),
      ("success_rate", .float item.successRate),
      ("recency", .float (.num recency)),
      ("provenance", .float (.num provenance)),
      ("scope", .float (.num scope))])]

/-- `a < b` on the sort key `(ranking_score, similarity, str(memory_id))`. -/
def keyLt (a b : MemoryCandidate) : Bool :=
  if ¬ a.rankingScore.eq b.rankingScore then a.rankingScore.lt b.rankingScore
  else if ¬ a.similarity.eq b.similarity then a.similarity.lt b.similarity
  else a.memoryId.text < b.memoryId.text

/-- `sorted(items, key=…, reverse=True)`. -/
def sortedDescending (items : List MemoryCandidate) : List MemoryCandidate :=
  items.insertionSort fun a b => keyLt a b = false

/-- The loop of `_diverse`, after `count` items with the keys `seen` were selected. -/
def select {κ : Type} [DecidableEq κ] (limit : Int) (key : MemoryCandidate → κ) :
    List MemoryCandidate → List κ → Nat → List MemoryCandidate
  | [], _, _ => []
  | item :: rest, seen, count =>
    if key item ∈ seen then select limit key rest seen count
    else if limit ≤ count + 1 then [item]
    else item :: select limit key rest (key item :: seen) (count + 1)

/-- `_diverse` -/
def diverse {κ : Type} [DecidableEq κ] (items : List MemoryCandidate) (limit : Int)
    (key : MemoryCandidate → κ) : List MemoryCandidate :=
  select limit key (sortedDescending items) [] 0

/-- The diversity key of an episode. -/
def episodeKey : String :=
  Python.str rt (((item.metadata.get "source_case_id").orElse
    (item.metadata.get "incident_id")).orElse (.str item.memoryId.text))

/-- The diversity key of a fact. -/
def factKey : String × String :=
  (Python.str rt (Dict.getD item.metadata "subject" (.str "")),
    Python.str rt (Dict.getD item.metadata "predicate" (.str "")))

/-- The diversity key of a runbook. -/
def runbookKey : String :=
  Python.str rt ((item.metadata.get "name").orElse (.str item.memoryId.text))

/-- The runbooks that are eligible, in order. -/
def eligibleRunbooks : List MemoryCandidate → Except Raised (List MemoryCandidate)
  | [] => .ok []
  | item :: rest => do
    let ok ← runbookEligible rt policy query item
    if ok then
      let item ← scoreRunbook rt policy query item
      return item :: (← eligibleRunbooks rest)
    else eligibleRunbooks rest

/-- The diagnostics of a ranked recall. -/
def diagnostics (episodes facts runbooks acceptedEpisodes acceptedFacts acceptedRunbooks rankedFacts :
    List MemoryCandidate) : Dict :=
  let counts (a b c : List MemoryCandidate) : Json := .obj [
    ("episodic", .int a.length), ("semantic", .int b.length), ("procedural", .int c.length)]
  let having (key : String) : Json :=
    .int (rankedFacts.countP fun item => item.metadata.get key ≠ .null)
  [("mode", .str "memory"),
    ("candidate_counts", counts episodes facts runbooks),
    ("eligible_counts", counts acceptedEpisodes acceptedFacts acceptedRunbooks),
    ("thresholds", .obj [
      ("episode_similarity", .float (.num policy.minEpisodeSimilarity)),
      ("fact_similarity", .float (.num policy.minFactSimilarity)),
      ("runbook_similarity", .float (.num policy.minRunbookSimilarity)),
      ("fact_confidence", .float (.num policy.minFactConfidence)),
      ("runbook_success_rate", .float (.num policy.minRunbookSuccessRate)),
      ("positive_provenance", .int policy.minPositiveProvenance)]),
    ("bitemporal", .obj [
      ("facts_with_predecessor", having "superseded_predecessor"),
      ("stale_facts_returned", having "superseded_by")])]

/-- `rank` -/
def rank (episodes facts runbooks : List MemoryCandidate) : Except Raised RecallBundle :=
  if query.coldStart then
    .ok {
      coldStart := true
      diagnostics := [("mode", .str "cold_start"), ("database_queries", .int 0)] }
  else do
    let acceptedEpisodes ←
      (episodes.filter (episodeEligible policy query)).mapM (scoreEpisode rt policy query)
    let acceptedFacts ← (facts.filter (factEligible policy query)).mapM (scoreFact rt policy query)
    let acceptedRunbooks ← eligibleRunbooks rt policy query runbooks
    let rankedFacts := diverse acceptedFacts policy.maxFacts (factKey rt)
    return {
      episodes := diverse acceptedEpisodes (min query.k policy.maxEpisodes) (episodeKey rt)
      facts := rankedFacts
      runbooks := diverse acceptedRunbooks policy.maxRunbooks (runbookKey rt)
      diagnostics := diagnostics policy episodes facts runbooks acceptedEpisodes acceptedFacts
        acceptedRunbooks rankedFacts }

end RecallRanker

end Postmortem
