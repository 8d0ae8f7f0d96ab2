import Postmortem.Backend.Eligibility
import Postmortem.Backend.RecalledOutcomes

/-!
# Who competes for the candidates of a recall

`EPISODIC_RECALL_SQL` takes the nearest rows of the organization and the agent first and asks for the
service afterwards, so the episodes of every service compete for the `candidate_limit` places. `Recallable`
is an episode that passes whatever is asked of it outside of that limit. With an exact search it is among the
candidates if at most `candidate_limit` rows, itself included, are as near as it
(`AnnSearch.IsExact.picks`), and then the recall returns an episode.
-/

namespace Postmortem

/-! ## Exact search -/

/-- The search returns as many rows as it may, and the rows it leaves out are not nearer than one it
returns. -/
structure AnnSearch.IsExact (rt : Runtime) (ann : AnnSearch) : Prop where
  length : ∀ {α : Type} (e : α → Embedding) (q : Embedding) (n : Nat) (l : List α),
    (ann.pick e q n l).length = min n l.length
  nearest : ∀ {α : Type} (e : α → Embedding) (q : Embedding) (n : Nat) (l : List α),
    ∃ rest, (ann.pick e q n l ++ rest).Perm l ∧ ∀ x ∈ ann.pick e q n l, ∀ y ∈ rest,
      Flt.lt (rt.cosineDistance (e y) q) (rt.cosineDistance (e x) q) = false

/-- The rows that are nearer than a row at the distance `d`. -/
def nearer {α : Type} (rt : Runtime) (e : α → Embedding) (q : Embedding) (d : Flt) (l : List α) : Nat :=
  l.countP fun y => Flt.lt (rt.cosineDistance (e y) q) d

/-- The rows that are as near as it or nearer. -/
def asNear {α : Type} (rt : Runtime) (e : α → Embedding) (q : Embedding) (d : Flt) (l : List α) : Nat :=
  l.countP fun y => !Flt.lt d (rt.cosineDistance (e y) q)

lemma Flt.lt_irrefl {x : Flt} : Flt.lt x x = false := by
  cases x with
  | nan => rfl
  | num q => simp [Flt.lt]

section exact

variable {rt : Runtime} {ann : AnnSearch} {α : Type} {e : α → Embedding} {q : Embedding} {n : Nat}
  {l : List α} {x : α}

/-- A row is returned if at most `n` rows, itself included, are as near. -/
lemma AnnSearch.IsExact.picks (h : ann.IsExact rt) (mem : x ∈ l)
    (few : asNear rt e q (rt.cosineDistance (e x) q) l ≤ n) : x ∈ ann.pick e q n l := by
  obtain ⟨rest, perm, nearest⟩ := h.nearest e q n l
  rcases List.mem_append.mp (perm.mem_iff.mpr mem) with picked | left
  · exact picked
  exfalso
  -- every returned row and `x` itself are as near as `x`
  have returned : asNear rt e q (rt.cosineDistance (e x) q) (ann.pick e q n l) = (ann.pick e q n l).length := by
    apply List.countP_eq_length.mpr
    intro y hy
    rw [nearest y hy x left]
    rfl
  have itself : 0 < asNear rt e q (rt.cosineDistance (e x) q) rest := by
    apply List.countP_pos_iff.mpr
    exact ⟨x, left, by rw [Flt.lt_irrefl]; rfl⟩
  have counted : asNear rt e q (rt.cosineDistance (e x) q) (ann.pick e q n l ++ rest) = asNear rt e q _ l :=
    perm.countP_eq _
  have parts : asNear rt e q (rt.cosineDistance (e x) q) (ann.pick e q n l ++ rest) = _ := List.countP_append
  have size := perm.length_eq
  have nonempty := List.length_pos_of_mem left
  have length := h.length e q n l
  rw [List.length_append] at size
  unfold asNear at *
  omega

/-- Fewer than `n` rows are nearer than a returned one. -/
lemma AnnSearch.IsExact.nearer_lt (h : ann.IsExact rt) (picked : x ∈ ann.pick e q n l) :
    nearer rt e q (rt.cosineDistance (e x) q) l < n := by
  obtain ⟨rest, perm, nearest⟩ := h.nearest e q n l
  have left : nearer rt e q (rt.cosineDistance (e x) q) rest = 0 := by
    apply List.countP_eq_zero.mpr
    intro y hy
    rw [nearest x picked y hy]
    exact Bool.false_ne_true
  have returned : nearer rt e q (rt.cosineDistance (e x) q) (ann.pick e q n l) < (ann.pick e q n l).length := by
    apply lt_of_le_of_ne List.countP_le_length
    intro all
    have itself := List.countP_eq_length.mp all x picked
    rw [Flt.lt_irrefl] at itself
    cases itself
  have counted : nearer rt e q (rt.cosineDistance (e x) q) (ann.pick e q n l ++ rest) = nearer rt e q _ l :=
    perm.countP_eq _
  have parts : nearer rt e q (rt.cosineDistance (e x) q) (ann.pick e q n l ++ rest) = _ := List.countP_append
  have length := h.length e q n l
  unfold nearer at *
  omega

/-- Sorting every row by its distance is exact where every distance is a number. -/
lemma AnnSearch.exact_isExact (number : ∀ a b, rt.cosineDistance a b ≠ .nan) :
    (AnnSearch.exact rt).IsExact rt := by
  constructor
  · intro α e q n l
    show ((l.insertionSort _).take n).length = _
    rw [List.length_take, List.length_insertionSort]
  · intro α e q n l
    let before (a b : α) : Prop := Flt.lt (rt.cosineDistance (e b) q) (rt.cosineDistance (e a) q) = false
    have measured : ∀ a, ∃ d, rt.cosineDistance (e a) q = .num d := by
      intro a
      have na := number (e a) q
      cases ha : rt.cosineDistance (e a) q with
      | nan => exact absurd ha na
      | num d => exact ⟨d, rfl⟩
    choose distance measured using measured
    have before_iff : ∀ a b, before a b ↔ distance a ≤ distance b := by
      intro a b
      simp [before, measured, Flt.lt]
    have total : Std.Total before := by
      constructor
      intro a b
      rw [before_iff, before_iff]
      exact le_total _ _
    have trans : IsTrans α before := by
      constructor
      intro a b c
      rw [before_iff, before_iff, before_iff]
      exact le_trans
    have sorted := List.pairwise_insertionSort before l
    refine ⟨(l.insertionSort before).drop n, ?_, ?_⟩
    · show ((l.insertionSort _).take n ++ (l.insertionSort _).drop n).Perm l
      rw [List.take_append_drop]
      exact List.perm_insertionSort _ l
    · rw [← List.take_append_drop n (l.insertionSort before)] at sorted
      exact (List.pairwise_append.mp sorted).2.2

end exact

/-! ## What the ranker returns something of -/

namespace RecallRanker

section returned

variable {rt : Runtime} {policy : RecallPolicy} {query : RecallQuery}
  {episodes facts runbooks : List MemoryCandidate}

/-- The first item of the order is always selected. -/
lemma diverse_eq_nil_iff {κ : Type} [DecidableEq κ] {limit : Int} {key : MemoryCandidate → κ}
    {items : List MemoryCandidate} : diverse items limit key = [] ↔ items = [] := by
  unfold diverse
  have same : sortedDescending items = [] ↔ items = [] := by
    rw [← List.length_eq_zero_iff, ← List.length_eq_zero_iff, sortedDescending, List.length_insertionSort]
  rw [← same]
  cases sortedDescending items with
  | nil => simp [select]
  | cons first rest =>
    unfold select
    rw [if_neg List.not_mem_nil]
    split
    all_goals simp

/-- A ranking that returns has an episode exactly if a candidate passed the gate. -/
lemma rank_episodes_iff {bundle} (hot : query.coldStart = false)
    (h : rank rt policy query episodes facts runbooks = .ok bundle) :
    bundle.episodes ≠ [] ↔ ∃ c ∈ episodes, episodeEligible policy query c = true := by
  unfold rank at h
  rw [hot, if_neg Bool.false_ne_true] at h
  obtain ⟨acceptedEpisodes, he, h⟩ := bind_ok h
  obtain ⟨acceptedFacts, _, h⟩ := bind_ok h
  obtain ⟨acceptedRunbooks, _, e⟩ := bind_ok h
  cases e
  rw [Ne, diverse_eq_nil_iff]
  constructor
  · intro some
    obtain ⟨item, mem⟩ := List.exists_mem_of_ne_nil _ some
    obtain ⟨c, hc, _⟩ := (mapM_ok he).1 item mem
    exact ⟨c, List.mem_filter.mp hc⟩
  · rintro ⟨c, hc, eligible⟩
    obtain ⟨item, mem, _⟩ := (mapM_ok he).2 c (List.mem_filter.mpr ⟨hc, eligible⟩)
    exact List.ne_nil_of_mem mem

end returned

end RecallRanker

/-! ## Recall -/

section recalled

variable (rt : Runtime) (policy : RecallPolicy) (query : RecallQuery) (db : Database)

/-- The candidate that the episode becomes, at the similarity of its embedding. -/
def candidateOf (e : EpisodicEvent) (v : Embedding) : MemoryCandidate :=
  episodeCandidate rt {
    episode := e
    similarity := similarityTo rt query v
    action := lateralAction db query.orgId e.eventId }

/-- The episode of the query's organization and agent, of its service or of none and not of the current
incident, passes every gate of the ranker at `as_of`. -/
structure Recallable (e : EpisodicEvent) (v : Embedding) : Prop where
  stored : e ∈ db.episodicEvents
  embedding : e.embedding = some v
  admitted : EpisodeAdmitted query e
  service : e.serviceId = some query.serviceId ∨ e.serviceId = none
  gates : RecallRanker.episodeEligible policy query (candidateOf rt query db e v) = true

/-- The rows that compete for the places of `nearest`: of the organization and the agent, whatever their
service. -/
def competitors : List (EpisodicEvent × Embedding) :=
  withEmbedding EpisodicEvent.embedding (db.episodicEvents.filter fun e => EpisodeAdmitted query e)

/-- The distance of an embedding from the query's. -/
def distanceTo (v : Embedding) : Flt := rt.cosineDistance v (vectorLiteral rt 9 query.embedding)

/-- `%(candidate_limit)s` -/
def candidateLimit : Nat := (policy.candidateLimit query.k).toNat

variable {rt policy query db}

lemma mem_competitors {e v} :
    (e, v) ∈ competitors query db ↔ e ∈ db.episodicEvents ∧ EpisodeAdmitted query e ∧ e.embedding = some v := by
  unfold competitors withEmbedding
  simp only [List.mem_filterMap, List.mem_filter, Option.map_eq_some_iff, Prod.mk.injEq, decide_eq_true_iff]
  constructor
  · rintro ⟨_, ⟨stored, admitted⟩, _, embedding, rfl, rfl⟩
    exact ⟨stored, admitted, embedding⟩
  · rintro ⟨stored, admitted, embedding⟩
    exact ⟨e, ⟨stored, admitted⟩, v, embedding, rfl, rfl⟩

/-- The candidates are the picked rows of the service, or of none. -/
lemma mem_episodicRecallSql_iff {ann : AnnSearch} {limit : Nat} {row : EpisodicRecallRow} :
    row ∈ episodicRecallSql rt ann query db limit ↔
      ∃ r ∈ ann.pick Prod.snd (vectorLiteral rt 9 query.embedding) limit (competitors query db),
        (r.1.serviceId = some query.serviceId ∨ r.1.serviceId = none) ∧
        row = ⟨r.1, similarityTo rt query r.2, lateralAction db query.orgId r.1.eventId⟩ := by
  unfold episodicRecallSql nearest competitors
  simp only [List.mem_map, List.mem_filter, decide_eq_true_iff]
  constructor
  · rintro ⟨_, ⟨⟨r, picked, rfl⟩, service⟩, rfl⟩
    exact ⟨r, picked, service, rfl⟩
  · rintro ⟨r, picked, service, rfl⟩
    exact ⟨_, ⟨⟨r, picked, rfl⟩, service⟩, rfl⟩

/-- Recall returns an episode exactly if a picked row is recallable. -/
lemma recall_episodes_iff {ann : AnnSearch} {env bundle} (hot : query.coldStart = false)
    (h : CockroachRecallAdapter.recall rt ann policy env query db = .ok bundle) :
    bundle.episodes ≠ [] ↔ ∃ e v, Recallable rt policy query db e v ∧
      (e, v) ∈ ann.pick Prod.snd (vectorLiteral rt 9 query.embedding) (candidateLimit policy query)
        (competitors query db) := by
  obtain ⟨cold, _⟩ | ⟨_, limit, runbooks, bundle', rfl, _, ranked, rfl⟩ := CockroachRecallAdapter.recall_ranked h
  · rw [hot] at cold
    cases cold
  show bundle'.episodes ≠ [] ↔ _
  rw [RecallRanker.rank_episodes_iff hot ranked]
  constructor
  · rintro ⟨c, hc, gates⟩
    obtain ⟨row, hrow, rfl⟩ := List.mem_map.mp hc
    obtain ⟨⟨e, v⟩, picked, service, rfl⟩ := mem_episodicRecallSql_iff.mp hrow
    obtain ⟨stored, admitted, embedding⟩ := mem_competitors.mp (ann.mem picked)
    exact ⟨e, v, ⟨stored, embedding, admitted, service, gates⟩, picked⟩
  · rintro ⟨e, v, recallable, picked⟩
    have row := mem_episodicRecallSql_iff.mpr ⟨(e, v), picked, recallable.service, rfl⟩
    exact ⟨candidateOf rt query db e v, List.mem_map.mpr ⟨_, row, rfl⟩, recallable.gates⟩

end recalled

/-- With an exact search, a recall that returns has an episode if a recallable one has at most
`candidate_limit` competitors that are as near, itself included. It has one only if a recallable episode has
fewer than `candidate_limit` competitors that are nearer. -/
theorem recall_not_starved {rt ann policy env query db bundle} (exact : AnnSearch.IsExact rt ann)
    (hot : query.coldStart = false)
    (h : CockroachRecallAdapter.recall rt ann policy env query db = .ok bundle) :
    (∀ e v, Recallable rt policy query db e v →
      asNear rt Prod.snd (vectorLiteral rt 9 query.embedding) (distanceTo rt query v) (competitors query db) ≤
        candidateLimit policy query → bundle.episodes ≠ []) ∧
    (bundle.episodes ≠ [] → ∃ e v, Recallable rt policy query db e v ∧
      nearer rt Prod.snd (vectorLiteral rt 9 query.embedding) (distanceTo rt query v) (competitors query db) <
        candidateLimit policy query) := by
  rw [recall_episodes_iff hot h]
  constructor
  · intro e v recallable few
    have mem := mem_competitors.mpr ⟨recallable.stored, recallable.admitted, recallable.embedding⟩
    exact ⟨e, v, recallable, exact.picks mem few⟩
  · rintro ⟨e, v, recallable, picked⟩
    exact ⟨e, v, recallable, exact.nearer_lt picked⟩

namespace Sample

/-- A library that compares vectors by their first coordinate. -/
def firstCoordinate : Runtime :=
  { Runtime.sample with
    cosineDistance := fun a b => if a.head? = b.head? then 0 else .num (1 / 4) }

/-- An episode of another service on the query's text. -/
def elsewhere (block d : Fin 16) : EpisodicEvent :=
  { observation with eventId := .sample d block, serviceId := some (.sample 0 15) }

/-- An episode of the service on a similar text. -/
def similar : EpisodicEvent := { observation with embedding := some (0 :: List.replicate 1023 1) }

/-- The episode of the service among those of the other one, sixteen a block. -/
def crowded (blocks : List (Fin 16)) : Database :=
  { db with
    services := ⟨.sample 0 15, org, "billing", .healthy, "v1", none, 0⟩ :: db.services
    episodicEvents := similar :: blocks.flatMap fun block => (List.finRange 16).map (elsewhere block) }

/-- The recall on it. -/
def recallCrowded (env : Nat → Option Raised) (query : RecallQuery) (blocks : List (Fin 16)) :
    Except Raised RecallBundle :=
  CockroachRecallAdapter.recall firstCoordinate (AnnSearch.exact firstCoordinate) {} env query (crowded blocks)

lemma firstCoordinate_exact : (AnnSearch.exact firstCoordinate).IsExact firstCoordinate := by
  apply AnnSearch.exact_isExact
  intro a b
  show (if a.head? = b.head? then (0 : Flt) else .num (1 / 4)) ≠ .nan
  split
  all_goals simp [OfNat.ofNat]

lemma similar_recallable {blocks : List (Fin 16)} :
    Recallable firstCoordinate {} query (crowded blocks) similar (0 :: List.replicate 1023 1) := by
  constructor
  case stored => exact List.mem_cons_self
  case embedding => rfl
  case admitted => decide +kernel
  case service => exact .inl rfl
  case gates =>
    have same : candidateOf firstCoordinate query (crowded blocks) similar (0 :: List.replicate 1023 1) =
      candidateOf firstCoordinate query db similar (0 :: List.replicate 1023 1) := rfl
    rw [same]
    decide +kernel

end Sample

/-- Sixteen nearer episodes of another service leave room for the one of the query's service. -/
theorem recall_not_starved_sample :
    ∃ bundle, Sample.recallCrowded (fun _ => none) Sample.query [2] = .ok bundle ∧ bundle.episodes ≠ [] := by
  have returns : (Sample.recallCrowded (fun _ => none) Sample.query [2]).isOk = true := by decide +kernel
  cases h : Sample.recallCrowded (fun _ => none) Sample.query [2] with
  | error e =>
    rw [h] at returns
    cases returns
  | ok bundle =>
    have few := (recall_not_starved Sample.firstCoordinate_exact rfl h).1
    exact ⟨bundle, rfl, few _ _ Sample.similar_recallable (by decide +kernel)⟩

/-- Thirty-two nearer episodes of another service take every place. An episode is not returned by a cold
start either, or where the database fails. -/
theorem recall_starved :
    (AnnSearch.exact Sample.firstCoordinate).IsExact Sample.firstCoordinate ∧
      Recallable Sample.firstCoordinate {} Sample.query (Sample.crowded [2, 3]) Sample.similar
        (0 :: List.replicate 1023 1) ∧
      (Sample.recallCrowded (fun _ => none) Sample.query [2, 3]).map RecallBundle.episodes = .ok [] ∧
      (Sample.recallCrowded (fun _ => none) { Sample.query with coldStart := true } []).map
        RecallBundle.episodes = .ok [] ∧
      (Sample.recallCrowded (fun _ => some (.database .foreignKeyViolation)) Sample.query []).isOk = false := by
  refine ⟨Sample.firstCoordinate_exact, Sample.similar_recallable, ?_, ?_, ?_⟩
  all_goals decide +kernel

end Postmortem
