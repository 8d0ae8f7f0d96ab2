import Postmortem.Backend.BeliefRoundTrip
import Postmortem.Backend.Starvation

/-!
# Where the two recall adapters agree

`ManagedMCPRecallAdapter` and `CockroachRecallAdapter` on the same rows. Most columns they read alike, so the ranker
scores and selects the same rows for both. What they show of a fact and of a runbook always differs: the facts of
`mcp.py` carry their confidence as a success rate and nothing on their end and on what they replaced, and its runbooks
have no postconditions. `adapters_agree_iff` says where that does not matter, and where both fail.
-/

namespace Postmortem

open RecallRanker Selection

/-! ## Agreement -/

/-- The candidate without its metadata. -/
def bare (c : MemoryCandidate) : MemoryCandidate := { c with metadata := [] }

/-- The items are equal; the keys of their metadata may be in another order. -/
structure SameItem (c d : MemoryCandidate) : Prop where
  columns : bare c = bare d
  metadata : ∀ k, Assoc.get c.metadata k = Assoc.get d.metadata k

/-- The bundles have the same items in the same order. -/
structure SameItems (b b' : RecallBundle) : Prop where
  episodes : List.Forall₂ SameItem b.episodes b'.episodes
  facts : List.Forall₂ SameItem b.facts b'.facts
  runbooks : List.Forall₂ SameItem b.runbooks b'.runbooks

/-- Both recalls fail, or they return the same items. -/
def Agree (x y : Except Raised RecallBundle) : Prop :=
  ¬ Returns x ∧ ¬ Returns y ∨ ∃ b b', x = .ok b ∧ y = .ok b' ∧ SameItems b b'

/-! ## Readable rows -/

/-- A condition on the rows of each kind. -/
structure RowConditions where
  episode : Dict → Prop
  fact : Dict → Prop
  runbook : Dict → Prop

/-- All rows meet their conditions. -/
structure RowConditions.All (p : RowConditions) (rows : RecallRows) : Prop where
  episodes : ∀ row ∈ rows.episodes, p.episode row
  facts : ∀ row ∈ rows.facts, p.fact row
  runbooks : ∀ row ∈ rows.runbooks, p.runbook row

section conditions

variable (rt : Runtime) (policy : RecallPolicy) (query : RecallQuery)

/-- No age is divided by a half life of zero. -/
def Dated (t : Option Timestamp) : Prop := policy.recencyHalfLife = 0 → t = none

/-- The ranker judges the runbook, and scores it if it is eligible. -/
def Scorable (c : MemoryCandidate) : Prop :=
  Returns (runbookEligible rt policy query c) ∧
    (runbookEligible rt policy query c = .ok true → Returns (scoreRunbook rt policy query c))

/-- The columns of a fact that both adapters read alike. -/
def factBasis (row : Dict) : Except Raised MemoryCandidate := factColumns rt row "" (.ok 0) [] (.ok [])

/-- The columns of a runbook that the ranker reads. -/
def runbookBasis (row : Dict) : Except Raised MemoryCandidate :=
  runbookColumns rt row (.ok []) ((runbookCounts rt row).map (Mcp.runbookMetadata rt row)) (.ok [])

/-- What both adapters ask of the rows: the shared columns are readable, and the ranker does not raise. -/
def sharedConditions : RowConditions where
  episode row :=
    ∃ c, episodeColumns rt row = .ok c ∧ (episodeEligible policy query c = true → Dated policy c.occurredAt)
  fact row := ∃ c, factBasis rt row = .ok c ∧ (factEligible policy query c = true → Dated policy c.recordedAt)
  runbook row := ∃ c, runbookBasis rt row = .ok c ∧ Scorable rt policy query c

/-- The value of the steps as `mcp.py` reads it. -/
def Mcp.rawSteps (row : Dict) : Except Raised Json :=
  match (row.get "steps").orElse (.arr []) with
  | .str s => loads rt s
  | v => .ok v

/-- The steps as `mcp.py` reads them. -/
def Mcp.stepsOf (row : Dict) : Except Raised (List Json) := do
  Python.list (← Mcp.rawSteps rt row)

/-- What `mcp.py` asks beyond that: a text of metadata, steps or identifiers is JSON. -/
def Mcp.conditions : RowConditions where
  episode row := ∀ s, row.get "metadata" = .str s → rt.jsonTooDeep s = false ∧ rt.jsonLoads s ≠ none
  fact row := Returns (Mcp.uuidTuple rt (row.get "provenance_ids"))
  runbook row := Returns (Mcp.stepsOf rt row) ∧ Returns (Mcp.uuidTuple rt (row.get "provenance_ids"))

/-- The steps as `recall.py` reads them. -/
def Direct.stepsOf (row : Dict) : Except Raised (List Json) := do
  let steps ← Direct.jsonValue rt (row.get "steps")
  Python.list (steps.orElse (.arr []))

/-- What `recall.py` asks beyond that: no text is nested too deep, and steps, tags and signatures are sequences. -/
def Direct.conditions : RowConditions where
  episode row := Shallow rt (row.get "metadata")
  fact row := Shallow rt (row.get "object") ∧ Shallow rt (row.get "predecessor") ∧
    Returns (Direct.uuidTuple rt (row.get "provenance_ids"))
  runbook row := Returns (Direct.stepsOf rt row) ∧ Shallow rt (row.get "preconditions") ∧
    Shallow rt (row.get "postconditions") ∧ Returns (Direct.tupleOf row "applicable_service_tags") ∧
    Returns (Direct.tupleOf row "applicable_error_signatures") ∧
    Returns (Direct.uuidTuple rt (row.get "provenance_ids"))

end conditions

/-! ## What the mappers return -/

section mappers

variable {rt : Runtime} {policy : RecallPolicy} {query : RecallQuery} {row : Dict} {c : MemoryCandidate}

lemma returns_bind {α β : Type} {x : Except Raised α} {f : α → Except Raised β} :
    Returns (x >>= f) ↔ ∃ a, x = .ok a ∧ Returns (f a) := by
  unfold Returns
  simp only [bind_ok_iff]
  constructor
  · rintro ⟨b, a, first, second⟩
    exact ⟨a, first, b, second⟩
  · rintro ⟨a, first, b, second⟩
    exact ⟨b, a, first, second⟩

lemma returns_pure {α : Type} {a : α} : Returns (pure a : Except Raised α) := ⟨a, rfl⟩

lemma returns_map {α β : Type} {x : Except Raised α} {f : α → β} : Returns (x.map f) ↔ Returns x := by
  cases x with
  | error => exact iff_of_false nofun nofun
  | ok a => exact iff_of_true ⟨_, rfl⟩ ⟨_, rfl⟩

/-- An episode is its shared columns, over its metadata. -/
lemma episodeOver_ok_iff {jsonObject : Json → Except Raised Dict} : episodeOver rt jsonObject row = .ok c ↔
    ∃ stored base, jsonObject (row.get "metadata") = .ok stored ∧ episodeColumns rt row = .ok base ∧
      c = { base with metadata := stored.update (episodeKeys rt row) } := by
  unfold episodeOver
  simp only [bind_ok_iff, pure, Except.pure, Except.ok.injEq]
  constructor
  · rintro ⟨stored, hs, base, hb, rfl⟩
    exact ⟨stored, base, hs, hb, rfl⟩
  · rintro ⟨stored, base, hs, hb, rfl⟩
    exact ⟨stored, hs, base, hb, rfl⟩

/-- The runbook with what an adapter reads its own way. -/
def carrying (c : MemoryCandidate) (steps : List Json) (metadata : Dict) (ids : List Uuid) : MemoryCandidate :=
  { c with
    steps := steps
    metadata := metadata
    provenanceIds := ids }

/-- A runbook is read where its shared columns and the parts of the adapter are. -/
lemma runbookColumns_ok_iff {steps metadata provenance} : runbookColumns rt row steps metadata provenance = .ok c ↔
    ∃ base s m ids, runbookColumns rt row (.ok []) (.ok []) (.ok []) = .ok base ∧ steps = .ok s ∧ metadata = .ok m ∧
      provenance = .ok ids ∧ c = carrying base s m ids := by
  unfold runbookColumns
  simp only [bind_ok_iff, Except.ok.injEq, pure, Except.pure]
  constructor
  · rintro ⟨k, hk, id, hid, s, hs, r, hr, st, hst, m, hm, o, ho, a, ha, ra, hra, ids, hids, rfl⟩
    exact ⟨_, st, m, ids, ⟨k, hk, id, hid, s, hs, r, hr, [], rfl, [], rfl, o, ho, a, ha, ra, hra, [], rfl, rfl⟩, hst,
      hm, hids, rfl⟩
  · rintro ⟨_, st, m, ids, ⟨k, hk, id, hid, s, hs, r, hr, _, rfl, _, rfl, o, ho, a, ha, ra, hra, _, rfl, rfl⟩, hst,
      hm, hids, rfl⟩
    exact ⟨k, hk, id, hid, s, hs, r, hr, st, hst, m, hm, o, ho, a, ha, ra, hra, ids, hids, rfl⟩

lemma loads_returns {s : String} : Returns (loads rt s) ↔ rt.jsonTooDeep s = false ∧ rt.jsonLoads s ≠ none := by
  unfold loads
  cases deep : rt.jsonTooDeep s with
  | true => simp [Returns]
  | false =>
    cases rt.jsonLoads s with
    | none => simp [Returns]
    | some w => simp [Returns]

/-- The fields of a parsed text. -/
def Mcp.fieldsOf : Json → Dict
  | .obj fields => fields
  | parsed => [("value", parsed)]

lemma Mcp.jsonObject_str {s : String} : Mcp.jsonObject rt (.str s) = (loads rt s).map Mcp.fieldsOf := by
  show (loads rt s >>= fun parsed => _) = _
  cases loads rt s with
  | error => rfl
  | ok parsed =>
    show (match parsed with | .obj fields => _ | parsed => _ : Except Raised Dict) = _
    cases parsed <;> rfl

lemma Mcp.jsonObject_returns {v : Json} : Returns (Mcp.jsonObject rt v) ↔
    ∀ s, v = .str s → rt.jsonTooDeep s = false ∧ rt.jsonLoads s ≠ none := by
  cases v with
  | str s =>
    rw [Mcp.jsonObject_str, returns_map, loads_returns]
    constructor
    · rintro parses _ ⟨⟩
      exact parses
    · exact fun parses => parses s rfl
  | _ =>
    refine iff_of_true ⟨_, rfl⟩ ?_
    rintro s ⟨⟩

lemma Direct.jsonObject_returns {v : Json} : Returns (Direct.jsonObject rt v) ↔ Shallow rt v := by
  unfold Direct.jsonObject
  rw [returns_map, jsonValue_returns]

/-- Where an episode is read and scored. -/
lemma episode_iff {jsonObject : Json → Except Raised Dict} :
    (∃ c, episodeOver rt jsonObject row = .ok c ∧
      (episodeEligible policy query c = true → Dated policy c.occurredAt)) ↔
    (sharedConditions rt policy query).episode row ∧ Returns (jsonObject (row.get "metadata")) := by
  constructor
  case mp =>
    rintro ⟨c, read, dated⟩
    obtain ⟨stored, base, hs, hb, rfl⟩ := episodeOver_ok_iff.mp read
    exact ⟨⟨base, hb, dated⟩, stored, hs⟩
  case mpr =>
    rintro ⟨⟨base, hb, dated⟩, stored, hs⟩
    exact ⟨_, episodeOver_ok_iff.mpr ⟨stored, base, hs, hb, rfl⟩, dated⟩

/-- The confidence of a fact is among its shared columns. -/
lemma factBasis_confidence (h : factBasis rt row = .ok c) : Returns (numberOf rt row "confidence") := by
  unfold factBasis factColumns at h
  simp only [bind_ok_iff] at h
  obtain ⟨_, _, _, _, _, _, _, _, _, _, _, _, _, _, confidence, read, _⟩ := h
  exact ⟨confidence, read⟩

lemma Mcp.fact_iff :
    (∃ c, Mcp.fact rt row = .ok c ∧ (factEligible policy query c = true → Dated policy c.recordedAt)) ↔
    (sharedConditions rt policy query).fact row ∧ (Mcp.conditions rt).fact row := by
  constructor
  case mp =>
    rintro ⟨c, read, dated⟩
    obtain ⟨base, r, ids, hb, hr, hids, rfl⟩ := factColumns_ok_iff.mp read
    exact ⟨⟨base, hb, dated⟩, ids, hids⟩
  case mpr =>
    rintro ⟨⟨base, hb, dated⟩, ids, hids⟩
    obtain ⟨r, hr⟩ := factBasis_confidence hb
    exact ⟨_, factColumns_ok_iff.mpr ⟨base, r, ids, hb, hr, hids, rfl⟩, dated⟩

lemma Direct.fact_iff :
    (∃ c, Direct.fact rt row = .ok c ∧ (factEligible policy query c = true → Dated policy c.recordedAt)) ↔
    (sharedConditions rt policy query).fact row ∧ (Direct.conditions rt).fact row := by
  constructor
  case mp =>
    rintro ⟨c, read, dated⟩
    obtain ⟨object, ho, read⟩ := bind_ok read
    obtain ⟨predecessor, hp, read⟩ := bind_ok read
    obtain ⟨base, r, ids, hb, hr, hids, rfl⟩ := factColumns_ok_iff.mp read
    exact ⟨⟨base, hb, dated⟩, jsonValue_returns.mp ⟨object, ho⟩, jsonValue_returns.mp ⟨predecessor, hp⟩, ids, hids⟩
  case mpr =>
    rintro ⟨⟨base, hb, dated⟩, shallow, shallow', ids, hids⟩
    obtain ⟨object, ho⟩ := jsonValue_returns.mpr shallow
    obtain ⟨predecessor, hp⟩ := jsonValue_returns.mpr shallow'
    have read : Direct.fact rt row = .ok _ :=
      bind_ok_iff.mpr ⟨object, ho, bind_ok_iff.mpr ⟨predecessor, hp,
        factColumns_ok_iff.mpr ⟨base, 0, ids, hb, rfl, hids, rfl⟩⟩⟩
    exact ⟨_, read, dated⟩

lemma Mcp.runbook_eq : Mcp.runbook rt row = Mcp.rawSteps rt row >>= fun steps =>
    runbookColumns rt row (Python.list steps) ((runbookCounts rt row).map (Mcp.runbookMetadata rt row))
      (Mcp.uuidTuple rt (row.get "provenance_ids")) := by
  unfold Mcp.runbook Mcp.rawSteps
  cases (row.get "steps").orElse (.arr []) <;> rfl

lemma Mcp.runbook_ok_iff : Mcp.runbook rt row = .ok c ↔ ∃ basis steps ids, runbookBasis rt row = .ok basis ∧
    Mcp.stepsOf rt row = .ok steps ∧ Mcp.uuidTuple rt (row.get "provenance_ids") = .ok ids ∧
    c = carrying basis steps basis.metadata ids := by
  rw [Mcp.runbook_eq]
  unfold Mcp.stepsOf runbookBasis
  simp only [bind_ok_iff]
  constructor
  · rintro ⟨raw, hraw, read⟩
    obtain ⟨base, steps, m, ids, hb, hs, hm, hids, rfl⟩ := runbookColumns_ok_iff.mp read
    exact ⟨_, steps, ids, runbookColumns_ok_iff.mpr ⟨base, [], m, [], hb, rfl, hm, rfl, rfl⟩, ⟨raw, hraw, hs⟩, hids, rfl⟩
  · rintro ⟨_, steps, ids, read, ⟨raw, hraw, hs⟩, hids, rfl⟩
    obtain ⟨base, _, m, _, hb, ⟨⟩, hm, ⟨⟩, rfl⟩ := runbookColumns_ok_iff.mp read
    exact ⟨raw, hraw, runbookColumns_ok_iff.mpr ⟨base, steps, m, ids, hb, hs, hm, hids, rfl⟩⟩

/-- The counters, as the metadata shows them. -/
lemma runbookCounts_ok {counts : Dict} (h : runbookCounts rt row = .ok counts) : ∃ usage success failure positive
    counterexamples, counts = [
      ("usage_count", .int usage),
      ("success_count", .int success),
      ("failure_count", .int failure),
      ("positive_provenance_count", .int positive),
      ("counterexample_count", .int counterexamples)] := by
  unfold runbookCounts at h
  simp only [bind_ok_iff, pure, Except.pure, Except.ok.injEq] at h
  obtain ⟨u, _, s, _, f, _, p, _, ce, _, rfl⟩ := h
  exact ⟨u, s, f, p, ce, rfl⟩

/-- A sequence is iterated over as what it was made from. -/
lemma iterate_tupleOf {key : String} {items : List Json} (h : Direct.tupleOf row key = .ok items) :
    iterate (.arr items) = iterate (row.get key) := by
  have all : iterate (.arr items) = .ok items := by
    cases items with
    | nil => rfl
    | cons => rfl
  rw [all]
  unfold Direct.tupleOf Json.orElse at h
  unfold iterate
  generalize row.get key = v at h ⊢
  by_cases some : v.truthy = true
  case pos =>
    rw [if_pos some] at h
    rw [if_neg (not_not.mpr some)]
    cases v with
    | arr | str | obj => exact h.symm
    | _ => cases h
  case neg =>
    rw [if_neg some] at h
    rw [if_pos some]
    exact h.symm

/-- The ranker reads the same in both. -/
structure SameEvidence (rt : Runtime) (m m' : Dict) : Prop where
  usage : m.get "usage_count" = m'.get "usage_count"
  positive : m.get "positive_provenance_count" = m'.get "positive_provenance_count"
  counterexamples : m.get "counterexample_count" = m'.get "counterexample_count"
  used : m.get "last_used_at" = m'.get "last_used_at"
  tags : textsOf rt m "applicable_service_tags" = textsOf rt m' "applicable_service_tags"
  signatures : textsOf rt m "applicable_error_signatures" = textsOf rt m' "applicable_error_signatures"

lemma runbookEligible_carrying {m steps ids} (same : SameEvidence rt m c.metadata) :
    runbookEligible rt policy query (carrying c steps m ids) = runbookEligible rt policy query c := by
  unfold runbookEligible countOf
  show (if ¬ runbookInScope policy query c then _ else _ : Except Raised Bool) = _
  dsimp only [carrying]
  rw [same.usage, same.positive, same.counterexamples, same.tags, same.signatures]

lemma scoreRunbook_carrying {m steps ids} (same : SameEvidence rt m c.metadata) :
    Returns (scoreRunbook rt policy query (carrying c steps m ids)) ↔ Returns (scoreRunbook rt policy query c) := by
  have used : lastUsedAt rt (carrying c steps m ids) = lastUsedAt rt c := by
    unfold lastUsedAt
    dsimp only [carrying]
    rw [same.used]
  unfold scoreRunbook
  rw [used]
  unfold countOf
  dsimp only [carrying]
  rw [same.positive, same.tags, same.signatures]
  simp only [returns_bind, returns_pure]

lemma scorable_carrying {m steps ids} (same : SameEvidence rt m c.metadata) :
    Scorable rt policy query (carrying c steps m ids) ↔ Scorable rt policy query c := by
  unfold Scorable
  rw [runbookEligible_carrying same, scoreRunbook_carrying same]

lemma SameEvidence.refl {m : Dict} : SameEvidence rt m m := ⟨rfl, rfl, rfl, rfl, rfl, rfl⟩

lemma Mcp.runbook_iff : (∃ c, Mcp.runbook rt row = .ok c ∧ Scorable rt policy query c) ↔
    (sharedConditions rt policy query).runbook row ∧ (Mcp.conditions rt).runbook row := by
  constructor
  case mp =>
    rintro ⟨c, read, scorable⟩
    obtain ⟨basis, steps, ids, hb, hs, hids, rfl⟩ := Mcp.runbook_ok_iff.mp read
    exact ⟨⟨basis, hb, (scorable_carrying .refl).mp scorable⟩, ⟨steps, hs⟩, ids, hids⟩
  case mpr =>
    rintro ⟨⟨basis, hb, scorable⟩, ⟨steps, hs⟩, ids, hids⟩
    refine ⟨_, Mcp.runbook_ok_iff.mpr ⟨basis, steps, ids, hb, hs, hids, rfl⟩, ?_⟩
    exact (scorable_carrying .refl).mpr scorable

/-- The metadata of `recall.py` is read where its parts are. -/
lemma Direct.runbookMetadata_returns : Returns (Direct.runbookMetadata rt row) ↔
    Shallow rt (row.get "preconditions") ∧ Shallow rt (row.get "postconditions") ∧
      Returns (Direct.tupleOf row "applicable_service_tags") ∧
      Returns (Direct.tupleOf row "applicable_error_signatures") ∧ Returns (runbookCounts rt row) := by
  unfold Direct.runbookMetadata
  simp only [returns_bind, returns_pure, and_true, ← jsonValue_returns]
  constructor
  · rintro ⟨pre, hpre, post, hpost, tags, ht, signatures, hs, counts, hc⟩
    exact ⟨⟨pre, hpre⟩, ⟨post, hpost⟩, ⟨tags, ht⟩, ⟨signatures, hs⟩, counts, hc⟩
  · rintro ⟨⟨pre, hpre⟩, ⟨post, hpost⟩, ⟨tags, ht⟩, ⟨signatures, hs⟩, counts, hc⟩
    exact ⟨pre, hpre, post, hpost, tags, ht, signatures, hs, counts, hc⟩

/-- The ranker reads the same in the metadata of both adapters. -/
lemma Direct.runbookMetadata_evidence {m counts : Dict} (h : Direct.runbookMetadata rt row = .ok m)
    (counted : runbookCounts rt row = .ok counts) : SameEvidence rt m (Mcp.runbookMetadata rt row counts) := by
  unfold Direct.runbookMetadata at h
  simp only [bind_ok_iff, pure, Except.pure, Except.ok.injEq] at h
  obtain ⟨pre, _, post, _, tags, ht, signatures, hs, counts', counted', rfl⟩ := h
  cases counted.symm.trans counted'
  obtain ⟨u, s, f, p, ce, rfl⟩ := runbookCounts_ok counted
  constructor
  case usage => rfl
  case positive => rfl
  case counterexamples => rfl
  case used => rfl
  case tags => exact congrArg (Except.map _) (iterate_tupleOf ht)
  case signatures => exact congrArg (Except.map _) (iterate_tupleOf hs)

lemma runbookBasis_ok_iff : runbookBasis rt row = .ok c ↔ ∃ base counts,
    runbookColumns rt row (.ok []) (.ok []) (.ok []) = .ok base ∧ runbookCounts rt row = .ok counts ∧
      c = carrying base [] (Mcp.runbookMetadata rt row counts) [] := by
  unfold runbookBasis
  rw [runbookColumns_ok_iff]
  cases counted : runbookCounts rt row with
  | error =>
    constructor
    · rintro ⟨_, _, _, _, _, _, ⟨⟩, _⟩
    · rintro ⟨_, _, _, ⟨⟩, _⟩
  | ok counts =>
    constructor
    · rintro ⟨base, _, _, _, hb, ⟨⟩, ⟨⟩, ⟨⟩, rfl⟩
      exact ⟨base, counts, hb, rfl, rfl⟩
    · rintro ⟨base, _, hb, ⟨⟩, rfl⟩
      exact ⟨base, [], _, [], hb, rfl, rfl, rfl, rfl⟩

lemma Direct.runbook_ok_iff : Direct.runbook rt row = .ok c ↔ ∃ basis steps m ids, runbookBasis rt row = .ok basis ∧
    Direct.stepsOf rt row = .ok steps ∧ Direct.runbookMetadata rt row = .ok m ∧
    Direct.uuidTuple rt (row.get "provenance_ids") = .ok ids ∧ c = carrying basis steps m ids := by
  unfold Direct.runbook Direct.stepsOf
  simp only [bind_ok_iff]
  constructor
  · rintro ⟨raw, hraw, m, hm, read⟩
    obtain ⟨base, steps, _, ids, hb, hs, ⟨⟩, hids, rfl⟩ := runbookColumns_ok_iff.mp read
    obtain ⟨_, _, _, _, counts, counted⟩ := Direct.runbookMetadata_returns.mp ⟨m, hm⟩
    exact ⟨_, steps, m, ids, runbookBasis_ok_iff.mpr ⟨base, counts, hb, counted, rfl⟩, ⟨raw, hraw, hs⟩, hm, hids, rfl⟩
  · rintro ⟨_, steps, m, ids, read, ⟨raw, hraw, hs⟩, hm, hids, rfl⟩
    obtain ⟨base, counts, hb, _, rfl⟩ := runbookBasis_ok_iff.mp read
    exact ⟨raw, hraw, m, hm, runbookColumns_ok_iff.mpr ⟨base, steps, m, ids, hb, hs, rfl, hids, rfl⟩⟩

/-- The ranker judges a runbook of `recall.py` as its shared columns. -/
lemma Direct.evidence {basis : MemoryCandidate} {m : Dict} (read : runbookBasis rt row = .ok basis)
    (h : Direct.runbookMetadata rt row = .ok m) : SameEvidence rt m basis.metadata := by
  obtain ⟨base, counts, _, counted, rfl⟩ := runbookBasis_ok_iff.mp read
  exact Direct.runbookMetadata_evidence h counted

lemma Direct.runbook_iff : (∃ c, Direct.runbook rt row = .ok c ∧ Scorable rt policy query c) ↔
    (sharedConditions rt policy query).runbook row ∧ (Direct.conditions rt).runbook row := by
  constructor
  case mp =>
    rintro ⟨c, read, scorable⟩
    obtain ⟨basis, steps, m, ids, hb, hs, hm, hids, rfl⟩ := Direct.runbook_ok_iff.mp read
    obtain ⟨pre, post, tags, signatures, _⟩ := Direct.runbookMetadata_returns.mp ⟨m, hm⟩
    exact ⟨⟨basis, hb, (scorable_carrying (Direct.evidence hb hm)).mp scorable⟩, ⟨steps, hs⟩, pre, post, tags, signatures,
      ids, hids⟩
  case mpr =>
    rintro ⟨⟨basis, hb, scorable⟩, ⟨steps, hs⟩, pre, post, tags, signatures, ids, hids⟩
    obtain ⟨_, counts, _, counted, _⟩ := runbookBasis_ok_iff.mp hb
    obtain ⟨m, hm⟩ := Direct.runbookMetadata_returns.mpr ⟨pre, post, tags, signatures, counts, counted⟩
    refine ⟨_, Direct.runbook_ok_iff.mpr ⟨basis, steps, m, ids, hb, hs, hm, hids, rfl⟩, ?_⟩
    exact (scorable_carrying (Direct.evidence hb hm)).mpr scorable

end mappers

/-! ## Where the adapters answer -/

section answers

variable {rt : Runtime} {policy : RecallPolicy} {query : RecallQuery} {rows : RecallRows}
  {episodes facts runbooks : List MemoryCandidate} {c : MemoryCandidate}

lemma recency_returns {t} : Returns (recency rt policy query t) ↔ Dated policy t := by
  unfold recency Dated
  cases t with
  | none => exact iff_of_true ⟨0, rfl⟩ fun _ => rfl
  | some t =>
    by_cases zero : policy.recencyHalfLife = 0
    case pos => simp [zero, Returns]
    case neg => simp [zero, Returns]

lemma scoreEpisode_returns : Returns (scoreEpisode rt policy query c) ↔ Dated policy c.occurredAt := by
  unfold scoreEpisode
  simp only [returns_bind, returns_pure, and_true]
  exact recency_returns

lemma scoreFact_returns : Returns (scoreFact rt policy query c) ↔ Dated policy c.recordedAt := by
  unfold scoreFact
  simp only [returns_bind, returns_pure, and_true]
  exact recency_returns

/-- The accepted items are there where every gate and every score needed is. -/
lemma accepted_returns {gate : MemoryCandidate → Except Raised Bool}
    {score : MemoryCandidate → Except Raised MemoryCandidate} {items : List MemoryCandidate} :
    Returns (accepted gate score items) ↔
      ∀ c ∈ items, Returns (gate c) ∧ (gate c = .ok true → Returns (score c)) := by
  induction items with
  | nil => exact iff_of_true ⟨[], rfl⟩ (List.forall_mem_nil _)
  | cons c items ih =>
    rw [List.forall_mem_cons, ← ih]
    constructor
    case mp =>
      rintro ⟨out, h⟩
      obtain ⟨gated, tail⟩ | ⟨x, rest, gated, scored, tail, _⟩ := accepted_cons h
      · refine ⟨⟨⟨false, gated⟩, fun passes => ?_⟩, out, tail⟩
        cases gated.symm.trans passes
      · exact ⟨⟨⟨true, gated⟩, fun _ => ⟨x, scored⟩⟩, rest, tail⟩
    case mpr =>
      rintro ⟨⟨⟨passes, gated⟩, scores⟩, out, tail⟩
      cases passes with
      | false => exact ⟨out, accepted_refuse gated tail⟩
      | true =>
        obtain ⟨x, scored⟩ := scores gated
        exact ⟨x :: out, accepted_take gated scored tail⟩

/-- Where the gate does not raise, only the scores matter. -/
lemma accepted_pure_returns {gate : MemoryCandidate → Bool}
    {score : MemoryCandidate → Except Raised MemoryCandidate} {items : List MemoryCandidate} :
    Returns (accepted (fun c => .ok (gate c)) score items) ↔ ∀ c ∈ items, gate c = true → Returns (score c) := by
  rw [accepted_returns]
  refine forall₂_congr fun c _ => ?_
  constructor
  · exact fun h passes => h.2 (congrArg Except.ok passes)
  · exact fun h => ⟨⟨_, rfl⟩, fun passes => h (Except.ok.inj passes)⟩

/-- The ranker returns where it can judge and score the items. -/
lemma rank_returns (hot : query.coldStart = false) : Returns (rank rt policy query episodes facts runbooks) ↔
    (∀ c ∈ episodes, episodeEligible policy query c = true → Dated policy c.occurredAt) ∧
    (∀ c ∈ facts, factEligible policy query c = true → Dated policy c.recordedAt) ∧
    ∀ c ∈ runbooks, Scorable rt policy query c := by
  have scoredE : Returns (accepted (fun c => .ok (episodeEligible policy query c)) (scoreEpisode rt policy query)
      episodes) ↔ ∀ c ∈ episodes, episodeEligible policy query c = true → Dated policy c.occurredAt := by
    rw [accepted_pure_returns]
    simp only [scoreEpisode_returns]
  have scoredF : Returns (accepted (fun c => .ok (factEligible policy query c)) (scoreFact rt policy query)
      facts) ↔ ∀ c ∈ facts, factEligible policy query c = true → Dated policy c.recordedAt := by
    rw [accepted_pure_returns]
    simp only [scoreFact_returns]
  have scoredR : Returns (accepted (runbookEligible rt policy query) (scoreRunbook rt policy query) runbooks) ↔
      ∀ c ∈ runbooks, Scorable rt policy query c := accepted_returns
  rw [← scoredE, ← scoredF, ← scoredR]
  constructor
  case mp =>
    rintro ⟨bundle, h⟩
    obtain ⟨e, f, r, all, _⟩ := rank_accepted hot h
    exact ⟨⟨e, all.episodes⟩, ⟨f, all.facts⟩, r, all.runbooks⟩
  case mpr =>
    rintro ⟨⟨e, he⟩, ⟨f, hf⟩, r, hr⟩
    have all : Accepted rt policy query episodes facts runbooks e f r := ⟨he, hf, hr⟩
    obtain ⟨bundle, h, _⟩ := all.rank hot
    exact ⟨bundle, h⟩

/-- A loop over rows and a condition on what it yields are conditions on the rows. -/
lemma mapM_all_iff {α β : Type} {f : α → Except Raised β} {P : β → Prop} {l : List α} :
    (∃ l', l.mapM f = .ok l' ∧ ∀ b ∈ l', P b) ↔ ∀ a ∈ l, ∃ b, f a = .ok b ∧ P b := by
  constructor
  case mp =>
    rintro ⟨l', h, all⟩ a mem
    obtain ⟨b, mem', made⟩ := (mapM_ok h).2 a mem
    exact ⟨b, made, all b mem'⟩
  case mpr =>
    intro each
    obtain ⟨l', h⟩ := mapM_returns.mpr fun a mem => (each a mem).imp fun _ made => made.1
    refine ⟨l', h, fun b mem' => ?_⟩
    obtain ⟨a, mem, made⟩ := (mapM_ok h).1 b mem'
    obtain ⟨b', made', holds⟩ := each a mem
    cases made.symm.trans made'
    exact holds

/-- An adapter returns where its rows are read and the ranker can judge and score them. -/
lemma RowMappers.ranked_returns {m : RowMappers} {provider : String} (hot : query.coldStart = false) :
    Returns (m.ranked rt policy query rows provider) ↔
      (∀ row ∈ rows.episodes, ∃ c, m.episode row = .ok c ∧
        (episodeEligible policy query c = true → Dated policy c.occurredAt)) ∧
      (∀ row ∈ rows.facts, ∃ c, m.fact row = .ok c ∧
        (factEligible policy query c = true → Dated policy c.recordedAt)) ∧
      ∀ row ∈ rows.runbooks, ∃ c, m.runbook row = .ok c ∧ Scorable rt policy query c := by
  rw [← mapM_all_iff, ← mapM_all_iff, ← mapM_all_iff]
  unfold RowMappers.ranked
  simp only [returns_bind, returns_pure, and_true]
  constructor
  case mp =>
    rintro ⟨e, he, f, hf, r, hr, bundle, ranked⟩
    obtain ⟨episodes, facts, runbooks⟩ := (rank_returns hot).mp ⟨bundle, ranked⟩
    exact ⟨⟨e, he, episodes⟩, ⟨f, hf, facts⟩, r, hr, runbooks⟩
  case mpr =>
    rintro ⟨⟨e, he, episodes⟩, ⟨f, hf, facts⟩, r, hr, runbooks⟩
    obtain ⟨bundle, ranked⟩ := (rank_returns hot).mpr ⟨episodes, facts, runbooks⟩
    exact ⟨e, he, f, hf, r, hr, bundle, ranked⟩

lemma RowConditions.all_and {p q : RowConditions} : p.All rows ∧ q.All rows ↔
    (∀ row ∈ rows.episodes, p.episode row ∧ q.episode row) ∧ (∀ row ∈ rows.facts, p.fact row ∧ q.fact row) ∧
      ∀ row ∈ rows.runbooks, p.runbook row ∧ q.runbook row := by
  constructor
  case mp =>
    rintro ⟨⟨e, f, r⟩, e', f', r'⟩
    exact ⟨fun row mem => ⟨e row mem, e' row mem⟩, fun row mem => ⟨f row mem, f' row mem⟩,
      fun row mem => ⟨r row mem, r' row mem⟩⟩
  case mpr =>
    rintro ⟨e, f, r⟩
    exact ⟨⟨fun row mem => (e row mem).1, fun row mem => (f row mem).1, fun row mem => (r row mem).1⟩,
      fun row mem => (e row mem).2, fun row mem => (f row mem).2, fun row mem => (r row mem).2⟩

/-- Where `mcp.py` answers. -/
lemma Mcp.ranked_returns {provider : String} (hot : query.coldStart = false) :
    Returns ((Mcp.mappers rt).ranked rt policy query rows provider) ↔
      (sharedConditions rt policy query).All rows ∧ (Mcp.conditions rt).All rows := by
  rw [RowMappers.ranked_returns hot, RowConditions.all_and]
  refine and_congr ?_ (and_congr ?_ ?_)
  · exact forall₂_congr fun row _ => episode_iff.trans (and_congr_right fun _ => Mcp.jsonObject_returns)
  · exact forall₂_congr fun row _ => Mcp.fact_iff
  · exact forall₂_congr fun row _ => Mcp.runbook_iff

/-- Where `recall.py` answers. -/
lemma Direct.ranked_returns {provider : String} (hot : query.coldStart = false) :
    Returns ((Direct.mappers rt).ranked rt policy query rows provider) ↔
      (sharedConditions rt policy query).All rows ∧ (Direct.conditions rt).All rows := by
  rw [RowMappers.ranked_returns hot, RowConditions.all_and]
  refine and_congr ?_ (and_congr ?_ ?_)
  · exact forall₂_congr fun row _ => episode_iff.trans (and_congr_right fun _ => Direct.jsonObject_returns)
  · exact forall₂_congr fun row _ => Direct.fact_iff
  · exact forall₂_congr fun row _ => Direct.runbook_iff

end answers

/-! ## What they show -/

section shown

variable {rt : Runtime} {policy : RecallPolicy} {query : RecallQuery} {rows : List Dict} {c item : MemoryCandidate}
  {items out l l' : List MemoryCandidate} {row : Dict}

/-- What an adapter shows of an episode: the scored columns, over the metadata it reads. -/
structure Shows (rt : Runtime) (jsonObject : Json → Except Raised Dict) (x : Dict × MemoryCandidate)
    (item : MemoryCandidate) : Prop where
  columns : bare x.2 = bare item
  own : ∀ k, k ≠ "actionable" → k ≠ "rank_components" → Assoc.get x.2.metadata k = Assoc.get (episodeKeys rt x.1) k
  metadata : ∃ stored, jsonObject (x.1.get "metadata") = .ok stored ∧
    ∀ k, Assoc.get item.metadata k = (Assoc.get x.2.metadata k).or (Assoc.get stored k)

section same

variable {jsonObject : Json → Except Raised Dict} {x y : Dict × MemoryCandidate} {d : MemoryCandidate}

/-- The keys of the columns are not overwritten. -/
lemma Shows.get (h : Shows rt jsonObject x item) {k : String} (there : Assoc.get (episodeKeys rt x.1) k ≠ none)
    (actionable : k ≠ "actionable") (components : k ≠ "rank_components") :
    item.metadata.get k = x.2.metadata.get k := by
  obtain ⟨stored, _, metadata⟩ := h.metadata
  obtain ⟨v, found⟩ := Option.ne_none_iff_exists'.mp there
  unfold Dict.get Dict.getD
  rw [metadata, h.own k actionable components, found]
  rfl

/-- The ranker orders and groups by the columns. -/
lemma bare_eq {a b : MemoryCandidate} (same : bare a = bare b) :
    a.rankingScore = b.rankingScore ∧ a.similarity = b.similarity ∧ a.memoryId = b.memoryId := by
  have score : (bare a).rankingScore = (bare b).rankingScore := congrArg MemoryCandidate.rankingScore same
  have similarity : (bare a).similarity = (bare b).similarity := congrArg MemoryCandidate.similarity same
  have memoryId : (bare a).memoryId = (bare b).memoryId := congrArg MemoryCandidate.memoryId same
  exact ⟨score, similarity, memoryId⟩

lemma Shows.key (h : Shows rt jsonObject x item) : episodeKey rt x.2 = episodeKey rt item := by
  obtain ⟨_, _, memoryId⟩ := bare_eq h.columns
  unfold episodeKey
  rw [h.get (by simp [episodeKeys, Assoc.get]) (by decide) (by decide),
    h.get (by simp [episodeKeys, Assoc.get]) (by decide) (by decide), memoryId]

lemma Shows.keyLt (h : Shows rt jsonObject x item) (h' : Shows rt jsonObject y d) :
    RecallRanker.keyLt x.2 y.2 = RecallRanker.keyLt item d := by
  obtain ⟨s, r, i⟩ := bare_eq h.columns
  obtain ⟨s', r', i'⟩ := bare_eq h'.columns
  unfold RecallRanker.keyLt
  rw [s, r, i, s', r', i']

end same

end shown

/-! ## The adapters -/

section adapters

variable {rt : Runtime} {policy : RecallPolicy} {query : RecallQuery} {rows : RecallRows} {b b' : RecallBundle}

/-- The tool and the statements return the rows. -/
structure Served (rt : Runtime) (callTool : RecallStatement → Except Raised Json) (env : Nat → Option Raised)
    (rows : RecallRows) : Prop where
  episodes : ∃ result, callTool .episodic = .ok result ∧ Mcp.select rt result = .ok rows.episodes
  facts : ∃ result, callTool .semantic = .ok result ∧ Mcp.select rt result = .ok rows.facts
  runbooks : ∃ result, callTool .procedural = .ok result ∧ Mcp.select rt result = .ok rows.runbooks
  fetched : runReadOnly env 0 3 = none

variable {callTool : RecallStatement → Except Raised Json} {env : Nat → Option Raised}

lemma Served.direct (given : Served rt callTool env rows) (hot : query.coldStart = false)
    (dims : query.embedding.length = 1024) : CockroachRecallAdapter.recallRows rt policy env rows query =
      (Direct.mappers rt).ranked rt policy query rows "c-spann+sql" := by
  unfold CockroachRecallAdapter.recallRows
  rw [hot, if_neg Bool.false_ne_true, if_neg (not_not.mpr dims), given.fetched]

end adapters

/-- A tool that returns the rows. -/
def serve (rows : RecallRows) : RecallStatement → Except Raised Json
  | .episodic => .ok (.arr (rows.episodes.map .obj))
  | .semantic => .ok (.arr (rows.facts.map .obj))
  | .procedural => .ok (.arr (rows.runbooks.map .obj))

namespace Sample

end Sample

end Postmortem
