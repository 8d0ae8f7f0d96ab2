import Postmortem.Backend.Beliefs
import Postmortem.Backend.Eligibility

/-!
# Superseded facts in a recall

A fact that was replaced is still the one in force before its replacement takes effect, so a query that
looks back finds it, with its `superseded_by`. `ClosesLater` is the transition that makes it so, and
`superseded_iff` says that no other does. Recall returns no fact but those (`recall_facts`), so without
such a transition the diagnostics count none.
-/

namespace Postmortem

/-- The call closes a fact that the query finds, from an instant after the query's. -/
def ClosesLater (rt : Runtime) (query : RecallQuery) (facts : List SemanticFact) (op : TransitionOp) : Prop :=
  transitionStep rt facts op ≠ facts ∧ query.asOf < (op.params rt).transitionAt ∧
    ∃ f ∈ facts, f.CurrentOf op.key ∧ FactAdmitted query f

section table

variable {rt : Runtime} {query : RecallQuery} {p : FactParams} {f : SemanticFact}
  {facts facts' : List SemanticFact} {now : Timestamp}

/-- A transition makes a superseded fact of one that the query finds exactly where it closes it later. -/
lemma Transitioned.superseded_iff (adm : FactsAdmitted facts) (moved : Transitioned p now facts facts') :
    (∃ f ∈ facts', FactAdmitted query f ∧ f.supersededBy ≠ none) ↔
      (∃ f ∈ facts, FactAdmitted query f ∧ f.supersededBy ≠ none) ∨
        query.asOf < p.transitionAt ∧ ∃ f ∈ facts, f.CurrentOf p.key ∧ FactAdmitted query f := by
  obtain ⟨_, _, q, _, rfl⟩ := moved
  constructor
  · intro ⟨f', hf', found, superseded⟩
    rcases List.mem_append.mp hf' with hf' | new
    · obtain ⟨f, hf, rfl⟩ := Table.mem_update.mp hf'
      by_cases cur : f.CurrentOf p.key
      · rw [if_pos (decide_eq_true cur)] at found
        obtain ⟨found, later⟩ := (admitted_replacedBy cur).mp found
        exact .inr ⟨later, f, hf, cur, found⟩
      · rw [if_neg (by simpa using cur)] at found superseded
        exact .inl ⟨f, hf, found, superseded⟩
    · obtain rfl := List.mem_singleton.mp new
      exact absurd rfl superseded
  · intro before
    rcases before with ⟨f, hf, found, superseded⟩ | ⟨later, f, hf, cur, found⟩
    · have ended : ¬ f.CurrentOf p.key := fun cur => adm.closed f hf superseded cur.2
      refine ⟨f, List.mem_append_left _ (Table.mem_update.mpr ⟨f, hf, ?_⟩), found, superseded⟩
      rw [if_neg (by simpa using ended)]
    · refine ⟨replacedBy p f, List.mem_append_left _ (Table.mem_update.mpr ⟨f, hf, ?_⟩),
        (admitted_replacedBy cur).mpr ⟨found, later⟩, nofun⟩
      rw [if_pos (decide_eq_true cur)]

/-- A call. -/
lemma transitionStep_superseded_iff {op} (adm : FactsAdmitted facts) :
    (∃ f ∈ transitionStep rt facts op, FactAdmitted query f ∧ f.supersededBy ≠ none) ↔
      (∃ f ∈ facts, FactAdmitted query f ∧ f.supersededBy ≠ none) ∨ ClosesLater rt query facts op := by
  rcases @transitionStep_spec rt facts op adm with idle | ⟨now, moved⟩
  · rw [idle]
    exact (or_iff_left fun closes => closes.1 idle).symm
  · have changed : transitionStep rt facts op ≠ facts := by
      obtain ⟨_, _, q, _, written⟩ := moved
      intro same
      have length := congrArg List.length (written.symm.trans same)
      simp [Table.update] at length
    rw [moved.superseded_iff adm]
    exact or_congr_right ⟨fun h => ⟨changed, h⟩, And.right⟩

/-- After a run from the empty table, a query finds a superseded fact exactly where a call of the run
closed one that it found, from an instant after its own. -/
lemma superseded_iff {ops} :
    (∃ f ∈ Run.run (transitionStep rt) [] ops, FactAdmitted query f ∧ f.supersededBy ≠ none) ↔
      ∃ before op after, ops = before ++ op :: after ∧
        ClosesLater rt query (Run.run (transitionStep rt) [] before) op := by
  induction ops using List.reverseRecOn with
  | nil => simp
  | append_singleton ops op ih =>
    have adm : FactsAdmitted (Run.run (transitionStep rt) [] ops) := transitions_admitted .empty
    rw [Run.split_concat (P := fun before op =>
      ClosesLater rt query (Run.run (transitionStep rt) [] before) op), ← ih, Run.run_append]
    exact transitionStep_superseded_iff adm

end table

/-! ## What recall returns -/

/-- `diagnostics["bitemporal"]["stale_facts_returned"]` -/
def RecallBundle.staleFactsReturned (bundle : RecallBundle) : Json :=
  match bundle.diagnostics.get "bitemporal" with
  | .obj fields => Dict.get fields "stale_facts_returned"
  | _ => .null

section recalled

open RecallRanker

variable {rt : Runtime} {ann : AnnSearch} {policy : RecallPolicy} {env : Nat → Option Raised}
  {query : RecallQuery} {db : Database} {bundle : RecallBundle}

lemma scoreFact_get {c item k} (h : scoreFact rt policy query c = .ok item) (actionable : "actionable" ≠ k)
    (components : "rank_components" ≠ k) : item.metadata.get k = c.metadata.get k := by
  obtain ⟨recency, _, e⟩ := bind_ok h
  cases e
  apply Dict.get_update_of_not_mem
  intro f hf
  simp only [List.mem_cons, List.not_mem_nil, or_false] at hf
  rcases hf with rfl | rfl
  · exact actionable
  · exact components

/-- The diagnostics count the returned facts that carry a `superseded_by`. -/
lemma rank_stale {episodes facts runbooks} (hot : query.coldStart = false)
    (h : rank rt policy query episodes facts runbooks = .ok bundle) :
    bundle.staleFactsReturned =
      .int (bundle.facts.countP fun item => item.metadata.get "superseded_by" ≠ .null) := by
  unfold rank at h
  rw [hot, if_neg Bool.false_ne_true] at h
  obtain ⟨acceptedEpisodes, _, h⟩ := bind_ok h
  obtain ⟨acceptedFacts, _, h⟩ := bind_ok h
  obtain ⟨acceptedRunbooks, _, e⟩ := bind_ok h
  cases e
  rfl

/-- A returned fact shows the `superseded_by` of a fact that the statement admits. -/
lemma recall_facts (h : CockroachRecallAdapter.recall rt ann policy env query db = .ok bundle) :
    ∀ item ∈ bundle.facts, ∃ f ∈ db.semanticFacts, FactAdmitted query f ∧
      item.metadata.get "superseded_by" = uuidText f.supersededBy := by
  obtain ⟨cold, ranked⟩ | ⟨_, limit, runbooks, bundle', _, _, ranked, rfl⟩ :=
    CockroachRecallAdapter.recall_ranked h
  · rw [(rank_cold cold ranked).2.1]
    exact List.forall_mem_nil _
  · intro item mem
    obtain ⟨c, hc, _, scored⟩ := (rank_spec ranked).2.1 item mem
    obtain ⟨row, hrow, rfl⟩ := List.mem_map.mp hc
    obtain ⟨⟨f, s⟩, hn, rfl⟩ := List.mem_map.mp hrow
    obtain ⟨stored, admitted⟩ := List.mem_filter.mp (mem_nearest (List.mem_filter.mp hn).1)
    refine ⟨f, stored, of_decide_eq_true admitted, ?_⟩
    rw [scoreFact_get scored (by decide) (by decide)]
    rfl

/-- A recall counts as its ranking does. -/
lemma recall_stale (hot : query.coldStart = false)
    (h : CockroachRecallAdapter.recall rt ann policy env query db = .ok bundle) :
    bundle.staleFactsReturned =
      .int (bundle.facts.countP fun item => item.metadata.get "superseded_by" ≠ .null) := by
  obtain ⟨cold, _⟩ | ⟨_, limit, runbooks, bundle', _, _, ranked, rfl⟩ :=
    CockroachRecallAdapter.recall_ranked h
  · rw [hot] at cold
    cases cold
  · rw [← rank_stale hot ranked]
    unfold RecallBundle.staleFactsReturned
    rw [Dict.get_set_ne (by decide)]

end recalled

/-- Recall returns no superseded fact, and its diagnostics count none, where no transition of the run
closed a fact that the query finds from an instant after the query's; and only such a transition lets the
statement find a superseded fact. -/
theorem no_stale_facts (rt : Runtime) (query : RecallQuery) (ops : List TransitionOp) :
    ((∀ f ∈ Run.run (transitionStep rt) [] ops, FactAdmitted query f → f.supersededBy = none) ↔
      ∀ before op after, ops = before ++ op :: after →
        ¬ ClosesLater rt query (Run.run (transitionStep rt) [] before) op) ∧
    ((∀ before op after, ops = before ++ op :: after →
        ¬ ClosesLater rt query (Run.run (transitionStep rt) [] before) op) →
      ∀ ann policy env db bundle, db.semanticFacts = Run.run (transitionStep rt) [] ops →
        CockroachRecallAdapter.recall rt ann policy env query db = .ok bundle →
        (∀ item ∈ bundle.facts, item.metadata.get "superseded_by" = .null) ∧
          (query.coldStart = false → bundle.staleFactsReturned = .int 0)) := by
  have exact : (∀ f ∈ Run.run (transitionStep rt) [] ops, FactAdmitted query f → f.supersededBy = none) ↔
      ∀ before op after, ops = before ++ op :: after →
        ¬ ClosesLater rt query (Run.run (transitionStep rt) [] before) op := by
    have found := not_congr (@superseded_iff rt query ops)
    simpa only [not_exists, not_and, not_not] using found
  refine ⟨exact, fun earlier ann policy env db bundle stored recalled => ?_⟩
  have current := exact.mpr earlier
  have fresh : ∀ item ∈ bundle.facts, item.metadata.get "superseded_by" = .null := by
    intro item mem
    obtain ⟨f, hf, admitted, shown⟩ := recall_facts recalled item mem
    rw [shown, current f (stored ▸ hf) admitted]
    rfl
  refine ⟨fresh, fun hot => ?_⟩
  have none : bundle.facts.countP (fun item => item.metadata.get "superseded_by" ≠ .null) = 0 := by
    rw [List.countP_eq_zero]
    intro item mem
    simp [fresh item mem]
  rw [recall_stale hot recalled, none]
  rfl

namespace Sample

/-- A query at the instant. -/
def lookback (t : Timestamp) : RecallQuery where
  orgId := org
  agentId := agent
  serviceId := service
  text := "errors"
  embedding := embedding
  asOf := t

/-- A fact, and its replacement from 10 on. -/
def replacement : List TransitionOp := [transition agent 7 0 0, transition agent 8 10 10]

/-- The database after the replacement. -/
def replaced : Database :=
  { db with semanticFacts := Run.run (transitionStep Runtime.sample) [] replacement }

lemma replaced_facts :
    replaced.semanticFacts = Run.run (transitionStep Runtime.sample) [] replacement := by
  unfold replaced
  dsimp only

/-- A recall from it. -/
def recallAt (t : Timestamp) : Except Raised RecallBundle :=
  CockroachRecallAdapter.recall Runtime.sample (AnnSearch.exact Runtime.sample) {} (fun _ => none)
    (lookback t) replaced

end Sample

/-- A query at 5, after the fact was replaced from 10 on: recall returns the fact that is in force at 5,
and counts it as stale. -/
theorem replaced_fact_counted : ∃ bundle, Sample.recallAt 5 = .ok bundle ∧
    bundle.facts.map MemoryCandidate.memoryId = [.sample 7] ∧ bundle.staleFactsReturned = .int 1 := by
  have run : (Sample.recallAt 5).map (fun bundle =>
      (bundle.facts.map MemoryCandidate.memoryId, bundle.staleFactsReturned)) =
      .ok ([.sample 7], .int 1) := by decide +kernel
  cases recalled : Sample.recallAt 5 with
  | error e => rw [recalled] at run; cases run
  | ok bundle =>
    rw [recalled] at run
    obtain ⟨facts, stale⟩ := Prod.mk.inj (Except.ok.inj run)
    exact ⟨bundle, rfl, facts, stale⟩

/-- `no_stale_facts` on a query at 25. -/
theorem no_stale_facts_sample : ∃ bundle, Sample.recallAt 25 = .ok bundle ∧
    bundle.facts.map MemoryCandidate.memoryId = [.sample 8] ∧ bundle.staleFactsReturned = .int 0 := by
  have run : (Sample.recallAt 25).map (fun bundle => bundle.facts.map MemoryCandidate.memoryId) =
      .ok [.sample 8] := by decide +kernel
  have current : ∀ f ∈ Run.run (transitionStep Runtime.sample) [] Sample.replacement,
      FactAdmitted (Sample.lookback 25) f → f.supersededBy = none := by decide +kernel
  obtain ⟨exact, unstale⟩ := no_stale_facts Runtime.sample (Sample.lookback 25) Sample.replacement
  cases recalled : Sample.recallAt 25 with
  | error e => rw [recalled] at run; cases run
  | ok bundle =>
    rw [recalled] at run
    have counted := unstale (exact.mp current) (AnnSearch.exact Runtime.sample) {} (fun _ => none)
      Sample.replaced bundle Sample.replaced_facts recalled
    exact ⟨bundle, rfl, Except.ok.inj run, counted.2 rfl⟩

end Postmortem
