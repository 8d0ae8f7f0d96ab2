import Postmortem.Backend.Facts
import Postmortem.System
import Postmortem.Lib.Timeline

/-!
# Beliefs over time

What runs of `transition_fact` make of `semantic_facts`. The rows of a key are a timeline: `History`
says that they store, in order, the facts that were ever believed, each with the one that replaced it.
A committed transition adds one fact to the timeline of its key (`History.transition`), and every
result below is read off the timeline.
-/

namespace Postmortem

/-- The rows of a key, in the order of their insertion. -/
def rowsOf (k : FactKey) (facts : List SemanticFact) : List SemanticFact :=
  facts.filter fun f => f.key = k

/-- The row a fact and its successor are stored as. -/
def stored (b : SemanticFact × Option SemanticFact) : SemanticFact :=
  { b.1 with
    validTo := b.2.map SemanticFact.validFrom
    supersededBy := b.2.map SemanticFact.factId }

/-- The rows of the key store the timeline `h`. -/
structure History (k : FactKey) (facts h : List SemanticFact) : Prop where
  rows : rowsOf k facts = (Timeline.withNext h).map stored
  ordered : Timeline.Ordered SemanticFact.validFrom h
  born : ∀ f ∈ h, f.CurrentOf k

/-- A transition of another key leaves the timeline, one of the key itself extends it. -/
lemma History.transition {k p now facts facts' h} (hist : History k facts h)
    (moved : Transitioned p now facts facts') :
    (p.key ≠ k → History k facts' h) ∧
      (p.key = k → ∃ q, History k facts' (h ++ [newFact p now q])) := by
  obtain ⟨later, _, q, _, rfl⟩ := moved
  have split : rowsOf k (Table.update (fun f => f.CurrentOf p.key) (replacedBy p) facts ++
      [newFact p now q]) =
      Table.update (fun f => f.CurrentOf p.key) (replacedBy p) (rowsOf k facts) ++
        rowsOf k [newFact p now q] := by
    have inKey : ∀ f ∈ facts, decide ((replacedBy p f).key = k) = decide (f.key = k) :=
      fun _ _ => rfl
    rw [rowsOf, List.filter_append, Table.filter_update inKey]
    rfl
  constructor
  · intro other
    refine ⟨?_, hist.ordered, hist.born⟩
    have untouched : ∀ f ∈ rowsOf k facts, decide (f.CurrentOf p.key) = false := by
      intro f hf
      have key : f.key = k := by simpa using (List.mem_filter.mp hf).2
      exact decide_eq_false fun cur => other (cur.1.symm.trans key)
    have none_new : rowsOf k [newFact p now q] = [] := by
      have key : ¬ (newFact p now q).key = k := other
      simp [rowsOf, key]
    rw [split, Table.update_eq_self untouched, none_new, List.append_nil, hist.rows]
  · intro same
    refine ⟨q, ?_, ?_, ?_⟩
    · have one_new : rowsOf k [newFact p now q] = [newFact p now q] := by
        have key : (newFact p now q).key = k := same
        simp [rowsOf, key]
      have closes : Table.update (fun f => f.CurrentOf p.key) (replacedBy p)
          ((Timeline.withNext h).map stored) =
          (Timeline.withNext h).map fun b => stored (b.1, some (b.2.getD (newFact p now q))) := by
        rw [Table.update, List.map_map]
        apply List.map_congr_left
        rintro ⟨b, next⟩ hb
        have born := hist.born b (Timeline.mem_withNext hb).1
        cases next with
        | none =>
          have cur : (stored (b, none)).CurrentOf p.key := ⟨born.1.trans same.symm, rfl⟩
          simp only [Function.comp_apply, cur, decide_true, if_true]
          rfl
        | some c =>
          have ended : ¬ (stored (b, some c)).CurrentOf p.key := by
            rintro ⟨_, ⟨⟩⟩
          simp only [Function.comp_apply, ended, decide_false]
          rfl
      rw [split, one_new, hist.rows, closes, Timeline.withNext_concat, List.map_append,
        List.map_map]
      rfl
    · apply hist.ordered.concat
      intro b last
      have row : stored (b, none) ∈ rowsOf k facts := by
        rw [hist.rows]
        exact List.mem_map.mpr ⟨(b, none), Timeline.open_iff.mpr last, rfl⟩
      have born := hist.born b (List.mem_of_mem_getLast? last)
      exact later (stored (b, none)) (List.mem_filter.mp row).1 ⟨born.1.trans same.symm, rfl⟩
    · intro f hf
      rcases List.mem_append.mp hf with hf | hf
      · exact hist.born f hf
      · obtain rfl := List.mem_singleton.mp hf
        exact ⟨same, rfl⟩

lemma History.step {rt facts op} (adm : FactsAdmitted facts) (hist : ∀ k, ∃ h, History k facts h) :
    ∀ k, ∃ h, History k (transitionStep rt facts op) h := by
  intro k
  obtain ⟨h, hk⟩ := hist k
  rcases @transitionStep_spec rt facts op adm with idle | ⟨now, moved⟩
  · rw [idle]
    exact ⟨h, hk⟩
  · obtain ⟨other, same⟩ := hk.transition moved
    by_cases e : (op.params rt).key = k
    · obtain ⟨q, hq⟩ := same e
      exact ⟨_, hq⟩
    · exact ⟨h, other e⟩

lemma History.run {rt ops} (k : FactKey) :
    ∃ h, History k (Run.run (transitionStep rt) [] ops) h := by
  have start : FactsAdmitted [] ∧ ∀ k, ∃ h, History k [] h :=
    ⟨.empty, fun k => ⟨[], rfl, List.Pairwise.nil, List.forall_mem_nil _⟩⟩
  have both := @Run.run_invariant _ _ (transitionStep rt)
    (fun facts => FactsAdmitted facts ∧ ∀ k, ∃ h, History k facts h) ops []
    (fun _ _ _ inv => ⟨transitionStep_admitted inv.1, History.step inv.1 inv.2⟩) start
  exact both.2 k

/-! ## One chain for each key -/

/-- The fact is in force at `t`, by valid time. -/
def SemanticFact.ValidAt (t : Timestamp) (f : SemanticFact) : Prop :=
  f.validFrom ≤ t ∧ ∀ u, f.validTo = some u → t < u

/-- The rows form one chain, in the order of their insertion. -/
structure Chain (rows : List SemanticFact) : Prop where
  consecutive : rows.IsChain fun r s => r.supersededBy = some s.factId ∧
    r.validTo = some s.validFrom ∧ r.validFrom < s.validFrom
  oneOpen : ∀ r ∈ rows, ∀ s ∈ rows, r.validTo = none → s.validTo = none → r = s
  linked : ∀ r ∈ rows, ∀ t, r.validTo = some t →
    ∃ s ∈ rows, r.supersededBy = some s.factId ∧ s.validFrom = t ∧ r.validFrom < s.validFrom
  disjoint : ∀ r ∈ rows, ∀ s ∈ rows, ∀ t, r.ValidAt t → s.ValidAt t → r = s

lemma inForce_iff {b : SemanticFact × Option SemanticFact} {t} :
    (stored b).ValidAt t ↔ Timeline.InForce SemanticFact.validFrom t b := by
  obtain ⟨f, next⟩ := b
  cases next with
  | none =>
    refine and_congr_right fun _ => ⟨?_, ?_⟩
    · rintro _ m e
      cases e
    · rintro _ u e
      cases e
  | some n =>
    refine and_congr_right fun _ => ⟨?_, ?_⟩
    · rintro h m ⟨⟩
      exact h _ rfl
    · rintro h u ⟨⟩
      exact h n rfl

lemma History.chain {k facts h} (hist : History k facts h) : Chain (rowsOf k facts) := by
  have row : ∀ r ∈ rowsOf k facts, ∃ b ∈ Timeline.withNext h, stored b = r := by
    intro r hr
    rw [hist.rows] at hr
    exact List.mem_map.mp hr
  constructor
  case consecutive =>
    rw [hist.rows]
    apply (List.isChain_map stored).mpr
    apply hist.ordered.isChain.imp
    rintro ⟨b, next⟩ ⟨c, next'⟩ ⟨rfl, lt⟩
    exact ⟨rfl, rfl, lt⟩
  case oneOpen =>
    intro r hr s hs or os
    obtain ⟨⟨b, next⟩, hb, rfl⟩ := row r hr
    obtain ⟨⟨c, next'⟩, hc, rfl⟩ := row s hs
    obtain rfl : next = none := Option.map_eq_none_iff.mp or
    obtain rfl : next' = none := Option.map_eq_none_iff.mp os
    have last := (Timeline.open_iff.mp hb).symm.trans (Timeline.open_iff.mp hc)
    rw [Option.some.inj last]
  case linked =>
    intro r hr t ht
    obtain ⟨⟨b, next⟩, hb, rfl⟩ := row r hr
    obtain ⟨n, rfl, rfl⟩ := Option.map_eq_some_iff.mp ht
    -- the successor is an entry of the timeline, so it has a row of its own
    have hn := (Timeline.mem_withNext hb).2 n rfl
    obtain ⟨⟨n', next⟩, hp, e⟩ := List.mem_map.mp
      (show n ∈ (Timeline.withNext h).map Prod.fst by rw [Timeline.map_fst_withNext]; exact hn)
    obtain rfl : n' = n := e
    have lt : b.validFrom < n'.validFrom := hist.ordered.lt_next hb
    refine ⟨stored (n', next), ?_, rfl, rfl, lt⟩
    rw [hist.rows]
    exact List.mem_map.mpr ⟨_, hp, rfl⟩
  case disjoint =>
    intro r hr s hs t vr vs
    obtain ⟨b, hb, rfl⟩ := row r hr
    obtain ⟨c, hc, rfl⟩ := row s hs
    rw [hist.ordered.inForce_unique hb hc (inForce_iff.mp vr) (inForce_iff.mp vs)]

/-- Runs of transitions from the empty table keep the rows of every key one chain, and a call after any
run that raises leaves the table as it was, unless the acknowledgement of its commit was lost. -/
theorem transitions_chain {rt ops} :
    (∀ k, Chain (rowsOf k (Run.run (transitionStep rt) [] ops))) ∧
      ∀ op : TransitionOp, (∀ n g ack, op.env.attempt n ≠ .commitLost g ack) →
        ∀ e, (transitionFact op.call op.env rt (Run.run (transitionStep rt) [] ops)).2 = .error e →
          (transitionFact op.call op.env rt (Run.run (transitionStep rt) [] ops)).1 =
            Run.run (transitionStep rt) [] ops := by
  constructor
  · intro k
    obtain ⟨h, hist⟩ := @History.run rt ops k
    exact hist.chain
  · intro op acknowledged e raised
    have adm : FactsAdmitted (Run.run (transitionStep rt) [] ops) := transitions_admitted .empty
    have ended := @transitionFact_ended op.call op.env rt _ adm
    generalize transitionFact op.call op.env rt _ = out at *
    cases ended with
    | failed => rfl
    | committed => cases raised
    | lost fate _ => exact absurd fate (acknowledged _ _ _)

namespace Sample

/-- A transition of one fact about the service, by the agent. -/
def transition (who : Uuid) (id : Fin 16) (start recorded : Timestamp) : TransitionOp where
  call := {
    orgId := org
    agentId := who
    subject := "service:checkout"
    predicate := "depends_on"
    objectValue := .str "fraud-scoring"
    embedding := embedding
    transitionAt := some start }
  env := {
    newFactId := .sample id
    clock := recorded
    attempt := fun _ => .commit { generated with now := recorded } }

/-- The same, where the connection breaks after the commit. -/
def transitionLost : TransitionOp :=
  { transition agent 7 0 0 with
    env := {
      newFactId := .sample 7
      clock := 0
      attempt := fun _ => .commitLost { generated with now := 0 } .connectionLost } }

end Sample

/-- A transition dated before the fact it would replace raises and changes nothing. -/
theorem transitions_chain_sample :
    (transitionFact (Sample.transition Sample.agent 8 5 20).call
        (Sample.transition Sample.agent 8 5 20).env Runtime.sample
        (Run.run (transitionStep Runtime.sample) [] [Sample.transition Sample.agent 7 10 10])).1 =
      Run.run (transitionStep Runtime.sample) [] [Sample.transition Sample.agent 7 10 10] := by
  apply (@transitions_chain Runtime.sample [Sample.transition Sample.agent 7 10 10]).2
    (Sample.transition Sample.agent 8 5 20) nofun
    (transitionFailed (.database .checkViolation))
  decide +kernel

/-- A call whose acknowledgement is lost raises, and its fact is in the table. -/
theorem lost_transition_raises :
    (transitionFact Sample.transitionLost.call Sample.transitionLost.env Runtime.sample []).2 =
        .error (transitionFailed LostAck.connectionLost.raised) ∧
      (transitionFact Sample.transitionLost.call Sample.transitionLost.env Runtime.sample []).1 ≠ [] := by
  decide +kernel

/-! ## The belief an as-of query finds -/

/-- The statement's test on a fact of the query's organization and agent. -/
lemma factAdmitted_iff {query} {f : SemanticFact} (org : f.orgId = query.orgId)
    (agent : f.agentId = query.agentId) :
    FactAdmitted query f ↔ f.ValidAt query.asOf ∧ f.recordedAt ≤ query.asOf := by
  simp [FactAdmitted, SemanticFact.ValidAt, org, agent, and_assoc]

/-- The calls of a run are on one key and of one agent. -/
def OnKey (k : FactKey) (agent : Uuid) (ops : List TransitionOp) : Prop :=
  ∀ op ∈ ops, op.key = k ∧ op.call.agentId = agent

/-- Then every row of the key is the agent's. -/
lemma OnKey.agent {rt k agent ops} (on : OnKey k agent ops) :
    ∀ f ∈ rowsOf k (Run.run (transitionStep rt) [] ops), f.agentId = agent := by
  have both := @Run.run_invariant _ _ (transitionStep rt)
    (fun facts => FactsAdmitted facts ∧ ∀ f ∈ facts, f.agentId = agent) ops [] ?step
    ⟨.empty, List.forall_mem_nil _⟩
  case step =>
    rintro facts op ho ⟨adm, all⟩
    refine ⟨transitionStep_admitted adm, ?_⟩
    intro f hf
    rcases @transitionStep_spec rt facts op adm with idle | ⟨now, _, _, q, _, written⟩
    · rw [idle] at hf
      exact all f hf
    · rw [written] at hf
      rcases List.mem_append.mp hf with hf | hf
      · obtain ⟨s, hs, rfl⟩ := Table.mem_update.mp hf
        split <;> exact all s hs
      · obtain rfl := List.mem_singleton.mp hf
        exact (on op ho).2
  intro f hf
  exact both.2 f (List.mem_filter.mp hf).1

/-- At any instant from the start of the first fact on, exactly one fact of the key is in force; the
query finds exactly that one where it was recorded by then, and none where it was not. -/
theorem one_belief_as_of {rt k agent ops query first} (on : OnKey k agent ops)
    (org : query.orgId = k.1) (reader : query.agentId = agent)
    (head : (rowsOf k (Run.run (transitionStep rt) [] ops)).head? = some first)
    (started : first.validFrom ≤ query.asOf) :
    ∃ f ∈ rowsOf k (Run.run (transitionStep rt) [] ops),
      (∀ g ∈ rowsOf k (Run.run (transitionStep rt) [] ops), g.ValidAt query.asOf ↔ g = f) ∧
      (rowsOf k (Run.run (transitionStep rt) [] ops)).filter (fun g => FactAdmitted query g) =
        if f.recordedAt ≤ query.asOf then [f] else [] := by
  have agents := @OnKey.agent rt k agent ops on
  obtain ⟨h, hist⟩ := @History.run rt ops k
  have keys : ∀ f ∈ rowsOf k (Run.run (transitionStep rt) [] ops), f.key = k := by
    intro f hf
    simpa using (List.mem_filter.mp hf).2
  have rows_eq := hist.rows
  generalize rowsOf k (Run.run (transitionStep rt) [] ops) = rows at *
  subst rows_eq
  classical
  obtain ⟨b0, hb0, begun⟩ : ∃ b0, h.head? = some b0 ∧ b0.validFrom ≤ query.asOf := by
    cases h with
    | nil => cases head
    | cons b0 h =>
      obtain rfl : stored (b0, h.head?) = first := Option.some.inj head
      exact ⟨b0, rfl, started⟩
  obtain ⟨b, hb, one, inForce⟩ := hist.ordered.one_inForce hb0 begun
  refine ⟨stored b, List.mem_map.mpr ⟨b, hb, rfl⟩, ?_, ?_⟩
  · intro g hg
    obtain ⟨c, hc, rfl⟩ := List.mem_map.mp hg
    constructor
    · intro valid
      rw [(inForce c hc).mp (inForce_iff.mp valid)]
    · intro same
      rw [same]
      exact inForce_iff.mpr ((inForce b hb).mpr rfl)
  · have tested : ∀ c ∈ Timeline.withNext h, decide (FactAdmitted query (stored c)) =
        (decide (Timeline.InForce SemanticFact.validFrom query.asOf c) &&
          decide ((stored c).recordedAt ≤ query.asOf)) := by
      intro c hc
      have mem : stored c ∈ (Timeline.withNext h).map stored := List.mem_map.mpr ⟨c, hc, rfl⟩
      have key := keys _ mem
      have admitted : FactAdmitted query (stored c) ↔ _ :=
        factAdmitted_iff ((congrArg Prod.fst key).trans org.symm) ((agents _ mem).trans reader.symm)
      rw [Bool.eq_iff_iff, Bool.and_eq_true, decide_eq_true_iff, decide_eq_true_iff,
        decide_eq_true_iff, admitted, inForce_iff]
    have found : ((Timeline.withNext h).map stored).filter (fun g => FactAdmitted query g) =
        ([b].filter fun c => decide ((stored c).recordedAt ≤ query.asOf)).map stored := by
      rw [List.filter_map, ← one, List.filter_filter]
      congr 1
      apply List.filter_congr
      intro c hc
      rw [Bool.and_comm]
      exact tested c hc
    rw [found]
    by_cases recorded : (stored b).recordedAt ≤ query.asOf
    · rw [if_pos recorded, List.filter_singleton, decide_eq_true recorded]
      rfl
    · rw [if_neg recorded, List.filter_singleton, decide_eq_false recorded]
      rfl

/-- An as-of query of the agent, at the instant. -/
def asOfQuery (org agent : Uuid) (t : Timestamp) : RecallQuery where
  orgId := org
  agentId := agent
  serviceId := .nil
  text := ""
  embedding := []
  asOf := t

namespace Sample

def beliefKey : FactKey := (org, "service:checkout", "depends_on")

/-- A first fact, and a second one that takes effect before it is recorded. -/
def beliefCalls : List TransitionOp := [transition agent 7 0 0, transition agent 8 10 20]

def beliefs : List SemanticFact := Run.run (transitionStep Runtime.sample) [] beliefCalls

end Sample

/-- A transition with effect from 10, recorded at 20: at 25 the query finds it, and nothing else. -/
theorem one_belief_as_of_sample :
    ∃ f ∈ rowsOf Sample.beliefKey Sample.beliefs,
      (∀ g ∈ rowsOf Sample.beliefKey Sample.beliefs, g.ValidAt 25 ↔ g = f) ∧
      (rowsOf Sample.beliefKey Sample.beliefs).filter
          (fun g => FactAdmitted (asOfQuery Sample.org Sample.agent 25) g) =
        if f.recordedAt ≤ 25 then [f] else [] := by
  have on : OnKey Sample.beliefKey Sample.agent Sample.beliefCalls := by
    intro op ho
    rcases List.mem_cons.mp ho with rfl | ho
    · exact ⟨rfl, rfl⟩
    · obtain rfl := List.mem_singleton.mp ho
      exact ⟨rfl, rfl⟩
  obtain ⟨first, head, started⟩ : ∃ first, (rowsOf Sample.beliefKey Sample.beliefs).head? = some first ∧
      first.validFrom ≤ 25 := by decide +kernel
  exact @one_belief_as_of Runtime.sample Sample.beliefKey Sample.agent Sample.beliefCalls
    (asOfQuery Sample.org Sample.agent 25) first on rfl rfl head started

/-- The same run at 15: every transition took effect no later than it was recorded and the first fact
was recorded at 0, and the query finds no fact at all. -/
theorem belief_gap :
    (∀ op ∈ Sample.beliefCalls, ∃ g, op.env.attempt 0 = .commit g ∧
        (op.params Runtime.sample).transitionAt ≤ g.now) ∧
      (∃ first, (rowsOf Sample.beliefKey Sample.beliefs).head? = some first ∧
        first.recordedAt ≤ 15) ∧
      (rowsOf Sample.beliefKey Sample.beliefs).filter
        (fun g => FactAdmitted (asOfQuery Sample.org Sample.agent 15) g) = [] := by
  refine ⟨?_, by decide +kernel, by decide +kernel⟩
  intro op ho
  rcases List.mem_cons.mp ho with rfl | ho
  · exact ⟨_, rfl, by decide⟩
  · obtain rfl := List.mem_singleton.mp ho
    exact ⟨_, rfl, by decide⟩

/-! ## What another agent's transition does -/

/-- The facts the recall statement's test admits, by identifier. -/
def seen (query : RecallQuery) (facts : List SemanticFact) : List Uuid :=
  (facts.filter fun f => FactAdmitted query f).map SemanticFact.factId

/-- A query finds the closed fact up to the transition. -/
lemma admitted_replacedBy {p f} {query : RecallQuery} (cur : f.CurrentOf p.key) :
    FactAdmitted query (replacedBy p f) ↔ FactAdmitted query f ∧ query.asOf < p.transitionAt := by
  simp [FactAdmitted, replacedBy, cur.2, and_assoc, and_comm]

/-- A committed transition takes from another agent's facts the one it closes, from its own start on. -/
lemma Transitioned.seen {p now facts facts'} {query : RecallQuery}
    (moved : Transitioned p now facts facts') (other : query.agentId ≠ p.agentId) :
    seen query facts' =
      seen query (facts.filter fun f => ¬ (f.CurrentOf p.key ∧ p.transitionAt ≤ query.asOf)) := by
  obtain ⟨_, _, q, _, rfl⟩ := moved
  have new : ¬ FactAdmitted query (newFact p now q) := fun h => other h.2.1.symm
  have none_new : [newFact p now q].filter (fun f => decide (FactAdmitted query f)) = [] := by
    simp [new]
  unfold Postmortem.seen
  rw [List.filter_append, none_new, List.append_nil, List.filter_filter]
  have keep : ∀ f, (replacedBy p f).factId = f.factId := fun _ => rfl
  apply Table.map_filter_update keep
  intro f _
  by_cases cur : f.CurrentOf p.key
  · simp [cur, admitted_replacedBy cur]
  · simp [cur]

/-- The fact it closes is not found from there on. -/
lemma Transitioned.not_seen {p now facts facts' f} {query : RecallQuery} (adm : FactsAdmitted facts)
    (moved : Transitioned p now facts facts') (other : query.agentId ≠ p.agentId) (hf : f ∈ facts)
    (cur : f.CurrentOf p.key) (late : p.transitionAt ≤ query.asOf) :
    f.factId ∉ Postmortem.seen query facts' := by
  intro found
  rw [moved.seen other] at found
  obtain ⟨g, hg, e⟩ := List.mem_map.mp found
  obtain ⟨hg, kept⟩ := List.mem_filter.mp (List.mem_filter.mp hg).1
  obtain rfl := adm.ids.eq hg hf e
  exact of_decide_eq_true kept ⟨cur, late⟩

/-- Where that fact is not the reader's, nothing is taken. -/
lemma Transitioned.seen_eq {p now facts facts'} {query : RecallQuery}
    (moved : Transitioned p now facts facts') (other : query.agentId ≠ p.agentId)
    (foreign : ∀ f ∈ facts, f.CurrentOf p.key → f.agentId ≠ query.agentId) :
    Postmortem.seen query facts' = Postmortem.seen query facts := by
  rw [moved.seen other, Postmortem.seen, Postmortem.seen, List.filter_filter]
  congr 1
  apply List.filter_congr
  intro f hf
  by_cases cur : f.CurrentOf p.key
  · have no : ¬ FactAdmitted query f := fun h => foreign f hf cur h.2.1
    simp [no]
  · simp [cur]

/-- An agent finds its current fact from its start and its record on. -/
lemma mem_seen_of_current {k f t} {facts : List SemanticFact} (hf : f ∈ facts) (cur : f.CurrentOf k)
    (started : f.validFrom ≤ t) (recorded : f.recordedAt ≤ t) :
    f.factId ∈ seen (asOfQuery f.orgId f.agentId t) facts := by
  refine List.mem_map.mpr ⟨f, List.mem_filter.mpr ⟨hf, decide_eq_true ?_⟩, rfl⟩
  refine ⟨rfl, rfl, started, ?_, recorded⟩
  rw [cur.2]
  exact nofun

/-- After any run from an admitted table, a call of one agent takes from what another agent's queries find
at most the fact it closes, from the transition on; and it takes nothing exactly where it does not
commit or the fact that is current for its key is not the other agent's. -/
theorem other_agent_sees {rt facts before op agent} (adm : FactsAdmitted facts)
    (other : agent ≠ op.call.agentId) :
    (Run.run (transitionStep rt) facts (before ++ [op]) = Run.run (transitionStep rt) facts before ∨
      ∀ query : RecallQuery, query.agentId = agent →
        seen query (Run.run (transitionStep rt) facts (before ++ [op])) =
          seen query ((Run.run (transitionStep rt) facts before).filter fun f =>
            ¬ (f.CurrentOf op.key ∧ (op.params rt).transitionAt ≤ query.asOf))) ∧
    ((∀ query : RecallQuery, query.agentId = agent →
        seen query (Run.run (transitionStep rt) facts (before ++ [op])) =
          seen query (Run.run (transitionStep rt) facts before)) ↔
      Run.run (transitionStep rt) facts (before ++ [op]) = Run.run (transitionStep rt) facts before ∨
        ∀ f ∈ Run.run (transitionStep rt) facts before, f.CurrentOf op.key → f.agentId ≠ agent) := by
  have adm : FactsAdmitted (Run.run (transitionStep rt) facts before) := transitions_admitted adm
  rw [Run.run_append]
  show (transitionStep rt _ op = _ ∨ _) ∧ (_ ↔ transitionStep rt _ op = _ ∨ _)
  generalize Run.run (transitionStep rt) facts before = pre at *
  rw [Run.run_cons, Run.run_nil]
  rcases @transitionStep_spec rt pre op adm with idle | ⟨now, moved⟩
  · exact ⟨.inl idle, fun _ => .inl idle, fun _ query _ => by rw [idle]⟩
  · refine ⟨.inr ?_, ?_, ?_⟩
    · intro query reader
      exact moved.seen (by rw [reader]; exact other)
    · intro same
      right
      rintro f hf cur rfl
      -- the agent asks late enough to find the fact before the transition and to miss it after
      let late := max (max f.validFrom f.recordedAt) (op.params rt).transitionAt
      have found : f.factId ∈ seen (asOfQuery f.orgId f.agentId late) pre := by
        apply mem_seen_of_current hf cur
        · exact le_trans (le_max_left _ _) (le_max_left _ _)
        · exact le_trans (le_max_right _ _) (le_max_left _ _)
      rw [← same _ rfl] at found
      exact moved.not_seen adm other hf cur (le_max_right _ _) found
    · rintro (idle | foreign) query rfl
      · rw [idle]
      · exact moved.seen_eq other foreign

/-- One agent believes a fact, and another one's transition of the same key closes it. -/
theorem other_agent_sees_sample :
    (∀ query : RecallQuery, query.agentId = Sample.agent →
        seen query (Run.run (transitionStep Runtime.sample) []
          ([Sample.transition Sample.agent 7 0 0] ++ [Sample.transition (.sample 9) 8 10 10])) =
        seen query (Run.run (transitionStep Runtime.sample) [] [Sample.transition Sample.agent 7 0 0])) ↔
      Run.run (transitionStep Runtime.sample) []
          ([Sample.transition Sample.agent 7 0 0] ++ [Sample.transition (.sample 9) 8 10 10]) =
        Run.run (transitionStep Runtime.sample) [] [Sample.transition Sample.agent 7 0 0] ∨
      ∀ f ∈ Run.run (transitionStep Runtime.sample) [] [Sample.transition Sample.agent 7 0 0],
        f.CurrentOf (Sample.transition (.sample 9) 8 10 10).key → f.agentId ≠ Sample.agent :=
  (@other_agent_sees Runtime.sample [] [Sample.transition Sample.agent 7 0 0]
    (Sample.transition (.sample 9) 8 10 10) Sample.agent .empty (by decide)).2

/-- The first agent finds its fact before the other's transition, and nothing after it. -/
theorem other_agent_blinded :
    seen (asOfQuery Sample.org Sample.agent 20)
        (Run.run (transitionStep Runtime.sample) [] [Sample.transition Sample.agent 7 0 0]) =
          [.sample 7] ∧
      seen (asOfQuery Sample.org Sample.agent 20) (Run.run (transitionStep Runtime.sample) []
        [Sample.transition Sample.agent 7 0 0, Sample.transition (.sample 9) 8 10 10]) = [] := by
  constructor <;> decide +kernel

end Postmortem
