import Postmortem.Backend.Recall
import Postmortem.Lib.Run

/-!
# Fact transitions

`CockroachRecallAdapter.transition_fact` of `adapters/recall.py`: one transaction closes the fact that
is current for an organization, a subject and a predicate (`closeSupersededFactSql`), inserts its
replacement (`insertTransitionedFactSql`) and links the two (`linkSupersededFactSql`). The adapter
retries the transaction on 40001 and 23505 and turns every other failure into a `RecallError`.

An attempt that aborts writes nothing, so a call acts on the table its last attempt sees: a run is the
list of calls in commit order, whatever their earlier attempts met.

`FactsAdmitted` is what the schema promises of `semantic_facts`, `Transitioned` what a committed
transition did to the table.
-/

namespace Postmortem

/-- The columns of the index `semantic_current`. -/
abbrev FactKey := Uuid × String × String

/-- `(org_id, subject, predicate)` of a row. -/
def SemanticFact.key (f : SemanticFact) : FactKey := (f.orgId, f.subject, f.predicate)

/-- The row is current for the key: `valid_to IS NULL`. -/
def SemanticFact.CurrentOf (k : FactKey) (f : SemanticFact) : Prop := f.key = k ∧ f.validTo = none

instance (k : FactKey) (f : SemanticFact) : Decidable (f.CurrentOf k) :=
  inferInstanceAs (Decidable (_ ∧ _))

/-- The constraints of the schema on `semantic_facts`. -/
structure FactsAdmitted (facts : List SemanticFact) : Prop where
  ids : Table.Unique SemanticFact.factId facts
  current : ∀ k, ∀ f ∈ facts, ∀ g ∈ facts, f.CurrentOf k → g.CurrentOf k → f = g
  window : ∀ f ∈ facts, ∀ t, f.validTo = some t → f.validFrom < t
  closed : ∀ f ∈ facts, f.supersededBy ≠ none → f.validTo ≠ none
  superseded : ∀ f ∈ facts, References SemanticFact.factId facts f.supersededBy

lemma FactsAdmitted.empty : FactsAdmitted [] := by
  constructor <;> simp [Table.Unique]

/-- The dictionary `params`. -/
structure FactParams where
  newFactId : Uuid
  orgId : Uuid
  agentId : Uuid
  subject : String
  predicate : String
  object : Json
  confidence : Flt
  source : Option String
  embedding : Embedding
  transitionAt : Timestamp
deriving DecidableEq

/-- The key the statements of a transition work on. -/
def FactParams.key (p : FactParams) : FactKey := (p.orgId, p.subject, p.predicate)

/-- `FactTransitionResult` -/
structure FactTransitionResult where
  newFactId : Uuid
  validFrom : Timestamp
  recordedAt : Timestamp
  supersededFactId : Option Uuid
deriving DecidableEq

section sql

variable (p : FactParams) (now : Timestamp) (facts : List SemanticFact)

/-- `SET valid_to = transition_at` -/
def closedAt (f : SemanticFact) : SemanticFact := { f with validTo := some p.transitionAt }

/-- `CLOSE_SUPERSEDED_FACT_SQL`, with the CHECK `semantic_valid_window`. The row returned is the one
`fetchone` reads. -/
def closeSupersededFactSql : Except SqlState (List SemanticFact × Option Uuid) :=
  if ∃ f ∈ facts, f.CurrentOf p.key ∧ p.transitionAt ≤ f.validFrom then .error .checkViolation
  else
    .ok (Table.update (fun f => f.CurrentOf p.key) (closedAt p) facts,
      (facts.find? fun f => f.CurrentOf p.key).map SemanticFact.factId)

/-- The row `INSERT_TRANSITIONED_FACT_SQL` inserts. -/
def newFact (confidence : ℚ) : SemanticFact where
  factId := p.newFactId
  orgId := p.orgId
  agentId := p.agentId
  subject := p.subject
  predicate := p.predicate
  object := p.object
  confidence := confidence
  source := p.source
  embedding := some p.embedding
  validFrom := p.transitionAt
  validTo := none
  recordedAt := now
  supersededBy := none

/-- `INSERT_TRANSITIONED_FACT_SQL`: the cast to JSONB, the CHECK on `confidence`, and the two unique
keys. -/
def insertTransitionedFactSql : Except SqlState (List SemanticFact) :=
  if p.object.storable = false then .error .invalidTextRepresentation
  else
    match p.confidence with
    | .nan => .error .checkViolation
    | .num q =>
      if q < 0 ∨ 1 < q then .error .checkViolation
      else if (∃ f ∈ facts, f.factId = p.newFactId) ∨ ∃ f ∈ facts, f.CurrentOf p.key then
        .error .uniqueViolation
      else .ok (facts ++ [newFact p now q])

/-- `SET superseded_by = new_fact_id` -/
def linkedFact (f : SemanticFact) : SemanticFact := { f with supersededBy := some p.newFactId }

/-- `LINK_SUPERSEDED_FACT_SQL`, with the foreign key and the CHECK
`semantic_superseded_implies_closed`. -/
def linkSupersededFactSql (old : Uuid) : Except SqlState (List SemanticFact) :=
  if ∃ f ∈ facts, f.orgId = p.orgId ∧ f.factId = old ∧ f.validTo = none then .error .checkViolation
  else if ∀ f ∈ facts, f.factId ≠ p.newFactId then .error .foreignKeyViolation
  else .ok (Table.update (fun f => f.orgId = p.orgId ∧ f.factId = old) (linkedFact p) facts)

/-- LINK runs only where CLOSE returned a row. -/
def linkSuperseded : Option Uuid → Except SqlState (List SemanticFact)
  | none => .ok facts
  | some old => linkSupersededFactSql p facts old

/-- The three statements of the transaction. -/
def transitionFactSql : Except SqlState (List SemanticFact × FactTransitionResult) := do
  let (closed, old) ← closeSupersededFactSql p facts
  let inserted ← insertTransitionedFactSql p now closed
  let linked ← linkSuperseded p inserted old
  return (linked, ⟨p.newFactId, p.transitionAt, now, old⟩)

/-- What a transition leaves of a row: the current one of its key is closed and points to the new. -/
def replacedBy (f : SemanticFact) : SemanticFact :=
  { f with validTo := some p.transitionAt, supersededBy := some p.newFactId }

/-- The transition went from `facts` to `facts'`. -/
structure Transitioned (facts' : List SemanticFact) : Prop where
  later : ∀ f ∈ facts, f.CurrentOf p.key → f.validFrom < p.transitionAt
  fresh : ∀ f ∈ facts, f.factId ≠ p.newFactId
  written : ∃ q, p.confidence = .num q ∧ facts' =
    Table.update (fun f => f.CurrentOf p.key) (replacedBy p) facts ++ [newFact p now q]

end sql

/-- What CLOSE did where it did not fail. -/
lemma closeSupersededFactSql_spec {p facts closed old}
    (h : closeSupersededFactSql p facts = .ok (closed, old)) :
    (∀ f ∈ facts, f.CurrentOf p.key → f.validFrom < p.transitionAt) ∧
      closed = Table.update (fun f => f.CurrentOf p.key) (closedAt p) facts ∧
      old = (facts.find? fun f => f.CurrentOf p.key).map SemanticFact.factId := by
  unfold closeSupersededFactSql at h
  split at h
  case isTrue => cases h
  case isFalse later =>
    cases h
    refine ⟨?_, rfl, rfl⟩
    intro f hf cur
    by_contra le
    exact later ⟨f, hf, cur, not_lt.mp le⟩

/-- What INSERT did where it did not fail. -/
lemma insertTransitionedFactSql_spec {p now facts inserted}
    (h : insertTransitionedFactSql p now facts = .ok inserted) :
    (∀ f ∈ facts, f.factId ≠ p.newFactId) ∧
      ∃ q, p.confidence = .num q ∧ inserted = facts ++ [newFact p now q] := by
  unfold insertTransitionedFactSql at h
  split at h
  case isTrue => cases h
  case isFalse =>
    split at h
    case h_1 => cases h
    case h_2 q hq =>
      split at h
      case isTrue => cases h
      case isFalse =>
        split at h
        case isTrue => cases h
        case isFalse unused =>
          cases h
          refine ⟨?_, q, hq, rfl⟩
          intro f hf e
          exact unused (.inl ⟨f, hf, e⟩)

/-- What LINK did where it did not fail. -/
lemma linkSupersededFactSql_spec {p facts old linked}
    (h : linkSupersededFactSql p facts old = .ok linked) :
    linked = Table.update (fun f => f.orgId = p.orgId ∧ f.factId = old) (linkedFact p) facts := by
  unfold linkSupersededFactSql at h
  split at h
  case isTrue => cases h
  case isFalse =>
    split at h
    case isTrue => cases h
    case isFalse =>
      cases h
      rfl

/-- What the transaction did where it did not fail, on a table the schema admits. -/
lemma transitionFactSql_spec {p now facts facts' r} (adm : FactsAdmitted facts)
    (h : transitionFactSql p now facts = .ok (facts', r)) :
    Transitioned p now facts facts' := by
  obtain ⟨⟨closed, old⟩, hc, h⟩ := bind_ok h
  obtain ⟨inserted, hi, h⟩ := bind_ok h
  obtain ⟨linked, hl, h⟩ := bind_ok h
  cases h
  obtain ⟨later, rfl, rfl⟩ := closeSupersededFactSql_spec hc
  obtain ⟨fresh, q, hq, rfl⟩ := insertTransitionedFactSql_spec hi
  have fresh : ∀ f ∈ facts, f.factId ≠ p.newFactId := by
    intro f hf
    have keeps := fresh (if f.CurrentOf p.key then closedAt p f else f)
      (Table.mem_update.mpr ⟨f, hf, by simp⟩)
    split at keeps <;> exact keeps
  refine ⟨later, fresh, q, hq, ?_⟩
  cases found : facts.find? fun f => decide (f.CurrentOf p.key) with
  | none =>
    rw [found] at hl
    cases hl
    have none_current : ∀ f ∈ facts, decide (f.CurrentOf p.key) = false := by
      intro f hf
      simpa using List.find?_eq_none.mp found f hf
    rw [Table.update_eq_self none_current, Table.update_eq_self none_current]
  | some o =>
    have ho := List.mem_of_find?_eq_some found
    have cur : o.CurrentOf p.key := by simpa using List.find?_some found
    rw [found] at hl
    have hl := linkSupersededFactSql_spec hl
    -- CLOSE selected `o` alone, and LINK selects it again by its identifier
    have selects : ∀ f ∈ facts, decide (f.orgId = p.orgId ∧ f.factId = o.factId) =
        decide (f.CurrentOf p.key) := by
      intro f hf
      by_cases same : f.factId = o.factId
      · obtain rfl := adm.ids.eq hf ho same
        have org : f.orgId = p.orgId := congrArg Prod.fst cur.1
        simp [cur, org]
      · have other : ¬ f.CurrentOf p.key := fun c => same (by rw [adm.current _ f hf o ho c cur])
        simp [same, other]
    have last : Table.update (fun f => decide (f.orgId = p.orgId ∧ f.factId = o.factId))
        (linkedFact p) [newFact p now q] = [newFact p now q] := by
      apply Table.update_eq_self
      intro f hf
      obtain rfl := List.mem_singleton.mp hf
      simp [newFact, Ne.symm (fresh o ho)]
    rw [hl, Table.update_append, last, Table.update_update (by
      intro f hf
      rw [← selects f hf]
      split <;> rfl)]
    rfl

/-! ## The adapter -/

/-- The arguments of `transition_fact`. -/
structure FactTransition where
  orgId : Uuid
  agentId : Uuid
  subject : String
  predicate : String
  objectValue : Json
  embedding : Embedding
  confidence : Flt := 1
  source : Option String := none
  transitionAt : Option Timestamp := none
  maxSerializationRetries : Nat := 3
deriving DecidableEq

/-- What a call meets outside the program: `uuid4()`, `datetime.now(UTC)` and its transactions. -/
structure TransitionEnv where
  newFactId : Uuid
  clock : Timestamp
  attempt : Nat → Fate

section adapter

variable (c : FactTransition) (env : TransitionEnv) (rt : Runtime) (p : FactParams)

/-- The dictionary `params`. -/
def factParams : FactParams where
  newFactId := env.newFactId
  orgId := c.orgId
  agentId := c.agentId
  subject := c.subject
  predicate := c.predicate
  object := c.objectValue
  confidence := c.confidence
  source := c.source
  embedding := vectorLiteral rt 9 c.embedding
  transitionAt := c.transitionAt.getD env.clock

/-- The transaction of one attempt, with the client's view of its end. -/
def factTransact (g : Generated) (ack : Option LostAck) (facts : List SemanticFact) :
    List SemanticFact × Except Raised FactTransitionResult :=
  match transitionFactSql p g.now facts with
  | .error state => (facts, .error (.database state))
  | .ok (facts', r) =>
    match ack with
    | none => (facts', .ok r)
    | some lost => (facts', .error lost.raised)

/-- `_transition_fact_once` -/
def transitionFactOnce (fate : Fate) (facts : List SemanticFact) :
    List SemanticFact × Except Raised FactTransitionResult :=
  match fate with
  | .abort state => (facts, .error ⟨.other "DatabaseError", "", state, none⟩)
  | .commit g => factTransact p g none facts
  | .commitLost g lost => factTransact p g (some lost) facts

/-- The error of a call that gives up. -/
def transitionFailed (e : Raised) : Raised :=
  ⟨.RecallError, "Bitemporal fact transition failed.", none, e.sqlstate⟩

/-- The loop over attempts. -/
def transitionRetry (env : Nat → Fate) (attempt : Nat) : Nat → List SemanticFact →
    List SemanticFact × Except Raised FactTransitionResult
  | remaining, facts =>
    match transitionFactOnce p (env attempt) facts with
    | (facts', .ok r) => (facts', .ok r)
    | (facts', .error e) =>
      if e.state = some .serializationFailure ∨ e.state = some .uniqueViolation then
        match remaining with
        | 0 => (facts', .error (transitionFailed e))
        | remaining + 1 => transitionRetry env (attempt + 1) remaining facts'
      else (facts', .error (transitionFailed e))

/-- `transition_fact` -/
def transitionFact (facts : List SemanticFact) :
    List SemanticFact × Except Raised FactTransitionResult :=
  if c.embedding.length ≠ 1024 then
    (facts, .error ⟨.RecallError, "Fact embedding must have exactly 1024 dimensions.", none, none⟩)
  else transitionRetry (factParams c env rt) env.attempt 0 c.maxSerializationRetries facts

end adapter

/-- How a call ends: it leaves the table alone and raises, or it commits once and returns, or it commits
and raises because the acknowledgement was lost. -/
inductive TransitionEnded (p : FactParams) (env : Nat → Fate) (facts : List SemanticFact) :
    List SemanticFact × Except Raised FactTransitionResult → Prop where
  | failed {e} : TransitionEnded p env facts (facts, .error e)
  | committed {g : Generated} {facts' r} : Transitioned p g.now facts facts' →
    TransitionEnded p env facts (facts', .ok r)
  | lost {n} {g : Generated} {ack facts' e} : env n = .commitLost g ack → Transitioned p g.now facts facts' →
    TransitionEnded p env facts (facts', .error e)

/-- An attempt that commits and raises is not retried. -/
lemma lostAck_state {lost : LostAck} :
    ¬ (lost.raised.state = some .serializationFailure ∨ lost.raised.state = some .uniqueViolation) := by
  cases lost <;> decide

/-- What the transaction of an attempt can do. -/
lemma factTransact_spec {p g ack facts} (adm : FactsAdmitted facts) :
    (∃ e, factTransact p g ack facts = (facts, .error e)) ∨
      ∃ facts', Transitioned p g.now facts facts' ∧
        ((∃ r, factTransact p g ack facts = (facts', .ok r)) ∨
          ∃ lost, ack = some lost ∧ factTransact p g ack facts = (facts', .error lost.raised)) := by
  unfold factTransact
  cases run : transitionFactSql p g.now facts with
  | error state => exact .inl ⟨_, rfl⟩
  | ok out =>
    refine .inr ⟨out.1, transitionFactSql_spec adm run, ?_⟩
    cases ack with
    | none => exact .inl ⟨_, rfl⟩
    | some lost => exact .inr ⟨lost, rfl, rfl⟩

/-- How an attempt ends. -/
lemma transitionFactOnce_ended {p env n facts} (adm : FactsAdmitted facts) :
    TransitionEnded p env facts (transitionFactOnce p (env n) facts) ∧
      ∀ facts' e, transitionFactOnce p (env n) facts = (facts', .error e) →
        facts' = facts ∨ ∃ lost : LostAck, e = lost.raised := by
  have run : ∀ g ack, (∀ lost, ack = some lost → env n = .commitLost g lost) →
      TransitionEnded p env facts (factTransact p g ack facts) ∧
        ∀ facts' e, factTransact p g ack facts = (facts', .error e) →
          facts' = facts ∨ ∃ lost : LostAck, e = lost.raised := by
    intro g ack fate
    rcases @factTransact_spec p g ack facts adm with ⟨e, h⟩ | ⟨_, moved, ⟨r, h⟩ | ⟨lost, ha, h⟩⟩
    · rw [h]
      refine ⟨.failed, ?_⟩
      rintro _ _ ⟨⟩
      exact .inl rfl
    · rw [h]
      refine ⟨.committed moved, ?_⟩
      rintro _ _ ⟨⟩
    · rw [h]
      refine ⟨.lost (fate lost ha) moved, ?_⟩
      rintro _ _ ⟨⟩
      exact .inr ⟨lost, rfl⟩
  cases fate : env n with
  | abort state =>
    refine ⟨.failed, ?_⟩
    rintro facts' e ⟨⟩
    exact .inl rfl
  | commit g => exact run g none (by rintro _ ⟨⟩)
  | commitLost g lost => exact run g (some lost) (by rintro _ ⟨⟩; exact fate)

/-- The error asks for another attempt. -/
def conflicting {α : Type} : Except Raised α → Bool
  | .ok _ => false
  | .error e => e.state = some .serializationFailure ∨ e.state = some .uniqueViolation

/-- The loop attempts again while the result asks for it, and replaces the error of the last attempt. -/
lemma transitionRetry_loop {p env attempt remaining facts} :
    transitionRetry p env attempt remaining facts =
      let out := Retry.loop (fun n => transitionFactOnce p (env n)) conflicting attempt remaining facts
      (out.1, out.2.mapError transitionFailed) := by
  induction remaining generalizing attempt facts with
  | zero =>
    rw [transitionRetry, Retry.loop]
    generalize transitionFactOnce p (env attempt) facts = out
    obtain ⟨facts', e | r⟩ := out
    · simp only [ite_self]
      rfl
    · rfl
  | succ n ih =>
    rw [transitionRetry, Retry.loop]
    generalize transitionFactOnce p (env attempt) facts = out
    obtain ⟨facts', e | r⟩ := out
    · by_cases again : e.state = some .serializationFailure ∨ e.state = some .uniqueViolation
      · simp only [ih, conflicting, again, decide_true, if_true]
      · simp only [conflicting, again, decide_false, Bool.false_eq_true, if_false]
        rfl
    · rfl

/-- An attempt that is repeated leaves the table alone. -/
lemma transitionFactOnce_idle {p} {env : Nat → Fate} {facts} (adm : FactsAdmitted facts) : ∀ n,
    conflicting (transitionFactOnce p (env n) facts).2 = true →
      (transitionFactOnce p (env n) facts).1 = facts := by
  intro n again
  obtain ⟨_, errors⟩ := @transitionFactOnce_ended p env n facts adm
  generalize transitionFactOnce p (env n) facts = out at *
  obtain ⟨facts', e | r⟩ := out
  · rcases errors facts' e rfl with rfl | ⟨lost, rfl⟩
    · rfl
    · exact absurd (of_decide_eq_true again) lostAck_state
  · cases again

lemma transitionRetry_ended {p env attempt remaining facts} (adm : FactsAdmitted facts) :
    TransitionEnded p env facts (transitionRetry p env attempt remaining facts) := by
  obtain ⟨n, _, ends, _⟩ := @Retry.loop_ends _ _ (fun n => transitionFactOnce p (env n)) conflicting
    attempt remaining facts (transitionFactOnce_idle adm)
  obtain ⟨ended, _⟩ := @transitionFactOnce_ended p env (attempt + n) facts adm
  rw [transitionRetry_loop, ends]
  dsimp only at ended ⊢
  generalize transitionFactOnce p (env (attempt + n)) facts = out at ended
  -- the error of the attempt is replaced, the table it leaves stays
  cases ended with
  | failed => exact .failed
  | committed moved => exact .committed moved
  | lost fate moved => exact .lost fate moved

lemma transitionFact_ended {c env rt facts} (adm : FactsAdmitted facts) :
    TransitionEnded (factParams c env rt) env.attempt facts (transitionFact c env rt facts) := by
  unfold transitionFact
  split
  · exact .failed
  · exact transitionRetry_ended adm

/-- A row that is current after the closing update was current before it, for another key. -/
lemma current_left {p facts f k}
    (hf : f ∈ Table.update (fun f => decide (f.CurrentOf p.key)) (replacedBy p) facts)
    (cur : f.CurrentOf k) : f ∈ facts ∧ k ≠ p.key := by
  obtain ⟨s, hs, rfl⟩ := Table.mem_update.mp hf
  by_cases sel : s.CurrentOf p.key
  · rw [if_pos (decide_eq_true sel)] at cur
    cases cur.2
  · rw [if_neg (by simpa using sel)] at cur ⊢
    refine ⟨hs, ?_⟩
    rintro rfl
    exact sel cur

lemma Transitioned.admitted {p now facts facts'} (adm : FactsAdmitted facts)
    (moved : Transitioned p now facts facts') : FactsAdmitted facts' := by
  obtain ⟨later, fresh, q, _, rfl⟩ := moved
  constructor
  case ids =>
    apply Table.Unique.insert
    · exact adm.ids.update fun _ _ _ => rfl
    · exact Table.forall_update fresh fun f hf _ => fresh f hf
  case current =>
    -- the rows that stay current are for other keys than the new one
    intro k
    apply Table.forall_insert
    · intro f hf
      apply Table.forall_insert
      · intro g hg cf cg
        exact adm.current k f (current_left hf cf).1 g (current_left hg cg).1 cf cg
      · intro cf cg
        exact absurd cg.1.symm (current_left hf cf).2
    · apply Table.forall_insert
      · intro g hg cf cg
        exact absurd cf.1.symm (current_left hg cg).2
      · intro _ _
        rfl
  case window =>
    apply Table.forall_insert
    · apply Table.forall_update adm.window
      intro f hf sel t ht
      cases ht
      exact later f hf (of_decide_eq_true sel)
    · nofun
  case closed =>
    apply Table.forall_insert
    · exact Table.forall_update adm.closed fun f _ _ _ => Option.some_ne_none _
    · intro sup
      exact absurd rfl sup
  case superseded =>
    apply Table.forall_insert
    · apply Table.forall_update
      · intro f hf
        have stays : References SemanticFact.factId
            (Table.update (fun f => decide (f.CurrentOf p.key)) (replacedBy p) facts) f.supersededBy :=
          (adm.superseded f hf).mono (key_update fun _ => rfl)
        exact stays.mono key_append
      · intro f _ _
        exact .of_present ⟨newFact p now q, List.mem_append_right _ List.mem_cons_self, rfl⟩
    · nofun

/-- A call of a run. -/
structure TransitionOp where
  call : FactTransition
  env : TransitionEnv

/-- The key of the call. -/
def TransitionOp.key (op : TransitionOp) : FactKey :=
  (op.call.orgId, op.call.subject, op.call.predicate)

/-- The dictionary `params` of the call. -/
def TransitionOp.params (rt : Runtime) (op : TransitionOp) : FactParams :=
  factParams op.call op.env rt

/-- One call, on the table. -/
def transitionStep (rt : Runtime) (facts : List SemanticFact) (op : TransitionOp) :
    List SemanticFact :=
  (transitionFact op.call op.env rt facts).1

/-- A call leaves the table alone or commits one transition. -/
lemma transitionStep_spec {rt facts op} (adm : FactsAdmitted facts) :
    transitionStep rt facts op = facts ∨
      ∃ now, Transitioned (op.params rt) now facts (transitionStep rt facts op) := by
  have ended := @transitionFact_ended op.call op.env rt facts adm
  unfold transitionStep
  generalize transitionFact op.call op.env rt facts = out at ended
  cases ended with
  | failed => exact .inl rfl
  | committed moved => exact .inr ⟨_, moved⟩
  | lost _ moved => exact .inr ⟨_, moved⟩

lemma transitionStep_admitted {rt facts op} (adm : FactsAdmitted facts) :
    FactsAdmitted (transitionStep rt facts op) := by
  rcases @transitionStep_spec rt facts op adm with idle | ⟨now, moved⟩
  · rw [idle]
    exact adm
  · exact moved.admitted adm

lemma transitions_admitted {rt facts ops} (adm : FactsAdmitted facts) :
    FactsAdmitted (Run.run (transitionStep rt) facts ops) :=
  Run.run_invariant (fun _ _ _ h => transitionStep_admitted h) adm

end Postmortem
