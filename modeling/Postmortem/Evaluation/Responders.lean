import Mathlib.Algebra.GroupWithZero.Nat
import Mathlib.Data.Finset.Card
import Mathlib.Data.List.Sort
import Postmortem.Simulator.World

/-!
# The responder with memory

`evaluation/postmortem_eval/responders.py`: `tokenize` and `ProceduralMemoryResponder.decide`. The query is made
of the title and the signal alone; the service and the version to go back to only fill in the placeholders of the
actions that the best record carries.
-/

namespace Postmortem.Evaluation

open Simulator

/-- `ActionPlan` -/
structure ActionPlan where
  actionType : String
  targetService : String
  params : Dict
deriving DecidableEq

/-- `RetrievalHit` -/
structure RetrievalHit where
  memoryId : String
  score : Flt
deriving DecidableEq

/-- `ResponderDecision` -/
structure ResponderDecision where
  actions : List ActionPlan
  retrieved : List RetrievalHit := []
  tokenProxy : Int := 0
  abstained : Bool := false
  authorizedMemoryId : Option String := none
  decisionSeconds : Flt := 0
deriving DecidableEq

/-- `MemoryRecord` -/
structure MemoryRecord where
  memoryId : String
  familyId : String
  text : String
  actions : List ActionPlan
deriving DecidableEq

/-- Library functions on floats. -/
structure FloatLibrary where
  /-- `n / math.sqrt(m)` -/
  overRoot : Nat → Nat → Flt
  /-- `round(x, 6)` -/
  round6 : Flt → Flt

/-- `STOP_WORDS` -/
def stopWords : List String :=
  ["a", "after", "and", "are", "checkout", "causes", "error", "errors", "incident", "is", "payment", "service", "the",
    "to", "with"]

/-- The class `[a-z0-9]`. -/
def isTokenChar (ch : Char) : Bool := 'a' ≤ ch && ch ≤ 'z' || '0' ≤ ch && ch ≤ '9'

/-- `TOKEN_RE.findall(text)`: the longest runs of token characters. -/
def findTokens (text : String) : List String :=
  ((text.toList.splitOnP fun ch => !isTokenChar ch).filter fun run => !run.isEmpty).map String.ofList

/-- `tokenize` -/
def tokenize (rt : Runtime) (text : String) : Finset String :=
  (findTokens (rt.lower text)).toFinset \ stopWords.toFinset

/-- `ProceduralMemoryResponder` -/
structure ProceduralMemoryResponder where
  rt : Runtime
  floats : FloatLibrary
  records : List MemoryRecord
  retrievalK : Int := 10
  matchThreshold : Flt := .num (15 / 100)

/-- `l[:k]` -/
def slice {α : Type} (l : List α) (k : Int) : List α := l.take (if k < 0 then l.length + k else k).toNat

/-- A record and its score. -/
abbrev Ranked := Flt × MemoryRecord

/-- `a <= b` on the key `(-score, memory_id)`. -/
def Ranked.before (a b : Ranked) : Prop :=
  b.1.lt a.1 ∨ a.1.eq b.1 ∧ a.2.memoryId ≤ b.2.memoryId

instance : DecidableRel Ranked.before := fun _ _ => inferInstanceAs (Decidable (_ ∨ _ ∧ _))

namespace ProceduralMemoryResponder

variable (r : ProceduralMemoryResponder) (observation : IncidentObservation)

/-- The query of `decide`. -/
def query : Finset String := tokenize r.rt (observation.title ++ " " ++ observation.signal)

/-- `_similarity` -/
def similarity (queryTokens memoryTokens : Finset String) : Flt :=
  if queryTokens = ∅ ∨ memoryTokens = ∅ then 0
  else r.floats.overRoot (queryTokens ∩ memoryTokens).card (queryTokens.card * memoryTokens.card)

/-- The records in the order of `sorted`, up to `retrieval_k`. -/
def top (queryTokens : Finset String) : List Ranked :=
  slice ((r.records.map fun record => (r.similarity queryTokens (tokenize r.rt record.text), record)).insertionSort
    Ranked.before) r.retrievalK

/-- The hits of `decide`. -/
def hits (top : List Ranked) : List RetrievalHit :=
  top.map fun item => { memoryId := item.2.memoryId, score := r.floats.round6 item.1 }

/-- `_render_action` -/
def renderAction (action : ActionPlan) : ActionPlan where
  actionType := action.actionType
  targetService := if action.targetService = "$incident.service" then observation.service else action.targetService
  params := action.params.map fun p =>
    (p.1, if p.2 = .str "$incident.previous_stable_version" then observation.previousStableVersion else p.2)

/-- `decide` -/
def decide : ResponderDecision :=
  let query := r.query observation
  let top := r.top query
  let hits := r.hits top
  let retrievalTokens := (top.map fun item => (tokenize r.rt item.2.text).card).sum
  let baseTokens : Int := 220 + query.card * 3 + retrievalTokens
  match top.find? fun item => r.matchThreshold.le item.1 && !item.2.actions.isEmpty with
  | none => {
      actions := [{ actionType := "no_op_page_human", targetService := observation.service, params := [] }]
      retrieved := hits
      tokenProxy := baseTokens + 80
      abstained := true }
  | some candidate => {
      actions := candidate.2.actions.map (renderAction observation)
      retrieved := hits
      tokenProxy := baseTokens + 70 * candidate.2.actions.length
      authorizedMemoryId := some candidate.2.memoryId }

variable {r observation} {observation' : IncidentObservation}

/-- The query depends on the title and the signal alone. -/
lemma query_congr (title : observation.title = observation'.title) (signal : observation.signal = observation'.signal) :
    r.query observation = r.query observation' := by
  unfold query
  rw [title, signal]

/-- The hits are those of the query. -/
lemma decide_retrieved : (r.decide observation).retrieved = r.hits (r.top (r.query observation)) := by
  unfold decide
  dsimp only
  split
  case h_1 => rfl
  case h_2 => rfl

end ProceduralMemoryResponder

end Postmortem.Evaluation
