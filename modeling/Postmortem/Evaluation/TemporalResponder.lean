import Postmortem.Evaluation.Responders

/-!
# The responder with validity windows

`TemporalProceduralMemoryResponder` of `evaluation/postmortem_eval/runner.py`. Its `decide` repeats the ranking of
`ProceduralMemoryResponder.decide`, over the records that `_is_valid_at` lets through. It decides what the other
responder decides on the part of the corpus that is valid at `observed_at` (`temporal_decide_eq`).
-/

namespace Postmortem.Evaluation

open Simulator

/-- A `datetime`; one without an offset compares with none that has one. -/
inductive Datetime where
  | aware (instant : Timestamp)
  | naive
deriving DecidableEq

/-- `valid_from` and `valid_to`. -/
abbrev Window := Option Datetime × Option Datetime

/-- An item of `memories`. -/
structure CorpusItem extends MemoryRecord where
  validFrom : Json := .null
  validTo : Json := .null
  gold : Json := .null

/-- `_parse_ts`; `fromisoformat` is `datetime.fromisoformat`, and `none` is `ValueError`. -/
def parseTs (rt : Runtime) (fromisoformat : String → Option Datetime) (value : Json) : Except Raised (Option Datetime) :=
  if value.truthy then
    match fromisoformat (Python.replaceZ (Python.str rt value)) with
    | some d => .ok (some d)
    | none => .error ⟨.ValueError,
        "Invalid isoformat string: " ++ rt.repr (.str (Python.replaceZ (Python.str rt value))), none, none⟩
  else .ok none

/-- The window of an item. -/
def CorpusItem.window (rt : Runtime) (fromisoformat : String → Option Datetime) (item : CorpusItem) :
    Except Raised Window := do
  let validFrom ← parseTs rt fromisoformat item.validFrom
  let validTo ← parseTs rt fromisoformat item.validTo
  return (validFrom, validTo)

/-- The `TypeError` for a comparison of datetimes with and without an offset. -/
def comparisonError : Raised := ⟨.TypeError, "can't compare offset-naive and offset-aware datetimes", none, none⟩

/-- `as_of < bound` -/
def earlier (asOf : Timestamp) : Datetime → Except Raised Bool
  | .aware instant => .ok (decide (asOf < instant))
  | .naive => .error comparisonError

/-- `valid_from is not None and as_of < valid_from` -/
def tooEarly (asOf : Timestamp) : Option Datetime → Except Raised Bool
  | some validFrom => earlier asOf validFrom
  | none => .ok false

/-- The negation of `valid_to is not None and as_of >= valid_to`. -/
def inTime (asOf : Timestamp) : Option Datetime → Except Raised Bool
  | some validTo => earlier asOf validTo
  | none => .ok true

/-- `_is_valid_at` -/
def isValidAt (window : Window) : Option Timestamp → Except Raised Bool
  | none => .ok true
  | some asOf =>
    match tooEarly asOf window.1 with
    | .error e => .error e
    | .ok true => .ok false
    | .ok false => inTime asOf window.2

/-- `ProceduralMemoryResponder` over a corpus. -/
def ProceduralMemoryResponder.init (rt : Runtime) (floats : FloatLibrary) (retrievalK : Int) (matchThreshold : Flt)
    (corpus : List CorpusItem) : ProceduralMemoryResponder where
  rt := rt
  floats := floats
  records := corpus.map CorpusItem.toMemoryRecord
  retrievalK := retrievalK
  matchThreshold := matchThreshold

/-- `TemporalProceduralMemoryResponder` -/
structure TemporalProceduralMemoryResponder extends ProceduralMemoryResponder where
  validity : List (String × Window)

namespace TemporalProceduralMemoryResponder

/-- An item writes its window under its id. -/
def enter (rt : Runtime) (fromisoformat : String → Option Datetime) (validity : List (String × Window))
    (item : CorpusItem) : Except Raised (List (String × Window)) := do
  let window ← item.window rt fromisoformat
  return Assoc.set validity item.memoryId window

/-- The dictionary of windows; of two items with one id the later counts. -/
def validityOf (rt : Runtime) (fromisoformat : String → Option Datetime) (corpus : List CorpusItem) :
    Except Raised (List (String × Window)) :=
  corpus.foldlM (enter rt fromisoformat) []

/-- `__init__` -/
def init (rt : Runtime) (fromisoformat : String → Option Datetime) (floats : FloatLibrary) (retrievalK : Int)
    (matchThreshold : Flt) (corpus : List CorpusItem) : Except Raised TemporalProceduralMemoryResponder := do
  let validity ← validityOf rt fromisoformat corpus
  return { ProceduralMemoryResponder.init rt floats retrievalK matchThreshold corpus with validity }

/-- The records that the generator of `decide` lets through. -/
def eligible (validity : List (String × Window)) (asOf : Option Timestamp) :
    List MemoryRecord → Except Raised (List MemoryRecord)
  | [] => .ok []
  | record :: records => do
    let valid ← isValidAt ((Assoc.get validity record.memoryId).getD (none, none)) asOf
    let rest ← eligible validity asOf records
    return if valid then record :: rest else rest

/-- `decide` -/
def decide (r : TemporalProceduralMemoryResponder) (observation : IncidentObservation) :
    Except Raised ResponderDecision := do
  let query := tokenize r.rt (observation.title ++ " " ++ observation.signal)
  let records ← eligible r.validity (some observation.observedAt) r.records
  let ranked := (records.map fun record => (r.similarity query (tokenize r.rt record.text), record)).insertionSort
    Ranked.before
  let top := slice ranked r.retrievalK
  let hits := top.map fun item => ({ memoryId := item.2.memoryId, score := r.floats.round6 item.1 } : RetrievalHit)
  let retrievalTokens := (top.map fun item => (tokenize r.rt item.2.text).card).sum
  let baseTokens : Int := 220 + query.card * 3 + retrievalTokens
  match top.find? fun item => r.matchThreshold.le item.1 && !item.2.actions.isEmpty with
  | none => return {
      actions := [{ actionType := "no_op_page_human", targetService := observation.service, params := [] }]
      retrieved := hits
      tokenProxy := baseTokens + 80
      abstained := true }
  | some candidate =>
    let rendered := candidate.2.actions.map (ProceduralMemoryResponder.renderAction observation)
    return {
      actions := rendered
      retrieved := hits
      tokenProxy := baseTokens + 70 * rendered.length
      authorizedMemoryId := some candidate.2.memoryId }

end TemporalProceduralMemoryResponder

/-! ## Valid time -/

/-- A beginning that the instant has reached. -/
def Datetime.Reached (t : Timestamp) : Datetime → Prop
  | .aware instant => instant ≤ t
  | .naive => False

/-- An end that the instant comes before. -/
def Datetime.Ahead (t : Timestamp) : Datetime → Prop
  | .aware instant => t < instant
  | .naive => False

instance {t : Timestamp} : DecidablePred (Datetime.Reached t)
  | .aware instant => inferInstanceAs (Decidable (instant ≤ t))
  | .naive => inferInstanceAs (Decidable False)

instance {t : Timestamp} : DecidablePred (Datetime.Ahead t)
  | .aware instant => inferInstanceAs (Decidable (t < instant))
  | .naive => inferInstanceAs (Decidable False)

/-- The instant is in the half-open window. -/
def Window.Contains (window : Window) (t : Timestamp) : Prop :=
  (∀ d ∈ window.1, d.Reached t) ∧ ∀ d ∈ window.2, d.Ahead t

/-- The bounds that are compared with the instant have an offset; the end is not compared before the beginning. -/
def Window.Comparable (window : Window) (t : Timestamp) : Prop :=
  window.1 ≠ some .naive ∧ (window.2 = some .naive → ∃ d ∈ window.1, d.Ahead t)

instance (window : Window) (t : Timestamp) : Decidable (window.Contains t) := inferInstanceAs (Decidable (_ ∧ _))

section valid

variable {rt : Runtime} {fromisoformat : String → Option Datetime} {window : Window} {t : Timestamp}
  {validity : List (String × Window)} {records : List MemoryRecord} {corpus : List CorpusItem}

/-- An instant has reached a beginning with an offset, or comes before it. -/
lemma Datetime.reached_iff {d : Datetime} (offset : d ≠ .naive) : d.Reached t ↔ ¬ d.Ahead t := by
  cases d with
  | aware instant => exact not_lt.symm
  | naive => exact absurd rfl offset

lemma earlier_eq {d : Datetime} (offset : d ≠ .naive) : earlier t d = .ok (decide (d.Ahead t)) := by
  cases d with
  | aware instant => rfl
  | naive => exact absurd rfl offset

lemma tooEarly_eq {d : Option Datetime} (offset : d ≠ some .naive) :
    tooEarly t d = .ok (decide ¬ ∀ d' ∈ d, d'.Reached t) := by
  cases d with
  | none => rfl
  | some d =>
    have offset : d ≠ .naive := fun naive => offset (congrArg some naive)
    simp [tooEarly, earlier_eq offset, Datetime.reached_iff offset]

lemma inTime_eq {d : Option Datetime} (offset : d ≠ some .naive) : inTime t d = .ok (decide (∀ d' ∈ d, d'.Ahead t)) := by
  cases d with
  | none => rfl
  | some d =>
    have offset : d ≠ .naive := fun naive => offset (congrArg some naive)
    simp [inTime, earlier_eq offset]

/-- A beginning with an offset that the instant has not reached is ahead. -/
lemma ahead_iff {d : Option Datetime} (offset : d ≠ some .naive) :
    (∃ d' ∈ d, d'.Ahead t) ↔ ¬ ∀ d' ∈ d, d'.Reached t := by
  cases d with
  | none => simp
  | some d =>
    have offset : d ≠ .naive := fun naive => offset (congrArg some naive)
    simp [Datetime.reached_iff offset]

/-- `_is_valid_at` is the half-open window. -/
lemma isValidAt_of_comparable (comparable : window.Comparable t) :
    isValidAt window (some t) = .ok (decide (window.Contains t)) := by
  obtain ⟨offset, early⟩ := comparable
  by_cases reached : ∀ d ∈ window.1, d.Reached t
  case pos =>
    have offset' : window.2 ≠ some .naive := fun naive => (ahead_iff offset).mp (early naive) reached
    have contains : window.Contains t ↔ ∀ d ∈ window.2, d.Ahead t := and_iff_right reached
    rw [isValidAt, tooEarly_eq offset, decide_eq_false (not_not.mpr reached), decide_eq_decide.mpr contains]
    exact inTime_eq offset'
  case neg =>
    rw [isValidAt, tooEarly_eq offset, decide_eq_true reached, decide_eq_false fun contains => reached contains.1]

/-- `_is_valid_at` raises where it meets a bound without an offset. -/
lemma isValidAt_of_not_comparable (naive : ¬ window.Comparable t) : isValidAt window (some t) = .error comparisonError := by
  by_cases offset : window.1 = some .naive
  case pos =>
    rw [isValidAt, offset]
    rfl
  case neg =>
    obtain ⟨without, reached⟩ : window.2 = some .naive ∧ ¬ ∃ d ∈ window.1, d.Ahead t := by
      simpa [Window.Comparable, offset] using naive
    rw [ahead_iff offset] at reached
    rw [isValidAt, tooEarly_eq offset, decide_eq_false reached, without]
    rfl

/-! ## The part of the corpus that is valid -/

/-- The window of the item contains the instant. -/
def CorpusItem.Valid (rt : Runtime) (fromisoformat : String → Option Datetime) (t : Timestamp) (item : CorpusItem) : Prop :=
  ∃ window ∈ (item.window rt fromisoformat).toOption, window.Contains t

instance : DecidablePred (CorpusItem.Valid rt fromisoformat t) := fun item =>
  inferInstanceAs (Decidable (∃ window ∈ (item.window rt fromisoformat).toOption, window.Contains t))

lemma CorpusItem.valid_iff {item : CorpusItem} {w : Window} (parsed : item.window rt fromisoformat = .ok w) :
    item.Valid rt fromisoformat t ↔ w.Contains t := by
  unfold CorpusItem.Valid
  rw [parsed]
  simp [Except.toOption]

/-- The part of a corpus that is valid at the instant. -/
def validPart (rt : Runtime) (fromisoformat : String → Option Datetime) (t : Timestamp) (corpus : List CorpusItem) :
    List CorpusItem :=
  corpus.filter fun item => item.Valid rt fromisoformat t

lemma mem_validPart {item : CorpusItem} :
    item ∈ validPart rt fromisoformat t corpus ↔ item ∈ corpus ∧ item.Valid rt fromisoformat t := by
  simp [validPart]

/-- The window of the item compares with the instant. -/
def CorpusItem.Comparable (rt : Runtime) (fromisoformat : String → Option Datetime) (t : Timestamp)
    (item : CorpusItem) : Prop :=
  ∀ window, item.window rt fromisoformat = .ok window → window.Comparable t

/-- The item has no window. -/
def CorpusItem.Timeless (item : CorpusItem) : Prop := item.validFrom.truthy = false ∧ item.validTo.truthy = false

lemma CorpusItem.Timeless.window_eq {item : CorpusItem} (h : item.Timeless) :
    item.window rt fromisoformat = .ok (none, none) := by
  unfold CorpusItem.window parseTs
  rw [h.1, h.2]
  rfl

namespace TemporalProceduralMemoryResponder

lemma get_enter {validity' : List (String × Window)} {item : CorpusItem}
    (h : enter rt fromisoformat validity item = .ok validity') :
    (∃ w, item.window rt fromisoformat = .ok w ∧ Assoc.get validity' item.memoryId = some w) ∧
      ∀ k ≠ item.memoryId, Assoc.get validity' k = Assoc.get validity k := by
  obtain ⟨w, parsed, written⟩ := bind_ok h
  cases written
  refine ⟨⟨w, parsed, Assoc.get_set_self⟩, ?_⟩
  intro k ne
  exact Assoc.get_set_ne ne.symm

/-- The windows of items with distinct ids stand under these ids. -/
lemma get_entered {entered : List (String × Window)} (distinct : (corpus.map fun item => item.memoryId).Nodup)
    (h : corpus.foldlM (enter rt fromisoformat) validity = .ok entered) :
    (∀ item ∈ corpus, ∃ w, item.window rt fromisoformat = .ok w ∧ Assoc.get entered item.memoryId = some w) ∧
      ∀ k ∉ corpus.map (fun item => item.memoryId), Assoc.get entered k = Assoc.get validity k := by
  induction corpus generalizing validity with
  | nil =>
    cases h
    exact ⟨List.forall_mem_nil _, fun _ _ => rfl⟩
  | cons item corpus ih =>
    rw [List.foldlM_cons] at h
    obtain ⟨validity', first, rest⟩ := bind_ok h
    rw [List.map_cons, List.nodup_cons] at distinct
    obtain ⟨⟨w, parsed, written⟩, others⟩ := get_enter first
    obtain ⟨later, kept⟩ := ih distinct.2 rest
    constructor
    case left =>
      rw [List.forall_mem_cons]
      exact ⟨⟨w, parsed, (kept _ distinct.1).trans written⟩, later⟩
    case right =>
      intro k new
      rw [List.map_cons, List.mem_cons, not_or] at new
      exact (kept k new.2).trans (others k new.1)

/-- The items have a window that stands under their ids. -/
def Known (rt : Runtime) (fromisoformat : String → Option Datetime) (validity : List (String × Window))
    (corpus : List CorpusItem) : Prop :=
  ∀ item ∈ corpus, ∃ w, item.window rt fromisoformat = .ok w ∧ Assoc.get validity item.memoryId = some w

lemma known_of_validityOf (distinct : (corpus.map fun item => item.memoryId).Nodup)
    (h : validityOf rt fromisoformat corpus = .ok validity) : Known rt fromisoformat validity corpus :=
  (get_entered distinct h).1

/-- The generator lets through the items that are valid, where all windows compare. -/
lemma eligible_of_comparable (known : Known rt fromisoformat validity corpus)
    (comparable : ∀ item ∈ corpus, item.Comparable rt fromisoformat t) :
    eligible validity (some t) (corpus.map CorpusItem.toMemoryRecord) =
      .ok ((validPart rt fromisoformat t corpus).map CorpusItem.toMemoryRecord) := by
  induction corpus with
  | nil => rfl
  | cons item corpus ih =>
    obtain ⟨⟨w, parsed, written⟩, known⟩ := List.forall_mem_cons.mp known
    obtain ⟨here, comparable⟩ := List.forall_mem_cons.mp comparable
    have valid := CorpusItem.valid_iff (t := t) parsed
    rw [List.map_cons, eligible, written, Option.getD_some, isValidAt_of_comparable (here w parsed), ih known comparable]
    by_cases contains : w.Contains t
    case pos =>
      have kept : validPart rt fromisoformat t (item :: corpus) = item :: validPart rt fromisoformat t corpus := by
        simp [validPart, valid.mpr contains]
      rw [kept, decide_eq_true contains]
      rfl
    case neg =>
      have left : validPart rt fromisoformat t (item :: corpus) = validPart rt fromisoformat t corpus := by
        simp [validPart, valid, contains]
      rw [left, decide_eq_false contains]
      rfl

/-- The generator raises where a window does not compare. -/
lemma eligible_of_not_comparable (known : Known rt fromisoformat validity corpus)
    (naive : ¬ ∀ item ∈ corpus, item.Comparable rt fromisoformat t) :
    eligible validity (some t) (corpus.map CorpusItem.toMemoryRecord) = .error comparisonError := by
  induction corpus with
  | nil => exact absurd (List.forall_mem_nil _) naive
  | cons item corpus ih =>
    obtain ⟨⟨w, parsed, written⟩, known⟩ := List.forall_mem_cons.mp known
    rw [List.map_cons, eligible, written, Option.getD_some]
    by_cases here : w.Comparable t
    case pos =>
      have later : ¬ ∀ item ∈ corpus, item.Comparable rt fromisoformat t := by
        intro comparable
        apply naive
        rw [List.forall_mem_cons]
        refine ⟨?_, comparable⟩
        intro w' parsed'
        cases parsed.symm.trans parsed'
        exact here
      rw [isValidAt_of_comparable here, ih known later]
      rfl
    case neg =>
      rw [isValidAt_of_not_comparable here]
      rfl

end TemporalProceduralMemoryResponder

end valid

/-! ## What the responders decide -/

section decide

variable {rt : Runtime} {fromisoformat : String → Option Datetime} {floats : FloatLibrary} {retrievalK : Int}
  {matchThreshold : Flt} {corpus : List CorpusItem} {r : ProceduralMemoryResponder} {observation : IncidentObservation}

lemma mem_slice {α : Type} {l : List α} {k : Int} {a : α} (h : a ∈ slice l k) : a ∈ l := List.mem_of_mem_take h

/-- The best records are records. -/
lemma ProceduralMemoryResponder.mem_top {query : Finset String} {item : Ranked} (h : item ∈ r.top query) :
    item.2 ∈ r.records := by
  have ranked := List.mem_insertionSort (r := Ranked.before) |>.mp (mem_slice h)
  obtain ⟨record, mem, rfl⟩ := List.mem_map.mp ranked
  exact mem

/-- What `decide` retrieves are records. -/
lemma ProceduralMemoryResponder.retrieved_mem {hit : RetrievalHit} (h : hit ∈ (r.decide observation).retrieved) :
    ∃ record ∈ r.records, record.memoryId = hit.memoryId := by
  rw [decide_retrieved] at h
  obtain ⟨item, mem, rfl⟩ := List.mem_map.mp h
  exact ⟨item.2, mem_top mem, rfl⟩

/-- What `decide` authorizes is a record. -/
lemma ProceduralMemoryResponder.authorized_mem {id : String} (h : (r.decide observation).authorizedMemoryId = some id) :
    ∃ record ∈ r.records, record.memoryId = id := by
  unfold ProceduralMemoryResponder.decide at h
  dsimp only at h
  split at h
  case h_1 => cases h
  case h_2 candidate found =>
    cases h
    exact ⟨candidate.2, mem_top (List.mem_of_find?_eq_some found), rfl⟩

/-- Over the records it lets through, the responder with windows decides what the other one does. -/
lemma TemporalProceduralMemoryResponder.decide_of_eligible {t : TemporalProceduralMemoryResponder}
    {records : List MemoryRecord} (h : eligible t.validity (some observation.observedAt) t.records = .ok records) :
    t.decide observation =
      .ok (({ t.toProceduralMemoryResponder with records } : ProceduralMemoryResponder).decide observation) := by
  have query : ({ t.toProceduralMemoryResponder with records } : ProceduralMemoryResponder).query observation =
      tokenize t.rt (observation.title ++ " " ++ observation.signal) := rfl
  unfold TemporalProceduralMemoryResponder.decide ProceduralMemoryResponder.decide
  rw [h, query]
  dsimp only [bind, Except.bind, ProceduralMemoryResponder.hits]
  cases found : (({ t.toProceduralMemoryResponder with records } : ProceduralMemoryResponder).top
    (tokenize t.rt (observation.title ++ " " ++ observation.signal))).find?
      fun item => t.matchThreshold.le item.1 && !item.2.actions.isEmpty with
  | none =>
    dsimp only [ProceduralMemoryResponder.top, ProceduralMemoryResponder.similarity] at found ⊢
    rw [found]
    rfl
  | some candidate =>
    dsimp only [ProceduralMemoryResponder.top, ProceduralMemoryResponder.similarity] at found ⊢
    rw [found]
    dsimp only
    rw [List.length_map]
    rfl

section built

variable {t : TemporalProceduralMemoryResponder} (distinct : (corpus.map fun item => item.memoryId).Nodup)
  (built : TemporalProceduralMemoryResponder.init rt fromisoformat floats retrievalK matchThreshold corpus = .ok t)
include distinct built

namespace TemporalProceduralMemoryResponder

lemma init_known : ∃ validity, Known rt fromisoformat validity corpus ∧
    t = ⟨ProceduralMemoryResponder.init rt floats retrievalK matchThreshold corpus, validity⟩ := by
  obtain ⟨validity, entered, e⟩ := bind_ok built
  cases e
  exact ⟨validity, known_of_validityOf distinct entered, rfl⟩

/-- Where the windows compare, the decision is that over the valid items. -/
lemma decide_of_comparable (comparable : ∀ item ∈ corpus, item.Comparable rt fromisoformat observation.observedAt) :
    t.decide observation = .ok ((ProceduralMemoryResponder.init rt floats retrievalK matchThreshold
      (validPart rt fromisoformat observation.observedAt corpus)).decide observation) := by
  obtain ⟨validity, known, rfl⟩ := init_known distinct built
  exact decide_of_eligible (eligible_of_comparable known comparable)

/-- Where a window does not, there is none. -/
lemma decide_of_not_comparable
    (naive : ¬ ∀ item ∈ corpus, item.Comparable rt fromisoformat observation.observedAt) :
    t.decide observation = .error comparisonError := by
  obtain ⟨validity, known, rfl⟩ := init_known distinct built
  have raised := eligible_of_not_comparable known naive
  unfold TemporalProceduralMemoryResponder.decide
  show (eligible validity _ (corpus.map CorpusItem.toMemoryRecord) >>= _) = _
  rw [raised]
  rfl

/-- Without windows all items are valid. -/
lemma decide_of_timeless (timeless : ∀ item ∈ corpus, item.Timeless) : t.decide observation =
    .ok ((ProceduralMemoryResponder.init rt floats retrievalK matchThreshold corpus).decide observation) := by
  have comparable : ∀ item ∈ corpus, item.Comparable rt fromisoformat observation.observedAt := by
    intro item mem w parsed
    cases (timeless item mem).window_eq.symm.trans parsed
    exact ⟨nofun, nofun⟩
  have all : validPart rt fromisoformat observation.observedAt corpus = corpus := by
    apply List.filter_eq_self.mpr
    intro item mem
    apply decide_eq_true
    exact (CorpusItem.valid_iff (timeless item mem).window_eq).mpr ⟨nofun, nofun⟩
  rw [decide_of_comparable distinct built comparable, all]

/-- An item that is retrieved or authorized is valid. -/
lemma decide_valid {d : ResponderDecision} (decided : t.decide observation = .ok d) {item : CorpusItem}
    (mem : item ∈ corpus)
    (used : (∃ hit ∈ d.retrieved, hit.memoryId = item.memoryId) ∨ d.authorizedMemoryId = some item.memoryId) :
    item.Valid rt fromisoformat observation.observedAt := by
  by_cases comparable : ∀ item ∈ corpus, item.Comparable rt fromisoformat observation.observedAt
  case neg =>
    rw [decide_of_not_comparable distinct built comparable] at decided
    cases decided
  case pos =>
    rw [decide_of_comparable distinct built comparable] at decided
    cases decided
    have record : ∃ record ∈ (validPart rt fromisoformat observation.observedAt corpus).map CorpusItem.toMemoryRecord,
        record.memoryId = item.memoryId := by
      rcases used with ⟨hit, retrieved, same⟩ | authorized
      · rw [← same]
        exact ProceduralMemoryResponder.retrieved_mem retrieved
      · exact ProceduralMemoryResponder.authorized_mem authorized
    obtain ⟨_, mapped, same⟩ := record
    obtain ⟨item', mem', rfl⟩ := List.mem_map.mp mapped
    obtain ⟨mem', valid⟩ := mem_validPart.mp mem'
    -- the ids are distinct, so the valid item with this id is the item
    rwa [← List.inj_on_of_nodup_map distinct mem' mem same]

end TemporalProceduralMemoryResponder

end built

end decide

open TemporalProceduralMemoryResponder in
/-- Over items with distinct ids, the responder with windows decides what `ProceduralMemoryResponder` decides over the
items that are valid at `observed_at`; it raises where a window has no offset and is compared. Without windows it
decides what the other responder decides, and it neither retrieves nor authorizes an item that is not valid. -/
theorem temporal_decide_eq (rt : Runtime) (fromisoformat : String → Option Datetime) (floats : FloatLibrary)
    (retrievalK : Int) (matchThreshold : Flt) (corpus : List CorpusItem) (t : TemporalProceduralMemoryResponder)
    (distinct : (corpus.map fun item => item.memoryId).Nodup)
    (built : init rt fromisoformat floats retrievalK matchThreshold corpus = .ok t) (observation : IncidentObservation) :
    ((∀ item ∈ corpus, item.Comparable rt fromisoformat observation.observedAt) →
      t.decide observation = .ok ((ProceduralMemoryResponder.init rt floats retrievalK matchThreshold
        (validPart rt fromisoformat observation.observedAt corpus)).decide observation)) ∧
    ((¬ ∀ item ∈ corpus, item.Comparable rt fromisoformat observation.observedAt) →
      t.decide observation = .error comparisonError) ∧
    ((∀ item ∈ corpus, item.Timeless) → t.decide observation =
      .ok ((ProceduralMemoryResponder.init rt floats retrievalK matchThreshold corpus).decide observation)) ∧
    ∀ d, t.decide observation = .ok d → ∀ item ∈ corpus,
      (∃ hit ∈ d.retrieved, hit.memoryId = item.memoryId) ∨ d.authorizedMemoryId = some item.memoryId →
        item.Valid rt fromisoformat observation.observedAt :=
  ⟨decide_of_comparable distinct built, decide_of_not_comparable distinct built, decide_of_timeless distinct built,
    fun _ decided _ mem => decide_valid distinct built decided mem⟩

namespace Sample

/-- The quotient where the root is exact. -/
def floats : FloatLibrary where
  overRoot n m := .num (n / m.sqrt)
  round6 x := x

/-- The ISO texts of the first seconds of 1970, with their offset. -/
def fromisoformat (s : String) : Option Datetime := (Runtime.sample.fromIsoformat s).map .aware

/-- A fix for the signal. -/
def fix (id : String) : MemoryRecord where
  memoryId := id
  familyId := "F"
  text := "latency"
  actions := [{ actionType := id, targetService := "$incident.service", params := [] }]

/-- The fix up to second 5. -/
def oldFix : CorpusItem := { fix "old" with validTo := .str "1970-01-01T00:00:05Z" }

/-- The fix from then on. -/
def newFix : CorpusItem := { fix "new" with validFrom := .str "1970-01-01T00:00:05Z" }

/-- The signal at second 5. -/
def drifted : IncidentObservation where
  incidentId := "i"
  title := "latency"
  service := "payments"
  severity := "high"
  signal := "latency"
  sloKind := "latency"
  sloCurrentValue := 1
  sloThreshold := 1
  currentVersion := .null
  previousStableVersion := .null
  observedAt := 5000000

end Sample

/-- At the boundary the old fix is not valid any more, so it is not authorized. -/
theorem temporal_decide_eq_sample : ∃ t d,
    TemporalProceduralMemoryResponder.init Runtime.sample Sample.fromisoformat Sample.floats 10 (.num (15 / 100))
      [Sample.oldFix, Sample.newFix] = .ok t ∧
    t.decide Sample.drifted = .ok d ∧ d.authorizedMemoryId ≠ some "old" := by
  have parsed : Sample.oldFix.window Runtime.sample Sample.fromisoformat = .ok (none, some (.aware 5000000)) ∧
      Sample.newFix.window Runtime.sample Sample.fromisoformat = .ok (some (.aware 5000000), none) := by
    constructor <;> rfl
  obtain ⟨t, built⟩ : ∃ t, TemporalProceduralMemoryResponder.init Runtime.sample Sample.fromisoformat Sample.floats 10
      (.num (15 / 100)) [Sample.oldFix, Sample.newFix] = .ok t := ⟨_, rfl⟩
  obtain ⟨decides, _, _, valid⟩ := temporal_decide_eq Runtime.sample Sample.fromisoformat Sample.floats 10
    (.num (15 / 100)) [Sample.oldFix, Sample.newFix] t (by decide) built Sample.drifted
  have decided := decides (by
    intro item mem w here
    rcases List.mem_pair.mp mem with rfl | rfl
    · cases parsed.1.symm.trans here
      exact ⟨nofun, nofun⟩
    · cases parsed.2.symm.trans here
      exact ⟨nofun, nofun⟩)
  refine ⟨t, _, built, decided, ?_⟩
  intro authorized
  have contains := valid _ decided Sample.oldFix List.mem_cons_self (.inr authorized)
  exact absurd ((CorpusItem.valid_iff parsed.1).mp contains) (by decide)

end Postmortem.Evaluation
