import Postmortem.Consolidation.Pipeline
import Postmortem.Consolidation.Lifecycle

/-!
# The processor in memory

`ConsolidationProcessor.process` over `InMemoryWindowStore`, with any repository: nothing is rolled back
here, so an exception leaves what was done before it. The model and the embedder may answer every
delivery differently; a delivery that fails is one whose answers are exceptions. `Handling` is the
inversion of the handling of a window, and `applications` are the calls of the repository it made.
-/

namespace Postmortem

namespace Decimal

/-- `bool(decimal)` -/
def truthy : Decimal → Bool
  | finite _ 0 _ => false
  | _ => true

/-- `max(a, b)` -/
def max? (a b : Decimal) : Except Raised Decimal := do
  let covered ← le? b a
  return if covered then a else b

end Decimal

/-- `InMemoryWindowStore`, with its archive and its watermark. -/
structure LocalWindowStore extends InMemoryWindowStore where
  archives : List (String × ModelResult) := []
  watermark : Option Decimal := none

namespace LocalWindowStore

/-- `archive` -/
def archive (result : ModelResult) (idempotencyKey : String) (s : LocalWindowStore) : LocalWindowStore :=
  { s with archives := Assoc.setDefault s.archives idempotencyKey result }

/-- The loop of `mark_processed`, for one row. -/
def markRow (rt : Runtime) (s : InMemoryWindowStore) (e : ChangeEvent) : InMemoryWindowStore where
  processed := s.processed.insert (e.deduplicationId rt)
  pending := Assoc.erase s.pending (e.deduplicationId rt)

/-- `self.watermark or watermark` -/
def watermarkOr (watermark : Decimal) (s : LocalWindowStore) : Decimal :=
  match s.watermark with
  | some d => if d.truthy then d else watermark
  | none => watermark

/-- `mark_processed`. The rows are marked before `max` can raise. -/
def markProcessed (rt : Runtime) (events : List ChangeEvent) (watermark : Decimal)
    (s : LocalWindowStore) : LocalWindowStore × Except Raised Unit :=
  let marked : LocalWindowStore :=
    { s with toInMemoryWindowStore := events.foldl (markRow rt) s.toInMemoryWindowStore }
  match Decimal.max? (watermarkOr watermark s) watermark with
  | .error e => (marked, .error e)
  | .ok d => ({ marked with watermark := some d }, .ok ())

end LocalWindowStore

/-- `RunbookRepository.apply` -/
abbrev RepositoryApply (ρ : Type) := ρ → CandidateRunbook → String → ρ × Except Raised RunbookMutation

/-- What the processor writes to, in memory. -/
structure LocalWorld (ρ : Type) where
  store : LocalWindowStore := {}
  repository : ρ

/-- A message, with the model and the embedder as they answer while it is handled. -/
structure LocalDelivery where
  message : QueueMessage
  model : ConsolidationModel
  embed : String → Except Raised Embedding

namespace LocalPipeline

variable {ρ : Type} (apply : RepositoryApply ρ) (p : ConsolidationProcessor)

/-- The loop over the groups, for one group. -/
def consolidateGroup (g : EpisodeGroup) (W : LocalWorld ρ) : LocalWorld ρ × Except Raised RunbookMutation :=
  match p.embeddedResult g with
  | .error e => (W, .error e)
  | .ok result =>
    match apply W.repository result.candidate (g.idempotencyKey p.rt) with
    | (repository, .error e) => ({ W with repository }, .error e)
    | (repository, .ok m) =>
      ({ store := W.store.archive result (g.idempotencyKey p.rt), repository }, .ok m)

/-- The loop over the groups: the mutations, or the first exception. -/
def consolidateGroups : List EpisodeGroup → LocalWorld ρ →
    LocalWorld ρ × Except Raised (List RunbookMutation)
  | [], W => (W, .ok [])
  | g :: groups, W =>
    match consolidateGroup apply p g W with
    | (W, .error e) => (W, .error e)
    | (W, .ok m) =>
      match consolidateGroups groups W with
      | (W, .error e) => (W, .error e)
      | (W, .ok mutations) => (W, .ok (m :: mutations))

/-- `process` -/
def process (W : LocalWorld ρ) : QueueMessage → LocalWorld ρ × Except Raised ProcessingResult
  | .row e =>
    ({ W with store := { W.store with
        toInMemoryWindowStore := InMemoryWindowStore.put p.rt W.store.toInMemoryWindowStore e } },
      .ok { bufferedEvents := 1 })
  | .closed w =>
    match InMemoryWindowStore.readThrough w.watermark W.store.toInMemoryWindowStore with
    | .error e => (W, .error e)
    | .ok events =>
      match consolidateGroups apply p (groupCompletedIncidents p.rt events) W with
      | (W, .error e) => (W, .error e)
      | (W, .ok mutations) =>
        match W.store.markProcessed p.rt (p.completedEvents events) w.watermark with
        | (store, .error e) => ({ W with store }, .error e)
        | (store, .ok ()) =>
          ({ W with store }, .ok {
            completedGroups := (groupCompletedIncidents p.rt events).length
            mutations })

/-- The processor that handles a delivery. -/
def processorOf (rt : Runtime) (d : LocalDelivery) : ConsolidationProcessor where
  rt := rt
  model := d.model
  embed := d.embed

/-- One delivery. -/
def step (rt : Runtime) (W : LocalWorld ρ) (d : LocalDelivery) : LocalWorld ρ :=
  (process apply (processorOf rt d) W d.message).1

/-- The calls of the repository for the groups, the last one possibly raising. -/
def groupApplications : List EpisodeGroup → ρ → List (CandidateRunbook × String)
  | [], _ => []
  | g :: groups, r =>
    match p.embeddedResult g with
    | .error _ => []
    | .ok result =>
      (result.candidate, g.idempotencyKey p.rt) ::
        match apply r result.candidate (g.idempotencyKey p.rt) with
        | (_, .error _) => []
        | (r, .ok _) => groupApplications groups r

/-- The calls of the repository for a message. -/
def applications (W : LocalWorld ρ) : QueueMessage → List (CandidateRunbook × String)
  | .row _ => []
  | .closed w =>
    match InMemoryWindowStore.readThrough w.watermark W.store.toInMemoryWindowStore with
    | .error _ => []
    | .ok events => groupApplications apply p (groupCompletedIncidents p.rt events) W.repository

/-- The repository after calls. -/
def repositoryAfter (r : ρ) (calls : List (CandidateRunbook × String)) : ρ :=
  Run.run (fun r a => (apply r a.1 a.2).1) r calls

/-- The group was applied by the calls, without an exception. -/
def GroupApplied (rt : Runtime) (r : ρ) (calls : List (CandidateRunbook × String)) (g : EpisodeGroup) :
    Prop :=
  ∃ before c after m, calls = before ++ (c, g.idempotencyKey rt) :: after ∧ FromGroup g c ∧
    (apply (repositoryAfter apply r before) c (g.idempotencyKey rt)).2 = .ok m

/-- What the handling of a window does to the rows: nothing where it stops, and otherwise the rows of the
groups are marked after every group was applied. -/
inductive Handling (W : LocalWorld ρ) (w : ClosedWindow) :
    LocalWorld ρ → Except Raised ProcessingResult → Prop where
  | stopped {W' e} : W'.store.toInMemoryWindowStore = W.store.toInMemoryWindowStore →
    Handling W w W' (.error e)
  | marked {events W' res} :
    InMemoryWindowStore.readThrough w.watermark W.store.toInMemoryWindowStore = .ok events →
    (∀ g ∈ groupCompletedIncidents p.rt events,
      GroupApplied apply p.rt W.repository (applications apply p W (.closed w)) g) →
    W'.store.toInMemoryWindowStore = (p.completedEvents events).foldl (LocalWindowStore.markRow p.rt)
      W.store.toInMemoryWindowStore →
    Handling W w W' res

section spec

variable {apply p} {W W' : LocalWorld ρ} {g : EpisodeGroup} {groups : List EpisodeGroup} {r : ρ}
  {calls : List (CandidateRunbook × String)}

/-- The loop does not touch the rows, and its calls are what changes the repository. -/
lemma consolidateGroups_spec :
    (consolidateGroups apply p groups W).1.store.toInMemoryWindowStore = W.store.toInMemoryWindowStore ∧
    (consolidateGroups apply p groups W).1.repository =
      repositoryAfter apply W.repository (groupApplications apply p groups W.repository) := by
  induction groups generalizing W with
  | nil => exact ⟨rfl, rfl⟩
  | cons g groups ih =>
    unfold consolidateGroups consolidateGroup groupApplications
    cases p.embeddedResult g with
    | error e => exact ⟨rfl, rfl⟩
    | ok result =>
      dsimp only
      rcases called : apply W.repository result.candidate (g.idempotencyKey p.rt) with ⟨r, e | m⟩
      · refine ⟨rfl, ?_⟩
        simp [repositoryAfter, called]
      · have rest := @ih { store := W.store.archive result (g.idempotencyKey p.rt), repository := r }
        have calls : repositoryAfter apply W.repository
            ((result.candidate, g.idempotencyKey p.rt) :: groupApplications apply p groups r) =
            repositoryAfter apply r (groupApplications apply p groups r) := by
          simp [repositoryAfter, called]
        dsimp only
        rw [calls]
        rcases tail : consolidateGroups apply p groups
          { store := W.store.archive result (g.idempotencyKey p.rt), repository := r } with ⟨W', e | ms⟩
        · rw [tail] at rest
          exact rest
        · rw [tail] at rest
          exact rest

lemma GroupApplied.cons {rt a} (h : GroupApplied apply rt (apply r a.1 a.2).1 calls g) :
    GroupApplied apply rt r (a :: calls) g := by
  obtain ⟨before, c, after, m, rfl, own, returned⟩ := h
  exact ⟨a :: before, c, after, m, rfl, own, returned⟩

/-- Where the loop returns, every group was applied. -/
lemma consolidateGroups_applied {mutations}
    (h : (consolidateGroups apply p groups W).2 = .ok mutations) :
    ∀ g ∈ groups, GroupApplied apply p.rt W.repository
      (groupApplications apply p groups W.repository) g := by
  induction groups generalizing W mutations with
  | nil => exact nofun
  | cons g groups ih =>
    unfold consolidateGroups consolidateGroup at h
    unfold groupApplications
    cases distilled : p.embeddedResult g with
    | error e => simp [distilled] at h
    | ok result =>
      simp only [distilled] at h ⊢
      rcases called : apply W.repository result.candidate (g.idempotencyKey p.rt) with ⟨r, e | m⟩
      · simp [called] at h
      · simp only [called] at h ⊢
        have rest := @ih { store := W.store.archive result (g.idempotencyKey p.rt), repository := r }
        rcases tail : consolidateGroups apply p groups
          { store := W.store.archive result (g.idempotencyKey p.rt), repository := r } with ⟨W', e | ms⟩
        · simp [tail] at h
        · have applied := @rest ms (by rw [tail])
          intro g' hg'
          rcases List.mem_cons.mp hg' with rfl | hg'
          · refine ⟨[], result.candidate, _, m, rfl, ?_, by rw [repositoryAfter, Run.run_nil, called]⟩
            apply candidate_spec (p := p)
            rw [ConsolidationProcessor.candidate?, distilled]
            rfl
          · apply GroupApplied.cons
            rw [called]
            exact applied g' hg'

lemma process_spec {w} : Handling apply p W w (process apply p W (.closed w)).1
    (process apply p W (.closed w)).2 := by
  have calls : ∀ {events}, InMemoryWindowStore.readThrough w.watermark
      W.store.toInMemoryWindowStore = .ok events → applications apply p W (.closed w) =
        groupApplications apply p (groupCompletedIncidents p.rt events) W.repository := by
    intro events read
    simp [applications, read]
  unfold process
  dsimp only
  cases read : InMemoryWindowStore.readThrough w.watermark W.store.toInMemoryWindowStore with
  | error e => exact .stopped rfl
  | ok events =>
    have loop := @consolidateGroups_spec _ apply p W (groupCompletedIncidents p.rt events)
    dsimp only
    rcases done : consolidateGroups apply p (groupCompletedIncidents p.rt events) W with ⟨W', e | ms⟩
    · rw [done] at loop
      exact .stopped loop.1
    · have applied := @consolidateGroups_applied _ apply p W (groupCompletedIncidents p.rt events) ms
        (by rw [done])
      rw [← calls read] at applied
      rw [done] at loop
      dsimp only
      unfold LocalWindowStore.markProcessed
      dsimp only
      cases Decimal.max? (LocalWindowStore.watermarkOr w.watermark W'.store) w.watermark with
      | error e =>
        refine .marked read applied ?_
        rw [← loop.1]
      | ok d =>
        refine .marked read applied ?_
        rw [← loop.1]

/-- The calls of a delivery are what changes the repository. -/
lemma process_repository {m} : (process apply p W m).1.repository =
    repositoryAfter apply W.repository (applications apply p W m) := by
  cases m with
  | row e => rfl
  | closed w =>
    unfold process applications
    dsimp only
    cases InMemoryWindowStore.readThrough w.watermark W.store.toInMemoryWindowStore with
    | error e => rfl
    | ok events =>
      have loop := @consolidateGroups_spec _ apply p W (groupCompletedIncidents p.rt events)
      dsimp only
      rcases done : consolidateGroups apply p (groupCompletedIncidents p.rt events) W with ⟨W', e | ms⟩
      · rw [done] at loop
        exact loop.2
      · rw [done] at loop
        dsimp only
        cases W'.store.markProcessed p.rt (p.completedEvents events) w.watermark with
        | mk store res => cases res <;> exact loop.2

end spec

end LocalPipeline

end Postmortem
