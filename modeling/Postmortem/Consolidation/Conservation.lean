import Postmortem.Consolidation.LocalPipeline

/-!
# No row is lost and none is counted twice

Rows have two identities: the store knows them by `deduplication_id`, the processor marks them by
`event_id`. `Conserved` is the invariant of the store over every run of deliveries, `Completion` says how a
row becomes processed, and a key the repository has seen changes no version (`changes_once`). What stays
pending after a window is what `stays_pending` says: a row is consumed with the pending rows of its
incident, and those need a recognised outcome among them.
-/

namespace Postmortem

namespace LocalPipeline

/-- The rows that deliveries put. -/
def rowsOf (deliveries : List LocalDelivery) : List ChangeEvent :=
  deliveries.filterMap fun d =>
    match d.message with
    | .row e => some e
    | .closed _ => none

/-- `event_id` determines the organization and the incident. -/
def Determined (rows : List ChangeEvent) : Prop :=
  ∀ e ∈ rows, ∀ e' ∈ rows, e.eventId = e'.eventId → e.incidentKey = e'.incidentKey

/-- The store after the rows were put: a row is pending or processed, and not both. -/
structure Conserved (rt : Runtime) (rows : List ChangeEvent) (s : InMemoryWindowStore) : Prop where
  keyed : Assoc.Keyed s.pending
  entries : ∀ f ∈ s.pending, f.1 = f.2.deduplicationId rt ∧ f.2 ∈ rows
  disjoint : ∀ id ∈ s.processed, Assoc.get s.pending id = none
  kept : ∀ e ∈ rows, e.deduplicationId rt ∈ s.processed ∨
    Assoc.get s.pending (e.deduplicationId rt) ≠ none

section store

variable {rt : Runtime} {rows events : List ChangeEvent} {s : InMemoryWindowStore} {e : ChangeEvent}
  {watermark : Decimal} {id : String}

lemma Conserved.put (h : Conserved rt rows s) : Conserved rt (rows ++ [e]) (s.put rt e) := by
  have old : ∀ e' ∈ rows, e' ∈ rows ++ [e] := fun _ => List.mem_append_left _
  unfold InMemoryWindowStore.put
  split
  case isTrue known =>
    refine ⟨h.keyed, fun f hf => ⟨(h.entries f hf).1, old _ (h.entries f hf).2⟩, h.disjoint, ?_⟩
    intro e' he'
    rcases List.mem_append.mp he' with he' | he'
    · exact h.kept e' he'
    · rw [List.mem_singleton.mp he']
      exact .inl known
  case isFalse new =>
    refine ⟨h.keyed.set, fun f hf => ?_, fun id hid => ?_, fun e' he' => ?_⟩
    · rcases Assoc.mem_set hf with rfl | hf
      · exact ⟨rfl, by simp⟩
      · exact ⟨(h.entries f hf).1, old _ (h.entries f hf).2⟩
    · rw [Assoc.get_set, if_neg fun same => new (by rw [same]; exact hid)]
      exact h.disjoint id hid
    · dsimp only
      rw [Assoc.get_set]
      split
      case isTrue => exact .inr (Option.some_ne_none _)
      case isFalse other =>
        rcases List.mem_append.mp he' with he' | he'
        · exact h.kept e' he'
        · exact absurd (by rw [List.mem_singleton.mp he']) other

/-- The loop of `mark_processed`. -/
lemma markRows_spec :
    (∀ id, id ∈ (events.foldl (LocalWindowStore.markRow rt) s).processed ↔
      id ∈ s.processed ∨ ∃ e ∈ events, e.deduplicationId rt = id) ∧
    ∀ id, Assoc.get (events.foldl (LocalWindowStore.markRow rt) s).pending id =
      if ∃ e ∈ events, e.deduplicationId rt = id then none else Assoc.get s.pending id := by
  induction events using List.reverseRecOn with
  | nil => simp
  | append_singleton events e ih =>
    obtain ⟨processed, pending⟩ := ih
    rw [List.foldl_append]
    refine ⟨fun id => ?_, fun id => ?_⟩
    · show id ∈ List.insert _ _ ↔ _
      rw [List.mem_insert_iff, processed]
      simp only [List.mem_append, List.mem_singleton, or_and_right, exists_or, exists_eq_left]
      rw [or_comm, or_assoc, @eq_comm _ id]
    · show Assoc.get (Assoc.erase _ _) id = _
      rw [Assoc.get_erase, pending]
      simp only [List.mem_append, List.mem_singleton, or_and_right, exists_or, exists_eq_left]
      by_cases same : e.deduplicationId rt = id
      · simp [same]
      · simp [same]

lemma markRows_sublist :
    (events.foldl (LocalWindowStore.markRow rt) s).pending.Sublist s.pending := by
  induction events using List.reverseRecOn with
  | nil => exact .refl _
  | append_singleton events e ih =>
    rw [List.foldl_append]
    exact List.filter_sublist.trans ih

lemma Conserved.mark (h : Conserved rt rows s) :
    Conserved rt rows (events.foldl (LocalWindowStore.markRow rt) s) := by
  obtain ⟨processed, pending⟩ := @markRows_spec rt events s
  have entries := @markRows_sublist rt events s
  refine ⟨List.Nodup.sublist (entries.map _) h.keyed, fun f hf => h.entries f (entries.subset hf), ?_, ?_⟩
  · intro id hid
    rw [pending]
    split
    case isTrue => rfl
    case isFalse unmarked => exact h.disjoint id (((processed id).mp hid).resolve_right unmarked)
  · intro e he
    rw [processed, pending]
    split
    case isTrue marked => exact .inl (.inr marked)
    case isFalse => exact (h.kept e he).imp .inl id

/-- The entries that pending rows leave when they are marked. -/
lemma Conserved.mem_mark (h : Conserved rt rows s) (pending : ∀ e ∈ events, ∃ id, (id, e) ∈ s.pending) :
    (id, e) ∈ (events.foldl (LocalWindowStore.markRow rt) s).pending ↔ (id, e) ∈ s.pending ∧ e ∉ events := by
  rw [h.mark.keyed.mem_iff, h.keyed.mem_iff, markRows_spec.2]
  split
  case isTrue marked =>
    obtain ⟨e', he', rfl⟩ := marked
    obtain ⟨id, hp⟩ := pending e' he'
    have own : id = e'.deduplicationId rt := (h.entries _ hp).1
    rw [← h.keyed.mem_iff]
    refine iff_of_false (Option.some_ne_none _ ·.symm) ?_
    rintro ⟨mem, unmarked⟩
    have same : e' = e :=
      Option.some.inj ((h.keyed.mem_iff.mp (own ▸ hp)).symm.trans (h.keyed.mem_iff.mp mem))
    exact absurd (same ▸ he') unmarked
  case isFalse unmarked =>
    refine ⟨fun mem => ⟨mem, fun he => unmarked ⟨e, he, ?_⟩⟩, And.left⟩
    exact (h.entries _ (h.keyed.mem_iff.mpr mem)).1.symm

lemma rowsThrough_spec {l} (h : rowsThrough watermark l = .ok events) :
    e ∈ events ↔ e ∈ l ∧ Decimal.le e.updatedAt watermark = true := by
  induction l generalizing events with
  | nil => cases h; simp
  | cons a l ih =>
    obtain ⟨closed, compared, h⟩ := bind_ok h
    obtain ⟨rest, hr, h⟩ := bind_ok h
    cases h
    have le : closed = Decimal.le a.updatedAt watermark := by
      unfold Decimal.le? at compared
      split at compared
      · cases compared
      · cases compared; rfl
    rw [List.mem_cons, or_and_right, ← ih hr]
    cases closed with
    | true =>
      have first : e = a ∧ Decimal.le e.updatedAt watermark = true ↔ e = a :=
        and_iff_left_of_imp fun same => same ▸ le.symm
      rw [first]
      exact List.mem_cons
    | false =>
      have first : ¬ (e = a ∧ Decimal.le e.updatedAt watermark = true) := by
        rintro ⟨rfl, closed⟩
        rw [← le] at closed
        cases closed
      exact (or_iff_right first).symm

lemma readThrough_spec (h : s.readThrough watermark = .ok events) :
    e ∈ events ↔ (∃ id, (id, e) ∈ s.pending) ∧ Decimal.le e.updatedAt watermark = true := by
  obtain ⟨through, read, h⟩ := bind_ok h
  cases h
  rw [List.mem_insertionSort, rowsThrough_spec read]
  simp

/-- The rows of an incident are grouped where they have a recognised outcome. -/
lemma grouped_iff (he : e ∈ events) : (∃ g ∈ groupCompletedIncidents rt events, e ∈ g.episodes) ↔
    outcomeFor rt (incidentEvents events e.incidentKey) ≠ none := by
  constructor
  · intro ⟨g, hg, mem⟩
    obtain ⟨_, rows, outcome, _⟩ := groupOf_spec (mem_groupCompletedIncidents hg)
    rw [((mem_episodes hg).mp mem).2, ← rows, outcome]
    nofun
  · intro some
    have mem : e ∈ incidentEvents events e.incidentKey := by
      rw [incidentEvents, List.mem_insertionSort, List.mem_filter]
      exact ⟨he, decide_eq_true rfl⟩
    have key : e.incidentKey ∈ incidentKeys events := by
      rw [incidentKeys, List.mem_insertionSort, List.mem_dedup]
      exact List.mem_map_of_mem he
    obtain ⟨outcome, eo⟩ := Option.ne_none_iff_exists'.mp some
    cases ordered : incidentEvents events e.incidentKey with
    | nil => rw [ordered] at mem; cases mem
    | cons first rest =>
      have grouped : groupOf rt events e.incidentKey = Option.some {
          orgId := first.orgId
          agentId := first.agentId
          incidentId := first.incidentId
          serviceId := first.serviceId
          episodes := first :: rest
          outcome := outcome } := by
        rw [ordered] at eo
        simp [groupOf, ordered, eo]
      exact ⟨_, List.mem_filterMap.mpr ⟨_, key, grouped⟩, ordered ▸ mem⟩

/-- The rows of the groups are the ones marked. -/
lemma mem_completedEvents {p : ConsolidationProcessor} (determined : Determined events) :
    e ∈ p.completedEvents events ↔
      e ∈ events ∧ ∃ g ∈ groupCompletedIncidents p.rt events, e ∈ g.episodes := by
  rw [ConsolidationProcessor.completedEvents, List.mem_filter, decide_eq_true_iff]
  refine and_congr_right fun he => ⟨fun completed => ?_, fun ⟨g, hg, mem⟩ => ?_⟩
  · obtain ⟨g, hg, same⟩ := List.mem_flatMap.mp completed
    obtain ⟨e', he', same⟩ := List.mem_map.mp same
    -- the event of the group is of the row's incident, since it has the row's `event_id`
    obtain ⟨he'', key⟩ := (mem_episodes hg).mp he'
    exact ⟨g, hg, (mem_episodes hg).mpr ⟨he, (determined e he e' he'' same.symm).trans key⟩⟩
  · exact List.mem_flatMap.mpr ⟨g, hg, List.mem_map.mpr ⟨e, mem, rfl⟩⟩

lemma Conserved.determined (h : Conserved rt rows s) (determined : Determined rows)
    (read : s.readThrough watermark = .ok events) : Determined events := by
  intro e he e' he'
  obtain ⟨⟨_, hp⟩, _⟩ := (readThrough_spec read).mp he
  obtain ⟨⟨_, hp'⟩, _⟩ := (readThrough_spec read).mp he'
  exact determined e (h.entries _ hp).2 e' (h.entries _ hp').2

end store

/-- How a delivery makes a row processed: its window closes at or after the row, the group of the row's
incident was applied, and every row of the group, which are all pending rows of the incident that the
window reads, is processed with it. -/
inductive Completion {ρ : Type} (apply : RepositoryApply ρ) (rt : Runtime) (W : LocalWorld ρ)
    (d : LocalDelivery) (id : String) : Prop where
  | intro {w events g e} : d.message = .closed w →
    W.store.readThrough w.watermark = .ok events → g ∈ groupCompletedIncidents rt events →
    e ∈ g.episodes → (id, e) ∈ W.store.pending → Decimal.le e.updatedAt w.watermark = true →
    GroupApplied apply rt W.repository (applications apply (processorOf rt d) W d.message) g →
    (∀ f ∈ W.store.pending, f.2.incidentKey = e.incidentKey →
      Decimal.le f.2.updatedAt w.watermark = true → f.2 ∈ g.episodes) →
    (∀ e' ∈ g.episodes, e'.deduplicationId rt ∈ (step apply rt W d).store.processed) →
    Completion apply rt W d id

section step

variable {ρ : Type} {apply : RepositoryApply ρ} {rt : Runtime} {rows : List ChangeEvent}
  {W : LocalWorld ρ} {d : LocalDelivery} {ds : List LocalDelivery} {r : ρ}

lemma rowsOf_concat : rowsOf (ds ++ [d]) = rowsOf ds ++ rowsOf [d] := List.filterMap_append

/-- A delivery loses no row. -/
lemma Conserved.step (h : Conserved rt rows W.store.toInMemoryWindowStore) :
    Conserved rt (rows ++ rowsOf [d]) (step apply rt W d).store.toInMemoryWindowStore := by
  obtain ⟨message, model, embed⟩ := d
  cases message with
  | row e => exact h.put
  | closed w =>
    have did := @process_spec _ apply (processorOf rt ⟨.closed w, model, embed⟩) W w
    rw [rowsOf, List.filterMap_cons_none rfl, List.filterMap_nil, List.append_nil]
    unfold LocalPipeline.step
    dsimp only
    generalize (process apply (processorOf rt ⟨.closed w, model, embed⟩) W (.closed w)).1 = W' at did ⊢
    generalize (process apply (processorOf rt ⟨.closed w, model, embed⟩) W (.closed w)).2 = res at did
    cases did with
    | stopped same => rw [same]; exact h
    | marked _ _ marked => rw [marked]; exact h.mark

lemma run_conserved : Conserved rt (rowsOf ds)
    (Run.run (step apply rt) ⟨{}, r⟩ ds).store.toInMemoryWindowStore := by
  induction ds using List.reverseRecOn with
  | nil => exact ⟨List.nodup_nil, nofun, nofun, nofun⟩
  | append_singleton ds d ih =>
    rw [rowsOf_concat, Run.run_append]
    exact ih.step

/-- A row that becomes processed is completed. -/
lemma completion {id} (h : Conserved rt rows W.store.toInMemoryWindowStore) (determined : Determined rows)
    (after : id ∈ (step apply rt W d).store.processed) (before : id ∉ W.store.processed) :
    Completion apply rt W d id := by
  obtain ⟨message, model, embed⟩ := d
  cases message with
  | row e =>
    have same : (step apply rt W ⟨.row e, model, embed⟩).store.processed = W.store.processed := by
      show (InMemoryWindowStore.put rt W.store.toInMemoryWindowStore e).processed = _
      unfold InMemoryWindowStore.put
      split <;> rfl
    exact absurd (same ▸ after) before
  | closed w =>
    have did := @process_spec _ apply (processorOf rt ⟨.closed w, model, embed⟩) W w
    have stepped : step apply rt W ⟨.closed w, model, embed⟩ =
      (process apply (processorOf rt ⟨.closed w, model, embed⟩) W (.closed w)).1 := rfl
    rw [← stepped] at did
    generalize estep : step apply rt W ⟨.closed w, model, embed⟩ = W' at did after
    generalize (process apply (processorOf rt ⟨.closed w, model, embed⟩) W (.closed w)).2 = res at did
    cases did with
    | stopped same =>
      rw [same] at after
      exact absurd after before
    | @marked events _ _ read applied marked =>
      have processed : ∀ id, id ∈ W'.store.processed ↔ id ∈ W.store.processed ∨
          ∃ e ∈ (processorOf rt ⟨.closed w, model, embed⟩).completedEvents events,
            e.deduplicationId rt = id := by
        rw [marked]
        exact markRows_spec.1
      have member := fun e => @readThrough_spec events W.store.toInMemoryWindowStore e w.watermark read
      have completed := fun e => @mem_completedEvents events e
        (processorOf rt ⟨.closed w, model, embed⟩) (h.determined determined read)
      obtain ⟨e, he, rfl⟩ := ((processed id).mp after).resolve_left before
      obtain ⟨he, g, hg, group⟩ := (completed e).mp he
      obtain ⟨⟨id, hp⟩, le⟩ := (member e).mp he
      have id_eq : id = e.deduplicationId rt := (h.entries _ hp).1
      refine .intro rfl read hg group (id_eq ▸ hp) le (applied g hg) ?_ ?_
      · intro f hf incident through
        refine (mem_episodes hg).mpr ⟨(member f.2).mpr ⟨⟨f.1, hf⟩, through⟩, ?_⟩
        exact incident.trans ((mem_episodes hg).mp group).2
      · intro e' he'
        rw [estep]
        apply (processed _).mpr
        exact .inr ⟨e', (completed e').mpr ⟨((mem_episodes hg).mp he').1, g, hg, he'⟩, rfl⟩

/-- The last outcome row of an incident. -/
def lastOutcome (events : List ChangeEvent) (key : IncidentKey) : Option ChangeEvent :=
  ((incidentEvents events key).filter fun e => e.eventType = "outcome").getLast?

lemma outcomeFor_last {events key} : outcomeFor rt (incidentEvents events key) = none ↔
    ∀ o, lastOutcome events key = some o → outcomeFor rt [o] = none := by
  unfold outcomeFor lastOutcome
  cases last : ((incidentEvents events key).filter fun e => e.eventType = "outcome").getLast? with
  | none => simp
  | some o =>
    obtain ⟨_, outcome⟩ := List.mem_filter.mp (List.mem_of_getLast? last)
    rw [decide_eq_true_iff] at outcome
    simp [outcome]

/-- What a window leaves pending: the rows of the incidents that have no recognised outcome among the
pending rows that the window reads. -/
lemma stays_pending {p : ConsolidationProcessor} {w res} (h : Conserved p.rt rows W.store.toInMemoryWindowStore)
    (returned : (process apply p W (.closed w)).2 = .ok res) :
    ∃ events, W.store.readThrough w.watermark = .ok events ∧ ∀ id e,
      (Decimal.le e.updatedAt w.watermark = true →
        (id, e) ∈ (process apply p W (.closed w)).1.store.pending →
          outcomeFor p.rt (incidentEvents events e.incidentKey) = none) ∧
      (Determined rows → (id, e) ∈ W.store.pending →
        outcomeFor p.rt (incidentEvents events e.incidentKey) = none →
          (id, e) ∈ (process apply p W (.closed w)).1.store.pending) := by
  have did := @process_spec _ apply p W w
  rw [returned] at did
  generalize (process apply p W (.closed w)).1 = W' at did
  cases did with
  | @marked events _ _ read applied marked =>
    have member := fun e => @readThrough_spec events W.store.toInMemoryWindowStore e w.watermark read
    have left := fun id e => @Conserved.mem_mark p.rt rows (p.completedEvents events) _ e id h
      fun e he => ((member e).mp (List.mem_of_mem_filter he)).1
    rw [← marked] at left
    refine ⟨events, read, fun id e => ⟨fun through pending => ?_, fun determined pending none => ?_⟩⟩
    · obtain ⟨pending, incomplete⟩ := (left id e).mp pending
      have mem : e ∈ events := (member e).mpr ⟨⟨id, pending⟩, through⟩
      refine by_contra fun some => incomplete ?_
      obtain ⟨g, hg, he⟩ := (grouped_iff mem).mpr some
      exact List.mem_filter.mpr ⟨mem, decide_eq_true
        (List.mem_flatMap.mpr ⟨g, hg, List.mem_map.mpr ⟨e, he, rfl⟩⟩)⟩
    · refine (left id e).mpr ⟨pending, fun completed => ?_⟩
      obtain ⟨mem, grouped⟩ := (mem_completedEvents (h.determined determined read)).mp completed
      exact (grouped_iff mem).mp grouped none

/-- The repository after a run is the repository after its calls. -/
lemma run_repository : (Run.run (step apply rt) W ds).repository = repositoryAfter apply W.repository
    (Run.trace (step apply rt) (fun W d => applications apply (processorOf rt d) W d.message) W ds) :=
  @Run.run_trace _ _ _ _ _ _ LocalWorld.repository _ _ _ fun _ _ => process_repository

end step

end LocalPipeline

namespace InMemoryRunbookRepository

variable {rt : Runtime} {activation : Activation} {s : InMemoryRunbookRepository}
  {a : CandidateRunbook × String}

/-- The call changes a version or creates one. -/
def Changes (rt : Runtime) (activation : Activation) (s : InMemoryRunbookRepository)
    (a : CandidateRunbook × String) : Prop :=
  ∃ k, (apply rt activation s a.1 a.2).1.versions k ≠ s.versions k

lemma not_changes (seen : Assoc.get s.processed a.2 ≠ none) : ¬ Changes rt activation s a := by
  rintro ⟨k, ne⟩
  apply ne
  obtain ⟨n, versions, _, after, same⟩ := @apply_spec rt activation a.1 a.2 s
  rw [after, same seen]
  split
  case isTrue e => rw [e]
  case isFalse => rfl

lemma Changes.processed (h : Changes rt activation s a) :
    Assoc.get (apply rt activation s a.1 a.2).1.processed a.2 ≠ none := by
  obtain ⟨k, ne⟩ := h
  unfold apply at ne ⊢
  split
  case h_1 previous seen =>
    simp only [seen] at ne
    exact absurd rfl ne
  case h_2 new =>
    simp only [new] at ne
    dsimp only
    split
    case h_1 e raised =>
      rw [raised] at ne
      exact absurd versions_setdefault ne
    case h_2 => simp

lemma apply_processed {key} (seen : Assoc.get s.processed key ≠ none) :
    Assoc.get (apply rt activation s a.1 a.2).1.processed key ≠ none := by
  unfold apply
  split
  case h_1 => exact seen
  case h_2 =>
    dsimp only
    split
    case h_1 => exact seen
    case h_2 =>
      dsimp only
      rw [Assoc.get_set]
      split
      case isTrue => exact Option.some_ne_none _
      case isFalse => exact seen

/-- Of the calls with one key, at most one changes something. -/
lemma changes_once {before between b} (same : a.2 = b.2)
    (first : Changes rt activation (applyAll rt activation s before) a) :
    ¬ Changes rt activation (applyAll rt activation s (before ++ a :: between)) b := by
  apply not_changes
  rw [← same, applyAll_append, applyAll, Run.run_cons]
  exact Run.run_invariant (I := fun s : InMemoryRunbookRepository => Assoc.get s.processed a.2 ≠ none)
    (fun s c _ seen => apply_processed seen) first.processed

end InMemoryRunbookRepository

/-- In memory no row is lost: over every run, rows are pending or processed and not both, and a row
becomes processed only with the whole group of its incident, after the group was applied in a window
that closes at or after the row. Over `InMemoryRunbookRepository` a key of a group changes the versions at
most once. -/
theorem rows_conserved (rt : Runtime) :
    (∀ {ρ : Type} (apply : RepositoryApply ρ) (r : ρ) (ds : List LocalDelivery), LocalPipeline.Determined (LocalPipeline.rowsOf ds) →
      let after := Run.run (LocalPipeline.step apply rt) ⟨{}, r⟩
      (∀ id ∈ (after ds).store.processed, Assoc.get (after ds).store.pending id = none) ∧
      (∀ e ∈ LocalPipeline.rowsOf ds, e.deduplicationId rt ∈ (after ds).store.processed ∨
        ∃ e', (e.deduplicationId rt, e') ∈ (after ds).store.pending) ∧
      ∀ pre d post, ds = pre ++ d :: post → ∀ id ∈ (after (pre ++ [d])).store.processed,
        id ∉ (after pre).store.processed → LocalPipeline.Completion apply rt (after pre) d id) ∧
    ∀ activation ds,
      let apply := InMemoryRunbookRepository.apply rt activation
      let calls := Run.trace (LocalPipeline.step apply rt)
        (fun W d => LocalPipeline.applications apply (LocalPipeline.processorOf rt d) W d.message) ⟨{}, {}⟩ ds
      (Run.run (LocalPipeline.step apply rt) ⟨{}, {}⟩ ds).repository =
        InMemoryRunbookRepository.applyAll rt activation {} calls ∧
      ∀ before a between b after, calls = before ++ a :: between ++ b :: after → a.2 = b.2 →
        InMemoryRunbookRepository.Changes rt activation
          (InMemoryRunbookRepository.applyAll rt activation {} before) a →
        ¬ InMemoryRunbookRepository.Changes rt activation
          (InMemoryRunbookRepository.applyAll rt activation {} (before ++ a :: between)) b := by
  constructor
  · intro ρ apply r ds determined after
    have conserved := @LocalPipeline.run_conserved _ apply rt ds r
    refine ⟨conserved.disjoint, fun e he => ?_, ?_⟩
    · refine (conserved.kept e he).imp id fun some => ?_
      obtain ⟨e', h⟩ := Option.ne_none_iff_exists'.mp some
      exact ⟨e', Assoc.mem_of_get h⟩
    · rintro pre d post rfl id processed new
      have before : ∀ e ∈ LocalPipeline.rowsOf pre, e ∈ LocalPipeline.rowsOf (pre ++ d :: post) := by
        intro e he
        rw [LocalPipeline.rowsOf, List.filterMap_append]
        exact List.mem_append_left _ he
      have stepped : after (pre ++ [d]) = LocalPipeline.step apply rt (after pre) d := Run.run_append
      rw [stepped] at processed
      exact LocalPipeline.completion LocalPipeline.run_conserved
        (fun e he e' he' => determined e (before e he) e' (before e' he')) processed new
  · intro activation ds apply calls
    refine ⟨LocalPipeline.run_repository, fun before a between b after _ same first => ?_⟩
    exact InMemoryRunbookRepository.changes_once same first

namespace Sample

/-- A delivery to the processor of the examples. -/
def delivery (message : QueueMessage) : LocalDelivery := ⟨message, processor.model, processor.embed⟩

end Sample

/-- `rows_conserved` where the model fails at the first window and the window is redelivered. -/
theorem rows_conserved_sample :
    let apply := InMemoryRunbookRepository.apply Sample.processor.rt Sample.config.activation
    let failing : LocalDelivery :=
      { Sample.delivery (.closed Sample.window) with embed := fun _ => .error ⟨.ValueError, "", none, none⟩ }
    let before := Run.run (LocalPipeline.step apply Sample.processor.rt) ⟨{}, {}⟩
      [Sample.delivery (.row Sample.alertRow), Sample.delivery (.row (Sample.outcomeRow 0 "success")), failing]
    let id := Sample.alertRow.deduplicationId Sample.processor.rt
    id ∉ before.store.processed ∧
      LocalPipeline.Completion apply Sample.processor.rt before (Sample.delivery (.closed Sample.window)) id := by
  intro apply failing before id
  have new : id ∉ before.store.processed := by decide +kernel
  refine ⟨new, ?_⟩
  apply ((rows_conserved Sample.processor.rt).1 apply {} [Sample.delivery (.row Sample.alertRow),
    Sample.delivery (.row (Sample.outcomeRow 0 "success")), failing,
    Sample.delivery (.closed Sample.window)] ?determined).2.2 _ _ _ rfl id ?processed new
  case determined =>
    unfold LocalPipeline.Determined
    decide +kernel
  case processed => decide +kernel

/-- A row follows a window that was closed before it arrived. -/
def LocalDelivery.inOrder (d d' : LocalDelivery) : Bool :=
  match d.message, d'.message with
  | .closed w, .row e => !Decimal.le e.updatedAt w.watermark
  | _, _ => true

/-- After every window, no row up to its watermark is pending if its incident has had an outcome row
with a recognised outcome up to the watermark. -/
def NoneStranded {ρ : Type} (apply : RepositoryApply ρ) (rt : Runtime) (r : ρ) (ds : List LocalDelivery) :
    Prop :=
  ∀ pre w model embed post res, ds = pre ++ ⟨.closed w, model, embed⟩ :: post →
    (LocalPipeline.process apply (LocalPipeline.processorOf rt ⟨.closed w, model, embed⟩)
      (Run.run (LocalPipeline.step apply rt) ⟨{}, r⟩ pre) (.closed w)).2 = .ok res →
    ∀ f ∈ (Run.run (LocalPipeline.step apply rt) ⟨{}, r⟩
      (pre ++ [⟨.closed w, model, embed⟩])).store.pending,
      Decimal.le f.2.updatedAt w.watermark = true →
        ¬ ∃ o ∈ LocalPipeline.rowsOf pre, o.incidentKey = f.2.incidentKey ∧ o.eventType = "outcome" ∧
          Decimal.le o.updatedAt w.watermark = true ∧ outcomeFor rt [o] ≠ none

/-- A row is consumed with the pending rows of its incident or stays pending: after a window is handled,
the rows up to its watermark that are still pending are those whose incident has no outcome row among the
pending rows up to the watermark, or only a last one that is not recognised. -/
theorem buffered_without_outcome {ρ : Type} (apply : RepositoryApply ρ) (rt : Runtime) (r : ρ)
    (pre : List LocalDelivery) (w : ClosedWindow) (model : ConsolidationModel)
    (embed : String → Except Raised Embedding) (res : ProcessingResult) :
    let d : LocalDelivery := ⟨.closed w, model, embed⟩
    let before := Run.run (LocalPipeline.step apply rt) ⟨{}, r⟩ pre
    let after := Run.run (LocalPipeline.step apply rt) ⟨{}, r⟩ (pre ++ [d])
    (LocalPipeline.process apply (LocalPipeline.processorOf rt d) before (.closed w)).2 = .ok res →
    ∃ events, before.store.readThrough w.watermark = .ok events ∧
      (∀ e, e ∈ events ↔
        (∃ id, (id, e) ∈ before.store.pending) ∧ Decimal.le e.updatedAt w.watermark = true) ∧
      ∀ id e, Decimal.le e.updatedAt w.watermark = true →
        ((id, e) ∈ after.store.pending →
          ∀ o, LocalPipeline.lastOutcome events e.incidentKey = some o → outcomeFor rt [o] = none) ∧
        (LocalPipeline.Determined (LocalPipeline.rowsOf pre) → (id, e) ∈ before.store.pending →
          (∀ o, LocalPipeline.lastOutcome events e.incidentKey = some o → outcomeFor rt [o] = none) →
            (id, e) ∈ after.store.pending) := by
  intro d before after returned
  have conserved := @LocalPipeline.run_conserved _ apply rt pre r
  obtain ⟨events, read, buffered⟩ := LocalPipeline.stays_pending (p := LocalPipeline.processorOf rt d)
    conserved returned
  have stepped : after = LocalPipeline.step apply rt before d := Run.run_append
  refine ⟨events, read, fun e => LocalPipeline.readThrough_spec read, fun id e through => ?_⟩
  rw [stepped, ← LocalPipeline.outcomeFor_last]
  exact ⟨(buffered id e).1 through, (buffered id e).2⟩

namespace Sample

/-- A row of the first incident that arrives after its outcome. -/
def lateRow : ChangeEvent :=
  { alertRow with eventId := (Uuid.sample 6 3).text, occurredAt := 3000000, updatedAt := .ofInt 3 }

/-- A later outcome row of the first incident. -/
def unknownRow : ChangeEvent :=
  { outcomeRow 0 "unknown" with eventId := (Uuid.sample 6 4).text, occurredAt := 3000000 }

/-- The library on these rows. -/
def lateRt : Runtime :=
  { processor.rt with
    sha256 := fun s =>
      if s = "row:" ++ lateRow.eventId ++ ":3" then
        "2a5895e25843099309066e8e9a68c37d2df54f42c9c0d0ebbc034201ec469074"
      else if s = "row:" ++ unknownRow.eventId ++ ":1" then
        "03a6c902fa284b383ef1c59073dbbb77b49d092c22a131700f51dbe5e3e92ad9"
      else processor.rt.sha256 s }

/-- A row arrives after the window that consumed the outcome of its incident. -/
def lateArrival : List LocalDelivery :=
  [delivery (.row alertRow), delivery (.row (outcomeRow 0 "success")), delivery (.closed window),
    delivery (.row lateRow)]

/-- An outcome that is recognised is followed by one that is not. -/
def unknownOutcome : List LocalDelivery :=
  [delivery (.row alertRow), delivery (.row (outcomeRow 0 "success")), delivery (.row unknownRow)]

end Sample

lemma returned_of_isOk {ε α : Type} {x : Except ε α} (h : x.isOk = true) : ∃ a, x = .ok a := by
  cases x with
  | error e => cases h
  | ok a => exact ⟨a, rfl⟩

/-- What refutes `NoneStranded` at the last window of a run. -/
lemma stranded {ρ : Type} {apply : RepositoryApply ρ} {rt : Runtime} {r : ρ} {pre : List LocalDelivery} {w o}
    (ho : o ∈ LocalPipeline.rowsOf pre) (recognised : o.eventType = "outcome" ∧
      Decimal.le o.updatedAt w.watermark = true ∧ outcomeFor rt [o] ≠ none)
    (returned : (LocalPipeline.process apply (LocalPipeline.processorOf rt (Sample.delivery (.closed w)))
      (Run.run (LocalPipeline.step apply rt) ⟨{}, r⟩ pre) (.closed w)).2.isOk = true)
    (left : ((Run.run (LocalPipeline.step apply rt) ⟨{}, r⟩
      (pre ++ [Sample.delivery (.closed w)])).store.pending.any fun f =>
        decide (o.incidentKey = f.2.incidentKey) && Decimal.le f.2.updatedAt w.watermark) = true) :
    ¬ NoneStranded apply rt r (pre ++ [Sample.delivery (.closed w)]) := by
  intro none
  obtain ⟨f, hf, check⟩ := List.any_eq_true.mp left
  obtain ⟨incident, through⟩ := Bool.and_eq_true_iff.mp check
  obtain ⟨res, returned⟩ := returned_of_isOk returned
  exact none pre w _ _ [] res rfl returned f hf through
    ⟨o, ho, of_decide_eq_true incident, recognised⟩

/-- A row stays pending although its incident has had a recognised outcome: when an earlier window
consumed that outcome, and when the last outcome row of the incident is not recognised. -/
theorem late_rows_stranded :
    let apply := InMemoryRunbookRepository.apply Sample.lateRt Sample.config.activation
    let closing := Sample.delivery (.closed ⟨.ofInt 4⟩)
    ((Sample.lateArrival ++ [closing]).Pairwise (fun d d' => d.inOrder d' = true) ∧
      ¬ NoneStranded apply Sample.lateRt {} (Sample.lateArrival ++ [closing])) ∧
    ((Sample.unknownOutcome ++ [closing]).Pairwise (fun d d' => d.inOrder d' = true) ∧
      ¬ NoneStranded apply Sample.lateRt {} (Sample.unknownOutcome ++ [closing])) := by
  have recognised : (Sample.outcomeRow 0 "success").eventType = "outcome" ∧
      Decimal.le (Sample.outcomeRow 0 "success").updatedAt (.ofInt 4) = true ∧
      outcomeFor Sample.lateRt [Sample.outcomeRow 0 "success"] ≠ none := by decide +kernel
  refine ⟨⟨by decide +kernel, ?_⟩, ⟨by decide +kernel, ?_⟩⟩
  · refine stranded (o := Sample.outcomeRow 0 "success") ?_ recognised ?_ ?_
    · simp [LocalPipeline.rowsOf, Sample.lateArrival, Sample.delivery]
    · decide +kernel
    · decide +kernel
  · refine stranded (o := Sample.outcomeRow 0 "success") ?_ recognised ?_ ?_
    · simp [LocalPipeline.rowsOf, Sample.unknownOutcome, Sample.delivery]
    · decide +kernel
    · decide +kernel

/-- `buffered_without_outcome` where the last outcome is not recognised. -/
theorem buffered_without_outcome_sample :
    let apply := InMemoryRunbookRepository.apply Sample.lateRt Sample.config.activation
    let before := Run.run (LocalPipeline.step apply Sample.lateRt) ⟨{}, {}⟩ Sample.unknownOutcome
    let after := Run.run (LocalPipeline.step apply Sample.lateRt) ⟨{}, {}⟩
      (Sample.unknownOutcome ++ [Sample.delivery (.closed Sample.window)])
    ∃ events, before.store.readThrough Sample.window.watermark = .ok events ∧
      ∀ id e, Decimal.le e.updatedAt Sample.window.watermark = true → (id, e) ∈ after.store.pending →
        ∀ o, LocalPipeline.lastOutcome events e.incidentKey = some o → outcomeFor Sample.lateRt [o] = none := by
  intro apply before after
  have returned : (LocalPipeline.process apply
      (LocalPipeline.processorOf Sample.lateRt (Sample.delivery (.closed Sample.window))) before
      (.closed Sample.window)).2.isOk = true := by decide +kernel
  obtain ⟨res, returned⟩ := returned_of_isOk returned
  obtain ⟨events, read, _, buffered⟩ := buffered_without_outcome apply Sample.lateRt {}
    Sample.unknownOutcome Sample.window _ _ _ returned
  exact ⟨events, read, fun id e through => (buffered id e through).1⟩

end Postmortem
