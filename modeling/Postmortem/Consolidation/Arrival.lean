import Postmortem.Consolidation.Conservation
import Mathlib.Order.WithBot

/-!
# The order of arrival

`InMemoryWindowStore` keeps the rows by `deduplication_id`, and a window reads them in the order of
`(updated_at, event_id)`. So rows may arrive in any order and more than once: where `event_id` and
`updated_at` determine a row (`Coherent`), the windows read the same rows (`readThrough_same`), and the
processor does the same with them. `SameContents` is what two such runs have in common.
-/

namespace Postmortem

/-- A sort by a key that tells the members apart does not depend on their order. -/
lemma insertionSort_canonical {α κ : Type} [LinearOrder κ] {r : α → α → Prop} [DecidableRel r]
    (key : α → κ) {l l' : List α} (agree : ∀ a ∈ l, ∀ b ∈ l, r a b ↔ key a ≤ key b)
    (apart : ∀ a ∈ l, ∀ b ∈ l, key a = key b → a = b) (perm : l.Perm l') :
    l.insertionSort r = l'.insertionSort r := by
  have total : Std.Total fun a b : α => key a ≤ key b := ⟨fun a b => le_total (key a) (key b)⟩
  have trans : IsTrans α fun a b => key a ≤ key b := ⟨fun _ _ _ => le_trans⟩
  have sorted : ∀ m : List α, m.Perm l → (m.insertionSort r).Pairwise fun a b => key a ≤ key b := by
    intro m hm
    have same := List.map_insertionSort (s := fun a b : α => key a ≤ key b) (r := r) id m
      fun a ha b hb => agree a (hm.mem_iff.mp ha) b (hm.mem_iff.mp hb)
    rw [List.map_id, List.map_id] at same
    rw [same]
    exact List.pairwise_insertionSort _ m
  apply List.Perm.eq_of_pairwise _ (sorted l (.refl l)) (sorted l' perm.symm)
  · exact ((List.perm_insertionSort r l).trans perm).trans (List.perm_insertionSort r l').symm
  · intro a b ha hb le ge
    rw [List.mem_insertionSort] at ha hb
    exact apart a ha b (perm.mem_iff.mpr hb) (le_antisymm le ge)

namespace Decimal

/-- The place of a number in the order. -/
def rank : Decimal → WithBot (WithTop ℚ)
  | finite n c e => ((value n c e : ℚ) : WithTop ℚ)
  | infinity true => ⊥
  | infinity false => ((⊤ : WithTop ℚ) : WithBot (WithTop ℚ))
  | nan => ⊥

/-- Numbers are in the order of their places. -/
lemma le_iff_rank {a b : Decimal} (ha : a ≠ nan) (hb : b ≠ nan) : le a b = true ↔ rank a ≤ rank b := by
  cases a with
  | nan => exact absurd rfl ha
  | finite n c e =>
    cases b with
    | nan => exact absurd rfl hb
    | finite n' c' e' => simp [le, rank]
    | infinity n' => cases n' <;> simp [le, rank]
  | infinity n =>
    cases b with
    | nan => exact absurd rfl hb
    | finite n' c' e' => cases n <;> simp [le, rank]
    | infinity n' => cases n <;> cases n' <;> simp [le, rank]

/-- The same value, or the same number with another exponent. -/
def SameInstant (a b : Decimal) : Prop := a = b ∨ le a b = true ∧ le b a = true

end Decimal

/-- `event_id` and `updated_at` determine a row. -/
def Coherent (rows : List ChangeEvent) : Prop :=
  ∀ e ∈ rows, ∀ e' ∈ rows, e.eventId = e'.eventId → Decimal.SameInstant e.updatedAt e'.updatedAt → e = e'

/-- The text of which `deduplication_id` is the digest. -/
def ChangeEvent.rowText (rt : Runtime) (e : ChangeEvent) : String :=
  "row:" ++ e.eventId ++ ":" ++ rt.decimalText e.updatedAt

/-- What the library promises for the rows: `hashlib.sha256` tells their texts apart, and `str(decimal)`
has no colon and tells the decimals apart. -/
structure Digested (rt : Runtime) (rows : List ChangeEvent) : Prop where
  sha256 : ∀ e ∈ rows, ∀ e' ∈ rows, rt.sha256 (e.rowText rt) = rt.sha256 (e'.rowText rt) →
    e.rowText rt = e'.rowText rt
  colon : ∀ e ∈ rows, ':' ∉ (rt.decimalText e.updatedAt).toList
  decimal : ∀ e ∈ rows, ∀ e' ∈ rows, rt.decimalText e.updatedAt = rt.decimalText e'.updatedAt →
    e.updatedAt = e'.updatedAt

section rows

variable {rt : Runtime} {rows l l' : List ChangeEvent} {e e' : ChangeEvent}

/-- A first separator splits a text in one way. -/
lemma split_first {α : Type} {a : α} {x x' z z' : List α} (hx : a ∉ x) (hx' : a ∉ x')
    (same : x ++ a :: z = x' ++ a :: z') : x = x' ∧ z = z' := by
  induction x generalizing x' with
  | nil =>
    cases x' with
    | nil => exact ⟨rfl, List.tail_eq_of_cons_eq same⟩
    | cons b x' => exact absurd (List.head_eq_of_cons_eq same ▸ List.mem_cons_self) hx'
  | cons b x ih =>
    cases x' with
    | nil => exact absurd (List.head_eq_of_cons_eq same ▸ List.mem_cons_self) hx
    | cons b' x' =>
      have rest := @ih x' (fun h => hx (List.mem_cons_of_mem _ h))
        (fun h => hx' (List.mem_cons_of_mem _ h)) (List.tail_eq_of_cons_eq same)
      exact ⟨congrArg₂ List.cons (List.head_eq_of_cons_eq same) rest.1, rest.2⟩

/-- The identity of a row in the store determines it. -/
lemma Digested.same (h : Digested rt rows) (coherent : Coherent rows) (he : e ∈ rows) (he' : e' ∈ rows)
    (same : e.deduplicationId rt = e'.deduplicationId rt) : e = e' := by
  have texts := congrArg String.toList (h.sha256 e he e' he' same)
  simp only [ChangeEvent.rowText, String.toList_append, List.append_assoc, List.append_cancel_left_eq] at texts
  -- the texts of the timestamps have no colon, so the last colon separates them from `event_id`
  have separator : ":".toList = [':'] := by decide
  have reversed := congrArg List.reverse texts
  rw [separator, List.singleton_append, List.singleton_append] at reversed
  simp only [List.reverse_append, List.reverse_cons, List.append_assoc, List.singleton_append]
    at reversed
  obtain ⟨updated, event⟩ := split_first (fun mem => h.colon e he (List.mem_reverse.mp mem))
    (fun mem => h.colon e' he' (List.mem_reverse.mp mem)) reversed
  apply coherent e he e' he'
  · exact String.ext (List.reverse_injective event)
  · exact .inl (h.decimal e he e' he' (String.ext (List.reverse_injective updated)))

/-- A timestamp that does not compare with the watermark. -/
def Incomparable (w : Decimal) (e : ChangeEvent) : Prop := e.updatedAt = .nan ∨ w = .nan

instance {w} : DecidablePred (Incomparable w) := fun _ => inferInstanceAs (Decidable (_ ∨ _))

/-- The rows up to the watermark, where all timestamps compare with it. -/
lemma rowsThrough_eq {w : Decimal} : rowsThrough w l =
    if ∃ e ∈ l, Incomparable w e then
      .error ⟨.other "InvalidOperation", "[<class 'decimal.InvalidOperation'>]", none, none⟩
    else .ok (l.filter fun e => Decimal.le e.updatedAt w) := by
  induction l with
  | nil => rfl
  | cons e l ih =>
    have compared : Decimal.le? e.updatedAt w = if Incomparable w e then
        .error ⟨.other "InvalidOperation", "[<class 'decimal.InvalidOperation'>]", none, none⟩
      else .ok (Decimal.le e.updatedAt w) := rfl
    rw [rowsThrough, compared, ih]
    simp only [List.exists_mem_cons_iff]
    by_cases first : Incomparable w e
    · have some : Incomparable w e ∨ ∃ e ∈ l, Incomparable w e := .inl first
      rw [if_pos first, if_pos some]
      rfl
    · rw [if_neg first]
      by_cases rest : ∃ e ∈ l, Incomparable w e
      · have some : Incomparable w e ∨ ∃ e ∈ l, Incomparable w e := .inr rest
        rw [if_pos rest, if_pos some]
        rfl
      · rw [if_neg rest, if_neg (not_or.mpr ⟨first, rest⟩), List.filter_cons]
        rfl

/-- A window reads the same rows from dictionaries that read alike. -/
lemma readThrough_same {s s' : InMemoryWindowStore} {w : Decimal} (keyed : Assoc.Keyed s.pending)
    (keyed' : Assoc.Keyed s'.pending) (same : ∀ id, Assoc.get s.pending id = Assoc.get s'.pending id)
    (coherent : Coherent rows) (known : ∀ f ∈ s.pending, f.2 ∈ rows) :
    s.readThrough w = s'.readThrough w := by
  have perm : (s.pending.map Prod.snd).Perm (s'.pending.map Prod.snd) := (keyed.perm keyed' same).map _
  unfold InMemoryWindowStore.readThrough
  rw [rowsThrough_eq, rowsThrough_eq]
  by_cases undefined : ∃ e ∈ s.pending.map Prod.snd, Incomparable w e
  · obtain ⟨e, he, incomparable⟩ := undefined
    rw [if_pos ⟨e, he, incomparable⟩, if_pos ⟨e, perm.mem_iff.mp he, incomparable⟩]
  · have same : ¬ ∃ e ∈ s'.pending.map Prod.snd, Incomparable w e :=
      fun ⟨e, he, incomparable⟩ => undefined ⟨e, perm.mem_iff.mpr he, incomparable⟩
    rw [if_neg undefined, if_neg same]
    have number : ∀ e ∈ (s.pending.map Prod.snd).filter fun e => Decimal.le e.updatedAt w,
        e.updatedAt ≠ .nan ∧ e ∈ rows := by
      intro e he
      have mem := List.mem_of_mem_filter he
      obtain ⟨f, hf, rfl⟩ := List.mem_map.mp mem
      exact ⟨fun nan => undefined ⟨_, mem, .inl nan⟩, known f hf⟩
    apply congrArg Except.ok
    apply insertionSort_canonical (fun e => toLex (Decimal.rank e.updatedAt, e.eventId)) _ _ (perm.filter _)
    · intro a ha b hb
      have le := Decimal.le_iff_rank (number a ha).1 (number b hb).1
      have ge := Decimal.le_iff_rank (number b hb).1 (number a ha).1
      rw [Prod.Lex.toLex_le_toLex, ChangeEvent.updatedBefore, le, ge]
      constructor
      · intro ⟨before, ties⟩
        rcases lt_or_eq_of_le before with lt | eq
        · exact .inl lt
        · exact .inr ⟨eq, ties eq.ge⟩
      · intro before
        rcases before with lt | ⟨eq, ties⟩
        · exact ⟨lt.le, fun ge => absurd lt (not_lt_of_ge ge)⟩
        · exact ⟨le_of_eq eq, fun _ => ties⟩
    · intro a ha b hb same
      have le := Decimal.le_iff_rank (number a ha).1 (number b hb).1
      have ge := Decimal.le_iff_rank (number b hb).1 (number a ha).1
      obtain ⟨rank, event⟩ := Prod.mk.inj (toLex.injective same)
      exact coherent a (number a ha).2 b (number b hb).2 event
        (.inr ⟨le.mpr (le_of_eq rank), ge.mpr (ge_of_eq rank)⟩)

/-- What a row that is put changes. -/
lemma put_spec {s : InMemoryWindowStore} : (s.put rt e).processed = s.processed ∧
    ∀ id, Assoc.get (s.put rt e).pending id =
      if e.deduplicationId rt = id ∧ id ∉ s.processed then some e else Assoc.get s.pending id := by
  unfold InMemoryWindowStore.put
  split
  case isTrue known =>
    refine ⟨rfl, fun id => ?_⟩
    rw [if_neg]
    rintro ⟨same, new⟩
    exact new (same ▸ known)
  case isFalse new =>
    refine ⟨rfl, fun id => ?_⟩
    rw [Assoc.get_set]
    by_cases same : e.deduplicationId rt = id
    · rw [if_pos same, if_pos ⟨same, same ▸ new⟩]
    · rw [if_neg same, if_neg fun h => same h.1]

/-- What a store holds once rows were put: those that are not processed, and what it held. -/
lemma puts_spec {s : InMemoryWindowStore}
    (apart : ∀ e ∈ l, ∀ e' ∈ l, e.deduplicationId rt = e'.deduplicationId rt → e = e') :
    (l.foldl (InMemoryWindowStore.put rt) s).processed = s.processed ∧ ∀ id,
      (∀ e ∈ l, e.deduplicationId rt = id ∧ id ∉ s.processed →
        Assoc.get (l.foldl (InMemoryWindowStore.put rt) s).pending id = some e) ∧
      ((¬ ∃ e ∈ l, e.deduplicationId rt = id ∧ id ∉ s.processed) →
        Assoc.get (l.foldl (InMemoryWindowStore.put rt) s).pending id = Assoc.get s.pending id) := by
  induction l using List.reverseRecOn with
  | nil => exact ⟨rfl, fun id => ⟨nofun, fun _ => rfl⟩⟩
  | append_singleton l e ih =>
    have before : ∀ a ∈ l, a ∈ l ++ [e] := fun _ => List.mem_append_left _
    have last : e ∈ l ++ [e] := by simp
    obtain ⟨processed, pending⟩ := ih fun a ha b hb => apart a (before a ha) b (before b hb)
    rw [List.foldl_append, List.foldl_cons, List.foldl_nil]
    generalize l.foldl (InMemoryWindowStore.put rt) s = t at processed pending
    refine ⟨put_spec.1.trans processed, fun id => ?_⟩
    rw [put_spec.2, processed]
    by_cases new : e.deduplicationId rt = id ∧ id ∉ s.processed
    · rw [if_pos new]
      refine ⟨fun a ha same => ?_, fun none => absurd ⟨e, last, new⟩ none⟩
      rw [apart e last a ha (new.1.trans same.1.symm)]
    · rw [if_neg new]
      refine ⟨fun a ha same => ?_, fun none => (pending id).2 fun ⟨a, ha, same⟩ => ?_⟩
      · rcases List.mem_append.mp ha with ha | ha
        · exact (pending id).1 a ha same
        · exact absurd (List.mem_singleton.mp ha ▸ same) new
      · exact none ⟨a, before a ha, same⟩

end rows

/-- The same contents: the dictionaries read alike, and the sets have the same members. -/
structure SameContents {ρ : Type} (W W' : LocalWorld ρ) : Prop where
  pending : ∀ id, Assoc.get W.store.pending id = Assoc.get W'.store.pending id
  processed : ∀ id, id ∈ W.store.processed ↔ id ∈ W'.store.processed
  archives : W.store.archives = W'.store.archives
  watermark : W.store.watermark = W'.store.watermark
  repository : W.repository = W'.repository

namespace LocalPipeline

variable {ρ : Type} {apply : RepositoryApply ρ} {p : ConsolidationProcessor} {rt : Runtime}
  {W W' : LocalWorld ρ} {w : ClosedWindow}

/-- A group. -/
lemma consolidateGroup_same {g} (h : SameContents W W') :
    SameContents (consolidateGroup apply p g W).1 (consolidateGroup apply p g W').1 ∧
      (consolidateGroup apply p g W).2 = (consolidateGroup apply p g W').2 := by
  unfold consolidateGroup
  cases p.embeddedResult g with
  | error e => exact ⟨h, rfl⟩
  | ok result =>
    rw [h.repository]
    dsimp only
    rcases apply W'.repository result.candidate (g.idempotencyKey p.rt) with ⟨r, e | m⟩
    · exact ⟨⟨h.pending, h.processed, h.archives, h.watermark, rfl⟩, rfl⟩
    · refine ⟨⟨h.pending, h.processed, ?_, h.watermark, rfl⟩, rfl⟩
      show Assoc.setDefault _ _ _ = Assoc.setDefault _ _ _
      rw [h.archives]

/-- The loop over the groups. -/
lemma consolidateGroups_same {groups} (h : SameContents W W') :
    SameContents (consolidateGroups apply p groups W).1 (consolidateGroups apply p groups W').1 ∧
      (consolidateGroups apply p groups W).2 = (consolidateGroups apply p groups W').2 := by
  induction groups generalizing W W' with
  | nil => exact ⟨h, rfl⟩
  | cons g groups ih =>
    obtain ⟨first, returned⟩ := @consolidateGroup_same _ apply p _ _ g h
    unfold consolidateGroups
    generalize consolidateGroup apply p g W = out at first returned
    generalize consolidateGroup apply p g W' = out' at first returned
    obtain ⟨V, res⟩ := out
    obtain ⟨V', res'⟩ := out'
    cases (show res = res' from returned)
    cases res with
    | error e => exact ⟨first, rfl⟩
    | ok m =>
      obtain ⟨rest, returned⟩ := @ih V V' first
      dsimp only
      generalize consolidateGroups apply p groups V = out at rest returned
      generalize consolidateGroups apply p groups V' = out' at rest returned
      obtain ⟨U, res⟩ := out
      obtain ⟨U', res'⟩ := out'
      cases (show res = res' from returned)
      cases res with
      | error e => exact ⟨rest, rfl⟩
      | ok ms => exact ⟨rest, rfl⟩

lemma markProcessed_same {events watermark} (h : SameContents W W') :
    SameContents { W with store := (W.store.markProcessed rt events watermark).1 }
      { W' with store := (W'.store.markProcessed rt events watermark).1 } ∧
    (W.store.markProcessed rt events watermark).2 = (W'.store.markProcessed rt events watermark).2 := by
  have pending : ∀ id,
      Assoc.get (events.foldl (LocalWindowStore.markRow rt) W.store.toInMemoryWindowStore).pending id =
      Assoc.get (events.foldl (LocalWindowStore.markRow rt) W'.store.toInMemoryWindowStore).pending id := by
    intro id
    rw [markRows_spec.2, markRows_spec.2, h.pending]
  have processed : ∀ id,
      id ∈ (events.foldl (LocalWindowStore.markRow rt) W.store.toInMemoryWindowStore).processed ↔
      id ∈ (events.foldl (LocalWindowStore.markRow rt) W'.store.toInMemoryWindowStore).processed := by
    intro id
    rw [markRows_spec.1, markRows_spec.1, h.processed]
  have through : W.store.watermarkOr watermark = W'.store.watermarkOr watermark := by
    unfold LocalWindowStore.watermarkOr
    rw [h.watermark]
  unfold LocalWindowStore.markProcessed
  rw [through]
  cases Decimal.max? (W'.store.watermarkOr watermark) watermark with
  | error e => exact ⟨⟨pending, processed, h.archives, h.watermark, h.repository⟩, rfl⟩
  | ok d => exact ⟨⟨pending, processed, h.archives, rfl, h.repository⟩, rfl⟩

/-- A window, where it reads the same rows. -/
lemma process_same (h : SameContents W W')
    (read : W.store.readThrough w.watermark = W'.store.readThrough w.watermark) :
    SameContents (process apply p W (.closed w)).1 (process apply p W' (.closed w)).1 ∧
      (process apply p W (.closed w)).2 = (process apply p W' (.closed w)).2 ∧
      applications apply p W (.closed w) = applications apply p W' (.closed w) := by
  unfold process applications
  dsimp only
  rw [read, h.repository]
  cases W'.store.readThrough w.watermark with
  | error e => exact ⟨h, rfl, rfl⟩
  | ok events =>
    obtain ⟨loop, returned⟩ :=
      @consolidateGroups_same _ apply p _ _ (groupCompletedIncidents p.rt events) h
    dsimp only
    generalize consolidateGroups apply p (groupCompletedIncidents p.rt events) W = out at loop returned
    generalize consolidateGroups apply p (groupCompletedIncidents p.rt events) W' = out' at loop returned
    obtain ⟨V, res⟩ := out
    obtain ⟨V', res'⟩ := out'
    cases (show res = res' from returned)
    cases res with
    | error e => exact ⟨loop, rfl, rfl⟩
    | ok ms =>
      obtain ⟨marked, returned⟩ := @markProcessed_same _ p.rt _ _ (p.completedEvents events) w.watermark loop
      dsimp only
      generalize V.store.markProcessed p.rt (p.completedEvents events) w.watermark = out at marked returned
      generalize V'.store.markProcessed p.rt (p.completedEvents events) w.watermark = out' at marked returned
      obtain ⟨store, res⟩ := out
      obtain ⟨store', res'⟩ := out'
      cases (show res = res' from returned)
      cases res with
      | error e => exact ⟨marked, rfl, rfl⟩
      | ok u => exact ⟨marked, rfl, rfl⟩

lemma put_same {e} (h : SameContents W W') :
    SameContents (process apply p W (.row e)).1 (process apply p W' (.row e)).1 := by
  refine ⟨fun id => ?_, fun id => ?_, h.archives, h.watermark, h.repository⟩
  · show Assoc.get (InMemoryWindowStore.put p.rt W.store.toInMemoryWindowStore e).pending id =
      Assoc.get (InMemoryWindowStore.put p.rt W'.store.toInMemoryWindowStore e).pending id
    rw [put_spec.2, put_spec.2, h.pending]
    simp only [h.processed]
  · show id ∈ (InMemoryWindowStore.put p.rt W.store.toInMemoryWindowStore e).processed ↔
      id ∈ (InMemoryWindowStore.put p.rt W'.store.toInMemoryWindowStore e).processed
    rw [put_spec.1, put_spec.1, h.processed]

/-- Rows that arrive one after another. -/
def arrivals (model : ConsolidationModel) (embed : String → Except Raised Embedding)
    (rows : List ChangeEvent) : List LocalDelivery :=
  rows.map fun e => ⟨.row e, model, embed⟩

lemma run_arrivals {model embed l} : Run.run (step apply rt) W (arrivals model embed l) =
    { W with store := { W.store with
      toInMemoryWindowStore := l.foldl (InMemoryWindowStore.put rt) W.store.toInMemoryWindowStore } } := by
  induction l using List.reverseRecOn with
  | nil => rfl
  | append_singleton l e ih =>
    rw [arrivals, List.map_append, Run.run_append]
    show step apply rt (Run.run (step apply rt) W (arrivals model embed l)) _ = _
    rw [ih, List.foldl_append]
    rfl

lemma rowsOf_arrivals {model embed l} : rowsOf (arrivals model embed l) = l := by
  induction l with
  | nil => rfl
  | cons e l ih => exact congrArg (e :: ·) ih

lemma rowsOf_append {ds ds'} : rowsOf (ds ++ ds') = rowsOf ds ++ rowsOf ds' := List.filterMap_append

/-- The same rows, put in another order or more than once. -/
lemma arrivals_same {model embed l l'} (same : ∀ e, e ∈ l ↔ e ∈ l')
    (apart : ∀ e ∈ l, ∀ e' ∈ l, e.deduplicationId rt = e'.deduplicationId rt → e = e') :
    SameContents (Run.run (step apply rt) W (arrivals model embed l))
      (Run.run (step apply rt) W (arrivals model embed l')) := by
  obtain ⟨processed, pending⟩ := @puts_spec rt l W.store.toInMemoryWindowStore apart
  obtain ⟨processed', pending'⟩ := @puts_spec rt l' W.store.toInMemoryWindowStore
    fun e he e' he' => apart e ((same e).mpr he) e' ((same e').mpr he')
  rw [run_arrivals, run_arrivals]
  refine ⟨fun id => ?_, fun id => by rw [processed, processed'], rfl, rfl, rfl⟩
  by_cases put : ∃ e ∈ l, e.deduplicationId rt = id ∧ id ∉ W.store.processed
  · obtain ⟨e, he, new⟩ := put
    rw [(pending id).1 e he new, (pending' id).1 e ((same e).mp he) new]
  · rw [(pending id).2 put, (pending' id).2 fun ⟨e, he, new⟩ => put ⟨e, (same e).mpr he, new⟩]

/-- What follows the rows keeps the contents the same. -/
lemma run_same {r : ρ} {ds ds' later : List LocalDelivery}
    (h : SameContents (Run.run (step apply rt) ⟨{}, r⟩ ds) (Run.run (step apply rt) ⟨{}, r⟩ ds'))
    (coherent : Coherent (rowsOf (ds ++ later))) :
    SameContents (Run.run (step apply rt) ⟨{}, r⟩ (ds ++ later))
      (Run.run (step apply rt) ⟨{}, r⟩ (ds' ++ later)) := by
  induction later using List.reverseRecOn with
  | nil => simpa using h
  | append_singleton later d ih =>
    rw [← List.append_assoc] at coherent ⊢
    rw [← List.append_assoc, Run.run_append, @Run.run_append _ _ _ _ (ds' ++ later)]
    have sub : ∀ e ∈ rowsOf (ds ++ later), e ∈ rowsOf (ds ++ later ++ [d]) := by
      intro e he
      rw [rowsOf_append]
      exact List.mem_append_left _ he
    have coherent_before : Coherent (rowsOf (ds ++ later)) :=
      fun e he e' he' => coherent e (sub e he) e' (sub e' he')
    have same := ih coherent_before
    obtain ⟨message, model, embed⟩ := d
    cases message with
    | row e => exact put_same same
    | closed w =>
      refine (process_same same ?_).1
      have before := @run_conserved _ apply rt (ds ++ later) r
      have before' := @run_conserved _ apply rt (ds' ++ later) r
      exact readThrough_same before.keyed before'.keyed same.pending coherent_before
        fun f hf => (before.entries f hf).2

end LocalPipeline

/-- The order in which rows arrive and their duplicates make no difference. After any run, the same rows
are put in two orders, each as often as one likes, and the same deliveries follow: the stores and the
repositories have the same contents, and every window that closes next makes the same groups, calls the
repository with the same candidates and keys, and returns the same mutations in the same order or raises
the same exception. -/
theorem arrival_order_irrelevant {ρ : Type} (apply : RepositoryApply ρ) (rt : Runtime) (r : ρ)
    (earlier later : List LocalDelivery) (l l' : List ChangeEvent) (same : ∀ e, e ∈ l ↔ e ∈ l')
    (model : ConsolidationModel) (embed : String → Except Raised Embedding)
    (coherent : Coherent (LocalPipeline.rowsOf earlier ++ l ++ LocalPipeline.rowsOf later))
    (digested : Digested rt l) :
    let after := fun rows => Run.run (LocalPipeline.step apply rt) ⟨{}, r⟩
      (earlier ++ LocalPipeline.arrivals model embed rows ++ later)
    SameContents (after l) (after l') ∧
    ∀ (w : ClosedWindow) (model : ConsolidationModel) (embed : String → Except Raised Embedding),
      let p := LocalPipeline.processorOf rt ⟨.closed w, model, embed⟩
      ((after l).store.readThrough w.watermark).map (groupCompletedIncidents rt) =
        ((after l').store.readThrough w.watermark).map (groupCompletedIncidents rt) ∧
      LocalPipeline.applications apply p (after l) (.closed w) =
        LocalPipeline.applications apply p (after l') (.closed w) ∧
      (LocalPipeline.process apply p (after l) (.closed w)).2 =
        (LocalPipeline.process apply p (after l') (.closed w)).2 ∧
      SameContents (LocalPipeline.process apply p (after l) (.closed w)).1
        (LocalPipeline.process apply p (after l') (.closed w)).1 := by
  intro after
  have rows : LocalPipeline.rowsOf (earlier ++ LocalPipeline.arrivals model embed l ++ later) =
      LocalPipeline.rowsOf earlier ++ l ++ LocalPipeline.rowsOf later := by
    rw [LocalPipeline.rowsOf_append, LocalPipeline.rowsOf_append, LocalPipeline.rowsOf_arrivals]
  have put : ∀ e ∈ l, e ∈ LocalPipeline.rowsOf earlier ++ l ++ LocalPipeline.rowsOf later :=
    fun e he => List.mem_append_left _ (List.mem_append_right _ he)
  have apart : ∀ e ∈ l, ∀ e' ∈ l, e.deduplicationId rt = e'.deduplicationId rt → e = e' :=
    fun e he e' he' => digested.same (fun a ha b hb => coherent a (put a ha) b (put b hb)) he he'
  have contents : SameContents (after l) (after l') := by
    apply LocalPipeline.run_same _ (by rw [rows]; exact coherent)
    rw [Run.run_append, Run.run_append]
    exact LocalPipeline.arrivals_same same apart
  refine ⟨contents, ?_⟩
  intro w model' embed' p
  have before := @LocalPipeline.run_conserved _ apply rt
    (earlier ++ LocalPipeline.arrivals model embed l ++ later) r
  have before' := @LocalPipeline.run_conserved _ apply rt
    (earlier ++ LocalPipeline.arrivals model embed l' ++ later) r
  have read : (after l).store.readThrough w.watermark = (after l').store.readThrough w.watermark :=
    readThrough_same before.keyed before'.keyed contents.pending coherent
      fun f hf => rows ▸ (before.entries f hf).2
  obtain ⟨final, returned, calls⟩ := @LocalPipeline.process_same _ apply p _ _ w contents read
  exact ⟨by rw [read], calls, returned, final⟩

/-- `arrival_order_irrelevant` where the outcome row arrives first and is delivered twice. -/
theorem arrival_order_irrelevant_sample :
    let apply := InMemoryRunbookRepository.apply Sample.processor.rt Sample.config.activation
    let after := fun rows => Run.run (LocalPipeline.step apply Sample.processor.rt) ⟨{}, {}⟩
      ([] ++ LocalPipeline.arrivals Sample.processor.model Sample.processor.embed rows ++ [])
    let p := LocalPipeline.processorOf Sample.processor.rt (Sample.delivery (.closed Sample.window))
    (LocalPipeline.process apply p (after [Sample.alertRow, Sample.outcomeRow 0 "success"])
        (.closed Sample.window)).2 =
      (LocalPipeline.process apply p
        (after [Sample.outcomeRow 0 "success", Sample.alertRow, Sample.outcomeRow 0 "success"])
        (.closed Sample.window)).2 := by
  intro apply after p
  have same : ∀ e, e ∈ [Sample.alertRow, Sample.outcomeRow 0 "success"] ↔
      e ∈ [Sample.outcomeRow 0 "success", Sample.alertRow, Sample.outcomeRow 0 "success"] := by
    intro e
    simp only [List.mem_cons, List.not_mem_nil, or_false]
    grind
  have coherent : Coherent (LocalPipeline.rowsOf [] ++ [Sample.alertRow, Sample.outcomeRow 0 "success"] ++
      LocalPipeline.rowsOf []) := by
    unfold Coherent Decimal.SameInstant
    decide +kernel
  have digested : Digested Sample.processor.rt [Sample.alertRow, Sample.outcomeRow 0 "success"] := by
    constructor
    · decide +kernel
    · decide +kernel
    · decide +kernel
  exact ((arrival_order_irrelevant apply Sample.processor.rt {} [] [] _ _ same _ _ coherent digested).2
    Sample.window _ _).2.2.1

end Postmortem
