import Postmortem.Backend.Eligibility
import Postmortem.Lib.Selection
import Mathlib.Data.String.Basic

/-!
# Diversity-aware selection

`RecallRanker._diverse`: a sort by score, similarity and identifier, then a loop that keeps the first item of each
key until the limit. `DiversityContract` says what it is for: the maxima of the greatest groups, whatever the
order of the items. The comparison is a strict order (`keyLt_trans`, `keyLt_asymm`), but not-a-number compares
with nothing, and then the order of the input decides (`diverse_contract_iff`). `rank_invariant_iff` is what this
means for a recall.
-/

namespace Postmortem

open Selection

namespace RecallRanker

section order

variable {a b c : MemoryCandidate}

lemma keyLt_iff : keyLt a b = true ↔ a.rankingScore.lt b.rankingScore = true ∨
    a.rankingScore.eq b.rankingScore = true ∧ (a.similarity.lt b.similarity = true ∨
      a.similarity.eq b.similarity = true ∧ a.memoryId.text < b.memoryId.text) := by
  unfold keyLt
  cases scores : a.rankingScore.eq b.rankingScore with
  | false => simp
  | true =>
    obtain ⟨_, score, _⟩ := Flt.eq_symm scores
    cases similarities : a.similarity.eq b.similarity with
    | false => simp [score]
    | true =>
      obtain ⟨_, similarity, _⟩ := Flt.eq_symm similarities
      simp [score, similarity]

lemma keyLt_trans : ∀ a b c, keyLt a b = true → keyLt b c = true → keyLt a c = true := by
  intro a b c h h'
  rw [keyLt_iff] at h h' ⊢
  rcases h with lt | ⟨eq, h⟩
  · rcases h' with lt' | ⟨eq', _⟩
    · exact .inl (Flt.lt_trans lt lt')
    · exact .inl (Flt.lt_congr_right eq' ▸ lt)
  · rcases h' with lt' | ⟨eq', h'⟩
    · exact .inl (Flt.lt_congr_left eq ▸ lt')
    · refine .inr ⟨Flt.eq_trans eq eq', ?_⟩
      rcases h with lt | ⟨same, text⟩
      · rcases h' with lt' | ⟨same', _⟩
        · exact .inl (Flt.lt_trans lt lt')
        · exact .inl (Flt.lt_congr_right same' ▸ lt)
      · rcases h' with lt' | ⟨same', text'⟩
        · exact .inl (Flt.lt_congr_left same ▸ lt')
        · exact .inr ⟨Flt.eq_trans same same', text.trans text'⟩

lemma keyLt_irrefl : keyLt a a = false := by
  apply Bool.eq_false_iff.mpr
  intro h
  rcases keyLt_iff.mp h with lt | ⟨_, lt | ⟨_, lt⟩⟩
  · exact Bool.eq_false_iff.mp (Flt.lt_asymm lt).1 lt
  · exact Bool.eq_false_iff.mp (Flt.lt_asymm lt).1 lt
  · exact lt_irrefl _ lt

lemma keyLt_asymm : ∀ a b, keyLt a b = true → keyLt b a = false := by
  intro a b h
  apply Bool.eq_false_iff.mpr
  intro h'
  exact Bool.eq_false_iff.mp keyLt_irrefl (keyLt_trans a b a h h')

/-- Candidates of which the scores and the similarities are numbers are comparable. -/
lemma keyLt_total (scoreA : a.rankingScore ≠ .nan) (scoreB : b.rankingScore ≠ .nan)
    (similarityA : a.similarity ≠ .nan) (similarityB : b.similarity ≠ .nan) (ne : a.memoryId ≠ b.memoryId) :
    keyLt a b = true ∨ keyLt b a = true := by
  simp only [keyLt_iff]
  rcases Flt.trichotomy.mpr ⟨scoreA, scoreB⟩ with lt | eq | lt
  · exact .inl (.inl lt)
  · have eq' := (Flt.eq_symm eq).1
    rcases Flt.trichotomy.mpr ⟨similarityA, similarityB⟩ with lt | same | lt
    · exact .inl (.inr ⟨eq, .inl lt⟩)
    · have same' := (Flt.eq_symm same).1
      have text : a.memoryId.text ≠ b.memoryId.text := by
        intro e
        have same := congrArg Uuid.ofText? e
        rw [Uuid.ofText?_text, Uuid.ofText?_text] at same
        exact ne (Option.some.inj same)
      rcases lt_or_gt_of_ne text with lt | lt
      · exact .inl (.inr ⟨eq, .inr ⟨same, lt⟩⟩)
      · exact .inr (.inr ⟨eq', .inr ⟨same', lt⟩⟩)
    · exact .inr (.inr ⟨eq', .inl lt⟩)
  · exact .inr (.inl lt)

end order

section selection

variable {κ : Type} [DecidableEq κ] {items items' : List MemoryCandidate} {limit : Int} {key : MemoryCandidate → κ}

lemma select_eq {seen count} : select limit key items seen count = firsts limit key items seen count := by
  induction items generalizing seen count with
  | nil => rfl
  | cons item rest ih =>
    unfold select firsts
    rw [ih, ih]

lemma diverse_eq : diverse items limit key = firsts limit key (descending keyLt items) [] 0 := select_eq

/-- The greatest of the groups, greatest first. -/
structure TopGroups (items : List MemoryCandidate) (limit : Int) (key : MemoryCandidate → κ)
    (out : List MemoryCandidate) : Prop where
  descends : Descends keyLt out
  length_le : (out.length : Int) ≤ limit
  keys : (out.map key).Nodup
  mem : ∀ x ∈ out, x ∈ items
  greatest : ∀ x ∈ out, ∀ y ∈ items, key y = key x → y = x ∨ keyLt y x = true
  missing : ∀ y ∈ items, (∀ x ∈ out, key x ≠ key y) →
    (∀ x ∈ out, keyLt y x = true) ∧ (out.length : Int) = limit

/-- Comparable items are selected from as they should be. -/
lemma diverse_topGroups (comparable : Comparable keyLt items) (nodup : items.Nodup) (room : 1 ≤ limit) :
    TopGroups items limit key (diverse items limit key) := by
  have sorted := descending_pairwise keyLt_trans comparable nodup
  have length : ((diverse items limit key).length : Int) ≤ limit := by
    have bound := @firsts_length _ _ _ limit key (descending keyLt items) [] 0 (by simpa using room)
    rw [diverse_eq]
    simpa using bound
  constructor
  case descends =>
    rw [diverse_eq]
    exact sorted.sublist firsts_sublist
  case length_le => exact length
  case keys =>
    rw [diverse_eq]
    exact firsts_keys.1
  case mem => exact fun x hx => diverse_subset hx
  case greatest =>
    intro x hx y hy same
    rw [diverse_eq] at hx
    exact firsts_greatest sorted hx (mem_descending.mpr hy) same
  case missing =>
    intro y hy missing
    rw [diverse_eq] at missing length ⊢
    obtain ⟨above, full⟩ := firsts_missing sorted (mem_descending.mpr hy) List.not_mem_nil missing
    refine ⟨above, ?_⟩
    simp only [Nat.cast_zero, add_zero] at full
    exact le_antisymm length full

/-- The selection from comparable items does not depend on their order. -/
lemma diverse_perm (comparable : Comparable keyLt items) (nodup : items.Nodup) (perm : items'.Perm items) :
    diverse items' limit key = diverse items limit key := by
  rw [diverse_eq, diverse_eq, descending_eq_of_perm keyLt_trans keyLt_asymm comparable nodup perm]

end selection

/-- What `_diverse` is for, of a list of items: it returns the greatest of the groups, whatever the keys and the
limit, and does not see the order of the items. -/
def DiversityContract (items : List MemoryCandidate) : Prop :=
  ∀ (κ : Type) [DecidableEq κ] (key : MemoryCandidate → κ) (limit : Int), 1 ≤ limit →
    TopGroups items limit key (diverse items limit key) ∧
      ∀ items', items'.Perm items → diverse items' limit key = diverse items limit key

/-- Where each item is its own group and the limit is out of reach, the selection is the sorted list. -/
lemma diverse_self {items : List MemoryCandidate} (nodup : items.Nodup) :
    diverse items (items.length + 1) id = descending keyLt items := by
  rw [diverse_eq]
  apply firsts_all
  · rw [List.map_id]
    exact descending_perm.nodup_iff.mpr nodup
  · exact fun _ _ => List.not_mem_nil
  · simp [descending_perm.length_eq]

/-- Of two incomparable items the first in the list is the first in the selection. -/
lemma before_of_not_keyLt {items : List MemoryCandidate} {a b} (nodup : items.Nodup) (ha : a ∈ items) (hb : b ∈ items)
    (ne : a ≠ b) (notBelow : keyLt a b = false) :
    [a, b].Sublist (diverse (a :: items.erase a) (items.length + 1) id) := by
  have perm : (a :: items.erase a).Perm items := (List.perm_cons_erase ha).symm
  have length : (a :: items.erase a).length = items.length := perm.length_eq
  have sorted := diverse_self (perm.nodup_iff.mpr nodup)
  rw [length] at sorted
  rw [sorted]
  apply descending_stable notBelow
  apply List.Sublist.cons_cons
  exact List.singleton_sublist.mpr ((List.mem_erase_of_ne ne.symm).mpr hb)

/-- The contract holds of a list of distinct items exactly where any two of them are comparable. -/
lemma diverse_contract_iff {items : List MemoryCandidate} (nodup : items.Nodup) :
    DiversityContract items ↔ Comparable keyLt items := by
  constructor
  · intro contract a ha b hb ne
    by_contra incomparable
    rw [not_or, Bool.not_eq_true, Bool.not_eq_true] at incomparable
    obtain ⟨notBelow, notAbove⟩ := incomparable
    obtain ⟨_, invariant⟩ := contract MemoryCandidate id (items.length + 1) (by omega)
    have first := before_of_not_keyLt nodup ha hb ne notBelow
    have second := before_of_not_keyLt nodup hb ha ne.symm notAbove
    rw [invariant _ (List.perm_cons_erase ha).symm, diverse_self nodup] at first
    rw [invariant _ (List.perm_cons_erase hb).symm, diverse_self nodup] at second
    exact not_swapped (descending_perm.nodup_iff.mpr nodup) first second
  · intro comparable κ _ key limit room
    exact ⟨diverse_topGroups comparable nodup room, fun items' perm => diverse_perm comparable nodup perm⟩

/-! ## Rankings -/

section accepted

variable {gate : MemoryCandidate → Except Raised Bool} {score : MemoryCandidate → Except Raised MemoryCandidate}
  {items items' out : List MemoryCandidate} {c x : MemoryCandidate}

/-- The items that pass the gate, scored, in order. -/
def accepted (gate : MemoryCandidate → Except Raised Bool) (score : MemoryCandidate → Except Raised MemoryCandidate) :
    List MemoryCandidate → Except Raised (List MemoryCandidate)
  | [] => .ok []
  | item :: rest => do
    if ← gate item then
      let item ← score item
      return item :: (← accepted gate score rest)
    else accepted gate score rest

lemma eligibleRunbooks_eq {rt policy query} : eligibleRunbooks rt policy query items =
    accepted (runbookEligible rt policy query) (scoreRunbook rt policy query) items := by
  induction items with
  | nil => rfl
  | cons item rest ih =>
    unfold eligibleRunbooks accepted
    rw [ih]

/-- A filter and a loop over what is left. -/
lemma filter_mapM_eq {p : MemoryCandidate → Bool} :
    (items.filter p).mapM score = accepted (fun c => .ok (p c)) score items := by
  induction items with
  | nil => rfl
  | cons item rest ih =>
    unfold accepted
    rw [← ih]
    cases passes : p item with
    | true =>
      rw [List.filter_cons_of_pos passes, List.mapM_cons]
      rfl
    | false =>
      rw [List.filter_cons_of_neg (by simp [passes])]
      rfl

/-- The items of a list that is accepted: the first is refused, or it is scored. -/
lemma accepted_cons (h : accepted gate score (c :: items) = .ok out) :
    (gate c = .ok false ∧ accepted gate score items = .ok out) ∨
      ∃ x rest, gate c = .ok true ∧ score c = .ok x ∧ accepted gate score items = .ok rest ∧ out = x :: rest := by
  unfold accepted at h
  obtain ⟨passes, gated, h⟩ := bind_ok h
  split at h
  case isTrue yes =>
    obtain ⟨x, scored, h⟩ := bind_ok h
    obtain ⟨rest, tail, e⟩ := bind_ok h
    cases e
    exact .inr ⟨x, rest, yes ▸ gated, scored, tail, rfl⟩
  case isFalse no => exact .inl ⟨Bool.eq_false_iff.mpr no ▸ gated, h⟩

lemma accepted_refuse {out} (gated : gate c = .ok false) (h : accepted gate score items = .ok out) :
    accepted gate score (c :: items) = .ok out := by
  unfold accepted
  rw [gated]
  exact h

lemma accepted_take {out} (gated : gate c = .ok true) (scored : score c = .ok x)
    (h : accepted gate score items = .ok out) : accepted gate score (c :: items) = .ok (x :: out) := by
  unfold accepted
  rw [gated]
  show (score c >>= fun item => accepted gate score items >>= fun rest => Except.ok (item :: rest)) = _
  rw [scored, h]
  rfl

lemma accepted_mem (h : accepted gate score items = .ok out) (hx : x ∈ out) :
    ∃ c ∈ items, gate c = .ok true ∧ score c = .ok x := by
  induction items generalizing out with
  | nil =>
    cases h
    cases hx
  | cons d items ih =>
    rcases accepted_cons h with ⟨_, tail⟩ | ⟨y, rest, gated, scored, tail, rfl⟩
    · obtain ⟨c, hc, spec⟩ := ih tail hx
      exact ⟨c, List.mem_cons_of_mem _ hc, spec⟩
    · rcases List.mem_cons.mp hx with rfl | hx
      · exact ⟨d, List.mem_cons_self, gated, scored⟩
      · obtain ⟨c, hc, spec⟩ := ih tail hx
        exact ⟨c, List.mem_cons_of_mem _ hc, spec⟩

/-- Another order of the items gives another order of what is accepted. -/
lemma accepted_perm (perm : items.Perm items') :
    ∀ out, accepted gate score items = .ok out → ∃ out', accepted gate score items' = .ok out' ∧ out'.Perm out := by
  induction perm with
  | nil => exact fun out h => ⟨out, h, .refl _⟩
  | cons c _ ih =>
    intro out h
    rcases accepted_cons h with ⟨gated, tail⟩ | ⟨x, rest, gated, scored, tail, rfl⟩
    · obtain ⟨out', h', perm⟩ := ih out tail
      exact ⟨out', accepted_refuse gated h', perm⟩
    · obtain ⟨rest', h', perm⟩ := ih rest tail
      exact ⟨x :: rest', accepted_take gated scored h', perm.cons x⟩
  | swap c d l =>
    intro out h
    rcases accepted_cons h with ⟨gd, tail⟩ | ⟨y, rest, gd, sd, tail, rfl⟩
    · rcases accepted_cons tail with ⟨gc, tail'⟩ | ⟨x, rest, gc, sc, tail', rfl⟩
      · exact ⟨_, accepted_refuse gc (accepted_refuse gd tail'), .refl _⟩
      · exact ⟨_, accepted_take gc sc (accepted_refuse gd tail'), .refl _⟩
    · rcases accepted_cons tail with ⟨gc, tail'⟩ | ⟨x, rest, gc, sc, tail', rfl⟩
      · exact ⟨_, accepted_refuse gc (accepted_take gd sd tail'), .refl _⟩
      · exact ⟨_, accepted_take gc sc (accepted_take gd sd tail'), .swap _ _ _⟩
  | trans _ _ first second =>
    intro out h
    obtain ⟨out', h', perm'⟩ := first out h
    obtain ⟨out'', h'', perm''⟩ := second out' h'
    exact ⟨out'', h'', perm''.trans perm'⟩

/-- Scoring keeps the identifiers. -/
lemma accepted_ids (keeps : ∀ c x, score c = .ok x → x.memoryId = c.memoryId)
    (h : accepted gate score items = .ok out) :
    (out.map MemoryCandidate.memoryId).Sublist (items.map MemoryCandidate.memoryId) := by
  induction items generalizing out with
  | nil =>
    cases h
    exact List.Sublist.refl _
  | cons c items ih =>
    rcases accepted_cons h with ⟨_, tail⟩ | ⟨x, rest, _, scored, tail, rfl⟩
    · exact (ih tail).cons _
    · rw [List.map_cons, List.map_cons, keeps c x scored]
      exact (ih tail).cons_cons _

end accepted

/-! ## Not-a-number -/

section heads

variable {κ : Type} [DecidableEq κ] {limit : Int} {key : MemoryCandidate → κ} {a b x y : MemoryCandidate}
  {l : List MemoryCandidate}

lemma keyLt_nan (nan : a.rankingScore = .nan) : keyLt a b = false ∧ keyLt b a = false := by
  unfold keyLt
  rw [nan]
  cases b.rankingScore <;> exact ⟨rfl, rfl⟩

lemma descending_cons_of_not_keyLt (notBelow : ∀ b ∈ l, keyLt a b = false) :
    descending keyLt (a :: l) = a :: descending keyLt l :=
  List.insertionSort_cons_of_forall_rel _ notBelow

/-- An item without a score is selected first where it comes first. -/
lemma diverse_head_nan (nan : x.rankingScore = .nan) : (diverse (x :: l) limit key).head? = some x := by
  rw [diverse_eq, descending_cons_of_not_keyLt fun b _ => (keyLt_nan nan).1]
  exact firsts_head

/-- An item that comes before one without a score is selected first. -/
lemma diverse_head_before (nan : x.rankingScore = .nan) : (diverse (y :: x :: l) limit key).head? = some y := by
  have sorted : descending keyLt (y :: x :: l) = y :: descending keyLt (x :: l) := by
    show (descending keyLt (x :: l)).orderedInsert _ y = _
    rw [descending_cons_of_not_keyLt fun b _ => (keyLt_nan nan).1]
    exact if_pos (keyLt_nan nan).2
  rw [diverse_eq, sorted]
  exact firsts_head

end heads

/-- What a score keeps of the candidate, and when it is not a number. -/
structure Scores (score : MemoryCandidate → Except Raised MemoryCandidate) (unmeasured : MemoryCandidate → Prop) :
    Prop where
  memoryId : ∀ c x, score c = .ok x → x.memoryId = c.memoryId
  similarity : ∀ c x, score c = .ok x → x.similarity = c.similarity
  nan : ∀ c x, score c = .ok x → (x.rankingScore = .nan ↔ unmeasured c)
  of_similarity : ∀ c, c.similarity = .nan → unmeasured c

/-- No candidate that passes the gate beside another one is unmeasured. -/
def Untied (gate : MemoryCandidate → Except Raised Bool) (unmeasured : MemoryCandidate → Prop)
    (items : List MemoryCandidate) : Prop :=
  ∀ c ∈ items, ∀ d ∈ items, c ≠ d → gate c = .ok true → gate d = .ok true → ¬ unmeasured c

/-- No two of the items have one identifier. -/
def DistinctIds (items : List MemoryCandidate) : Prop := (items.map MemoryCandidate.memoryId).Nodup

lemma DistinctIds.nil : DistinctIds [] := List.nodup_nil

lemma DistinctIds.nodup {items : List MemoryCandidate} (h : DistinctIds items) : items.Nodup := h.of_map

lemma DistinctIds.ne {items : List MemoryCandidate} (h : DistinctIds items) {a b} (ha : a ∈ items) (hb : b ∈ items)
    (ne : a ≠ b) : a.memoryId ≠ b.memoryId :=
  fun e => ne (List.inj_on_of_nodup_map h ha hb e)

section invariance

variable {gate : MemoryCandidate → Except Raised Bool} {score : MemoryCandidate → Except Raised MemoryCandidate}
  {unmeasured : MemoryCandidate → Prop} {items out : List MemoryCandidate}
  {κ : Type} [DecidableEq κ] {limit : Int} {key : MemoryCandidate → κ}

/-- What is accepted is comparable where nothing is unmeasured beside another item. -/
lemma accepted_comparable (scores : Scores score unmeasured) (untied : Untied gate unmeasured items)
    (h : accepted gate score items = .ok out) (distinct : DistinctIds out) : Comparable keyLt out := by
  have measured : ∀ x ∈ out, ∀ y ∈ out, x ≠ y → x.rankingScore ≠ .nan ∧ x.similarity ≠ .nan := by
    intro x hx y hy ne
    obtain ⟨c, hc, gc, sc⟩ := accepted_mem h hx
    obtain ⟨d, hd, gd, sd⟩ := accepted_mem h hy
    have other : c ≠ d := by
      rintro rfl
      exact ne (Except.ok.inj (sc.symm.trans sd))
    have number := untied c hc d hd other gc gd
    refine ⟨fun nan => number ((scores.nan c x sc).mp nan), fun nan => ?_⟩
    exact number (scores.of_similarity c ((scores.similarity c x sc).symm.trans nan))
  intro x hx y hy ne
  obtain ⟨score, similarity⟩ := measured x hx y hy ne
  obtain ⟨score', similarity'⟩ := measured y hy x hx ne.symm
  exact keyLt_total score score' similarity similarity' (distinct.ne hx hy ne)

/-- What is selected of the accepted items is the same for every order of the items exactly where none of them is
unmeasured beside another. -/
lemma accepted_invariant_iff (scores : Scores score unmeasured) (distinct : DistinctIds items)
    (h : accepted gate score items = .ok out) :
    (∀ items' out', items'.Perm items → accepted gate score items' = .ok out' →
      diverse out' limit key = diverse out limit key) ↔ Untied gate unmeasured items := by
  constructor
  · intro invariant c hc d hd ne gc gd nan
    -- the unmeasured item first, then another one before it
    have permC : (c :: items.erase c).Perm items := (List.perm_cons_erase hc).symm
    have hd' : d ∈ items.erase c := (List.mem_erase_of_ne ne.symm).mpr hd
    have permD : (d :: c :: (items.erase c).erase d).Perm items :=
      (List.Perm.swap _ _ _).trans (((List.perm_cons_erase hd').symm.cons c).trans permC)
    obtain ⟨outC, hC, _⟩ := accepted_perm permC.symm out h
    obtain ⟨outD, hD, _⟩ := accepted_perm permD.symm out h
    have same := (invariant _ _ permC hC).trans (invariant _ _ permD hD).symm
    rcases accepted_cons hC with ⟨gated, _⟩ | ⟨x, rest, _, scored, _, rfl⟩
    · rw [gc] at gated
      cases gated
    rcases accepted_cons hD with ⟨gated, _⟩ | ⟨y, rest', _, scored', tail, rfl⟩
    · rw [gd] at gated
      cases gated
    rcases accepted_cons tail with ⟨gated, _⟩ | ⟨x', rest'', _, scored'', _, rfl⟩
    · rw [gc] at gated
      cases gated
    obtain rfl := Except.ok.inj (scored.symm.trans scored'')
    have unscored := (scores.nan c x scored).mpr nan
    have heads := congrArg List.head? same
    rw [diverse_head_nan unscored, diverse_head_before unscored] at heads
    have ids := congrArg MemoryCandidate.memoryId (Option.some.inj heads)
    rw [scores.memoryId c x scored, scores.memoryId d y scored'] at ids
    exact distinct.ne hc hd ne ids
  · intro untied items' out' perm h'
    have ids : DistinctIds out := distinct.sublist (accepted_ids scores.memoryId h)
    obtain ⟨out'', h'', perm'⟩ := accepted_perm perm.symm out h
    obtain rfl := Except.ok.inj (h'.symm.trans h'')
    exact diverse_perm (accepted_comparable scores untied h ids) ids.nodup perm'

end invariance

/-! ## The three scores -/

section scores

variable {rt : Runtime} {policy : RecallPolicy} {query : RecallQuery}

/-- A weighted sum is not a number where its first term is not. -/
lemma weighted_nan {w q : ℚ} {x : Flt} : (.num w * x + .num q : Flt) = .nan ↔ x = .nan := by
  cases x with
  | nan => exact iff_of_true rfl rfl
  | num r => exact iff_of_false nofun nofun

lemma weighted_nan₂ {w w' : ℚ} {x y : Flt} :
    (.num w * x + .num w' * y : Flt) = .nan ↔ x = .nan ∨ y = .nan := by
  cases x with
  | nan => exact iff_of_true rfl (.inl rfl)
  | num r =>
    cases y with
    | nan => exact iff_of_true rfl (.inr rfl)
    | num r' => exact iff_of_false nofun nofun

lemma add_num_nan {q : ℚ} {x : Flt} : (x + .num q : Flt) = .nan ↔ x = .nan := by
  cases x with
  | nan => exact iff_of_true rfl rfl
  | num r => exact iff_of_false nofun nofun

lemma scoreEpisode_scores : Scores (scoreEpisode rt policy query) fun c => c.similarity = .nan := by
  constructor
  case memoryId =>
    intro c x h
    obtain ⟨_, _, rfl⟩ := scoreEpisode_ranked h
    rfl
  case similarity =>
    intro c x h
    obtain ⟨_, _, rfl⟩ := scoreEpisode_ranked h
    rfl
  case nan =>
    intro c x h
    obtain ⟨recency, _, e⟩ := bind_ok h
    cases e
    show (.num _ * c.similarity + .num _ + .num _ + .num _ : Flt) = .nan ↔ _
    rw [add_num_nan, add_num_nan, weighted_nan]
  case of_similarity => exact fun c nan => nan

lemma scoreFact_scores :
    Scores (scoreFact rt policy query) fun c => c.similarity = .nan ∨ c.confidence = .nan := by
  constructor
  case memoryId =>
    intro c x h
    obtain ⟨_, _, rfl⟩ := scoreFact_ranked h
    rfl
  case similarity =>
    intro c x h
    obtain ⟨_, _, rfl⟩ := scoreFact_ranked h
    rfl
  case nan =>
    intro c x h
    obtain ⟨recency, _, e⟩ := bind_ok h
    cases e
    show (.num _ * c.similarity + .num _ * c.confidence + .num _ + .num _ : Flt) = .nan ↔ _
    rw [add_num_nan, add_num_nan, weighted_nan₂]
  case of_similarity => exact fun c nan => .inl nan

lemma scoreRunbook_scores :
    Scores (scoreRunbook rt policy query) fun c => c.similarity = .nan ∨ c.successRate = .nan := by
  constructor
  case memoryId =>
    intro c x h
    obtain ⟨_, _, rfl⟩ := scoreRunbook_ranked h
    rfl
  case similarity =>
    intro c x h
    obtain ⟨_, _, rfl⟩ := scoreRunbook_ranked h
    rfl
  case nan =>
    intro c x h
    obtain ⟨_, _, h⟩ := bind_ok h
    obtain ⟨_, _, h⟩ := bind_ok h
    obtain ⟨_, _, h⟩ := bind_ok h
    obtain ⟨_, _, h⟩ := bind_ok h
    obtain ⟨_, _, e⟩ := bind_ok h
    cases e
    show (.num _ * c.similarity + .num _ * c.successRate + .num _ + .num _ + .num _ : Flt) = .nan ↔ _
    rw [add_num_nan, add_num_nan, add_num_nan, weighted_nan₂]
  case of_similarity => exact fun c nan => .inl nan

/-- The gate of the facts lets only numbers through. -/
lemma fact_untied {facts : List MemoryCandidate} :
    Untied (fun c => .ok (factEligible policy query c)) (fun c => c.similarity = .nan ∨ c.confidence = .nan) facts := by
  intro c _ d _ _ gate _
  obtain ⟨_, _, ⟨q, similarity, _⟩, ⟨q', confidence, _⟩⟩ := factEligible_iff.mp (Except.ok.inj gate)
  simp [similarity, confidence]

end scores

/-! ## The order of the candidates -/

section rank

variable (rt : Runtime) (policy : RecallPolicy) (query : RecallQuery)

/-- The episodes, the facts and the runbooks that are accepted. -/
structure Accepted (episodes facts runbooks e f r : List MemoryCandidate) : Prop where
  episodes : accepted (fun c => .ok (episodeEligible policy query c)) (scoreEpisode rt policy query) episodes = .ok e
  facts : accepted (fun c => .ok (factEligible policy query c)) (scoreFact rt policy query) facts = .ok f
  runbooks : accepted (runbookEligible rt policy query) (scoreRunbook rt policy query) runbooks = .ok r

/-- The bundle has what is selected of the accepted items. -/
structure Selects (e f r : List MemoryCandidate) (bundle : RecallBundle) : Prop where
  episodes : bundle.episodes = diverse e (min query.k policy.maxEpisodes) (episodeKey rt)
  facts : bundle.facts = diverse f policy.maxFacts (factKey rt)
  runbooks : bundle.runbooks = diverse r policy.maxRunbooks (runbookKey rt)

variable {rt policy query} {episodes facts runbooks e f r : List MemoryCandidate} {bundle : RecallBundle}

lemma rank_accepted (hot : query.coldStart = false) (h : rank rt policy query episodes facts runbooks = .ok bundle) :
    ∃ e f r, Accepted rt policy query episodes facts runbooks e f r ∧ Selects rt policy query e f r bundle := by
  unfold rank at h
  rw [hot, if_neg Bool.false_ne_true, filter_mapM_eq, filter_mapM_eq, eligibleRunbooks_eq] at h
  obtain ⟨e, he, h⟩ := bind_ok h
  obtain ⟨f, hf, h⟩ := bind_ok h
  obtain ⟨r, hr, made⟩ := bind_ok h
  cases made
  exact ⟨e, f, r, ⟨he, hf, hr⟩, rfl, rfl, rfl⟩

lemma Accepted.rank (hot : query.coldStart = false) (h : Accepted rt policy query episodes facts runbooks e f r) :
    ∃ bundle, rank rt policy query episodes facts runbooks = .ok bundle ∧ Selects rt policy query e f r bundle := by
  unfold RecallRanker.rank
  rw [hot, if_neg Bool.false_ne_true, filter_mapM_eq, filter_mapM_eq, eligibleRunbooks_eq, h.episodes, h.facts,
    h.runbooks]
  exact ⟨_, rfl, rfl, rfl, rfl⟩

end rank

/-- The episodes, the facts and the runbooks of a recall do not depend on the order of the candidates. -/
def RankInvariant (rt : Runtime) (policy : RecallPolicy) (query : RecallQuery)
    (episodes facts runbooks : List MemoryCandidate) : Prop :=
  ∀ episodes' facts' runbooks', episodes'.Perm episodes → facts'.Perm facts → runbooks'.Perm runbooks →
    ∀ bundle, rank rt policy query episodes facts runbooks = .ok bundle →
      ∃ bundle', rank rt policy query episodes' facts' runbooks' = .ok bundle' ∧
        bundle'.episodes = bundle.episodes ∧ bundle'.facts = bundle.facts ∧ bundle'.runbooks = bundle.runbooks

/-- Of two episodes that pass their gate each is measured, and of two runbooks. -/
structure Measured (rt : Runtime) (policy : RecallPolicy) (query : RecallQuery)
    (episodes runbooks : List MemoryCandidate) : Prop where
  episodes : Untied (fun c => .ok (episodeEligible policy query c)) (fun c => c.similarity = .nan) episodes
  runbooks : Untied (runbookEligible rt policy query) (fun c => c.similarity = .nan ∨ c.successRate = .nan) runbooks

/-- A recall that returns does so for every order of the candidates with the same items, exactly where none of
them is unmeasured beside another. -/
lemma rank_invariant_iff {rt policy query} {episodes facts runbooks : List MemoryCandidate}
    (distinctE : DistinctIds episodes) (distinctF : DistinctIds facts) (distinctR : DistinctIds runbooks) :
    RankInvariant rt policy query episodes facts runbooks ↔
      query.coldStart = true ∨ ¬ Returns (rank rt policy query episodes facts runbooks) ∨
        Measured rt policy query episodes runbooks := by
  rcases Bool.eq_false_or_eq_true query.coldStart with cold | hot
  · refine iff_of_true ?_ (.inl cold)
    intro episodes' facts' runbooks' _ _ _ bundle h
    unfold rank at h ⊢
    rw [if_pos cold] at h ⊢
    exact ⟨bundle, h, rfl, rfl, rfl⟩
  by_cases returns : Returns (rank rt policy query episodes facts runbooks)
  case neg =>
    refine iff_of_true ?_ (.inr (.inl returns))
    exact fun _ _ _ _ _ _ bundle h => absurd ⟨bundle, h⟩ returns
  case pos =>
    obtain ⟨bundle, ranked⟩ := returns
    obtain ⟨e, f, r, acc, sel⟩ := rank_accepted hot ranked
    have episodesIff := @accepted_invariant_iff _ _ _ _ _ _ _ (min query.k policy.maxEpisodes) (episodeKey rt)
      scoreEpisode_scores distinctE acc.episodes
    have factsIff := @accepted_invariant_iff _ _ _ _ _ _ _ policy.maxFacts (factKey rt)
      scoreFact_scores distinctF acc.facts
    have runbooksIff := @accepted_invariant_iff _ _ _ _ _ _ _ policy.maxRunbooks (runbookKey rt)
      scoreRunbook_scores distinctR acc.runbooks
    constructor
    · intro invariant
      refine .inr (.inr ⟨episodesIff.mp ?_, runbooksIff.mp ?_⟩)
      · intro episodes' out' perm h'
        obtain ⟨bundle', ranked', same, _⟩ := invariant _ _ _ perm (.refl _) (.refl _) bundle ranked
        obtain ⟨e', f', r', acc', sel'⟩ := rank_accepted hot ranked'
        obtain rfl := Except.ok.inj (acc'.episodes.symm.trans h')
        rw [← sel'.episodes, ← sel.episodes, same]
      · intro runbooks' out' perm h'
        obtain ⟨bundle', ranked', _, _, same⟩ := invariant _ _ _ (.refl _) (.refl _) perm bundle ranked
        obtain ⟨e', f', r', acc', sel'⟩ := rank_accepted hot ranked'
        obtain rfl := Except.ok.inj (acc'.runbooks.symm.trans h')
        rw [← sel'.runbooks, ← sel.runbooks, same]
    · intro h
      obtain ⟨measuredE, measuredR⟩ : Measured rt policy query episodes runbooks := by
        rcases h with cold | raises | measured
        · rw [hot] at cold
          cases cold
        · exact absurd ⟨bundle, ranked⟩ raises
        · exact measured
      intro episodes' facts' runbooks' permE permF permR bundle₀ ranked₀
      obtain rfl := Except.ok.inj (ranked.symm.trans ranked₀)
      obtain ⟨e', he, _⟩ := accepted_perm permE.symm e acc.episodes
      obtain ⟨f', hf, _⟩ := accepted_perm permF.symm f acc.facts
      obtain ⟨r', hr, _⟩ := accepted_perm permR.symm r acc.runbooks
      obtain ⟨bundle', ranked', sel'⟩ := Accepted.rank hot ⟨he, hf, hr⟩
      refine ⟨bundle', ranked', ?_, ?_, ?_⟩
      · rw [sel'.episodes, sel.episodes, episodesIff.mpr measuredE _ _ permE he]
      · rw [sel'.facts, sel.facts, factsIff.mpr fact_untied _ _ permF hf]
      · rw [sel'.runbooks, sel.runbooks, runbooksIff.mpr measuredR _ _ permR hr]

end RecallRanker

open RecallRanker

/-- The selection and the recall see the order of the candidates exactly where a score is not a number: the
contract of `_diverse` holds of a list of distinct candidates if and only if any two of them are comparable by
`(ranking_score, similarity, id)`, and what a recall returns is invariant under permutation of the tuples if and only
if none of two episodes or of two runbooks that pass their gate is unmeasured, unless it is a cold start or
raises. -/
theorem diversity_iff (items : List MemoryCandidate) (distinct : DistinctIds items) :
    (DiversityContract items ↔ Comparable keyLt items) ∧
    ((∀ x ∈ items, x.rankingScore ≠ .nan ∧ x.similarity ≠ .nan) → Comparable keyLt items) ∧
    ∀ rt policy query episodes facts runbooks, DistinctIds episodes → DistinctIds facts → DistinctIds runbooks →
      (RankInvariant rt policy query episodes facts runbooks ↔
        query.coldStart = true ∨ ¬ Returns (rank rt policy query episodes facts runbooks) ∨
          Measured rt policy query episodes runbooks) := by
  refine ⟨diverse_contract_iff distinct.nodup, ?_, fun _ _ _ _ _ _ => rank_invariant_iff⟩
  intro numbers a ha b hb ne
  obtain ⟨scoreA, similarityA⟩ := numbers a ha
  obtain ⟨scoreB, similarityB⟩ := numbers b hb
  exact keyLt_total scoreA scoreB similarityA similarityB (distinct.ne ha hb ne)

namespace Sample

/-- An episode whose similarity is a number. -/
def measured : MemoryCandidate :=
  { unmeasured with
    memoryId := .sample 6
    similarity := 1
    rankingScore := 1 }

/-- The other episode as it is scored. -/
def unscored : MemoryCandidate :=
  { unmeasured with
    rankingScore := .nan }

/-- Another episode whose similarity is a number. -/
def measuredToo : MemoryCandidate :=
  { measured with
    memoryId := .sample 7 }

end Sample

/-- Two measured candidates, and a recall of them: the order does not matter. -/
theorem diversity_iff_sample :
    DiversityContract [Sample.measured, Sample.measuredToo] ∧
      RankInvariant .sample {} Sample.recallQuery [Sample.measured, Sample.measuredToo] [] [] := by
  have ids : DistinctIds [Sample.measured, Sample.measuredToo] := by
    unfold DistinctIds
    decide
  have numbers : ∀ x ∈ [Sample.measured, Sample.measuredToo], x.rankingScore ≠ .nan ∧ x.similarity ≠ .nan := by
    decide
  obtain ⟨contract, comparable, invariant⟩ := diversity_iff [Sample.measured, Sample.measuredToo] ids
  refine ⟨contract.mpr (comparable numbers), ?_⟩
  apply (invariant .sample {} Sample.recallQuery _ [] [] ids .nil .nil).mpr
  exact .inr (.inr ⟨fun c hc _ _ _ _ _ => (numbers c hc).2, fun _ hc => nomatch hc⟩)

/-- Two candidates of which one has no score: both come back in the order of the input, of one group only the
first, and so they do from a recall. -/
theorem order_of_input_kept :
    ¬ DiversityContract [Sample.unscored, Sample.measured] ∧
    ¬ RankInvariant .sample {} Sample.recallQuery [Sample.unmeasured, Sample.measured] [] [] := by
  constructor
  · intro contract
    obtain ⟨_, invariant⟩ := contract Unit (fun _ => ()) 1 (le_refl _)
    have same := invariant [Sample.measured, Sample.unscored] (.swap _ _ _)
    exact absurd same (by decide +kernel)
  · intro invariant
    have ids : DistinctIds [Sample.unmeasured, Sample.measured] := by
      unfold DistinctIds
      decide
    have passes : (.ok (episodeEligible {} Sample.recallQuery Sample.unmeasured) : Except Raised Bool) = .ok true := by
      decide +kernel
    have passes' : (.ok (episodeEligible {} Sample.recallQuery Sample.measured) : Except Raised Bool) = .ok true := by
      decide +kernel
    rcases (rank_invariant_iff ids .nil .nil).mp invariant with cold | raises | measured
    · cases cold
    · obtain ⟨x, scored⟩ : ∃ x, scoreEpisode .sample {} Sample.recallQuery Sample.unmeasured = .ok x := ⟨_, rfl⟩
      obtain ⟨y, scored'⟩ : ∃ y, scoreEpisode .sample {} Sample.recallQuery Sample.measured = .ok y := ⟨_, rfl⟩
      have episodes : accepted (fun c => .ok (episodeEligible {} Sample.recallQuery c))
          (scoreEpisode .sample {} Sample.recallQuery) [Sample.unmeasured, Sample.measured] = .ok [x, y] :=
        accepted_take passes scored (accepted_take passes' scored' rfl)
      have acc : Accepted .sample {} Sample.recallQuery [Sample.unmeasured, Sample.measured] [] [] [x, y] [] [] :=
        ⟨episodes, rfl, rfl⟩
      obtain ⟨bundle, ranked, _⟩ := acc.rank rfl
      exact raises ⟨bundle, ranked⟩
    · exact measured.episodes Sample.unmeasured (by simp) Sample.measured (by simp) (by decide) passes passes' rfl

end Postmortem
