import Mathlib.Algebra.BigOperators.Group.List.Basic
import Mathlib.Algebra.Order.Monoid.Defs
import Mathlib.Order.Monotone.Defs
import Mathlib.Tactic.Lemma

/-!
# Discounted gain

The gain of a ranking is the sum of the discounts of the ranks that have a hit. Where the discount is positive and
decreases, no selection of at most `n` ranks gains more than the first `n` ranks (`gain_le_ideal`), and none but these
gains as much (`gain_eq_ideal`).
-/

namespace DiscountedGain

variable {α K : Type*} [AddCommMonoid K] {discount : Nat → K} {hit : α → Bool} {l : List α} {a : α} {rank n : Nat}

/-- The discounts of the ranks with a hit, from `rank` on. -/
def gain (discount : Nat → K) (hit : α → Bool) (rank : Nat) (l : List α) : K :=
  (((l.zipIdx rank).filter fun entry => hit entry.1).map fun entry => discount entry.2).sum

/-- The discounts of `n` ranks, from `rank` on. -/
def ideal (discount : Nat → K) (rank n : Nat) : K := ((List.range' rank n).map discount).sum

lemma gain_hit (h : hit a = true) : gain discount hit rank (a :: l) = discount rank + gain discount hit (rank + 1) l := by
  unfold gain
  rw [List.zipIdx_cons, @List.filter_cons_of_pos _ (fun entry => hit entry.1) (a, rank) _ h, List.map_cons, List.sum_cons]

lemma gain_miss (h : hit a = false) : gain discount hit rank (a :: l) = gain discount hit (rank + 1) l := by
  unfold gain
  have miss : ¬ hit a = true := by rw [h]; exact Bool.false_ne_true
  rw [List.zipIdx_cons, @List.filter_cons_of_neg _ (fun entry => hit entry.1) (a, rank) _ miss]

lemma ideal_succ : ideal discount rank (n + 1) = discount rank + ideal discount (rank + 1) n := by
  unfold ideal
  rw [List.range'_succ, List.map_cons, List.sum_cons]

variable [PartialOrder K] [IsOrderedCancelAddMonoid K]

lemma ideal_nonneg (pos : ∀ rank, 0 < discount rank) : 0 ≤ ideal discount rank n := by
  induction n generalizing rank with
  | zero => exact le_rfl
  | succ n ih =>
    rw [ideal_succ]
    exact add_nonneg (pos rank).le ih

lemma ideal_pos (pos : ∀ rank, 0 < discount rank) (h : 0 < n) : 0 < ideal discount rank n := by
  cases n with
  | zero => cases h
  | succ n =>
    rw [ideal_succ]
    exact add_pos_of_pos_of_nonneg (pos rank) (ideal_nonneg pos)

lemma gain_nonneg (pos : ∀ rank, 0 < discount rank) : 0 ≤ gain discount hit rank l := by
  induction l generalizing rank with
  | nil => exact le_rfl
  | cons a l ih =>
    cases h : hit a with
    | true =>
      rw [gain_hit h]
      exact add_nonneg (pos rank).le ih
    | false =>
      rw [gain_miss h]
      exact ih

/-- The ranks from the next one on are worth less. -/
lemma ideal_shift (anti : StrictAnti discount) : ideal discount (rank + 1) n ≤ ideal discount rank n := by
  induction n generalizing rank with
  | zero => exact le_rfl
  | succ n ih =>
    rw [ideal_succ, ideal_succ]
    exact add_le_add (anti rank.lt_succ_self).le ih

lemma ideal_shift_lt (anti : StrictAnti discount) (h : 0 < n) : ideal discount (rank + 1) n < ideal discount rank n := by
  cases n with
  | zero => cases h
  | succ n =>
    rw [ideal_succ, ideal_succ]
    exact add_lt_add_of_lt_of_le (anti rank.lt_succ_self) (ideal_shift anti)

/-- A selection of at most `n` ranks gains at most what the first `n` gain. -/
lemma gain_le_ideal (anti : StrictAnti discount) (pos : ∀ rank, 0 < discount rank) (few : l.countP hit ≤ n) :
    gain discount hit rank l ≤ ideal discount rank n := by
  induction l generalizing rank n with
  | nil => exact ideal_nonneg pos
  | cons a l ih =>
    cases h : hit a with
    | true =>
      rw [List.countP_cons_of_pos h] at few
      cases n with
      | zero => omega
      | succ n =>
        rw [gain_hit h, ideal_succ]
        exact add_le_add_right (ih (by omega)) _
    | false =>
      rw [List.countP_cons_of_neg (by rw [h]; exact Bool.false_ne_true)] at few
      rw [gain_miss h]
      exact (ih few).trans (ideal_shift anti)

/-- It gains as much only where the first `n` ranks are the hits. -/
lemma gain_eq_ideal (anti : StrictAnti discount) (pos : ∀ rank, 0 < discount rank) (few : l.countP hit ≤ n) :
    gain discount hit rank l = ideal discount rank n ↔ ∀ i < n, ∃ a, l[i]? = some a ∧ hit a = true := by
  induction l generalizing rank n with
  | nil =>
    cases n with
    | zero => exact iff_of_true rfl fun i less => absurd less (Nat.not_lt_zero i)
    | succ n =>
      apply iff_of_false
      · exact (ideal_pos pos n.succ_pos).ne
      · intro all
        obtain ⟨a, found, _⟩ := all 0 n.succ_pos
        cases found
  | cons a l ih =>
    cases h : hit a with
    | true =>
      rw [List.countP_cons_of_pos h] at few
      cases n with
      | zero => omega
      | succ n =>
        rw [gain_hit h, ideal_succ, add_right_inj, ih (by omega)]
        constructor
        · intro all i less
          cases i with
          | zero => exact ⟨a, rfl, h⟩
          | succ i => exact all i (by omega)
        · intro all i less
          exact all (i + 1) (by omega)
    | false =>
      rw [List.countP_cons_of_neg (by rw [h]; exact Bool.false_ne_true)] at few
      rw [gain_miss h]
      cases n with
      | zero =>
        refine iff_of_true ?_ fun i less => absurd less (Nat.not_lt_zero i)
        exact (gain_le_ideal anti pos few).antisymm (gain_nonneg pos)
      | succ n =>
        apply iff_of_false
        · -- without the first rank the selection falls behind
          exact ((gain_le_ideal anti pos few).trans_lt (ideal_shift_lt anti n.succ_pos)).ne
        · intro all
          obtain ⟨_, found, hitting⟩ := all 0 n.succ_pos
          cases found
          cases h.symm.trans hitting

end DiscountedGain
