import Mathlib.Algebra.BigOperators.Group.List.Basic
import Mathlib.Algebra.Order.BigOperators.Group.List
import Mathlib.Algebra.Order.Floor.Ring
import Mathlib.Data.Rat.Floor
import Mathlib.Tactic.Lemma
import Mathlib.Tactic.Linarith
import Mathlib.Tactic.NormNum
import Mathlib.Tactic.Ring

/-!
# Means and rounding

On exact numbers: `mean` is `statistics.mean`, and `roundTo` is the `round` of Python, to a number of digits and from a
tie to the even neighbour. A number and its negative round alike (`roundTo_neg`), and of two numbers the greater rounds
to no less (`roundTo_mono`).
-/

namespace Rounding

/-- Two and the base of the numerals are at least two, as their casts into a field ask. -/
instance two_atLeastTwo : Nat.AtLeastTwo 2 := ⟨Nat.le_refl 2⟩

@[inherit_doc two_atLeastTwo] instance ten_atLeastTwo : Nat.AtLeastTwo 10 := ⟨by decide⟩

variable {K : Type*} [Field K] [LinearOrder K] [FloorRing K]

/-- The number is nearer to the integer above than to its floor, or as near and the floor is odd. -/
def Up (x : K) : Prop := 1 / 2 < x - ⌊x⌋ ∨ x - ⌊x⌋ = 1 / 2 ∧ ⌊x⌋ % 2 = 1

instance (x : K) : Decidable (Up x) := inferInstanceAs (Decidable (_ ∨ _))

/-- `round(x)` -/
def nearest (x : K) : Int := if Up x then ⌊x⌋ + 1 else ⌊x⌋

/-- `round(x, digits)` -/
def roundTo (digits : Nat) (x : K) : K := nearest (x * 10 ^ digits) / 10 ^ digits

variable {x y : K} {digits : Nat}

lemma floor_le_nearest : ⌊x⌋ ≤ nearest x := by
  unfold nearest
  split
  case isTrue => omega
  case isFalse => exact le_rfl

lemma nearest_le : nearest x ≤ ⌊x⌋ + 1 := by
  unfold nearest
  split
  case isTrue => exact le_rfl
  case isFalse => omega

variable [IsStrictOrderedRing K]

lemma nearest_intCast (n : Int) : nearest (n : K) = n := by
  have level : ¬ Up (n : K) := by
    unfold Up
    rw [Int.floor_intCast, sub_self]
    norm_num
  unfold nearest
  rw [if_neg level, Int.floor_intCast]

/-- The floor of a negative: the negative of an integer, or one less than that of the floor. -/
lemma floor_neg : (x = ⌊x⌋ ∧ ⌊-x⌋ = -⌊x⌋) ∨ (⌊x⌋ : K) < x ∧ ⌊-x⌋ = -⌊x⌋ - 1 := by
  rcases (Int.floor_le x).eq_or_lt with whole | fraction
  · left
    refine ⟨whole.symm, ?_⟩
    rw [← whole, ← Int.cast_neg, Int.floor_intCast, Int.floor_intCast]
  · right
    refine ⟨fraction, ?_⟩
    rw [Int.floor_eq_iff]
    have above := Int.lt_floor_add_one x
    push_cast
    constructor
    · linarith
    · linarith

/-- Between two integers, of a number and its negative one goes up and the other does not. -/
lemma up_neg (floor : ⌊-x⌋ = -⌊x⌋ - 1) : Up (-x) ↔ ¬ Up x := by
  unfold Up
  rw [floor]
  push_cast
  rcases lt_trichotomy (x - (⌊x⌋ : K)) (1 / 2) with low | tie | high
  · refine iff_of_true (.inl (by linarith)) ?_
    rintro (above | ⟨same, _⟩)
    · exact absurd above low.not_gt
    · exact absurd same low.ne
  · have here : -x - (-(⌊x⌋ : K) - 1) = 1 / 2 := by linarith
    rw [here, tie]
    simp only [lt_irrefl, true_and, false_or]
    omega
  · refine iff_of_false ?_ (not_not.mpr (.inl high))
    rintro (above | ⟨same, _⟩)
    · linarith
    · linarith

lemma nearest_neg : nearest (-x) = -nearest x := by
  rcases @floor_neg K _ _ _ x _ with ⟨whole, _⟩ | ⟨_, floor⟩
  · rw [whole, ← Int.cast_neg, nearest_intCast, nearest_intCast]
  · have swap := up_neg floor
    unfold nearest
    by_cases up : Up x
    · rw [if_neg fun up' => swap.mp up' up, if_pos up, floor]
      ring
    · rw [if_pos (swap.mpr up), if_neg up, floor]
      ring

lemma nearest_mono (h : x ≤ y) : nearest x ≤ nearest y := by
  rcases (Int.floor_mono h).eq_or_lt with same | below
  · have up : Up x → Up y := by
      unfold Up
      rw [← same]
      rintro (above | ⟨tie, odd⟩)
      · exact .inl (by linarith)
      · rcases h.eq_or_lt with rfl | less
        · exact .inr ⟨tie, odd⟩
        · exact .inl (by linarith)
    unfold nearest
    rw [← same]
    split
    case isTrue high => rw [if_pos (up high)]
    case isFalse =>
      split
      case isTrue => omega
      case isFalse => exact le_rfl
  · calc nearest x
      _ ≤ ⌊x⌋ + 1 := nearest_le
      _ ≤ ⌊y⌋ := below
      _ ≤ nearest y := floor_le_nearest

/-- A number rounds to the negative of what its negative rounds to. -/
lemma roundTo_neg : roundTo digits (-x) = -roundTo digits x := by
  unfold roundTo
  rw [neg_mul, nearest_neg, Int.cast_neg, neg_div]

lemma roundTo_intCast (n : Int) : roundTo digits (n : K) = n := by
  have scale : (10 : K) ^ digits ≠ 0 := pow_ne_zero _ (by norm_num)
  have scaled : (n : K) * 10 ^ digits = ((n * 10 ^ digits : Int) : K) := by push_cast; rfl
  unfold roundTo
  rw [scaled, nearest_intCast, ← scaled, mul_div_cancel_right₀ _ scale]

lemma roundTo_mono (h : x ≤ y) : roundTo digits x ≤ roundTo digits y := by
  have scale : (0 : K) < 10 ^ digits := pow_pos (by norm_num) _
  unfold roundTo
  apply div_le_div_of_nonneg_right _ scale.le
  exact_mod_cast nearest_mono (mul_le_mul_of_nonneg_right h scale.le)

/-- What lies between 0 and 1 does so when rounded. -/
lemma roundTo_unit (h : 0 ≤ x ∧ x ≤ 1) : 0 ≤ roundTo digits x ∧ roundTo digits x ≤ 1 := by
  have zero : roundTo digits (0 : K) = 0 := by exact_mod_cast @roundTo_intCast K _ _ _ digits _ 0
  have one : roundTo digits (1 : K) = 1 := by exact_mod_cast @roundTo_intCast K _ _ _ digits _ 1
  rw [← zero, ← one]
  exact ⟨roundTo_mono h.1, roundTo_mono h.2⟩

/-! ## Means -/

/-- `statistics.mean` of a list that is not empty. -/
def mean (values : List K) : K := values.sum / values.length

omit [LinearOrder K] [FloorRing K] [IsStrictOrderedRing K] in
lemma mean_perm {l l' : List K} (h : l.Perm l') : mean l = mean l' := by
  rw [mean, mean, h.sum_eq, h.length_eq]

omit [FloorRing K] in
/-- The mean of numbers between 0 and 1. -/
lemma mean_unit {l : List K} (h : ∀ x ∈ l, 0 ≤ x ∧ x ≤ 1) : 0 ≤ mean l ∧ mean l ≤ 1 := by
  have length : (0 : K) ≤ l.length := Nat.cast_nonneg _
  constructor
  · exact div_nonneg (List.sum_nonneg fun x mem => (h x mem).1) length
  · apply div_le_one_of_le₀ _ length
    have bound := List.sum_le_card_nsmul l 1 fun x mem => (h x mem).2
    rwa [nsmul_eq_mul, mul_one] at bound

end Rounding
