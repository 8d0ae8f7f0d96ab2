import Mathlib.Data.Nat.Basic
import Mathlib.Tactic.Lemma
import Mathlib.Tactic.Ring

/-!
# Numerals

Decimal numerals as lists of characters. `padded` writes a number with a fixed width, `read` reads as many digits, and
reads what was written (`read_padded`). Put behind another, a numeral adds its value below that of the other, which is
scaled by the width (`value_append`).
-/

namespace Numerals

variable {l m rest : List Char} {width n : Nat}

/-- The number that digits write. -/
def value (l : List Char) : Nat := Nat.ofDigitChars 10 l 0

/-- The last digits of a number, as many as the width. -/
def padded : Nat → Nat → List Char
  | 0, _ => []
  | width + 1, n => padded width (n / 10) ++ [Nat.digitChar (n % 10)]

/-- Reads as many digits as the width. -/
def read (width : Nat) (l : List Char) : Option (Nat × List Char) :=
  if width ≤ l.length ∧ (l.take width).all Char.isDigit then some (value (l.take width), l.drop width) else none

lemma value_append : value (l ++ m) = value l * 10 ^ m.length + value m := by
  unfold value
  rw [Nat.ofDigitChars_append, Nat.ofDigitChars_eq_ofDigitChars_zero, mul_comm]

lemma value_lt (digits : ∀ c ∈ l, c.isDigit = true) : value l < 10 ^ l.length := by
  induction l with
  | nil => exact Nat.one_pos
  | cons c l ih =>
    have rest := ih fun d mem => digits d (List.mem_cons_of_mem _ mem)
    have digit : c.toNat - 48 < 10 := by
      have bounds := Char.isDigit_iff_toNat.mp (digits c List.mem_cons_self)
      have upper : '9'.toNat = 57 := rfl
      omega
    have split : value (c :: l) = (c.toNat - 48) * 10 ^ l.length + value l := by
      rw [← List.singleton_append, value_append]
      simp [value, Nat.ofDigitChars_cons]
    calc value (c :: l)
      _ = (c.toNat - 48) * 10 ^ l.length + value l := split
      _ < (c.toNat - 48) * 10 ^ l.length + 10 ^ l.length := by omega
      _ = (c.toNat - 48 + 1) * 10 ^ l.length := by ring
      _ ≤ 10 * 10 ^ l.length := Nat.mul_le_mul_right _ digit
      _ = 10 ^ (c :: l).length := by rw [List.length_cons, Nat.pow_succ, mul_comm]

lemma length_padded : (padded width n).length = width := by
  induction width generalizing n with
  | zero => rfl
  | succ width ih => rw [padded, List.length_append, ih, List.length_singleton]

lemma isDigit_padded : ∀ c ∈ padded width n, c.isDigit = true := by
  induction width generalizing n with
  | zero => exact List.forall_mem_nil _
  | succ width ih =>
    intro c mem
    rcases List.mem_append.mp mem with front | last
    · exact ih c front
    · rw [List.mem_singleton.mp last]
      rw [Nat.isDigit_digitChar]
      exact decide_eq_true (Nat.mod_lt _ (by omega))

lemma value_padded (h : n < 10 ^ width) : value (padded width n) = n := by
  induction width generalizing n with
  | zero =>
    rw [Nat.pow_zero] at h
    rw [padded, value, Nat.ofDigitChars_nil]
    omega
  | succ width ih =>
    have last : value [Nat.digitChar (n % 10)] = n % 10 := by
      unfold value
      rw [Nat.ofDigitChars_cons_digitChar_of_lt_ten (Nat.mod_lt _ (by omega)), Nat.ofDigitChars_nil]
      omega
    rw [padded, value_append, ih (by rw [Nat.pow_succ] at h; omega), last, List.length_singleton, Nat.pow_one]
    omega

/-- What was written is read. -/
lemma read_padded (h : n < 10 ^ width) : read width (padded width n ++ rest) = some (n, rest) := by
  have size : (padded width n).length = width := length_padded
  unfold read
  rw [List.take_left' size, List.drop_left' size, value_padded h, if_pos]
  constructor
  · rw [List.length_append]
    omega
  · exact List.all_eq_true.mpr isDigit_padded

end Numerals
