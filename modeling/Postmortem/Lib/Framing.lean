import Mathlib.Data.List.Basic
import Mathlib.Data.String.Basic
import Mathlib.Tactic.Lemma

/-!
# Texts put together

A text that is put together from parts is taken apart again where a part has a known width, on the left
(`append_left_inj`) or on the right (`append_right_inj`), or goes up to the first separator (`separated_inj`). The text of
a number has digits only (`isDigit_of_mem`) and determines it (`number_injective`).
-/

namespace Framing

variable {α : Type} {sep : α} {l l' r r' : List α} {a b x y : String}

/-- A part without the separator ends at the first one. -/
lemma split_inj (hl : sep ∉ l) (hl' : sep ∉ l') (h : l ++ sep :: r = l' ++ sep :: r') : l = l' ∧ r = r' := by
  induction l generalizing l' with
  | nil =>
    cases l' with
    | nil => exact ⟨rfl, List.tail_eq_of_cons_eq h⟩
    | cons c l' =>
      obtain rfl := List.head_eq_of_cons_eq h
      exact absurd List.mem_cons_self hl'
  | cons c l ih =>
    cases l' with
    | nil =>
      obtain rfl := List.head_eq_of_cons_eq h
      exact absurd List.mem_cons_self hl
    | cons d l' =>
      obtain rfl := List.head_eq_of_cons_eq h
      have tail := List.tail_eq_of_cons_eq h
      obtain ⟨rfl, rest⟩ := ih (fun mem => hl (List.mem_cons_of_mem _ mem)) (fun mem => hl' (List.mem_cons_of_mem _ mem)) tail
      exact ⟨rfl, rest⟩

/-- A part of known width on the left. -/
lemma append_left_inj (width : a.toList.length = b.toList.length) (h : a ++ x = b ++ y) : a = b ∧ x = y := by
  have lists := congrArg String.toList h
  rw [String.toList_append, String.toList_append] at lists
  obtain ⟨left, right⟩ := List.append_inj lists width
  exact ⟨String.toList_injective left, String.toList_injective right⟩

/-- A part of known width on the right. -/
lemma append_right_inj (width : x.toList.length = y.toList.length) (h : a ++ x = b ++ y) : a = b ∧ x = y := by
  have lists := congrArg String.toList h
  rw [String.toList_append, String.toList_append] at lists
  obtain ⟨left, right⟩ := List.append_inj' lists width
  exact ⟨String.toList_injective left, String.toList_injective right⟩

/-- A part up to the first separator. -/
lemma separated_inj {sep : Char} (ha : sep ∉ a.toList) (hb : sep ∉ b.toList)
    (h : a ++ String.singleton sep ++ x = b ++ String.singleton sep ++ y) : a = b ∧ x = y := by
  have lists := congrArg String.toList h
  simp only [String.toList_append, String.toList_singleton, List.append_assoc, List.singleton_append] at lists
  obtain ⟨left, right⟩ := split_inj ha hb lists
  exact ⟨String.toList_injective left, String.toList_injective right⟩

lemma number_digits {n : Nat} : (toString n).toList = Nat.toDigits 10 n := by
  rw [Nat.toString_eq_repr, Nat.toList_repr]

/-- A number is written with digits. -/
lemma isDigit_of_mem {n : Nat} {c : Char} (mem : c ∈ (toString n).toList) : c.isDigit = true := by
  rw [number_digits] at mem
  exact Nat.isDigit_of_mem_toDigits (by omega) (by omega) mem

/-- A number is read from its digits. -/
lemma number_injective {n m : Nat} (same : toString n = toString m) : n = m := by
  have digits := congrArg String.toList same
  rw [number_digits, number_digits] at digits
  have values := congrArg (Nat.ofDigitChars 10 · 0) digits
  simpa [Nat.ofDigitChars_toDigits] using values

end Framing
