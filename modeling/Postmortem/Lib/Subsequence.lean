import Mathlib.Data.List.Forall2
import Mathlib.Order.Bounds.Defs
import Mathlib.Tactic.Lemma

/-!
# The longest prefix that is a subsequence

A list of requirements is met by a stream one requirement after the other. `prefixes R xs ys` are the lengths of
the prefixes of `xs` that are a subsequence of `ys`, each requirement related by `R` to the item that meets it.
The greatest of them is found greedily: another item of the stream moves it on by one exactly if the item meets
the next requirement (`greatest_met`, `greatest_missed`).
-/

namespace Subsequence

variable {α β : Type} {R : α → β → Prop} {xs : List α} {ys zs : List β} {x : α} {y : β} {n : Nat}

/-- The lengths of the prefixes of `xs` that are a subsequence of `ys`. -/
def prefixes (R : α → β → Prop) (xs : List α) (ys : List β) : Set Nat :=
  { n | n ≤ xs.length ∧ List.SublistForall₂ R (xs.take n) ys }

lemma single_concat (met : R x y) : List.SublistForall₂ R [x] (ys ++ [y]) := by
  induction ys with
  | nil => exact .cons met .nil
  | cons _ ys ih => exact .cons_right ih

lemma sublist_append (h : List.SublistForall₂ R xs ys) : List.SublistForall₂ R xs (ys ++ zs) := by
  induction h with
  | nil => exact .nil
  | cons met _ ih => exact .cons met ih
  | cons_right _ ih => exact .cons_right ih

lemma concat_concat (h : List.SublistForall₂ R xs ys) (met : R x y) :
    List.SublistForall₂ R (xs ++ [x]) (ys ++ [y]) := by
  induction h with
  | nil => exact single_concat met
  | cons first _ ih => exact .cons first ih
  | cons_right _ ih => exact .cons_right ih

/-- The last item of the stream is left out, or it meets the last requirement. -/
lemma concat_inv (h : List.SublistForall₂ R xs (ys ++ [y])) :
    List.SublistForall₂ R xs ys ∨
      ∃ xs' x, xs = xs' ++ [x] ∧ R x y ∧ List.SublistForall₂ R xs' ys := by
  induction ys generalizing xs with
  | nil =>
    cases h with
    | nil => exact .inl .nil
    | cons met rest =>
      cases rest
      exact .inr ⟨[], _, rfl, met, .nil⟩
    | cons_right rest =>
      cases rest
      exact .inl .nil
  | cons b ys ih =>
    cases h with
    | nil => exact .inl .nil
    | cons met rest =>
      obtain rest | ⟨xs', x, rfl, last, rest⟩ := ih rest
      · exact .inl (.cons met rest)
      · exact .inr ⟨_ :: xs', x, rfl, last, .cons met rest⟩
    | cons_right rest =>
      obtain rest | ⟨xs', x, rfl, last, rest⟩ := ih rest
      · exact .inl (.cons_right rest)
      · exact .inr ⟨xs', x, rfl, last, .cons_right rest⟩

lemma mem_prefixes_concat :
    n ∈ prefixes R xs (ys ++ [y]) ↔
      n ∈ prefixes R xs ys ∨ ∃ m x, n = m + 1 ∧ xs[m]? = some x ∧ R x y ∧ m ∈ prefixes R xs ys := by
  constructor
  case mp =>
    rintro ⟨short, h⟩
    obtain h | ⟨xs', x, e, met, h⟩ := concat_inv h
    · exact .inl ⟨short, h⟩
    · cases n with
      | zero => simp at e
      | succ m =>
        rw [← List.take_append_getElem short] at e
        obtain ⟨rfl, last⟩ := List.append_inj' e rfl
        cases last
        exact .inr ⟨m, _, rfl, List.getElem?_eq_getElem short, met, Nat.le_of_succ_le short, h⟩
  case mpr =>
    rintro (⟨short, h⟩ | ⟨m, x, rfl, next, met, _, h⟩)
    · exact ⟨short, sublist_append h⟩
    · obtain ⟨inside, rfl⟩ := List.getElem?_eq_some_iff.mp next
      refine ⟨inside, ?_⟩
      rw [← List.take_append_getElem inside]
      exact concat_concat h met

/-- Nothing has met a requirement. -/
lemma greatest_nil : IsGreatest (prefixes R xs []) 0 := by
  refine ⟨⟨Nat.zero_le _, .nil⟩, ?_⟩
  rintro n ⟨short, h⟩
  have none : xs.take n = [] := by
    generalize xs.take n = l at h
    cases h
    rfl
  have length := congrArg List.length none
  rw [List.length_take, List.length_nil] at length
  omega

/-- The item meets the next requirement. -/
lemma greatest_met (h : IsGreatest (prefixes R xs ys) n) (next : xs[n]? = some x) (met : R x y) :
    IsGreatest (prefixes R xs (ys ++ [y])) (n + 1) := by
  refine ⟨mem_prefixes_concat.mpr (.inr ⟨n, x, rfl, next, met, h.1⟩), ?_⟩
  intro n' mem
  obtain mem | ⟨m, _, rfl, _, _, mem⟩ := mem_prefixes_concat.mp mem
  · exact Nat.le_succ_of_le (h.2 mem)
  · exact Nat.succ_le_succ (h.2 mem)

/-- The item does not meet the next requirement. -/
lemma greatest_missed (h : IsGreatest (prefixes R xs ys) n) (missed : ∀ x, xs[n]? = some x → ¬ R x y) :
    IsGreatest (prefixes R xs (ys ++ [y])) n := by
  refine ⟨mem_prefixes_concat.mpr (.inl h.1), ?_⟩
  intro n' mem
  obtain mem | ⟨m, x, rfl, next, met, mem⟩ := mem_prefixes_concat.mp mem
  · exact h.2 mem
  · -- a requirement that the item meets is met before the next one
    have before : m ≤ n := h.2 mem
    have ne : m ≠ n := by
      rintro rfl
      exact missed x next met
    omega

end Subsequence
