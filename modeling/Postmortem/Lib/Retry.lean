import Mathlib.Tactic.Lemma

/-!
# Bounded retries

An operation is attempted again while its result asks for it, a bounded number of times; `once` is given
the number of the attempt. Where an attempt that is retried leaves the state alone, the loop does what
one of its attempts does (`loop_ends`): the first that is not retried, or the last of the budget.
-/

namespace Retry

variable {σ ρ : Type}

/-- Attempt number `attempt`, and up to `remaining` more while the result asks for another. -/
def loop (once : Nat → σ → σ × ρ) (again : ρ → Bool) (attempt : Nat) : Nat → σ → σ × ρ
  | 0, s => once attempt s
  | remaining + 1, s =>
    if again (once attempt s).2 then loop once again (attempt + 1) remaining (once attempt s).1
    else once attempt s

variable {once : Nat → σ → σ × ρ} {again : ρ → Bool} {attempt remaining k : Nat} {s : σ}

/-- The loop does what one attempt does, after attempts that are retried; where that one asks for
another too, the budget is spent. -/
lemma loop_ends (idle : ∀ j, again (once j s).2 = true → (once j s).1 = s) :
    ∃ k ≤ remaining, loop once again attempt remaining s = once (attempt + k) s ∧
      (∀ j < k, again (once (attempt + j) s).2 = true) ∧
      (again (once (attempt + k) s).2 = true → k = remaining) := by
  induction remaining generalizing attempt with
  | zero => exact ⟨0, Nat.le_refl _, rfl, nofun, fun _ => rfl⟩
  | succ n ih =>
    rw [loop]
    split
    case isTrue retried =>
      obtain ⟨k, le, ends, before, spent⟩ := @ih (attempt + 1)
      rw [idle attempt retried]
      have shift : ∀ j, attempt + 1 + j = attempt + (j + 1) := fun j => by omega
      rw [shift] at ends spent
      refine ⟨k + 1, Nat.succ_le_succ le, ends, ?_, fun h => congrArg (· + 1) (spent h)⟩
      intro j hj
      cases j with
      | zero => exact retried
      | succ j => rw [← shift]; exact before j (Nat.lt_of_succ_lt_succ hj)
    case isFalse final => exact ⟨0, Nat.zero_le _, rfl, nofun, fun h => absurd h final⟩

/-- The loop does what the first attempt does that is not retried, where the budget reaches it. -/
lemma loop_of_first (idle : ∀ j, again (once j s).2 = true → (once j s).1 = s) (le : k ≤ remaining)
    (before : ∀ j < k, again (once (attempt + j) s).2 = true)
    (final : again (once (attempt + k) s).2 = false) :
    loop once again attempt remaining s = once (attempt + k) s := by
  obtain ⟨k', le', ends, before', spent⟩ := @loop_ends _ _ once again attempt remaining s idle
  rcases Nat.lt_trichotomy k' k with lt | rfl | lt
  · have := spent (before k' lt)
    omega
  · exact ends
  · rw [before' k lt] at final
    cases final

end Retry
