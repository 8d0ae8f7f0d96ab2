import Mathlib.Data.List.Chain
import Mathlib.Tactic.Lemma
import Mathlib.Tactic.Basic

/-!
# Traces of a protocol

A protocol says which mark may follow which. `Partial` is the trace of an execution so far, by its
first and its last mark; `Complete` is a trace that cannot go on. The lemmas read positions off a
complete trace: what comes next (`Complete.after`), what came before (`Complete.before`), that a final
mark is the last (`Complete.ends`) and, where each step climbs a rank, that marks do not repeat
(`Complete.rank_nodup`). `Complete.project` hides marks that only stand between two others.
-/

namespace Protocol

variable {α β : Type}

/-- The trace runs from `start` to `last`. -/
structure Partial (next : α → α → Prop) (start last : α) (l : List α) : Prop where
  chain : l.IsChain next
  head : l.head? = some start
  last : l.getLast? = some last

/-- The trace runs from `start` to a final mark. -/
structure Complete (next : α → α → Prop) (start : α) (final : α → Prop) (l : List α) : Prop where
  chain : l.IsChain next
  head : l.head? = some start
  last : ∃ a, l.getLast? = some a ∧ final a

variable {next : α → α → Prop} {start : α} {final : α → Prop} {l : List α}

lemma Partial.singleton : Partial next start start [start] :=
  ⟨List.isChain_singleton _, rfl, rfl⟩

lemma Partial.concat {a b} (h : Partial next start a l) (ab : next a b) :
    Partial next start b (l ++ [b]) := by
  constructor
  case chain =>
    apply h.chain.append (List.isChain_singleton _)
    intro x hx y hy
    rw [h.last] at hx
    cases hx
    cases hy
    exact ab
  case head =>
    rw [List.head?_append, h.head]
    rfl
  case last => simp

lemma Partial.complete {a} (h : Partial next start a l) (fin : final a) : Complete next start final l :=
  ⟨h.chain, h.head, a, h.last, fin⟩

section complete

variable (h : Complete next start final l) {pre post : List α} {a : α}
include h

/-- A mark that is not final is followed by another. -/
lemma Complete.after (e : l = pre ++ a :: post) (nf : ¬ final a) :
    ∃ b post', post = b :: post' ∧ next a b := by
  obtain ⟨z, last, fin⟩ := h.last
  cases post with
  | nil =>
    rw [e, List.getLast?_append] at last
    cases last
    exact absurd fin nf
  | cons b post' =>
    refine ⟨b, post', rfl, ?_⟩
    have chain := h.chain
    rw [e, List.isChain_append_cons_cons] at chain
    exact chain.2.1

/-- A mark that is not the first follows another. -/
lemma Complete.before (e : l = pre ++ a :: post) (ns : a ≠ start) :
    ∃ pre' b, pre = pre' ++ [b] ∧ next b a := by
  cases pre using List.reverseRecOn with
  | nil =>
    have head := h.head
    rw [e] at head
    cases head
    exact absurd rfl ns
  | append_singleton pre' b =>
    refine ⟨pre', b, rfl, ?_⟩
    have chain := h.chain
    rw [e, List.append_assoc, List.singleton_append, List.isChain_append_cons_cons] at chain
    exact chain.2.1

lemma Complete.ends (e : l = pre ++ a :: post) (stop : ∀ b, ¬ next a b) : post = [] := by
  cases post with
  | nil => rfl
  | cons b post' =>
    have chain := h.chain
    rw [e, List.isChain_append_cons_cons] at chain
    exact absurd chain.2.1 (stop b)

/-- Where each step climbs a rank, no two marks have the same. -/
lemma Complete.rank_nodup {rank : α → Nat} (climb : ∀ a b, next a b → rank a < rank b) :
    (l.map rank).Nodup := by
  have ranks : l.Pairwise fun a b => rank a < rank b := by
    have chain : l.IsChain fun a b => rank a < rank b := h.chain.imp climb
    have : IsTrans α fun a b => rank a < rank b := ⟨fun _ _ _ => Nat.lt_trans⟩
    exact List.isChain_iff_pairwise.mp chain
  exact List.pairwise_map.mpr (ranks.imp fun lt => Nat.ne_of_lt lt)

end complete

/-- Hiding marks that stand alone between two others leaves a chain. -/
lemma project_chain {f : α → Option β} {next' : β → β → Prop}
    (direct : ∀ a b x y, next a b → f a = some x → f b = some y → next' x y)
    (hidden : ∀ a b c x y, next a b → next b c → f a = some x → f b = none → f c = some y → next' x y)
    (alone : ∀ a b, next a b → f a = none → f b ≠ none) :
    ∀ l : List α, l.IsChain next → (l.filterMap f).IsChain next'
  | [], _ => List.isChain_nil
  | [a], _ => by
    cases e : f a <;> simp [e]
  | a :: b :: l, chain => by
    obtain ⟨ab, rest⟩ := List.isChain_cons_cons.mp chain
    have tail := project_chain direct hidden alone (b :: l) rest
    cases ha : f a with
    | none => rwa [List.filterMap_cons_none ha]
    | some x =>
      rw [List.filterMap_cons_some ha]
      cases hb : f b with
      | some y =>
        rw [List.filterMap_cons_some hb] at tail ⊢
        exact List.isChain_cons_cons.mpr ⟨direct a b x y ab ha hb, tail⟩
      | none =>
        rw [List.filterMap_cons_none hb] at tail ⊢
        cases l with
        | nil => exact List.isChain_singleton _
        | cons c l =>
          obtain ⟨bc, _⟩ := List.isChain_cons_cons.mp rest
          obtain ⟨y, hc⟩ := Option.ne_none_iff_exists'.mp (alone b c bc hb)
          rw [List.filterMap_cons_some hc] at tail ⊢
          exact List.isChain_cons_cons.mpr ⟨hidden a b c x y ab bc ha hb hc, tail⟩

/-- Hiding marks leaves a complete trace, where the first and the final marks stay. -/
lemma Complete.project {f : α → Option β} {next' : β → β → Prop} {start' : β} {final' : β → Prop}
    (h : Complete next start final l) (direct : ∀ a b x y, next a b → f a = some x → f b = some y → next' x y)
    (hidden : ∀ a b c x y, next a b → next b c → f a = some x → f b = none → f c = some y → next' x y)
    (alone : ∀ a b, next a b → f a = none → f b ≠ none) (first : f start = some start')
    (last : ∀ a, final a → ∃ b, f a = some b ∧ final' b) :
    Complete next' start' final' (l.filterMap f) := by
  constructor
  case chain => exact project_chain direct hidden alone l h.chain
  case head =>
    obtain ⟨rest, rfl⟩ := List.head?_eq_some_iff.mp h.head
    rw [List.filterMap_cons_some first]
    rfl
  case last =>
    obtain ⟨a, e, fin⟩ := h.last
    obtain ⟨b, fb, fin'⟩ := last a fin
    obtain ⟨pre, rfl⟩ := List.getLast?_eq_some_iff.mp e
    refine ⟨b, ?_, fin'⟩
    rw [List.filterMap_append]
    simp [fb]

end Protocol
