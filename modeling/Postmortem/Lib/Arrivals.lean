import Mathlib.Data.List.Induction
import Mathlib.Data.List.Nodup
import Mathlib.Tactic.Lemma

/-!
# First arrivals

A list that takes an item only where none with the same key stands in it (`arrive`). What `arrived` of a list of items
is the first item of each key, in the order of the items.
-/

namespace Arrivals

variable {α κ : Type} [DecidableEq κ] (key : α → κ)

/-- The list takes the item, unless one with its key stands in it. -/
def arrive (l : List α) (a : α) : List α := if key a ∈ l.map key then l else l ++ [a]

/-- What stands in the list after the items came. -/
def arrived (items : List α) : List α := items.foldl (arrive key) []

variable {key} {items l : List α}

lemma arrived_concat {a} : arrived key (items ++ [a]) = arrive key (arrived key items) a := by
  simp [arrived]

/-- No two items that arrived have the same key. -/
lemma arrived_keys : ((arrived key items).map key).Nodup := by
  induction items using List.reverseRecOn with
  | nil => exact List.nodup_nil
  | append_singleton items a ih =>
    rw [arrived_concat, arrive]
    split
    case isTrue => exact ih
    case isFalse fresh =>
      rw [List.map_append, List.map_singleton]
      exact List.nodup_append.mpr ⟨ih, List.nodup_singleton _, by
        intro k mem k' mem' same
        rw [List.mem_singleton.mp mem'] at same
        exact fresh (same ▸ mem)⟩

/-- What arrived stands in the order of the items. -/
lemma arrived_sublist : (arrived key items).Sublist items := by
  induction items using List.reverseRecOn with
  | nil => exact List.Sublist.refl _
  | append_singleton items a ih =>
    rw [arrived_concat, arrive]
    split
    case isTrue => exact ih.trans (List.sublist_append_left _ _)
    case isFalse => exact ih.append (List.Sublist.refl [a])

/-- Items with keys of their own all arrive. -/
lemma arrived_of_distinct (distinct : (items.map key).Nodup) : arrived key items = items := by
  induction items using List.reverseRecOn with
  | nil => rfl
  | append_singleton items a ih =>
    rw [List.map_append, List.map_singleton] at distinct
    obtain ⟨before, _, apart⟩ := List.nodup_append.mp distinct
    rw [arrived_concat, ih before, arrive, if_neg]
    exact fun mem => apart _ mem _ List.mem_cons_self rfl

/-- Of the items of a kind that the key tells, those arrive that arrive among themselves. -/
lemma arrived_filter {p : α → Bool} (tells : ∀ a b, key a = key b → p a = p b) :
    (arrived key items).filter p = arrived key (items.filter p) := by
  induction items using List.reverseRecOn with
  | nil => rfl
  | append_singleton items a ih =>
    have seen (kind : p a = true) :
        key a ∈ (arrived key (items.filter p)).map key ↔ key a ∈ (arrived key items).map key := by
      rw [← ih]
      simp only [List.mem_map, List.mem_filter]
      constructor
      · rintro ⟨b, ⟨mem, _⟩, same⟩
        exact ⟨b, mem, same⟩
      · rintro ⟨b, mem, same⟩
        exact ⟨b, ⟨mem, (tells b a same).trans kind⟩, same⟩
    rw [arrived_concat, List.filter_append]
    cases kind : p a with
    | false =>
      have none : [a].filter p = [] := by simp [kind]
      rw [none, List.append_nil, ← ih, arrive]
      split
      case isTrue => rfl
      case isFalse => rw [List.filter_append, none, List.append_nil]
    | true =>
      have one : [a].filter p = [a] := by simp [kind]
      rw [one, arrived_concat, arrive, arrive]
      by_cases before : key a ∈ (arrived key items).map key
      · rw [if_pos before, if_pos ((seen kind).mpr before), ih]
      · rw [if_neg before, if_neg fun mem => before ((seen kind).mp mem), List.filter_append, one, ih]

end Arrivals
