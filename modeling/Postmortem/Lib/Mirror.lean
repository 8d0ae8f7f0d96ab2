import Mathlib.Data.Option.Basic
import Postmortem.Lib.Assoc
import Postmortem.Lib.Table

/-!
# A dictionary that mirrors a table

`Mirrors R d key t`: under every key the dictionary has an entry exactly if the table has a row, and the two are
related by `R`. A write to the dictionary and an update of the rows under its key keep this (`Mirrors.update`), and
so do a write of a new key and an insert (`Mirrors.insert`).
-/

namespace Mirror

variable {κ α β : Type} [DecidableEq κ] {R : α → β → Prop} {d : List (κ × α)} {key : β → κ} {t : List β} {k : κ}
  {v : α} {r : β}

/-- Dictionary and table have related values under the same keys. -/
def Mirrors (R : α → β → Prop) (d : List (κ × α)) (key : β → κ) (t : List β) : Prop :=
  ∀ k, Option.Rel R (Assoc.get d k) (t.find? fun r => key r = k)

lemma find_update {p : β → Bool} {f : β → β} (keep : ∀ r, key (f r) = key r) :
    (Table.update p f t).find? (fun r => key r = k) =
      (t.find? fun r => key r = k).map fun r => if p r then f r else r := by
  have same : ((fun r => decide (key r = k)) ∘ fun r => if p r then f r else r) = fun r => decide (key r = k) := by
    funext r
    show decide (key (if p r then f r else r) = k) = _
    split
    case isTrue => rw [keep]
    case isFalse => rfl
  rw [Table.update, List.find?_map, same]

lemma Mirrors.row (h : Mirrors R d key t) (found : Assoc.get d k = some v) : ∃ r ∈ t, key r = k ∧ R v r := by
  have related := h k
  rw [found] at related
  generalize row : (t.find? fun r => key r = k) = x at related
  cases related with
  | @some _ r rel =>
    obtain ⟨mem, same⟩ := Table.find_spec row
    exact ⟨r, mem, same, rel⟩

lemma Mirrors.entry (h : Mirrors R d key t) (unique : Table.Unique key t) (mem : r ∈ t) :
    ∃ v, Assoc.get d (key r) = some v ∧ R v r := by
  have related := h (key r)
  rw [unique.find mem] at related
  generalize Assoc.get d (key r) = x at related
  cases related with
  | some rel => exact ⟨_, rfl, rel⟩

lemma Mirrors.empty : Mirrors R [] key [] := fun _ => .none

/-- The rows under the key are updated as the entry is. -/
lemma Mirrors.update {p : β → Bool} {f : β → β} {v' : α} (h : Mirrors R d key t) (keep : ∀ r, key (f r) = key r)
    (sel : ∀ r ∈ t, p r = true ↔ key r = k) (written : ∀ r ∈ t, key r = k → R v' (f r))
    (present : ∃ r ∈ t, key r = k) : Mirrors R (Assoc.set d k v') key (Table.update p f t) := by
  intro k'
  rw [Assoc.get_set, find_update keep]
  have related := h k'
  split
  case isTrue same =>
    subst same
    cases row : t.find? fun r => key r = k with
    | none =>
      obtain ⟨r, mem, own⟩ := present
      exact absurd (decide_eq_true own) (List.find?_eq_none.mp row r mem)
    | some r =>
      obtain ⟨mem, own⟩ := Table.find_spec row
      rw [Option.map_some, if_pos ((sel r mem).mpr own)]
      exact .some (written r mem own)
  case isFalse other =>
    revert related
    cases row : t.find? fun r => key r = k' with
    | none => exact fun related => related
    | some r =>
      obtain ⟨mem, own⟩ := Table.find_spec row
      have skipped : ¬ p r = true := fun taken => other (((sel r mem).mp taken).symm.trans own)
      rw [Option.map_some, if_neg skipped]
      exact fun related => related

/-- One row is updated as its entry is. -/
lemma Mirrors.update_row {p : β → Bool} {f : β → β} {v' : α} (h : Mirrors R d key t) (unique : Table.Unique key t)
    (mem : r ∈ t) (own : key r = k) (taken : p r = true) (only : ∀ s, p s = true → key s = k)
    (keep : ∀ s, key (f s) = key s) (rel : R v' (f r)) : Mirrors R (Assoc.set d k v') key (Table.update p f t) := by
  apply h.update keep ?sel ?written ⟨r, mem, own⟩
  case sel =>
    intro s mem'
    constructor
    · exact only s
    · intro own'
      obtain rfl := unique.eq mem mem' (own.trans own'.symm)
      exact taken
  case written =>
    intro s mem' own'
    obtain rfl := unique.eq mem mem' (own.trans own'.symm)
    exact rel

/-- A new row, under a new key. -/
lemma Mirrors.insert (h : Mirrors R d key t) (fresh : ∀ s ∈ t, key s ≠ key r) (rel : R v r) :
    Mirrors R (Assoc.set d (key r) v) key (t ++ [r]) := by
  intro k'
  rw [Assoc.get_set, List.find?_append]
  split
  case isTrue same =>
    subst same
    have none : (t.find? fun s => key s = key r) = none := by
      apply List.find?_eq_none.mpr
      intro s mem own
      exact fresh s mem (of_decide_eq_true own)
    rw [none, List.find?_singleton, if_pos (decide_eq_true rfl)]
    exact .some rel
  case isFalse other =>
    rw [List.find?_singleton, if_neg fun own => other (of_decide_eq_true own), Option.or_none]
    exact h k'

lemma Mirrors.singleton (rel : R v r) : Mirrors R [(key r, v)] key [r] := Mirrors.empty.insert nofun rel

end Mirror
