import Mathlib.Data.List.Nodup
import Mathlib.Data.List.Sort
import Mathlib.Algebra.GroupWithZero.Nat
import Mathlib.Tactic.Lemma
import Mathlib.Tactic.Basic

/-!
# Tables

A relational table is the list of its rows. `Table.update` and `Table.delete` are the two statements
that change rows in place; an insert appends. A key is a function on rows and `Table.Unique` says
that no two rows of a table agree on it, which is what a primary key or a unique index promises.

The lemmas say what a row of the changed table was before (`mem_update`, `mem_delete`), which changes
keep a key unique (`Unique.update`, `Unique.insert`, `Unique.delete`) and that a lookup by a unique
key finds the row one has in hand (`Unique.find`).
-/

namespace Table

variable {α κ : Type} {t : List α} {key : α → κ}

/-- `UPDATE t SET f WHERE p`. -/
def update (p : α → Bool) (f : α → α) (t : List α) : List α :=
  t.map fun r => if p r then f r else r

/-- `DELETE FROM t WHERE p`. -/
def delete (p : α → Bool) (t : List α) : List α :=
  t.filter fun r => !p r

/-- No two rows of `t` agree on `key`. -/
def Unique (key : α → κ) (t : List α) : Prop := (t.map key).Nodup

lemma mem_update {p : α → Bool} {f r} :
    r ∈ update p f t ↔ ∃ s ∈ t, (if p s then f s else s) = r := by
  simp [update]

lemma mem_update_of_not {p : α → Bool} {f r} (h : r ∈ t) (np : p r = false) : r ∈ update p f t :=
  mem_update.mpr ⟨r, h, by simp [np]⟩

lemma mem_update_of_pos {p : α → Bool} {f r} (h : r ∈ t) (hp : p r = true) : f r ∈ update p f t :=
  mem_update.mpr ⟨r, h, by simp [hp]⟩

/-- What holds of every row, and of a selected row after the update, holds of every updated row. -/
lemma forall_update {p : α → Bool} {f} {P : α → Prop} (kept : ∀ r ∈ t, P r)
    (changed : ∀ r ∈ t, p r = true → P (f r)) : ∀ r ∈ update p f t, P r := by
  intro r hr
  obtain ⟨s, hs, rfl⟩ := mem_update.mp hr
  split
  case isTrue sel => exact changed s hs sel
  case isFalse => exact kept s hs

lemma forall_insert {r : α} {P : α → Prop} (old : ∀ s ∈ t, P s) (new : P r) : ∀ s ∈ t ++ [r], P s :=
  List.forall_mem_append.mpr ⟨old, List.forall_mem_singleton.mpr new⟩

lemma mem_delete {p : α → Bool} {r} : r ∈ delete p t ↔ r ∈ t ∧ p r = false := by
  simp [delete]

lemma map_update {p : α → Bool} {f} (h : ∀ r ∈ t, p r = true → key (f r) = key r) :
    (update p f t).map key = t.map key := by
  simp only [update, List.map_map]
  apply List.map_congr_left
  intro r hr
  cases hp : p r
  · simp [hp]
  · simpa [hp] using h r hr hp

lemma update_eq_self {p : α → Bool} {f} (h : ∀ r ∈ t, p r = false) : update p f t = t := by
  calc update p f t = t.map id := List.map_congr_left fun r hr => by simp [h r hr]
    _ = t := List.map_id t

lemma update_congr {p q : α → Bool} {f} (h : ∀ r ∈ t, p r = q r) : update p f t = update q f t :=
  List.map_congr_left fun r hr => by rw [h r hr]

lemma update_append {p : α → Bool} {f} {u : List α} : update p f (t ++ u) = update p f t ++ update p f u :=
  List.map_append

/-- Two updates of the same rows are one. -/
lemma update_update {p q : α → Bool} {f g} (h : ∀ r ∈ t, q (if p r then f r else r) = p r) :
    update q g (update p f t) = update p (fun r => g (f r)) t := by
  simp only [update, List.map_map]
  apply List.map_congr_left
  intro r hr
  have sel := h r hr
  cases hp : p r
  · have sel : q r = false := by simpa [hp] using sel
    simp [hp, sel]
  · have sel : q (f r) = true := by simpa [hp] using sel
    simp [hp, sel]

/-- An update of the one row `r` changes a sum by what it changes at `r`. -/
lemma sum_update [DecidableEq κ] {f : α → α} {m : α → Nat} {r} (u : Unique key t) (hr : r ∈ t) :
    ((update (fun s => key s = key r) f t).map m).sum + m r = (t.map m).sum + m (f r) := by
  induction t with
  | nil => cases hr
  | cons s t ih =>
    obtain ⟨fresh, u⟩ := List.nodup_cons.mp u
    show (m (if decide (key s = key r) = true then f s else s) + (List.map m (update _ f t)).sum) + m r =
      m s + (t.map m).sum + m (f r)
    rcases List.mem_cons.mp hr with rfl | hr
    · have others : update (fun s => key s = key r) f t = t := by
        apply update_eq_self
        intro s hs
        apply decide_eq_false
        intro e
        exact fresh (List.mem_map.mpr ⟨s, hs, e⟩)
      rw [others, if_pos (decide_eq_true rfl)]
      omega
    · have ne : ¬ decide (key s = key r) = true := by
        intro e
        exact fresh (List.mem_map.mpr ⟨r, hr, (of_decide_eq_true e).symm⟩)
      have tail := ih u hr
      rw [if_neg ne]
      omega

/-- An update does not move rows in or out of a selection that reads only columns it keeps. -/
lemma filter_update {p q : α → Bool} {f} (h : ∀ r ∈ t, q (f r) = q r) :
    (update p f t).filter q = update p f (t.filter q) := by
  induction t with
  | nil => rfl
  | cons r t ih =>
    have tail := ih fun s hs => h s (List.mem_cons_of_mem _ hs)
    have head : q (if p r then f r else r) = q r := by
      split
      · exact h r List.mem_cons_self
      · rfl
    simp only [update, List.map_cons, List.filter_cons, head]
    split
    · rw [List.map_cons]
      exact congrArg _ tail
    · exact tail

/-- The keys an updated table selects, where the update keeps the key. -/
lemma map_filter_update {p q q' : α → Bool} {f} (keep : ∀ r, key (f r) = key r)
    (h : ∀ r ∈ t, q (if p r then f r else r) = q' r) :
    ((update p f t).filter q).map key = (t.filter q').map key := by
  have same : t.filter (q ∘ fun r => if p r then f r else r) = t.filter q' := List.filter_congr h
  rw [update, List.filter_map, List.map_map, same]
  apply List.map_congr_left
  intro r _
  show key (if p r then f r else r) = key r
  split
  · exact keep r
  · rfl

lemma filter_insert {q : α → Bool} {r} :
    (t ++ [r]).filter q = if q r then t.filter q ++ [r] else t.filter q := by
  split
  case isTrue h => simp [List.filter_append, h]
  case isFalse h => simp [List.filter_append, h]

/-- A projection turns an update into the update of the projected rows. -/
lemma update_map {p : α → Bool} {f} {p' : κ → Bool} {f' : κ → κ}
    (sel : ∀ r ∈ t, p' (key r) = p r) (h : ∀ r ∈ t, p r = true → key (f r) = f' (key r)) :
    (update p f t).map key = update p' f' (t.map key) := by
  simp only [update, List.map_map]
  apply List.map_congr_left
  intro r hr
  cases hp : p r
  · simp [hp, sel r hr]
  · simpa [hp, sel r hr] using h r hr hp

lemma Unique.update {p : α → Bool} {f} (u : Unique key t)
    (h : ∀ r ∈ t, p r = true → key (f r) = key r) : Unique key (update p f t) := by
  rw [Unique, map_update h]
  exact u

lemma Unique.map {f : α → α} (u : Unique key t) (h : ∀ r, key (f r) = key r) : Unique key (t.map f) := by
  have same : (t.map f).map key = t.map key := by
    rw [List.map_map]
    exact List.map_congr_left fun r _ => h r
  rw [Unique, same]
  exact u

lemma Unique.insert {r : α} (u : Unique key t) (h : ∀ s ∈ t, key s ≠ key r) :
    Unique key (t ++ [r]) := by
  rw [Unique, List.map_append]
  apply List.Nodup.append u (List.nodup_singleton _)
  intro k hk hr
  obtain ⟨s, hs, e⟩ := List.mem_map.mp hk
  obtain e' := List.mem_singleton.mp hr
  exact h s hs (e.trans e')

lemma Unique.delete {p : α → Bool} (u : Unique key t) : Unique key (delete p t) :=
  List.Nodup.sublist (List.Sublist.map key List.filter_sublist) u

lemma Unique.eq {r s : α} (u : Unique key t) (hr : r ∈ t) (hs : s ∈ t) (e : key r = key s) : r = s :=
  List.inj_on_of_nodup_map u hr hs e

/-- What an update leaves under the key of a row is that row, updated where it is selected. -/
lemma Unique.updated {p : α → Bool} {f} {r s : α} (u : Unique key t) (hr : r ∈ t)
    (hs : s ∈ Table.update p f t) (keep : ∀ r, key (f r) = key r) (e : key s = key r) :
    s = if p r then f r else r := by
  obtain ⟨s0, hs0, rfl⟩ := mem_update.mp hs
  have own : key s0 = key r := by
    rw [← e]
    split
    · exact (keep s0).symm
    · rfl
  rw [u.eq hs0 hr own]

lemma Unique.find [DecidableEq κ] {r : α} (u : Unique key t) (hr : r ∈ t) :
    t.find? (fun s => key s = key r) = some r := by
  cases h : t.find? (fun s => key s = key r) with
  | none =>
    have nr := List.find?_eq_none.mp h r hr
    exact absurd (decide_eq_true rfl) nr
  | some s =>
    have hs := List.mem_of_find?_eq_some h
    have e : key s = key r := by simpa using List.find?_some h
    rw [u.eq hs hr e]

lemma find_spec [DecidableEq κ] {k : κ} {r : α} (h : t.find? (fun s => key s = k) = some r) :
    r ∈ t ∧ key r = k :=
  ⟨List.mem_of_find?_eq_some h, by simpa using List.find?_some h⟩

/-- A search finds the one row that satisfies the test. -/
lemma find_of_unique {p : α → Bool} {r : α} (hr : r ∈ t) (hp : p r = true)
    (one : ∀ s ∈ t, p s = true → s = r) : t.find? p = some r := by
  cases h : t.find? p with
  | none => exact absurd hp (List.find?_eq_none.mp h r hr)
  | some s => rw [one s (List.mem_of_find?_eq_some h) (List.find?_some h)]

/-- `ORDER BY r LIMIT 1`. -/
def first (r : α → α → Prop) [DecidableRel r] (t : List α) : Option α := (t.insertionSort r).head?

section first

variable {r : α → α → Prop} [DecidableRel r] {a : α}

lemma first_mem (h : first r t = some a) : a ∈ t :=
  (List.mem_insertionSort r).mp (List.mem_of_mem_head? h)

lemma first_eq_none : first r t = none ↔ t = [] := by
  rw [first, List.head?_eq_none_iff, ← List.length_eq_zero_iff, List.length_insertionSort,
    List.length_eq_zero_iff]

lemma first_le [Std.Total r] [IsTrans α r] (h : first r t = some a) : ∀ b ∈ t, r a b := by
  intro b hb
  have sorted : (t.insertionSort r).Pairwise r := List.pairwise_insertionSort r t
  have hb' : b ∈ t.insertionSort r := (List.mem_insertionSort r).mpr hb
  obtain ⟨l, e⟩ : ∃ l, t.insertionSort r = a :: l := List.head?_eq_some_iff.mp h
  rw [e] at sorted hb'
  obtain rfl | hb' := List.mem_cons.mp hb'
  · exact (Std.Total.total b b).elim id id
  · exact (List.pairwise_cons.mp sorted).1 b hb'

/-- A row that comes before every other row, and none of them before it, is the first. -/
lemma first_of_lt [Std.Total r] [IsTrans α r] (h : a ∈ t) (lt : ∀ b ∈ t, r b a → b = a) :
    first r t = some a := by
  cases e : first r t with
  | none => rw [first_eq_none.mp e] at h; cases h
  | some b => rw [lt b (first_mem e) (first_le e a h)]

lemma first_map {r' : κ → κ → Prop} [DecidableRel r'] (h : ∀ a b, r a b ↔ r' (key a) (key b)) :
    first r' (t.map key) = (first r t).map key := by
  rw [first, first, ← List.map_insertionSort r r' key t fun a _ b _ => h a b, List.head?_map]

end first

end Table
