import Mathlib.Algebra.BigOperators.Group.List.Basic
import Mathlib.Data.List.Induction
import Mathlib.Data.List.Nodup
import Mathlib.Tactic.Lemma

/-!
# Association lists

A dictionary that keeps the order of insertion: `Assoc.set` writes in place where the key is present
and at the end where it is not. `get_set_self` and `get_set_ne` say what a write does to every read,
`get_modify` and `get_erase` what a change in place and a removal do. `Keyed` says that no two entries have one key, as in every dictionary
built by these operations; then the entries are what the keys read (`Keyed.mem_iff`), and dictionaries
that read alike are permutations (`Keyed.perm`). `sum_set` is what a write does to a sum over the values.
-/

namespace Assoc

variable {κ α : Type} [DecidableEq κ]

/-- The value at a key. -/
def get : List (κ × α) → κ → Option α
  | [], _ => none
  | f :: d, k => if f.1 = k then some f.2 else get d k

/-- Write a key. -/
def set : List (κ × α) → κ → α → List (κ × α)
  | [], k, v => [(k, v)]
  | f :: d, k, v => if f.1 = k then (k, v) :: d else f :: set d k v

/-- Reading the key just written. -/
@[simp] lemma get_set_self {d : List (κ × α)} {k v} : get (set d k v) k = some v := by
  induction d with
  | nil => simp [set, get]
  | cons f d ih =>
    by_cases e : f.1 = k
    · simp [set, get, e]
    · simpa [set, get, e] using ih

lemma get_set_ne {d : List (κ × α)} {k l v} (ne : k ≠ l) : get (set d k v) l = get d l := by
  induction d with
  | nil => simp [set, get, ne]
  | cons f d ih =>
    by_cases e : f.1 = k
    · simp [set, get, e, ne]
    · simp [set, get, e, ih]

lemma mem_of_get {d : List (κ × α)} {k v} (h : get d k = some v) : (k, v) ∈ d := by
  induction d with
  | nil => cases h
  | cons f d ih =>
    unfold get at h
    split at h
    case isTrue e =>
      cases h
      rw [← e]
      exact List.mem_cons_self
    case isFalse => exact List.mem_cons_of_mem _ (ih h)

lemma get_set {d : List (κ × α)} {k l v} : get (set d k v) l = if k = l then some v else get d l := by
  split
  case isTrue e => rw [e, get_set_self]
  case isFalse ne => exact get_set_ne ne

lemma get_eq_none {d : List (κ × α)} {k} : get d k = none ↔ ∀ f ∈ d, f.1 ≠ k := by
  induction d with
  | nil => simp [get]
  | cons f d ih =>
    rw [get, List.forall_mem_cons, ← ih]
    by_cases e : f.1 = k
    · simp [e]
    · simp [e]

/-- A key that has no entry is written at the end. -/
lemma set_fresh {d : List (κ × α)} {k v} (fresh : get d k = none) : set d k v = d ++ [(k, v)] := by
  induction d with
  | nil => rfl
  | cons f d ih =>
    unfold get at fresh
    split at fresh
    case isTrue => cases fresh
    case isFalse ne => rw [set, if_neg ne, ih fresh, List.cons_append]

/-- Write a key that has no entry. -/
def setDefault (d : List (κ × α)) (k : κ) (v : α) : List (κ × α) :=
  match get d k with
  | some _ => d
  | none => set d k v

/-- Change the value at a key, if there is one. -/
def modify (f : α → α) : List (κ × α) → κ → List (κ × α)
  | [], _ => []
  | g :: d, k => if g.1 = k then (k, f g.2) :: d else g :: modify f d k

lemma get_modify {f : α → α} {d : List (κ × α)} {k l} :
    get (modify f d k) l = if k = l then (get d l).map f else get d l := by
  induction d with
  | nil => simp [modify, get]
  | cons g d ih =>
    by_cases e : g.1 = k
    · by_cases ek : k = l
      · simp [modify, get, e, ek]
      · simp [modify, get, e, ek]
    · rw [modify, if_neg e, get, get, ih]
      by_cases el : g.1 = l
      · have ne : ¬ k = l := fun h => e (el.trans h.symm)
        simp [el, ne]
      · simp [el]

/-- A dictionary stays as it is exactly if the value does. -/
lemma modify_eq_self {f : α → α} {d : List (κ × α)} {k v} (found : get d k = some v) : modify f d k = d ↔ f v = v := by
  induction d with
  | nil => cases found
  | cons e d ih =>
    obtain ⟨k', v'⟩ := e
    unfold get at found
    unfold modify
    split
    case isTrue same =>
      rw [if_pos same] at found
      cases found
      cases same
      simp
    case isFalse other =>
      rw [if_neg other] at found
      simp [ih found]

/-- Two changes in place, one after the other. -/
lemma modify_modify {f g : α → α} {d : List (κ × α)} {k} :
    modify f (modify g d k) k = modify (fun a => f (g a)) d k := by
  induction d with
  | nil => rfl
  | cons h d ih =>
    by_cases e : h.1 = k
    · simp [modify, e]
    · simp [modify, e, ih]

/-- Remove a key. -/
def erase (d : List (κ × α)) (k : κ) : List (κ × α) := d.filter fun f => f.1 ≠ k

lemma get_erase {d : List (κ × α)} {k l} : get (erase d k) l = if k = l then none else get d l := by
  induction d with
  | nil => simp [erase, get]
  | cons f d ih =>
    by_cases e : f.1 = k
    · have rest : erase (f :: d) k = erase d k := List.filter_cons_of_neg (by simpa using e)
      rw [rest, ih]
      split
      case isTrue => rfl
      case isFalse ne => rw [get, if_neg fun h => ne (e.symm.trans h)]
    · have first : erase (f :: d) k = f :: erase d k := List.filter_cons_of_pos (by simpa using e)
      rw [first, get, get, ih]
      by_cases ek : k = l
      · rw [if_pos ek, if_pos ek, if_neg fun h => e (h.trans ek.symm)]
      · rw [if_neg ek, if_neg ek]

/-- No two entries have one key. -/
def Keyed (d : List (κ × α)) : Prop := (d.map Prod.fst).Nodup

lemma mem_set {d : List (κ × α)} {k v x} (h : x ∈ set d k v) : x = (k, v) ∨ x ∈ d := by
  induction d with
  | nil => exact .inl (List.mem_singleton.mp h)
  | cons f d ih =>
    unfold set at h
    split at h
    case isTrue =>
      rcases List.mem_cons.mp h with rfl | h
      · exact .inl rfl
      · exact .inr (List.mem_cons_of_mem _ h)
    case isFalse =>
      rcases List.mem_cons.mp h with rfl | h
      · exact .inr List.mem_cons_self
      · exact (ih h).imp id (List.mem_cons_of_mem _)

lemma Keyed.set {d : List (κ × α)} {k v} (h : Keyed d) : Keyed (set d k v) := by
  induction d with
  | nil => exact List.nodup_singleton _
  | cons f d ih =>
    obtain ⟨fresh, rest⟩ := List.nodup_cons.mp h
    unfold Assoc.set
    split
    case isTrue e => exact List.nodup_cons.mpr ⟨e ▸ fresh, rest⟩
    case isFalse ne =>
      refine List.nodup_cons.mpr ⟨fun mem => ?_, ih rest⟩
      obtain ⟨g, hg, e⟩ := List.mem_map.mp mem
      rcases mem_set hg with rfl | hg
      · exact ne e.symm
      · exact fresh (List.mem_map.mpr ⟨g, hg, e⟩)

lemma modify_keys {f : α → α} {d : List (κ × α)} {k} : (modify f d k).map Prod.fst = d.map Prod.fst := by
  induction d with
  | nil => rfl
  | cons g d ih =>
    unfold modify
    split
    case isTrue e =>
      rw [List.map_cons, List.map_cons, e]
    case isFalse => rw [List.map_cons, List.map_cons, ih]

lemma Keyed.modify {f : α → α} {d : List (κ × α)} {k} (h : Keyed d) : Keyed (modify f d k) := by
  unfold Keyed
  rw [modify_keys]
  exact h

lemma Keyed.mem_iff {d : List (κ × α)} {k v} (h : Keyed d) : (k, v) ∈ d ↔ get d k = some v := by
  refine ⟨fun mem => ?_, mem_of_get⟩
  induction d with
  | nil => cases mem
  | cons f d ih =>
    obtain ⟨fresh, rest⟩ := List.nodup_cons.mp h
    rcases List.mem_cons.mp mem with rfl | mem
    · simp [get]
    · have ne : f.1 ≠ k := fun e => fresh (List.mem_map.mpr ⟨_, mem, e.symm⟩)
      rw [get, if_neg ne]
      exact ih rest mem

/-- Dictionaries that read alike have the same entries. -/
lemma Keyed.perm {d d' : List (κ × α)} (h : Keyed d) (h' : Keyed d') (e : ∀ k, get d k = get d' k) :
    d.Perm d' := by
  apply (List.perm_ext_iff_of_nodup (List.Nodup.of_map _ h) (List.Nodup.of_map _ h')).mpr
  rintro ⟨k, v⟩
  rw [h.mem_iff, h'.mem_iff, e]

/-- The elements under their keys; of two with one key, the later. -/
def index (key : α → κ) (l : List α) : List (κ × α) := l.foldl (fun d a => set d (key a) a) []

lemma index_concat {key : α → κ} {l : List α} {a} : index key (l ++ [a]) = set (index key l) (key a) a :=
  List.foldl_append

lemma keyed_index {key : α → κ} {l : List α} : Keyed (index key l) := by
  induction l using List.reverseRecOn with
  | nil => exact List.nodup_nil
  | append_singleton l a ih =>
    rw [index_concat]
    exact ih.set

/-- Elements with distinct keys are read under their keys. -/
lemma get_index {key : α → κ} {l : List α} {k a} (distinct : (l.map key).Nodup) :
    get (index key l) k = some a ↔ a ∈ l ∧ key a = k := by
  induction l using List.reverseRecOn with
  | nil => simp [index, get]
  | append_singleton l b ih =>
    rw [List.map_append, List.map_singleton, List.nodup_append] at distinct
    obtain ⟨distinct, _, apart⟩ := distinct
    have new : ∀ a ∈ l, key a ≠ key b := fun a mem => apart _ (List.mem_map_of_mem mem) _ (List.mem_singleton_self _)
    rw [index_concat, get_set, List.mem_append, List.mem_singleton]
    split
    case isTrue e =>
      subst e
      constructor
      · rintro ⟨⟩
        exact ⟨.inr rfl, rfl⟩
      · rintro ⟨mem | rfl, same⟩
        · exact absurd same (new a mem)
        · rfl
    case isFalse ne =>
      rw [ih distinct]
      constructor
      · exact fun h => ⟨.inl h.1, h.2⟩
      · rintro ⟨mem | rfl, same⟩
        · exact ⟨mem, same⟩
        · exact absurd same ne

/-- A write exchanges the value of its key in a sum over the values. -/
lemma sum_set {M : Type} [AddCommMonoid M] {f : α → M} {d : List (κ × α)} {k v} :
    ((set d k v).map fun e => f e.2).sum + (get d k).elim 0 f = (d.map fun e => f e.2).sum + f v := by
  induction d with
  | nil => simp [set, get]
  | cons e d ih =>
    unfold set get
    split
    case isTrue =>
      simp only [List.map_cons, List.sum_cons, Option.elim_some]
      rw [add_right_comm, add_comm (f v), add_right_comm]
    case isFalse =>
      simp only [List.map_cons, List.sum_cons, add_assoc]
      rw [ih]

/-- What reads a key after some pairs are written. -/
lemma get_foldl_set {l d : List (κ × α)} {k v} (found : get (l.foldl (fun d p => set d p.1 p.2) d) k = some v) :
    (k, v) ∈ l ∨ get d k = some v := by
  induction l generalizing d with
  | nil => exact .inr found
  | cons p l ih =>
    rcases ih found with mem | found
    · exact .inl (List.mem_cons_of_mem _ mem)
    · rw [get_set] at found
      split at found
      case isTrue same =>
        cases found
        rw [← same]
        exact .inl List.mem_cons_self
      case isFalse => exact .inr found

lemma exists_get_foldl_set {l d : List (κ × α)} {k} (key : k ∈ l.map Prod.fst ∨ ∃ v, get d k = some v) :
    ∃ v, get (l.foldl (fun d p => set d p.1 p.2) d) k = some v := by
  induction l generalizing d with
  | nil => exact key.resolve_left List.not_mem_nil
  | cons p l ih =>
    apply ih
    by_cases same : p.1 = k
    · exact .inr ⟨p.2, by rw [get_set, if_pos same]⟩
    · rw [get_set, if_neg same]
      refine key.imp_left fun mem => ?_
      exact (List.mem_cons.mp mem).resolve_left fun e => same e.symm

end Assoc
