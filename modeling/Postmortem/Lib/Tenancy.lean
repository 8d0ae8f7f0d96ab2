import Postmortem.Lib.Table

/-!
# Tables with owners

Tables whose rows each have an owner. `Within` says that the rows of one table refer to rows of another with
the same owner only; it lasts through updates that keep owners, keys and references, and through an insertion
as long as the new key was not referred to before. A selection by owner does not see what happens to the rows
of others (`filter_update_other` and the lemmas beside it).
-/

namespace Tenancy

variable {α β κ ω : Type} {ref ref' : α → Option κ} {oa : α → ω} {key : β → κ} {ob : β → ω}
  {t t' : List α} {u u' : List β}

/-- The rows of the first table refer to rows of the second with their own owner. -/
def Within (ref : α → Option κ) (oa : α → ω) (key : β → κ) (ob : β → ω) (t : List α) (u : List β) : Prop :=
  ∀ a ∈ t, ∀ b ∈ u, ref a = some (key b) → ob b = oa a

instance [DecidableEq κ] [DecidableEq ω] : Decidable (Within ref oa key ob t u) :=
  inferInstanceAs (Decidable (∀ a ∈ t, ∀ b ∈ u, ref a = some (key b) → ob b = oa a))

lemma Within.nil : Within ref oa key ob [] u := by
  intro a mem
  cases mem

/-- Rows that come from rows with their owner, and refer to no other row than these. -/
lemma Within.referring (h : Within ref oa key ob t u)
    (origin : ∀ a' ∈ t', ∃ a ∈ t, oa a = oa a' ∧ (ref a' = ref a ∨ ref a' = none)) :
    Within ref oa key ob t' u := by
  intro a' ha' b hb e
  obtain ⟨a, ha, owner, same | none⟩ := origin a' ha'
  · rw [← owner]
    exact h a ha b hb (same.symm.trans e)
  · rw [none] at e
    cases e

/-- Rows that come from rows with their owner and key. -/
lemma Within.referred (h : Within ref oa key ob t u)
    (origin : ∀ b' ∈ u', ∃ b ∈ u, key b = key b' ∧ ob b = ob b') : Within ref oa key ob t u' := by
  intro a ha b' hb' e
  obtain ⟨b, hb, name, owner⟩ := origin b' hb'
  rw [← owner]
  exact h a ha b hb (e.trans (congrArg some name.symm))

/-- Rows each of which keeps its owner, and what it refers to unless it is unlinked. -/
lemma Within.map_referring {f : α → α} (h : Within ref oa key ob t u)
    (keep : ∀ a, oa a = oa (f a) ∧ (ref (f a) = ref a ∨ ref (f a) = none)) : Within ref oa key ob (t.map f) u := by
  apply h.referring
  intro a' ha'
  obtain ⟨a, ha, rfl⟩ := List.mem_map.mp ha'
  exact ⟨a, ha, keep a⟩

lemma origin_update {R : α → α → Prop} {p : α → Bool} {f : α → α} (refl : ∀ a, R a a) (change : ∀ a, R a (f a)) :
    ∀ a' ∈ Table.update p f t, ∃ a ∈ t, R a a' := by
  apply Table.forall_update
  · exact fun a ha => ⟨a, ha, refl a⟩
  · exact fun a ha _ => ⟨a, ha, change a⟩

lemma Within.update_referring {p : α → Bool} {f : α → α} (h : Within ref oa key ob t u)
    (keep : ∀ a, oa a = oa (f a) ∧ ref (f a) = ref a) : Within ref oa key ob (Table.update p f t) u := by
  apply h.referring
  apply origin_update (R := fun a a' => oa a = oa a' ∧ (ref a' = ref a ∨ ref a' = none))
  · exact fun a => ⟨rfl, .inl rfl⟩
  · exact fun a => ⟨(keep a).1, .inl (keep a).2⟩

lemma Within.update_referred {p : β → Bool} {f : β → β} (h : Within ref oa key ob t u)
    (keep : ∀ b, key b = key (f b) ∧ ob b = ob (f b)) : Within ref oa key ob t (Table.update p f u) := by
  apply h.referred
  exact origin_update (R := fun b b' => key b = key b' ∧ ob b = ob b') (fun _ => ⟨rfl, rfl⟩) keep

lemma Within.delete_referred {p : β → Bool} (h : Within ref oa key ob t u) :
    Within ref oa key ob t (Table.delete p u) := by
  apply h.referred
  exact fun b hb => ⟨b, (Table.mem_delete.mp hb).1, rfl, rfl⟩

/-- A new row that refers to rows of its owner. -/
lemma Within.insert_referring {a : α} (h : Within ref oa key ob t u)
    (own : ∀ b ∈ u, ref a = some (key b) → ob b = oa a) : Within ref oa key ob (t ++ [a]) u :=
  Table.forall_insert h own

/-- A new row that no row refers to. -/
lemma Within.insert_referred {b : β} (h : Within ref oa key ob t u) (fresh : ∀ a ∈ t, ref a ≠ some (key b)) :
    Within ref oa key ob t (u ++ [b]) := by
  intro a ha
  apply Table.forall_insert (h a ha)
  intro e
  exact absurd e (fresh a ha)

section selection

variable {p q : α → Bool} {f : α → α} {r : α}

/-- A selection does not see changes to rows it does not select. -/
lemma filter_map_other (keep : ∀ r ∈ t, q (f r) = q r) (same : ∀ r ∈ t, q r = true → f r = r) :
    (t.map f).filter q = t.filter q := by
  have selected : t.filter (q ∘ f) = t.filter q := List.filter_congr keep
  rw [List.filter_map, selected]
  calc (t.filter q).map f = (t.filter q).map id := by
        apply List.map_congr_left
        intro r hr
        obtain ⟨mem, sel⟩ := List.mem_filter.mp hr
        exact same r mem sel
    _ = t.filter q := List.map_id _

lemma filter_update_other (keep : ∀ r, q (f r) = q r) (other : ∀ r ∈ t, p r = true → q r = false) :
    (Table.update p f t).filter q = t.filter q := by
  apply filter_map_other
  · intro r _
    split
    · exact keep r
    · rfl
  · intro r hr sel
    split
    case isTrue changed =>
      rw [other r hr changed] at sel
      cases sel
    case isFalse => rfl

lemma filter_insert_other (other : q r = false) : (t ++ [r]).filter q = t.filter q := by
  rw [Table.filter_insert, other]
  rfl

lemma filter_delete_other (other : ∀ r ∈ t, p r = true → q r = false) :
    (Table.delete p t).filter q = t.filter q := by
  rw [Table.delete, List.filter_filter]
  apply List.filter_congr
  intro r hr
  cases hp : p r with
  | true => rw [other r hr hp]; rfl
  | false => simp

end selection

end Tenancy
