import Postmortem.Lib.Table

/-!
# Collections that evolve

The items of a collection change in place and new ones are added at the end. `Evolves R Born old new`
says it of a change: every item of `old` is still at its position, changed as `R` allows, and what was
added satisfies `Born`. Updates, inserts and a replacement of the last item are such changes;
`Evolves.trans` joins two of them and `Evolves.all` carries an invariant of the items through one.
-/

/-- The items of the first list, changed as `R` allows, and then items that satisfy `Born`. -/
inductive Evolves {α : Type} (R : α → α → Prop) (Born : α → Prop) : List α → List α → Prop where
  | born {l} : (∀ a ∈ l, Born a) → Evolves R Born [] l
  | cons {a b old new} : R a b → Evolves R Born old new → Evolves R Born (a :: old) (b :: new)

namespace Evolves

variable {α : Type} {R R' : α → α → Prop} {Born Born' : α → Prop} {old mid new : List α} {a b : α}

lemma refl (h : ∀ a, R a a) : Evolves R Born old old := by
  induction old with
  | nil => exact .born nofun
  | cons a old ih => exact .cons (h a) ih

/-- An update of the items that a predicate selects. -/
lemma update_selected {p : α → Bool} {f : α → α} (h : ∀ a, R a a) (change : ∀ a ∈ old, p a = true → R a (f a)) :
    Evolves R Born old (Table.update p f old) := by
  induction old with
  | nil => exact .born nofun
  | cons a old ih =>
    refine .cons ?_ (ih fun b hb => change b (List.mem_cons_of_mem _ hb))
    show R a (if p a then f a else a)
    split
    case isTrue selected => exact change a List.mem_cons_self selected
    case isFalse => exact h a

lemma update {p : α → Bool} {f : α → α} (h : ∀ a, R a a) (change : ∀ a, R a (f a)) :
    Evolves R Born old (Table.update p f old) :=
  update_selected h fun a _ _ => change a

lemma last (h : ∀ a, R a a) (e : old.getLast? = some a) (change : R a b) :
    Evolves R Born old (old.dropLast ++ [b]) := by
  induction old with
  | nil => cases e
  | cons c old ih =>
    cases old with
    | nil =>
      cases e
      exact .cons change (.born nofun)
    | cons d old => exact .cons (h c) (ih e)

lemma insert (e : Evolves R Born old new) (h : Born a) : Evolves R Born old (new ++ [a]) := by
  induction e with
  | born all =>
    apply born
    intro b hb
    rcases List.mem_append.mp hb with hb | hb
    · exact all b hb
    · rw [List.mem_singleton.mp hb]
      exact h
  | cons r _ ih => exact .cons r ih

lemma mono (e : Evolves R Born old new) (hR : ∀ a b, R a b → R' a b) (hB : ∀ a, Born a → Born' a) :
    Evolves R' Born' old new := by
  induction e with
  | born all => exact .born fun a ha => hB a (all a ha)
  | cons r _ ih => exact .cons (hR _ _ r) ih

lemma all {I : α → Prop} (e : Evolves R Born old new) (hB : ∀ a, Born a → I a)
    (step : ∀ a b, R a b → I a → I b) (h : ∀ a ∈ old, I a) : ∀ a ∈ new, I a := by
  induction e with
  | born all => exact fun a ha => hB a (all a ha)
  | @cons a b old new r _ ih =>
    obtain ⟨head, tail⟩ := List.forall_mem_cons.mp h
    exact List.forall_mem_cons.mpr ⟨step a b r head, ih tail⟩

lemma trans (h : ∀ a b c, R a b → R b c → R a c) (hB : ∀ a b, R a b → Born a → Born b)
    (e : Evolves R Born old mid) (e' : Evolves R Born mid new) : Evolves R Born old new := by
  induction e generalizing new with
  | born all => exact .born (e'.all (fun _ h => h) hB all)
  | cons r _ ih =>
    cases e' with
    | cons r' e' => exact .cons (h _ _ _ r r') (ih e')

lemma getElem? {n : Nat} (e : Evolves R Born old new) (h : old[n]? = some a) :
    ∃ b, new[n]? = some b ∧ R a b := by
  induction e generalizing n with
  | born => cases h
  | cons r _ ih =>
    cases n with
    | zero =>
      cases h
      exact ⟨_, rfl, r⟩
    | succ n => exact ih h

lemma mem (e : Evolves R Born old new) (h : a ∈ old) : ∃ b ∈ new, R a b := by
  obtain ⟨n, hn⟩ := List.mem_iff_getElem?.mp h
  obtain ⟨b, hb, r⟩ := e.getElem? hn
  exact ⟨b, List.mem_of_getElem? hb, r⟩

/-- An item was there, or it was added. -/
lemma source (e : Evolves R Born old new) (h : b ∈ new) : (∃ a ∈ old, R a b) ∨ Born b := by
  induction e with
  | born all => exact .inr (all b h)
  | @cons a b' old new r _ ih =>
    rcases List.mem_cons.mp h with rfl | h
    · exact .inl ⟨a, List.mem_cons_self, r⟩
    · obtain ⟨a, ha, r⟩ | born := ih h
      · exact .inl ⟨a, List.mem_cons_of_mem _ ha, r⟩
      · exact .inr born

end Evolves
