import Mathlib.Algebra.BigOperators.Group.Multiset.Defs
import Postmortem.Consolidation.Lifecycle
import Postmortem.Lib.Framing

/-!
# Identifiers of runbooks in memory

`InMemoryRunbookRepository.apply` makes the id of a version from two numbers, how many keys the repository knows and
how many versions the key has (`seat`). The id determines the two (`idText_injective`), but they do not determine
the version: the first number grows with other keys, the second with the versions of one. A run keeps all ids
apart exactly where no two of its creating calls have the same numbers (`runbook_ids_distinct_iff`).
-/

namespace Postmortem

namespace InMemoryRunbookRepository

/-- The ids of all versions of all keys. -/
def runbookIds (s : InMemoryRunbookRepository) : List String :=
  s.runbooks.flatMap fun e => e.2.map (·.runbookId)

/-- The call creates a version. -/
def Creates (rt : Runtime) (s : InMemoryRunbookRepository) (a : CandidateRunbook × String) : Prop :=
  Assoc.get s.processed a.2 = none ∧ a.1.outcome = .success ∧ a.1.embedding.length = 1024 ∧
    ∀ r ∈ (s.versions a.1.key).getLast?, r.stepsHash ≠ a.1.stepsHash rt

instance (rt : Runtime) (s : InMemoryRunbookRepository) (a : CandidateRunbook × String) : Decidable (Creates rt s a) :=
  inferInstanceAs (Decidable (_ ∧ _ ∧ _ ∧ ∀ r ∈ (s.versions a.1.key).getLast?, _))

/-- How many keys the repository knows at the call, that of the candidate included, and how many versions the
candidate's key has. -/
def seat (s : InMemoryRunbookRepository) (a : CandidateRunbook × String) : Nat × Nat :=
  ((Assoc.set s.runbooks a.1.key (s.versions a.1.key)).length, (s.versions a.1.key).length)

/-- The numbers of a call that creates a version. -/
def seats (rt : Runtime) (s : InMemoryRunbookRepository) (a : CandidateRunbook × String) : List (Nat × Nat) :=
  if Creates rt s a then [seat s a] else []

/-- The id for the numbers. -/
def idText (p : Nat × Nat) : String := "rb-" ++ toString p.1 ++ "-" ++ toString (p.2 + 1)

lemma no_dash {n : Nat} : '-' ∉ (toString n).toList := by
  intro dash
  exact absurd (Framing.isDigit_of_mem dash) (by decide)

lemma idText_injective : Function.Injective idText := by
  rintro ⟨n, v⟩ ⟨n', v'⟩ same
  have dash : String.singleton '-' = "-" := rfl
  simp only [idText, ← dash, String.append_assoc] at same
  obtain ⟨_, same⟩ := Framing.append_left_inj rfl same
  rw [← String.append_assoc, ← String.append_assoc] at same
  obtain ⟨keys, versions⟩ := Framing.separated_inj no_dash no_dash same
  obtain rfl := Framing.number_injective keys
  have next := Framing.number_injective versions
  rw [Nat.succ.inj next]

/-! ## The ids after a call -/

section ids

variable {rt : Runtime} {activation : Activation} {s : InMemoryRunbookRepository} {a : CandidateRunbook × String}
  {versions versions' : List LocalRunbook} {m : RunbookMutation} {n : Nat}

/-- The ids of some versions, in no order. -/
def idsOf (versions : List LocalRunbook) : Multiset String := versions.map (·.runbookId)

/-- The ids of the repository, in no order. -/
def ids (s : InMemoryRunbookRepository) : Multiset String := (s.runbooks.map fun e => idsOf e.2).sum

lemma coe_runbookIds : (s.runbookIds : Multiset String) = ids s := by
  unfold runbookIds ids
  induction s.runbooks with
  | nil => rfl
  | cons e d ih =>
    rw [List.flatMap_cons, List.map_cons, List.sum_cons, ← ih]
    rfl

/-- The ids once the versions of a key are written. -/
lemma ids_set {processed k} : ids ⟨Assoc.set s.runbooks k versions, processed⟩ + idsOf (s.versions k) =
    ids s + idsOf versions := by
  have sum := @Assoc.sum_set _ _ _ _ _ idsOf s.runbooks k versions
  have old : (Assoc.get s.runbooks k).elim 0 idsOf = idsOf (s.versions k) := by
    unfold InMemoryRunbookRepository.versions
    cases Assoc.get s.runbooks k with
    | none => rfl
    | some versions => rfl
  rw [old] at sum
  exact sum

/-- Entering the key of a candidate adds no id. -/
lemma ids_setdefault {processed k} : ids ⟨Assoc.set s.runbooks k (s.versions k), processed⟩ = ids s :=
  add_right_cancel ids_set

lemma idsOf_last {r r' : LocalRunbook} (last : versions.getLast? = some r) (same : r'.runbookId = r.runbookId) :
    idsOf (versions.dropLast ++ [r']) = idsOf versions := by
  have split := List.dropLast_append_getLast? r last
  rw [← split, List.dropLast_concat]
  simp only [idsOf, List.map_append, List.map_singleton, same]

/-- A branch adds the id of the version it creates, if any. -/
lemma branch_ids {c : CandidateRunbook} (h : branch rt activation c n versions = .ok (versions', m)) :
    idsOf versions' = idsOf versions + (if c.outcome = .success ∧ c.embedding.length = 1024 ∧
      ∀ r ∈ versions.getLast?, r.stepsHash ≠ c.stepsHash rt then {idText (n, versions.length)} else 0) := by
  have appended : idsOf (versions ++ [created rt c n versions]) = idsOf versions + {idText (n, versions.length)} := by
    simp only [idsOf, List.map_append, List.map_singleton, ← Multiset.coe_add]
    rfl
  unfold branch at h
  cases last : versions.getLast? with
  | none =>
    rw [last] at h
    dsimp only at h
    split at h
    case isTrue failed =>
      cases h
      rw [if_neg fun creates => failed creates.1, add_zero]
    case isFalse success =>
      split at h
      case isTrue => cases h
      case isFalse len =>
        cases h
        rw [if_pos ⟨not_not.mp success, not_not.mp len, nofun⟩]
        exact appended
  | some latest =>
    rw [last] at h
    dsimp only at h
    split at h
    case isTrue failed =>
      cases h
      rw [if_neg fun creates => failed creates.1, add_zero]
      exact idsOf_last last rfl
    case isFalse success =>
      split at h
      case isTrue differ =>
        split at h
        case isTrue => cases h
        case isFalse len =>
          cases h
          have other : ∀ r ∈ some latest, r.stepsHash ≠ c.stepsHash rt := by
            rintro r ⟨⟩
            exact differ
          rw [if_pos ⟨not_not.mp success, not_not.mp len, other⟩]
          exact appended
      case isFalse same =>
        cases h
        rw [if_neg fun creates => same (creates.2.2 latest rfl), add_zero]
        exact idsOf_last last rfl

/-- A branch that raises was to create a version with an embedding of another dimension. -/
lemma branch_raises {c : CandidateRunbook} {e} (h : branch rt activation c n versions = .error e) :
    c.embedding.length ≠ 1024 := by
  unfold branch at h
  split at h
  case h_1 =>
    split at h
    case isTrue => cases h
    case isFalse =>
      split at h
      case isTrue len => exact len
      case isFalse => cases h
  case h_2 =>
    split at h
    case isTrue => cases h
    case isFalse =>
      split at h
      case isTrue =>
        split at h
        case isTrue len => exact len
        case isFalse => cases h
      case isFalse => cases h

/-- A call adds the ids of its seats. -/
lemma apply_ids : ids (apply rt activation s a.1 a.2).1 = ids s + ((seats rt s a).map idText : List String) := by
  unfold apply seats
  split
  case h_1 previous seen =>
    have replayed : ¬ Creates rt s a := by
      intro creates
      cases seen.symm.trans creates.1
    rw [if_neg replayed]
    simp
  case h_2 new =>
    dsimp only
    split
    case h_1 e raised =>
      rw [if_neg fun creates => branch_raises raised creates.2.2.1, ids_setdefault]
      simp
    case h_2 versions m returned =>
      have branched := branch_ids returned
      have written := @ids_set ⟨Assoc.set s.runbooks a.1.key (s.versions a.1.key), s.processed⟩ versions
        (Assoc.set s.processed a.2 m) a.1.key
      rw [versions_setdefault, ids_setdefault, branched, ← add_assoc, add_right_comm] at written
      rw [add_right_cancel written]
      congr 1
      by_cases creates : Creates rt s a
      case pos =>
        rw [if_pos creates, if_pos creates.2]
        rfl
      case neg =>
        rw [if_neg creates, if_neg fun rest => creates ⟨new, rest⟩]
        rfl

/-- The ids after a sequence of calls are those of its seats. -/
lemma applyAll_ids {calls} : ids (applyAll rt activation s calls) =
    ids s + ((Run.trace (fun s a => (apply rt activation s a.1 a.2).1) (seats rt) s calls).map idText : List String) := by
  induction calls generalizing s with
  | nil => simp [Run.trace, applyAll]
  | cons a calls ih =>
    rw [Run.trace, List.map_append, ← Multiset.coe_add, ← add_assoc, ← apply_ids]
    exact ih

end ids

end InMemoryRunbookRepository

open InMemoryRunbookRepository in
/-- A sequence of calls gives no two versions one id, in any state it reaches, exactly where no two of its creating
calls find the same number of keys and the same number of versions of their key. -/
theorem runbook_ids_distinct_iff (rt : Runtime) (activation : Activation) (calls : List (CandidateRunbook × String)) :
    (∀ before after, calls = before ++ after → (runbookIds (applyAll rt activation {} before)).Nodup) ↔
      (Run.trace (fun s a => (apply rt activation s a.1 a.2).1) (seats rt) {} calls).Nodup := by
  have ids : ∀ calls, (runbookIds (applyAll rt activation {} calls)).Nodup ↔
      (Run.trace (fun s a => (apply rt activation s a.1 a.2).1) (seats rt) {} calls).Nodup := by
    intro calls
    rw [← Multiset.coe_nodup, coe_runbookIds, applyAll_ids, ← coe_runbookIds]
    show Multiset.Nodup (0 + _) ↔ _
    rw [zero_add, Multiset.coe_nodup]
    exact List.nodup_map_iff idText_injective
  constructor
  case mp =>
    intro always
    exact (ids calls).mp (always calls [] (List.append_nil _).symm)
  case mpr =>
    rintro distinct before after rfl
    rw [ids]
    rw [Run.trace_append] at distinct
    exact (List.nodup_append.mp distinct).1

namespace Sample

/-- Two names with one version each, then a new version of each. -/
def interleaved : List (CandidateRunbook × String) :=
  let revised := [.obj [("order", .int 2)]]
  [(candidate 0, "first"), ({ candidate 1 with name := "other" }, "second"),
    ({ candidate 2 with steps := revised }, "third"), ({ candidate 3 with name := "other", steps := revised }, "fourth")]

end Sample

open InMemoryRunbookRepository in
/-- The second versions of two names have one id. -/
theorem runbook_id_repeats :
    ¬ (runbookIds (applyAll Sample.config.rt Sample.config.activation {} Sample.interleaved)).Nodup := by
  decide +kernel

end Postmortem
