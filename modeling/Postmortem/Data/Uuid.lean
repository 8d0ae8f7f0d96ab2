import Mathlib.Algebra.GroupWithZero.Nat
import Mathlib.Data.String.Basic
import Mathlib.Tactic.Lemma

/-!
# Identifiers

A `UUID` by its canonical text, the spelling `str(uuid)` and CockroachDB print: 32 lower-case
hexadecimal digits in groups of 8, 4, 4, 4 and 12. The text is carried with the proof that it is
canonical, so two identifiers are equal exactly when their texts are (`Uuid.ext`), and a text column
compared with a cast identifier (`metadata->>'action_id' = %(action_id_text)s`) is compared as text.
-/

namespace Postmortem

/-- The sixteen digits are not none, for the numerals of `Fin 16`. -/
instance sixteen_ne_zero : NeZero 16 := ⟨by decide⟩

/-- The positions of the hyphens in a canonical text. -/
def Uuid.hyphens : List Nat := [8, 13, 18, 23]

/-- A lower-case hexadecimal digit. -/
def Uuid.isHexDigit (c : Char) : Bool := c.isDigit || ('a' ≤ c && c ≤ 'f')

/-- The canonical spelling of a UUID. -/
def Uuid.isCanonical (s : String) : Bool :=
  s.toList.length == 36 &&
    s.toList.zipIdx.all fun (c, i) =>
      if Uuid.hyphens.contains i then c == '-' else Uuid.isHexDigit c

/-- A UUID column or a Python `UUID`. -/
@[ext]
structure Uuid where
  text : String
  canonical : Uuid.isCanonical text = true
deriving DecidableEq

namespace Uuid

/-- `UUID(int=0)`. -/
def nil : Uuid := ⟨"00000000-0000-0000-0000-000000000000", by decide⟩

/-- All but the last two digits of the identifiers in examples. -/
def zeros : List Char :=
  ['0', '0', '0', '0', '0', '0', '0', '0', '-', '0', '0', '0', '0', '-', '0', '0', '0', '0', '-',
    '0', '0', '0', '0', '-', '0', '0', '0', '0', '0', '0', '0', '0', '0', '0']

lemma canonical_zeros {a b : Char} (ha : isHexDigit a = true) (hb : isHexDigit b = true) :
    isCanonical (String.ofList (zeros ++ [a, b])) = true := by
  have e : ((zeros ++ [a, b]).zipIdx.all fun (c, i) =>
      if hyphens.contains i then c == '-' else isHexDigit c) =
        (isHexDigit a && (isHexDigit b && true)) := rfl
  unfold isCanonical
  rw [String.toList_ofList, e, ha, hb]
  rfl

lemma mem_text {u : Uuid} {c} (h : c ∈ u.text.toList) : c = '-' ∨ isHexDigit c = true := by
  have canonical := u.canonical
  simp only [isCanonical, Bool.and_eq_true, List.all_eq_true] at canonical
  obtain ⟨i, hi, e⟩ := List.mem_iff_getElem.mp h
  have entry := canonical.2 (c, i) (by
    rw [List.mk_mem_zipIdx_iff_getElem?]
    rw [List.getElem?_eq_getElem hi, e])
  simp only at entry
  split at entry
  · exact .inl (by simpa using entry)
  · exact .inr entry

lemma text_ne_empty (u : Uuid) : u.text ≠ "" := by
  intro blank
  have canonical := u.canonical
  rw [blank] at canonical
  exact absurd canonical (by decide)

/-- Identifiers for examples, by their last two digits. -/
def sample (d : Fin 16) (block : Fin 16 := 0) : Uuid where
  text := String.ofList (zeros ++ [Nat.digitChar block, Nat.digitChar d])
  canonical := by
    have h : ∀ d : Fin 16, isHexDigit (Nat.digitChar d) = true := by decide
    exact canonical_zeros (h _) (h _)

/-- `text::UUID` on the spelling the database prints. -/
def ofText? (s : String) : Option Uuid :=
  if h : isCanonical s = true then some ⟨s, h⟩ else none

@[simp] lemma ofText?_text {u : Uuid} : ofText? u.text = some u := by
  simp [ofText?, u.canonical]

lemma text_of_ofText? {s u} (h : ofText? s = some u) : u.text = s := by
  unfold ofText? at h
  split at h
  · cases h; rfl
  · cases h

end Uuid

end Postmortem
