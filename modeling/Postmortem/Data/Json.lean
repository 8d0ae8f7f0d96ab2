import Postmortem.Lib.Assoc
import Mathlib.Data.Rat.Defs
import Mathlib.Algebra.Order.Ring.Unbundled.Rat
import Mathlib.Data.List.Sort
import Mathlib.Data.String.Basic
import Mathlib.Tactic.Lemma

/-!
# JSON values and dictionaries

`Flt` is a FLOAT8 column or a Python float: a number or not-a-number, and every comparison with
not-a-number is false. `Json` is a decoded JSON value, with Python's distinction between `bool`, `int`
and `float`; `Dict` is the field list of an object, which is also the model of a Python `dict` with
string keys.

Python's `==` does not see that distinction (`True == 1 == 1.0`) nor the order of the fields of an
object. `Json.norm` forgets both and `Json.pyEq` compares normal forms, so it is an equivalence by
construction.
-/

namespace Postmortem

/-- A double-precision number: a rational or not-a-number. -/
inductive Flt where
  | nan
  | num (q : ℚ)
deriving DecidableEq

namespace Flt

/-- `a < b`. -/
def lt : Flt → Flt → Bool
  | num a, num b => decide (a < b)
  | _, _ => false

/-- `a <= b`. -/
def le : Flt → Flt → Bool
  | num a, num b => decide (a ≤ b)
  | _, _ => false

/-- `a == b`: not-a-number differs from itself. -/
def eq : Flt → Flt → Bool
  | num a, num b => decide (a = b)
  | _, _ => false

/-- `a + b`. -/
def add : Flt → Flt → Flt
  | num a, num b => num (a + b)
  | _, _ => nan

/-- `a * b`. -/
def mul : Flt → Flt → Flt
  | num a, num b => num (a * b)
  | _, _ => nan

lemma lt_trans {a b c : Flt} (h : a.lt b = true) (h' : b.lt c = true) : a.lt c = true := by
  cases a <;> cases b <;> cases c <;> simp_all [lt]
  exact h.trans h'

lemma eq_trans {a b c : Flt} (h : a.eq b = true) (h' : b.eq c = true) : a.eq c = true := by
  cases a <;> cases b <;> cases c <;> simp_all [eq]

lemma lt_congr_left {a b c : Flt} (h : a.eq b = true) : a.lt c = b.lt c := by
  cases a <;> cases b <;> simp_all [eq]

lemma lt_congr_right {a b c : Flt} (h : b.eq c = true) : a.lt b = a.lt c := by
  cases b <;> cases c <;> simp_all [eq]

lemma eq_symm {a b : Flt} (h : a.eq b = true) : b.eq a = true ∧ a.lt b = false ∧ b.lt a = false := by
  cases a <;> cases b <;> simp_all [lt, eq]

lemma lt_asymm {a b : Flt} (h : a.lt b = true) : b.lt a = false ∧ a.eq b = false ∧ b.eq a = false := by
  cases a <;> cases b <;> simp_all [lt, eq]
  exact ⟨h.le, h.ne, h.ne'⟩

/-- Two numbers are comparable; not-a-number is comparable with nothing. -/
lemma trichotomy {a b : Flt} : (a.lt b = true ∨ a.eq b = true ∨ b.lt a = true) ↔ a ≠ nan ∧ b ≠ nan := by
  cases a <;> cases b <;> simp [lt, eq]
  exact lt_trichotomy _ _

instance : Add Flt := ⟨add⟩
instance : Mul Flt := ⟨mul⟩
instance {n : Nat} : OfNat Flt n := ⟨num n⟩
instance : Inhabited Flt := ⟨nan⟩

end Flt

/-- A decoded JSON value. -/
inductive Json where
  | null
  | bool (b : Bool)
  | int (i : Int)
  | float (x : Flt)
  | str (s : String)
  | arr (items : List Json)
  | obj (fields : List (String × Json))
deriving Inhabited

/-- The fields of a JSON object; a Python `dict` with string keys. -/
abbrev Dict := List (String × Json)

namespace Json

mutual
/-- Structural equality of JSON values, as a test. -/
def beq : Json → Json → Bool
  | null, null => true
  | bool a, bool b => a == b
  | int a, int b => a == b
  | float a, float b => decide (a = b)
  | str a, str b => a == b
  | arr xs, arr ys => beqList xs ys
  | obj xs, obj ys => beqFields xs ys
  | _, _ => false
def beqList : List Json → List Json → Bool
  | [], [] => true
  | x :: xs, y :: ys => beq x y && beqList xs ys
  | _, _ => false
def beqFields : Dict → Dict → Bool
  | [], [] => true
  | (k, x) :: xs, (l, y) :: ys => k == l && beq x y && beqFields xs ys
  | _, _ => false
end

mutual
lemma beq_iff : ∀ a b : Json, beq a b = true ↔ a = b
  | null, b => by cases b <;> simp [beq]
  | bool _, b => by cases b <;> simp [beq]
  | int _, b => by cases b <;> simp [beq]
  | float _, b => by cases b <;> simp [beq]
  | str _, b => by cases b <;> simp [beq]
  | arr xs, b => by
    cases b with
    | arr ys => simpa [beq] using beqList_iff xs ys
    | _ => simp [beq]
  | obj xs, b => by
    cases b with
    | obj ys => simpa [beq] using beqFields_iff xs ys
    | _ => simp [beq]
lemma beqList_iff : ∀ xs ys : List Json, beqList xs ys = true ↔ xs = ys
  | [], ys => by cases ys <;> simp [beqList]
  | x :: xs, ys => by
    cases ys with
    | nil => simp [beqList]
    | cons y ys => simp [beqList, beq_iff x y, beqList_iff xs ys]
lemma beqFields_iff : ∀ xs ys : Dict, beqFields xs ys = true ↔ xs = ys
  | [], ys => by cases ys <;> simp [beqFields]
  | (k, x) :: xs, ys => by
    cases ys with
    | nil => simp [beqFields]
    | cons y ys =>
      obtain ⟨l, y⟩ := y
      simp [beqFields, beq_iff x y, beqFields_iff xs ys, and_assoc]
end

instance : DecidableEq Json := fun a b => decidable_of_iff _ (beq_iff a b)

mutual
/-- The JSONB column accepts the value: `json.dumps` writes not-a-number as text that is not JSON. -/
def storable : Json → Bool
  | float .nan => false
  | arr xs => storableList xs
  | obj fs => storableFields fs
  | _ => true
def storableList : List Json → Bool
  | [] => true
  | x :: xs => storable x && storableList xs
def storableFields : Dict → Bool
  | [] => true
  | (_, x) :: fs => storable x && storableFields fs
end

mutual
/-- The value up to Python's `==`: `bool` and `int` are numbers, fields are sorted by name. -/
def norm : Json → Json
  | bool b => float (.num (if b then 1 else 0))
  | int i => float (.num i)
  | arr xs => arr (normList xs)
  | obj fs => obj ((normFields fs).insertionSort fun f g => f.1 ≤ g.1)
  | v => v
def normList : List Json → List Json
  | [] => []
  | x :: xs => norm x :: normList xs
def normFields : Dict → Dict
  | [] => []
  | (k, x) :: xs => (k, norm x) :: normFields xs
end

/-- Python's `a == b` on decoded JSON. -/
def pyEq (a b : Json) : Bool := decide (norm a = norm b)

@[simp] lemma pyEq_iff {a b : Json} : pyEq a b = true ↔ norm a = norm b := by simp [pyEq]

/-- `bool(value)`. -/
def truthy : Json → Bool
  | null => false
  | bool b => b
  | int i => i != 0
  | float x => decide (x ≠ .num 0)
  | str s => s != ""
  | arr xs => !xs.isEmpty
  | obj fs => !fs.isEmpty

/-- `a or b`. -/
def orElse (a b : Json) : Json := if a.truthy then a else b

/-- A string, or `None`. -/
def ofText? : Option String → Json
  | some s => str s
  | none => null

end Json

namespace Dict

/-- `d.get(k, default)`. -/
def getD (d : Dict) (k : String) (default : Json) : Json := (Assoc.get d k).getD default

/-- `d.get(k)`. -/
def get (d : Dict) (k : String) : Json := d.getD k .null

/-- `d[k] = v`. -/
def set (d : Dict) (k : String) (v : Json) : Dict := Assoc.set d k v

/-- `d.update(e)`, and `{**d, **e}`. -/
def update (d e : Dict) : Dict := e.foldl (fun d f => d.set f.1 f.2) d

@[simp] lemma get_set_self {d : Dict} {k v} : (d.set k v).get k = v := by
  simp [get, getD, set]

lemma get_set_ne {d : Dict} {k l v} (ne : k ≠ l) : (d.set k v).get l = d.get l := by
  simp [get, getD, set, Assoc.get_set_ne ne]

lemma get_set {d : Dict} {k l v} : (d.set k v).get l = if k = l then v else d.get l := by
  split
  case isTrue e => rw [e, get_set_self]
  case isFalse ne => exact get_set_ne ne

lemma get_update_of_not_mem {d e : Dict} {k} (h : ∀ f ∈ e, f.1 ≠ k) :
    (d.update e).get k = d.get k := by
  induction e generalizing d with
  | nil => rfl
  | cons f e ih =>
    have tail := ih (d := d.set f.1 f.2) fun g hg => h g (List.mem_cons_of_mem _ hg)
    exact tail.trans (get_set_ne (h f List.mem_cons_self))

end Dict

end Postmortem
