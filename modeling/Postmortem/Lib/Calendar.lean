import Mathlib.Algebra.BigOperators.Group.List.Basic
import Mathlib.Algebra.GroupWithZero.Nat
import Mathlib.Data.List.Range
import Mathlib.Tactic.Lemma

/-!
# The calendar

Dates of the Gregorian calendar in the years 1 to 9999, and their ordinals: 1 January of year 1 is day 1, and the days
follow one another (`Date.ordinal_surjective`).
-/

namespace Calendar

/-- `calendar.isleap` -/
def isLeap (year : Nat) : Bool := year % 4 = 0 && (year % 100 ≠ 0 || year % 400 = 0)

/-- The days of a month. -/
def daysInMonth (year month : Nat) : Nat :=
  if month = 2 then if isLeap year then 29 else 28
  else if month = 4 ∨ month = 6 ∨ month = 9 ∨ month = 11 then 30
  else 31

/-- The days before 1 January of the year. -/
def daysBeforeYear (year : Nat) : Nat := (year - 1) * 365 + (year - 1) / 4 - (year - 1) / 100 + (year - 1) / 400

/-- The days of the year before the first of the month. -/
def daysBeforeMonth (year month : Nat) : Nat := ((List.range' 1 (month - 1)).map (daysInMonth year)).sum

/-- `date.toordinal` -/
def toordinal (year month day : Nat) : Nat := daysBeforeYear year + daysBeforeMonth year month + day

/-- The last day of 9999. -/
def maxOrdinal : Nat := 3652059

/-- There is such a date. -/
def IsDate (year month day : Nat) : Prop :=
  1 ≤ year ∧ year ≤ 9999 ∧ 1 ≤ month ∧ month ≤ 12 ∧ 1 ≤ day ∧ day ≤ daysInMonth year month

instance (year month day : Nat) : Decidable (IsDate year month day) := inferInstanceAs (Decidable (_ ∧ _))

/-- A date of the calendar. -/
structure Date where
  year : Nat
  month : Nat
  day : Nat
  exists' : IsDate year month day

def Date.ordinal (d : Date) : Nat := toordinal d.year d.month d.day

variable {year month n : Nat}

lemma daysInMonth_pos : 1 ≤ daysInMonth year month := by
  unfold daysInMonth
  split_ifs
  all_goals omega

lemma daysBeforeMonth_one : daysBeforeMonth year 1 = 0 := rfl

lemma daysBeforeMonth_succ (h : 1 ≤ month) :
    daysBeforeMonth year (month + 1) = daysBeforeMonth year month + daysInMonth year month := by
  obtain ⟨k, rfl⟩ := Nat.exists_eq_add_of_le h
  unfold daysBeforeMonth
  rw [show 1 + k + 1 - 1 = k + 1 from by omega, show 1 + k - 1 = k from by omega, List.range'_concat, List.map_append,
    List.sum_append, Nat.one_mul]
  simp

/-- The days of the months of a year. -/
lemma daysInYear : daysBeforeMonth year 12 + daysInMonth year 12 = if isLeap year then 366 else 365 := by
  unfold daysBeforeMonth daysInMonth
  cases isLeap year with
  | true => rfl
  | false => rfl

/-- The year after one with so many years before it. -/
lemma daysBeforeYear_add {k : Nat} :
    daysBeforeYear (k + 1 + 1) = daysBeforeYear (k + 1) + if isLeap (k + 1) then 366 else 365 := by
  have fewer : k / 100 ≤ k / 4 := Nat.div_le_div_left (by omega) (by omega)
  have century : 100 ∣ k + 1 → 4 ∣ k + 1 := Nat.dvd_trans (by decide)
  have centuries : 400 ∣ k + 1 → 100 ∣ k + 1 := Nat.dvd_trans (by decide)
  have leap : isLeap (k + 1) = true ↔ 4 ∣ k + 1 ∧ (¬ 100 ∣ k + 1 ∨ 400 ∣ k + 1) := by
    simp [isLeap, Nat.dvd_iff_mod_eq_zero]
  unfold daysBeforeYear
  rw [Nat.add_sub_cancel, Nat.add_sub_cancel, Nat.succ_div, Nat.succ_div, Nat.succ_div, Nat.add_mul]
  simp only [leap]
  generalize k / 4 = a at fewer ⊢
  generalize k / 100 = b at fewer ⊢
  generalize k / 400 = c
  by_cases four : 4 ∣ k + 1
  · by_cases hundred : 100 ∣ k + 1
    · by_cases fourHundred : 400 ∣ k + 1
      · rw [if_pos four, if_pos hundred, if_pos fourHundred, if_pos ⟨four, .inr fourHundred⟩]
        omega
      · rw [if_pos four, if_pos hundred, if_neg fourHundred, if_neg fun rule => rule.2.elim (· hundred) fourHundred]
        omega
    · rw [if_pos four, if_neg hundred, if_neg (mt centuries hundred), if_pos ⟨four, .inl hundred⟩]
      omega
  · rw [if_neg four, if_neg (mt century four), if_neg (mt centuries (mt century four)), if_neg fun rule => four rule.1]
    omega

/-- The days of the months make the year. -/
lemma daysBeforeYear_succ (h : 1 ≤ year) :
    daysBeforeYear (year + 1) = daysBeforeYear year + daysBeforeMonth year 12 + daysInMonth year 12 := by
  obtain ⟨k, rfl⟩ := Nat.exists_eq_add_of_le' h
  rw [Nat.add_assoc (daysBeforeYear _), daysInYear, daysBeforeYear_add]

/-- A year after the last one is beyond the last day. -/
lemma year_le {day : Nat} (high : toordinal year month day ≤ maxOrdinal) (d : 1 ≤ day) : year ≤ 9999 := by
  unfold toordinal daysBeforeYear maxOrdinal at high
  omega

/-- Every day up to the last has a date. -/
lemma Date.ordinal_surjective (low : 1 ≤ n) (high : n ≤ maxOrdinal) : ∃ d : Date, d.ordinal = n := by
  induction n with
  | zero => omega
  | succ n ih =>
    cases n with
    | zero => exact ⟨⟨1, 1, 1, by decide⟩, rfl⟩
    | succ n =>
      obtain ⟨⟨year, month, day, y, y', m, m', d, d'⟩, here⟩ := ih (by omega) (by omega)
      have today : toordinal year month day = n + 1 := here
      -- tomorrow is the next day of the month, the first of the next month, or New Year
      rcases Nat.lt_or_ge day (daysInMonth year month) with inside | last
      · refine ⟨⟨year, month, day + 1, y, y', m, m', by omega, inside⟩, ?_⟩
        rw [← today]
        rfl
      · have full : day = daysInMonth year month := by omega
        rcases Nat.lt_or_ge month 12 with inside | december
        · refine ⟨⟨year, month + 1, 1, y, y', by omega, inside, by omega, daysInMonth_pos⟩, ?_⟩
          show toordinal year (month + 1) 1 = n + 1 + 1
          unfold toordinal at today ⊢
          rw [daysBeforeMonth_succ m]
          omega
        · obtain rfl : month = 12 := by omega
          have next : toordinal (year + 1) 1 1 = n + 1 + 1 := by
            unfold toordinal at today ⊢
            rw [daysBeforeYear_succ y, daysBeforeMonth_one]
            omega
          refine ⟨⟨year + 1, 1, 1, by omega, year_le (next.trans_le high) le_rfl, le_rfl, by omega, le_rfl, daysInMonth_pos⟩, next⟩

end Calendar
