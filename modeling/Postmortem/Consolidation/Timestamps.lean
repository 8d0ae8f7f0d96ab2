import Mathlib.Algebra.Order.Field.Basic
import Mathlib.Algebra.Order.Ring.Rat
import Mathlib.Data.Int.Cast.Lemmas
import Mathlib.Tactic.NormNum
import Postmortem.Consolidation.Contracts
import Postmortem.Data.Texts

/-!
# Change timestamps

`_parse_change_timestamp` and `change_timestamp_datetime` of `consolidation/postmortem_consolidation/contracts.py`. A
change timestamp is a wall time in nanoseconds with a logical counter, or a time of the fixtures in the extended format.
Both are compared as decimals.
-/

namespace Postmortem

open Python Numerals Calendar

/-- `wall_time_ns`, from the days, the seconds and the microseconds of a `timedelta` since the epoch. -/
def wallTimeNs (sinceEpoch : Timestamp) : Int :=
  let days := sinceEpoch / dayMicros
  let seconds := sinceEpoch % dayMicros / 1000000
  let microseconds := sinceEpoch % dayMicros % 1000000
  days * 86400000000000 + seconds * 1000000000 + microseconds * 1000

/-- The first second of a year, also outside the years of `datetime`. -/
def yearStart (year : Int) : Int :=
  let before := year - 1
  (365 * before + before / 4 - before / 100 + before / 400 - 719162) * 86400

/-- `datetime.fromtimestamp(seconds, tz=timezone.utc)`: a `time_t` has 64 bits and the years of `gmtime` 32, after 1900.
The message of the last error names the year. -/
def fromTimestamp (seconds : Int) : Except Raised Timestamp :=
  if inYears (seconds * 1000000) then .ok (seconds * 1000000)
  else if seconds < -2 ^ 63 ∨ 2 ^ 63 ≤ seconds then
    .error ⟨.OverflowError, "timestamp out of range for platform time_t", none, none⟩
  else if seconds < yearStart (1900 - 2 ^ 31) ∨ yearStart (1900 + 2 ^ 31) ≤ seconds then
    .error ⟨.other "OSError", "[Errno 75] Value too large for defined data type", none, none⟩
  else .error ⟨.ValueError, "year is out of range", none, none⟩

/-- `change_timestamp_datetime` -/
def changeTimestampDatetime (value : Decimal) : Except Raised Timestamp := do
  let wallTimeNs ← value.toInt?
  let seconds := wallTimeNs / 1000000000
  let remainderNs := wallTimeNs % 1000000000
  let whole ← fromTimestamp seconds
  return whole + remainderNs / 1000

/-- A wall time with a logical counter of ten digits, as CockroachDB prints it. -/
structure Hlc where
  wall : List Char
  logical : List Char
  full : wall ≠ []
  width : logical.length = 10
  digits : ∀ c ∈ wall ++ logical, c.isDigit = true

def Hlc.text (h : Hlc) : String := String.ofList (h.wall ++ '.' :: h.logical)

/-- A change timestamp. -/
inductive ChangeStamp where
  | hlc (h : Hlc)
  | iso (t : IsoTime) (inYears : inYears t.instant = true)

def ChangeStamp.text : ChangeStamp → String
  | hlc h => h.text
  | iso t _ => t.text

/-- The wall time; a time of the fixtures has the logical counter zero. -/
def ChangeStamp.wall : ChangeStamp → Int
  | hlc h => value h.wall
  | iso t _ => t.instant * 1000

def ChangeStamp.logical : ChangeStamp → Nat
  | hlc h => value h.logical
  | iso _ _ => 0

section stamps

variable {rt : Runtime} {digit : Char → Option (Fin 10)} {field : String} {t : IsoTime} {instant : Int}

/-- The sum is the time in nanoseconds. -/
lemma wallTimeNs_eq : wallTimeNs instant = instant * 1000 := by
  unfold wallTimeNs dayMicros
  dsimp only
  omega

lemma colon_text : ':' ∈ t.text.toList := by
  simp [IsoTime.text, Clock.text]

lemma ne_empty {s : String} {c : Char} (h : c ∈ s.toList) : s ≠ "" := by
  rintro rfl
  cases h

/-- A time of the fixtures is a whole number of nanoseconds. -/
lemma parseChangeTimestamp_iso (years : inYears t.instant = true) :
    parseChangeTimestamp (rt.reading digit) (.str t.text) field = .ok (.ofInt (wallTimeNs t.instant)) := by
  have full : t.text ≠ "" := ne_empty colon_text
  have undecimal : (rt.reading digit).decimalOfText t.text = none := by
    rw [reading_decimalOfText, decimalOfText_colon colon_text]
  have parsed : parseTimestamp (rt.reading digit) (.str t.text) field = .ok t.instant := by
    unfold parseTimestamp
    dsimp only
    rw [if_neg full, reading_fromIsoformat readIso_text, if_pos years]
  unfold parseChangeTimestamp
  dsimp only
  rw [if_neg full, undecimal, parsed, wallTimeNs_eq]

lemma parseChangeTimestamp_hlc {h : Hlc} :
    parseChangeTimestamp (rt.reading digit) (.str h.text) field = .ok (.finite false (value (h.wall ++ h.logical)) (-10)) := by
  have full : h.text ≠ "" := by
    apply ne_empty (c := '.')
    simp [Hlc.text]
  have decimal : (rt.reading digit).decimalOfText h.text = some (.finite false (value (h.wall ++ h.logical)) (-10)) := by
    have digits : ∀ c ∈ h.wall, c.isDigit = true := fun c mem => h.digits c (List.mem_append_left _ mem)
    have digits' : ∀ c ∈ h.logical, c.isDigit = true := fun c mem => h.digits c (List.mem_append_right _ mem)
    rw [reading_decimalOfText, Hlc.text, decimalOfText_point h.full digits digits', h.width]
    rfl
  unfold parseChangeTimestamp
  dsimp only
  rw [if_neg full, decimal]

lemma value_ofInt {i : Int} : Decimal.value (i < 0) i.natAbs 0 = i := by
  have one : Decimal.pow10 0 = 1 := by simp [Decimal.pow10]
  unfold Decimal.value
  rw [one, mul_one]
  split
  case isTrue negative =>
    have less : i < 0 := of_decide_eq_true negative
    rw [← Int.cast_natCast, ← Int.cast_neg]
    congr 1
    omega
  case isFalse positive =>
    have least : ¬ i < 0 := fun less => positive (decide_eq_true less)
    rw [← Int.cast_natCast]
    congr 1
    omega

lemma toInt_ofInt {i : Int} : (Decimal.ofInt i).toInt? = .ok i := by
  unfold Decimal.ofInt Decimal.toInt?
  dsimp only
  rw [value_ofInt, Rat.num_intCast, Rat.den_intCast]
  simp

/-- Whole microseconds come back. -/
lemma changeTimestampDatetime_ofInt (years : inYears instant = true) :
    changeTimestampDatetime (.ofInt (instant * 1000)) = .ok instant := by
  have second : inYears (instant * 1000 / 1000000000 * 1000000) = true := by
    have same : instant * 1000 / 1000000000 * 1000000 / dayMicros = instant / dayMicros := by
      unfold dayMicros
      omega
    unfold inYears at years ⊢
    rwa [same]
  unfold changeTimestampDatetime fromTimestamp
  rw [toInt_ofInt]
  have sum : instant * 1000 / 1000000000 * 1000000 + instant * 1000 % 1000000000 / 1000 = instant := by omega
  exact bind_ok_iff.mpr ⟨_, rfl, bind_ok_iff.mpr ⟨_, if_pos second, congrArg Except.ok sum⟩⟩

/-- A time of `datetime` in the extended format, with any offset that leaves it in the calendar. -/
lemma exists_isoTime {zone : Zone} (years : inYears (instant + zone.micros) = true) :
    ∃ t : IsoTime, t.zone = zone ∧ t.instant = instant := by
  have bounds : 1 ≤ (instant + zone.micros) / dayMicros + epoch ∧ (instant + zone.micros) / dayMicros + epoch ≤ maxOrdinal := by
    unfold inYears at years
    rwa [Bool.and_eq_true, decide_eq_true_iff, decide_eq_true_iff] at years
  generalize at' : instant + zone.micros = local' at bounds
  obtain ⟨date, ordinal⟩ := @Date.ordinal_surjective (local' / dayMicros + epoch).toNat (by omega) (by omega)
  have nonneg : 0 ≤ local' % dayMicros := Int.emod_nonneg _ (by decide)
  have less : local' % dayMicros < 86400000000 := Int.emod_lt_of_pos _ (by decide)
  generalize micros : (local' % dayMicros).toNat = m
  have clock : ∃ clock : Clock, clock.micros = m := by
    refine ⟨⟨m / 3600000000, m / 60000000 % 60, .fraction (m / 1000000 % 60) 6 (m % 1000000), by omega, by omega, ?_⟩, ?_⟩
    · exact ⟨by omega, by omega, by omega, by omega⟩
    · show m / 3600000000 * 3600000000 + m / 60000000 % 60 * 60000000 + (m / 1000000 % 60 * 1000000 + m % 1000000 * 1) = m
      omega
  obtain ⟨clock, same⟩ := clock
  refine ⟨⟨date, clock, zone⟩, rfl, ?_⟩
  have split := Int.mul_ediv_add_emod local' dayMicros
  show ((date.ordinal : Int) - epoch) * dayMicros + clock.micros - zone.micros = instant
  rw [ordinal, same, ← micros, Int.toNat_of_nonneg nonneg, Int.toNat_of_nonneg (by omega), Int.add_sub_cancel,
    Int.mul_comm]
  omega

/-! ## The order -/

/-- The number that a change timestamp is. -/
lemma parseChangeTimestamp_value (a : ChangeStamp) : ∃ negative coefficient exponent,
    parseChangeTimestamp (rt.reading digit) (.str a.text) field = .ok (.finite negative coefficient exponent) ∧
      Decimal.value negative coefficient exponent = a.wall + (a.logical : ℚ) / 10 ^ 10 := by
  cases a with
  | hlc h =>
    refine ⟨_, _, _, parseChangeTimestamp_hlc, ?_⟩
    have power : Decimal.pow10 (-10) = 1 / 10 ^ 10 := by
      show 1 / (((10 ^ 10 : Nat) : ℚ)) = _
      push_cast
      rfl
    unfold Decimal.value
    rw [power, value_append, h.width]
    simp only [ChangeStamp.wall, ChangeStamp.logical, Bool.false_eq_true, if_false]
    push_cast
    ring
  | iso t years =>
    refine ⟨_, _, _, parseChangeTimestamp_iso years, ?_⟩
    rw [value_ofInt, wallTimeNs_eq]
    simp [ChangeStamp.wall, ChangeStamp.logical]

lemma logical_lt (a : ChangeStamp) : a.logical < 10 ^ 10 := by
  cases a with
  | hlc h =>
    have bound := value_lt fun c mem => h.digits c (List.mem_append_right _ mem)
    rwa [h.width] at bound
  | iso t years => exact Nat.pow_pos (by omega)

/-- Fractions of less than one unit do not count against a unit. -/
lemma parts_le {w w' : Int} {l l' : Nat} (low : l < 10 ^ 10) (low' : l' < 10 ^ 10) :
    (w : ℚ) + (l : ℚ) / 10 ^ 10 ≤ w' + (l' : ℚ) / 10 ^ 10 ↔ w < w' ∨ w = w' ∧ l ≤ l' := by
  have scale (a : Int) (b : Nat) : (a : ℚ) + (b : ℚ) / 10 ^ 10 = ((a * 10 ^ 10 + b : Int) : ℚ) / 10 ^ 10 := by
    push_cast
    ring
  rw [scale, scale, div_le_div_iff_of_pos_right (by norm_num), Int.cast_le]
  omega

end stamps

/-- A time of `datetime` in the extended format is parsed to a decimal that is mapped back to that time, and every time
of `datetime` is written so; and change timestamps are ordered by wall time and, for one wall time, by logical
counter. -/
theorem change_timestamps (rt : Runtime) (digit : Char → Option (Fin 10)) (field : String) :
    (∀ t : IsoTime, inYears t.instant = true → ∃ d,
      parseChangeTimestamp (rt.reading digit) (.str t.text) field = .ok d ∧ changeTimestampDatetime d = .ok t.instant) ∧
    (∀ instant zone, inYears (instant + zone.micros) = true → ∃ t : IsoTime, t.zone = zone ∧ t.instant = instant) ∧
    ∀ a b : ChangeStamp, ∃ d d',
      parseChangeTimestamp (rt.reading digit) (.str a.text) field = .ok d ∧
      parseChangeTimestamp (rt.reading digit) (.str b.text) field = .ok d' ∧
      (d.le d' = true ↔ a.wall < b.wall ∨ a.wall = b.wall ∧ a.logical ≤ b.logical) := by
  refine ⟨?_, fun instant zone => exists_isoTime, ?_⟩
  · intro t years
    refine ⟨_, parseChangeTimestamp_iso years, ?_⟩
    rw [wallTimeNs_eq]
    exact changeTimestampDatetime_ofInt years
  · intro a b
    obtain ⟨n, c, e, parsed, value⟩ := @parseChangeTimestamp_value rt digit field a
    obtain ⟨n', c', e', parsed', value'⟩ := @parseChangeTimestamp_value rt digit field b
    refine ⟨_, _, parsed, parsed', ?_⟩
    unfold Decimal.le
    dsimp only
    rw [decide_eq_true_iff, value, value']
    exact parts_le (logical_lt a) (logical_lt b)

/-- A time of the fixtures, and a time of the changefeed in the nanosecond after it. -/
theorem change_timestamps_sample :
    let t : IsoTime := ⟨⟨2026, 7, 30, by decide⟩, ⟨3, 2, .fraction 11 3 470, by decide⟩, .zulu⟩
    let h : Hlc := ⟨"1785380531470000001".toList, "0000000000".toList, by decide +kernel, by decide +kernel,
      List.all_eq_true.mp (by decide +kernel)⟩
    t.text = "2026-07-30T03:02:11.470Z" ∧ h.text = "1785380531470000001.0000000000" ∧
      (∃ d, parseChangeTimestamp (Runtime.sample.reading fun _ => none) (.str t.text) "updated" = .ok d ∧
        changeTimestampDatetime d = .ok 1785380531470000) ∧
      ∃ d d', parseChangeTimestamp (Runtime.sample.reading fun _ => none) (.str t.text) "updated" = .ok d ∧
        parseChangeTimestamp (Runtime.sample.reading fun _ => none) (.str h.text) "updated" = .ok d' ∧ d.le d' = true := by
  intro t h
  have years : inYears t.instant = true := by decide +kernel
  obtain ⟨back, _, order⟩ := change_timestamps Runtime.sample (fun _ => none) "updated"
  have instant : t.instant = 1785380531470000 := by decide +kernel
  obtain ⟨d, parsed, same⟩ := back t years
  rw [instant] at same
  obtain ⟨e, e', parsed', read, compared⟩ := order (.iso t years) (.hlc h)
  have before : t.instant * 1000 < value h.wall := by decide +kernel
  exact ⟨by decide +kernel, by decide +kernel, ⟨d, parsed, same⟩, e, e', parsed', read, compared.mpr (.inl before)⟩

/-- The last minute of 9999 an hour behind UTC is a time of the year 10000. -/
theorem late_change_timestamp :
    let t : IsoTime := ⟨⟨9999, 12, 31, by decide⟩, ⟨23, 59, .whole 0, by decide⟩, .behind ⟨1, 0, .absent, by decide⟩⟩
    t.text = "9999-12-31T23:59:00-01:00" ∧ 0 ≤ t.instant ∧
      parseChangeTimestamp (Runtime.sample.reading fun _ => none) (.str t.text) "updated" =
        .error ⟨.OverflowError, "date value out of range", none, none⟩ := by
  decide +kernel

end Postmortem
