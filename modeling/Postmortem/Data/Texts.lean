import Mathlib.Data.List.TakeWhile
import Postmortem.Data.Python
import Postmortem.Lib.Calendar
import Postmortem.Lib.Numerals

/-!
# Numbers and times in texts

`Decimal(text)`, and `datetime.fromisoformat` of the extended format: a date of the calendar, a time of day and an
offset. `Runtime.reading` has the two in the place of the library's; the other formats of `fromisoformat` stay the
library's.
-/

namespace Postmortem

open Numerals Calendar

namespace Python

/-! ## Decimals -/

/-- A decimal digit of Unicode as an ASCII digit. -/
def ascii (digit : Char → Option (Fin 10)) (c : Char) : Char :=
  if c.toNat < 128 then c
  else
    match digit c with
    | some d => Nat.digitChar d
    | none => c

/-- The sign before a number. -/
def sign : List Char → Bool × List Char
  | '-' :: l => (true, l)
  | '+' :: l => (false, l)
  | l => (false, l)

/-- The digits after the point, and what follows. -/
def fraction : List Char → List Char × List Char
  | '.' :: l => (l.takeWhile Char.isDigit, l.dropWhile Char.isDigit)
  | l => ([], l)

/-- The exponent after the digits. -/
def exponent : List Char → Option Int
  | [] => some 0
  | c :: l =>
    let (negative, digits) := sign l
    if (c = 'e' ∨ c = 'E') ∧ digits ≠ [] ∧ digits.all Char.isDigit then
      some (if negative then -(value digits : Int) else value digits)
    else none

/-- The exponent, with so many digits before it, is in the range of the decimals. -/
def inLimits (digits : Nat) (e : Int) : Prop := -1999999999999999997 ≤ e ∧ e + digits - 1 ≤ 999999999999999999

instance (digits : Nat) (e : Int) : Decidable (inLimits digits e) := inferInstanceAs (Decidable (_ ∧ _))

/-- The digits of the coefficient, which begins with no zero, or is one. -/
def significant (digits : List Char) : Nat := max 1 (digits.dropWhile (· = '0')).length

/-- A number after its sign. -/
def number (negative : Bool) (l : List Char) : Option Decimal :=
  let integral := l.takeWhile Char.isDigit
  let (fractional, rest) := fraction (l.dropWhile Char.isDigit)
  let digits := integral ++ fractional
  if digits = [] then none
  else
    match exponent rest with
    | none => none
    | some e =>
      if rest ≠ [] ∧ ¬ inLimits (significant digits) (e - fractional.length) then none
      else some (.finite negative (value digits) (e - fractional.length))

/-- `"inf"`, `"infinity"`, `"nan"` and `"snan"`, the latter two with a payload. -/
def special (negative : Bool) (l : List Char) : Option Decimal :=
  let word := l.map Char.toLower
  if word = "inf".toList ∨ word = "infinity".toList then some (.infinity negative)
  else if "nan".toList <+: word ∧ (l.drop 3).all Char.isDigit ∨ "snan".toList <+: word ∧ (l.drop 4).all Char.isDigit then
    some .nan
  else none

/-- `Decimal(text)`; `digit` is `unicodedata.decimal`, and `none` is `InvalidOperation`. -/
def decimalOfText (digit : Char → Option (Fin 10)) (s : String) : Option Decimal :=
  let (negative, l) := sign (((strip s).toList.filter (· ≠ '_')).map (ascii digit))
  (special negative l).or (number negative l)

/-! ## Times -/

/-- The digits after the point, of which microseconds count. -/
def readMicros (l : List Char) : Option (Nat × List Char) :=
  let digits := l.takeWhile Char.isDigit
  let micros := digits.take 6
  if digits = [] then none else some (value micros * 10 ^ (6 - micros.length), l.dropWhile Char.isDigit)

/-- The fraction of a second. -/
def readFraction : List Char → Option (Nat × List Char)
  | c :: l => if c = '.' ∨ c = ',' then readMicros l else some (0, c :: l)
  | [] => some (0, [])

/-- The seconds after the minutes, in microseconds. -/
def readSeconds : List Char → Option (Nat × List Char)
  | ':' :: l => do
    let (second, l) ← Numerals.read 2 l
    let (micros, l) ← readFraction l
    if second < 60 then some (second * 1000000 + micros, l) else none
  | l => some (0, l)

/-- Reads a character. -/
def expect (c : Char) : List Char → Option (List Char)
  | d :: l => if d = c then some l else none
  | [] => none

/-- A time of day, in microseconds. -/
def readClock (l : List Char) : Option (Nat × List Char) := do
  let (hour, l) ← Numerals.read 2 l
  let l ← expect ':' l
  let (minute, l) ← Numerals.read 2 l
  let (seconds, l) ← readSeconds l
  if hour < 24 ∧ minute < 60 then some (hour * 3600000000 + minute * 60000000 + seconds, l) else none

/-- A date, as its ordinal. -/
def readDate (l : List Char) : Option (Nat × List Char) := do
  let (year, l) ← Numerals.read 4 l
  let l ← expect '-' l
  let (month, l) ← Numerals.read 2 l
  let l ← expect '-' l
  let (day, l) ← Numerals.read 2 l
  if IsDate year month day then some (toordinal year month day, l) else none

/-- The offset at the end of the text. -/
def readOffset : List Char → Option Int
  | [] => some 0
  | ['Z'] => some 0
  | '+' :: l =>
    match readClock l with
    | some (micros, []) => some micros
    | _ => none
  | '-' :: l =>
    match readClock l with
    | some (micros, []) => some (-micros)
    | _ => none
  | _ => none

/-- The microseconds of a day. -/
def dayMicros : Int := 86400000000

/-- `date.toordinal` of 1 January 1970. -/
def epoch : Int := 719163

/-- `datetime.fromisoformat` and `astimezone` of a text of the extended format. -/
def readIso (s : String) : Option Timestamp := do
  let (day, l) ← readDate s.toList
  let (micros, l) ← readClock l.tail
  let offset ← readOffset l
  some ((day - epoch) * dayMicros + micros - offset)

/-- An instant whose UTC year is one of `datetime`. -/
def inYears (t : Timestamp) : Bool := 1 ≤ t / dayMicros + epoch && t / dayMicros + epoch ≤ maxOrdinal

end Python

/-! ## Written times -/

/-- The seconds of a written time of day: none, whole ones, or with a fraction of so many digits. -/
inductive Seconds where
  | absent
  | whole (second : Nat)
  | fraction (second width part : Nat)

def Seconds.InMinute : Seconds → Prop
  | absent => True
  | whole second => second < 60
  | fraction second width part => second < 60 ∧ 1 ≤ width ∧ width ≤ 6 ∧ part < 10 ^ width

instance (s : Seconds) : Decidable s.InMinute :=
  match s with
  | .absent => isTrue trivial
  | .whole _ => inferInstanceAs (Decidable (_ < _))
  | .fraction .. => inferInstanceAs (Decidable (_ ∧ _))

def Seconds.micros : Seconds → Nat
  | absent => 0
  | whole second => second * 1000000
  | fraction second width part => second * 1000000 + part * 10 ^ (6 - width)

def Seconds.text : Seconds → List Char
  | absent => []
  | whole second => ':' :: padded 2 second
  | fraction second width part => ':' :: padded 2 second ++ '.' :: padded width part

/-- A written time of day, or the amount of an offset. -/
structure Clock where
  hour : Nat
  minute : Nat
  seconds : Seconds
  inDay : hour < 24 ∧ minute < 60 ∧ seconds.InMinute

def Clock.micros (c : Clock) : Nat := c.hour * 3600000000 + c.minute * 60000000 + c.seconds.micros

def Clock.text (c : Clock) : List Char := padded 2 c.hour ++ ':' :: padded 2 c.minute ++ c.seconds.text

def Clock.midnight : Clock := ⟨0, 0, .absent, by decide, by decide, trivial⟩

/-- A written offset. -/
inductive Zone where
  | zulu
  | ahead (offset : Clock)
  | behind (offset : Clock)

def Zone.micros : Zone → Int
  | zulu => 0
  | ahead offset => offset.micros
  | behind offset => -offset.micros

def Zone.text : Zone → List Char
  | zulu => ['Z']
  | ahead offset => '+' :: offset.text
  | behind offset => '-' :: offset.text

/-- A time in the extended format: calendar date, time of day and offset. -/
structure IsoTime where
  date : Date
  clock : Clock
  zone : Zone

/-- The instant that is meant. -/
def IsoTime.instant (t : IsoTime) : Timestamp :=
  (t.date.ordinal - Python.epoch) * Python.dayMicros + t.clock.micros - t.zone.micros

def dateText (d : Date) : List Char := padded 4 d.year ++ '-' :: padded 2 d.month ++ '-' :: padded 2 d.day

def IsoTime.text (t : IsoTime) : String := String.ofList (dateText t.date ++ 'T' :: t.clock.text ++ t.zone.text)

/-- The library with the reading of decimals and of times in the extended format. -/
def Runtime.reading (rt : Runtime) (digit : Char → Option (Fin 10)) : Runtime :=
  { rt with
    decimalOfText := Python.decimalOfText digit
    fromIsoformat := fun s =>
      match Python.readIso s with
      | some t => if Python.inYears t then some t else none
      | none => rt.fromIsoformat s
    isoOverflows := fun s =>
      match Python.readIso s with
      | some t => !Python.inYears t
      | none => rt.isoOverflows s }

namespace Python

section written

variable {c : Char} {l rest : List Char} {n : Nat}

/-- An offset or nothing follows. -/
def Ends (rest : List Char) : Prop := ∀ c, rest.head? = some c → c = '+' ∨ c = '-'

/-- A step of a reader. -/
lemma some_bind {α β : Type} {x : Option α} {f : α → Option β} {a : α} {b : Option β} (read : x = some a) (rest : f a = b) :
    (x >>= f) = b := by
  rw [read]
  exact rest

lemma expect_cons : expect c (c :: l) = some l := if_pos rfl

lemma readFraction_ends (ends : Ends rest) : readFraction rest = some (0, rest) := by
  cases rest with
  | nil => rfl
  | cons c l =>
    apply if_neg
    rcases ends c rfl with rfl | rfl
    · decide
    · decide

lemma takeWhile_ends (digits : ∀ c ∈ l, c.isDigit = true) (ends : Ends rest) :
    (l ++ rest).takeWhile Char.isDigit = l ∧ (l ++ rest).dropWhile Char.isDigit = rest := by
  rw [List.takeWhile_append_of_pos digits, List.dropWhile_append_of_pos digits]
  cases rest with
  | nil => exact ⟨List.append_nil _, rfl⟩
  | cons c rest =>
    rcases ends c rfl with rfl | rfl
    · exact ⟨List.append_nil _, rfl⟩
    · exact ⟨List.append_nil _, rfl⟩

lemma readFraction_padded {width part : Nat} (low : 1 ≤ width) (high : width ≤ 6) (fits : part < 10 ^ width)
    (ends : Ends rest) :
    readFraction ('.' :: padded width part ++ rest) = some (part * 10 ^ (6 - width), rest) := by
  obtain ⟨taken, dropped⟩ := takeWhile_ends (l := padded width part) isDigit_padded ends
  have size : (padded width part).length = width := length_padded
  have full : padded width part ≠ [] := by
    rw [← List.length_pos_iff, size]
    exact low
  have whole : (padded width part).take 6 = padded width part := List.take_of_length_le (by omega)
  show readMicros (padded width part ++ rest) = _
  unfold readMicros
  rw [taken, dropped, if_neg full, whole, size, value_padded fits]

lemma readSeconds_text {seconds : Seconds} (inMinute : seconds.InMinute) (ends : Ends rest) :
    readSeconds (seconds.text ++ rest) = some (seconds.micros, rest) := by
  cases seconds with
  | absent =>
    cases rest with
    | nil => rfl
    | cons c l =>
      rcases ends c rfl with rfl | rfl
      · rfl
      · rfl
  | whole second =>
    have less : second < 60 := inMinute
    apply some_bind (read_padded (by omega))
    apply some_bind (readFraction_ends ends)
    dsimp only
    rw [if_pos less, Nat.add_zero]
    rfl
  | fraction second width part =>
    obtain ⟨less, low, high, fits⟩ := inMinute
    have apart : (Seconds.fraction second width part).text ++ rest =
        ':' :: (padded 2 second ++ ('.' :: padded width part ++ rest)) := by
      simp [Seconds.text]
    rw [apart]
    apply some_bind (read_padded (by omega))
    apply some_bind (readFraction_padded low high fits ends)
    exact if_pos less

lemma readClock_text {clock : Clock} (ends : Ends rest) : readClock (clock.text ++ rest) = some (clock.micros, rest) := by
  obtain ⟨hour, minute, seconds, inDay⟩ := clock
  have apart : Clock.text ⟨hour, minute, seconds, inDay⟩ ++ rest =
      padded 2 hour ++ ':' :: (padded 2 minute ++ (seconds.text ++ rest)) := by
    simp [Clock.text]
  rw [apart]
  apply some_bind (read_padded (by omega))
  apply some_bind expect_cons
  apply some_bind (read_padded (by omega))
  apply some_bind (readSeconds_text inDay.2.2 ends)
  exact if_pos ⟨inDay.1, inDay.2.1⟩

lemma readDate_text {d : Date} : readDate (dateText d ++ rest) = some (d.ordinal, rest) := by
  obtain ⟨year, month, day, valid⟩ := d
  have inMonth : daysInMonth year month ≤ 31 := by
    unfold daysInMonth
    split_ifs
    all_goals omega
  have apart : dateText ⟨year, month, day, valid⟩ ++ rest =
      padded 4 year ++ '-' :: (padded 2 month ++ '-' :: (padded 2 day ++ rest)) := by
    simp [dateText]
  obtain ⟨_, y, _, m, _, d⟩ := id valid
  rw [apart]
  apply some_bind (read_padded (by omega))
  apply some_bind expect_cons
  apply some_bind (read_padded (by omega))
  apply some_bind expect_cons
  apply some_bind (read_padded (by omega))
  exact if_pos valid

/-- A `Z` is read as the offset zero. -/
def plain : Zone → Zone
  | .zulu => .ahead .midnight
  | zone => zone

lemma readOffset_text {zone : Zone} : readOffset (plain zone).text = some zone.micros := by
  have nothing : Ends [] := nofun
  have read {clock : Clock} : readClock clock.text = some (clock.micros, []) := by
    have end' := @readClock_text [] clock nothing
    rwa [List.append_nil] at end'
  cases zone with
  | zulu => rfl
  | ahead offset =>
    show (match readClock offset.text with | some (micros, []) => some (micros : Int) | _ => none) = _
    rw [read]
    rfl
  | behind offset =>
    show (match readClock offset.text with | some (micros, []) => some (-micros : Int) | _ => none) = _
    rw [read]
    rfl

lemma zulu_padded {width : Nat} : 'Z' ∉ padded width n := by
  intro mem
  cases isDigit_padded _ mem

lemma zulu_clock {clock : Clock} : 'Z' ∉ clock.text := by
  obtain ⟨hour, minute, seconds, _⟩ := clock
  cases seconds with
  | absent => simp [Clock.text, Seconds.text, zulu_padded]
  | whole second => simp [Clock.text, Seconds.text, zulu_padded]
  | fraction second width part => simp [Clock.text, Seconds.text, zulu_padded]

lemma replaceZ_append {l m : List Char} (none : 'Z' ∉ l) :
    (replaceZ (String.ofList (l ++ m))).toList = l ++ (replaceZ (String.ofList m)).toList := by
  unfold replaceZ
  simp only [String.toList_ofList, List.flatMap_append]
  congr 1
  induction l with
  | nil => rfl
  | cons c l ih =>
    have head : ¬ c = 'Z' := fun e => none (e ▸ List.mem_cons_self)
    have tail : 'Z' ∉ l := fun mem => none (List.mem_cons_of_mem _ mem)
    rw [List.flatMap_cons, if_neg head, ih tail]
    rfl

lemma replaceZ_zone {zone : Zone} : (replaceZ (String.ofList zone.text)).toList = (plain zone).text := by
  have kept (l : List Char) (none : 'Z' ∉ l) : (replaceZ (String.ofList l)).toList = l := by
    have whole := replaceZ_append (m := []) none
    rw [List.append_nil] at whole
    exact whole.trans (List.append_nil _)
  cases zone with
  | zulu => decide +kernel
  | ahead offset => exact kept _ (by simp [Zone.text, zulu_clock])
  | behind offset => exact kept _ (by simp [Zone.text, zulu_clock])

lemma replaceZ_text {t : IsoTime} : (replaceZ t.text).toList = dateText t.date ++ 'T' :: (t.clock.text ++ (plain t.zone).text) := by
  have none : 'Z' ∉ dateText t.date ++ 'T' :: t.clock.text := by
    simp [dateText, zulu_padded, zulu_clock]
  unfold IsoTime.text
  rw [replaceZ_append none, replaceZ_zone, List.append_assoc]
  rfl

/-- A text of the extended format is read as its instant. -/
lemma readIso_text {t : IsoTime} : readIso (replaceZ t.text) = some t.instant := by
  have ends : Ends (plain t.zone).text := by
    intro c first
    cases zone : t.zone with
    | zulu =>
      rw [zone] at first
      exact .inl (Option.some.inj first).symm
    | ahead offset =>
      rw [zone] at first
      exact .inl (Option.some.inj first).symm
    | behind offset =>
      rw [zone] at first
      exact .inr (Option.some.inj first).symm
  unfold readIso
  rw [replaceZ_text]
  apply some_bind readDate_text
  apply some_bind (readClock_text ends)
  exact some_bind readOffset_text rfl

end written

/-! ## Texts that are decimals -/

section decimals

variable {digit : Char → Option (Fin 10)} {l rest : List Char} {negative : Bool}

lemma mem_sign {c : Char} (minus : c ≠ '-') (plus : c ≠ '+') (h : c ∈ l) : c ∈ (sign l).2 := by
  unfold sign
  split
  case h_1 => exact (List.mem_cons.mp h).resolve_left minus
  case h_2 => exact (List.mem_cons.mp h).resolve_left plus
  case h_3 => exact h

lemma exponent_colon (h : ':' ∈ l) : exponent l = none := by
  cases l with
  | nil => cases h
  | cons c l =>
    apply if_neg
    rintro ⟨letter, _, digits⟩
    rcases List.mem_cons.mp h with rfl | mem
    · rcases letter with e | e
      · cases e
      · cases e
    · cases List.all_eq_true.mp digits _ (mem_sign (by decide) (by decide) mem)

lemma mem_dropWhile {p : Char → Bool} {c : Char} (other : p c = false) (h : c ∈ l) : c ∈ l.dropWhile p := by
  rw [← List.takeWhile_append_dropWhile (p := p) (l := l)] at h
  rcases List.mem_append.mp h with front | back
  · cases other.symm.trans (List.all_eq_true.mp List.all_takeWhile _ front)
  · exact back

lemma number_colon (h : ':' ∈ l) : number negative l = none := by
  have rest : ':' ∈ (fraction (l.dropWhile Char.isDigit)).2 := by
    have here := mem_dropWhile (p := Char.isDigit) rfl h
    unfold fraction
    split
    case h_1 m e =>
      rw [e] at here
      exact mem_dropWhile rfl ((List.mem_cons.mp here).resolve_left (by decide))
    case h_2 => exact here
  unfold number
  dsimp only
  rw [exponent_colon rest]
  split
  case isTrue => rfl
  case isFalse => rfl

/-- A colon or a point is in none of the words. -/
lemma special_mark {c : Char} (mark : c = ':' ∨ c = '.') (h : c ∈ l) : special negative l = none := by
  have kept : c ∈ l.map Char.toLower := by
    refine List.mem_map.mpr ⟨c, h, ?_⟩
    rcases mark with rfl | rfl
    · rfl
    · rfl
  have other (w : List Char) (p : w <+: l.map Char.toLower) (lost : c ∉ w) : ¬ (l.drop w.length).all Char.isDigit = true := by
    intro digits
    rw [← List.take_append_drop w.length l] at h
    rcases List.mem_append.mp h with front | back
    · rw [List.prefix_iff_eq_take.mp p, ← List.map_take] at lost
      apply lost
      refine List.mem_map.mpr ⟨c, front, ?_⟩
      rcases mark with rfl | rfl
      · rfl
      · rfl
    · have digit := List.all_eq_true.mp digits _ back
      rcases mark with rfl | rfl
      · cases digit
      · cases digit
  have lost (w : List Char) (apart : ':' ∉ w ∧ '.' ∉ w) : c ∉ w := by
    rcases mark with rfl | rfl
    · exact apart.1
    · exact apart.2
  unfold special
  dsimp only
  rw [if_neg, if_neg]
  · rintro (⟨nan, digits⟩ | ⟨snan, digits⟩)
    · exact other _ nan (lost _ (by decide)) digits
    · exact other _ snan (lost _ (by decide)) digits
  · rintro (inf | infinity)
    · rw [inf] at kept
      exact lost _ (by decide) kept
    · rw [infinity] at kept
      exact lost _ (by decide) kept

/-- A text with a colon is not a decimal. -/
lemma decimalOfText_colon {s : String} (h : ':' ∈ s.toList) : decimalOfText digit s = none := by
  have stripped : ':' ∈ (strip s).toList := by
    unfold strip
    rw [String.toList_ofList, List.mem_reverse]
    exact mem_dropWhile rfl (List.mem_reverse.mpr (mem_dropWhile rfl h))
  have kept : ':' ∈ ((strip s).toList.filter (· ≠ '_')).map (ascii digit) :=
    List.mem_map.mpr ⟨':', List.mem_filter.mpr ⟨stripped, rfl⟩, rfl⟩
  have unsigned : ':' ∈ (sign (((strip s).toList.filter (· ≠ '_')).map (ascii digit))).2 := mem_sign (by decide) (by decide) kept
  unfold decimalOfText
  dsimp only
  rw [special_mark (.inl rfl) unsigned, number_colon unsigned]
  rfl

lemma digit_toNat {c : Char} (h : c.isDigit = true) : 48 ≤ c.toNat ∧ c.toNat ≤ 57 := Char.isDigit_iff_toNat.mp h

lemma isSpace_digit {c : Char} (h : c.isDigit = true) : isSpace c = false := by
  have bounds := digit_toNat h
  simp [isSpace]
  omega

/-- Digits with a point. -/
lemma decimalOfText_point {wall logical : List Char} (full : wall ≠ []) (digits : ∀ c ∈ wall, c.isDigit = true)
    (digits' : ∀ c ∈ logical, c.isDigit = true) :
    decimalOfText digit (String.ofList (wall ++ '.' :: logical)) =
      some (.finite false (value (wall ++ logical)) (-logical.length)) := by
  have each (P : Char → Prop) (digit : ∀ c, c.isDigit = true → P c) (point : P '.') : ∀ c ∈ wall ++ '.' :: logical, P c := by
    intro c mem
    rcases List.mem_append.mp mem with front | back
    · exact digit c (digits c front)
    · rcases List.mem_cons.mp back with rfl | back
      · exact point
      · exact digit c (digits' c back)
  have stripped : strip (String.ofList (wall ++ '.' :: logical)) = String.ofList (wall ++ '.' :: logical) := by
    apply strip_eq_self
    rw [String.toList_ofList]
    exact each _ (fun c => isSpace_digit) rfl
  have plain : (wall ++ '.' :: logical).filter (· ≠ '_') = wall ++ '.' :: logical := by
    apply List.filter_eq_self.mpr
    refine each _ (fun c digit => decide_eq_true ?_) rfl
    rintro rfl
    cases digit
  have same : (wall ++ '.' :: logical).map (ascii digit) = wall ++ '.' :: logical := by
    have kept : ∀ c ∈ wall ++ '.' :: logical, ascii digit c = c :=
      each _ (fun c digit => if_pos (Nat.lt_of_le_of_lt (digit_toNat digit).2 (by decide))) rfl
    rw [List.map_congr_left kept, List.map_id']
  have unsigned : sign (wall ++ '.' :: logical) = (false, wall ++ '.' :: logical) := by
    obtain ⟨c, wall, rfl⟩ := List.exists_cons_of_ne_nil full
    unfold sign
    split
    case h_1 l e =>
      cases e
      cases digits _ List.mem_cons_self
    case h_2 l e =>
      cases e
      cases digits _ List.mem_cons_self
    case h_3 => rfl
  have integral : (wall ++ '.' :: logical).takeWhile Char.isDigit = wall ∧
      (wall ++ '.' :: logical).dropWhile Char.isDigit = '.' :: logical := by
    rw [List.takeWhile_append_of_pos digits, List.dropWhile_append_of_pos digits]
    exact ⟨List.append_nil _, rfl⟩
  have fractional : fraction ('.' :: logical) = (logical, []) := by
    show (logical.takeWhile _, logical.dropWhile _) = _
    rw [List.takeWhile_eq_self_iff.mpr digits', List.dropWhile_eq_nil_iff.mpr digits']
  unfold decimalOfText
  rw [stripped, String.toList_ofList, plain, same, unsigned]
  dsimp only
  rw [special_mark (.inr rfl) (List.mem_append_right _ List.mem_cons_self)]
  unfold number
  rw [integral.1, integral.2, fractional]
  dsimp only
  rw [if_neg (by simp [full])]
  simp [exponent]

end decimals

end Python

section reading

variable {rt : Runtime} {digit : Char → Option (Fin 10)} {s : String} {t : Timestamp}

lemma reading_decimalOfText : (rt.reading digit).decimalOfText s = Python.decimalOfText digit s := by
  rw [Runtime.reading]

lemma reading_fromIsoformat (read : Python.readIso s = some t) :
    (rt.reading digit).fromIsoformat s = if Python.inYears t then some t else none := by
  unfold Runtime.reading
  dsimp only
  rw [read]

end reading

end Postmortem
