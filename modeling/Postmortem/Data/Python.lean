import Postmortem.Data.Json
import Postmortem.Data.Uuid

/-!
# Python values and exceptions

`Runtime` collects the functions of the Python standard library (and of `datetime`, `hashlib`,
`unicodedata`) that the program calls and that are not embedded here: a development is about every
`Runtime`, and the few facts a result needs about one are hypotheses of that result.

`Raised` is a raised exception: its class, its text, and the SQLSTATE that `_sqlstate` finds on it or
on its `__cause__`.
-/

namespace Postmortem

/-- Microseconds since the epoch: a TIMESTAMPTZ column or an aware `datetime`. -/
abbrev Timestamp := Int

/-- A `decimal.Decimal`. -/
inductive Decimal where
  | finite (negative : Bool) (coefficient : Nat) (exponent : Int)
  | infinity (negative : Bool)
  | nan
deriving DecidableEq

/-- Library functions the program calls. -/
structure Runtime where
  /-- `json.loads`; `none` is `JSONDecodeError`. -/
  jsonLoads : String → Option Json
  /-- `json.loads` nests deeper than the interpreter's recursion limit: `RecursionError`. -/
  jsonTooDeep : String → Bool
  /-- `asdict(row)` nests deeper than that in the `metadata` of the row. `json.dumps` and `json.loads`, which take fewer
  frames a level, do not where it does not. -/
  asdictTooDeep : Dict → Bool
  /-- `json.dumps(value, sort_keys=True, separators=(",", ":"))`. -/
  jsonDumps : Json → String
  /-- `json.dumps(value, sort_keys=True)`. -/
  jsonDumpsSorted : Json → String
  /-- The text of a JSONB value that is not a string, as `->>` gives it. -/
  jsonText : Json → String
  /-- `CAST(EXTRACT(EPOCH FROM interval) AS INT8)`. -/
  epochSeconds : Int → Int
  /-- The FLOAT4 read from a coordinate printed with that many significant digits. -/
  float4 : Nat → ℚ → ℚ
  /-- `a <=> b`, the cosine distance of two vectors. -/
  cosineDistance : List ℚ → List ℚ → Flt
  /-- `repr`, which `str` is on values other than strings. -/
  repr : Json → String
  /-- `float(text)`; `none` is `ValueError`. -/
  floatOfText : String → Option Flt
  /-- `int(text)`; `none` is `ValueError`. -/
  intOfText : String → Option Int
  /-- `datetime.isoformat`. -/
  isoformat : Timestamp → String
  /-- `str(datetime)`. -/
  datetimeText : Timestamp → String
  /-- A TIMESTAMPTZ as `jsonb_build_object` prints it. -/
  jsonTimestamp : Timestamp → String
  /-- `datetime.fromisoformat`, a naive value taken as UTC; `none` is `ValueError`. -/
  fromIsoformat : String → Option Timestamp
  /-- `datetime.fromisoformat` reads the text, and its UTC instant is in no year of `datetime`: `OverflowError`. -/
  isoOverflows : String → Bool
  /-- `Decimal(text)`; `none` is `InvalidOperation`. -/
  decimalOfText : String → Option Decimal
  /-- `str(decimal)`. -/
  decimalText : Decimal → String
  /-- `datetime.fromtimestamp(seconds, tz=utc).strftime("%Y/%m/%d/%H")`; `none` is out of range. -/
  hourPath : Int → Option String
  /-- `math.exp`. -/
  exp : ℚ → ℚ
  /-- `hashlib.sha256(text.encode("utf-8")).hexdigest()`. -/
  sha256 : String → String
  /-- `text.encode("utf-8")` returns: the text has no lone surrogate. -/
  encodes : String → Bool
  /-- `UUID(text)`; `none` is `ValueError`. -/
  uuidOfText : String → Option Uuid
  /-- `str.lower`. -/
  lower : String → String
  /-- `str.upper`. -/
  upper : String → String
  /-- `unicodedata.normalize("NFKC", text)`. -/
  nfkc : String → String
  /-- `unicodedata.category(ch) == "Cf"`. -/
  isFormat : Char → Bool
  /-- The `\w` of `re`: alphanumeric or underscore. -/
  isWord : Char → Bool

/-- The SQLSTATE of a database error. -/
inductive SqlState where
  /-- 40001 -/
  | serializationFailure
  /-- 23505 -/
  | uniqueViolation
  /-- 23503 -/
  | foreignKeyViolation
  /-- 23514 -/
  | checkViolation
  /-- 22P02 -/
  | invalidTextRepresentation
  | other (code : String)
deriving DecidableEq

/-- The classes of exceptions the program raises or names. -/
inductive ErrorClass where
  | ProvenanceError
  | ApprovalRequired
  | UnsupportedAction
  | RecallError
  | ReasoningError
  | AtomicRemediationError
  | OutcomeConflict
  | OutcomeRecordingError
  | ToolNotAllowed
  | DestructiveActionBlocked
  | PromptInjectionDetected
  | ValueError
  | TypeError
  | KeyError
  | IndexError
  | AttributeError
  | OverflowError
  | other (name : String)
deriving DecidableEq

/-- `type(exc).__name__`. -/
def ErrorClass.name : ErrorClass → String
  | ProvenanceError => "ProvenanceError"
  | ApprovalRequired => "ApprovalRequired"
  | UnsupportedAction => "UnsupportedAction"
  | RecallError => "RecallError"
  | ReasoningError => "ReasoningError"
  | AtomicRemediationError => "AtomicRemediationError"
  | OutcomeConflict => "OutcomeConflict"
  | OutcomeRecordingError => "OutcomeRecordingError"
  | ToolNotAllowed => "ToolNotAllowed"
  | DestructiveActionBlocked => "DestructiveActionBlocked"
  | PromptInjectionDetected => "PromptInjectionDetected"
  | ValueError => "ValueError"
  | TypeError => "TypeError"
  | KeyError => "KeyError"
  | IndexError => "IndexError"
  | AttributeError => "AttributeError"
  | OverflowError => "OverflowError"
  | other name => name

/-- A raised exception. -/
structure Raised where
  cls : ErrorClass
  message : String
  /-- `exc.sqlstate` -/
  sqlstate : Option SqlState := none
  /-- `exc.__cause__.sqlstate` -/
  cause : Option SqlState := none
deriving DecidableEq

/-- `_sqlstate(exc)`. -/
def Raised.state (e : Raised) : Option SqlState := e.sqlstate.or e.cause

/-- The driver's exception for a statement that failed with `state`. -/
def Raised.database (state : SqlState) : Raised :=
  { cls := .other "DatabaseError", message := "", sqlstate := some state }

lemma bind_ok {ε α β : Type} {x : Except ε α} {f : α → Except ε β} {b} (h : x >>= f = .ok b) :
    ∃ a, x = .ok a ∧ f a = .ok b := by
  cases x with
  | error e => cases h
  | ok a => exact ⟨a, rfl, h⟩

/-- Where a loop over a list returned, every call did. -/
lemma mapM_ok {ε α β : Type} {f : α → Except ε β} {l : List α} {l'} (h : l.mapM f = .ok l') :
    (∀ b ∈ l', ∃ a ∈ l, f a = .ok b) ∧ ∀ a ∈ l, ∃ b ∈ l', f a = .ok b := by
  induction l generalizing l' with
  | nil =>
    cases h
    simp
  | cons a l ih =>
    rw [List.mapM_cons] at h
    obtain ⟨b, hb, h⟩ := bind_ok h
    obtain ⟨rest, hrest, e⟩ := bind_ok h
    cases e
    obtain ⟨back, forth⟩ := ih hrest
    constructor
    · intro b' hb'
      rcases List.mem_cons.mp hb' with rfl | hb'
      · exact ⟨a, List.mem_cons_self, hb⟩
      · obtain ⟨a', ha', e⟩ := back b' hb'
        exact ⟨a', List.mem_cons_of_mem _ ha', e⟩
    · intro a' ha'
      rcases List.mem_cons.mp ha' with rfl | ha'
      · exact ⟨b, List.mem_cons_self, hb⟩
      · obtain ⟨b', hb', e⟩ := forth a' ha'
        exact ⟨b', List.mem_cons_of_mem _ hb', e⟩

lemma bind_ok_iff {ε α β : Type} {x : Except ε α} {f : α → Except ε β} {b} :
    x >>= f = .ok b ↔ ∃ a, x = .ok a ∧ f a = .ok b := by
  refine ⟨bind_ok, ?_⟩
  rintro ⟨a, rfl, h⟩
  exact h

/-- The call does not raise. -/
def Returns {ε α : Type} (x : Except ε α) : Prop := ∃ a, x = .ok a

/-- The call raises an exception of that kind. -/
def Raises {α : Type} (P : Raised → Prop) (x : Except Raised α) : Prop := ∃ e, x = .error e ∧ P e

@[simp] lemma raises_ok {α : Type} {P : Raised → Prop} {a : α} : ¬ Raises P (.ok a) := by
  rintro ⟨_, ⟨⟩, _⟩

@[simp] lemma raises_error {α : Type} {P : Raised → Prop} {e : Raised} :
    Raises P (Except.error e : Except Raised α) ↔ P e := by
  constructor
  case mp =>
    rintro ⟨_, ⟨⟩, h⟩
    exact h
  case mpr => exact fun h => ⟨e, rfl, h⟩

/-- What raises in a sequence: its first call, or its second after the first returned. -/
lemma raises_bind {α β : Type} {P : Raised → Prop} {x : Except Raised α} {f : α → Except Raised β} :
    Raises P (x >>= f) ↔ Raises P x ∨ ∃ a, x = .ok a ∧ Raises P (f a) := by
  cases x with
  | error e =>
    show Raises P (Except.error e) ↔ Raises P (Except.error e) ∨ _
    simp
  | ok a =>
    show Raises P (f a) ↔ _
    simp

/-- A loop over a list returns where every call does. -/
lemma mapM_returns {ε α β : Type} {f : α → Except ε β} {l : List α} :
    Returns (l.mapM f) ↔ ∀ a ∈ l, Returns (f a) := by
  constructor
  · rintro ⟨l', h⟩ a ha
    obtain ⟨b, _, hb⟩ := (mapM_ok h).2 a ha
    exact ⟨b, hb⟩
  · intro h
    induction l with
    | nil => exact ⟨[], rfl⟩
    | cons a l ih =>
      obtain ⟨b, hb⟩ := h a List.mem_cons_self
      obtain ⟨rest, hrest⟩ := ih fun x hx => h x (List.mem_cons_of_mem _ hx)
      refine ⟨b :: rest, ?_⟩
      rw [List.mapM_cons, hb, hrest]
      rfl

lemma mapM_toOption {ε α β : Type} {f : α → Except ε β} {l : List α} {l'} (h : l.mapM f = .ok l') :
    l' = l.filterMap fun a => (f a).toOption := by
  induction l generalizing l' with
  | nil =>
    cases h
    rfl
  | cons a l ih =>
    rw [List.mapM_cons] at h
    obtain ⟨b, hb, h⟩ := bind_ok h
    obtain ⟨rest, hrest, e⟩ := bind_ok h
    cases e
    rw [List.filterMap_cons, hb, ← ih hrest]
    rfl

namespace Python

/-- `str.isspace` of one character, which `str.strip` removes. -/
def isSpace (c : Char) : Bool :=
  let n := c.toNat
  (9 ≤ n && n ≤ 13) || (28 ≤ n && n ≤ 32) || n == 133 || n == 160 || n == 5760 ||
    (8192 ≤ n && n ≤ 8202) || n == 8232 || n == 8233 || n == 8239 || n == 8287 || n == 12288

/-- `text.replace("Z", "+00:00")`. -/
def replaceZ (s : String) : String :=
  String.ofList (s.toList.flatMap fun c => if c = 'Z' then "+00:00".toList else [c])

/-- `text.strip()`. -/
def strip (s : String) : String :=
  String.ofList ((s.toList.dropWhile isSpace).reverse.dropWhile isSpace).reverse

lemma strip_eq_self {s : String} (h : ∀ c ∈ s.toList, isSpace c = false) : strip s = s := by
  have drop : ∀ l : List Char, (∀ c ∈ l, isSpace c = false) → l.dropWhile isSpace = l := by
    intro l hl
    cases l with
    | nil => rfl
    | cons c l => simp [hl c List.mem_cons_self]
  rw [strip, drop _ h, drop _ fun c hc => h c (List.mem_reverse.mp hc), List.reverse_reverse,
    String.ofList_toList]

lemma dropWhile_eq_self {l : List Char} (h : ∀ c, l.head? = some c → isSpace c = false) :
    l.dropWhile isSpace = l := by
  cases l with
  | nil => rfl
  | cons c l => simp [h c rfl]

lemma head?_dropWhile {l : List Char} :
    ∀ c, (l.dropWhile isSpace).head? = some c → isSpace c = false := by
  induction l with
  | nil => simp
  | cons a l ih =>
    cases ha : isSpace a with
    | true => simpa [ha] using ih
    | false => simp [ha]

/-- A stripped text is stripped. -/
@[simp] lemma strip_strip (s : String) : strip (strip s) = strip s := by
  have first := @head?_dropWhile s.toList
  generalize el : s.toList.dropWhile isSpace = l at first
  have last := @head?_dropWhile l.reverse
  -- cutting the end of `l` leaves its first character, or nothing
  have kept : ∀ c, (l.reverse.dropWhile isSpace).reverse.head? = some c → isSpace c = false := by
    intro c hc
    rw [List.head?_reverse] at hc
    have suffix : l.reverse.dropWhile isSpace <:+ l.reverse := List.dropWhile_suffix _
    obtain ⟨cut, e⟩ := suffix
    apply first
    have whole : l = (l.reverse.dropWhile isSpace).reverse ++ cut.reverse := by
      rw [← List.reverse_append, e, List.reverse_reverse]
    rw [whole, List.head?_append, List.head?_reverse, hc]
    rfl
  rw [strip, strip, el, String.toList_ofList, dropWhile_eq_self kept, List.reverse_reverse,
    dropWhile_eq_self last]

lemma isSpace_of_hex {c : Char} (h : Uuid.isHexDigit c = true) : isSpace c = false := by
  have range : (48 ≤ c.toNat ∧ c.toNat ≤ 57) ∨ (97 ≤ c.toNat ∧ c.toNat ≤ 102) := by
    simpa [Uuid.isHexDigit, Char.isDigit, Char.le_def, UInt32.le_iff_toNat_le] using h
  simp only [isSpace, Bool.or_eq_false_iff, Bool.and_eq_false_iff, decide_eq_false_iff_not,
    beq_eq_false_iff_ne]
  omega

/-- The text of an identifier has no white space. -/
@[simp] lemma strip_text (u : Uuid) : strip u.text = u.text := by
  apply strip_eq_self
  intro c hc
  obtain rfl | hex := Uuid.mem_text hc
  · decide
  · exact isSpace_of_hex hex

/-- `str(value)`. -/
def str (rt : Runtime) : Json → String
  | .str s => s
  | v => rt.repr v

/-- `int(value)`. -/
def int (rt : Runtime) : Json → Except Raised Int
  | .bool b => .ok (if b then 1 else 0)
  | .int i => .ok i
  | .float (.num q) => .ok (q.num.tdiv q.den)
  | .float .nan => .error ⟨.ValueError, "cannot convert float NaN to integer", none, none⟩
  | .str s =>
    match rt.intOfText s with
    | some i => .ok i
    | none => .error ⟨.ValueError, "invalid literal for int() with base 10: " ++ rt.repr (.str s),
        none, none⟩
  | v => .error ⟨.TypeError, "int() argument must be a string, a bytes-like object or a real number, not "
      ++ rt.repr v, none, none⟩

/-- The first integer that rounds to no finite double. -/
def floatLimit : Nat := 2 ^ 1024 - 2 ^ 970

/-- The double nearest to a natural number, of two the even one: 53 bits are kept. -/
def nearestDouble (n : Nat) : Nat :=
  if n < 2 ^ 53 then n
  else
    let ulp := 2 ^ (n.log2 - 52)
    if 2 * (n % ulp) < ulp ∨ 2 * (n % ulp) = ulp ∧ n / ulp % 2 = 0 then n / ulp * ulp else (n / ulp + 1) * ulp

/-- `float(value)`. -/
def float (rt : Runtime) : Json → Except Raised Flt
  | .bool b => .ok (.num (if b then 1 else 0))
  | .int i =>
    if floatLimit ≤ i.natAbs then
      .error ⟨.OverflowError, "int too large to convert to float", none, none⟩
    else .ok (.num ((i.sign * nearestDouble i.natAbs : Int) : ℚ))
  | .float x => .ok x
  | .str s =>
    match rt.floatOfText s with
    | some x => .ok x
    | none => .error ⟨.ValueError, "could not convert string to float: " ++ rt.repr (.str s),
        none, none⟩
  | v => .error ⟨.TypeError, "float() argument must be a string or a real number, not " ++ rt.repr v,
      none, none⟩

end Python

/-- The exception raised past the recursion limit. -/
def recursionError : Raised := ⟨.other "RecursionError", "maximum recursion depth exceeded", none, none⟩

/-- `json.loads(text)` -/
def loads (rt : Runtime) (s : String) : Except Raised Json :=
  if rt.jsonTooDeep s then .error recursionError
  else
    match rt.jsonLoads s with
    | some v => .ok v
    | none => .error ⟨.other "JSONDecodeError", "Expecting value", none, none⟩

namespace Decimal

/-- `10 ** exponent`. -/
def pow10 : Int → ℚ
  | .ofNat n => ((10 ^ n : Nat) : ℚ)
  | .negSucc n => 1 / ((10 ^ (n + 1) : Nat) : ℚ)

/-- The number a finite decimal is. -/
def value (negative : Bool) (coefficient : Nat) (exponent : Int) : ℚ :=
  (if negative then -(coefficient : ℚ) else coefficient) * pow10 exponent

/-- `a <= b` where neither is not-a-number. -/
def le : Decimal → Decimal → Bool
  | finite n c e, finite n' c' e' => decide (value n c e ≤ value n' c' e')
  | infinity true, _ => true
  | infinity false, infinity false => true
  | infinity false, _ => false
  | finite .., infinity b => !b
  | _, _ => false

/-- `a <= b`: an ordering comparison with not-a-number signals. -/
def le? (a b : Decimal) : Except Raised Bool :=
  if a = nan ∨ b = nan then
    .error ⟨.other "InvalidOperation", "[<class 'decimal.InvalidOperation'>]", none, none⟩
  else .ok (le a b)

/-- `Decimal(integer)`. -/
def ofInt (i : Int) : Decimal := finite (i < 0) i.natAbs 0

/-- `int(decimal)`. -/
def toInt? : Decimal → Except Raised Int
  | finite n c e =>
    let q := value n c e
    .ok (q.num.tdiv q.den)
  | infinity _ => .error ⟨.OverflowError, "cannot convert Infinity to integer", none, none⟩
  | nan => .error ⟨.ValueError, "cannot convert NaN to integer", none, none⟩

end Decimal

/-! ## An example library

The library functions on what the examples pass to them: ASCII texts, small integers and the first
seconds of 1970. -/

namespace Sample

/-- `json.dumps` of a text without control characters. -/
def quoted (s : String) : String :=
  "\"" ++ String.ofList (s.toList.flatMap fun c => if c = '"' ∨ c = '\\' then ['\\', c] else [c]) ++ "\""

mutual
/-- `json.dumps(value, sort_keys=True, separators=(comma, colon))`. -/
def dumps (comma colon : String) : Json → String
  | .null => "null"
  | .bool b => if b then "true" else "false"
  | .int i => toString i
  | .float .nan => "NaN"
  | .float (.num q) => toString q.num ++ ".0"
  | .str s => quoted s
  | .arr items => "[" ++ comma.intercalate (dumpsItems comma colon items) ++ "]"
  | .obj fields =>
    let printed := (dumpsFields comma colon fields).insertionSort fun f g => f.1 ≤ g.1
    "\x7b" ++ comma.intercalate (printed.map fun f => quoted f.1 ++ colon ++ f.2) ++ "\x7d"
def dumpsItems (comma colon : String) : List Json → List String
  | [] => []
  | x :: xs => dumps comma colon x :: dumpsItems comma colon xs
def dumpsFields (comma colon : String) : Dict → List (String × String)
  | [] => []
  | (k, x) :: fields => (k, dumps comma colon x) :: dumpsFields comma colon fields
end

/-- The date and time of a second of 1970. -/
def seconds (t : Timestamp) : String := "1970-01-01T00:00:0" ++ toString (t / 1000000)

end Sample

/-- The library on the examples. -/
def Runtime.sample : Runtime where
  jsonLoads _ := none
  jsonTooDeep _ := false
  asdictTooDeep _ := false
  jsonDumps := Sample.dumps "," ":"
  jsonDumpsSorted := Sample.dumps ", " ": "
  jsonText := Sample.dumps ", " ": "
  epochSeconds t := t / 1000000
  float4 _ q := q
  cosineDistance a b := if a = b then 0 else 1
  repr _ := ""
  floatOfText _ := none
  intOfText _ := none
  isoformat t := Sample.seconds t ++ "+00:00"
  datetimeText t := Sample.seconds t ++ "+00:00"
  jsonTimestamp t := Sample.seconds t ++ "Z"
  fromIsoformat s :=
    ((List.range 10).find? fun n => Sample.seconds (n * 1000000) ++ "+00:00" = s).map fun n =>
      n * 1000000
  isoOverflows _ := false
  decimalOfText s := ((List.range 10).find? fun n => toString n = s).map fun n => .ofInt n
  decimalText d :=
    match d with
    | .finite false n 0 => toString n
    | _ => ""
  hourPath s := if 0 ≤ s ∧ s < 3600 then some "1970/01/01/00" else none
  exp _ := 1
  sha256 s := s
  encodes _ := true
  uuidOfText := Uuid.ofText?
  lower s := String.ofList (s.toList.map Char.toLower)
  upper s := String.ofList (s.toList.map Char.toUpper)
  nfkc s := s
  isFormat _ := false
  isWord c := c.isAlphanum || c == '_'

end Postmortem
