import Postmortem.Data.Json

/-!
# The console's boundary

`web/lib/events.ts`: `isValidPayload` and `parseConsoleEvent`, on the value that `JSON.parse` makes of a frame
(`wire`). Every number of it is a double: what `JSON.parse` reads for a number is the parameter `double`.
-/

namespace Postmortem.Web

/-! ## The frame -/

section wire

variable (double : ℚ → ℚ)

mutual
/-- `JSON.parse(json.dumps(value))`, where every number is finite. -/
def wire : Json → Json
  | .int i => .float (.num (double i))
  | .float (.num q) => .float (.num (double q))
  | .arr xs => .arr (wireList xs)
  | .obj fs => .obj (wireFields fs)
  | v => v
def wireList : List Json → List Json
  | [] => []
  | x :: xs => wire x :: wireList xs
def wireFields : Dict → Dict
  | [] => []
  | (k, x) :: fs => (k, wire x) :: wireFields fs
end

/-- `JSON.parse(json.dumps(value))`; there is no frame with a number that is not finite. -/
def roundTrip (v : Json) : Option Json := if v.storable then some (wire double v) else none

mutual
/-- A double holds each number of the value. -/
def Exact : Json → Prop
  | .int i => double i = i
  | .float (.num q) => double q = q
  | .arr xs => ExactList xs
  | .obj fs => ExactFields fs
  | _ => True
def ExactList : List Json → Prop
  | [] => True
  | x :: xs => Exact x ∧ ExactList xs
def ExactFields : Dict → Prop
  | [] => True
  | (_, x) :: fs => Exact x ∧ ExactFields fs
end

end wire

/-! ## Shapes -/

/-- `value.key`; `none` is `undefined`. -/
def prop (value : Json) (key : String) : Option Json :=
  match value with
  | .obj fields => Assoc.get fields key
  | _ => none

/-- `typeof value === "string"` -/
def isString : Option Json → Bool
  | some (.str _) => true
  | _ => false

/-- `typeof value === "number"` -/
def isNumber : Option Json → Bool
  | some (.int _) => true
  | some (.float _) => true
  | _ => false

/-- `typeof value === "boolean"` -/
def isBoolean : Option Json → Bool
  | some (.bool _) => true
  | _ => false

/-- `Array.isArray(value)` -/
def isArray : Option Json → Bool
  | some (.arr _) => true
  | _ => false

/-- `isRecord`: an array is an object too. -/
def isRecord : Option Json → Bool
  | some (.obj _) => true
  | some (.arr _) => true
  | _ => false

/-- `CONSOLE_EVENT_TYPES` -/
def consoleEventTypes : List String :=
  ["incident", "recall", "reason", "act", "record", "transaction", "failover", "evaluation"]

/-- `isValidPayload` -/
def isValidPayload (type : String) (payload : Json) : Bool :=
  match type with
  | "incident" =>
    isString (prop payload "service") && isString (prop payload "severity") && isString (prop payload "status") &&
      isString (prop payload "summary") &&
      (prop payload "telemetry" = none || isRecord (prop payload "telemetry"))
  | "recall" =>
    isString (prop payload "provider") && isNumber (prop payload "durationMs") && isArray (prop payload "results")
  | "reason" =>
    isString (prop payload "message") && isArray (prop payload "citedMemoryIds") &&
      isArray (prop payload "citedRunbookIds")
  | "act" =>
    isString (prop payload "tool") && isString (prop payload "status") && isString (prop payload "citedMemoryId") &&
      isRecord (prop payload "arguments")
  | "record" =>
    isString (prop payload "memoryId") && isString (prop payload "memoryKind") && isString (prop payload "summary") &&
      isNumber (prop payload "freshnessMs") && isNumber (prop payload "staleReadsObserved")
  | "transaction" =>
    isString (prop payload "transactionId") && isString (prop payload "state") && isArray (prop payload "statements")
  | "failover" =>
    isString (prop payload "affectedRegion") && isString (prop payload "regionState") &&
      isString (prop payload "clusterState") && isNumber (prop payload "rpoRows")
  | "evaluation" =>
    match prop payload "retrieval" with
    | none => false
    | some retrieval =>
      isRecord (some retrieval) && isNumber (prop retrieval "recallAt1") && isNumber (prop retrieval "recallAt10") &&
        isNumber (prop retrieval "ndcgAt10") && isBoolean (prop payload "decisionQualityMeasured")
  | _ => false

/-- `parseConsoleEvent`; a value whose `agent` is no object has no `agent.id`. -/
def parseConsoleEvent (value : Json) : Option Json :=
  match prop value "type", prop value "payload" with
  | some (.str type), some payload =>
    if isString (prop value "id") && isNumber (prop value "sequence") && isString (prop value "occurredAt") &&
        isString (prop value "caseId") && consoleEventTypes.contains type &&
        isString ((prop value "agent").bind fun agent => prop agent "id") &&
        isString ((prop value "agent").bind fun agent => prop agent "region") &&
        isRecord (some payload) && isValidPayload type payload
    then some value
    else none
  | _, _ => none

/-! ## What the wire keeps -/

section kept

variable {double : ℚ → ℚ} {v : Json} {key : String}

lemma get_wireFields {fs : Dict} : Assoc.get (wireFields double fs) key = (Assoc.get fs key).map (wire double) := by
  induction fs with
  | nil => rfl
  | cons f fs ih =>
    obtain ⟨k, x⟩ := f
    unfold wireFields Assoc.get
    dsimp only
    split
    case isTrue => rfl
    case isFalse => exact ih

lemma prop_wire : prop (wire double v) key = (prop v key).map (wire double) := by
  cases v with
  | obj fs => exact get_wireFields
  | float x =>
    cases x with
    | num q => rfl
    | nan => rfl
  | null => rfl
  | bool b => rfl
  | int i => rfl
  | str s => rfl
  | arr xs => rfl

lemma isString_wire {o : Option Json} : isString (o.map (wire double)) = isString o := by
  rcases o with _ | (_ | _ | _ | (_ | _) | _ | _ | _)
  all_goals rfl

lemma isNumber_wire {o : Option Json} : isNumber (o.map (wire double)) = isNumber o := by
  rcases o with _ | (_ | _ | _ | (_ | _) | _ | _ | _)
  all_goals rfl

lemma isBoolean_wire {o : Option Json} : isBoolean (o.map (wire double)) = isBoolean o := by
  rcases o with _ | (_ | _ | _ | (_ | _) | _ | _ | _)
  all_goals rfl

lemma isArray_wire {o : Option Json} : isArray (o.map (wire double)) = isArray o := by
  rcases o with _ | (_ | _ | _ | (_ | _) | _ | _ | _)
  all_goals rfl

lemma isRecord_wire {o : Option Json} : isRecord (o.map (wire double)) = isRecord o := by
  rcases o with _ | (_ | _ | _ | (_ | _) | _ | _ | _)
  all_goals rfl

/-- The wire keeps the shape of a payload. -/
lemma isValidPayload_wire {type : String} : isValidPayload type (wire double v) = isValidPayload type v := by
  have undefined : ∀ o : Option Json, decide (o.map (wire double) = none) = decide (o = none) := by
    rintro (_ | _)
    · rfl
    · rfl
  unfold isValidPayload
  split
  case h_1 => simp only [prop_wire, isString_wire, isRecord_wire, undefined]
  case h_2 => simp only [prop_wire, isString_wire, isNumber_wire, isArray_wire]
  case h_3 => simp only [prop_wire, isString_wire, isArray_wire]
  case h_4 => simp only [prop_wire, isString_wire, isRecord_wire]
  case h_5 => simp only [prop_wire, isString_wire, isNumber_wire]
  case h_6 => simp only [prop_wire, isString_wire, isArray_wire]
  case h_7 => simp only [prop_wire, isString_wire, isNumber_wire]
  case h_8 =>
    rw [prop_wire]
    cases prop v "retrieval" with
    | none => rfl
    | some retrieval =>
      have record : isRecord (some (wire double retrieval)) = isRecord (some retrieval) :=
        isRecord_wire (o := some retrieval)
      simp only [Option.map_some, record, prop_wire, isNumber_wire, isBoolean_wire]
  case h_9 => rfl

mutual
/-- A value whose numbers are doubles is the same after the round trip. -/
lemma norm_wire : ∀ {v : Json}, Exact double v → (wire double v).norm = v.norm
  | .null, _ => rfl
  | .bool _, _ => rfl
  | .int i, exact => by
    unfold Exact at exact
    unfold wire
    rw [exact]
    rfl
  | .float (.num q), exact => by
    unfold Exact at exact
    unfold wire
    rw [exact]
  | .float .nan, _ => rfl
  | .str _, _ => rfl
  | .arr xs, exact => by
    unfold Exact at exact
    unfold wire Json.norm
    rw [normList_wire exact]
  | .obj fs, exact => by
    unfold Exact at exact
    unfold wire Json.norm
    rw [normFields_wire exact]
lemma normList_wire : ∀ {xs : List Json}, ExactList double xs → Json.normList (wireList double xs) = Json.normList xs
  | [], _ => rfl
  | x :: xs, exact => by
    unfold ExactList at exact
    unfold wireList Json.normList
    rw [norm_wire exact.1, normList_wire exact.2]
lemma normFields_wire : ∀ {fs : Dict}, ExactFields double fs →
    Json.normFields (wireFields double fs) = Json.normFields fs
  | [], _ => rfl
  | (k, x) :: fs, exact => by
    unfold ExactFields at exact
    unfold wireFields Json.normFields
    rw [norm_wire exact.1, normFields_wire exact.2]
end

end kept

end Postmortem.Web
