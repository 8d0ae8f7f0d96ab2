import Postmortem.Consolidation.RoundTrip

/-!
# The webhook

`receive_changefeed` of `consolidation/postmortem_consolidation/handlers.py`, from the credential of a request to the
batches that go to the queue. `QueueClient` is any client: what it answers may depend on the batches it has got.
`AnswersWebhook` is the contract of the function, one response for each kind of request, and `Guarded` is the
requests for which no stage outside the guarded block raises (`receiveChangefeed_answers_iff`).
-/

namespace Postmortem

/-! ## The request -/

/-- The character is in ASCII. -/
def isAscii (c : Char) : Bool := c.toNat < 128

/-- `hmac.compare_digest` of two texts -/
def compareDigest (a b : String) : Except Raised Bool :=
  if a.toList.all isAscii && b.toList.all isAscii then .ok (a == b)
  else .error ⟨.TypeError, "comparing strings with non-ASCII characters is not supported", none, none⟩

/-- The value of a character in the alphabet of base64. -/
def base64Value (c : Char) : Option Nat :=
  if c.isUpper then some (c.toNat - 65)
  else if c.isLower then some (c.toNat - 71)
  else if c.isDigit then some (c.toNat + 4)
  else if c = '+' then some 62
  else if c = '/' then some 63
  else none

/-- `binascii.a2b_base64`, after `quad` characters of a group of four, whose last bits are `left`, and `pads`
padding characters; `none` is `binascii.Error`. -/
def a2bBase64 : List Char → Nat → Nat → Nat → Option (List UInt8)
  | [], quad, _, _ => if quad = 0 then some [] else none
  | c :: cs, quad, left, pads =>
    if c = '=' then
      if quad < 2 then a2bBase64 cs quad left pads
      else if 4 ≤ quad + (pads + 1) then some []
      else a2bBase64 cs quad left (pads + 1)
    else
      match base64Value c with
      -- a character outside the alphabet is skipped
      | none => a2bBase64 cs quad left pads
      | some v =>
        match quad with
        | 0 => a2bBase64 cs 1 v 0
        | 1 => (a2bBase64 cs 2 (v % 16) 0).map (UInt8.ofNat (left * 4 + v / 16) :: ·)
        | 2 => (a2bBase64 cs 3 (v % 4) 0).map (UInt8.ofNat (left * 16 + v / 4) :: ·)
        | _ => (a2bBase64 cs 0 0 0).map (UInt8.ofNat (left * 64 + v) :: ·)

/-- `base64.b64decode(text).decode("utf-8")` -/
def base64Text (s : String) : Except Raised String :=
  if s.toList.all isAscii then
    match a2bBase64 s.toList 0 0 0 with
    | some bytes =>
      match String.fromUTF8? ⟨bytes.toArray⟩ with
      | some text => .ok text
      | none => .error ⟨.other "UnicodeDecodeError", "'utf-8' codec can't decode bytes", none, none⟩
    | none => .error ⟨.other "Error", "Invalid base64-encoded string", none, none⟩
  else valueError "string argument should contain only ASCII characters"

section request

variable (rt : Runtime)

/-- `event.get("headers") or {}`, as `_request_secret` reads it. -/
def headersOf (event : Dict) : Except Raised Dict :=
  match (event.get "headers").orElse (.obj []) with
  | .obj headers => .ok headers
  | _ => .error ⟨.AttributeError, "object has no attribute 'items'", none, none⟩

/-- `_request_secret` -/
def requestSecret (headers : Dict) : String :=
  let normalized := headers.foldl (fun d h => Assoc.set d (rt.lower h.1) (Python.str rt h.2)) []
  let explicit := (Assoc.get normalized "x-postmortem-webhook-secret").getD ""
  if explicit ≠ "" then explicit
  else
    let authorization := (Assoc.get normalized "authorization").getD ""
    if "bearer ".toList.isPrefixOf (rt.lower authorization).toList then
      String.ofList (authorization.toList.drop 7)
    else ""

/-- The credential is the expected one. -/
def credentialMatches (supplied expected : String) : Except Raised Bool :=
  if supplied = "" then .ok false else compareDigest supplied expected

/-- `encoded`, after the base64 of the gateway. -/
def encodedBody (event : Dict) : Except Raised Json :=
  let encoded := (event.get "body").orElse (.str "{}")
  if (event.get "isBase64Encoded").truthy then
    match encoded with
    | .str s => (base64Text s).map .str
    | _ => .error ⟨.TypeError, "argument should be a bytes-like object or ASCII string", none, none⟩
  else .ok encoded

/-- The guarded block: `json.loads` and `parse_changefeed_body`. -/
def parseEncoded : Json → Except Raised (List QueueMessage)
  | .str s => do parseChangefeedBody rt (← loads rt s)
  | _ => .error ⟨.TypeError, "the JSON object must be str, bytes or bytearray", none, none⟩

/-- The classes of the `except` clause. -/
def caught (e : Raised) : Bool :=
  e.cls = .ValueError || e.cls = .TypeError || e.cls = .other "JSONDecodeError"

end request

/-! ## The queue -/

/-- An entry of `send_message_batch`. -/
structure QueueEntry where
  id : String
  messageBody : String
  messageGroupId : String
  messageDeduplicationId : String
deriving DecidableEq

/-- `send_message_batch`: the `Failed` entries it reports for the last of the batches it was given. -/
abbrev QueueClient := List (List QueueEntry) → Except Raised (List Json)

/-- What `_response` returns. -/
structure Response where
  statusCode : Nat
  headers : List (String × String)
  body : String
deriving DecidableEq

section receive

variable (rt : Runtime)

/-- `_response` -/
def response (status : Nat) (body : Dict) : Response :=
  { statusCode := status
    headers := [("content-type", "application/json")]
    body := rt.jsonDumpsSorted (.obj body) }

/-- `json.dumps(message.to_dict(), sort_keys=True)` -/
def QueueMessage.printed (m : QueueMessage) : Except Raised String := do
  let fields ← m.toDict rt
  return rt.jsonDumpsSorted (.obj fields)

/-- The entry of a message. -/
def queueEntry (index : Nat) (m : QueueMessage) : Except Raised QueueEntry := do
  let deduplicationId ← m.digest rt
  let messageBody ← m.printed rt
  return {
    id := "m" ++ toString index ++ "-" ++ String.ofList (deduplicationId.toList.take 8)
    messageBody
    messageGroupId := "postmortem-consolidation"
    messageDeduplicationId := deduplicationId }

/-- `range(0, n, 10)` -/
def starts (n : Nat) : List Nat := (List.range ((n + 9) / 10)).map (10 * ·)

/-- The entries of `messages[start : start + 10]`. -/
def chunkEntries (messages : List QueueMessage) (start : Nat) : Except Raised (List QueueEntry) :=
  ((messages.drop start).take 10).zipIdx.mapM fun x => queueEntry rt (start + x.2) x.1

/-- `RuntimeError`, where the queue reports failed entries. -/
def rejectedError (failed : List Json) : Raised :=
  ⟨.other "RuntimeError", "SQS rejected " ++ toString failed.length ++ " changefeed messages", none, none⟩

/-- The loop over the chunks, after the batches `sent`: what is accepted and all batches the client got. -/
def sendChunks (client : QueueClient) (messages : List QueueMessage) :
    List Nat → List (List QueueEntry) → Nat → Except Raised Nat × List (List QueueEntry)
  | [], sent, accepted => (.ok accepted, sent)
  | start :: rest, sent, accepted =>
    match chunkEntries rt messages start with
    | .error e => (.error e, sent)
    | .ok entries =>
      match client (sent ++ [entries]) with
      | .error e => (.error e, sent ++ [entries])
      | .ok [] => sendChunks client messages rest (sent ++ [entries]) (accepted + entries.length)
      | .ok failed => (.error (rejectedError failed), sent ++ [entries])

/-- `receive_changefeed` after the credential. -/
def receiveBody (client : QueueClient) (event : Dict) : Except Raised Response × List (List QueueEntry) :=
  match encodedBody event with
  | .error e => (.error e, [])
  | .ok encoded =>
    match parseEncoded rt encoded with
    | .error e => if caught e then (.ok (response rt 400 [("error", .str e.message)]), []) else (.error e, [])
    | .ok messages =>
      match sendChunks rt client messages (starts messages.length) [] 0 with
      | (.ok accepted, sent) => (.ok (response rt 202 [("accepted", .int accepted)]), sent)
      | (.error e, sent) => (.error e, sent)

/-- `receive_changefeed`: the response, and the batches the client got. -/
def receiveChangefeed (client : QueueClient) (event : Dict) (expected : String) :
    Except Raised Response × List (List QueueEntry) :=
  match headersOf event with
  | .error e => (.error e, [])
  | .ok headers =>
    match credentialMatches (requestSecret rt headers) expected with
    | .error e => (.error e, [])
    | .ok false => (.ok (response rt 401 [("error", .str "invalid webhook credential")]), [])
    | .ok true => receiveBody rt client event

end receive

/-! ## The contract -/

section contract

variable (rt : Runtime)

/-- The request carries the expected credential. -/
def Authorized (event : Dict) (expected : String) : Prop :=
  ∃ headers, headersOf event = .ok headers ∧ requestSecret rt headers ≠ "" ∧ requestSecret rt headers = expected

/-- The body is a well-formed batch of those messages. -/
def Batch (event : Dict) (messages : List QueueMessage) : Prop :=
  ∃ encoded, encodedBody event = .ok encoded ∧ parseEncoded rt encoded = .ok messages

/-- The entry carries the message. -/
structure CarriesMessage (m : QueueMessage) (entry : QueueEntry) : Prop where
  body : entry.messageBody = rt.jsonDumpsSorted (.obj (m.fields rt))
  deduplicationId : entry.messageDeduplicationId = m.deduplicationId rt
  group : entry.messageGroupId = "postmortem-consolidation"

/-- The client raised or reported a failed entry for the last of the batches. -/
def Refuses (client : QueueClient) (sent : List (List QueueEntry)) : Prop := sent ≠ [] ∧ client sent ≠ .ok []

/-- What the client got carries the messages, in order. -/
structure Enqueued (messages : List QueueMessage) (sent : List (List QueueEntry)) : Prop where
  carried : List.Forall₂ (CarriesMessage rt) messages sent.flatten
  small : ∀ batch ∈ sent, batch ≠ [] ∧ batch.length ≤ 10
  distinct : (sent.flatten.map QueueEntry.id).Nodup

/-- The answer to a request, one class for each kind of request. -/
structure AnswersWebhook (event : Dict) (expected : String) (client : QueueClient)
    (result : Except Raised Response × List (List QueueEntry)) : Prop where
  unauthorized : ¬ Authorized rt event expected → result.2 = [] ∧ ∃ r, result.1 = .ok r ∧ r.statusCode = 401
  malformed : Authorized rt event expected → (∀ messages, ¬ Batch rt event messages) →
    result.2 = [] ∧ ∃ r, result.1 = .ok r ∧ r.statusCode = 400
  batch : ∀ messages, Authorized rt event expected → Batch rt event messages →
    (result.1 = .ok (response rt 202 [("accepted", .int messages.length)]) ∧ Enqueued rt messages result.2) ∨
      ((∃ e, result.1 = .error e) ∧ Refuses client result.2 ∧
        ∃ taken, taken <+: messages ∧ Enqueued rt taken result.2)

/-! ## The guarded requests -/

/-- A text `datetime.fromisoformat` reads, of an instant outside the years of `datetime`. -/
def OutOfYears (v : Json) : Prop :=
  ∃ s, v = .str s ∧ s ≠ "" ∧ rt.fromIsoformat (Python.replaceZ s) = none ∧
    rt.isoOverflows (Python.replaceZ s) = true

/-- A change timestamp outside the years of `datetime`. -/
def ChangeOutOfYears (v : Json) : Prop := OutOfYears rt v ∧ ∀ s, v = .str s → rt.decimalOfText s = none

/-- A text of metadata that nests too deep. -/
def DeepMetadata (v : Json) : Prop :=
  ∃ s, v = .str s ∧ s ≠ "" ∧ rt.jsonLoads s = none ∧ rt.jsonTooDeep s = true

/-- The texts a row needs are there. -/
def Identified (row : Dict) : Prop :=
  ∀ key ∈ ["event_id", "org_id", "agent_id", "incident_id", "service_id", "event_type"],
    ∃ s, row.get key = .str s ∧ Python.strip s ≠ ""

/-- A row whose reading leaves the guarded block. -/
inductive UnguardedRow (raw row : Dict) : Prop where
  | metadata (deep : DeepMetadata rt (row.get "metadata"))
  | occurredAt (object : Returns (changefeedMetadata rt (row.get "metadata"))) (texts : Identified row)
    (out : OutOfYears rt (row.get "occurred_at"))
  | updated (object : Returns (changefeedMetadata rt (row.get "metadata"))) (texts : Identified row)
    (occurred : Returns (parseTimestamp rt (row.get "occurred_at") "after.occurred_at"))
    (out : ChangeOutOfYears rt ((raw.get "updated").orElse (row.get "created_at")))

/-- An item whose reading leaves the guarded block. -/
inductive UnguardedItem : Json → Prop where
  | resolved {raw} (out : ChangeOutOfYears rt (Dict.get raw "resolved")) : UnguardedItem (.obj raw)
  | row {raw row} (open_ : Dict.get raw "resolved" = .null) (after : Dict.get raw "after" = .obj row)
    (unguarded : UnguardedRow rt raw row) : UnguardedItem (.obj raw)

/-- The items of a payload. -/
def payloadItems : Json → List Json
  | .obj value =>
    match Dict.getD value "payload" (.obj value) with
    | .obj item => [.obj item]
    | .arr items => items
    | _ => []
  | _ => []

/-- The first item that is not read leaves the guarded block. -/
def UnguardedItems (items : List Json) : Prop :=
  ∃ before raw after, items = before ++ raw :: after ∧ (∀ x ∈ before, Returns (parseItem rt x)) ∧ UnguardedItem rt raw

/-- Every stage that is not guarded passes. -/
structure Guarded (event : Dict) (expected : String) : Prop where
  comparable : ∀ headers, headersOf event = .ok headers → requestSecret rt headers ≠ "" →
    (requestSecret rt headers).toList.all isAscii = true ∧ expected.toList.all isAscii = true
  decodes : Authorized rt event expected → Returns (encodedBody event)
  shallow : Authorized rt event expected → ∀ s, encodedBody event = .ok (.str s) → rt.jsonTooDeep s = false
  dated : Authorized rt event expected → ∀ s payload, encodedBody event = .ok (.str s) → loads rt s = .ok payload →
    ¬ UnguardedItems rt (payloadItems payload)
  printable : Authorized rt event expected → ∀ messages, Batch rt event messages → ∀ e, .row e ∈ messages →
    rt.encodes e.eventId = true ∧ rt.asdictTooDeep e.metadata = false

/-- An event of the gateway: its headers are an object or missing, and its body is a text or missing. -/
structure GatewayEvent (event : Dict) : Prop where
  headers : event.get "headers" = .null ∨ ∃ headers, event.get "headers" = .obj headers
  body : event.get "body" = .null ∨ ∃ s, event.get "body" = .str s

end contract

section unguarded

variable {rt : Runtime}

/-- The exception leaves the guarded block. -/
def Uncaught (e : Raised) : Prop := caught e = false

lemma valueError_caught {α message} : ¬ Raises Uncaught (valueError message : Except Raised α) := by
  simp [valueError, Uncaught, caught]

lemma requiredText_caught {v field} : ¬ Raises Uncaught (requiredText v field) := by
  unfold requiredText
  split
  case h_1 s =>
    split
    case isTrue => exact valueError_caught
    case isFalse => exact raises_ok
  case h_2 => exact valueError_caught

lemma requiredText_returns {v field} :
    Returns (requiredText v field) ↔ ∃ s, v = .str s ∧ Python.strip s ≠ "" := by
  cases v with
  | str s =>
    by_cases blank : Python.strip s = ""
    case pos => simp [requiredText, blank, Returns, valueError]
    case neg => simp [requiredText, blank, Returns]
  | _ => simp [requiredText, Returns, valueError]

lemma parseTimestamp_uncaught {v field} :
    Raises Uncaught (parseTimestamp rt v field) ↔ OutOfYears rt v := by
  unfold OutOfYears
  cases v with
  | str s =>
    by_cases blank : s = ""
    case pos => simp [parseTimestamp, blank, valueError_caught]
    case neg =>
      cases read : rt.fromIsoformat (Python.replaceZ s) with
      | some t => simp [parseTimestamp, blank, read]
      | none =>
        cases late : rt.isoOverflows (Python.replaceZ s) with
        | false => simp [parseTimestamp, blank, read, late, valueError_caught]
        | true => simp [parseTimestamp, blank, read, late, Uncaught, caught]
  | _ => simp [parseTimestamp, valueError_caught]

lemma parseChangeTimestamp_uncaught {v field} :
    Raises Uncaught (parseChangeTimestamp rt v field) ↔ ChangeOutOfYears rt v := by
  have time := @parseTimestamp_uncaught rt v field
  unfold ChangeOutOfYears
  cases v with
  | str s =>
    by_cases blank : s = ""
    case pos => simp [parseChangeTimestamp, blank, valueError_caught, OutOfYears]
    case neg =>
      cases decimal : rt.decimalOfText s with
      | some d => simp [parseChangeTimestamp, blank, decimal]
      | none =>
        rw [← time]
        cases parsed : parseTimestamp rt (.str s) field with
        | error e => simp [parseChangeTimestamp, blank, decimal, parsed]
        | ok t => simp [parseChangeTimestamp, blank, decimal, parsed]
  | _ => simp [parseChangeTimestamp, valueError_caught, OutOfYears]

lemma changefeedMetadata_uncaught {v} : Raises Uncaught (changefeedMetadata rt v) ↔ DeepMetadata rt v := by
  unfold DeepMetadata
  cases truthy : v.truthy with
  | false =>
    have empty : ∀ s, v = .str s → s = "" := by
      rintro s rfl
      simpa [Json.truthy] using truthy
    have read : changefeedMetadata rt v = .ok [] := by simp [changefeedMetadata, Json.orElse, truthy]
    rw [read]
    refine iff_of_false raises_ok ?_
    rintro ⟨s, same, full, _⟩
    exact full (empty s same)
  | true =>
    cases v with
    | str s =>
      have full : s ≠ "" := by simpa [Json.truthy] using truthy
      cases loaded : rt.jsonLoads s with
      | some w =>
        cases w with
        | obj fields => simp [changefeedMetadata, Json.orElse, truthy, loaded]
        | _ => simp [changefeedMetadata, Json.orElse, truthy, loaded, valueError_caught]
      | none =>
        cases deep : rt.jsonTooDeep s with
        | true => simp [changefeedMetadata, Json.orElse, truthy, loaded, deep, full, Uncaught, caught, recursionError]
        | false => simp [changefeedMetadata, Json.orElse, truthy, loaded, deep, Uncaught, caught]
    | obj fields => simp [changefeedMetadata, Json.orElse, truthy]
    | _ => simp [changefeedMetadata, Json.orElse, truthy, valueError_caught]

lemma identified_iff {row : Dict} : Identified row ↔
    ∀ key ∈ ["event_id", "org_id", "agent_id", "incident_id", "service_id", "event_type"],
      Returns (requiredText (row.get key) ("after." ++ key)) := by
  unfold Identified
  simp only [requiredText_returns]

lemma fromChangefeed_uncaught {raw row : Dict} (after : raw.get "after" = .obj row) :
    Raises Uncaught (ChangeEvent.fromChangefeed rt raw) ↔ UnguardedRow rt raw row := by
  have texts := @identified_iff row
  simp only [List.forall_mem_cons, List.not_mem_nil, false_implies, implies_true, and_true] at texts
  simp only [ChangeEvent.fromChangefeed, after]
  constructor
  case mp =>
    intro h
    obtain deep | ⟨_, metadata, h⟩ := raises_bind.mp h
    · exact .metadata (changefeedMetadata_uncaught.mp deep)
    obtain leak | ⟨_, event, h⟩ := raises_bind.mp h
    · exact (requiredText_caught leak).elim
    obtain leak | ⟨_, org, h⟩ := raises_bind.mp h
    · exact (requiredText_caught leak).elim
    obtain leak | ⟨_, agent, h⟩ := raises_bind.mp h
    · exact (requiredText_caught leak).elim
    obtain leak | ⟨_, incident, h⟩ := raises_bind.mp h
    · exact (requiredText_caught leak).elim
    obtain leak | ⟨_, service, h⟩ := raises_bind.mp h
    · exact (requiredText_caught leak).elim
    obtain leak | ⟨_, type, h⟩ := raises_bind.mp h
    · exact (requiredText_caught leak).elim
    have identified := texts.mpr ⟨⟨_, event⟩, ⟨_, org⟩, ⟨_, agent⟩, ⟨_, incident⟩, ⟨_, service⟩, ⟨_, type⟩⟩
    obtain late | ⟨_, occurred, h⟩ := raises_bind.mp h
    · exact .occurredAt ⟨_, metadata⟩ identified (parseTimestamp_uncaught.mp late)
    obtain late | ⟨_, _, h⟩ := raises_bind.mp h
    · exact .updated ⟨_, metadata⟩ identified ⟨_, occurred⟩ (parseChangeTimestamp_uncaught.mp late)
    · exact (raises_ok h).elim
  case mpr =>
    intro h
    cases h with
    | metadata deep => exact raises_bind.mpr (.inl (changefeedMetadata_uncaught.mpr deep))
    | occurredAt object identified out =>
      obtain ⟨_, metadata⟩ := object
      obtain ⟨⟨_, event⟩, ⟨_, org⟩, ⟨_, agent⟩, ⟨_, incident⟩, ⟨_, service⟩, ⟨_, type⟩⟩ := texts.mp identified
      refine raises_bind.mpr (.inr ⟨_, metadata, ?_⟩)
      refine raises_bind.mpr (.inr ⟨_, event, ?_⟩)
      refine raises_bind.mpr (.inr ⟨_, org, ?_⟩)
      refine raises_bind.mpr (.inr ⟨_, agent, ?_⟩)
      refine raises_bind.mpr (.inr ⟨_, incident, ?_⟩)
      refine raises_bind.mpr (.inr ⟨_, service, ?_⟩)
      refine raises_bind.mpr (.inr ⟨_, type, ?_⟩)
      exact raises_bind.mpr (.inl (parseTimestamp_uncaught.mpr out))
    | updated object identified occurred out =>
      obtain ⟨_, metadata⟩ := object
      obtain ⟨⟨_, event⟩, ⟨_, org⟩, ⟨_, agent⟩, ⟨_, incident⟩, ⟨_, service⟩, ⟨_, type⟩⟩ := texts.mp identified
      obtain ⟨_, occurred⟩ := occurred
      refine raises_bind.mpr (.inr ⟨_, metadata, ?_⟩)
      refine raises_bind.mpr (.inr ⟨_, event, ?_⟩)
      refine raises_bind.mpr (.inr ⟨_, org, ?_⟩)
      refine raises_bind.mpr (.inr ⟨_, agent, ?_⟩)
      refine raises_bind.mpr (.inr ⟨_, incident, ?_⟩)
      refine raises_bind.mpr (.inr ⟨_, service, ?_⟩)
      refine raises_bind.mpr (.inr ⟨_, type, ?_⟩)
      refine raises_bind.mpr (.inr ⟨_, occurred, ?_⟩)
      exact raises_bind.mpr (.inl (parseChangeTimestamp_uncaught.mpr out))

lemma parseItem_uncaught {raw} : Raises Uncaught (parseItem rt raw) ↔ UnguardedItem rt raw := by
  constructor
  case mp =>
    intro h
    unfold parseItem at h
    split at h
    case h_2 => exact (valueError_caught h).elim
    case h_1 fields =>
      split at h
      case isTrue resolved =>
        obtain h | ⟨_, _, h⟩ := raises_bind.mp h
        · obtain late | ⟨_, _, h⟩ := raises_bind.mp h
          · exact .resolved (parseChangeTimestamp_uncaught.mp late)
          · exact (raises_ok h).elim
        · exact (raises_ok h).elim
      case isFalse resolved =>
        split at h
        case isFalse => exact (raises_ok h).elim
        case isTrue present =>
          obtain h | ⟨_, _, h⟩ := raises_bind.mp h
          · cases after : Dict.get fields "after" with
            | obj row => exact .row (not_not.mp resolved) after ((fromChangefeed_uncaught after).mp h)
            | _ =>
              simp only [ChangeEvent.fromChangefeed, after] at h
              exact (valueError_caught h).elim
          · exact (raises_ok h).elim
  case mpr =>
    intro h
    cases h with
    | @resolved fields out =>
      have present : Dict.get fields "resolved" ≠ .null := by
        obtain ⟨⟨s, text, _⟩, _⟩ := out
        rw [text]
        intro null
        cases null
      simp only [parseItem]
      rw [if_pos present]
      exact raises_bind.mpr (.inl (raises_bind.mpr (.inl (parseChangeTimestamp_uncaught.mpr out))))
    | @row fields row resolved after unguarded =>
      have present : Dict.get fields "after" ≠ .null := by
        rw [after]
        intro null
        cases null
      simp only [parseItem]
      rw [if_neg (not_not.mpr resolved), if_pos present]
      exact raises_bind.mpr (.inl ((fromChangefeed_uncaught after).mpr unguarded))

/-- The loop over the items leaves the guarded block at the first item it does not read. -/
lemma parseItems_uncaught {items} : Raises Uncaught (parseItems rt items) ↔ UnguardedItems rt items := by
  unfold UnguardedItems
  induction items with
  | nil =>
    refine iff_of_false raises_ok ?_
    rintro ⟨before, raw, after, e, _⟩
    cases before <;> cases e
  | cons first items ih =>
    rw [parseItems, raises_bind, parseItem_uncaught]
    constructor
    case mp =>
      rintro (unguarded | ⟨m, read, h⟩)
      · exact ⟨[], first, items, rfl, List.forall_mem_nil _, unguarded⟩
      · obtain h | ⟨_, _, h⟩ := raises_bind.mp h
        · obtain ⟨before, raw, after, rfl, all, unguarded⟩ := ih.mp h
          refine ⟨first :: before, raw, after, rfl, ?_, unguarded⟩
          exact List.forall_mem_cons.mpr ⟨⟨m, read⟩, all⟩
        · exact (raises_ok h).elim
    case mpr =>
      rintro ⟨before, raw, after, e, all, unguarded⟩
      cases before with
      | nil =>
        cases e
        exact .inl unguarded
      | cons x before =>
        cases e
        obtain ⟨⟨m, read⟩, all⟩ := List.forall_mem_cons.mp all
        refine .inr ⟨m, read, raises_bind.mpr (.inl ?_)⟩
        exact ih.mpr ⟨before, raw, after, rfl, all, unguarded⟩

lemma parseChangefeedBody_uncaught {payload} :
    Raises Uncaught (parseChangefeedBody rt payload) ↔ UnguardedItems rt (payloadItems payload) := by
  have nothing : ¬ UnguardedItems rt [] := by
    rw [← parseItems_uncaught]
    exact raises_ok
  unfold parseChangefeedBody payloadItems
  cases payload with
  | obj value =>
    simp only
    cases Dict.getD value "payload" (.obj value) with
    | obj item => exact parseItems_uncaught
    | arr items => exact parseItems_uncaught
    | _ => exact iff_of_false valueError_caught nothing
  | _ => exact iff_of_false valueError_caught nothing

/-- What leaves the guarded block. -/
lemma parseEncoded_uncaught {encoded} : Raises Uncaught (parseEncoded rt encoded) ↔ ∃ s, encoded = .str s ∧
    (rt.jsonTooDeep s = true ∨ ∃ payload, loads rt s = .ok payload ∧ UnguardedItems rt (payloadItems payload)) := by
  cases encoded with
  | str s =>
    have load : Raises Uncaught (loads rt s) ↔ rt.jsonTooDeep s = true := by
      unfold loads
      cases rt.jsonTooDeep s with
      | true => simp [Uncaught, caught, recursionError]
      | false => cases rt.jsonLoads s <;> simp [Uncaught, caught]
    show Raises Uncaught (loads rt s >>= _) ↔ _
    rw [raises_bind, load]
    simp only [parseChangefeedBody_uncaught, Json.str.injEq, exists_eq_left']
  | _ => simp [parseEncoded, Uncaught, caught]

end unguarded

/-! ## Entries and chunks -/

section entries

variable {rt : Runtime} {m : QueueMessage} {messages : List QueueMessage} {client : QueueClient}

/-- The message can be written to an entry. -/
def Printable (rt : Runtime) (m : QueueMessage) : Prop :=
  ∀ e, m = .row e → rt.encodes e.eventId = true ∧ rt.asdictTooDeep e.metadata = false

/-- The entry of a printable message. -/
def QueueMessage.entry (rt : Runtime) (index : Nat) (m : QueueMessage) : QueueEntry where
  id := "m" ++ toString index ++ "-" ++ String.ofList ((m.deduplicationId rt).toList.take 8)
  messageBody := rt.jsonDumpsSorted (.obj (m.fields rt))
  messageGroupId := "postmortem-consolidation"
  messageDeduplicationId := m.deduplicationId rt

/-- The entries of the messages from an index on. -/
def entriesFrom (rt : Runtime) (index : Nat) (messages : List QueueMessage) : List QueueEntry :=
  (messages.zipIdx index).map fun x => x.1.entry rt x.2

lemma queueEntry_ok {index} (h : Printable rt m) : queueEntry rt index m = .ok (m.entry rt index) := by
  cases m with
  | row e =>
    obtain ⟨encodes, shallow⟩ := h e rfl
    have digest : (QueueMessage.row e).digest rt = .ok (e.deduplicationId rt) := if_pos encodes
    have copied : (QueueMessage.row e).toDict rt = .ok (e.fields rt) := toDict_ok.mpr ⟨shallow, rfl⟩
    unfold queueEntry QueueMessage.printed
    rw [digest, copied]
    rfl
  | closed w => rfl

lemma queueEntry_returns {index} : Returns (queueEntry rt index m) ↔ Printable rt m := by
  constructor
  case mp =>
    rintro ⟨entry, h⟩ e rfl
    obtain ⟨_, digest, h⟩ := bind_ok h
    obtain ⟨_, printed, _⟩ := bind_ok h
    obtain ⟨_, copied, _⟩ := bind_ok printed
    exact ⟨digest_ok.mp ⟨_, digest⟩, (toDict_ok.mp copied).1⟩
  case mpr => exact fun h => ⟨_, queueEntry_ok h⟩

lemma entriesFrom_carries {index} : List.Forall₂ (CarriesMessage rt) messages (entriesFrom rt index messages) := by
  induction messages generalizing index with
  | nil => exact .nil
  | cons m messages ih => exact .cons ⟨rfl, rfl, rfl⟩ ih

/-- The number in the identifier of an entry. -/
def entryNumber (id : String) : Nat := Nat.ofDigitChars 10 ((id.toList.drop 1).takeWhile Char.isDigit) 0

lemma entryNumber_entry {index} : entryNumber (m.entry rt index).id = index := by
  have digits : ∀ c ∈ Nat.toDigits 10 index, c.isDigit = true :=
    fun c hc => Nat.isDigit_of_mem_toDigits (by omega) (by omega) hc
  have text : (m.entry rt index).id.toList.drop 1 =
      Nat.toDigits 10 index ++ '-' :: (m.deduplicationId rt).toList.take 8 := by
    simp [QueueMessage.entry, Nat.toString_eq_repr, Nat.toList_repr]
  have stop : List.takeWhile Char.isDigit ('-' :: (m.deduplicationId rt).toList.take 8) = [] := by
    simp [Char.isDigit]
  unfold entryNumber
  rw [text, List.takeWhile_append_of_pos digits, stop, List.append_nil]
  exact Nat.ofDigitChars_toDigits (by omega) (by omega)

lemma entriesFrom_distinct {index} : ((entriesFrom rt index messages).map QueueEntry.id).Nodup := by
  apply List.Nodup.of_map entryNumber
  have numbers : ((entriesFrom rt index messages).map QueueEntry.id).map entryNumber =
      (messages.zipIdx index).map Prod.snd := by
    simp only [entriesFrom, List.map_map]
    exact List.map_congr_left fun x _ => entryNumber_entry
  rw [numbers, List.zipIdx_map_snd]
  exact List.nodup_range' 1

/-- Chunks of ten, one after the other. -/
lemma flatten_chunks {α : Type} {l : List α} {k : Nat} :
    ((List.range k).map fun i => (l.drop (10 * i)).take 10).flatten = l.take (10 * k) := by
  induction k with
  | zero => rfl
  | succ k ih =>
    rw [List.range_succ, List.map_append, List.flatten_append, ih, Nat.mul_succ, List.take_add]
    simp

/-- The entries of a chunk. -/
def chunk (rt : Runtime) (messages : List QueueMessage) (start : Nat) : List QueueEntry :=
  ((entriesFrom rt 0 messages).drop start).take 10

lemma mapM_eq_map {ε α β : Type} {f : α → Except ε β} {g : α → β} {l : List α}
    (h : ∀ a ∈ l, f a = .ok (g a)) : l.mapM f = .ok (l.map g) := by
  induction l with
  | nil => rfl
  | cons a l ih =>
    rw [List.mapM_cons, h a List.mem_cons_self, ih fun x hx => h x (List.mem_cons_of_mem _ hx)]
    rfl

lemma chunkEntries_ok {start} (printable : ∀ m ∈ messages, Printable rt m) :
    chunkEntries rt messages start = .ok (chunk rt messages start) := by
  have each : ∀ x ∈ ((messages.drop start).take 10).zipIdx,
      queueEntry rt (start + x.2) x.1 = .ok (x.1.entry rt (start + x.2)) := by
    intro x hx
    have taken := List.fst_mem_of_mem_zipIdx hx
    exact queueEntry_ok (printable _ (List.mem_of_mem_drop (List.mem_of_mem_take taken)))
  have shifted : ((messages.drop start).take 10).zipIdx.map (fun x => x.1.entry rt (start + x.2)) =
      chunk rt messages start := by
    unfold chunk entriesFrom
    apply List.ext_getElem?
    intro i
    simp only [List.getElem?_map, List.getElem?_zipIdx, List.getElem?_take, List.getElem?_drop, Nat.zero_add]
    split
    case isTrue =>
      rw [Option.map_map, Option.map_map]
      rfl
    case isFalse => rfl
  unfold chunkEntries
  rw [mapM_eq_map each, shifted]

lemma chunkEntries_returns {start} : Returns (chunkEntries rt messages start) ↔
    ∀ m ∈ (messages.drop start).take 10, Printable rt m := by
  unfold chunkEntries
  rw [mapM_returns]
  constructor
  case mp =>
    intro h m hm
    obtain ⟨i, hi, rfl⟩ := List.getElem_of_mem hm
    exact queueEntry_returns.mp (h (_, i) (List.mk_mem_zipIdx_iff_getElem?.mpr (List.getElem?_eq_getElem hi)))
  case mpr =>
    intro h x hx
    exact queueEntry_returns.mpr (h _ (List.fst_mem_of_mem_zipIdx hx))

/-- A run of the loop over printable messages: the client got the chunks up to the first it refused. -/
lemma sendChunks_spec (printable : ∀ m ∈ messages, Printable rt m) {todo sent accepted} :
    ∃ done, done <+: todo ∧
      (sendChunks rt client messages todo sent accepted).2 = sent ++ done.map (chunk rt messages) ∧
      (done = todo ∧ (sendChunks rt client messages todo sent accepted).1 =
          .ok (accepted + (done.map (chunk rt messages)).flatten.length) ∨
        (∃ e, (sendChunks rt client messages todo sent accepted).1 = .error e) ∧
          Refuses client (sent ++ done.map (chunk rt messages))) := by
  induction todo generalizing sent accepted with
  | nil => exact ⟨[], List.prefix_rfl, by simp [sendChunks], .inl ⟨rfl, by simp [sendChunks]⟩⟩
  | cons start rest ih =>
    have head := @chunkEntries_ok rt messages start printable
    have refused : client (sent ++ [chunk rt messages start]) ≠ .ok [] →
        Refuses client (sent ++ [start].map (chunk rt messages)) := fun h => ⟨by simp, h⟩
    cases answer : client (sent ++ [chunk rt messages start]) with
    | error e =>
      refine ⟨[start], ⟨rest, rfl⟩, by simp [sendChunks, head, answer], .inr ⟨⟨e, ?_⟩, refused ?_⟩⟩
      · simp [sendChunks, head, answer]
      · simp [answer]
    | ok failed =>
      cases failed with
      | cons failure failed =>
        refine ⟨[start], ⟨rest, rfl⟩, by simp [sendChunks, head, answer],
          .inr ⟨⟨rejectedError (failure :: failed), ?_⟩, refused ?_⟩⟩
        · simp [sendChunks, head, answer]
        · simp [answer]
      | nil =>
        obtain ⟨done, part, batches, result⟩ := @ih (sent ++ [chunk rt messages start])
          (accepted + (chunk rt messages start).length)
        refine ⟨start :: done, List.cons_prefix_cons.mpr ⟨rfl, part⟩, ?_, ?_⟩
        · simpa [sendChunks, head, answer] using batches
        · rcases result with ⟨rfl, total⟩ | ⟨raised, refuses⟩
          · refine .inl ⟨rfl, ?_⟩
            simpa [sendChunks, head, answer, Nat.add_assoc] using total
          · refine .inr ⟨?_, by simpa using refuses⟩
            simpa [sendChunks, head, answer] using raised

/-- A loop that returned has made the entries of every chunk. -/
lemma sendChunks_returned {todo sent accepted n}
    (h : (sendChunks rt client messages todo sent accepted).1 = .ok n) :
    ∀ start ∈ todo, Returns (chunkEntries rt messages start) := by
  induction todo generalizing sent accepted with
  | nil => nofun
  | cons start rest ih =>
    unfold sendChunks at h
    split at h
    case h_1 => cases h
    case h_2 entries made =>
      split at h
      case h_1 => cases h
      case h_2 => exact List.forall_mem_cons.mpr ⟨⟨entries, made⟩, ih h⟩
      case h_3 => cases h

lemma mem_starts {n start : Nat} (h : start ∈ starts n) : start < n := by
  obtain ⟨i, hi, rfl⟩ := List.mem_map.mp h
  have := List.mem_range.mp hi
  omega

/-- A message is in a chunk. -/
lemma mem_chunk {m} (h : m ∈ messages) : ∃ start ∈ starts messages.length, m ∈ (messages.drop start).take 10 := by
  obtain ⟨i, hi, rfl⟩ := List.getElem_of_mem h
  refine ⟨10 * (i / 10), List.mem_map.mpr ⟨i / 10, List.mem_range.mpr (by omega), rfl⟩, ?_⟩
  rw [List.mem_take_iff_getElem]
  refine ⟨i % 10, by rw [List.length_drop]; omega, ?_⟩
  rw [List.getElem_drop]
  congr
  omega

/-- The first chunks carry the first messages. -/
lemma enqueued_chunks {done} (part : done <+: starts messages.length) : ∃ taken, taken <+: messages ∧
    (done = starts messages.length → taken = messages) ∧ Enqueued rt taken (done.map (chunk rt messages)) := by
  have length : (entriesFrom rt 0 messages).length = messages.length := by simp [entriesFrom]
  obtain ⟨k, hk, rfl⟩ : ∃ k, k ≤ (messages.length + 9) / 10 ∧ done = (List.range k).map (10 * ·) := by
    have short := part.length_le
    have cut := List.prefix_iff_eq_take.mp part
    rw [starts, List.length_map, List.length_range] at short
    refine ⟨done.length, short, ?_⟩
    rw [starts, ← List.map_take, List.take_range, Nat.min_eq_left short] at cut
    exact cut
  have batches : (((List.range k).map (10 * ·)).map (chunk rt messages)).flatten =
      (entriesFrom rt 0 messages).take (10 * k) := by
    rw [List.map_map]
    exact flatten_chunks
  refine ⟨messages.take (10 * k), List.take_prefix _ _, ?_, ?_⟩
  · intro all
    have same := congrArg List.length all
    simp only [starts, List.length_map, List.length_range] at same
    exact List.take_of_length_le (by omega)
  · constructor
    case carried =>
      rw [batches]
      exact List.forall₂_take _ entriesFrom_carries
    case small =>
      intro batch hb
      obtain ⟨start, hs, rfl⟩ := List.mem_map.mp hb
      have inside := mem_starts (part.subset hs)
      have size : (chunk rt messages start).length = min 10 (messages.length - start) := by
        rw [chunk, List.length_take, List.length_drop, length]
      refine ⟨?_, by omega⟩
      intro empty
      rw [empty, List.length_nil] at size
      omega
    case distinct =>
      rw [batches]
      exact ((List.take_sublist _ _).map _).nodup entriesFrom_distinct

end entries

/-! ## The contract of the webhook -/

section webhook

variable {rt : Runtime} {event : Dict} {expected : String} {client : QueueClient}

lemma GatewayEvent.headersOf (gateway : GatewayEvent event) : ∃ headers, headersOf event = .ok headers := by
  unfold Postmortem.headersOf Json.orElse
  obtain missing | ⟨headers, found⟩ := gateway.headers
  · exact ⟨[], by simp [missing, Json.truthy]⟩
  · cases headers with
    | nil => exact ⟨[], by simp [found, Json.truthy]⟩
    | cons h headers => exact ⟨h :: headers, by simp [found, Json.truthy]⟩

/-- No contract lets the function raise before it calls the client. -/
lemma AnswersWebhook.not_raised {e} : ¬ AnswersWebhook rt event expected client (.error e, []) := by
  intro answers
  by_cases authorized : Authorized rt event expected
  case neg =>
    obtain ⟨_, r, ⟨⟩, _⟩ := answers.unauthorized authorized
  case pos =>
    by_cases batch : ∃ messages, Batch rt event messages
    case neg =>
      obtain ⟨_, r, ⟨⟩, _⟩ := answers.malformed authorized (not_exists.mp batch)
    case pos =>
      obtain ⟨messages, batch⟩ := batch
      obtain ⟨⟨⟩, _⟩ | ⟨_, ⟨called, _⟩, _⟩ := answers.batch messages authorized batch
      exact called rfl

lemma authorized_iff {headers} (h : headersOf event = .ok headers) : Authorized rt event expected ↔
    requestSecret rt headers ≠ "" ∧ requestSecret rt headers = expected := by
  constructor
  case mp =>
    rintro ⟨_, h', full, same⟩
    cases h.symm.trans h'
    exact ⟨full, same⟩
  case mpr => exact fun ⟨full, same⟩ => ⟨headers, h, full, same⟩

lemma compareDigest_raises {a b : String} (h : ¬ (a.toList.all isAscii = true ∧ b.toList.all isAscii = true)) :
    ∃ e, compareDigest a b = .error e := by
  unfold compareDigest
  rw [if_neg (by rwa [Bool.and_eq_true])]
  exact ⟨_, rfl⟩

/-- A request with the expected credential, in ASCII, is answered for its body. -/
lemma receiveChangefeed_authorized (guarded : ∀ headers, headersOf event = .ok headers → requestSecret rt headers ≠ "" →
    (requestSecret rt headers).toList.all isAscii = true ∧ expected.toList.all isAscii = true)
    (authorized : Authorized rt event expected) :
    receiveChangefeed rt client event expected = receiveBody rt client event := by
  obtain ⟨headers, h, full, same⟩ := authorized
  obtain ⟨ascii, ascii'⟩ := guarded headers h full
  have credential : credentialMatches (requestSecret rt headers) expected = .ok true := by
    rw [credentialMatches, if_neg full, compareDigest, ascii, ascii', same]
    simp
  simp only [receiveChangefeed, h, credential]

/-- A request without the expected credential. -/
lemma receiveChangefeed_unauthorized {headers} (h : headersOf event = .ok headers)
    (ascii : requestSecret rt headers ≠ "" →
      (requestSecret rt headers).toList.all isAscii = true ∧ expected.toList.all isAscii = true)
    (other : ¬ Authorized rt event expected) : receiveChangefeed rt client event expected =
      (.ok (response rt 401 [("error", .str "invalid webhook credential")]), []) := by
  have credential : credentialMatches (requestSecret rt headers) expected = .ok false := by
    by_cases full : requestSecret rt headers = ""
    case pos => rw [credentialMatches, if_pos full]
    case neg =>
      obtain ⟨supplied, wanted⟩ := ascii full
      have differ : (requestSecret rt headers == expected) = false :=
        beq_false_of_ne fun same => other ((authorized_iff h).mpr ⟨full, same⟩)
      rw [credentialMatches, if_neg full, compareDigest, supplied, wanted, differ]
      rfl
  simp only [receiveChangefeed, h, credential]

/-- A client that takes every entry. -/
def takesAll : QueueClient := fun _ => .ok []

section answers

variable (answers : ∀ client, AnswersWebhook rt event expected client (receiveChangefeed rt client event expected))
include answers

/-- Without ASCII on both sides the comparison of the credentials raises. -/
lemma AnswersWebhook.comparable : ∀ headers, headersOf event = .ok headers → requestSecret rt headers ≠ "" →
    (requestSecret rt headers).toList.all isAscii = true ∧ expected.toList.all isAscii = true := by
  intro headers h full
  by_contra foreign
  obtain ⟨e, compared⟩ := compareDigest_raises foreign
  have raised : receiveChangefeed rt takesAll event expected = (.error e, []) := by
    simp only [receiveChangefeed, h, credentialMatches, if_neg full, compared]
  exact AnswersWebhook.not_raised (raised ▸ answers takesAll)

lemma AnswersWebhook.body (authorized : Authorized rt event expected) :
    AnswersWebhook rt event expected client (receiveBody rt client event) := by
  rw [← receiveChangefeed_authorized (AnswersWebhook.comparable answers) authorized]
  exact answers client

lemma AnswersWebhook.decodes (authorized : Authorized rt event expected) : Returns (encodedBody event) := by
  cases decoded : encodedBody event with
  | ok encoded => exact ⟨encoded, rfl⟩
  | error e =>
    have raised : receiveBody rt takesAll event = (.error e, []) := by simp only [receiveBody, decoded]
    exact (AnswersWebhook.not_raised (raised ▸ AnswersWebhook.body answers authorized)).elim

/-- Nothing leaves the guarded block. -/
lemma AnswersWebhook.caught {encoded} (authorized : Authorized rt event expected)
    (decoded : encodedBody event = .ok encoded) : ¬ Raises Uncaught (parseEncoded rt encoded) := by
  rintro ⟨e, leaks, uncaught⟩
  have raised : receiveBody rt takesAll event = (.error e, []) := by
    have leaving : Postmortem.caught e = false := uncaught
    simp [receiveBody, decoded, leaks, leaving]
  exact AnswersWebhook.not_raised (raised ▸ AnswersWebhook.body answers authorized)

/-- A client that takes everything gets every row, so every row is made an entry. -/
lemma AnswersWebhook.printable {messages e} (authorized : Authorized rt event expected) (batch : Batch rt event messages)
    (he : .row e ∈ messages) : rt.encodes e.eventId = true ∧ rt.asdictTooDeep e.metadata = false := by
  have answered : AnswersWebhook rt event expected takesAll (receiveBody rt takesAll event) :=
    AnswersWebhook.body answers authorized
  obtain ⟨returned, _⟩ | ⟨_, ⟨_, refused⟩, _⟩ := answered.batch messages authorized batch
  case inr => exact (refused rfl).elim
  case inl =>
    obtain ⟨encoded, decoded, parsed⟩ := batch
    simp only [receiveBody, decoded, parsed] at returned
    split at returned
    case h_2 => cases returned
    case h_1 n sent loop =>
      obtain ⟨start, hs, hm⟩ := mem_chunk he
      have made := sendChunks_returned (congrArg Prod.fst loop) start hs
      exact chunkEntries_returns.mp made _ hm e rfl

lemma AnswersWebhook.guarded : Guarded rt event expected := by
  constructor
  case comparable => exact AnswersWebhook.comparable answers
  case decodes => exact AnswersWebhook.decodes answers
  case shallow =>
    intro authorized s decoded
    by_contra deep
    apply AnswersWebhook.caught answers authorized decoded
    exact parseEncoded_uncaught.mpr ⟨s, rfl, .inl (Bool.eq_true_of_not_eq_false deep)⟩
  case dated =>
    intro authorized s payload decoded loaded unguarded
    apply AnswersWebhook.caught answers authorized decoded
    exact parseEncoded_uncaught.mpr ⟨s, rfl, .inr ⟨payload, loaded, unguarded⟩⟩
  case printable => exact fun authorized _ batch _ => AnswersWebhook.printable answers authorized batch

end answers

namespace Guarded

variable (guarded : Guarded rt event expected) (authorized : Authorized rt event expected)
include guarded authorized

/-- A body that is no batch is answered with its error. -/
lemma malformed (none : ∀ messages, ¬ Batch rt event messages) :
    ∃ e, receiveBody rt client event = (.ok (response rt 400 [("error", .str e)]), []) := by
  obtain ⟨encoded, decoded⟩ := guarded.decodes authorized
  cases parsed : parseEncoded rt encoded with
  | ok messages => exact (none messages ⟨encoded, decoded, parsed⟩).elim
  | error e =>
    have closed : caught e = true := by
      by_contra leak
      obtain ⟨s, rfl, deep | ⟨payload, loaded, unguarded⟩⟩ := parseEncoded_uncaught.mp
        ⟨e, parsed, Bool.eq_false_iff.mpr leak⟩
      · rw [guarded.shallow authorized s decoded] at deep
        cases deep
      · exact guarded.dated authorized s payload decoded loaded unguarded
    exact ⟨e.message, by simp [receiveBody, decoded, parsed, closed]⟩

/-- A batch is sent whole, or up to a chunk that the client refuses. -/
lemma batch {messages} (batch : Batch rt event messages) :
    ((receiveBody rt client event).1 = .ok (response rt 202 [("accepted", .int messages.length)]) ∧
        Enqueued rt messages (receiveBody rt client event).2) ∨
      ((∃ e, (receiveBody rt client event).1 = .error e) ∧ Refuses client (receiveBody rt client event).2 ∧
        ∃ taken, taken <+: messages ∧ Enqueued rt taken (receiveBody rt client event).2) := by
  have printable : ∀ m ∈ messages, Printable rt m := by
    rintro m hm e rfl
    exact guarded.printable authorized messages batch e hm
  obtain ⟨encoded, decoded, parsed⟩ := batch
  obtain ⟨done, part, batches, result⟩ := @sendChunks_spec rt messages client printable (starts messages.length) [] 0
  obtain ⟨taken, first, all, enqueued⟩ := @enqueued_chunks rt messages done part
  simp only [receiveBody, decoded, parsed]
  rw [List.nil_append] at batches result
  generalize sendChunks rt client messages (starts messages.length) [] 0 = run at batches result
  obtain ⟨returned, sent⟩ := run
  cases batches
  rcases result with ⟨whole, total⟩ | ⟨⟨e, raised⟩, refused⟩
  case inl =>
    cases all whole
    have count := enqueued.carried.length_eq
    cases total
    refine .inl ⟨?_, enqueued⟩
    rw [Nat.zero_add, ← count]
  case inr =>
    cases raised
    exact .inr ⟨⟨e, rfl⟩, refused, taken, first, enqueued⟩

end Guarded

lemma Guarded.answers {headers} (h : headersOf event = .ok headers) (guarded : Guarded rt event expected) :
    AnswersWebhook rt event expected client (receiveChangefeed rt client event expected) := by
  constructor
  case unauthorized =>
    intro other
    rw [receiveChangefeed_unauthorized h (guarded.comparable headers h) other]
    exact ⟨rfl, _, rfl, rfl⟩
  case malformed =>
    intro authorized none
    obtain ⟨e, answer⟩ := @Guarded.malformed _ _ _ client guarded authorized none
    rw [receiveChangefeed_authorized guarded.comparable authorized, answer]
    exact ⟨rfl, _, rfl, rfl⟩
  case batch =>
    intro messages authorized batch
    rw [receiveChangefeed_authorized guarded.comparable authorized]
    exact guarded.batch authorized batch

/-- The webhook keeps its contract with every client exactly where the stages outside the guarded block
pass. -/
theorem receiveChangefeed_answers_iff (rt : Runtime) (event : Dict) (expected : String) (gateway : GatewayEvent event) :
    (∀ client, AnswersWebhook rt event expected client (receiveChangefeed rt client event expected)) ↔
      Guarded rt event expected := by
  obtain ⟨headers, h⟩ := gateway.headersOf
  exact ⟨AnswersWebhook.guarded, fun guarded _ => guarded.answers h⟩

end webhook

namespace Sample

/-- The text of the request. -/
def nestedBody : String := sortedDumps nestedRequest

/-- The library that reads it. -/
def webhook : Runtime :=
  { intake with jsonLoads := fun s => if s = nestedBody then some nestedRequest else none }

/-- The request with a credential. -/
def posted : Dict :=
  [("headers", .obj [("X-Postmortem-Webhook-Secret", .str "correct")]), ("body", .str nestedBody),
    ("isBase64Encoded", .bool false)]

/-- A request whose body is cut within a group of base64. -/
def cutDelivery : Dict :=
  [("headers", .obj [("X-Postmortem-Webhook-Secret", .str "correct")]), ("body", .str "e"),
    ("isBase64Encoded", .bool true)]

lemma delivery_guarded : Guarded webhook posted "correct" := by
  have headers : headersOf posted = .ok [("X-Postmortem-Webhook-Secret", .str "correct")] := rfl
  have encoded : encodedBody posted = .ok (.str nestedBody) := rfl
  have loaded : loads webhook nestedBody = .ok nestedRequest := by decide +kernel
  have parsed : parseChangefeedBody webhook nestedRequest = .ok [.row nested] := by decide +kernel
  constructor
  case comparable =>
    intro headers' h _
    cases headers.symm.trans h
    decide +kernel
  case decodes => exact fun _ => ⟨_, encoded⟩
  case shallow => exact fun _ _ _ => rfl
  case dated =>
    intro _ s payload h h'
    cases encoded.symm.trans h
    cases loaded.symm.trans h'
    rw [← parseChangefeedBody_uncaught, parsed]
    exact raises_ok
  case printable => exact fun _ _ _ _ _ => ⟨rfl, rfl⟩

end Sample

/-- `receiveChangefeed_answers_iff` on a request with one row. -/
theorem receiveChangefeed_answers_sample : AnswersWebhook Sample.webhook Sample.posted "correct" takesAll
    (receiveChangefeed Sample.webhook takesAll Sample.posted "correct") := by
  apply (receiveChangefeed_answers_iff Sample.webhook Sample.posted "correct" ?gateway).mpr
  case gateway => exact ⟨.inr ⟨_, rfl⟩, .inr ⟨_, rfl⟩⟩
  exact Sample.delivery_guarded

/-- The body of this request is no batch, and the function raises where it should answer 400. -/
theorem cut_body_not_answered : ¬ AnswersWebhook Sample.webhook Sample.cutDelivery "correct" takesAll
    (receiveChangefeed Sample.webhook takesAll Sample.cutDelivery "correct") := by
  have undecoded : encodedBody Sample.cutDelivery = .error ⟨.other "Error", "Invalid base64-encoded string", none, none⟩ := by
    decide +kernel
  have accepted : credentialMatches (requestSecret Sample.webhook
      [("X-Postmortem-Webhook-Secret", .str "correct")]) "correct" = .ok true := by decide +kernel
  have headers : headersOf Sample.cutDelivery = .ok [("X-Postmortem-Webhook-Secret", .str "correct")] := rfl
  have raised : receiveChangefeed Sample.webhook takesAll Sample.cutDelivery "correct" =
      (.error ⟨.other "Error", "Invalid base64-encoded string", none, none⟩, []) := by
    simp only [receiveChangefeed, headers, accepted, receiveBody, undecoded]
  rw [raised]
  exact AnswersWebhook.not_raised

end Postmortem
