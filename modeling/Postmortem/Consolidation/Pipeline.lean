import Postmortem.Consolidation.Changefeed
import Postmortem.Consolidation.Recount
import Postmortem.Consolidation.Model
import Postmortem.Consolidation.Storage

/-!
# The consolidation processor

`ConsolidationProcessor.process` of `consolidation/postmortem_consolidation/pipeline.py` over
`S3WindowStore` and `CockroachRunbookRepository`. The handling of a closed window is the list of the
calls it makes once the rows are read: the model and the embedder read nothing that the calls change.
`fails` is a handling that ends early. `performAll_spec` says what a list of calls did: `AppliedAll`
for the database, and the rows that are still pending.
-/

namespace Postmortem

/-- What the processor writes to. -/
structure World where
  bucket : Bucket
  db : Database
deriving DecidableEq

/-- `ProcessingResult` -/
structure ProcessingResult where
  bufferedEvents : Nat := 0
  completedGroups : Nat := 0
  mutations : List RunbookMutation := []

/-- `ConsolidationProcessor`, with its components. -/
structure ConsolidationProcessor where
  rt : Runtime
  activation : Activation := {}
  model : ConsolidationModel
  /-- `EmbeddingModel.embed` -/
  embed : String → Except Raised Embedding

/-- A call made while a closed window is handled. -/
inductive Call where
  | apply (c : CandidateRunbook)
  | archive (result : ModelResult) (idempotencyKey : String)
  | delete (chunk : List ChangeEvent)
  | putWatermark (watermark : Decimal)
  | raise (e : Raised)

/-- What the environment decides of a call: the generated values and the clock. -/
structure CallEnv where
  generated : GeneratedRunbook
  archivedAt : Timestamp

/-- The local state of `process`. -/
structure Session extends World where
  mutations : List RunbookMutation := []

namespace ConsolidationProcessor

variable (p : ConsolidationProcessor)

/-- `embedded_result` -/
def embeddedResult (g : EpisodeGroup) : Except Raised ModelResult := do
  let result ← p.model.consolidate g
  let embedding ← p.embed result.candidate.triggerDesc
  return { result with candidate := { result.candidate with embedding } }

/-- The loop over the groups, for one group. -/
def groupCalls (g : EpisodeGroup) : List Call :=
  match p.embeddedResult g with
  | .error e => [.raise e]
  | .ok result => [.apply result.candidate, .archive result (g.idempotencyKey p.rt)]

/-- `completed_events` -/
def completedEvents (events : List ChangeEvent) : List ChangeEvent :=
  let completedEventIds := (groupCompletedIncidents p.rt events).flatMap fun g =>
    g.episodes.map ChangeEvent.eventId
  events.filter fun e => e.eventId ∈ completedEventIds

/-- `mark_processed` -/
def markProcessed (events : List ChangeEvent) (watermark : Decimal) : List Call :=
  (S3WindowStore.chunks 1000 events.length events).map .delete ++ [.putWatermark watermark]

/-- The calls once `read_through` has returned. -/
def calls (events : List ChangeEvent) (watermark : Decimal) : List Call :=
  (groupCompletedIncidents p.rt events).flatMap p.groupCalls ++
    markProcessed (p.completedEvents events) watermark

/-- One call. -/
def perform (env : CallEnv) (s : Session) : Call → Except Raised Session
  | .apply c => do
    let (db, mutation) ←
      CockroachRunbookRepository.apply p.rt p.activation c env.generated s.db
    return { s with db, mutations := s.mutations ++ [mutation] }
  | .archive result key =>
    .ok { s with bucket := S3WindowStore.archive p.rt result key env.archivedAt s.bucket }
  | .delete chunk => do
    let bucket ← S3WindowStore.delete p.rt chunk s.bucket
    return { s with bucket }
  | .putWatermark watermark =>
    .ok { s with bucket := S3WindowStore.putWatermark p.rt watermark s.bucket }
  | .raise e => .error e

/-- The calls in order; the first exception ends them. -/
def performAll : (Nat → CallEnv) → List Call → Session → Except Raised Session
  | _, [], s => .ok s
  | env, call :: calls, s => do
    let s ← p.perform (env 0) s call
    performAll (fun n => env (n + 1)) calls s

/-- `self._store.put(message)` -/
def buffer (e : ChangeEvent) (W : World) : Except Raised World := do
  let bucket ← S3WindowStore.put p.rt e W.bucket
  return { W with bucket }

/-- `process` -/
def process (env : Nat → CallEnv) (W : World) :
    QueueMessage → Except Raised (World × ProcessingResult)
  | .row e => do
    let W ← p.buffer e W
    return (W, { bufferedEvents := 1 })
  | .closed w => do
    let events ← S3WindowStore.readThrough p.rt w.watermark W.bucket
    let s ← p.performAll env (p.calls events w.watermark) { toWorld := W }
    return (s.toWorld, {
      completedGroups := (groupCompletedIncidents p.rt events).length
      mutations := s.mutations })

end ConsolidationProcessor

/-- Where the handling of a window fails: the calls that took effect, and the keys a deletion that
fails had removed. -/
structure Failure where
  calls : Nat
  deleted : List String := []

/-- The keys a call deletes. -/
def Call.keys (rt : Runtime) : Call → List String
  | .delete chunk => chunk.filterMap fun e => (S3WindowStore.pendingKey rt e).toOption
  | _ => []

/-- The candidate a call applies. -/
def Call.candidate? : Call → Option CandidateRunbook
  | .apply c => some c
  | _ => none

/-- The candidates that calls apply. -/
def Call.candidates (calls : List Call) : List CandidateRunbook := calls.filterMap Call.candidate?

namespace Failure

variable (rt : Runtime) (f : Failure) (calls : List Call)

/-- The calls that took effect. -/
def made : List Call := calls.take f.calls

/-- The calls that did not. -/
def due : List Call := calls.drop f.calls

/-- The keys that were deleted. -/
def keys : List String :=
  (f.made calls).flatMap (Call.keys rt) ++
    (((f.due calls).head?.toList.flatMap (Call.keys rt)).filter fun key => key ∈ f.deleted)

end Failure

/-- The bucket without the rows at these keys. -/
def Bucket.without (keys : List String) (b : Bucket) : Bucket :=
  { b with pending := b.pending.filter fun object => object.1 ∉ keys }

/-- What a handling of a closed window that fails leaves. -/
def ConsolidationProcessor.fails (p : ConsolidationProcessor) (env : Nat → CallEnv) (f : Failure)
    (w : ClosedWindow) (W : World) : Except Raised World := do
  let events ← S3WindowStore.readThrough p.rt w.watermark W.bucket
  let calls := p.calls events w.watermark
  let s ← p.performAll env (f.made calls) { toWorld := W }
  return { s.toWorld with bucket := s.bucket.without (f.keys p.rt calls) }

/-- Candidates that were applied in order. -/
inductive AppliedAll (rt : Runtime) (activation : Activation) :
    List CandidateRunbook → Database → Database → Prop where
  | nil {db} : AppliedAll rt activation [] db db
  | cons {c cs g db db' db'' m} :
    CockroachRunbookRepository.apply rt activation c g db = .ok (db', m) →
    AppliedAll rt activation cs db' db'' → AppliedAll rt activation (c :: cs) db db''

namespace AppliedAll

open CockroachRunbookRepository

variable {rt : Runtime} {activation : Activation} {cs : List CandidateRunbook} {db db' : Database}

lemma stored (applied : AppliedAll rt activation cs db db') : ∀ c ∈ cs, ids? c ≠ none := by
  induction applied with
  | nil =>
    intro c hc
    cases hc
  | cons h _ ih =>
    intro c hc
    obtain ⟨i, hi, _⟩ := apply_spec h
    rcases List.mem_cons.mp hc with rfl | hc
    · simp [hi]
    · exact ih c hc

lemma admitted (applied : AppliedAll rt activation cs db db') (adm : db.Admitted) :
    db'.Admitted := by
  induction applied with
  | nil => exact adm
  | cons h _ ih =>
    obtain ⟨_, _, done⟩ := apply_spec h
    exact ih (Applied.admitted adm done)

/-- On every shelf, candidates that were applied are a run. -/
lemma onShelf {k : RunbookName} (applied : AppliedAll rt activation cs db db') (adm : db.Admitted) :
    shelfOf k db' = Run.run (Shelf.step rt activation k) (shelfOf k db) cs := by
  induction applied with
  | nil => rfl
  | @cons c cs g db db' db'' m h _ ih =>
    obtain ⟨i, hi, done⟩ := apply_spec h
    obtain ⟨s, es, shelves⟩ := Applied.onShelf adm done
    rw [ih (Applied.admitted adm done), Run.run_cons, shelves k]
    congr 1
    simp only [Shelf.step, hi]
    split
    case isTrue name => rw [← name, es]
    case isFalse => rfl

end AppliedAll

section calls

variable {p : ConsolidationProcessor}

/-- What a list of calls did. -/
structure Performed (p : ConsolidationProcessor) (calls : List Call) (W W' : World) : Prop where
  db : AppliedAll p.rt p.activation (Call.candidates calls) W.db W'.db
  pending : W'.bucket.pending =
    (W.bucket.without (calls.flatMap (Call.keys p.rt))).pending

lemma mapM_pendingKey {rt chunk keys} (h : List.mapM (S3WindowStore.pendingKey rt) chunk = .ok keys) :
    (chunk.filterMap fun e => (S3WindowStore.pendingKey rt e).toOption) = keys := by
  induction chunk generalizing keys with
  | nil =>
    cases h
    rfl
  | cons e chunk ih =>
    rw [List.mapM_cons] at h
    obtain ⟨key, he, h⟩ := bind_ok h
    obtain ⟨rest, hr, h⟩ := bind_ok h
    cases h
    rw [List.filterMap_cons, he]
    exact congrArg _ (ih hr)

lemma without_without {b : Bucket} {keys keys' : List String} :
    ((b.without keys).without keys').pending = (b.without (keys ++ keys')).pending := by
  show List.filter _ (List.filter _ _) = List.filter _ _
  rw [List.filter_filter]
  apply List.filter_congr
  intro object _
  simp [Bool.and_comm]

lemma performAll_spec {env calls s s'} (h : p.performAll env calls s = .ok s') :
    Performed p calls s.toWorld s'.toWorld := by
  induction calls generalizing env s with
  | nil =>
    cases h
    exact ⟨.nil, by simp [Bucket.without]⟩
  | cons call calls ih =>
    obtain ⟨t, step, rest⟩ := bind_ok h
    have tail := ih rest
    cases call with
    | apply c =>
      obtain ⟨⟨db, m⟩, e, step⟩ := bind_ok step
      cases step
      exact ⟨.cons e tail.db, tail.pending⟩
    | archive result key =>
      cases step
      exact ⟨tail.db, tail.pending⟩
    | delete chunk =>
      obtain ⟨b, e, step⟩ := bind_ok step
      cases step
      obtain ⟨keys, ek, e⟩ := bind_ok e
      cases e
      refine ⟨tail.db, tail.pending.trans ?_⟩
      have head := mapM_pendingKey ek
      rw [List.flatMap_cons, Call.keys, head, ← without_without]
      rfl
    | putWatermark watermark =>
      cases step
      exact ⟨tail.db, tail.pending⟩
    | raise e => cases step

/-- What the handling of a closed window did. -/
lemma process_spec {env w r} {W W' : World} (h : p.process env W (.closed w) = .ok (W', r)) :
    ∃ events, S3WindowStore.readThrough p.rt w.watermark W.bucket = .ok events ∧
      Performed p (p.calls events w.watermark) W W' := by
  obtain ⟨events, read, h⟩ := bind_ok h
  obtain ⟨s, all, h⟩ := bind_ok h
  cases h
  exact ⟨events, read, performAll_spec all⟩

/-- What a handling that failed left. -/
lemma fails_spec {env f w} {W W' : World} (h : p.fails env f w W = .ok W') :
    ∃ events, S3WindowStore.readThrough p.rt w.watermark W.bucket = .ok events ∧
      AppliedAll p.rt p.activation (Call.candidates (f.made (p.calls events w.watermark))) W.db W'.db ∧
      W'.bucket.pending =
        (W.bucket.without (f.keys p.rt (p.calls events w.watermark))).pending := by
  obtain ⟨events, read, h⟩ := bind_ok h
  obtain ⟨s, all, h⟩ := bind_ok h
  cases h
  have did := performAll_spec all
  refine ⟨events, read, did.db, ?_⟩
  show List.filter _ s.bucket.pending = List.filter _ _
  rw [did.pending, Failure.keys]
  show List.filter _ (List.filter _ _) = List.filter _ _
  rw [List.filter_filter]
  apply List.filter_congr
  intro object _
  rw [← Bool.decide_and]
  apply decide_eq_decide.mpr
  exact and_iff_left_of_imp fun absent h => absent (List.mem_append_left _ h)

/-! ## The candidates of a window -/

/-- The order of the incidents. -/
def CandidateRunbook.incident (c : CandidateRunbook) : String ×ₗ String := toLex (c.orgId, c.incidentId)

/-- The candidate of a group, if the model and the embedder return one. -/
def ConsolidationProcessor.candidate? (p : ConsolidationProcessor) (g : EpisodeGroup) :
    Option CandidateRunbook := (p.embeddedResult g).toOption.map ModelResult.candidate

lemma candidate_spec {g c} (h : p.candidate? g = some c) : FromGroup g c := by
  unfold ConsolidationProcessor.candidate? at h
  cases e : p.embeddedResult g with
  | error => rw [e] at h; cases h
  | ok result =>
    rw [e] at h
    cases h
    obtain ⟨distilled, em, e⟩ := bind_ok e
    obtain ⟨_, _, e⟩ := bind_ok e
    cases e
    have from_group := p.model.fromGroup g distilled em
    exact ⟨from_group.orgId, from_group.agentId, from_group.incidentId, from_group.outcome,
      from_group.sources⟩

lemma candidates_groupCalls {groups : List EpisodeGroup} :
    Call.candidates (groups.flatMap p.groupCalls) = groups.filterMap p.candidate? := by
  induction groups with
  | nil => rfl
  | cons g groups ih =>
    rw [List.flatMap_cons, Call.candidates, List.filterMap_append, List.filterMap_cons]
    unfold ConsolidationProcessor.groupCalls ConsolidationProcessor.candidate? at *
    cases p.embeddedResult g with
    | error e => exact ih
    | ok result => exact congrArg _ ih

lemma candidates_markProcessed {events watermark} :
    Call.candidates (ConsolidationProcessor.markProcessed events watermark) = [] := by
  unfold Call.candidates ConsolidationProcessor.markProcessed
  rw [List.filterMap_append, List.filterMap_map]
  simp [Call.candidate?]

lemma candidates_sorted {events watermark} :
    (Call.candidates (p.calls events watermark)).Pairwise fun a b => a.incident < b.incident := by
  have split : Call.candidates (p.calls events watermark) =
      (groupCompletedIncidents p.rt events).filterMap p.candidate? := by
    unfold ConsolidationProcessor.calls
    rw [Call.candidates, List.filterMap_append]
    show Call.candidates _ ++ Call.candidates _ = _
    rw [candidates_groupCalls, candidates_markProcessed, List.append_nil]
  rw [split, List.pairwise_filterMap, groupCompletedIncidents, List.pairwise_filterMap]
  refine (incidentKeys_sorted events).imp ?_
  intro key key' lt g hg g' hg' c hc c' hc'
  obtain ⟨e, _⟩ := groupOf_spec hg
  obtain ⟨e', _⟩ := groupOf_spec hg'
  have own := candidate_spec hc
  have own' := candidate_spec hc'
  show toLex (c.orgId, c.incidentId) < toLex (c'.orgId, c'.incidentId)
  rw [own.orgId, own.incidentId, own'.orgId, own'.incidentId, e, e']
  exact lt

end calls

namespace Sample

/-- The row of an incident's outcome. -/
def outcomeRow (n : Fin 16) (outcome : String) : ChangeEvent where
  eventId := (Uuid.sample 6 n).text
  orgId := org.text
  agentId := agent.text
  incidentId := (incidentNumbered n).incidentId.text
  serviceId := service.text
  eventType := "outcome"
  content := "checked"
  occurredAt := 2000000
  updatedAt := .ofInt 1
  metadata := [("outcome", .str outcome)]

/-- The row of the first incident's alert. -/
def alertRow : ChangeEvent :=
  { outcomeRow 0 "success" with
    eventId := (Uuid.sample 6 2).text
    eventType := "alert"
    content := "checkout down"
    occurredAt := 1000000
    metadata := [("service_name", .str "checkout")] }

/-- The digests of the texts that the examples hash. -/
def windowDigests : List (String × String) := [
  ("row:" ++ (outcomeRow 0 "").eventId ++ ":1",
    "d9bb5f18f49ad450c96848e908a4876bca0b7c6d9d3aceefaa3b88e4dc476d81"),
  ("row:" ++ (outcomeRow 1 "").eventId ++ ":1",
    "992ac566532cef46f3ae8eedd903ce24e90b73f37e45b813974d40974d188044"),
  ("row:" ++ alertRow.eventId ++ ":1",
    "a257a8728a653cc382b5d825f58cbc28566f3eb8f2e35f7969e91889cfc1db28"),
  (org.text ++ ":" ++ (incidentNumbered 0).incidentId.text ++ ":" ++ (outcomeRow 0 "").eventId,
    "9d167fbc3056902410432bf2963b546ae40f7b44f8bc781b496264cf5a67a2d3"),
  (org.text ++ ":" ++ (incidentNumbered 1).incidentId.text ++ ":" ++ (outcomeRow 1 "").eventId,
    "cb43f12c909c4df29edfac54fc98e1061e78d8ded26c40656e27a5b15863726f"),
  (org.text ++ ":" ++ (incidentNumbered 0).incidentId.text ++ ":" ++ (outcomeRow 0 "").eventId ++
    "|" ++ alertRow.eventId,
    "d86a05d615d2e61197599cafcc397ae9f047ea8e402fb01331ef54ffb9e905b4"),
  ("[\x7b\"action\":\"verify_signature\",\"expected\":\"checked\",\"order\":1,\"tool\":\"get_operational_state\"\x7d,\x7b\"action\":\"escalate\",\"order\":2,\"params\":\x7b\x7d,\"tool\":\"remediate_and_record\"\x7d,\x7b\"action\":\"verify_slo_recovery\",\"order\":3,\"tool\":\"get_operational_state\"\x7d]",
    "0c6bee6402242b8019e76897d0511f18d371606d6ac6e1e3dfecb4a97ecd56ab"),
  ("[\x7b\"action\":\"verify_signature\",\"expected\":\"checkout down\",\"order\":1,\"tool\":\"get_operational_state\"\x7d,\x7b\"action\":\"escalate\",\"order\":2,\"params\":\x7b\x7d,\"tool\":\"remediate_and_record\"\x7d,\x7b\"action\":\"verify_slo_recovery\",\"order\":3,\"tool\":\"get_operational_state\"\x7d]",
    "5788a834d48ba79373d6c4c814c1b4a1ad7dc3e6401ee96df09cf301f3adaf61")]

/-- The processor with the deterministic model. -/
def processor : ConsolidationProcessor where
  rt := { Runtime.sample with sha256 := fun s => (Assoc.get windowDigests s).getD "" }
  model := DeterministicConsolidationModel.model Runtime.sample
  embed _ := .ok embedding

/-- A window that closes after these rows. -/
def window : ClosedWindow := ⟨.ofInt 2⟩

/-- The bucket with these rows pending. -/
def bucket (rows : List ChangeEvent) : Bucket where
  pending := rows.map fun e =>
    ("1970/01/01/00/" ++ e.deduplicationId processor.rt ++ ".json", e.fields processor.rt)

/-- The rows' episodes are stored. -/
def episodes : Database :=
  { busy with episodicEvents := [0, 1, 2].map fun n => { observation with eventId := .sample 6 n } }

/-- The calls of a handling generate identifiers of their own. -/
def callEnv (block : Fin 16) (n : Nat) : CallEnv := ⟨⟨n, .sample (.ofNat 16 n) block⟩, n⟩

lemma episodes_admitted : episodes.Admitted := by
  constructor
  case incidents =>
    show (busy.incidents.map Incident.incidentId).Nodup
    decide +kernel
  case episodicEvents =>
    show ([0, 1, 2].map fun n => Uuid.sample 6 n).Nodup
    decide +kernel
  all_goals simp [episodes, busy, db, observation, incidentNumbered, Table.Unique, References]

end Sample

end Postmortem
