import Postmortem.Resilience.Harness

/-!
# What a run of the harness asks

For each part of `ResilienceHarness.run` the events it adds to the history when it returns (`Harness.prepare_ok`,
`endure_ok`, `recover_ok`): the rows that were acknowledged, the identifiers that were drawn, the reads of the
tracked rows. A part that is not named here only looks (`Looks`).
-/

namespace Postmortem

namespace Resilience

open Interaction

/-- An event of the harness. -/
abbrev event (r : Request) (a : Answer r) : Event Answer := ⟨r, a⟩

/-! ## Rows and queries -/

/-- `CHECK (outcome IN ('success', 'failed', 'no_effect', 'pending'))` -/
def InsertedRow.Valid (row : InsertedRow) : Prop :=
  ∀ o ∈ row.outcome, o ∈ ["success", "failed", "no_effect", "pending"]

instance {row : InsertedRow} : Decidable row.Valid := inferInstanceAs (Decidable (∀ o ∈ row.outcome, _))

/-- The query asks for the row. -/
def Query.Matches (q : Query) (row : InsertedRow) : Prop :=
  q.table = row.table ∧ q.idColumn = row.idColumn ∧ q.rowId = row.rowId ∧ q.orgId = row.orgId ∧
    ∀ a ∈ q.agentId, row.agentId = some a

instance {q : Query} {row : InsertedRow} : Decidable (q.Matches row) := inferInstanceAs (Decidable (_ ∧ _ ∧ _ ∧ _ ∧ _))

/-! ## What an event is -/

/-- The rows of an insert that returned. -/
def acknowledgedBy : (r : Request) → Answer r → List InsertedRow
  | .insert _ rows, (answer : Except Raised Unit) =>
    match answer with
    | .ok _ => rows
    | .error _ => []
  | _, _ => []

/-- The rows of the inserts that returned. What `seed_baseline` and `record_probe` write is not among them: the
harness tracks neither. -/
def acknowledged (h : History) : List InsertedRow := h.flatMap fun e => acknowledgedBy e.1 e.2

/-- The rows of an insert, however it ended. -/
def sentBy : Request → List (List InsertedRow)
  | .insert _ rows => [rows]
  | _ => []

/-- The inserts that were sent. -/
def sent (h : History) : List (List InsertedRow) := h.flatMap fun e => sentBy e.1

/-- An identifier that was drawn. -/
def drawnBy : (r : Request) → Answer r → List String
  | .uuid4, (id : String) => [id]
  | _, _ => []

/-- The identifiers that were drawn. -/
def drawn (h : History) : List String := h.flatMap fun e => drawnBy e.1 e.2

/-- A request that neither writes a row, nor draws an identifier, nor stops or starts a node. -/
def Looks : Request → Prop
  | .uuid4 => False
  | .insert _ _ => False
  | .composeKill _ => False
  | .composeStart _ => False
  | _ => True

section histories

variable {h h' : History} {r : Request} {a : Answer r}

@[simp] lemma acknowledged_append : acknowledged (h ++ h') = acknowledged h ++ acknowledged h' := List.flatMap_append

@[simp] lemma sent_append : sent (h ++ h') = sent h ++ sent h' := List.flatMap_append

@[simp] lemma drawn_append : drawn (h ++ h') = drawn h ++ drawn h' := List.flatMap_append

@[simp] lemma acknowledged_nil : acknowledged [] = [] := rfl

@[simp] lemma sent_nil : sent [] = [] := rfl

@[simp] lemma drawn_nil : drawn [] = [] := rfl

@[simp] lemma acknowledged_cons : acknowledged (event r a :: h) = acknowledgedBy r a ++ acknowledged h := rfl

@[simp] lemma sent_cons : sent (event r a :: h) = sentBy r ++ sent h := rfl

@[simp] lemma drawn_cons : drawn (event r a :: h) = drawnBy r a ++ drawn h := rfl

/-- Without a transaction there are no rows. -/
lemma unsent_quiet (unsent : ∀ e ∈ h, sentBy e.1 = []) : acknowledged h = [] ∧ sent h = [] := by
  have quiet : ∀ r a, sentBy r = [] → acknowledgedBy r a = [] := by
    intro r a unsent
    cases r
    case insert => cases unsent
    all_goals rfl
  constructor
  · exact List.flatMap_eq_nil_iff.mpr fun e mem => quiet e.1 e.2 (unsent e mem)
  · exact List.flatMap_eq_nil_iff.mpr unsent

lemma Looks.unsent (looks : Looks r) : sentBy r = [] := by
  cases r
  case insert => cases looks
  all_goals rfl

/-- What looks adds no rows. -/
lemma looks_quiet (looks : ∀ e ∈ h, Looks e.1) : acknowledged h = [] ∧ sent h = [] :=
  unsent_quiet fun e mem => (looks e mem).unsent

end histories

/-! ## Requests that return -/

section requests

variable {env : Environment} {h h' : History} {S : Request → Prop}

lemma lift_checked_ok {α : Type} {x : Except Raised α} {a : α} :
    (Effect.lift (checked x) : Call α) h = (.ok a, h') ↔ x = .ok a ∧ h' = h := by
  rw [Effect.lift_ok_iff]
  cases x with
  | error e => exact iff_of_false (by rintro ⟨⟨⟩, _⟩) (by rintro ⟨⟨⟩, _⟩)
  | ok b =>
    constructor
    · rintro ⟨⟨⟩, rfl⟩
      exact ⟨rfl, rfl⟩
    · rintro ⟨⟨⟩, rfl⟩
      exact ⟨rfl, rfl⟩

lemma time_ok {t} (ran : time env h = (.ok t, h')) : h' = h ++ [event .time t] := by
  obtain ⟨rfl, rfl⟩ := ask_ok_iff.mp ran
  rfl

lemma perfCounter_ok {t} (ran : perfCounter env h = (.ok t, h')) : h' = h ++ [event .perfCounter t] := by
  obtain ⟨rfl, rfl⟩ := ask_ok_iff.mp ran
  rfl

lemma uuid4_ok {id} (ran : uuid4 env h = (.ok id, h')) : h' = h ++ [event .uuid4 id] := by
  obtain ⟨rfl, rfl⟩ := ask_ok_iff.mp ran
  rfl

/-- A request whose answer may be an exception. -/
lemma asked_ok {α : Type} {r : Request} {f : Answer r → Except Raised α} {a : α}
    (ran : (ask env r >>= fun x => (Effect.lift (checked (f x)) : Call α)) h = (.ok a, h')) :
    f (env h r) = .ok a ∧ h' = h ++ [event r (env h r)] := by
  obtain ⟨x, h₁, asked, ran⟩ := Effect.bind_ok_iff.mp ran
  obtain ⟨rfl, rfl⟩ := ask_ok_iff.mp asked
  obtain ⟨returned, rfl⟩ := lift_checked_ok.mp ran
  exact ⟨returned, rfl⟩

lemma insert_ok {node rows u} (ran : insert env node rows h = (.ok u, h')) :
    h' = h ++ [event (.insert node rows) (Except.ok () : Except Raised Unit)] := by
  obtain ⟨returned, rfl⟩ := asked_ok (r := .insert node rows) (f := fun x : Except Raised Unit => x) ran
  rw [returned]

lemma select_ok {node query row} (ran : select env node query h = (.ok row, h')) :
    h' = h ++ [event (.select node query) (Except.ok row : Except Raised (Option (Option String)))] := by
  obtain ⟨returned, rfl⟩ := asked_ok (r := .select node query) (f := fun x : Except Raised (Option (Option String)) => x) ran
  rw [returned]

lemma fetchLeaseRows_ok {node table rows} (ran : fetchLeaseRows env node table h = (.ok rows, h')) :
    h' = h ++ [event (.leaseRows node table) (Except.ok rows : Except Raised (List LeaseRow))] := by
  obtain ⟨returned, rfl⟩ := asked_ok (r := .leaseRows node table) (f := fun x : Except Raised (List LeaseRow) => x) ran
  rw [returned]

lemma looks_time : Asks Looks (time env) := .ask trivial

lemma looks_sleep {seconds} : Asks Looks (sleep env seconds) := .ask trivial

lemma looks_leaseRows {node table} : Asks Looks (fetchLeaseRows env node table) := .bind (.ask trivial) fun _ => .lift

lemma looks_setLeasePreference {node table region} : Asks Looks (setLeasePreference env node table region) :=
  .bind (.ask trivial) fun _ => .lift

lemma looks_rangeSnapshot {node table} : Asks Looks (rangeSnapshot env node table) := .bind (.ask trivial) fun _ => .lift

lemma looks_nodeStatus {node} : Asks Looks (nodeStatus env node) := .bind (.ask trivial) fun _ => .lift

lemma looks_select {node query} : Asks Looks (select env node query) := .bind (.ask trivial) fun _ => .lift

lemma looks_recordProbe {node orgId probe} : Asks Looks (recordProbe env node orgId probe) :=
  .bind (.ask trivial) fun _ => .lift

lemma looks_pollLeases {node table region timeoutS pollIntervalS start fuel seen} :
    Asks Looks (pollLeases env node table region timeoutS pollIntervalS start fuel seen) := by
  induction fuel generalizing seen with
  | zero => exact .raise
  | succ fuel ih =>
    refine .bind looks_time fun now => ?_
    split
    case isTrue =>
      refine .bind looks_leaseRows fun rows => ?_
      split
      case isTrue => exact .bind looks_time fun _ => .pure
      case isFalse => exact .bind looks_sleep fun _ => ih
    case isFalse => exact .bind looks_time fun _ => .pure

lemma looks_pinAndVerify {rt node region timeoutS pollIntervalS tables fuel} :
    Asks Looks (pinAndVerify env rt node region timeoutS pollIntervalS tables fuel) := by
  refine .bind (.forEach fun _ _ => looks_setLeasePreference) fun _ => ?_
  refine .bind (.forEach fun _ _ => .bind looks_time fun _ => looks_pollLeases) fun looked => ?_
  dsimp only
  split
  case isTrue => exact .pure
  case isFalse => exact .raise

lemma looks_pollStatus {node timeoutS pollIntervalS start good fuel seen} :
    Asks Looks (pollStatus env node timeoutS pollIntervalS start good fuel seen) := by
  have polled : Asks Looks (polledStatus env node) := by
    refine .bind (.ask trivial) fun answer => ?_
    split
    case h_1 => exact .pure
    case h_2 =>
      split
      case isTrue => exact .pure
      case isFalse => exact .raise
  induction fuel generalizing seen with
  | zero => exact .raise
  | succ fuel ih =>
    refine .bind looks_time fun now => ?_
    split
    case isTrue =>
      refine .bind polled fun rows => ?_
      split
      case isTrue => exact .bind looks_time fun _ => .pure
      case isFalse => exact .bind looks_sleep fun _ => ih
    case isFalse => exact .bind looks_time fun _ => .pure

end requests

/-! ## The probes -/

section probes

variable {env : Environment} {seed : SeedContext} {h h' : History}

/-- A transaction that returned. -/
abbrev committed (node : Rto.Node) (rows : List InsertedRow) : Event Answer :=
  event (.insert node rows) (Except.ok () : Except Raised Unit)

/-- A query that returned. -/
abbrev found (node : Rto.Node) (query : Query) (row : Option (Option String)) : Event Answer :=
  event (.select node query) (Except.ok row : Except Raised (Option (Option String)))

lemma writeThenRead_ok {marker agentId writer reader eventId row elapsedMs}
    (ran : writeThenRead env seed marker agentId writer reader h = (.ok (eventId, row, elapsedMs), h')) :
    ∃ start stop, h' = h ++ [event .uuid4 eventId, committed writer [episode seed eventId (marker eventId)],
      event .perfCounter start, found reader (contentQuery seed agentId eventId) row, event .perfCounter stop] := by
  obtain ⟨id, h₁, drew, ran⟩ := Effect.bind_ok_iff.mp ran
  obtain ⟨u, h₂, wrote, ran⟩ := Effect.bind_ok_iff.mp ran
  obtain ⟨timed, h₃, read, ran⟩ := Effect.bind_ok_iff.mp ran
  obtain ⟨start, h₄, clock, read⟩ := Effect.bind_ok_iff.mp read
  obtain ⟨row', h₅, seen, read⟩ := Effect.bind_ok_iff.mp read
  obtain ⟨stop, h₆, clock', read⟩ := Effect.bind_ok_iff.mp read
  cases read
  cases ran
  rw [perfCounter_ok clock', select_ok seen, perfCounter_ok clock, insert_ok wrote, uuid4_ok drew]
  exact ⟨start, stop, by simp⟩

/-- The read that looks whether a row is there. -/
def existsQuery (row : InsertedRow) : Query := ⟨row.table, row.idColumn, row.rowId, row.orgId, none, none⟩

lemma rowExists_ok {node row b} (ran : rowExists env node row h = (.ok b, h')) :
    ∃ seen : Option (Option String), b = seen.isSome ∧ h' = h ++ [found node (existsQuery row) seen] := by
  obtain ⟨seen, h₁, asked, ran⟩ := Effect.bind_ok_iff.mp ran
  cases ran
  exact ⟨seen, rfl, select_ok asked⟩

/-- What `probe_atomicity` asks. -/
def AtomicityRan (seed : SeedContext) (node : Rto.Node) (a : Atomicity) (events : History) : Prop :=
  ∃ (e b e' b' : Option (Option String)) (refused : Except Raised Unit),
    a.commitEpisodicPresent = e.isSome ∧ a.commitActionPresent = b.isSome ∧ a.abortEpisodicPresent = e'.isSome ∧
    a.abortActionPresent = b'.isSome ∧ (a.abortRaised = false ↔ refused = .ok ()) ∧
    events = [event .uuid4 a.eventId, event .uuid4 a.actionId, event .uuid4 a.abortEventId, event .uuid4 a.abortActionId,
      committed node (commitRows seed a.eventId a.actionId), found node (existsQuery (episode seed a.eventId "")) e,
      found node (existsQuery (action seed a.actionId "" "")) b,
      event (.insert node (abortRows seed a.abortEventId a.abortActionId)) refused,
      found node (existsQuery (episode seed a.abortEventId "")) e',
      found node (existsQuery (action seed a.abortActionId "" "")) b']

lemma probeAtomicity_ok {node a} (ran : probeAtomicity env seed node h = (.ok a, h')) :
    ∃ events, h' = h ++ events ∧ AtomicityRan seed node a events := by
  obtain ⟨eventId, h₁, drew₁, ran⟩ := Effect.bind_ok_iff.mp ran
  obtain ⟨actionId, h₂, drew₂, ran⟩ := Effect.bind_ok_iff.mp ran
  obtain ⟨abortEventId, h₃, drew₃, ran⟩ := Effect.bind_ok_iff.mp ran
  obtain ⟨abortActionId, h₄, drew₄, ran⟩ := Effect.bind_ok_iff.mp ran
  obtain ⟨u, h₅, wrote, ran⟩ := Effect.bind_ok_iff.mp ran
  obtain ⟨b₁, h₆, read₁, ran⟩ := Effect.bind_ok_iff.mp ran
  obtain ⟨b₂, h₇, read₂, ran⟩ := Effect.bind_ok_iff.mp ran
  obtain ⟨answer, h₈, asked, ran⟩ := Effect.bind_ok_iff.mp ran
  obtain ⟨b₃, h₉, read₃, ran⟩ := Effect.bind_ok_iff.mp ran
  obtain ⟨b₄, h₁₀, read₄, ran⟩ := Effect.bind_ok_iff.mp ran
  cases ran
  obtain ⟨e, rfl, seen₁⟩ := rowExists_ok read₁
  obtain ⟨b, rfl, seen₂⟩ := rowExists_ok read₂
  obtain ⟨e', rfl, seen₃⟩ := rowExists_ok read₃
  obtain ⟨b', rfl, seen₄⟩ := rowExists_ok read₄
  obtain ⟨answered, refusal⟩ := ask_ok_iff.mp asked
  rw [← answered] at refusal
  refine ⟨_, ?_, e, b, e', b', answer, rfl, rfl, rfl, rfl, ?_, rfl⟩
  · rw [seen₄, seen₃, refusal, seen₂, seen₁, insert_ok wrote, uuid4_ok drew₄, uuid4_ok drew₃, uuid4_ok drew₂,
      uuid4_ok drew₁]
    simp
  · rcases answer with _ | ⟨⟩
    · simp
    · simp

/-- The reads of the tracked rows, one for each in order. -/
abbrev reads (node : Rto.Node) (read : List (Rto.TrackedRow × Option (Option String))) : History :=
  read.map fun r => found node (trackedQuery r.1) r.2

lemma reads_of_each {node tracker read events}
    (each : Each (fun t (r : Rto.TrackedRow × Option (Option String)) e =>
      r.1 = t ∧ e = [found node (trackedQuery t) r.2]) tracker read events) :
    events = reads node read ∧ read.map Prod.fst = tracker := by
  induction each with
  | nil => exact ⟨rfl, rfl⟩
  | cons asked _ ih =>
    obtain ⟨rfl, rfl⟩ := asked
    obtain ⟨rfl, rfl⟩ := ih
    exact ⟨rfl, rfl⟩

lemma probeRpo_ok {node tracker phase result} (ran : probeRpo env node tracker phase h = (.ok result, h')) :
    ∃ read, h' = h ++ reads node read ∧ read.map Prod.fst = tracker ∧ result = rpoResult phase read := by
  obtain ⟨read, h₁, looped, ran⟩ := Effect.bind_ok_iff.mp ran
  cases ran
  obtain ⟨events, rfl, each⟩ := forEach_ok (Q := fun t r e => r.1 = t ∧ e = [found node (trackedQuery t) r.2]) (by
    intro t h r h' ran
    obtain ⟨row, h₁, asked, ran⟩ := Effect.bind_ok_iff.mp ran
    cases ran
    exact ⟨_, select_ok asked, rfl, rfl⟩) looped
  obtain ⟨rfl, rows⟩ := reads_of_each each
  exact ⟨read, rfl, rows, rfl⟩

/-- What the loop of `probe_rto` adds, from the log it starts with to the one it ends with. -/
inductive Attempts (seed : SeedContext) (p : Rto.Params) :
    Rto.Probing → Rto.Probing → Option Rto.FirstSuccess → History → Prop where
  | deadline {s : Rto.Probing} {now} : Attempts seed p s s none [event .time now]
  | success {s : Rto.Probing} {now start id stop elapsedMs firstSuccessAt} :
    Attempts seed p s
      { s with attemptsLog := s.attemptsLog ++ [⟨(Rto.rotation p s.attemptsLog.length).service,
        (Rto.rotation p s.attemptsLog.length).region, true, elapsedMs, none⟩] }
      (some ⟨firstSuccessAt, id, Rto.rotation p s.attemptsLog.length⟩)
      [event .time now, event .time start, event .uuid4 id,
        committed (Rto.rotation p s.attemptsLog.length) [attemptedRow seed id], event .time stop,
        event .time firstSuccessAt]
  | failed {s s' : Rto.Probing} {found now start id stop elapsedMs} {e : Raised} {rest : History} :
    Attempts seed p {
      attemptsLog := s.attemptsLog ++ [⟨(Rto.rotation p s.attemptsLog.length).service,
        (Rto.rotation p s.attemptsLog.length).region, false, elapsedMs, some e.cls.name⟩]
      killRegionFailedAttempts :=
        if (Rto.rotation p s.attemptsLog.length).region = p.killRegion then s.killRegionFailedAttempts + 1
        else s.killRegionFailedAttempts } s' found rest →
    Attempts seed p s s' found
      (event .time now :: event .time start :: event .uuid4 id ::
        event (.insert (Rto.rotation p s.attemptsLog.length) [attemptedRow seed id])
          (Except.error e : Except Raised Unit) :: event .time stop :: rest)

lemma rtoLoop_ok {p fuel s s' first} (ran : rtoLoop env seed p fuel s h = (.ok (s', first), h')) :
    ∃ events, h' = h ++ events ∧ Attempts seed p s s' first events := by
  induction fuel generalizing h s with
  | zero => cases ran
  | succ fuel ih =>
    obtain ⟨now, h₁, clock, ran⟩ := Effect.bind_ok_iff.mp ran
    obtain rfl := time_ok clock
    split at ran
    case isFalse =>
      cases ran
      exact ⟨_, rfl, .deadline⟩
    case isTrue =>
      obtain ⟨start, h₂, clock', ran⟩ := Effect.bind_ok_iff.mp ran
      obtain ⟨attempted, h₃, wrote, ran⟩ := Effect.bind_ok_iff.mp ran
      obtain ⟨stop, h₄, clock'', ran⟩ := Effect.bind_ok_iff.mp ran
      obtain ⟨id, h₅, drew, wrote⟩ := Effect.bind_ok_iff.mp wrote
      obtain ⟨answer, h₆, asked, wrote⟩ := Effect.bind_ok_iff.mp wrote
      obtain ⟨answered, e₆⟩ := ask_ok_iff.mp asked
      rw [← answered] at e₆
      cases wrote
      have e₄ := time_ok clock''
      rw [e₆, uuid4_ok drew, time_ok clock'] at e₄
      clear answered asked
      cases answer with
      | error e =>
        obtain ⟨rest, e', attempts⟩ := ih ran
        refine ⟨event .time now :: event .time start :: event .uuid4 id :: event (.insert _ _) _ :: event .time stop :: rest,
          ?_, .failed attempts⟩
        rw [e', e₄]
        simp
      | ok u =>
        obtain ⟨firstSuccessAt, h₇, clock₇, ran⟩ := Effect.bind_ok_iff.mp ran
        cases ran
        refine ⟨[event .time now, event .time start, event .uuid4 id, committed _ [attemptedRow seed id], event .time stop,
          event .time firstSuccessAt], ?_, .success⟩
        rw [time_ok clock₇, e₄]
        simp

/-- The loop is the one of `Rto`, in a world with the readings and the answers that it met. -/
lemma rtoLoop_world {p fuel s s' first} (ran : rtoLoop env seed p fuel s h = (.ok (s', first), h')) :
    ∃ w : Rto.World, Rto.loop w p fuel s = some (s', first) := by
  induction fuel generalizing h s with
  | zero => cases ran
  | succ fuel ih =>
    obtain ⟨now, h₁, _, ran⟩ := Effect.bind_ok_iff.mp ran
    split at ran
    case isFalse late =>
      cases ran
      exact ⟨⟨fun _ => now, fun _ _ => .error ""⟩, if_neg late⟩
    case isTrue within =>
      obtain ⟨start, h₂, _, ran⟩ := Effect.bind_ok_iff.mp ran
      obtain ⟨attempted, h₃, _, ran⟩ := Effect.bind_ok_iff.mp ran
      obtain ⟨stop, h₄, _, ran⟩ := Effect.bind_ok_iff.mp ran
      cases attempted with
      | error e =>
        -- the world of the later attempts, with this one put before them
        obtain ⟨w, looped⟩ := ih ran
        exact ⟨w.attempt s.attemptsLog.length now start stop (.error e.cls.name), (Rto.loop_failed within).trans looped⟩
      | ok eventId =>
        obtain ⟨firstSuccessAt, h₅, _, ran⟩ := Effect.bind_ok_iff.mp ran
        cases ran
        exact ⟨Rto.World.attempt ⟨fun _ => firstSuccessAt, fun _ _ => .error ""⟩ s.attemptsLog.length now start stop
          (.ok eventId), Rto.loop_answered within⟩

/-- The probe of a run is the one of `Rto`: what is proved of that one holds of it. -/
theorem probeRto_world {p : Rto.Params} {fuel out} (tracker : p.tracker = true)
    (ran : probeRto env seed p fuel h = (.ok out, h')) : ∃ w : Rto.World, Rto.probeRto w p fuel = some out := by
  obtain ⟨⟨s, found⟩, h₁, looped, ran⟩ := Effect.bind_ok_iff.mp ran
  cases ran
  obtain ⟨w, looped⟩ := rtoLoop_world looped
  refine ⟨w, ?_⟩
  rw [Rto.probeRto, looped, tracker]
  rfl

end probes

end Resilience

end Postmortem
