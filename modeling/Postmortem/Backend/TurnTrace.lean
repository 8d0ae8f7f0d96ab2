import Postmortem.Backend.Service
import Postmortem.Lib.Protocol

/-!
# The events of a turn

`Follows` is the protocol of a turn: which event, or which return of the remediation port, may follow
which. `At` says that the log of a turn so far is a trace of the protocol, and by its last mark where
the turn stands; each stage has one lemma that says where it takes the turn. A turn whose sink does not
raise therefore leaves a complete trace (`handleSanitized_complete`), and `turn_protocol` reads the
order of its events off it.
-/

namespace Postmortem

/-- What an observer sees: an event, or a call of the remediation port that returned or raised. -/
inductive Mark where
  | event (type : EventType)
  | called (returned : Bool)
deriving DecidableEq

/-- The mark of an entry. -/
def Entry.mark : Entry → Mark
  | .published e => .event e.type
  | .remediated _ _ (.ok _) => .called true
  | .remediated _ _ (.error _) => .called false

/-- What may follow a mark. -/
def Mark.successors : Mark → List Mark
  | .event .incidentReceived => [.event .recallStarted]
  | .event .recallStarted => [.event .recallCompleted, .event .responseFailed]
  | .event .recallCompleted => [.event .reasoningStarted]
  | .event .reasoningStarted => [.event .decisionProposed, .event .responseFailed]
  | .event .decisionProposed =>
    [.event .actionProposed, .event .responseCompleted, .event .responseFailed]
  | .event .actionProposed =>
    [.event .approvalRequired, .event .transactionStarted, .event .responseFailed]
  | .event .approvalRequired => [.event .responseCompleted]
  | .event .transactionStarted => [.called true, .called false]
  | .called true => [.event .transactionCommitted, .event .transactionRolledBack]
  | .called false => [.event .transactionRolledBack]
  | .event .transactionCommitted => [.event .responseCompleted]
  | _ => []

/-- The protocol of a turn. -/
def Follows (a b : Mark) : Prop := b ∈ a.successors

instance {a b} : Decidable (Follows a b) := inferInstanceAs (Decidable (_ ∈ _))

/-- The events a turn ends with. -/
def EventType.Terminal (t : EventType) : Prop :=
  t = .responseCompleted ∨ t = .responseFailed ∨ t = .transactionRolledBack

instance {t : EventType} : Decidable t.Terminal := inferInstanceAs (Decidable (_ ∨ _ ∨ _))

section stages

open ResponderService

variable {σ : Type}

/-- The turn stands at the mark, with the flag `transaction_started`. -/
structure At (m : Mark) (started : Bool) (s : TurnState σ) : Prop where
  trace : Protocol.Partial Follows (.event .incidentReceived) m (s.log.map Entry.mark)
  flag : s.transactionStarted = started

/-- The turn stands where the handler of exceptions may take over. -/
def Fails (s : TurnState σ) : Prop :=
  ∃ m started, At m started s ∧ Follows m (.event (failure started))

/-- The turn stands where `response.completed` may follow. -/
def Acted (s : TurnState σ) : Prop :=
  ∃ m started, At m started s ∧ Follows m (.event .responseCompleted)

variable {rt : Runtime} {ports : Ports σ} {signal : IncidentSignal}

/-- A published event is one more mark. -/
lemma event_at {m started type stage message data} {E : Raised → TurnState σ → Prop}
    (quiet : ∀ n e, ports.publish n e = none) (follows : Follows m (.event type)) :
    Effect.Meets (At m started) (event ports signal type stage message data)
      (fun _ => At (.event type) started) E := by
  rintro s ⟨trace, flag⟩
  simp only [event, quiet]
  refine ⟨?_, flag⟩
  rw [List.map_append]
  exact trace.concat follows

/-- A call that does not touch the state fails or leaves the turn where it stands. -/
lemma lift_at {α : Type} {x : Except Raised α} {m started}
    (follows : Follows m (.event (failure started))) :
    Effect.Meets (At m started) (Effect.lift x : Turn σ α) (fun _ => At m started) (fun _ => Fails) := by
  apply Effect.Meets.lift
  · exact fun _ _ _ hs => hs
  · exact fun _ _ _ hs => ⟨m, started, hs, follows⟩

lemma recallStage_at (quiet : ∀ n e, ports.publish n e = none) :
    Effect.Meets (At (.event .incidentReceived) false) (recallStage rt ports signal)
      (fun _ => At (.event .recallCompleted) false) (fun _ => Fails) := by
  apply (event_at quiet (by decide)).bind
  intro _
  apply (lift_at (by decide)).bind
  intro _
  apply (lift_at (by decide)).bind
  intro _
  apply (lift_at (by decide)).bind
  intro _
  apply (lift_at (by decide)).bind
  intro _
  apply (event_at quiet (by decide)).bind
  intro _
  exact Effect.Meets.pure fun _ hs => hs

lemma reasonStage_at {memory} (quiet : ∀ n e, ports.publish n e = none) :
    Effect.Meets (At (.event .recallCompleted) false) (reasonStage ports signal memory)
      (fun _ => At (.event .decisionProposed) false) (fun _ => Fails) := by
  apply (event_at quiet (by decide)).bind
  intro _
  apply (lift_at (by decide)).bind
  intro _
  apply (lift_at (by decide)).bind
  intro _
  apply (event_at quiet (by decide)).bind
  intro _
  exact Effect.Meets.pure fun _ hs => hs

/-- Where the gates take the turn. -/
def Gated (embedding : Option Embedding) : TurnState σ → Prop :=
  match embedding with
  | none => At (.event .approvalRequired) false
  | some _ => At (.event .transactionStarted) false

lemma gateStage_at {memory approver command} (quiet : ∀ n e, ports.publish n e = none) :
    Effect.Meets (At (.event .decisionProposed) false)
      (gateStage rt ports signal memory approver command) Gated (fun _ => Fails) := by
  apply (lift_at (by decide)).bind
  intro _
  apply (lift_at (by decide)).bind
  intro _
  apply (lift_at (by decide)).bind
  intro _
  apply (event_at quiet (by decide)).bind
  intro _
  split
  · apply (event_at quiet (by decide)).bind
    intro _
    exact Effect.Meets.pure fun _ hs => hs
  · apply (lift_at (by decide)).bind
    intro _
    apply (lift_at (by decide)).bind
    intro _
    apply (event_at quiet (by decide)).bind
    intro _
    exact Effect.Meets.pure fun _ hs => hs

/-- The call of the port is one more mark. -/
lemma callRemediation_at {c embedding} {E : Raised → TurnState σ → Prop}
    (raised : ∀ e s, At (.called false) true s → E e s) :
    Effect.Meets (At (.event .transactionStarted) true) (callRemediation ports c embedding)
      (fun _ => At (.called true) true) E := by
  rintro s ⟨trace, flag⟩
  unfold callRemediation
  generalize ports.remediateAndRecord c embedding s.store = called
  obtain ⟨store, out⟩ := called
  cases out with
  | ok r =>
    refine ⟨?_, flag⟩
    rw [List.map_append]
    exact trace.concat (by decide)
  | error e =>
    apply raised
    refine ⟨?_, flag⟩
    rw [List.map_append]
    exact trace.concat (by decide)

lemma executeStage_at {command embedding} (quiet : ∀ n e, ports.publish n e = none) :
    Effect.Meets (At (.event .transactionStarted) false)
      (executeStage rt ports signal command embedding)
      (fun _ => At (.event .transactionCommitted) true) (fun _ => Fails) := by
  have flag : Effect.Meets (At (.event .transactionStarted) false)
      (Effect.update fun s : TurnState σ => { s with transactionStarted := true })
      (fun _ => At (.event .transactionStarted) true) (fun (_ : Raised) => Fails) :=
    Effect.Meets.update fun _ hs => ⟨hs.trace, rfl⟩
  apply flag.bind
  intro _
  apply (callRemediation_at fun _ _ hs => ⟨_, _, hs, by decide⟩).bind
  intro _
  apply (lift_at (by decide)).bind
  intro _
  apply (event_at quiet (by decide)).bind
  intro _
  exact Effect.Meets.pure fun _ hs => hs

lemma actStage_at {memory approved approver decision} (quiet : ∀ n e, ports.publish n e = none) :
    Effect.Meets (At (.event .decisionProposed) false)
      (actStage rt ports signal memory approved approver decision) (fun _ => Acted)
      (fun _ => Fails) := by
  unfold actStage
  split
  · apply (gateStage_at quiet).bind
    intro embedding
    cases embedding with
    | none => exact Effect.Meets.pure fun _ hs => ⟨_, _, hs, by decide⟩
    | some embedding =>
      apply (executeStage_at quiet).bind
      intro _
      exact Effect.Meets.pure fun _ hs => ⟨_, _, hs, by decide⟩
  · exact Effect.Meets.pure fun _ hs => ⟨_, _, hs, by decide⟩

/-- The turn is over. -/
def Ends (s : TurnState σ) : Prop :=
  ∃ t started, EventType.Terminal t ∧ At (.event t) started s

lemma recordStage_at {decision remediation} (quiet : ∀ n e, ports.publish n e = none) :
    Effect.Meets Acted (recordStage ports signal decision remediation) (fun _ => Ends)
      (fun _ => Fails (σ := σ)) := by
  rintro s ⟨m, started, hs, follows⟩
  have record : Effect.Meets (At m started) (recordStage ports signal decision remediation)
      (fun _ => Ends) (fun _ => Fails) := by
    apply (event_at quiet follows).bind
    intro _
    exact Effect.Meets.pure fun _ hs => ⟨_, _, .inl rfl, hs⟩
  exact record s hs

lemma respond_at {approved approver} (quiet : ∀ n e, ports.publish n e = none) :
    Effect.Meets (At (.event .incidentReceived) false) (respond rt ports signal approved approver)
      (fun _ => Ends) (fun _ => Fails) := by
  apply (recallStage_at quiet).bind
  intro _
  apply (reasonStage_at quiet).bind
  intro _
  apply (actStage_at quiet).bind
  intro _
  exact recordStage_at quiet

lemma failSafely_at {exc} (quiet : ∀ n e, ports.publish n e = none) :
    Effect.Meets Fails (failSafely ports signal exc) (fun _ => Ends) (fun _ => Ends) := by
  rintro s ⟨m, started, hs, follows⟩
  have terminal : (failure started).Terminal := by cases started <;> decide
  have last : Effect.Meets (At m started) (failureEvent ports signal exc started)
      (fun _ => Ends) (fun _ => Ends) :=
    (event_at quiet follows).mono (fun _ h => h) (fun _ _ h => ⟨_, _, terminal, h⟩) (fun _ _ h => h)
  have raised : ∀ u : Unit, Effect.Meets Ends (Effect.raise exc : Turn σ ResponseResult)
      (fun _ => Ends) (fun _ => Ends) := fun _ => Effect.Meets.raise fun _ h => h
  have run := last.bind raised s hs
  rw [← hs.flag] at run
  exact run

/-- A turn on a sanitized signal leaves a complete trace. -/
lemma handleSanitized_complete {approved approver store} (quiet : ∀ n e, ports.publish n e = none) :
    Protocol.Complete Follows (.event .incidentReceived) (fun m => ∃ t : EventType, m = .event t ∧ t.Terminal)
      ((handleSanitized rt ports signal approved approver { store }).2.log.map Entry.mark) := by
  have first : Effect.Meets (fun s => s = { store })
      (event ports signal .incidentReceived "perceive" ("Received " ++ signal.severity ++ " incident.") [
        ("service", .str signal.serviceId.text),
        ("service_id", .str signal.serviceId.text),
        ("severity", .str signal.severity),
        ("status", .str "open"),
        ("summary", .str signal.summary)])
      (fun _ => At (.event .incidentReceived) false) (fun _ => Ends) := by
    rintro s rfl
    simp only [event, quiet]
    exact ⟨Protocol.Partial.singleton, rfl⟩
  have turn : Effect.Meets (fun s => s = { store })
      (handleSanitized rt ports signal approved approver) (fun _ => Ends) (fun _ => Ends) :=
    first.bind fun _ => (respond_at quiet).attempt fun _ => failSafely_at quiet
  have ended : Ends (handleSanitized rt ports signal approved approver { store }).2 := by
    have run := turn { store } rfl
    generalize handleSanitized rt ports signal approved approver { store } = out at run
    obtain ⟨_ | _, _⟩ := out
    case ok => exact run
    case error => exact run
  obtain ⟨t, _, terminal, hs⟩ := ended
  exact hs.trace.complete ⟨t, rfl, terminal⟩

end stages

/-! ## The order of the events -/

/-- The type of a published event. -/
def Entry.type? : Entry → Option EventType
  | .published e => some e.type
  | .remediated _ _ _ => none

/-- The types of the events of a log. -/
def eventTypes (log : List Entry) : List EventType := log.filterMap Entry.type?

/-- The event of a mark. -/
def Mark.type? : Mark → Option EventType
  | .event t => some t
  | .called _ => none

lemma Mark.type?_eq_some {m : Mark} {t} : m.type? = some t ↔ m = .event t := by
  cases m <;> simp [Mark.type?]

lemma Mark.type?_eq_none {m : Mark} : m.type? = none ↔ ∃ ok, m = .called ok := by
  cases m <;> simp [Mark.type?]

/-- The protocol with the calls of the port hidden. -/
def FollowsEvent (a b : EventType) : Prop :=
  Follows (.event a) (.event b) ∨ ∃ ok, Follows (.event a) (.called ok) ∧ Follows (.called ok) (.event b)

instance {a b} : Decidable (FollowsEvent a b) := inferInstanceAs (Decidable (_ ∨ _))

/-- How far a turn has come. -/
def EventType.rank : EventType → Nat
  | .incidentReceived => 0
  | .recallStarted => 1
  | .recallCompleted => 2
  | .reasoningStarted => 3
  | .decisionProposed => 4
  | .actionProposed => 5
  | .approvalRequired | .transactionStarted => 6
  | .transactionCommitted => 7
  | .transactionRolledBack | .responseCompleted | .responseFailed | .outcomeRecorded => 8

/-- Each event takes the turn further. -/
lemma rank_lt {a b} (h : FollowsEvent a b) : a.rank < b.rank := by
  cases a <;> cases b <;> revert h <;> decide

lemma EventType.Terminal.stop {a b} (t : EventType.Terminal a) : ¬ FollowsEvent a b := by
  rcases t with rfl | rfl | rfl <;> cases b <;> decide

/-- What a turn promises of its events and of its calls of the remediation port. -/
structure TurnProtocol (log : List Entry) : Prop where
  starts : (eventTypes log).head? = some .incidentReceived
  ends : ∃ body last, eventTypes log = body ++ [last] ∧ last.Terminal ∧ ∀ t ∈ body, ¬ t.Terminal
  once : (eventTypes log).count .transactionStarted ≤ 1
  around : ∀ pre post, eventTypes log = pre ++ .transactionStarted :: post →
    (∃ pre', pre = pre' ++ [.actionProposed]) ∧
      ∃ t post', post = t :: post' ∧ (t = .transactionCommitted ∨ t = .transactionRolledBack)
  called : (∃ c embedding out, Entry.remediated c embedding out ∈ log) ↔
    .transactionStarted ∈ eventTypes log
  committed : ∀ pre e post, log = pre ++ .published e :: post → e.type = .transactionCommitted →
    (∃ pre' c embedding r, pre = pre' ++ [.remediated c embedding (.ok r)]) ∧
      ∃ e', post = [.published e'] ∧ e'.type = .responseCompleted
  exclusive : ¬ (.approvalRequired ∈ eventTypes log ∧ .transactionStarted ∈ eventTypes log)

section order

variable {log : List Entry}

/-- The events are the marks that are events. -/
lemma eventTypes_eq : eventTypes log = (log.map Entry.mark).filterMap Mark.type? := by
  rw [eventTypes, List.filterMap_map]
  congr 1
  funext entry
  cases entry with
  | published e => rfl
  | remediated c embedding out => cases out <;> rfl

/-- The events of a complete trace are one with the calls hidden. -/
lemma eventTypes_complete
    (h : Protocol.Complete Follows (.event .incidentReceived)
      (fun m => ∃ t : EventType, m = .event t ∧ t.Terminal) (log.map Entry.mark)) :
    Protocol.Complete FollowsEvent .incidentReceived EventType.Terminal (eventTypes log) := by
  rw [eventTypes_eq]
  refine h.project ?_ ?_ ?_ rfl ?_
  · intro a b x y ab ha hb
    rw [Mark.type?_eq_some.mp ha, Mark.type?_eq_some.mp hb] at ab
    exact .inl ab
  · intro a b c x y ab bc ha hb hc
    obtain ⟨ok, rfl⟩ := Mark.type?_eq_none.mp hb
    rw [Mark.type?_eq_some.mp ha] at ab
    rw [Mark.type?_eq_some.mp hc] at bc
    exact .inr ⟨ok, ab, bc⟩
  · intro a b ab ha hb
    obtain ⟨ok, rfl⟩ := Mark.type?_eq_none.mp ha
    obtain ⟨ok', rfl⟩ := Mark.type?_eq_none.mp hb
    revert ab
    cases ok <;> cases ok' <;> decide
  · rintro a ⟨t, rfl, terminal⟩
    exact ⟨t, rfl, terminal⟩

lemma mark_called {entry : Entry} {ok} (h : entry.mark = .called ok) :
    ∃ c embedding out, entry = .remediated c embedding out ∧ (ok = true → ∃ r, out = .ok r) := by
  cases entry with
  | published e => cases h
  | remediated c embedding out =>
    refine ⟨c, embedding, out, rfl, ?_⟩
    rintro rfl
    cases out with
    | ok r => exact ⟨r, rfl⟩
    | error e => cases h

lemma called_mark {c embedding out} : ∃ ok, (Entry.remediated c embedding out).mark = .called ok := by
  cases out with
  | ok r => exact ⟨true, rfl⟩
  | error e => exact ⟨false, rfl⟩

lemma mem_eventTypes {t} : t ∈ eventTypes log ↔ .event t ∈ log.map Entry.mark := by
  rw [eventTypes_eq, List.mem_filterMap]
  constructor
  · rintro ⟨m, hm, e⟩
    rwa [Mark.type?_eq_some.mp e] at hm
  · intro h
    exact ⟨_, h, rfl⟩

lemma before_called {m ok} (h : Follows m (.called ok)) : m = .event .transactionStarted := by
  cases m with
  | event t => cases t <;> cases ok <;> revert h <;> decide
  | called b => cases b <;> cases ok <;> revert h <;> decide

lemma after_started {m} (h : Follows (.event .transactionStarted) m) : ∃ ok, m = .called ok := by
  simp only [Follows, Mark.successors, List.mem_cons, List.not_mem_nil, or_false] at h
  rcases h with rfl | rfl
  · exact ⟨true, rfl⟩
  · exact ⟨false, rfl⟩

lemma before_committed {m} (h : Follows m (.event .transactionCommitted)) : m = .called true := by
  cases m with
  | event t => cases t <;> revert h <;> decide
  | called b => cases b <;> revert h <;> decide

lemma after_committed {m} (h : Follows (.event .transactionCommitted) m) :
    m = .event .responseCompleted := by
  simpa [Follows, Mark.successors] using h

lemma not_final {t : EventType} (h : ¬ t.Terminal) :
    ¬ ∃ t' : EventType, Mark.event t = .event t' ∧ t'.Terminal := by
  rintro ⟨t', e, terminal⟩
  cases e
  exact h terminal

section complete

variable (h : Protocol.Complete Follows (.event .incidentReceived)
  (fun m => ∃ t : EventType, m = .event t ∧ t.Terminal) (log.map Entry.mark))

include h

/-- Only the last event is terminal. -/
lemma ends_of_complete :
    ∃ body last, eventTypes log = body ++ [last] ∧ last.Terminal ∧ ∀ t ∈ body, ¬ t.Terminal := by
  have events := eventTypes_complete h
  obtain ⟨last, e, terminal⟩ := events.last
  obtain ⟨body, e⟩ := List.getLast?_eq_some_iff.mp e
  refine ⟨body, last, e, terminal, ?_⟩
  intro t ht terminal'
  obtain ⟨p, q, rfl⟩ := List.append_of_mem ht
  have split : eventTypes log = p ++ t :: (q ++ [last]) := by
    rw [e]
    simp
  have rest := events.ends split fun _ => terminal'.stop
  simp at rest

/-- `transaction.started` stands between `action.proposed` and how the transaction ended. -/
lemma around_of_complete {pre post} (e : eventTypes log = pre ++ .transactionStarted :: post) :
    (∃ pre', pre = pre' ++ [.actionProposed]) ∧
      ∃ t post', post = t :: post' ∧ (t = .transactionCommitted ∨ t = .transactionRolledBack) := by
  have events := eventTypes_complete h
  constructor
  · obtain ⟨pre', t, rfl, follows⟩ := events.before e (by decide)
    have : t = .actionProposed := by cases t <;> revert follows <;> decide
    exact ⟨pre', by rw [this]⟩
  · obtain ⟨t, post', rfl, follows⟩ := events.after e (by decide)
    refine ⟨t, post', rfl, ?_⟩
    cases t <;> revert follows <;> decide

/-- The port is called exactly where `transaction.started` is published. -/
lemma called_of_complete :
    (∃ c embedding out, Entry.remediated c embedding out ∈ log) ↔
      .transactionStarted ∈ eventTypes log := by
  rw [mem_eventTypes]
  constructor
  · rintro ⟨c, embedding, out, hc⟩
    obtain ⟨ok, mark⟩ := @called_mark c embedding out
    obtain ⟨pre, post, e⟩ := List.append_of_mem (List.mem_map.mpr ⟨_, hc, mark⟩)
    obtain ⟨pre', m, rfl, follows⟩ := h.before e (by simp)
    rw [e, before_called follows]
    simp
  · intro started
    obtain ⟨pre, post, e⟩ := List.append_of_mem started
    obtain ⟨m, post', rfl, follows⟩ := h.after e (not_final (by decide))
    obtain ⟨ok, rfl⟩ := after_started follows
    have mem : Mark.called ok ∈ log.map Entry.mark := by
      rw [e]
      simp
    obtain ⟨entry, hentry, mark⟩ := List.mem_map.mp mem
    obtain ⟨c, embedding, out, rfl, _⟩ := mark_called mark
    exact ⟨c, embedding, out, hentry⟩

/-- `transaction.committed` stands between the call that returned and the completed turn. -/
lemma committed_of_complete {pre e post} (split : log = pre ++ .published e :: post)
    (committed : e.type = .transactionCommitted) :
    (∃ pre' c embedding r, pre = pre' ++ [.remediated c embedding (.ok r)]) ∧
      ∃ e', post = [.published e'] ∧ e'.type = .responseCompleted := by
  have marks : log.map Entry.mark =
      pre.map Entry.mark ++ .event .transactionCommitted :: post.map Entry.mark := by
    rw [split, List.map_append, List.map_cons, Entry.mark, committed]
  constructor
  · obtain ⟨before, m, split, follows⟩ := h.before marks (by simp)
    obtain ⟨pre', last, rfl, _, single⟩ := List.map_eq_append_iff.mp split
    obtain ⟨entry, rfl, mark⟩ := List.map_eq_singleton_iff.mp single
    rw [before_committed follows] at mark
    obtain ⟨c, embedding, out, rfl, returned⟩ := mark_called mark
    obtain ⟨r, rfl⟩ := returned rfl
    exact ⟨pre', c, embedding, r, rfl⟩
  · obtain ⟨m, post', split, follows⟩ := h.after marks (not_final (by decide))
    obtain rfl := after_committed follows
    have last : log.map Entry.mark =
        (pre.map Entry.mark ++ [.event .transactionCommitted]) ++ .event .responseCompleted :: post' := by
      rw [marks, split]
      simp
    have none : post' = [] := h.ends last fun b hb => by cases hb
    rw [none] at split
    obtain ⟨entry, rfl, mark⟩ := List.map_eq_singleton_iff.mp split
    cases entry with
    | published e' => exact ⟨e', rfl, by simpa [Entry.mark] using mark⟩
    | remediated c embedding out => cases out <;> cases mark

lemma turnProtocol_of_complete : TurnProtocol log := by
  have events := eventTypes_complete h
  have ranks := events.rank_nodup fun _ _ => rank_lt
  constructor
  case starts => exact events.head
  case ends => exact ends_of_complete h
  case once => exact List.nodup_iff_count_le_one.mp ranks.of_map _
  case around => exact fun _ _ => around_of_complete h
  case called => exact called_of_complete h
  case committed => exact fun _ _ _ => committed_of_complete h
  case exclusive =>
    -- `approval.required` and `transaction.started` are as far into a turn
    rintro ⟨approval, started⟩
    have same := List.inj_on_of_nodup_map ranks approval started rfl
    cases same

end complete

end order

/-- The protocol of a turn. Where the sink does not raise, a rejected signal leaves no event, and every
other turn keeps the promises of `TurnProtocol`, whatever the other adapters return or raise. -/
theorem turn_protocol {σ : Type} {rt} {ports : Ports σ} {signal approved approver store}
    (quiet : ∀ n e, ports.publish n e = none) :
    (∀ e, sanitizeSignal rt signal = .error e →
      (ResponderService.handle rt ports signal approved approver { store }).2.log = []) ∧
    ∀ signal', sanitizeSignal rt signal = .ok signal' →
      TurnProtocol (ResponderService.handle rt ports signal approved approver { store }).2.log := by
  constructor
  · intro e he
    rw [ResponderService.handle_rejected rt ports signal he]
  · intro signal' hs
    rw [ResponderService.handle_accepted rt ports signal hs]
    exact turnProtocol_of_complete (handleSanitized_complete quiet)

/-! ## An example turn -/

namespace Sample

/-- The rollback the reasoner proposes, which cites the recalled episode. -/
def proposed : RemediationCommand where
  orgId := .sample 1
  agentId := .sample 2
  incidentId := .sample 3
  sessionId := .sample 4
  serviceId := .sample 5
  action := .rollback
  targetVersion := "v1"
  citedMemoryId := .sample 6
  runbookId := none
  rationale := "errors since v2"

/-- Adapters that answer; the store counts its calls. -/
def ports : Ports Nat where
  embed _ _ := .ok [1]
  «recall» _ := .ok (.value (bundleWith "action"))
  decide _ _ := .ok (.value
    { kind := .remediate
      explanation := "errors since v2"
      citedMemoryId := some (.sample 6)
      command := some proposed })
  remediateAndRecord _ _ n :=
    (n + 1, .ok (.value ⟨.sample 7, .sample 8, .sample 9, some (.sample 10), 0, "mitigating", "recovering"⟩))
  publish _ _ := none
  now := 0

end Sample

/-- A turn that commits. -/
theorem turn_protocol_sample :
    eventTypes (ResponderService.handle Runtime.sample Sample.ports (Sample.alert "SEV-1") false none
        { store := 0 }).2.log =
      [.incidentReceived, .recallStarted, .recallCompleted, .reasoningStarted, .decisionProposed,
        .actionProposed, .transactionStarted, .transactionCommitted, .responseCompleted] ∧
    TurnProtocol (ResponderService.handle Runtime.sample Sample.ports (Sample.alert "SEV-1") false none
        { store := 0 }).2.log := by
  have accepted : sanitizeSignal Runtime.sample (Sample.alert "SEV-1") = .ok (Sample.alert "SEV-1") := by
    decide +kernel
  refine ⟨by decide +kernel, ?_⟩
  exact (turn_protocol (by simp [Sample.ports])).2 _ accepted

end Postmortem
