import Postmortem.Backend.Atomicity
import Postmortem.Backend.Bedrock
import Postmortem.Backend.Eligibility
import Postmortem.Backend.RecalledOutcomes

/-!
# The citation, at the application's gates and at the database's

A command cites a recalled candidate. `CopyOf` says what a ranked candidate is a copy of, so the
gate `provenance` always finds the cited row (`citation_provenance`). The gate `runbook_gate` also asks
that the runbook of the candidate is active: recall asks that of a runbook it returns, and not of the
runbook an episode points at. `citation_accepted_iff` is the whole comparison.
-/

namespace Postmortem

/-! ## What ranking keeps of a candidate -/

section ranking

open RecallRanker

/-- The ranked candidate refers to what the candidate refers to, and is marked actionable or not. -/
structure Scored (item item' : MemoryCandidate) (mark : Bool) : Prop where
  memoryId : item'.memoryId = item.memoryId
  kind : item'.kind = item.kind
  runbookId : item'.runbookId = item.runbookId
  marked : (Dict.getD item'.metadata "actionable" (.bool true)).truthy = mark

lemma Dict.getD_of_get {d : Dict} {k v default} (h : d.get k = v) (ne : v ≠ .null) :
    d.getD k default = v := by
  unfold Dict.get Dict.getD at h
  unfold Dict.getD
  generalize Assoc.get d k = found at h
  cases found with
  | none => exact absurd h.symm ne
  | some w => exact h

/-- Ranking writes the mark once. -/
lemma ranked_scored {item score mark rest} (other : ∀ f ∈ rest, f.1 ≠ "actionable") :
    Scored item (ranked item score (("actionable", .bool mark) :: rest)) mark := by
  have written : (ranked item score (("actionable", .bool mark) :: rest)).metadata.get "actionable" =
      .bool mark := (Dict.get_update_of_not_mem other).trans Dict.get_set_self
  refine ⟨rfl, rfl, rfl, ?_⟩
  rw [Dict.getD_of_get written (by simp)]
  rfl

lemma scoreEpisode_scored {rt policy query item item'} (h : scoreEpisode rt policy query item = .ok item') :
    Scored item item' (actionable item) := by
  obtain ⟨recency, _, e⟩ := bind_ok h
  cases e
  exact ranked_scored (by simp)

lemma scoreFact_scored {rt policy query item item'} (h : scoreFact rt policy query item = .ok item') :
    Scored item item' false := by
  obtain ⟨recency, _, e⟩ := bind_ok h
  cases e
  exact ranked_scored (by simp)

lemma scoreRunbook_scored {rt policy query item item'} (h : scoreRunbook rt policy query item = .ok item') :
    Scored item item' true := by
  obtain ⟨_, _, h⟩ := bind_ok h
  obtain ⟨_, _, h⟩ := bind_ok h
  obtain ⟨_, _, h⟩ := bind_ok h
  obtain ⟨_, _, h⟩ := bind_ok h
  obtain ⟨_, _, e⟩ := bind_ok h
  cases e
  exact ranked_scored (by simp)

/-- A candidate of a ranked bundle is a scored one of its kind. -/
lemma rank_scored {rt policy query episodes facts runbooks bundle item'}
    (h : rank rt policy query episodes facts runbooks = .ok bundle) (mem : item' ∈ bundle.allCandidates) :
    (∃ item ∈ episodes, scoreEpisode rt policy query item = .ok item') ∨
      (∃ item ∈ facts, scoreFact rt policy query item = .ok item') ∨
      ∃ item ∈ runbooks, scoreRunbook rt policy query item = .ok item' := by
  obtain ⟨fromEpisode, fromFact, fromRunbook⟩ := rank_spec h
  rcases List.mem_append.mp mem with mem | mem
  · rcases List.mem_append.mp mem with mem | mem
    · obtain ⟨item, hi, _, scored⟩ := fromEpisode item' mem
      exact .inl ⟨item, hi, scored⟩
    · obtain ⟨item, hi, _, scored⟩ := fromFact item' mem
      exact .inr (.inl ⟨item, hi, scored⟩)
  · obtain ⟨item, hi, _, scored⟩ := fromRunbook item' mem
    exact .inr (.inr ⟨item, hi, scored⟩)

end ranking

/-! ## What recall reads -/

/-- What a ranked candidate is a copy of. Facts are not actionable. -/
inductive CopyOf (org : Uuid) (db : Database) (item : MemoryCandidate) : Prop where
  | episode (e : EpisodicEvent) (stored : e ∈ db.episodicEvents) (mine : e.orgId = org)
    (kind : item.kind = .episodic) (memoryId : item.memoryId = e.eventId)
    (runbookId : item.runbookId = e.runbookId)
  | fact (blocked : (Dict.getD item.metadata "actionable" (.bool true)).truthy = false)
  | runbook (r : Runbook) (stored : r ∈ db.proceduralMemory) (mine : r.orgId = org)
    (active : r.status = .active) (kind : item.kind = .procedural) (memoryId : item.memoryId = r.runbookId)
    (runbookId : item.runbookId = some r.runbookId)

/-- A candidate of a recalled bundle is a copy of a row of the organization. -/
lemma recall_copyOf {rt ann policy env query db bundle item}
    (h : CockroachRecallAdapter.recall rt ann policy env query db = .ok bundle) (mem : item ∈ bundle.allCandidates) :
    CopyOf query.orgId db item := by
  obtain ⟨cold, ranked⟩ | ⟨_, limit, runbooks, bundle', _, hr, hb, rfl⟩ :=
    CockroachRecallAdapter.recall_ranked h
  · obtain ⟨episodes, facts, runbooks⟩ := RecallRanker.rank_cold cold ranked
    unfold RecallBundle.allCandidates at mem
    rw [episodes, facts, runbooks] at mem
    cases mem
  obtain ⟨source, hi, scored⟩ | ⟨source, _, scored⟩ | ⟨source, hi, scored⟩ := rank_scored hb mem
  · obtain ⟨row, hrow, rfl⟩ := List.mem_map.mp hi
    obtain ⟨stored, admitted, _⟩ := mem_episodicRecallSql hrow
    have same := scoreEpisode_scored scored
    exact .episode row.episode stored admitted.1 same.kind same.memoryId same.runbookId
  · exact .fact (scoreFact_scored scored).marked
  · obtain ⟨row, hrow, read⟩ := (mapM_ok hr).1 _ hi
    obtain ⟨⟨r, s⟩, hn, rfl⟩ := List.mem_map.mp hrow
    obtain ⟨stored, admitted⟩ := List.mem_filter.mp (mem_nearest hn)
    obtain ⟨mine, active, _⟩ := of_decide_eq_true admitted
    obtain ⟨steps, _, e⟩ := bind_ok read
    cases e
    have same := scoreRunbook_scored scored
    exact .runbook r stored mine active same.kind same.memoryId same.runbookId

/-! ## What the reasoner's answer becomes -/

/-- The decision cites a candidate that passed the gate of `_parse_decision`. -/
structure Cites (signal : IncidentSignal) (memory : RecallBundle) (decision : AgentDecision)
    (c : RemediationCommand) (candidate : MemoryCandidate) : Prop where
  known : candidate ∈ memory.allCandidates
  actionable : (Dict.getD candidate.metadata "actionable" (.bool true)).truthy = true
  command : decision.command = some c
  orgId : c.orgId = signal.orgId
  incidentId : c.incidentId = signal.incidentId
  serviceId : c.serviceId = signal.serviceId
  citedMemoryId : c.citedMemoryId = candidate.memoryId
  runbookId : c.runbookId = citedRunbook candidate
  action : c.action = .rollback ∨ c.action = .restart

lemma Parsed.cites {rt raw signal memory decision a f candidate}
    (h : Parsed rt raw signal memory decision a f candidate) :
    Cites signal memory decision (citingCommand signal candidate a f) candidate := by
  constructor
  case known => exact List.mem_reverse.mp (List.mem_of_find?_eq_some h.known)
  case actionable => exact h.actionable
  case command => exact h.command
  case action => exact h.action
  all_goals rfl

/-- A remediation that is parsed cites a candidate. -/
lemma parseDecision_cites {rt raw signal memory decision}
    (h : parseDecision rt raw signal memory = .ok decision) (remediates : decision.kind = .remediate) :
    ∃ c candidate, Cites signal memory decision c candidate := by
  obtain ⟨a, f, candidate, parsed⟩ := parseDecision_parsed h remediates
  exact ⟨_, candidate, parsed.cites⟩

/-! ## What the database says -/

/-- The runbook the candidate points at, if any, is an active one of the organization. -/
def RunbookUsable (org : Uuid) (db : Database) (candidate : MemoryCandidate) : Prop :=
  ∀ id, candidate.runbookId = some id →
    ∃ r ∈ db.proceduralMemory, r.runbookId = id ∧ r.orgId = org ∧ r.status = .active

section gates

variable {rt : Runtime} {signal : IncidentSignal} {memory : RecallBundle} {decision : AgentDecision}
  {c : RemediationCommand} {candidate : MemoryCandidate} {embedding : Embedding} {db : Database}

lemma citation_provenance (cites : Cites signal memory decision c candidate)
    (read : CopyOf signal.orgId db candidate) : Provenance (remediationParams rt c embedding) db := by
  cases read with
  | episode e stored mine kind memoryId runbookId =>
    left
    exact ⟨e, stored, mine.trans cites.orgId.symm, (cites.citedMemoryId.trans memoryId).symm⟩
  | fact blocked => cases blocked.symm.trans cites.actionable
  | runbook r stored mine active kind memoryId runbookId =>
    right
    exact ⟨r, stored, mine.trans cites.orgId.symm, (cites.citedMemoryId.trans memoryId).symm⟩

/-- The command cites the runbook the candidate points at. -/
lemma citedRunbook_eq (cites : Cites signal memory decision c candidate)
    (read : CopyOf signal.orgId db candidate) : c.runbookId = candidate.runbookId := by
  rw [cites.runbookId]
  unfold citedRunbook
  cases read with
  | episode e stored mine kind memoryId runbookId => simp [kind]
  | fact blocked => cases blocked.symm.trans cites.actionable
  | runbook r stored mine active kind memoryId runbookId => simp [kind, memoryId, runbookId]

/-- The runbook gate asks for the runbook of the candidate. -/
lemma citation_runbookGate (cites : Cites signal memory decision c candidate)
    (read : CopyOf signal.orgId db candidate) :
    RunbookGate (remediationParams rt c embedding) db ↔ RunbookUsable signal.orgId db candidate := by
  have same : (remediationParams rt c embedding).runbookId = candidate.runbookId :=
    citedRunbook_eq cites read
  have org : (remediationParams rt c embedding).orgId = signal.orgId := cites.orgId
  unfold RunbookGate RunbookUsable
  rw [same, org]
  cases candidate.runbookId with
  | none => simp
  | some id =>
    constructor
    · rintro (⟨⟨⟩⟩ | ⟨r, stored, mine, named, active⟩) id' ⟨⟩
      exact ⟨r, stored, (Option.some.inj named).symm, mine, active⟩
    · intro usable
      obtain ⟨r, stored, rfl, mine, active⟩ := usable id rfl
      exact .inr ⟨r, stored, mine, rfl, active⟩

/-- Recall returns active runbooks only. -/
lemma procedural_usable (read : CopyOf signal.orgId db candidate)
    (procedural : candidate.kind = .procedural) (actionable : (Dict.getD candidate.metadata "actionable"
      (.bool true)).truthy = true) : RunbookUsable signal.orgId db candidate := by
  cases read with
  | episode e stored mine kind => cases kind.symm.trans procedural
  | fact blocked => cases blocked.symm.trans actionable
  | runbook r stored mine active kind memoryId runbookId =>
    intro id named
    rw [runbookId] at named
    cases named
    exact ⟨r, stored, rfl, mine, active⟩

/-- The incident is open or mitigating, with the organization and the service of the signal. -/
def IncidentActive (signal : IncidentSignal) (db : Database) : Prop :=
  ∃ i ∈ db.incidents, i.orgId = signal.orgId ∧ i.incidentId = signal.incidentId ∧
    i.serviceId = signal.serviceId ∧ (i.status = .open ∨ i.status = .mitigating)

instance : Decidable (IncidentActive signal db) :=
  inferInstanceAs (Decidable (∃ i ∈ db.incidents, _))

/-- The gate on the incident asks for the service too. -/
lemma citation_target (cites : Cites signal memory decision c candidate)
    (incident : IncidentActive signal db) :
    Target (remediationParams rt c embedding) db ↔ ServiceOfOrg c db := by
  obtain ⟨i, stored, org, id, service, status⟩ := incident
  constructor
  · rintro ⟨j, _, jo, _, js, _, s, hs, es, eo⟩
    exact ⟨s, hs, es.trans js, eo.trans jo⟩
  · rintro ⟨s, hs, es, eo⟩
    exact ⟨i, stored, org.trans cites.orgId.symm, id.trans cites.incidentId.symm,
      service.trans cites.serviceId.symm, status, s, hs,
      (es.trans cites.serviceId).trans service.symm, (eo.trans cites.orgId).trans org.symm⟩

/-- The statement commits where its gates pass and no unique key is in the way. -/
lemma accepted_iff_gates {p g action} (ha : deployAction? p.action = some action) (unused : ¬ KeyTaken p db)
    (fresh : ¬ Collides g db) :
    (∃ db' row, remediateAndRecordSql p g db = .ok (db', some row)) ↔ Gates p db := by
  by_cases gates : Gates p db
  · rw [remediateAndRecordSql_fresh ha gates unused fresh]
    exact ⟨fun _ => gates, fun _ => ⟨_, _, rfl⟩⟩
  · rw [remediateAndRecordSql_gated gates]
    constructor
    · rintro ⟨_, _, ⟨⟩⟩
    · exact fun h => absurd h gates

end gates

/-- A remediation that cites a recalled memory always meets the provenance gate. It meets the runbook
gate exactly if the runbook of the candidate, if any, is an active one of the organization, which a
recalled runbook always is; and then the statement accepts it. -/
theorem citation_accepted_iff {rt ann policy env query db bundle raw signal decision embedding}
    (recalled : CockroachRecallAdapter.recall rt ann policy env query db = .ok bundle) (org : query.orgId = signal.orgId)
    (parsed : parseDecision rt raw signal bundle = .ok decision) (remediates : decision.kind = .remediate)
    (incident : IncidentActive signal db) :
    ∃ c candidate, Cites signal bundle decision c candidate ∧
      Provenance (remediationParams rt c embedding) db ∧
      (RunbookGate (remediationParams rt c embedding) db ↔ RunbookUsable signal.orgId db candidate) ∧
      (candidate.kind = .procedural → RunbookUsable signal.orgId db candidate) ∧
      ∀ g, ¬ KeyTaken (remediationParams rt c embedding) db → ¬ Collides g db →
        ((∃ db' row, remediateAndRecordSql (remediationParams rt c embedding) g db = .ok (db', some row)) ↔
          RunbookUsable signal.orgId db candidate ∧ ServiceOfOrg c db) := by
  obtain ⟨c, candidate, cites⟩ := parseDecision_cites parsed remediates
  have read : CopyOf signal.orgId db candidate := by
    rw [← org]
    exact recall_copyOf recalled cites.known
  have provenance := @citation_provenance rt _ _ _ _ _ embedding _ cites read
  have runbook := @citation_runbookGate rt _ _ _ _ _ embedding _ cites read
  refine ⟨c, candidate, cites, provenance, runbook, ?_, ?_⟩
  · intro procedural
    exact procedural_usable read procedural cites.actionable
  · intro g unused fresh
    have supported : ∃ action, deployAction? (remediationParams rt c embedding).action = some action := by
      rcases cites.action with e | e
      · exact ⟨.rollback, by rw [show (remediationParams rt c embedding).action = .rollback from e]; rfl⟩
      · exact ⟨.restart, by rw [show (remediationParams rt c embedding).action = .restart from e]; rfl⟩
    obtain ⟨action, ha⟩ := supported
    rw [accepted_iff_gates ha unused fresh, ← runbook, ← citation_target cites incident]
    constructor
    · rintro ⟨target, _, gate⟩
      exact ⟨gate, target⟩
    · rintro ⟨gate, target⟩
      exact ⟨target, provenance, gate⟩

/-! ## A runbook that was retired -/

namespace Sample

/-- The answer that proposes the rollback and cites the memory. -/
def answerText (cited : Uuid) : String :=
  "\x7b\"decision\": \"remediate_and_record\", \"cited_memory_id\": \"" ++ cited.text ++
    "\", \"action\": \"rollback\", \"target_version\": \"v1\"\x7d"

/-- The library on the answer that cites the rollback's episode. -/
def reading : Runtime :=
  { Runtime.sample with
    jsonLoads := fun s =>
      if s = answerText generated.eventId then
        some (.obj [
          ("decision", .str "remediate_and_record"),
          ("cited_memory_id", .str generated.eventId.text),
          ("action", .str "rollback"),
          ("target_version", .str "v1")])
      else none }

/-- A runbook for the rollback. -/
def guide : Runbook where
  runbookId := .sample 0 1
  orgId := org
  agentId := agent
  name := "roll back"
  version := 1
  status := .active
  triggerDesc := "errors after a deploy"
  embedding := none
  applicableServiceTags := []
  applicableErrorSignatures := []
  preconditions := .arr []
  steps := .arr []
  postconditions := .arr []
  usageCount := 0
  successCount := 0
  failureCount := 0
  successRate := 0
  lastUsedAt := none
  createdBy := "sre"
  createdAt := 0

/-- The example with the runbook and a second incident. -/
def guided : Database :=
  { db with
    incidents := [⟨incident, org, service, .open, none, 0, none, none⟩,
      ⟨.sample 15, org, service, .open, none, 0, none, none⟩]
    proceduralMemory := [guide] }

/-- The rollback of the first incident, which follows the runbook. -/
def guidedRollback : Op := .remediate (commits generated) { command with runbookId := some guide.runbookId } embedding

/-- The signal of the second incident. -/
def secondSignal : IncidentSignal where
  incidentId := .sample 15
  sessionId := session
  orgId := org
  agentId := agent
  serviceId := service
  severity := "SEV-1"
  summary := "errors again"
  observedAt := query.asOf

/-- The state in which the second incident is handled. -/
def guidedAfter (ops : List Op) : Database := Run.run (step config) guided ops

/-- What the second incident recalls. -/
def memories (ops : List Op) : Except Raised RecallBundle :=
  CockroachRecallAdapter.recall reading (AnnSearch.exact reading) {} (fun _ => none) query (guidedAfter ops)

/-- What the reasoner's answer becomes. -/
def decided (ops : List Op) : Except Raised AgentDecision := do
  let bundle ← memories ops
  parseDecision reading (answerText generated.eventId) secondSignal bundle

/-- The rollback of the second incident. -/
def again : RemediationCommand :=
  { command with
    incidentId := .sample 15
    citedMemoryId := generated.eventId
    runbookId := some guide.runbookId
    rationale := "" }

/-- The decision that proposes it. -/
def repeated : AgentDecision where
  kind := .remediate
  explanation := ""
  citedMemoryId := some generated.eventId
  command := some again

lemma guided_admitted : guided.Admitted := by
  constructor <;> simp [guided, guide, db, observation, Table.Unique, References]
  decide

end Sample

/-- The rollback of the second incident, by the runbook that is still active. -/
theorem citation_accepted_sample :
    ∃ bundle, Sample.memories [Sample.guidedRollback] = .ok bundle ∧
      parseDecision Sample.reading (Sample.answerText Sample.generated.eventId) Sample.secondSignal bundle =
        .ok Sample.repeated ∧
      ∃ db' row, remediateAndRecordSql
        (remediationParams Sample.reading Sample.again Sample.embedding) Sample.outcomeGenerated
        (Sample.guidedAfter [Sample.guidedRollback]) = .ok (db', some row) := by
  have decided : Sample.decided [Sample.guidedRollback] = .ok Sample.repeated := by decide +kernel
  obtain ⟨bundle, recalled, parsed⟩ := bind_ok decided
  refine ⟨bundle, recalled, parsed, ?_⟩
  have active : IncidentActive Sample.secondSignal (Sample.guidedAfter [Sample.guidedRollback]) := by
    decide +kernel
  obtain ⟨c, candidate, cites, _, gate, _, accepted⟩ :=
    @citation_accepted_iff _ _ _ _ _ _ _ _ _ _ Sample.embedding recalled rfl parsed rfl active
  cases cites.command
  have usable : RunbookUsable Sample.secondSignal.orgId (Sample.guidedAfter [Sample.guidedRollback]) candidate :=
    gate.mp (by decide +kernel)
  have service : ServiceOfOrg Sample.again (Sample.guidedAfter [Sample.guidedRollback]) := by
    unfold ServiceOfOrg
    decide +kernel
  exact (accepted Sample.outcomeGenerated (by decide +kernel) (by decide +kernel)).mpr ⟨usable, service⟩

/-- The runbook is retired after the rollback that followed it. The rollback's episode still points at
it, is recalled as actionable and is cited, and the statement does nothing. -/
theorem retired_runbook_rejected :
    (Sample.guidedAfter [Sample.guidedRollback, .retire Sample.guide.runbookId]).Admitted ∧
      IncidentActive Sample.secondSignal (Sample.guidedAfter [Sample.guidedRollback, .retire Sample.guide.runbookId]) ∧
      (∃ bundle candidate, Sample.memories [Sample.guidedRollback, .retire Sample.guide.runbookId] = .ok bundle ∧
        parseDecision Sample.reading (Sample.answerText Sample.generated.eventId) Sample.secondSignal bundle =
          .ok Sample.repeated ∧
        Cites Sample.secondSignal bundle Sample.repeated Sample.again candidate) ∧
      ¬ KeyTaken (remediationParams Sample.reading Sample.again Sample.embedding)
        (Sample.guidedAfter [Sample.guidedRollback, .retire Sample.guide.runbookId]) ∧
      ∀ g, remediateAndRecordSql (remediationParams Sample.reading Sample.again Sample.embedding) g
          (Sample.guidedAfter [Sample.guidedRollback, .retire Sample.guide.runbookId]) =
        .ok (Sample.guidedAfter [Sample.guidedRollback, .retire Sample.guide.runbookId], none) := by
  have decided : Sample.decided [Sample.guidedRollback, .retire Sample.guide.runbookId] = .ok Sample.repeated := by
    decide +kernel
  obtain ⟨bundle, recalled, parsed⟩ := bind_ok decided
  obtain ⟨c, candidate, cites⟩ := parseDecision_cites parsed rfl
  cases cites.command
  refine ⟨run_admitted Sample.guided_admitted, by decide +kernel,
    ⟨bundle, candidate, recalled, parsed, cites⟩, by decide +kernel, ?_⟩
  intro g
  apply remediateAndRecordSql_gated
  decide +kernel

end Postmortem
