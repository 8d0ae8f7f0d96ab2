import Postmortem.Resilience.Phases

/-!
# The course of a run

The parts of `ResilienceHarness.run` one after another: what the run adds up to the kill (`prepare_ok`), up to the
restart (`endure_ok`) and after it (`recover_ok`), and the whole of a run that returns (`run_ok`).
-/

namespace Postmortem

namespace Resilience

open Interaction

/-! ## The leases -/

section leases

variable {env : Environment} {rt : Runtime} {node : Node} {table region : String} {timeoutS pollIntervalS : ℚ}
variable {h h' : History}

/-- A look at the leases of a table that returned. -/
abbrev looked (node : Rto.Node) (table : String) (rows : List LeaseRow) : Event Answer :=
  event (.leaseRows node table) (Except.ok rows : Except Raised (List LeaseRow))

/-- The leases of the table were seen, all in the region; the first of them is where the verification says. -/
def Seen (node : Rto.Node) (table region : String) (v : LeaseholderVerification) (events : History) : Prop :=
  ∃ rows, looked node table rows ∈ events ∧ rows ≠ [] ∧ (∀ row ∈ rows, row.In region) ∧
    v.sampleLeaseholderLocality = rows.head?.map LeaseRow.locality

lemma Seen.mono {v events events'} (seen : Seen node.toNode table region v events) (sub : events ⊆ events') :
    Seen node.toNode table region v events' := by
  obtain ⟨rows, mem, rest⟩ := seen
  exact ⟨rows, sub mem, rest⟩

lemma pollLeases_ok {start fuel seen v}
    (ran : pollLeases env node table region timeoutS pollIntervalS start fuel seen h = (.ok v, h')) :
    ∃ events, h' = h ++ events ∧ (v.verified = true → Seen node.toNode table region v events) := by
  induction fuel generalizing h seen with
  | zero => cases ran
  | succ fuel ih =>
    obtain ⟨now, h₁, clock, ran⟩ := Effect.bind_ok_iff.mp ran
    obtain rfl := time_ok clock
    split at ran
    case isFalse =>
      obtain ⟨stop, h₂, clock', ran⟩ := Effect.bind_ok_iff.mp ran
      cases ran
      rw [time_ok clock', List.append_assoc]
      exact ⟨_, rfl, fun verified => absurd verified Bool.false_ne_true⟩
    case isTrue =>
      obtain ⟨rows, h₂, asked, ran⟩ := Effect.bind_ok_iff.mp ran
      obtain rfl := fetchLeaseRows_ok asked
      split at ran
      case isTrue all =>
        obtain ⟨stop, h₃, clock', ran⟩ := Effect.bind_ok_iff.mp ran
        cases ran
        obtain ⟨some_rows, in_region⟩ := all
        refine ⟨[event .time now, looked node.toNode table rows, event .time stop], ?_, ?_⟩
        · rw [time_ok clock']
          simp
        · intro _
          refine ⟨rows, ?_, List.length_pos_iff.mp some_rows, ?_, rfl⟩
          · exact List.mem_cons_of_mem _ List.mem_cons_self
          · intro row mem
            simpa using List.filter_eq_self.mp (List.filter_sublist.eq_of_length in_region) row mem
      case isFalse =>
        obtain ⟨u, h₃, slept, ran⟩ := Effect.bind_ok_iff.mp ran
        obtain ⟨pause, rfl, _⟩ := looks_sleep.returned slept
        obtain ⟨events, rfl, seen⟩ := ih ran
        refine ⟨event .time now :: looked node.toNode table rows :: (pause ++ events), ?_, ?_⟩
        · simp
        · intro verified
          refine (seen verified).mono fun e mem => ?_
          exact List.mem_cons_of_mem _ (List.mem_cons_of_mem _ (List.mem_append_right _ mem))

/-- What the looks at the tables say of the pairs of a table and its verification. -/
lemma seen_of_each {tables looked events}
    (each : Each (fun table v e => v.verified = true → Seen node.toNode table region v e) tables looked events) :
    ∀ r ∈ tables.zip looked, r.2.verified = true → Seen node.toNode r.1 region r.2 events := by
  induction each with
  | nil => exact List.forall_mem_nil _
  | cons q _ ih =>
    refine List.forall_mem_cons.mpr ⟨fun verified => (q verified).mono (List.subset_append_left _ _), ?_⟩
    exact fun r mem verified => (ih r mem verified).mono (List.subset_append_right _ _)

lemma length_of_each {α β : Type} {Q : β → α → History → Prop} {l : List β} {as : List α} {events}
    (each : Each Q l as events) : l.length = as.length := by
  induction each with
  | nil => rfl
  | cons _ _ ih => exact congrArg Nat.succ ih

/-- Every pinned table was seen in the region before `pin_and_verify` returned. -/
lemma pinAndVerify_ok {tables fuel results}
    (ran : pinAndVerify env rt node region timeoutS pollIntervalS tables fuel h = (.ok results, h')) :
    ∃ events, h' = h ++ events ∧ (∀ table ∈ tables, ∃ v, Assoc.get results table = some v) ∧
      ∀ table v, Assoc.get results table = some v → Seen node.toNode table region v events := by
  obtain ⟨_, h₁, moved, ran⟩ := Effect.bind_ok_iff.mp ran
  obtain ⟨verifications, h₂, verified, ran⟩ := Effect.bind_ok_iff.mp ran
  obtain ⟨events₁, rfl, _⟩ := (Asks.forEach fun _ _ => looks_setLeasePreference).returned moved
  obtain ⟨events₂, rfl, each⟩ := forEach_ok
    (Q := fun table v e => v.verified = true → Seen node.toNode table region v e) (by
    intro table h v h' ran
    obtain ⟨start, h₁, clock, ran⟩ := Effect.bind_ok_iff.mp ran
    obtain ⟨events, rfl, seen⟩ := pollLeases_ok ran
    rw [time_ok clock, List.append_assoc]
    exact ⟨_, rfl, fun verified => (seen verified).mono (List.subset_cons_self _ _)⟩) verified
  split at ran
  case isFalse => cases ran
  case isTrue none =>
    cases ran
    have keys : (tables.zip verifications).map Prod.fst = tables :=
      List.map_fst_zip (length_of_each each).le
    refine ⟨events₁ ++ events₂, List.append_assoc _ _ _, ?_, ?_⟩
    · intro table mem
      exact Assoc.exists_get_foldl_set (.inl (keys.symm ▸ mem : table ∈ (tables.zip verifications).map Prod.fst))
    · intro table v found
      have mem := (Assoc.get_foldl_set found).resolve_right (Option.some_ne_none _ ·.symm)
      have verified := List.filter_eq_nil_iff.mp (List.map_eq_nil_iff.mp none) _ (Assoc.mem_of_get found)
      rw [Bool.not_eq_true, Bool.not_eq_false'] at verified
      exact (seen_of_each each _ mem verified).mono (List.subset_append_right _ _)

/-- The leaseholder is a node of the region that is killed, where the leases of the episodes were seen. -/
lemma leaseholder_ok {cfg pin} (resolved : leaseholder rt cfg pin = .ok node) :
    ∃ v, Assoc.get pin "episodic_events" = some v ∧ node.region = cfg.killRegion ∧
      ∃ locality, v.sampleLeaseholderLocality = some locality ∧ resolveNodeFromLocality locality = some node := by
  unfold leaseholder at resolved
  split at resolved
  case h_1 => cases resolved
  case h_2 v found =>
    dsimp only at resolved
    split at resolved
    case h_1 => cases resolved
    case h_2 node' named =>
      split at resolved
      case isTrue => cases resolved
      case isFalse same =>
        cases resolved
        split at named
        case isTrue => cases named
        case isFalse some_text =>
          refine ⟨v, found, not_not.mp same, ?_⟩
          cases held : v.sampleLeaseholderLocality with
          | none =>
            rw [held] at some_text
            exact absurd rfl some_text
          | some locality =>
            rw [held] at named
            exact ⟨locality, rfl, named⟩

end leases

/-! ## The parts of a run -/

/-- An episode that was written at one node and read at another. -/
structure RoundTrip where
  id : String
  row : Option (Option String)
  elapsedMs : ℚ
  start : ℚ
  stop : ℚ

/-- What a round trip asks. -/
def RoundTrip.events (t : RoundTrip) (seed : SeedContext) (marker : String → String) (agentId : Option String)
    (writer reader : Rto.Node) : History :=
  [event .uuid4 t.id, committed writer [episode seed t.id (marker t.id)], event .perfCounter t.start,
    found reader (contentQuery seed agentId t.id) t.row, event .perfCounter t.stop]

/-- The leases of every pinned table were seen in the region that is killed. -/
def PinnedBy (cfg : HarnessConfig) (events : History) : Prop :=
  ∀ table ∈ cfg.pinnedTables, ∃ v, Seen cfg.controlNode.toNode table cfg.killRegion v events

/-- The lease of the episodes was seen at the node, which is in the region that is killed. -/
def HeldAt (cfg : HarnessConfig) (node : Node) (events : History) : Prop :=
  ∃ v locality, Seen cfg.controlNode.toNode "episodic_events" cfg.killRegion v events ∧
    v.sampleLeaseholderLocality = some locality ∧ resolveNodeFromLocality locality = some node ∧
    node.region = cfg.killRegion

lemma PinnedBy.mono {cfg events events'} (pins : PinnedBy cfg events) (sub : events ⊆ events') :
    PinnedBy cfg events' := by
  intro table mem
  obtain ⟨v, seen⟩ := pins table mem
  exact ⟨v, seen.mono sub⟩

lemma HeldAt.mono {cfg node events events'} (held : HeldAt cfg node events) (sub : events ⊆ events') :
    HeldAt cfg node events' := by
  obtain ⟨v, locality, seen, rest⟩ := held
  exact ⟨v, locality, seen.mono sub, rest⟩

/-- What the run adds up to the kill. -/
structure Preparation (cfg : HarnessConfig) (prep : Prepared) where
  seeded : History
  pinned : History
  writer : Rto.Node
  fresh : RoundTrip
  cross : RoundTrip
  a : Atomicity
  probed : History
  seeding : ∀ e ∈ seeded, sentBy e.1 = []
  looks : ∀ e ∈ pinned, Looks e.1
  pins : PinnedBy cfg pinned
  held : HeldAt cfg prep.leaseholderNode pinned
  atomicityRan : AtomicityRan prep.seed cfg.controlNode.toNode a probed
  freshness_eq : prep.freshness =
    freshnessResult cfg.controlNode.toNode (thirdRegionNode cfg).toNode fresh.id fresh.row fresh.elapsedMs
  crossAgent_eq : prep.crossAgent =
    crossAgentResult writer cfg.controlNode.toNode cross.id cross.row cross.elapsedMs
  atomicity_eq : prep.atomicity = a.result
  tracker_eq : prep.tracker = [
    trackedEpisode prep.seed.orgId fresh.id (freshnessMarker fresh.id),
    trackedEpisode prep.seed.orgId cross.id (crossAgentMarker cross.id),
    trackedEpisode prep.seed.orgId a.eventId "atomicity probe: commit path",
    ⟨"remediation_actions", "action_id", a.actionId, prep.seed.orgId, "idempotency_key", a.commitKey⟩]

/-- The events of a preparation. -/
def Preparation.events {cfg : HarnessConfig} {prep : Prepared} (p : Preparation cfg prep) : History :=
  p.seeded ++ p.pinned ++
    p.fresh.events prep.seed freshnessMarker none cfg.controlNode.toNode (thirdRegionNode cfg).toNode ++
    p.cross.events prep.seed crossAgentMarker (some prep.seed.agentId) p.writer cfg.controlNode.toNode ++ p.probed

/-- One of the extra writes. -/
abbrev outageEvents (cfg : HarnessConfig) (seed : SeedContext) (eventId : String) : History :=
  [event .uuid4 eventId, committed cfg.controlNode.toNode [episode seed eventId outageContent]]

/-- What the run adds from the kill up to the restart. -/
structure Endurance (cfg : HarnessConfig) (prep : Prepared) (killedAt : ℚ) (mid : Endured) where
  s : Rto.Probing
  first : Option Rto.FirstSuccess
  attempts : History
  waited : History
  read : List (Rto.TrackedRow × Option (Option String))
  attempted : Attempts prep.seed (rtoParams cfg prep killedAt) {} s first attempts
  looks : ∀ e ∈ waited, Looks e.1
  rto_eq : mid.rto = Rto.report (rtoParams cfg prep killedAt) s first
  tracker_eq : mid.tracker = prep.tracker ++ (first.map (Rto.tracked (rtoParams cfg prep killedAt))).toList ++
    mid.outageWrites.map fun eventId => trackedEpisode prep.seed.orgId eventId outageContent
  read_eq : read.map Prod.fst = mid.tracker
  rpo_eq : mid.rpoDuringOutage = rpoResult "during_outage" read

/-- The writes under the outage. -/
def Endurance.writes {cfg prep killedAt mid} (e : Endurance cfg prep killedAt mid) : History :=
  e.attempts ++ mid.outageWrites.flatMap (outageEvents cfg prep.seed)

/-- The looks and the reads under the outage. -/
def Endurance.checks {cfg prep killedAt mid} (e : Endurance cfg prep killedAt mid) : History :=
  e.waited ++ reads cfg.controlNode.toNode e.read

/-- What the run adds after the restart. -/
structure Recovery (cfg : HarnessConfig) (prep : Prepared) (mid : Endured) (report : ResilienceReport) where
  waited : History
  read : List (Rto.TrackedRow × Option (Option String))
  recorded : History
  waited_looks : ∀ e ∈ waited, Looks e.1
  recorded_looks : ∀ e ∈ recorded, Looks e.1
  read_eq : read.map Prod.fst = mid.tracker
  report_eq : ∃ recovered rangesAfter,
    report = assemble cfg prep mid recovered rangesAfter (rpoResult "after_recovery" read)

/-- The events of a recovery. -/
def Recovery.events {cfg prep mid report} (r : Recovery cfg prep mid report) : History :=
  r.waited ++ reads cfg.controlNode.toNode r.read ++ r.recorded

section parts

variable {env : Environment} {rt : Runtime} {cfg : HarnessConfig} {fuel : Nat} {h h' : History}

lemma unsent_seedBaseline {node} : Asks (fun r => sentBy r = []) (seedBaseline env node) := by
  refine .bind (.ask rfl) fun _ => .bind (.ask rfl) fun _ => .bind (.ask rfl) fun _ => .bind (.ask rfl) fun _ => ?_
  exact .bind (.ask rfl) fun _ => .bind (.ask rfl) fun _ => .bind .lift fun _ => .pure

lemma roundTrip_ok {seed marker agentId writer reader eventId row elapsedMs}
    (ran : writeThenRead env seed marker agentId writer reader h = (.ok (eventId, row, elapsedMs), h')) :
    ∃ t : RoundTrip, h' = h ++ t.events seed marker agentId writer reader ∧
      t.id = eventId ∧ t.row = row ∧ t.elapsedMs = elapsedMs := by
  obtain ⟨start, stop, rfl⟩ := writeThenRead_ok ran
  exact ⟨⟨eventId, row, elapsedMs, start, stop⟩, rfl, rfl, rfl, rfl⟩

lemma pin_ok {leaseholderPin node} (ran : pin env rt cfg fuel h = (.ok (leaseholderPin, node), h')) :
    ∃ pinned, h' = h ++ pinned ∧ (∀ e ∈ pinned, Looks e.1) ∧ PinnedBy cfg pinned ∧ HeldAt cfg node pinned := by
  obtain ⟨results, h₁, verified, ran⟩ := Effect.bind_ok_iff.mp ran
  obtain ⟨node', h₂, lifted, ran⟩ := Effect.bind_ok_iff.mp ran
  cases ran
  obtain ⟨resolved, rfl⟩ := lift_checked_ok.mp lifted
  obtain ⟨pinned, rfl, keyed, seen⟩ := pinAndVerify_ok verified
  obtain ⟨pinned', e, looks⟩ := looks_pinAndVerify.returned verified
  obtain rfl := List.append_cancel_left e
  obtain ⟨v, held, region, locality, sample, resolves⟩ := leaseholder_ok resolved
  refine ⟨pinned, rfl, looks, ?_, v, locality, seen _ _ held, sample, resolves, region⟩
  intro table mem
  obtain ⟨v, found⟩ := keyed table mem
  exact ⟨v, seen table v found⟩

lemma prepare_ok {prep} (ran : prepare env rt cfg fuel h = (.ok prep, h')) :
    ∃ p : Preparation cfg prep, h' = h ++ p.events := by
  obtain ⟨seed, h₁, seeded, ran⟩ := Effect.bind_ok_iff.mp ran
  obtain ⟨⟨leaseholderPin, leaseholderNode⟩, h₂, pinned, ran⟩ := Effect.bind_ok_iff.mp ran
  obtain ⟨liveness, h₃, looked₃, ran⟩ := Effect.bind_ok_iff.mp ran
  obtain ⟨ranges, h₄, looked₄, ran⟩ := Effect.bind_ok_iff.mp ran
  obtain ⟨freshness, h₅, wrote₅, ran⟩ := Effect.bind_ok_iff.mp ran
  obtain ⟨writer, h₆, chosen, ran⟩ := Effect.bind_ok_iff.mp ran
  obtain ⟨crossAgent, h₇, wrote₇, ran⟩ := Effect.bind_ok_iff.mp ran
  obtain ⟨a, h₈, wrote₈, ran⟩ := Effect.bind_ok_iff.mp ran
  cases ran
  obtain ⟨⟨freshId, freshRow, freshMs⟩, h₅', wrote₅, returned⟩ := Effect.bind_ok_iff.mp wrote₅
  obtain ⟨⟨crossId, crossRow, crossMs⟩, h₇', wrote₇, returned'⟩ := Effect.bind_ok_iff.mp wrote₇
  cases returned
  cases returned'
  obtain ⟨seeding, rfl, unsent⟩ := unsent_seedBaseline.returned seeded
  obtain ⟨pins, rfl, looks, pinnedBy, held⟩ := pin_ok pinned
  obtain ⟨more, rfl, looks'⟩ := (Asks.bind looks_nodeStatus fun _ => looks_rangeSnapshot).returned
    (Effect.bind_ok_iff.mpr ⟨_, _, looked₃, looked₄⟩)
  obtain ⟨fresh, rfl, rfl, rfl, rfl⟩ := roundTrip_ok wrote₅
  obtain ⟨_, rfl⟩ := (Effect.lift_ok_iff.mp chosen)
  obtain ⟨cross, rfl, rfl, rfl, rfl⟩ := roundTrip_ok wrote₇
  obtain ⟨probed, rfl, atomicityRan⟩ := probeAtomicity_ok wrote₈
  refine ⟨{
    seeded := seeding, pinned := pins ++ more, writer, fresh, cross, a, probed
    seeding := unsent
    looks := List.forall_mem_append.mpr ⟨looks, looks'⟩
    pins := pinnedBy.mono (List.subset_append_left _ _)
    held := held.mono (List.subset_append_left _ _)
    atomicityRan
    freshness_eq := rfl
    crossAgent_eq := rfl
    atomicity_eq := rfl
    tracker_eq := rfl }, ?_⟩
  simp [Preparation.events]

lemma killRegion_ok {region t} (ran : killRegion env rt region h = (.ok t, h')) :
    h' = h ++ [event (.composeKill (servicesInRegion region)) (Except.ok () : Except Raised Unit), event .time t] := by
  unfold killRegion at ran
  split at ran
  case isTrue => cases ran
  case isFalse =>
    obtain ⟨answer, h₁, asked, ran⟩ := Effect.bind_ok_iff.mp ran
    obtain ⟨u, h₂, returned, ran⟩ := Effect.bind_ok_iff.mp ran
    rw [time_ok ran]
    obtain ⟨rfl, rfl⟩ := lift_checked_ok.mp returned
    obtain ⟨answered, rfl⟩ := ask_ok_iff.mp asked
    rw [← answered]
    simp

lemma restoreRegion_ok {region t} (ran : restoreRegion env rt region h = (.ok t, h')) :
    h' = h ++ [event (.composeStart (servicesInRegion region)) (Except.ok () : Except Raised Unit), event .time t] := by
  unfold restoreRegion at ran
  split at ran
  case isTrue => cases ran
  case isFalse =>
    obtain ⟨answer, h₁, asked, ran⟩ := Effect.bind_ok_iff.mp ran
    obtain ⟨u, h₂, returned, ran⟩ := Effect.bind_ok_iff.mp ran
    rw [time_ok ran]
    obtain ⟨rfl, rfl⟩ := lift_checked_ok.mp returned
    obtain ⟨answered, rfl⟩ := ask_ok_iff.mp asked
    rw [← answered]
    simp

lemma outage_of_each {seed n ids events}
    (each : Each (fun _ id e => e = outageEvents cfg seed id) (n : List Nat) ids events) :
    events = ids.flatMap (outageEvents cfg seed) := by
  induction each with
  | nil => rfl
  | cons e _ ih => rw [e, ih, List.flatMap_cons]

lemma endure_ok {prep killedAt mid} (ran : endure env cfg fuel prep killedAt h = (.ok mid, h')) :
    ∃ e : Endurance cfg prep killedAt mid, h' = h ++ (e.writes ++ e.checks) := by
  obtain ⟨⟨rto, recovered⟩, h₁, probed, ran⟩ := Effect.bind_ok_iff.mp ran
  obtain ⟨ids, h₂, wrote, ran⟩ := Effect.bind_ok_iff.mp ran
  obtain ⟨down, h₃, waited, ran⟩ := Effect.bind_ok_iff.mp ran
  obtain ⟨ranges, h₄, looked, ran⟩ := Effect.bind_ok_iff.mp ran
  obtain ⟨rpo, h₅, checked, ran⟩ := Effect.bind_ok_iff.mp ran
  cases ran
  obtain ⟨⟨s, first⟩, h₁', looped, returned⟩ := Effect.bind_ok_iff.mp probed
  cases returned
  obtain ⟨attempts, rfl, attempted⟩ := rtoLoop_ok looped
  obtain ⟨writes, rfl, each⟩ := forEach_ok (Q := fun _ id e => e = outageEvents cfg prep.seed id) (by
    intro _ h id h' ran
    obtain ⟨id', h₁, drew, ran⟩ := Effect.bind_ok_iff.mp ran
    obtain ⟨u, h₂, stored, ran⟩ := Effect.bind_ok_iff.mp ran
    cases ran
    rw [insert_ok stored, uuid4_ok drew, List.append_assoc]
    exact ⟨_, rfl, rfl⟩) wrote
  obtain rfl := outage_of_each each
  obtain ⟨quiet, rfl, looks⟩ := (Asks.bind (Asks.bind looks_time fun _ => looks_pollStatus)
    fun _ => looks_rangeSnapshot).returned (Effect.bind_ok_iff.mpr ⟨_, _, waited, looked⟩)
  obtain ⟨read, rfl, rows, rfl⟩ := probeRpo_ok checked
  refine ⟨⟨s, first, attempts, quiet, read, attempted, looks, rfl, rfl, rows, rfl⟩, ?_⟩
  simp [Endurance.writes, Endurance.checks]

lemma recover_ok {prep mid report} (ran : recover env cfg fuel prep mid h = (.ok report, h')) :
    ∃ r : Recovery cfg prep mid report, h' = h ++ r.events := by
  obtain ⟨recovered, h₁, waited, ran⟩ := Effect.bind_ok_iff.mp ran
  obtain ⟨ranges, h₂, looked, ran⟩ := Effect.bind_ok_iff.mp ran
  obtain ⟨rpo, h₃, checked, ran⟩ := Effect.bind_ok_iff.mp ran
  obtain ⟨_, h₄, recorded, ran⟩ := Effect.bind_ok_iff.mp ran
  cases ran
  obtain ⟨quiet, rfl, looks⟩ := (Asks.bind (Asks.bind looks_time fun _ => looks_pollStatus)
    fun _ => looks_rangeSnapshot).returned (Effect.bind_ok_iff.mpr ⟨_, _, waited, looked⟩)
  obtain ⟨read, rfl, rows, rfl⟩ := probeRpo_ok checked
  obtain ⟨records, rfl, looks'⟩ := (Asks.forEach fun _ _ => looks_recordProbe).returned recorded
  refine ⟨⟨quiet, read, records, looks, looks', rows, recovered, ranges, rfl⟩, ?_⟩
  simp [Recovery.events]

end parts

/-! ## A run that returns -/

/-- A run that returns. -/
structure Course (cfg : HarnessConfig) (report : ResilienceReport) where
  prep : Prepared
  mid : Endured
  killedAt : ℚ
  restartedAt : ℚ
  preparation : Preparation cfg prep
  endurance : Endurance cfg prep killedAt mid
  recovery : Recovery cfg prep mid report

/-- `docker compose kill` that returned. -/
abbrev killed (cfg : HarnessConfig) : Event Answer :=
  event (.composeKill (servicesInRegion cfg.killRegion)) (Except.ok () : Except Raised Unit)

/-- `docker compose start` that returned. -/
abbrev restarted (cfg : HarnessConfig) : Event Answer :=
  event (.composeStart (servicesInRegion cfg.killRegion)) (Except.ok () : Except Raised Unit)

/-- The events of a run. -/
def Course.events {cfg report} (c : Course cfg report) : History :=
  c.preparation.events ++ killed cfg :: event .time c.killedAt :: (c.endurance.writes ++ c.endurance.checks) ++
    restarted cfg :: event .time c.restartedAt :: c.recovery.events

/-- The history of a run that returns. -/
lemma run_ok {env rt cfg fuel h h' report} (ran : run env rt cfg fuel h = (.ok report, h')) :
    ∃ c : Course cfg report, h' = h ++ c.events := by
  obtain ⟨prep, h₁, prepared, ran⟩ := Effect.bind_ok_iff.mp ran
  obtain ⟨killedAt, h₂, kill, ran⟩ := Effect.bind_ok_iff.mp ran
  obtain ⟨mid, h₃, endured, ran⟩ := Effect.bind_ok_iff.mp ran
  obtain ⟨restartedAt, h₄, restart, ran⟩ := Effect.bind_ok_iff.mp ran
  obtain ⟨p, rfl⟩ := prepare_ok prepared
  obtain rfl := killRegion_ok kill
  obtain ⟨e, rfl⟩ := endure_ok endured
  obtain rfl := restoreRegion_ok restart
  obtain ⟨r, rfl⟩ := recover_ok ran
  refine ⟨⟨prep, mid, killedAt, restartedAt, p, e, r⟩, ?_⟩
  simp [Course.events]

/-! ## A cluster to run against -/

namespace Sample

/-- Whether the region is down. -/
def down (h : History) : Bool := h.foldl (fun down e =>
  match e.1 with
  | .composeKill _ => true
  | .composeStart _ => false
  | _ => down) false

/-- The exception of a node that is down. -/
def closed : Raised := ⟨.other "OperationalError", "server closed the connection unexpectedly", none, none⟩

/-- The exception of a row that does not meet its CHECK. -/
def violated : Raised := ⟨.other "CheckViolation", "failed to satisfy CHECK constraint", none, none⟩

/-- The region the leases of the table were moved to. -/
def leaseRegion (table : String) (h : History) : String := h.foldl (fun region e =>
  match e.1 with
  | .setLeasePreference _ moved region' => if moved = table then region' else region
  | _ => region) "us-east-1"

/-- The locality of a node. -/
def locality (n : Node) : String := "cloud=aws,region=" ++ n.region ++ ",zone=" ++ n.zone

/-- What a query finds. -/
def lookup (q : Query) (h : History) : Option (Option String) :=
  ((acknowledged h).find? fun row => q.Matches row).map fun row =>
    match q.column with
    | none => some "1"
    | some _ => some row.expectedContent

/-- A cluster that keeps what it acknowledges; the nodes of `us-east-2` do not answer while they are stopped. -/
def env (h : History) : (r : Request) → Answer r
  | .time => ((h.length : ℚ) / 100 : ℚ)
  | .perfCounter => ((h.length : ℚ) / 1000 : ℚ)
  | .uuid4 => String.ofList (List.replicate (drawn h).length 'a')
  | .insert node rows =>
    (if down h ∧ node.region = "us-east-2" then .error closed
    else if ∀ row ∈ rows, row.Valid then .ok ()
    else .error violated : Except Raised Unit)
  | .select node q =>
    (if down h ∧ node.region = "us-east-2" then .error closed else .ok (lookup q h) :
      Except Raised (Option (Option String)))
  | .leaseRows _ table =>
    (.ok ((topology.filter fun n => n.region = leaseRegion table h ∧ n.zone = "a").map fun n => ⟨7, 4, locality n⟩) :
      Except Raised (List LeaseRow))
  | .rangeSnapshot _ _ => (.ok .null : Except Raised Json)
  | .nodeStatus _ =>
    (.ok (topology.map fun n => ⟨1, n.service, locality n, true, !(down h && decide (n.region = "us-east-2"))⟩) :
      Except Raised (List NodeLiveness))
  | .sleep _ => ()
  | .seed _ _ => (.ok () : Except Raised Unit)
  | .setLeasePreference _ _ _ => (.ok () : Except Raised Unit)
  | .composeKill _ => (.ok () : Except Raised Unit)
  | .composeStart _ => (.ok () : Except Raised Unit)
  | .recordProbe _ _ _ => (.ok () : Except Raised Unit)

/-- A run over the cluster passes. -/
lemma passes : ∃ report h, run env Runtime.sample {} 3 [] = (.ok report, h) ∧ report.overall.pass = true ∧
    (acknowledged h).length = 7 := by
  have seen : (match run env Runtime.sample {} 3 [] with
    | (.ok report, h) => report.overall.pass && decide ((acknowledged h).length = 7)
    | (.error _, _) => false) = true := by decide +kernel
  generalize run env Runtime.sample {} 3 [] = out at seen
  obtain ⟨_ | report, h⟩ := out
  case error => cases seen
  case ok =>
    obtain ⟨pass, length⟩ := Bool.and_eq_true_iff.mp seen
    exact ⟨report, h, rfl, pass, of_decide_eq_true length⟩

end Sample

end Resilience

end Postmortem
