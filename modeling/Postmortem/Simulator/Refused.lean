import Postmortem.Simulator.Revisions
import Postmortem.Simulator.Symptoms

/-!
# Actions that raise

The checks of `apply_action` raise before anything has changed. What comes after the change of the world raises
in one place only, the arithmetic of the clock: nothing else is missing, since the services of the incidents and
the SLOs of the alerts stay known (`Sound`). An action that the clock has no room for raises with its change
done, which is no change at all only where the action is idle (`raised_unchanged`).
-/

namespace Postmortem.Simulator

variable {c : Conductor} {w w' : WorldState}

/-! ## What stays known -/

/-- The service is known. -/
def Known (w : WorldState) (name : String) : Prop := ∃ s, Assoc.get w.services name = some s

/-- The SLO is known. -/
def KnownSLO (w : WorldState) (key : String × String) : Prop := ∃ slo, Assoc.get w.slos key = some slo

/-- The services of the incidents and the SLOs of the alerts are known. -/
structure Sound (w : WorldState) : Prop where
  keyed : Assoc.Keyed w.alerts
  services : ∀ id i, Assoc.get w.incidents id = some i → Known w i.service
  slos : ∀ key a, Assoc.get w.alerts key = some a → KnownSLO w (a.service, a.sloKind)

lemma known_of_rel {R : Service → Service → Prop} {name : String}
    (related : Option.Rel R (Assoc.get w.services name) (Assoc.get w'.services name)) (known : Known w name) :
    Known w' name := by
  obtain ⟨s, found⟩ := known
  rw [found] at related
  unfold Known
  generalize Assoc.get w'.services name = y at related
  cases related with
  | some _ => exact ⟨_, rfl⟩

lemma known_of_map {α : Type} {f : Service → α} {name : String}
    (same : (Assoc.get w'.services name).map f = (Assoc.get w.services name).map f) (known : Known w name) :
    Known w' name := by
  obtain ⟨s, found⟩ := known
  rw [found] at same
  obtain ⟨s', found', _⟩ := Option.map_eq_some_iff.mp same
  exact ⟨s', found'⟩

lemma knownSLO_of_map {α : Type} {f : SLO → α} {key : String × String}
    (same : (Assoc.get w'.slos key).map f = (Assoc.get w.slos key).map f) (known : KnownSLO w key) : KnownSLO w' key := by
  obtain ⟨slo, found⟩ := known
  rw [found] at same
  obtain ⟨slo', found', _⟩ := Option.map_eq_some_iff.mp same
  exact ⟨slo', found'⟩

lemma knownSLO_of_rel {R : SLO → SLO → Prop} {key : String × String}
    (related : Option.Rel R (Assoc.get w.slos key) (Assoc.get w'.slos key)) (known : KnownSLO w key) :
    KnownSLO w' key := by
  obtain ⟨slo, found⟩ := known
  rw [found] at related
  unfold KnownSLO
  generalize Assoc.get w'.slos key = y at related
  cases related with
  | some _ => exact ⟨_, rfl⟩

/-- A change that leaves incidents, alerts and SLOs alone, and loses no service. -/
lemma Sound.stays (h : Sound w) (incidents : w'.incidents = w.incidents) (alerts : w'.alerts = w.alerts)
    (slos : w'.slos = w.slos) (services : ∀ name, Known w name → Known w' name) : Sound w' := by
  obtain ⟨keyed, known, knownSLOs⟩ := h
  refine ⟨?_, ?_, ?_⟩
  · rw [alerts]
    exact keyed
  · rw [incidents]
    exact fun id i found => services _ (known id i found)
  · unfold KnownSLO
    rw [alerts, slos]
    exact knownSLOs

lemma Sound.mutated (h : Sound w) (mutated : Mutated w w') : Sound w' :=
  h.stays mutated.incidents mutated.alerts mutated.slos fun name => known_of_rel (mutated.services name)

lemma Sound.disturbed {R : String → Service → Service → Prop} (h : Sound w) (disturbed : Disturbed R w w') : Sound w' :=
  h.stays disturbed.incidents disturbed.alerts disturbed.slos fun name => known_of_rel (disturbed.services name)

lemma Sound.accounted {id : String} {expected : Bool} (h : Sound w) (accounted : Accounted id expected w w') :
    Sound w' := by
  refine ⟨?_, ?_, ?_⟩
  · rw [accounted.alerts]
    exact h.keyed
  · intro id' i found
    obtain ⟨i', was, _, service, _⟩ := accounted.was found
    unfold Known
    rw [accounted.services, service]
    exact h.services id' i' was
  · unfold KnownSLO
    rw [accounted.alerts, accounted.slos]
    exact h.slos

lemma Sound.resolved {incident : Incident} (h : Sound w) (resolved : Resolved incident w w') : Sound w' := by
  refine ⟨resolved.cleared.keyed h.keyed, ?_, ?_⟩
  · intro id i found
    rw [resolved.incidents, Assoc.get_modify] at found
    apply known_of_map (resolved.previous i.service)
    split at found
    case isTrue =>
      obtain ⟨i', was, rfl⟩ := Option.map_eq_some_iff.mp found
      exact h.services id i' was
    case isFalse => exact h.services id i found
  · intro key a found
    have related := resolved.cleared.alerts key
    rw [found] at related
    generalize before : Assoc.get w.alerts key = x at related
    cases related with
    | @some a' _ same =>
      apply knownSLO_of_map (resolved.cleared.thresholds _)
      rw [same.slo]
      exact h.slos key a' before

lemma Sound.acted {r : ActionRequest} (h : Sound w) (acted : Acted c r w w') : Sound w' := by
  cases acted with
  | refused reconfigured => exact h.mutated reconfigured.mutated
  | interrupted applies accounted => exact (h.mutated applies.mutates).accounted accounted
  | applied applies accounted => exact (h.mutated applies.mutates).accounted accounted
  | completed applies accounted =>
    exact ((h.mutated applies.mutates).accounted accounted).resolved (resolve_resolved.always rfl)

lemma Unhealthy.known {name : String} (h : Unhealthy w name) : Known w name := by
  obtain ⟨s, found, _⟩ := h
  exact ⟨s, found⟩

/-- An incident is opened on a service that is known. -/
lemma Opening.knownServices {scenario : Scenario} (opening : Opening c scenario w w') (h : Sound w)
    (target : Known w scenario.targetService) : ∀ id i, Assoc.get w'.incidents id = some i → Known w' i.service := by
  intro id i found
  unfold Known
  rw [opening.services]
  rcases opening.was found with ⟨_, rfl⟩ | ⟨_, was⟩
  · exact target
  · exact h.services id i was

lemma Opened.knownSLO {scenario : Scenario} {breach : Conductor.Breach} {key : String × String}
    (opened : Opened c scenario breach w w') (known : KnownSLO w key) : KnownSLO w' key := by
  obtain ⟨slo, found⟩ := known
  obtain ⟨burnRate, slos⟩ := opened.slos
  unfold KnownSLO
  rw [slos, Assoc.get_modify, found]
  split
  case isTrue => exact ⟨_, rfl⟩
  case isFalse => exact ⟨_, rfl⟩

lemma Sound.opened {scenario : Scenario} {breach : Conductor.Breach} (h : Sound w)
    (target : Known w scenario.targetService) (opened : Opened c scenario breach w w') : Sound w' := by
  refine ⟨?_, opened.toOpening.knownServices h target, ?_⟩
  · rw [opened.alerts]
    exact h.keyed.set
  · intro key a found
    rw [opened.alerts, Assoc.get_set] at found
    apply opened.knownSLO
    split at found
    case isTrue =>
      cases found
      exact opened.breachable.known
    case isFalse => exact h.slos key a found

lemma Sound.injected {scenario : Scenario} {out : Except Raised Incident} (h : Sound w)
    (injected : Injected c scenario w out w') : Sound w' := by
  cases injected with
  | failed disturbed => exact h.disturbed disturbed
  | halfOpened _ faulted opened =>
    have sound := h.disturbed faulted.disturbed
    refine ⟨?_, opened.toOpening.knownServices sound faulted.unhealthy.known, ?_⟩
    · rw [opened.alerts]
      exact sound.keyed
    · intro key a found
      rw [opened.alerts] at found
      exact knownSLO_of_rel (opened.slos _) (sound.slos key a found)
  | outOfTime _ faulted opened => exact (h.disturbed faulted.disturbed).opened faulted.unhealthy.known opened
  | opened _ faulted opened => exact (h.disturbed faulted.disturbed).opened faulted.unhealthy.known opened

lemma step_sound {s : Simulation} {call : Conductor.Call} (h : Sound s.world) : Sound (c.step s call).world := by
  cases call with
  | applyAction r => exact h.acted (applyAction_acted.always rfl)
  | advanceTime duration =>
    obtain ⟨now, e, _⟩ := @step_advanceTime c s duration
    rw [e]
    exact h.stays rfl rfl rfl fun _ known => known
  | injectNext =>
    cases next : c.scenarios[s.nextScenario]? with
    | none =>
      unfold Conductor.step Conductor.injectNext
      rw [next]
      exact h
    | some scenario =>
      obtain ⟨_, ⟨_, _, same⟩ | ⟨_, injected⟩⟩ := injectNext_injected next
      · show Sound (c.injectNext s).2.world
        rw [same]
        exact h
      · have later : Sound { s.world with now := injectionTime c scenario s.world } :=
          h.stays rfl rfl rfl fun _ known => known
        exact later.injected injected

/-- The world starts without incidents and alerts. -/
lemma loadWorld_sound (loaded : c.loadWorld = .ok w) : Sound w := by
  obtain ⟨slos, configs, _, _, rfl⟩ := loadWorld_eq loaded
  constructor
  case keyed => exact List.nodup_nil
  case services => rintro _ _ ⟨⟩
  case slos => rintro _ _ ⟨⟩

/-- All along a run what the incidents and the alerts refer to is known. -/
lemma run_sound {calls : List Conductor.Call} (loaded : c.loadWorld = .ok w) :
    Sound (Run.run c.step { world := w } calls).world := by
  apply Run.run_invariant (I := fun s : Simulation => Sound s.world)
  · exact fun _ _ _ => step_sound
  · exact loadWorld_sound loaded

/-! ## What raises after the change -/

/-- The clock after the action. -/
def Policy.clock (policy : Policy) (expected : Bool) (now : Timestamp) : Timestamp :=
  now + (if expected then policy.actionSeconds else policy.wrongActionPenaltySeconds) * 1000000

/-- The calendar has room for the action, and for the second of the failed orders. -/
structure HasRoom (policy : Policy) (expected : Bool) (now : Timestamp) : Prop where
  clock : inCalendar (policy.clock expected now) = true
  orders : expected = false → inCalendar (policy.clock expected now + 1000000) = true

instance {policy : Policy} {expected : Bool} {now : Timestamp} : Decidable (HasRoom policy expected now) :=
  decidable_of_iff (_ ∧ _) ⟨fun h => ⟨h.1, h.2⟩, fun h => ⟨h.clock, h.orders⟩⟩

section raises

variable {r : ActionRequest} {incident : Incident} {policy : Policy} {expected : Bool}

lemma clearAlerts_returns {id : String} {alerts : List (String × Alert)} :
    Effect.Meets (fun w => ∀ f ∈ alerts, KnownSLO w (f.2.service, f.2.sloKind)) (Conductor.clearAlerts id alerts)
      (fun _ _ => True) (fun _ _ => False) := by
  induction alerts with
  | nil => exact Effect.Meets.pure fun _ _ => trivial
  | cons entry alerts ih =>
    obtain ⟨key, alert⟩ := entry
    have rest : Effect.Meets (fun w => ∀ f ∈ (key, alert) :: alerts, KnownSLO w (f.2.service, f.2.sloKind))
        (Conductor.clearAlerts id alerts) (fun _ _ => True) (fun _ _ => False) := by
      apply ih.mono
      · exact fun w known f mem => known f (List.mem_cons_of_mem _ mem)
      · exact fun _ _ h => h
      · exact fun _ _ h => h
    unfold Conductor.clearAlerts
    dsimp only
    split
    case isFalse => exact rest
    case isTrue =>
      apply Effect.Meets.bind (Q := fun _ w => ∀ f ∈ (key, alert) :: alerts, KnownSLO w (f.2.service, f.2.sloKind))
      · exact Effect.Meets.update fun _ known => known
      intro _
      apply Effect.Meets.read_bind
      intro w known
      obtain ⟨slo, found⟩ := known (key, alert) List.mem_cons_self
      dsimp only at found
      rw [found]
      refine Effect.Meets.bind_returned rfl ?_
      apply Effect.Meets.bind (Q := fun _ w => ∀ f ∈ (key, alert) :: alerts, KnownSLO w (f.2.service, f.2.sloKind))
      · apply Effect.Meets.update
        rintro w rfl f mem
        obtain ⟨slo', found'⟩ := known f mem
        unfold KnownSLO WorldState.onSLO
        rw [Assoc.get_modify, found']
        split
        case isTrue => exact ⟨_, rfl⟩
        case isFalse => exact ⟨_, rfl⟩
      exact fun _ => rest

/-- Resolving does not raise where everything is known. -/
lemma resolve_returns (sound : Sound w) (known : Known w incident.service) :
    Effect.Meets (· = w) (Conductor.resolve incident) (fun _ _ => True) (fun _ _ => False) := by
  obtain ⟨s, found⟩ := known
  refine Effect.Meets.bind_returned rfl ?_
  refine Effect.Meets.bind_returned
    (@setHealth_known (w.onIncident incident.incidentId (resolvedIncident w.now)) _ .healthy s found) ?_
  refine Effect.Meets.bind_returned rfl ?_
  apply clearAlerts_returns.mono
  · rintro _ rfl ⟨key, a⟩ mem
    exact sound.slos key a (sound.keyed.mem_iff.mp mem)
  · exact fun _ _ h => h
  · exact fun _ _ h => h

lemma logAction_returns {E : Raised → WorldState → Prop} :
    Effect.Meets (fun _ => True) (c.logAction r incident expected) (fun _ _ => True) E := by
  apply Effect.Meets.bind (Effect.Meets.read fun _ h => h)
  intro _
  apply Effect.Meets.bind (Q := fun _ _ => True) (Effect.Meets.update fun _ h => h)
  intro _
  exact Effect.Meets.pure fun _ h => h

/-- Where the calendar has no room for the action, nothing is accounted, or one failed order. -/
structure OutOfTime (policy : Policy) (expected : Bool) (w w' : WorldState) : Prop where
  late : ¬ HasRoom policy expected w.now
  clock : inCalendar (policy.clock expected w.now) = false → w' = w
  orders : inCalendar (policy.clock expected w.now) = true → w'.orders.length = w.orders.length + 1

/-- The second of the failed orders is late, or both are written. -/
lemma addFailedOrders_outcome {errorCode : String} (inside : inCalendar w.now = true) :
    Effect.Meets (· = w) (c.addFailedOrders incident 2 errorCode) (fun _ _ => inCalendar (w.now + 1000000) = true)
      (fun e w' => e.cls = .OverflowError ∧ inCalendar (w.now + 1000000) = false ∧
        w'.orders.length = w.orders.length + 1) := by
  have first : instant (w.now + ((0 : Nat) : Int) * 1000000) = .ok (w.now + ((0 : Nat) : Int) * 1000000) := by
    apply if_pos
    simpa using inside
  refine Effect.Meets.bind_returned rfl ?_
  refine Effect.Meets.bind_returned (congrArg (fun x => (x, w)) first) ?_
  refine Effect.Meets.bind_returned rfl ?_
  refine Effect.Meets.bind_returned rfl ?_
  cases second : inCalendar (w.now + 1000000) with
  | false =>
    have late : instant (w.now + ((1 : Nat) : Int) * 1000000) =
        .error ⟨.OverflowError, "date value out of range", none, none⟩ := by
      apply if_neg
      simpa using second
    refine Effect.Meets.bind_raised (congrArg (fun x => (x, _)) late) ⟨rfl, rfl, ?_⟩
    simp
  | true =>
    have onTime : instant (w.now + ((1 : Nat) : Int) * 1000000) = .ok (w.now + ((1 : Nat) : Int) * 1000000) := by
      apply if_pos
      simpa using second
    refine Effect.Meets.bind_returned (congrArg (fun x => (x, _)) onTime) ?_
    exact fun _ _ => rfl

lemma account_outcome :
    Effect.Meets (· = w) (c.account r incident policy expected) (fun _ _ => HasRoom policy expected w.now)
      (fun e w' => e.cls = .OverflowError ∧ OutOfTime policy expected w w') := by
  refine Effect.Meets.bind_returned rfl ?_
  cases inside : inCalendar (policy.clock expected w.now) with
  | false =>
    have late : instant (policy.clock expected w.now) =
        .error ⟨.OverflowError, "date value out of range", none, none⟩ := if_neg (ne_true_of_eq_false inside)
    refine Effect.Meets.bind_raised (congrArg (fun x => (x, w)) late) ?_
    refine ⟨rfl, ?_, fun _ => rfl, ?_⟩
    · intro room
      cases inside.symm.trans room.clock
    · intro outside
      cases inside.symm.trans outside
  | true =>
    have onTime : instant (policy.clock expected w.now) = .ok (policy.clock expected w.now) := if_pos inside
    refine Effect.Meets.bind_returned (congrArg (fun x => (x, w)) onTime) ?_
    refine Effect.Meets.bind_returned rfl ?_
    apply Effect.Meets.bind (Q := fun _ _ => HasRoom policy expected w.now)
    · cases expected with
      | true => exact Effect.Meets.update fun _ _ => ⟨inside, nofun⟩
      | false =>
        apply (@addFailedOrders_outcome c { w with now := policy.clock false w.now } incident _ inside).mono
        · exact fun _ h => h
        · exact fun _ _ second => ⟨inside, fun _ => second⟩
        · rintro _ w' ⟨overflow, late, orders⟩
          refine ⟨overflow, ?_, ?_, fun _ => orders⟩
          · intro room
            cases late.symm.trans (room.orders rfl)
          · intro outside
            cases inside.symm.trans outside
    intro _ w' room
    have logged := @logAction_returns c r incident expected
      (fun e w' => e.cls = .OverflowError ∧ OutOfTime policy expected w w') w' trivial
    revert logged
    generalize c.logAction r incident expected w' = out
    obtain ⟨_ | _, _⟩ := out
    case ok => exact fun _ => room
    case error => exact fun h => h

/-- After the change of the world an action raises exactly if the calendar has no room for it. -/
lemma conclude_outcome (sound : Sound w) (known : Known w incident.service) :
    Effect.Meets (· = w) (c.conclude r incident policy expected) (fun _ _ => HasRoom policy expected w.now)
      (fun e w' => e.cls = .OverflowError ∧ OutOfTime policy expected w w') := by
  apply Effect.Meets.bind (Q := fun _ w' => HasRoom policy expected w.now ∧ Sound w' ∧ Known w' incident.service)
  · apply (account_outcome.and account_accounted).mono
    · exact fun _ h => h
    · rintro _ w' ⟨room, accounted⟩
      refine ⟨room, sound.accounted accounted, ?_⟩
      unfold Known
      rw [accounted.services]
      exact known
    · exact fun _ _ h => h.1
  intro actionId
  by_cases completes :
      (if expected = true then incident.oracleStep + 1 else incident.oracleStep) = policy.requiredActions.length
  case neg =>
    rw [if_neg completes]
    exact Effect.Meets.pure fun _ h => h.1
  case pos =>
    rw [if_pos completes]
    rintro w' ⟨room, sound', known'⟩
    refine Effect.Meets.bind (Q := fun _ _ => HasRoom policy expected w.now) (P := (· = w')) ?_ ?_ w' rfl
    · apply (resolve_returns sound' known').mono
      · exact fun _ h => h
      · exact fun _ _ _ => room
      · exact fun _ _ => False.elim
    · exact fun _ => Effect.Meets.pure fun _ h => h

end raises

/-- The checks of the action fail, or the calendar has room for it, or it is idle and the clock cannot move. -/
def Spares (c : Conductor) (r : ActionRequest) (w : WorldState) : Prop :=
  ∀ incident policy expected, Admitted c r incident policy expected w →
    c.verdict w r.actionType r.params = .accepted →
      HasRoom policy expected w.now ∨
        inCalendar (policy.clock expected w.now) = false ∧ idle w r.actionType r.targetService r.params

/-- An action that raises leaves the world as it was exactly where it is spared. -/
lemma applyAction_unchanged {r : ActionRequest} (encodable : Encodable c w) (sound : Sound w) :
    (∀ e w', c.applyAction r w = (.error e, w') → w' = w) ↔ Spares c r w := by
  unfold Spares
  simp only [← admission_ok]
  rw [applyAction_eq]
  cases admitted : c.admission r w with
  | error e =>
    constructor
    case mp =>
      rintro _ _ _ _ ⟨⟩
    case mpr =>
      rintro _ _ _ ⟨⟩
      rfl
  | ok entry =>
    obtain ⟨incident, policy, expected⟩ := entry
    have admitted := admission_ok.mp admitted
    obtain ⟨service, known⟩ := admitted.known
    have concludes := @mutateAction_verdict c w r.actionType r.targetService r.params service known encodable
    have mutates := @mutateAction_mutated c r.actionType r.targetService r.params w w rfl
    dsimp only
    revert concludes mutates
    generalize c.mutateAction r.actionType r.targetService r.params w = out
    generalize c.verdict w r.actionType r.params = verdict
    intro concludes mutates
    cases concludes with
    | refused =>
      refine iff_of_true ?_ fun _ _ _ _ => nofun
      rintro _ _ ⟨⟩
      rfl
    | raised _ =>
      refine iff_of_true ?_ fun _ _ _ _ => nofun
      rintro _ _ ⟨⟩
      rfl
    | @accepted w₁ carried =>
      have mutated : Mutated w w₁ := mutates
      have home : Known w₁ incident.service :=
        known_of_rel (mutated.services _) (sound.services _ _ admitted.found)
      have outcome := @conclude_outcome c w₁ r incident policy expected (sound.mutated mutated) home w₁ rfl
      rw [← carried.now, ← carried.same]
      show (∀ e w', c.conclude r incident policy expected w₁ = (.error e, w') → w' = w) ↔ _
      revert outcome
      generalize c.conclude r incident policy expected w₁ = out
      obtain ⟨_ | _, w'⟩ := out
      case ok =>
        intro room
        constructor
        case mp =>
          rintro _ _ _ _ ⟨⟩ _
          exact .inl room
        case mpr =>
          rintro _ _ _ ⟨⟩
      case error =>
        rintro ⟨_, late⟩
        constructor
        case mp =>
          rintro unchanged _ _ _ ⟨⟩ _
          have same : w' = w := unchanged _ _ rfl
          cases inside : inCalendar (policy.clock expected w₁.now) with
          | false => exact .inr ⟨rfl, (late.clock inside).symm.trans same⟩
          | true =>
            have more := late.orders inside
            rw [same, carried.orders] at more
            omega
        case mpr =>
          rintro spared _ _ ⟨⟩
          rcases spared _ _ _ rfl rfl with room | ⟨outside, same⟩
          · exact absurd room late.late
          · exact (late.clock outside).trans same

/-- In every state of a run and for every request: if the action raises, nothing has changed, exactly if its checks
fail, or the calendar has room for it, or it is idle and the clock cannot move. -/
theorem raised_unchanged {calls : List Conductor.Call} {r : ActionRequest} (loaded : c.loadWorld = .ok w) :
    (∀ e w', c.applyAction r (Run.run c.step { world := w } calls).world = (.error e, w') →
      w' = (Run.run c.step { world := w } calls).world) ↔ Spares c r (Run.run c.step { world := w } calls).world :=
  applyAction_unchanged (run_encodable loaded) (run_sound loaded)

namespace Sample

/-- The restart of the service of the first incident. -/
def restart : ActionRequest := { rollback with actionType := "restart_service", params := [] }

/-- The rollback without its version. -/
def unversioned : ActionRequest := { rollback with params := [] }

/-- The end of the calendar, an hour after the start. -/
def untilTheEnd : Int := 253402300799999999 - 3600000000

/-- The world in which an incident is open at the end of the calendar. -/
def endOfTime : Simulation :=
  Run.run twoDeploys.step { world := start twoDeploys } [.injectNext, .advanceTime untilTheEnd]

end Sample

/-- `raised_unchanged` for a rollback without a version, on an incident that was just opened. -/
theorem raised_unchanged_sample : ∃ e w',
    Sample.twoDeploys.applyAction Sample.unversioned
      (Run.run Sample.twoDeploys.step { world := Sample.start Sample.twoDeploys } [.injectNext]).world = (.error e, w') ∧
    w' = (Run.run Sample.twoDeploys.step { world := Sample.start Sample.twoDeploys } [.injectNext]).world := by
  have raised : (Sample.twoDeploys.applyAction Sample.unversioned
      (Run.run Sample.twoDeploys.step { world := Sample.start Sample.twoDeploys } [.injectNext]).world).1 =
      .error (simulationError "rollback_deploy requires target_version") := by decide +kernel
  have refused : Sample.twoDeploys.verdict
      (Run.run Sample.twoDeploys.step { world := Sample.start Sample.twoDeploys } [.injectNext]).world
      Sample.unversioned.actionType Sample.unversioned.params = .refused := by decide +kernel
  have called := Prod.mk.eta.symm.trans (congrArg₂ Prod.mk raised rfl)
  refine ⟨_, _, called, ?_⟩
  apply (raised_unchanged rfl).mpr ?_ _ _ called
  intro incident policy expected _ accepted
  cases refused.symm.trans accepted

/-- At the end of the calendar the service is restarted, and the call raises. -/
theorem restarted_and_raised : Sample.twoDeploys.loadWorld = .ok (Sample.start Sample.twoDeploys) ∧
    ∃ e w', Sample.twoDeploys.applyAction Sample.restart Sample.endOfTime.world = (.error e, w') ∧
      w' ≠ Sample.endOfTime.world := by
  have outcome : (Sample.twoDeploys.applyAction Sample.restart Sample.endOfTime.world).1 =
      .error ⟨.OverflowError, "date value out of range", none, none⟩ := by decide +kernel
  have changed : (Sample.twoDeploys.applyAction Sample.restart Sample.endOfTime.world).2 ≠ Sample.endOfTime.world := by
    decide +kernel
  exact ⟨rfl, _, _, Prod.ext outcome rfl, changed⟩

end Postmortem.Simulator
