import Mathlib.Algebra.BigOperators.Group.List.Basic
import Postmortem.Simulator.Refused

/-!
# What a call costs

The clock, the failed orders and the record of actions are the ledger of a world. A fault, a remediation and the
resolution of an incident leave it as it was (`Unbilled`); an injection adds the orders of its scenario, and an
action that returns adds its own record, its seconds and, where it was not expected, two orders (`applyAction_billed`).
-/

namespace Postmortem.Simulator

/-- What is counted of a world. -/
structure Ledger where
  now : Timestamp
  orders : List Order
  actions : List RemediationAction

/-- The ledger of the world. -/
def WorldState.ledger (w : WorldState) : Ledger where
  now := w.now
  orders := w.orders
  actions := w.actions

/-- The call takes no time, fails no order and records no action. -/
abbrev Unbilled {α : Type} (m : Sim α) : Prop := Effect.Keeps WorldState.ledger m

variable {c : Conductor} {w w' : WorldState} {scenario : Scenario} {r : ActionRequest}

section unbilled

variable {name key : String}

lemma getService_unbilled : Unbilled (getService name) := Effect.Keeps.bind .read fun _ => .lift

lemma setHealth_unbilled {health : Health} : Unbilled (setHealth name health) :=
  Effect.Keeps.bind getService_unbilled fun _ => .update fun _ => rfl

lemma setConfig_unbilled {service source : String} {key value : Json} : Unbilled (c.setConfig service key value source) := by
  refine Effect.Keeps.update_bind (fun _ => rfl) fun _ => ?_
  apply Effect.Keeps.bind .read
  intro _
  apply Effect.Keeps.bind .lift
  exact fun _ => .update fun _ => rfl

/-! ## Faults -/

lemma injectBadDeploy_unbilled : Unbilled (c.injectBadDeploy scenario) := by
  apply Effect.Keeps.bind getService_unbilled
  intro service
  refine Effect.Keeps.update_bind (fun _ => rfl) fun _ => ?_
  apply Effect.Keeps.bind .lift
  intro badVersion
  refine Effect.Keeps.update_bind (fun _ => rfl) fun _ => ?_
  refine Effect.Keeps.update_bind (fun _ => rfl) fun _ => ?_
  exact Effect.Keeps.bind .lift fun _ => .pure

lemma injectPoolExhaustion_unbilled : Unbilled (c.injectPoolExhaustion scenario) := by
  apply Effect.Keeps.bind getService_unbilled
  intro service
  apply Effect.Keeps.bind setHealth_unbilled
  intro _
  split
  case isTrue => exact Effect.Keeps.bind .lift fun _ => .pure
  case isFalse =>
    apply Effect.Keeps.bind .read
    intro w
    split
    case h_1 => exact .raise
    case h_2 => exact Effect.Keeps.bind .lift fun _ => .pure

lemma faultDependency_unbilled : Unbilled (c.faultDependency scenario) := by
  apply Effect.Keeps.bind .lift
  intro _
  apply Effect.Keeps.bind .lift
  intro _
  apply Effect.Keeps.bind .read
  intro _
  exact Effect.Keeps.bind .lift fun _ => .pure

lemma failDependency_unbilled : Unbilled (c.failDependency scenario key) := by
  apply Effect.Keeps.bind .lift
  intro failed
  refine Effect.Keeps.update_bind (fun _ => rfl) fun _ => ?_
  apply Effect.Keeps.bind .lift
  intro name
  exact Effect.Keeps.bind setHealth_unbilled fun _ => .pure

lemma injectOutage_unbilled {signal : Json → String} {errorCode : String} :
    Unbilled (c.injectOutage scenario signal errorCode) := by
  apply Effect.Keeps.bind faultDependency_unbilled
  intro key
  apply Effect.Keeps.bind failDependency_unbilled
  intro failed
  apply Effect.Keeps.bind setHealth_unbilled
  intro _
  exact Effect.Keeps.bind .lift fun _ => .pure

lemma injectDegradation_unbilled {sloKind key signal errorCode : String} :
    Unbilled (c.injectDegradation scenario sloKind key signal errorCode) := by
  apply Effect.Keeps.bind setHealth_unbilled
  intro _
  exact Effect.Keeps.bind .lift fun _ => .pure

lemma injectConfigRegression_unbilled : Unbilled (c.injectConfigRegression scenario) := by
  apply Effect.Keeps.bind .lift
  intro key
  apply Effect.Keeps.bind .lift
  intro badValue
  apply Effect.Keeps.bind setConfig_unbilled
  intro _
  apply Effect.Keeps.bind setHealth_unbilled
  intro _
  exact Effect.Keeps.bind .lift fun _ => .pure

lemma injectPoolDriverMigration_unbilled : Unbilled (c.injectPoolDriverMigration scenario) := by
  apply Effect.Keeps.bind getService_unbilled
  intro service
  apply Effect.Keeps.bind setHealth_unbilled
  intro _
  split
  case isTrue =>
    apply Effect.Keeps.bind setConfig_unbilled
    intro _
    exact Effect.Keeps.bind .lift fun _ => .pure
  case isFalse => exact Effect.Keeps.bind .lift fun _ => .pure

lemma injectCacheTopologyMigration_unbilled : Unbilled (c.injectCacheTopologyMigration scenario) := by
  have rest : ∀ key, Unbilled (do
      let failed ← c.failDependency scenario key
      setHealth scenario.targetService .degraded
      let availability ← Effect.lift (c.faultFloat scenario "availability")
      return ({
        sloKind := "availability"
        currentValue := availability
        signal := "cache timeout cascade through " ++ Python.str c.rt failed
        errorCode := "CACHE_TIMEOUT" } : Conductor.Breach)) := by
    intro key
    apply Effect.Keeps.bind failDependency_unbilled
    intro failed
    apply Effect.Keeps.bind setHealth_unbilled
    intro _
    exact Effect.Keeps.bind .lift fun _ => .pure
  apply Effect.Keeps.bind faultDependency_unbilled
  intro key
  apply Effect.Keeps.bind getService_unbilled
  intro service
  split
  case isTrue =>
    apply Effect.Keeps.bind setConfig_unbilled
    intro _
    apply Effect.Keeps.bind setHealth_unbilled
    exact fun _ => rest key
  case isFalse => exact rest key

/-- A fault costs nothing by itself. -/
lemma injectFault_unbilled : Unbilled (c.injectFault scenario) := by
  unfold Conductor.injectFault
  split
  case h_1 => exact injectBadDeploy_unbilled
  case h_2 => exact injectPoolExhaustion_unbilled
  case h_3 => exact injectOutage_unbilled
  case h_4 => exact injectDegradation_unbilled
  case h_5 => exact injectDegradation_unbilled
  case h_6 => exact injectDegradation_unbilled
  case h_7 => exact injectConfigRegression_unbilled
  case h_8 => exact injectOutage_unbilled
  case h_9 => exact injectOutage_unbilled
  case h_10 => exact injectDegradation_unbilled
  case h_11 => exact injectPoolDriverMigration_unbilled
  case h_12 => exact injectCacheTopologyMigration_unbilled
  case h_13 => exact .raise

lemma announce_unbilled {breach : Conductor.Breach} : Unbilled (c.announce scenario breach) := by
  apply Effect.Keeps.bind .read
  intro w
  refine Effect.Keeps.update_bind (fun _ => rfl) fun _ => ?_
  apply Effect.Keeps.bind .lift
  intro _
  refine Effect.Keeps.update_bind (fun _ => rfl) fun _ => ?_
  apply Effect.Keeps.bind .lift
  intro burnRate
  refine Effect.Keeps.update_bind (fun _ => rfl) fun _ => ?_
  refine Effect.Keeps.update_bind (fun _ => rfl) ?_
  exact fun _ => .pure

/-! ## Remediations -/

lemma rollbackDeploy_unbilled {service : Service} {targetService targetVersion : String} :
    Unbilled (c.rollbackDeploy service targetService targetVersion) := by
  refine Effect.Keeps.update_bind (fun _ => rfl) fun _ => ?_
  refine Effect.Keeps.update_bind (fun _ => rfl) ?_
  exact fun _ => .update fun _ => rfl

/-- A remediation costs nothing by itself. -/
lemma mutateAction_unbilled {actionType targetService : String} {params : Dict} :
    Unbilled (c.mutateAction actionType targetService params) := by
  apply Effect.Keeps.bind getService_unbilled
  intro service
  split
  case h_1 =>
    split
    case h_1 => exact rollbackDeploy_unbilled
    case h_2 => exact .raise
  case h_2 =>
    split
    case h_1 => exact setConfig_unbilled
    case h_2 => exact .raise
  case h_3 => exact .update fun _ => rfl
  case h_4 =>
    apply Effect.Keeps.bind .read
    intro _
    apply Effect.Keeps.bind .lift
    intro _
    apply Effect.Keeps.bind .lift
    exact fun _ => .update fun _ => rfl
  case h_5 =>
    split
    case h_1 =>
      split
      case isTrue => exact .raise
      case isFalse => exact .update fun _ => rfl
    case h_2 => exact .raise
  case h_6 =>
    dsimp only
    split
    case h_1 =>
      split
      case isTrue => exact setConfig_unbilled
      case isFalse => exact .raise
    case h_2 => exact .raise
  case h_7 => exact .pure
  case h_8 => exact .pure
  case h_9 => exact .raise

lemma clearAlerts_unbilled {id : String} {alerts : List (String × Alert)} : Unbilled (Conductor.clearAlerts id alerts) := by
  induction alerts with
  | nil => exact .pure
  | cons entry alerts ih =>
    unfold Conductor.clearAlerts
    dsimp only
    split
    case isFalse => exact ih
    case isTrue =>
      refine Effect.Keeps.update_bind (fun _ => rfl) fun _ => ?_
      apply Effect.Keeps.bind .read
      intro _
      apply Effect.Keeps.bind .lift
      intro _
      refine Effect.Keeps.update_bind (fun _ => rfl) ?_
      exact fun _ => ih

/-- Resolving an incident costs nothing. -/
lemma resolve_unbilled {incident : Incident} : Unbilled (Conductor.resolve incident) := by
  refine Effect.Keeps.update_bind (fun _ => rfl) fun _ => ?_
  apply Effect.Keeps.bind setHealth_unbilled
  intro _
  apply Effect.Keeps.bind .read
  exact fun _ => clearAlerts_unbilled

end unbilled

/-! ## Orders -/

/-- The amount of the order at an index. -/
def Conductor.orderCents (c : Conductor) (index : Nat) : Int := 1500 + (c.fixture.seed + index * 7919) % 8500

/-- The amount of so many orders that fail together. -/
def Conductor.ordersCents (c : Conductor) (count : Nat) : Int := ((List.range count).map c.orderCents).sum

/-- The orders failed in the incident; there are so many of them, of that amount. -/
structure Charges (incidentId : String) (count : Nat) (cents : Int) (orders : List Order) : Prop where
  incident : ∀ order ∈ orders, order.incidentId = incidentId
  count : orders.length = count
  cents : (orders.map Order.amountCents).sum = cents

lemma Charges.nil {id : String} : Charges id 0 0 [] := ⟨List.forall_mem_nil _, rfl, rfl⟩

lemma Charges.append {id : String} {m n : Nat} {x y : Int} {orders later : List Order} (first : Charges id m x orders)
    (then_ : Charges id n y later) : Charges id (m + n) (x + y) (orders ++ later) := by
  refine ⟨?_, ?_, ?_⟩
  · intro order mem
    rcases List.mem_append.mp mem with mem | mem
    · exact first.incident order mem
    · exact then_.incident order mem
  · rw [List.length_append, first.count, then_.count]
  · rw [List.map_append, List.sum_append, first.cents, then_.cents]

/-- The order that fails at an index, where so many were known. -/
def Conductor.failedOrder (c : Conductor) (incident : Incident) (errorCode : String) (known index : Nat)
    (createdAt : Timestamp) : Order where
  orderId := c.id "order" (incident.scenarioId ++ ":" ++ toString known ++ ":" ++ toString index)
  incidentId := incident.incidentId
  status := "failed"
  amountCents := c.orderCents index
  errorCode
  createdAt

lemma charges_failed {incident : Incident} {errorCode : String} {known index : Nat} {createdAt : Timestamp} :
    Charges incident.incidentId 1 (c.orderCents index) [c.failedOrder incident errorCode known index createdAt] :=
  ⟨fun _ mem => List.mem_singleton.mp mem ▸ rfl, rfl, List.sum_singleton⟩

lemma addOrders_charges {incident : Incident} {errorCode : String} {indices : List Nat}
    (returned : c.addOrders incident errorCode indices w = (.ok (), w')) :
    ∃ orders, w' = { w with orders := w.orders ++ orders } ∧
      Charges incident.incidentId indices.length (indices.map c.orderCents).sum orders := by
  induction indices generalizing w with
  | nil =>
    cases returned
    exact ⟨[], by rw [List.append_nil], Charges.nil⟩
  | cons index rest ih =>
    obtain ⟨_, _, read, timed⟩ := Effect.bind_ok_iff.mp returned
    cases read
    obtain ⟨createdAt, w₁, inside, writes⟩ := Effect.bind_ok_iff.mp timed
    obtain ⟨_, rfl⟩ := Effect.lift_ok_iff.mp inside
    obtain ⟨_, _, written, goesOn⟩ := Effect.bind_ok_iff.mp writes
    cases written
    obtain ⟨orders, rfl, charges⟩ := ih goesOn
    have first := @charges_failed c incident errorCode w₁.orders.length index createdAt
    refine ⟨c.failedOrder incident errorCode w₁.orders.length index createdAt :: orders, ?_, ?_⟩
    · show WorldState.mk _ _ _ _ _ _ _ _ (w₁.orders ++ [_] ++ orders) _ = _
      rw [List.append_assoc]
      rfl
    · have all := first.append charges
      rw [Nat.add_comm] at all
      exact all

/-- The orders that are added at once. -/
lemma addFailedOrders_charges {incident : Incident} {count : Int} {errorCode : String}
    (returned : c.addFailedOrders incident count errorCode w = (.ok (), w')) :
    ∃ orders, w' = { w with orders := w.orders ++ orders } ∧
      Charges incident.incidentId count.toNat (c.ordersCents count.toNat) orders := by
  obtain ⟨orders, e, charges⟩ := addOrders_charges returned
  rw [List.length_range] at charges
  exact ⟨orders, e, charges⟩

/-- An injection opens the incident of the next scenario when it is due, with the orders of the scenario. -/
structure Billing (c : Conductor) (scenario : Scenario) (incident : Incident) (s s' : Simulation) : Prop where
  scheduled : c.scenarios[s.nextScenario]? = some scenario
  opened : incident = c.newIncident scenario s'.world.now
  next : s'.nextScenario = s.nextScenario + 1
  actions : s'.world.actions = s.world.actions
  orders : ∃ orders, s'.world.orders = s.world.orders ++ orders ∧
    Charges incident.incidentId scenario.failedOrders.toNat (c.ordersCents scenario.failedOrders.toNat) orders

lemma injectNext_billing {s s' : Simulation} {incident : Incident} (injected : c.injectNext s = (.ok incident, s')) :
    ∃ scenario, Billing c scenario incident s s' := by
  unfold Conductor.injectNext at injected
  split at injected
  case h_1 => cases injected
  case h_2 scenario next =>
  split at injected
  case h_1 => cases injected
  case h_2 scheduledAt due =>
  dsimp only at injected
  generalize ran : c.inject scenario { s.world with now := max s.world.now scheduledAt } = out at injected
  obtain ⟨_, w'⟩ := out
  cases injected
  obtain ⟨breach, w₁, struck, opened⟩ := Effect.bind_ok_iff.mp ran
  obtain ⟨incident, w₂, announced, opened⟩ := Effect.bind_ok_iff.mp opened
  obtain ⟨_, w₃, ordered, returned⟩ := Effect.bind_ok_iff.mp opened
  cases returned
  have fault := injectFault_unbilled.ok struck
  have news := announce_unbilled.ok announced
  obtain ⟨rfl, _⟩ := announce_opens.ok rfl announced
  obtain ⟨orders, rfl, charges⟩ := addFailedOrders_charges ordered
  have now : w₂.now = w₁.now := congrArg Ledger.now news
  have actions : w₂.actions = s.world.actions := congrArg Ledger.actions (news.trans fault)
  have before : w₂.orders = s.world.orders := congrArg Ledger.orders (news.trans fault)
  refine ⟨scenario, next, ?_, rfl, actions, orders, ?_, charges⟩
  · show c.newIncident scenario w₁.now = c.newIncident scenario w₂.now
    rw [now]
  · show w₂.orders ++ orders = s.world.orders ++ orders
    rw [before]

/-! ## Actions -/

/-- What an action costs that returns: its seconds, two orders if it was not expected, and its record. -/
structure Billed (c : Conductor) (r : ActionRequest) (incident : Incident) (policy : Policy) (expected : Bool)
    (w w' : WorldState) : Prop where
  clock : w'.now = policy.clock expected w.now
  orders : ∃ orders, w'.orders = w.orders ++ orders ∧
    Charges incident.incidentId (if expected then 0 else 2) (if expected then 0 else c.ordersCents 2) orders
  actions : ∃ action, w'.actions = w.actions ++ [action] ∧ action.incidentId = r.incidentId ∧
    action.actionType = r.actionType ∧ action.outcome = if expected then "success" else "no_effect"

/-- A time that is computed is the one that was asked for. -/
lemma instant_ok {t now : Timestamp} (h : instant t = .ok now) : now = t := by
  unfold instant at h
  split at h
  case isTrue =>
    cases h
    rfl
  case isFalse => cases h

lemma account_billed {incident : Incident} {policy : Policy} {expected : Bool} {actionId : String}
    (returned : c.account r incident policy expected w = (.ok actionId, w')) :
    Billed c r incident policy expected w w' := by
  obtain ⟨_, _, read, timed⟩ := Effect.bind_ok_iff.mp returned
  cases read
  obtain ⟨now, w, lifted, moves⟩ := Effect.bind_ok_iff.mp timed
  obtain ⟨inside, rfl⟩ := Effect.lift_ok_iff.mp lifted
  have clock : now = policy.clock expected w.now := instant_ok inside
  obtain ⟨_, _, moved, scores⟩ := Effect.bind_ok_iff.mp moves
  cases moved
  obtain ⟨_, w₁, scored, logs⟩ := Effect.bind_ok_iff.mp scores
  obtain ⟨_, _, read, records⟩ := Effect.bind_ok_iff.mp logs
  cases read
  obtain ⟨_, _, written, ends⟩ := Effect.bind_ok_iff.mp records
  cases written
  cases ends
  cases expected with
  | true =>
    cases scored
    exact ⟨clock, ⟨[], (List.append_nil _).symm, Charges.nil⟩, _, rfl, rfl, rfl, rfl⟩
  | false =>
    obtain ⟨orders, rfl, charges⟩ := addFailedOrders_charges scored
    exact ⟨clock, ⟨orders, rfl, charges⟩, _, rfl, rfl, rfl, rfl⟩

lemma Billed.resolved {incident : Incident} {policy : Policy} {expected : Bool} {w₁ : WorldState}
    (billed : Billed c r incident policy expected w w₁) (same : w'.ledger = w₁.ledger) :
    Billed c r incident policy expected w w' := by
  have now : w'.now = w₁.now := congrArg Ledger.now same
  have orders : w'.orders = w₁.orders := congrArg Ledger.orders same
  have actions : w'.actions = w₁.actions := congrArg Ledger.actions same
  refine ⟨now.trans billed.clock, ?_, ?_⟩
  · rw [orders]
    exact billed.orders
  · rw [actions]
    exact billed.actions

/-- What an action costs that returns, by whether it was expected. -/
lemma applyAction_billed {result : ActionResult} (applied : c.applyAction r w = (.ok result, w')) :
    ∃ incident policy expected, Admitted c r incident policy expected w ∧
      Billed c r incident policy expected w w' := by
  rw [applyAction_eq] at applied
  cases checked : c.admission r w with
  | error e =>
    rw [checked] at applied
    cases applied
  | ok entry =>
    obtain ⟨incident, policy, expected⟩ := entry
    rw [checked] at applied
    obtain ⟨_, w₁, mutated, concluded⟩ := Effect.bind_ok_iff.mp applied
    obtain ⟨actionId, w₂, accounted, concluded⟩ := Effect.bind_ok_iff.mp concluded
    have billed := account_billed accounted
    have free := mutateAction_unbilled.ok mutated
    have now : w₁.now = w.now := congrArg Ledger.now free
    have orders : w₁.orders = w.orders := congrArg Ledger.orders free
    have actions : w₁.actions = w.actions := congrArg Ledger.actions free
    have whole : Billed c r incident policy expected w w₂ := by
      obtain ⟨clock, charged, recorded⟩ := billed
      rw [now] at clock
      rw [orders] at charged
      rw [actions] at recorded
      exact ⟨clock, charged, recorded⟩
    refine ⟨incident, policy, expected, admission_ok.mp checked, ?_⟩
    by_cases last :
        (if expected = true then incident.oracleStep + 1 else incident.oracleStep) = policy.requiredActions.length
    case pos =>
      rw [if_pos last] at concluded
      obtain ⟨_, w₃, resolved, returned⟩ := Effect.bind_ok_iff.mp concluded
      cases returned
      exact whole.resolved (resolve_unbilled.ok resolved)
    case neg =>
      rw [if_neg last] at concluded
      cases concluded
      exact whole

end Postmortem.Simulator
