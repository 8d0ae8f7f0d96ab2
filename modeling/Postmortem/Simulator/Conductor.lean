import Postmortem.Lib.Effect
import Postmortem.Simulator.World

/-!
# The conductor

`simulator/postmortem_sim/conductor.py`. A method is a call on the world: it may raise, and what it changed
before it raised stays changed. Each fault family changes the world and says which breach to open an incident
for; `_open_incident`, which every family ends with, is called once, in `inject_next`.
-/

namespace Postmortem.Simulator

/-! ## Fixtures -/

/-- An item of `services`. -/
structure ServiceItem where
  name : String
  tier : String
  ownerTeam : String
  currentVersion : Json
  previousStableVersion : Json := .null
  capacityUnits : Int := 1
deriving DecidableEq

/-- An item of `dependencies`. -/
structure DependencyItem where
  dependencyKey : String
  fromService : String
  toService : String
  dependencyType : String
  criticality : String
deriving DecidableEq

/-- An item of `slos`. -/
structure SLOItem where
  service : String
  kind : String
  threshold : Json
  windowSeconds : Int
  baseline : Json
deriving DecidableEq

/-- An item of `configs`. -/
structure ConfigItem where
  service : String
  key : String
  value : Json
deriving DecidableEq

/-- An item of `scenarios`. -/
structure Scenario where
  scenarioId : String
  familyId : String
  variantId : String
  title : String
  severity : String
  targetService : String
  injectAtSeconds : Int
  failedOrders : Int := 5
  fault : Dict
deriving DecidableEq

/-- The fixture. -/
structure Fixture where
  seed : Int
  startTime : Timestamp
  services : List ServiceItem
  dependencies : List DependencyItem := []
  slos : List SLOItem
  configs : List ConfigItem := []
  scenarios : List Scenario
deriving DecidableEq

/-- An item of `required_actions`. -/
structure RequiredAction where
  actionType : String
  targetService : String
  params : Dict := []
deriving DecidableEq

/-- A policy of the oracle. -/
structure Policy where
  actionSeconds : Int
  wrongActionPenaltySeconds : Int
  requiredActions : List RequiredAction
deriving DecidableEq

/-- The oracle: `families`, and `scenarios` over them. -/
structure Oracle where
  families : List (String × Policy)
  scenarios : List (String × Policy) := []
deriving DecidableEq

/-- What a `Conductor` is made of. -/
structure Conductor where
  rt : Runtime
  /-- `str(uuid5(ID_NAMESPACE, name))` -/
  uuid5 : String → String
  fixture : Fixture
  oracle : Oracle

/-- A call on the world. -/
abbrev Sim (α : Type) : Type := Effect WorldState Raised α

/-- A `SimulationError`. -/
def simulationError (message : String) : Raised := ⟨.other "SimulationError", message, none, none⟩

/-- A `KeyError`. -/
def keyError (key : String) : Raised := ⟨.KeyError, "'" ++ key ++ "'", none, none⟩

/-- A time that `datetime` represents: years 1 to 9999. -/
def inCalendar (t : Timestamp) : Bool := -62135596800000000 ≤ t && t ≤ 253402300799999999

/-- A time that is computed; `OverflowError` where `datetime` does not represent it. -/
def instant (t : Timestamp) : Except Raised Timestamp :=
  if inCalendar t then .ok t else .error ⟨.OverflowError, "date value out of range", none, none⟩

/-- The value that was looked up. -/
def orRaise {α : Type} (e : Raised) : Option α → Except Raised α
  | some a => .ok a
  | none => .error e

/-- `self.state.services[name]` -/
def getService (name : String) : Sim Service := do
  let w ← Effect.read
  Effect.lift (orRaise (keyError name) (Assoc.get w.services name))

/-- The name in a dictionary that a value is. -/
def asKey (rt : Runtime) : Json → Except Raised String
  | .str s => .ok s
  | .arr _ => .error ⟨.TypeError, "unhashable type: 'list'", none, none⟩
  | .obj _ => .error ⟨.TypeError, "unhashable type: 'dict'", none, none⟩
  | v => .error (keyError (rt.repr v))

/-- `self.state.services[name].health = health` -/
def setHealth (name : String) (health : Health) : Sim Unit := do
  let _ ← getService name
  Effect.update fun w => w.onService name fun s => { s with health }

/-- `scenario["fault"][key]` -/
def Scenario.faultItem (scenario : Scenario) (key : String) : Except Raised Json :=
  orRaise (keyError key) (Assoc.get scenario.fault key)

/-- `a <= b` on the key `(inject_at_seconds, scenario_id)`. -/
def Scenario.before (a b : Scenario) : Prop :=
  a.injectAtSeconds < b.injectAtSeconds ∨ a.injectAtSeconds = b.injectAtSeconds ∧ a.scenarioId ≤ b.scenarioId

instance : DecidableRel Scenario.before := fun _ _ => inferInstanceAs (Decidable (_ ∨ _ ∧ _))

namespace Conductor

variable (c : Conductor)

/-- `_id` -/
def id (kind key : String) : String := c.uuid5 (toString c.fixture.seed ++ ":" ++ kind ++ ":" ++ key)

/-- `float(scenario["fault"][key])` -/
def faultFloat (scenario : Scenario) (key : String) : Except Raised Flt := do
  Python.float c.rt (← scenario.faultItem key)

/-- `_scenarios` -/
def scenarios : List Scenario := c.fixture.scenarios.insertionSort Scenario.before

/-- `_id` of a revision: the key is encoded, and only a text can hold what UTF-8 does not encode. -/
def configId (service : String) (key : Json) (count : Nat) : Except Raised String :=
  match key with
  | .str s =>
    if c.rt.encodes s then .ok (c.id "config" (service ++ ":" ++ s ++ ":" ++ toString count))
    else .error ⟨.other "UnicodeEncodeError", "'utf-8' codec can't encode: surrogates not allowed", none, none⟩
  | v => .ok (c.id "config" (service ++ ":" ++ Python.str c.rt v ++ ":" ++ toString count))

/-- `_set_config` -/
def setConfig (service : String) (key value : Json) (source : String) : Sim Unit := do
  Effect.update fun w =>
    { w with configs := modifyLast (WorldState.isCurrent service key) (fun r => { r with validTo := some w.now }) w.configs }
  let w ← Effect.read
  let configId ← Effect.lift (c.configId service key w.configs.length)
  Effect.update fun w =>
    { w with configs := w.configs ++ [{
        configId
        service, key, value
        validFrom := w.now
        validTo := none
        source }] }

/-- The loop of `_add_failed_orders`. -/
def addOrders (incident : Incident) (errorCode : String) : List Nat → Sim Unit
  | [] => return ()
  | index :: rest => do
    let w ← Effect.read
    let createdAt ← Effect.lift (instant (w.now + index * 1000000))
    Effect.update fun w =>
      { w with orders := w.orders ++ [{
          orderId := c.id "order"
            (incident.scenarioId ++ ":" ++ toString w.orders.length ++ ":" ++ toString index)
          incidentId := incident.incidentId
          status := "failed"
          amountCents := 1500 + (c.fixture.seed + index * 7919) % 8500
          errorCode
          createdAt }] }
    addOrders incident errorCode rest

/-- `_add_failed_orders` -/
def addFailedOrders (incident : Incident) (count : Int) (errorCode : String) : Sim Unit :=
  c.addOrders incident errorCode (List.range count.toNat)

/-! ## The world at the start -/

/-- `_load_world`, the services. -/
def loadService (item : ServiceItem) : Service where
  serviceId := c.id "service" item.name
  name := item.name
  tier := item.tier
  ownerTeam := item.ownerTeam
  health := .healthy
  currentVersion := item.currentVersion
  previousStableVersion := item.previousStableVersion
  capacityUnits := item.capacityUnits

/-- `_load_world`, the dependencies. -/
def loadDependency (item : DependencyItem) : Dependency where
  dependencyId := c.id "dependency" item.dependencyKey
  dependencyKey := item.dependencyKey
  fromService := item.fromService
  toService := .str item.toService
  dependencyType := item.dependencyType
  criticality := item.criticality

/-- `_load_world`, the SLOs. -/
def loadSLO (item : SLOItem) : Except Raised SLO := do
  let threshold ← Python.float c.rt item.threshold
  let currentValue ← Python.float c.rt item.baseline
  return {
    sloId := c.id "slo" (item.service ++ ":" ++ item.kind)
    service := item.service
    kind := item.kind
    threshold
    windowSeconds := item.windowSeconds
    currentValue }

/-- `_load_world`, the configuration. -/
def loadConfig (item : ConfigItem) : Except Raised ConfigRevision := do
  let configId ← c.configId item.service (.str item.key) 0
  return {
    configId
    service := item.service
    key := .str item.key
    value := item.value
    validFrom := c.fixture.startTime
    validTo := none
    source := "fixture" }

/-- `_load_world`, the initial deployments. -/
def loadDeployment (s : Service) : Deployment where
  deployId := c.id "deploy" (s.name ++ ":initial")
  service := s.name
  version := s.currentVersion
  action := "deploy"
  deployedAt := c.fixture.startTime

/-- The dictionary of some items, by a key of each. -/
def index {α κ β : Type} [DecidableEq κ] (key : α → κ) (value : α → β) (items : List α) : List (κ × β) :=
  items.foldl (fun d item => Assoc.set d (key item) (value item)) []

/-- `_load_world` -/
def loadWorld : Except Raised WorldState := do
  let slos ← c.fixture.slos.mapM c.loadSLO
  let configs ← c.fixture.configs.mapM c.loadConfig
  let services := index ServiceItem.name c.loadService c.fixture.services
  return {
    now := c.fixture.startTime
    services
    dependencies := index DependencyItem.dependencyKey c.loadDependency c.fixture.dependencies
    slos := index (fun s => (s.service, s.kind)) (fun s => s) slos
    configs
    deployments := services.map fun s => c.loadDeployment s.2 }

/-! ## Faults -/

/-- The arguments of `_open_incident`. -/
structure Breach where
  sloKind : String
  currentValue : Flt
  signal : String
  errorCode : String
deriving DecidableEq

variable (scenario : Scenario)

/-- `_inject_bad_deploy` -/
def injectBadDeploy : Sim Breach := do
  let service ← getService scenario.targetService
  Effect.update fun w => w.onService scenario.targetService fun s =>
    { s with previousStableVersion := s.currentVersion }
  let badVersion ← Effect.lift (scenario.faultItem "bad_version")
  Effect.update fun w => w.onService scenario.targetService fun s =>
    { s with currentVersion := badVersion, health := .degraded }
  Effect.update fun w =>
    { w with deployments := w.deployments ++ [{
        deployId := c.id "deploy" (scenario.scenarioId ++ ":bad")
        service := service.name
        version := badVersion
        action := "deploy"
        deployedAt := w.now }] }
  let errorRate ← Effect.lift (c.faultFloat scenario "error_rate")
  return {
    sloKind := "error_rate"
    currentValue := errorRate
    signal := "HTTP 5xx rose after deploy " ++ Python.str c.rt badVersion
    errorCode := "CHECKOUT_5XX" }

/-- `_inject_pool_exhaustion` -/
def injectPoolExhaustion : Sim Breach := do
  let service ← getService scenario.targetService
  setHealth scenario.targetService .degraded
  if (Dict.getD scenario.fault "near_miss" (.bool false)).truthy then
    let p99 ← Effect.lift (c.faultFloat scenario "p99_ms")
    return {
      sloKind := "latency"
      currentValue := p99
      signal := "slow SQL query plan causes long scans; pool health confirmed " ++
        "and resource gauges remain normal"
      errorCode := "SLOW_QUERY_PLAN" }
  else
    let w ← Effect.read
    match w.currentConfig service.name (.str "db_pool_size") with
    | none => Effect.raise (simulationError ("db_pool_size missing for " ++ service.name))
    | some _ =>
      let p99 ← Effect.lift (c.faultFloat scenario "p99_ms")
      return {
        sloKind := "latency"
        currentValue := p99
        signal := "database too many connections; p99 latency breached"
        errorCode := "DB_POOL_EXHAUSTED" }

/-- `self.state.dependencies[scenario["fault"]["dependency_key"]]`, by its key. -/
def faultDependency : Sim String := do
  let key ← Effect.lift (scenario.faultItem "dependency_key")
  let key ← Effect.lift (asKey c.rt key)
  let w ← Effect.read
  let _ ← Effect.lift (orRaise (keyError key) (Assoc.get w.dependencies key))
  return key

/-- The dependency is pointed at the failed service, which goes down. -/
def failDependency (key : String) : Sim Json := do
  let failed ← Effect.lift (scenario.faultItem "failed_service")
  Effect.update fun w => w.onDependency key fun d => { d with toService := failed, status := "degraded" }
  let name ← Effect.lift (asKey c.rt failed)
  setHealth name .down
  return failed

/-- A fault that breaks a dependency of the target. -/
def injectOutage (signal : Json → String) (errorCode : String) : Sim Breach := do
  let key ← c.faultDependency scenario
  let failed ← c.failDependency scenario key
  setHealth scenario.targetService .degraded
  let availability ← Effect.lift (c.faultFloat scenario "availability")
  return { sloKind := "availability", currentValue := availability, signal := signal failed, errorCode }

/-- A fault that only degrades the target. -/
def injectDegradation (sloKind key signal errorCode : String) : Sim Breach := do
  setHealth scenario.targetService .degraded
  let currentValue ← Effect.lift (c.faultFloat scenario key)
  return { sloKind, currentValue, signal, errorCode }

/-- `_inject_cache_outage` -/
def injectCacheOutage : Sim Breach :=
  c.injectOutage scenario (fun failed => "cache timeout cascade through " ++ Python.str c.rt failed) "CACHE_TIMEOUT"

/-- `_inject_traffic_saturation` -/
def injectTrafficSaturation : Sim Breach :=
  c.injectDegradation scenario "saturation" "utilization" "traffic spike saturated CPU; checkout latency rising"
    "SERVICE_SATURATED"

/-- `_inject_retry_storm` -/
def injectRetryStorm : Sim Breach :=
  c.injectDegradation scenario "latency" "p99_ms" "retry storm amplified request rate after an upstream blip"
    "RETRY_STORM"

/-- `_inject_memory_leak` -/
def injectMemoryLeak : Sim Breach :=
  c.injectDegradation scenario "saturation" "memory_utilization"
    "gradual memory leak reached OOM pressure and process crashes" "MEMORY_PRESSURE"

/-- `_inject_config_regression` -/
def injectConfigRegression : Sim Breach := do
  let key ← Effect.lift (scenario.faultItem "key")
  let badValue ← Effect.lift (scenario.faultItem "bad_value")
  c.setConfig scenario.targetService key badValue "fault"
  setHealth scenario.targetService .degraded
  let errorRate ← Effect.lift (c.faultFloat scenario "error_rate")
  return {
    sloKind := "error_rate"
    currentValue := errorRate
    signal := "error spike followed config flag " ++ Python.str c.rt key ++ " change"
    errorCode := "CONFIG_REGRESSION" }

/-- `_inject_datastore_failover` -/
def injectDatastoreFailover : Sim Breach :=
  c.injectOutage scenario (fun _ => "orders datastore primary unavailable; checkout writes failing")
    "DATASTORE_UNAVAILABLE"

/-- `_inject_payment_provider_outage` -/
def injectPaymentProviderOutage : Sim Breach :=
  c.injectOutage scenario (fun _ => "upstream payment provider auth failures are blocking checkout")
    "PAYMENT_PROVIDER_DOWN"

/-- `_inject_novel` -/
def injectNovel : Sim Breach :=
  c.injectDegradation scenario "latency" "p99_ms" "ambiguous clock-skew signature with no known causal pattern"
    "UNKNOWN_FAILURE"

/-- `scenario["fault"].get("environment_migrated", False)` -/
def migrated : Bool := (Dict.getD scenario.fault "environment_migrated" (.bool false)).truthy

/-- `_inject_pool_driver_migration` -/
def injectPoolDriverMigration : Sim Breach := do
  let service ← getService scenario.targetService
  setHealth scenario.targetService .degraded
  if migrated scenario then
    c.setConfig service.name (.str "pool_driver") (.str "multiplexed") "platform_migration"
  let p99 ← Effect.lift (c.faultFloat scenario "p99_ms")
  return {
    sloKind := "latency"
    currentValue := p99
    signal := "database too many connections; p99 latency breached"
    errorCode := "DB_POOL_EXHAUSTED" }

/-- `_inject_cache_topology_migration` -/
def injectCacheTopologyMigration : Sim Breach := do
  let key ← c.faultDependency scenario
  let service ← getService scenario.targetService
  if migrated scenario then
    c.setConfig service.name (.str "cache_failover_target") (.str "cache-managed-primary") "platform_migration"
    setHealth "cache-onprem-replica" .down
  let failed ← c.failDependency scenario key
  setHealth scenario.targetService .degraded
  let availability ← Effect.lift (c.faultFloat scenario "availability")
  return {
    sloKind := "availability"
    currentValue := availability
    signal := "cache timeout cascade through " ++ Python.str c.rt failed
    errorCode := "CACHE_TIMEOUT" }

/-- The branches of `inject_next`. -/
def injectFault : Sim Breach :=
  match scenario.familyId with
  | "F1_BAD_DEPLOY" => c.injectBadDeploy scenario
  | "F2_POOL_EXHAUSTION" => c.injectPoolExhaustion scenario
  | "F3_CACHE_OUTAGE" => c.injectCacheOutage scenario
  | "F4_TRAFFIC_SATURATION" => c.injectTrafficSaturation scenario
  | "F5_RETRY_STORM" => c.injectRetryStorm scenario
  | "F6_MEMORY_LEAK" => c.injectMemoryLeak scenario
  | "F7_CONFIG_REGRESSION" => c.injectConfigRegression scenario
  | "F8_DATASTORE_FAILOVER" => c.injectDatastoreFailover scenario
  | "F9_PAYMENT_PROVIDER_OUTAGE" => c.injectPaymentProviderOutage scenario
  | "F10_NOVEL" => c.injectNovel scenario
  | "F11_POOL_DRIVER_MIGRATION" => c.injectPoolDriverMigration scenario
  | "F12_CACHE_TOPOLOGY_MIGRATION" => c.injectCacheTopologyMigration scenario
  | family => Effect.raise (simulationError ("unsupported incident family: " ++ family))

/-- The incident of a scenario, opened now. -/
def newIncident (now : Timestamp) : Incident where
  incidentId := c.id "incident" scenario.scenarioId
  scenarioId := scenario.scenarioId
  title := scenario.title
  service := scenario.targetService
  severity := scenario.severity
  familyId := scenario.familyId
  variantId := scenario.variantId
  status := .open
  openedAt := now

/-- Its alert, fired now. -/
def newAlert (breach : Breach) (now : Timestamp) : Alert where
  alertId := c.id "alert" scenario.scenarioId
  incidentId := c.id "incident" scenario.scenarioId
  service := scenario.targetService
  sloKind := breach.sloKind
  signal := breach.signal
  firedAt := now

/-- `_open_incident`, up to the orders: the incident, its SLO and its alert. -/
def announce (breach : Breach) : Sim Incident := do
  let w ← Effect.read
  let incident := c.newIncident scenario w.now
  Effect.update fun w => { w with incidents := Assoc.set w.incidents incident.incidentId incident }
  let key := (scenario.targetService, breach.sloKind)
  let _ ← Effect.lift (orRaise (keyError (scenario.targetService ++ ":" ++ breach.sloKind)) (Assoc.get w.slos key))
  Effect.update fun w => w.onSLO key fun s => { s with currentValue := breach.currentValue }
  let burnRate ← Effect.lift (Python.float c.rt (Dict.getD scenario.fault "burn_rate" (.float 8)))
  Effect.update fun w => w.onSLO key fun s => { s with burnRate, status := .breaching }
  Effect.update fun w =>
    { w with
      alerts := Assoc.set w.alerts (c.id "alert" scenario.scenarioId) (c.newAlert scenario breach w.now) }
  return incident

/-- `_open_incident` -/
def openIncident (breach : Breach) : Sim Incident := do
  let incident ← c.announce scenario breach
  c.addFailedOrders incident scenario.failedOrders breach.errorCode
  return incident

/-- `inject_next`, after the clock. -/
def inject : Sim Incident := do
  let breach ← c.injectFault scenario
  c.openIncident scenario breach

end Conductor

/-! ## Observation -/

/-- `observe_incident` -/
def observeIncident (w : WorldState) (incidentId : String) : Except Raised IncidentObservation := do
  let incident ← orRaise (simulationError ("unknown incident: " ++ incidentId)) (Assoc.get w.incidents incidentId)
  let active := w.alerts.find? fun a => a.2.incidentId = incidentId ∧ a.2.clearedAt = none
  let alert ← orRaise (simulationError ("incident has no active alert: " ++ incidentId)) (active.map Prod.snd)
  let slo ← orRaise (keyError (alert.service ++ ":" ++ alert.sloKind))
    (Assoc.get w.slos (alert.service, alert.sloKind))
  let service ← orRaise (keyError incident.service) (Assoc.get w.services incident.service)
  return {
    incidentId := incident.incidentId
    title := incident.title
    service := incident.service
    severity := incident.severity
    signal := alert.signal
    sloKind := alert.sloKind
    sloCurrentValue := slo.currentValue
    sloThreshold := slo.threshold
    currentVersion := service.currentVersion
    previousStableVersion := service.previousStableVersion
    observedAt := w.now }

/-! ## Actions -/

/-- The arguments of `apply_action`. -/
structure ActionRequest where
  incidentId : String
  actionType : String
  targetService : String
  params : Dict := []
  appliedBy : String := "agent:postmortem"
  memoryRef : Option String := none
deriving DecidableEq

/-- `ActionResult` -/
structure ActionResult where
  actionId : String
  applied : Bool
  resolved : Bool
  outcome : String
  incidentStatus : IncidentStatus
deriving DecidableEq

/-- An `int`, which a `bool` is too. -/
def asInt? : Json → Option Int
  | .int i => some i
  | .bool b => some (if b then 1 else 0)
  | _ => none

namespace Conductor

variable (c : Conductor)

/-- `_oracle_for`: the policy of the family is looked up even if the scenario has its own. -/
def oracleFor (incident : Incident) : Except Raised Policy := do
  let family ← orRaise (keyError incident.familyId) (Assoc.get c.oracle.families incident.familyId)
  return (Assoc.get c.oracle.scenarios incident.scenarioId).getD family

/-- An expected parameter, with the placeholder filled in. -/
def expectedValue (service : Service) (v : Json) : Json :=
  if v = .str "$incident.previous_stable_version" then service.previousStableVersion else v

/-- `_matches` -/
def matchesExpected (w : WorldState) (expected : RequiredAction) (incident : Incident) (actionType targetService : String)
    (params : Dict) : Except Raised Bool :=
  let expectedTarget :=
    if expected.targetService = "$incident.service" then incident.service else expected.targetService
  if expected.actionType ≠ actionType ∨ expectedTarget ≠ targetService then .ok false
  else do
    let service ← orRaise (keyError incident.service) (Assoc.get w.services incident.service)
    return expected.params.all fun p => (params.get p.1).pyEq (expectedValue service p.2)

/-- `is_expected` -/
def isExpected (w : WorldState) (policy : Policy) (incident : Incident) (r : ActionRequest) : Except Raised Bool :=
  match policy.requiredActions[incident.oracleStep]? with
  | none => .ok false
  | some expected => matchesExpected w expected incident r.actionType r.targetService r.params

/-- The rollback of `_mutate_action`. -/
def rollbackDeploy (service : Service) (targetService targetVersion : String) : Sim Unit := do
  Effect.update fun w =>
    { w with
      deployments :=
        modifyLast (fun d => d.service = targetService && d.version.pyEq service.currentVersion)
          (fun d => { d with rolledBack := true }) w.deployments }
  Effect.update fun w => w.onService targetService fun s => { s with currentVersion := .str targetVersion }
  Effect.update fun w =>
    { w with
      deployments := w.deployments ++ [{
        deployId := c.id "deploy" ("rollback:" ++ targetService ++ ":" ++ toString w.deployments.length)
        service := targetService
        version := .str targetVersion
        action := "rollback"
        deployedAt := w.now }] }

/-- `key not in known`, with the error it raises then. -/
def knownKey (message : String) (known : String → Bool) (v : Json) : Except Raised String :=
  match asKey c.rt v with
  | .ok key => if known key then .ok key else .error (simulationError message)
  | .error e => .error (if e.cls = .TypeError then e else simulationError message)

/-- `_mutate_action` -/
def mutateAction (actionType targetService : String) (params : Dict) : Sim Unit := do
  let service ← getService targetService
  match actionType with
  | "rollback_deploy" =>
    match params.get "target_version" with
    | .str targetVersion => c.rollbackDeploy service targetService targetVersion
    | _ => Effect.raise (simulationError "rollback_deploy requires target_version")
  | "set_config" =>
    match params.get "key", Assoc.get params "value" with
    | .str key, some value => c.setConfig targetService (.str key) value "remediation"
    | _, _ => Effect.raise (simulationError "set_config requires key and value")
  | "restart_service" =>
    Effect.update fun w => w.onService targetService fun s => { s with restartCount := s.restartCount + 1 }
  | "failover_dependency" =>
    let w ← Effect.read
    let key ← Effect.lift (c.knownKey "failover_dependency requires a known dependency_key"
      (fun key => (Assoc.get w.dependencies key).isSome) (params.get "dependency_key"))
    let destination ← Effect.lift (c.knownKey "failover_dependency requires a known to_service"
      (fun name => (Assoc.get w.services name).isSome) (params.get "to_service"))
    Effect.update fun w => w.onDependency key fun d => { d with toService := .str destination, status := "active" }
  | "scale_service" =>
    match asInt? (params.get "capacity_units") with
    | some units =>
      if units ≤ 0 then Effect.raise (simulationError "scale_service requires positive capacity_units")
      else Effect.update fun w => w.onService targetService fun s => { s with capacityUnits := units }
    | none => Effect.raise (simulationError "scale_service requires positive capacity_units")
  | "throttle_traffic" =>
    let percent := params.get "traffic_percent"
    match asInt? percent with
    | some n =>
      if 1 ≤ n ∧ n ≤ 100 then
        c.setConfig targetService (.str "traffic_limit_percent") percent "remediation"
      else Effect.raise (simulationError "throttle_traffic requires traffic_percent between 1 and 100")
    | none => Effect.raise (simulationError "throttle_traffic requires traffic_percent between 1 and 100")
  | "no_op_page_human" => return ()
  | "escalate" => return ()
  | other => Effect.raise (simulationError ("unsupported remediation action: " ++ other))

/-- The loop of `_resolve` over the alerts. -/
def clearAlerts (incidentId : String) : List (String × Alert) → Sim Unit
  | [] => return ()
  | (key, alert) :: rest => do
    if alert.incidentId = incidentId ∧ alert.clearedAt = none then
      Effect.update fun w => w.onAlert key fun a => { a with clearedAt := some w.now }
      let w ← Effect.read
      let slo := (alert.service, alert.sloKind)
      let _ ← Effect.lift (orRaise (keyError (alert.service ++ ":" ++ alert.sloKind)) (Assoc.get w.slos slo))
      Effect.update fun w => w.onSLO slo fun s =>
        { s with
          status := .healthy
          burnRate := 0
          currentValue := if alert.sloKind = "availability" then .num (9995 / 10000) else 0 }
    clearAlerts incidentId rest

/-- `_resolve` -/
def resolve (incident : Incident) : Sim Unit := do
  Effect.update fun w => w.onIncident incident.incidentId fun i =>
    { i with
      status := .resolved
      resolvedAt := some w.now
      mttrSeconds := some ((w.now - i.openedAt).tdiv 1000000) }
  setHealth incident.service .healthy
  let w ← Effect.read
  clearAlerts incident.incidentId w.alerts

/-- The oracle step of an expected action, or the failed orders of another. -/
def score (r : ActionRequest) (incident : Incident) (isExpected : Bool) : Sim Unit :=
  if isExpected then
    Effect.update fun w => w.onIncident r.incidentId fun i =>
      { i with oracleStep := i.oracleStep + 1, status := .mitigating }
  else c.addFailedOrders incident 2 "MITIGATION_INEFFECTIVE"

/-- The record of an action: its identifier. -/
def logAction (r : ActionRequest) (incident : Incident) (isExpected : Bool) : Sim String := do
  let w ← Effect.read
  let actionId := c.id "action" (incident.scenarioId ++ ":" ++ toString w.actions.length)
  Effect.update fun w =>
    { w with
      actions := w.actions ++ [{
        actionId
        incidentId := r.incidentId
        actionType := r.actionType
        targetService := r.targetService
        params := r.params
        appliedAt := w.now
        appliedBy := r.appliedBy
        outcome := if isExpected then "success" else "no_effect"
        memoryRef := r.memoryRef }] }
  return actionId

/-- The clock, the oracle step or the failed orders, and the record of an action: its identifier. -/
def account (r : ActionRequest) (incident : Incident) (policy : Policy) (isExpected : Bool) : Sim String := do
  let seconds := if isExpected then policy.actionSeconds else policy.wrongActionPenaltySeconds
  let w ← Effect.read
  let now ← Effect.lift (instant (w.now + seconds * 1000000))
  Effect.update fun w => { w with now }
  c.score r incident isExpected
  c.logAction r incident isExpected

/-- `apply_action` -/
def applyAction (r : ActionRequest) : Sim ActionResult := do
  let w ← Effect.read
  let incident ← Effect.lift
    (orRaise (simulationError ("unknown incident: " ++ r.incidentId)) (Assoc.get w.incidents r.incidentId))
  if incident.status = .resolved then
    Effect.raise (simulationError ("incident is already resolved: " ++ r.incidentId))
  if Assoc.get w.services r.targetService = none then
    Effect.raise (simulationError ("unknown target service: " ++ r.targetService))
  let policy ← Effect.lift (c.oracleFor incident)
  let isExpected ← Effect.lift (isExpected w policy incident r)
  c.mutateAction r.actionType r.targetService r.params
  let actionId ← c.account r incident policy isExpected
  let outcome := if isExpected then "success" else "no_effect"
  let step := if isExpected then incident.oracleStep + 1 else incident.oracleStep
  let status := if isExpected then .mitigating else incident.status
  if step = policy.requiredActions.length then
    resolve incident
    return { actionId, applied := true, resolved := true, outcome, incidentStatus := .resolved }
  else
    return { actionId, applied := true, resolved := false, outcome, incidentStatus := status }

end Conductor

/-! ## Runs -/

/-- A conductor at work: `_next_scenario` and `state`. -/
structure Simulation where
  nextScenario : Nat := 0
  world : WorldState
deriving DecidableEq

namespace Conductor

variable (c : Conductor)

/-- `inject_next` -/
def injectNext (s : Simulation) : Except Raised Incident × Simulation :=
  match c.scenarios[s.nextScenario]? with
  | none => (.error (simulationError "no scheduled scenarios remain"), s)
  | some scenario =>
    match instant (c.fixture.startTime + scenario.injectAtSeconds * 1000000) with
    | .error e => (.error e, { s with nextScenario := s.nextScenario + 1 })
    | .ok scheduledAt =>
      let (out, world) := c.inject scenario { s.world with now := max s.world.now scheduledAt }
      (out, { nextScenario := s.nextScenario + 1, world })

/-- `advance_time`, by microseconds. -/
def advanceTime (duration : Int) : Sim Unit :=
  if duration < 0 then Effect.raise (simulationError "simulation time cannot move backwards")
  else do
    let w ← Effect.read
    let now ← Effect.lift (instant (w.now + duration))
    Effect.update fun w => { w with now }

/-- The calls of a harness. -/
inductive Call where
  | injectNext
  | applyAction (r : ActionRequest)
  | advanceTime (duration : Int)
deriving DecidableEq

/-- A call, whether it returns or raises. -/
def step (s : Simulation) : Call → Simulation
  | .injectNext => (c.injectNext s).2
  | .applyAction r => { s with world := (c.applyAction r s.world).2 }
  | .advanceTime duration => { s with world := (advanceTime duration s.world).2 }

end Conductor

namespace Sample

/-- A bad deploy of the checkout service. -/
def badDeploy (scenarioId : String) (injectAtSeconds : Int) (version : String) : Scenario where
  scenarioId
  familyId := "F1_BAD_DEPLOY"
  variantId := "base"
  title := "Checkout 5xx regression after canary"
  severity := "SEV1"
  targetService := "checkout-svc"
  injectAtSeconds
  failedOrders := 0
  fault := [("bad_version", .str version), ("error_rate", .float (.num (18 / 100)))]

/-- The policy of a bad deploy: roll back. -/
def rollbackPolicy : Policy where
  actionSeconds := 120
  wrongActionPenaltySeconds := 300
  requiredActions := [{
    actionType := "rollback_deploy"
    targetService := "$incident.service"
    params := [("target_version", .str "$incident.previous_stable_version")] }]

/-- The checkout service, and the scenarios that strike it. -/
def conductor (scenarios : List Scenario) : Conductor where
  rt := .sample
  uuid5 name := name
  fixture := {
    seed := 1
    startTime := 0
    services := [{
      name := "checkout-svc"
      tier := "critical-path"
      ownerTeam := "commerce"
      currentVersion := .str "1.4.2"
      previousStableVersion := .str "1.4.1" }]
    slos := [{
      service := "checkout-svc"
      kind := "error_rate"
      threshold := .float (.num (2 / 100))
      windowSeconds := 300
      baseline := .float 0 }]
    scenarios }
  oracle := { families := [("F1_BAD_DEPLOY", rollbackPolicy)] }

/-- Two bad deploys of the same service. -/
def twoDeploys : Conductor :=
  conductor [badDeploy "f1-checkout-base" 3600 "1.5.0", badDeploy "f1-checkout-third" 162000 "1.6.0"]

/-- The rollback to the version that the observation of the first incident offers. -/
def rollback : ActionRequest where
  incidentId := "1:incident:f1-checkout-base"
  actionType := "rollback_deploy"
  targetService := "checkout-svc"
  params := [("target_version", .str "1.4.2")]

/-- The world at the start. -/
def start (c : Conductor) : WorldState :=
  match c.loadWorld with
  | .ok w => w
  | .error _ => { now := 0 }

end Sample

end Postmortem.Simulator
