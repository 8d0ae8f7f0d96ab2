import Postmortem.Data.Python

/-!
# The simulated world

`simulator/postmortem_sim/models.py`: the records of the world, its dictionaries as association lists in the
order of insertion, and `current_config`. A version is any JSON value, as the fixture gives it; `None` is
`null`.
-/

namespace Postmortem.Simulator

/-- `Health` -/
inductive Health where
  | healthy | degraded | down | recovering
deriving DecidableEq

/-- `IncidentStatus` -/
inductive IncidentStatus where
  | «open» | mitigating | resolved
deriving DecidableEq

/-- `SLOStatus` -/
inductive SLOStatus where
  | healthy | breaching
deriving DecidableEq

/-- `Service` -/
structure Service where
  serviceId : String
  name : String
  tier : String
  ownerTeam : String
  health : Health
  currentVersion : Json
  previousStableVersion : Json
  capacityUnits : Int
  restartCount : Int := 0
deriving DecidableEq

/-- `Dependency` -/
structure Dependency where
  dependencyId : String
  dependencyKey : String
  fromService : String
  toService : Json
  dependencyType : String
  criticality : String
  status : String := "active"
deriving DecidableEq

/-- `SLO` -/
structure SLO where
  sloId : String
  service : String
  kind : String
  threshold : Flt
  windowSeconds : Int
  currentValue : Flt
  burnRate : Flt := 0
  status : SLOStatus := .healthy
deriving DecidableEq

/-- `ConfigRevision` -/
structure ConfigRevision where
  configId : String
  service : String
  key : Json
  value : Json
  validFrom : Timestamp
  validTo : Option Timestamp
  source : String
deriving DecidableEq

/-- `Deployment` -/
structure Deployment where
  deployId : String
  service : String
  version : Json
  action : String
  deployedAt : Timestamp
  rolledBack : Bool := false
deriving DecidableEq

/-- `Alert` -/
structure Alert where
  alertId : String
  incidentId : String
  service : String
  sloKind : String
  signal : String
  firedAt : Timestamp
  clearedAt : Option Timestamp := none
deriving DecidableEq

/-- `Incident` -/
structure Incident where
  incidentId : String
  scenarioId : String
  title : String
  service : String
  severity : String
  familyId : String
  variantId : String
  status : IncidentStatus
  openedAt : Timestamp
  resolvedAt : Option Timestamp := none
  mttrSeconds : Option Int := none
  oracleStep : Nat := 0
deriving DecidableEq

/-- `IncidentObservation` -/
structure IncidentObservation where
  incidentId : String
  title : String
  service : String
  severity : String
  signal : String
  sloKind : String
  sloCurrentValue : Flt
  sloThreshold : Flt
  currentVersion : Json
  previousStableVersion : Json
  observedAt : Timestamp
deriving DecidableEq

/-- `Order` -/
structure Order where
  orderId : String
  incidentId : String
  status : String
  amountCents : Int
  errorCode : String
  createdAt : Timestamp
deriving DecidableEq

/-- `RemediationAction` -/
structure RemediationAction where
  actionId : String
  incidentId : String
  actionType : String
  targetService : String
  params : Dict
  appliedAt : Timestamp
  appliedBy : String
  outcome : String
  memoryRef : Option String
deriving DecidableEq

/-- `WorldState` -/
structure WorldState where
  now : Timestamp
  services : List (String × Service) := []
  dependencies : List (String × Dependency) := []
  slos : List ((String × String) × SLO) := []
  configs : List ConfigRevision := []
  deployments : List Deployment := []
  alerts : List (String × Alert) := []
  incidents : List (String × Incident) := []
  orders : List Order := []
  actions : List RemediationAction := []
deriving DecidableEq

namespace WorldState

/-- The revision that `current_config` finds: of the service and the key, and not ended. -/
def isCurrent (service : String) (key : Json) (r : ConfigRevision) : Bool :=
  r.service = service && r.key.pyEq key && r.validTo.isNone

/-- `current_config` -/
def currentConfig (w : WorldState) (service : String) (key : Json) : Option ConfigRevision :=
  w.configs.reverse.find? (isCurrent service key)

/-- What happens to a service. -/
def onService (w : WorldState) (name : String) (f : Service → Service) : WorldState :=
  { w with services := Assoc.modify f w.services name }

/-- What happens to a dependency. -/
def onDependency (w : WorldState) (key : String) (f : Dependency → Dependency) : WorldState :=
  { w with dependencies := Assoc.modify f w.dependencies key }

/-- What happens to an SLO. -/
def onSLO (w : WorldState) (key : String × String) (f : SLO → SLO) : WorldState :=
  { w with slos := Assoc.modify f w.slos key }

/-- What happens to an incident. -/
def onIncident (w : WorldState) (id : String) (f : Incident → Incident) : WorldState :=
  { w with incidents := Assoc.modify f w.incidents id }

/-- What happens to an alert. -/
def onAlert (w : WorldState) (id : String) (f : Alert → Alert) : WorldState :=
  { w with alerts := Assoc.modify f w.alerts id }

end WorldState

/-- What happens to the first member of a list that passes a test. -/
def modifyFirst {α : Type} (p : α → Bool) (f : α → α) : List α → List α
  | [] => []
  | a :: l => if p a then f a :: l else a :: modifyFirst p f l

/-- What happens to the last one: the loops go through `reversed(…)`. -/
def modifyLast {α : Type} (p : α → Bool) (f : α → α) (l : List α) : List α :=
  (modifyFirst p f l.reverse).reverse

end Postmortem.Simulator
