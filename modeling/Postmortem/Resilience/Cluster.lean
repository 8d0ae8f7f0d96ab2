import Postmortem.Lib.Interaction
import Postmortem.Resilience.Rto

/-!
# What the harness asks

`resilience/postmortem_resilience`: `Request` is what the harness asks of its machine and of the cluster, one
request for each reading of a clock, each identifier, each transaction or query on a connection of its own and
each command of `docker compose`. Below them are the readers of localities and `leaseholders.py`, which moves
the leases of the probed tables and looks where they are.
-/

namespace Postmortem

namespace Resilience

open Interaction Rounding

/-- `Node`; the host and the ports name the address a connection is made to. -/
structure Node extends Rto.Node where
  zone : String
deriving DecidableEq

/-- `TOPOLOGY` -/
def topology : List Node := [
  ⟨⟨"crdb-use1-a", "us-east-1"⟩, "a"⟩, ⟨⟨"crdb-use1-b", "us-east-1"⟩, "b"⟩, ⟨⟨"crdb-use1-c", "us-east-1"⟩, "c"⟩,
  ⟨⟨"crdb-use2-a", "us-east-2"⟩, "a"⟩, ⟨⟨"crdb-use2-b", "us-east-2"⟩, "b"⟩, ⟨⟨"crdb-use2-c", "us-east-2"⟩, "c"⟩,
  ⟨⟨"crdb-usw2-a", "us-west-2"⟩, "a"⟩, ⟨⟨"crdb-usw2-b", "us-west-2"⟩, "b"⟩, ⟨⟨"crdb-usw2-c", "us-west-2"⟩, "c"⟩]

/-- `CONTROL_NODE` -/
def controlNode : Node := ⟨⟨"crdb-use1-a", "us-east-1"⟩, "a"⟩

/-- `nodes_in_region` -/
def nodesInRegion (region : String) : List Node := topology.filter fun n => n.region = region

/-- `services_in_region` -/
def servicesInRegion (region : String) : List String := (nodesInRegion region).map fun n => n.service

/-- `SeedContext` -/
structure SeedContext where
  orgId : String
  agentId : String
  serviceId : String
  incidentId : String
  runbookId : String
deriving DecidableEq

/-- A row of an INSERT: the columns that are read back, the agent of an episode and the outcome of an action. -/
structure InsertedRow extends Rto.TrackedRow where
  agentId : Option String := none
  outcome : Option String := none
deriving DecidableEq

/-- `SELECT column FROM table WHERE org_id = … AND agent_id = … AND id_column = …`; without a column it is `1`. -/
structure Query where
  table : String
  idColumn : String
  rowId : String
  orgId : String
  agentId : Option String := none
  column : Option String
deriving DecidableEq

/-- A row of `SHOW RANGES … WITH DETAILS`. -/
structure LeaseRow where
  rangeId : Int
  leaseHolder : Int
  locality : String
deriving DecidableEq

/-- `NodeLiveness` -/
structure NodeLiveness where
  nodeId : Int
  address : String
  locality : String
  isAvailable : Bool
  isLive : Bool
deriving DecidableEq

/-- What the harness asks. -/
inductive Request where
  /-- `time.time()` -/
  | time
  /-- `time.perf_counter()` -/
  | perfCounter
  /-- `str(uuid4())` -/
  | uuid4
  /-- `time.sleep(seconds)` -/
  | sleep (seconds : ℚ)
  /-- The transaction of `seed_baseline`. -/
  | seed (node : Rto.Node) (ids : SeedContext)
  /-- A transaction that inserts the rows. -/
  | insert (node : Rto.Node) (rows : List InsertedRow)
  | select (node : Rto.Node) (query : Query)
  /-- `set_lease_preference` -/
  | setLeasePreference (node : Rto.Node) (table region : String)
  /-- `_fetch_lease_rows` -/
  | leaseRows (node : Rto.Node) (table : String)
  /-- `range_snapshot` -/
  | rangeSnapshot (node : Rto.Node) (table : String)
  /-- `node_status` -/
  | nodeStatus (node : Rto.Node)
  /-- `docker compose kill …` -/
  | composeKill (services : List String)
  /-- `docker compose start …` -/
  | composeStart (services : List String)
  /-- `record_probe` -/
  | recordProbe (node : Rto.Node) (orgId : String) (probe : Rto.ProbeResult)

/-- The answers to a request. -/
def Answer : Request → Type
  | .time => ℚ
  | .perfCounter => ℚ
  | .uuid4 => String
  | .sleep _ => Unit
  | .select _ _ => Except Raised (Option (Option String))
  | .leaseRows _ _ => Except Raised (List LeaseRow)
  | .rangeSnapshot _ _ => Except Raised Json
  | .nodeStatus _ => Except Raised (List NodeLiveness)
  | _ => Except Raised Unit

/-- Why the harness stops: an exception, or the loops ran longer than was looked at. -/
inductive Stop where
  | raised (e : Raised)
  | outOfFuel

abbrev History : Type := Interaction.History Answer

abbrev Environment : Type := Interaction.Environment Answer

/-- A call of the harness. -/
abbrev Call (α : Type) : Type := Effect History Stop α

/-- `raise e` -/
def raise {α : Type} (e : Raised) : Call α := Effect.raise (.raised e)

/-- An answer that may be an exception. -/
def checked {α : Type} : Except Raised α → Except Stop α
  | .ok a => .ok a
  | .error e => .error (.raised e)

section requests

variable (env : Environment)

def time : Call ℚ := ask env .time

def perfCounter : Call ℚ := ask env .perfCounter

def uuid4 : Call String := ask env .uuid4

def sleep (seconds : ℚ) : Call Unit := ask env (.sleep seconds)

def insert (node : Rto.Node) (rows : List InsertedRow) : Call Unit :=
  ask env (.insert node rows) >>= fun answer : Except Raised Unit => Effect.lift (checked answer)

def select (node : Rto.Node) (query : Query) : Call (Option (Option String)) :=
  ask env (.select node query) >>= fun answer : Except Raised (Option (Option String)) => Effect.lift (checked answer)

def setLeasePreference (node : Rto.Node) (table region : String) : Call Unit :=
  ask env (.setLeasePreference node table region) >>= fun answer : Except Raised Unit => Effect.lift (checked answer)

def fetchLeaseRows (node : Rto.Node) (table : String) : Call (List LeaseRow) :=
  ask env (.leaseRows node table) >>= fun answer : Except Raised (List LeaseRow) => Effect.lift (checked answer)

def rangeSnapshot (node : Rto.Node) (table : String) : Call Json :=
  ask env (.rangeSnapshot node table) >>= fun answer : Except Raised Json => Effect.lift (checked answer)

def nodeStatus (node : Rto.Node) : Call (List NodeLiveness) :=
  ask env (.nodeStatus node) >>= fun answer : Except Raised (List NodeLiveness) => Effect.lift (checked answer)

def recordProbe (node : Rto.Node) (orgId : String) (probe : Rto.ProbeResult) : Call Unit :=
  ask env (.recordProbe node orgId probe) >>= fun answer : Except Raised Unit => Effect.lift (checked answer)

/-- `seed_baseline` -/
def seedBaseline (node : Rto.Node) : Call SeedContext := do
  let orgId ← uuid4 env
  let agentId ← uuid4 env
  let serviceId ← uuid4 env
  let incidentId ← uuid4 env
  let runbookId ← uuid4 env
  let ids : SeedContext := ⟨orgId, agentId, serviceId, incidentId, runbookId⟩
  let answer : Except Raised Unit ← ask env (.seed node ids)
  Effect.lift (checked answer)
  return ids

end requests

/-! ## Localities -/

/-- The first `name=` with a text after it, up to a comma or a quote. -/
def fieldIn (name : List Char) : List Char → Option String
  | [] => none
  | c :: rest =>
    if name.isPrefixOf (c :: rest) then
      match ((c :: rest).drop name.length).takeWhile fun c => c != ',' && c != '"' with
      | [] => fieldIn name rest
      | value => some (String.ofList value)
    else fieldIn name rest

/-- `_region_of` -/
def regionOf (locality : String) : Option String := fieldIn "region=".toList locality.toList

/-- `_zone_of` -/
def zoneOf (locality : String) : Option String := fieldIn "zone=".toList locality.toList

/-- `resolve_node_from_locality` -/
def resolveNodeFromLocality (locality : String) : Option Node :=
  match regionOf locality, zoneOf locality with
  | some region, some zone => topology.find? fun n => n.region = region ∧ n.zone = zone
  | _, _ => none

/-! ## Leaseholders -/

/-- `LeaseholderVerification` -/
structure LeaseholderVerification where
  table : String
  targetRegion : String
  verified : Bool
  elapsedSeconds : ℚ
  rangesTotal : Nat
  rangesInRegion : Nat
  leaseholderStoreIds : List Int
  sampleLeaseholderLocality : Option String

/-- `LeaseholderVerification.to_dict` -/
def LeaseholderVerification.toDict (v : LeaseholderVerification) : Dict := [
  ("table", .str v.table), ("target_region", .str v.targetRegion), ("verified", .bool v.verified),
  ("elapsed_seconds", .float (.num (roundTo 2 v.elapsedSeconds))), ("ranges_total", .int v.rangesTotal),
  ("ranges_in_region", .int v.rangesInRegion), ("leaseholder_store_ids", .arr (v.leaseholderStoreIds.map .int)),
  ("sample_leaseholder_locality", Json.ofText? v.sampleLeaseholderLocality)]

/-- The lease is in the region. -/
def LeaseRow.In (region : String) (row : LeaseRow) : Prop := regionOf row.locality = some region

instance {region row} : Decidable (LeaseRow.In region row) := inferInstanceAs (Decidable (_ = _))

section leaseholders

variable (env : Environment) (rt : Runtime) (node : Node) (table region : String) (timeoutS pollIntervalS : ℚ)

/-- What is said of the rows that were seen last. -/
def verification (rows : List LeaseRow) (verified : Bool) (elapsedSeconds : ℚ) : LeaseholderVerification where
  table := table
  targetRegion := region
  verified := verified
  elapsedSeconds := elapsedSeconds
  rangesTotal := rows.length
  rangesInRegion := (rows.filter fun row => row.In region).length
  leaseholderStoreIds := (rows.map LeaseRow.leaseHolder).dedup.insertionSort (· ≤ ·)
  sampleLeaseholderLocality := rows.head?.map LeaseRow.locality

/-- The loop of `verify_leaseholders_in_region`. -/
def pollLeases (start : ℚ) : Nat → List LeaseRow → Call LeaseholderVerification
  | 0, _ => Effect.raise .outOfFuel
  | fuel + 1, seen => do
    let now ← time env
    if now - start < timeoutS then
      let rows ← fetchLeaseRows env node.toNode table
      if 0 < rows.length ∧ (rows.filter fun row => row.In region).length = rows.length then
        let now ← time env
        return verification table region rows true (now - start)
      else
        sleep env pollIntervalS
        pollLeases start fuel rows
    else
      let now ← time env
      return verification table region seen false (now - start)

/-- `verify_leaseholders_in_region` -/
def verifyLeaseholdersInRegion (fuel : Nat) : Call LeaseholderVerification := do
  let start ← time env
  pollLeases env node table region timeoutS pollIntervalS start fuel []

/-- `LeaseholderPinError` -/
def leaseholderPinError (unverified : List String) (out : Dict) : Raised where
  cls := .other "LeaseholderPinError"
  message := "leaseholder pin did not converge on " ++ rt.repr (.str region) ++ " for table(s) " ++
    rt.repr (.arr (unverified.map .str)) ++ " within the timeout -- refusing to proceed to a " ++
    "region-kill that would not exercise a real failover. " ++
    "Last observed state: " ++ rt.repr (.obj out)

/-- `pin_and_verify` -/
def pinAndVerify (tables : List String) (fuel : Nat) : Call (List (String × LeaseholderVerification)) := do
  let _ ← forEach (fun table => setLeasePreference env node.toNode table region) tables
  let looked ← forEach (fun table => verifyLeaseholdersInRegion env node table region timeoutS pollIntervalS fuel) tables
  let results := (tables.zip looked).foldl (fun d r => Assoc.set d r.1 r.2) []
  let unverified := (results.filter fun r => !r.2.verified).map Prod.fst
  if unverified = [] then return results
  else raise (leaseholderPinError rt region unverified (results.map fun r => (r.1, .obj r.2.toDict)))

end leaseholders

end Resilience

end Postmortem
