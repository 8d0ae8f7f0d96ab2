import Postmortem.Simulator.Incidents

/-!
# What an action is checked for

`apply_action` first looks up the incident, its policy and what the policy expects (`admission`), and only then
changes the world. `_mutate_action` checks the parameters in each of its branches before it changes anything
(`verdict`): it accepts them, refuses them with a `SimulationError`, or raises another exception on a parameter
that it cannot look up or encode. An action that is accepted can still leave the world as it is (`idle`).
-/

namespace Postmortem.Simulator

/-- What is made of the parameters of an action. -/
inductive Verdict where
  | accepted | refused | raised
deriving DecidableEq

/-- A key of a dictionary: `TypeError` if it cannot be hashed, and refused if it is not there. -/
def keyVerdict (known : String → Bool) : Json → Verdict
  | .arr _ => .raised
  | .obj _ => .raised
  | .str key => if known key then .accepted else .refused
  | _ => .refused

/-- The action leaves the world as it is. -/
def idle (w : WorldState) (actionType targetService : String) (params : Dict) : Prop :=
  match actionType with
  | "failover_dependency" => ∀ key d, params.get "dependency_key" = .str key → Assoc.get w.dependencies key = some d →
      d.toService = params.get "to_service" ∧ d.status = "active"
  | "scale_service" => ∀ units s, asInt? (params.get "capacity_units") = some units →
      Assoc.get w.services targetService = some s → s.capacityUnits = units
  | "no_op_page_human" => True
  | "escalate" => True
  | _ => False

/-- The key that the action sets. -/
def configKey (actionType : String) (params : Dict) : Option Json :=
  match actionType with
  | "set_config" => some (params.get "key")
  | "throttle_traffic" => some (.str "traffic_limit_percent")
  | _ => none

/-- A revision that starts now ended the current one of its service and key. -/
structure Revises (service : String) (key : Json) (now : Timestamp) (l l' : List ConfigRevision) : Prop where
  revised : ∃ revision, revision.service = service ∧ revision.key = key ∧ revision.validFrom = now ∧
    revision.validTo = none ∧
    l' = modifyLast (WorldState.isCurrent service key) (fun r => { r with validTo := some now }) l ++ [revision]

namespace Conductor

variable (c : Conductor)

/-- The checks of `apply_action` before it changes anything. -/
def admission (r : ActionRequest) (w : WorldState) : Except Raised (Incident × Policy × Bool) :=
  match Assoc.get w.incidents r.incidentId with
  | none => .error (simulationError ("unknown incident: " ++ r.incidentId))
  | some incident =>
    if incident.status = .resolved then .error (simulationError ("incident is already resolved: " ++ r.incidentId))
    else if Assoc.get w.services r.targetService = none then
      .error (simulationError ("unknown target service: " ++ r.targetService))
    else do
      let policy ← c.oracleFor incident
      let expected ← isExpected w policy incident r
      return (incident, policy, expected)

/-- What `apply_action` does after it has changed the world. -/
def conclude (r : ActionRequest) (incident : Incident) (policy : Policy) (expected : Bool) : Sim ActionResult := do
  let actionId ← c.account r incident policy expected
  let outcome := if expected then "success" else "no_effect"
  let step := if expected then incident.oracleStep + 1 else incident.oracleStep
  let status := if expected then .mitigating else incident.status
  if step = policy.requiredActions.length then
    resolve incident
    return { actionId, applied := true, resolved := true, outcome, incidentStatus := .resolved }
  else
    return { actionId, applied := true, resolved := false, outcome, incidentStatus := status }

/-- The checks of `_mutate_action`, branch by branch. -/
def verdict (w : WorldState) (actionType : String) (params : Dict) : Verdict :=
  match actionType with
  | "rollback_deploy" =>
    match params.get "target_version" with
    | .str _ => .accepted
    | _ => .refused
  | "set_config" =>
    match params.get "key", Assoc.get params "value" with
    | .str key, some _ => if c.rt.encodes key then .accepted else .raised
    | _, _ => .refused
  | "restart_service" => .accepted
  | "failover_dependency" =>
    match keyVerdict (fun key => (Assoc.get w.dependencies key).isSome) (params.get "dependency_key") with
    | .accepted => keyVerdict (fun name => (Assoc.get w.services name).isSome) (params.get "to_service")
    | v => v
  | "scale_service" =>
    match asInt? (params.get "capacity_units") with
    | some units => if units ≤ 0 then .refused else .accepted
    | none => .refused
  | "throttle_traffic" =>
    match asInt? (params.get "traffic_percent") with
    | some n =>
      if 1 ≤ n ∧ n ≤ 100 then if c.rt.encodes "traffic_limit_percent" then .accepted else .raised
      else .refused
    | none => .refused
  | "no_op_page_human" => .accepted
  | "escalate" => .accepted
  | _ => .refused

end Conductor

variable {c : Conductor} {w w' : WorldState} {r : ActionRequest}

/-- `apply_action` in its three parts. -/
lemma applyAction_eq : c.applyAction r w =
    match c.admission r w with
    | .error e => (.error e, w)
    | .ok (incident, policy, expected) =>
      Effect.next (fun _ => c.conclude r incident policy expected) (c.mutateAction r.actionType r.targetService r.params w) := by
  unfold Conductor.applyAction Conductor.admission
  simp only [Effect.bind_apply, Effect.read, Effect.next, Effect.lift]
  cases Assoc.get w.incidents r.incidentId with
  | none => rfl
  | some incident =>
    dsimp only [orRaise]
    by_cases resolved : incident.status = .resolved
    case pos =>
      simp only [if_pos resolved]
      rfl
    case neg =>
    by_cases unknown : Assoc.get w.services r.targetService = none
    case pos =>
      simp only [if_neg resolved, if_pos unknown]
      rfl
    case neg =>
    simp only [if_neg resolved, if_neg unknown]
    cases c.oracleFor incident with
    | error e => rfl
    | ok policy =>
      show (Effect.lift (Conductor.isExpected w policy incident r) >>= fun expected =>
          c.mutateAction r.actionType r.targetService r.params >>= fun _ => c.conclude r incident policy expected) w =
        match Conductor.isExpected w policy incident r >>= fun expected => .ok (incident, policy, expected) with
        | .error e => (.error e, w)
        | .ok (incident, policy, expected) => Effect.next (fun _ => c.conclude r incident policy expected)
          (c.mutateAction r.actionType r.targetService r.params w)
      cases Conductor.isExpected w policy incident r with
      | error e => rfl
      | ok expected => rfl

/-- What the checks establish. -/
structure Admitted (c : Conductor) (r : ActionRequest) (incident : Incident) (policy : Policy) (expected : Bool)
    (w : WorldState) : Prop where
  found : Assoc.get w.incidents r.incidentId = some incident
  unresolved : incident.status ≠ .resolved
  known : ∃ service, Assoc.get w.services r.targetService = some service
  oracle : c.oracleFor incident = .ok policy
  expected : Conductor.isExpected w policy incident r = .ok expected

lemma admission_ok {incident : Incident} {policy : Policy} {expected : Bool} :
    c.admission r w = .ok (incident, policy, expected) ↔ Admitted c r incident policy expected w := by
  unfold Conductor.admission
  constructor
  case mp =>
    intro h
    split at h
    case h_1 => cases h
    case h_2 found =>
    split at h
    case isTrue => cases h
    case isFalse unresolved =>
    split at h
    case isTrue => cases h
    case isFalse known =>
    obtain ⟨policy, oracle, h⟩ := bind_ok h
    obtain ⟨expected, matched, h⟩ := bind_ok h
    cases h
    exact ⟨found, unresolved, Option.ne_none_iff_exists'.mp known, oracle, matched⟩
  case mpr =>
    rintro ⟨found, unresolved, ⟨service, known⟩, oracle, matched⟩
    rw [found]
    dsimp only
    rw [if_neg unresolved, if_neg (by rw [known]; exact Option.some_ne_none _), oracle]
    show (Conductor.isExpected w policy incident r >>= fun expected => .ok (incident, policy, expected)) = _
    rw [matched]
    rfl

/-! ## The parameters -/

/-- Every text that a revision has for its key is encoded. -/
def Encodable (c : Conductor) (w : WorldState) : Prop :=
  ∀ revision ∈ w.configs, ∀ s, revision.key = .str s → c.rt.encodes s = true

/-- How the change of the world ends, by the verdict on its parameters. -/
inductive Concludes (w : WorldState) (P : WorldState → Prop) : Verdict → Except Raised Unit × WorldState → Prop
  | accepted {w' : WorldState} : P w' → Concludes w P .accepted (.ok (), w')
  | refused {message : String} : Concludes w P .refused (.error (simulationError message), w)
  | raised {e : Raised} : e.cls ≠ .other "SimulationError" → Concludes w P .raised (.error e, w)

/-- What an accepted change has done to the clock, the orders and the configuration. -/
structure Carried (actionType targetService : String) (params : Dict) (w w' : WorldState) : Prop where
  now : w'.now = w.now
  orders : w'.orders = w.orders
  configs : ∀ key, configKey actionType params = some key → Revises targetService key w.now w.configs w'.configs
  others : configKey actionType params = none → w'.configs = w.configs
  same : w' = w ↔ idle w actionType targetService params

lemma modifyFirst_length {α : Type} {p : α → Bool} {f : α → α} {l : List α} :
    (modifyFirst p f l).length = l.length := by
  induction l with
  | nil => rfl
  | cons a l ih =>
    unfold modifyFirst
    split
    case isTrue => rfl
    case isFalse => rw [List.length_cons, ih, List.length_cons]

lemma modifyLast_length {α : Type} {p : α → Bool} {f : α → α} {l : List α} :
    (modifyLast p f l).length = l.length := by
  unfold modifyLast
  rw [List.length_reverse, modifyFirst_length, List.length_reverse]

lemma modifyFirst_of_none {α : Type} {p : α → Bool} {f : α → α} {l : List α} (h : ∀ a ∈ l, p a = false) :
    modifyFirst p f l = l := by
  induction l with
  | nil => rfl
  | cons a l ih =>
    unfold modifyFirst
    rw [h a List.mem_cons_self, ih fun b hb => h b (List.mem_cons_of_mem _ hb)]
    rfl

lemma modifyLast_of_none {α : Type} {p : α → Bool} {f : α → α} {l : List α} (h : ∀ a ∈ l, p a = false) :
    modifyLast p f l = l := by
  unfold modifyLast
  rw [modifyFirst_of_none fun a ha => h a (List.mem_reverse.mp ha), List.reverse_reverse]

lemma pyEq_text {v : Json} {s : String} : v.pyEq (.str s) = true ↔ v = .str s := by
  rw [Json.pyEq_iff]
  cases v <;> simp [Json.norm]

lemma setConfig_revises {service source : String} {key value : Json}
    (encoded : ∀ s, key = .str s → c.rt.encodes s = true) :
    ∃ configs, c.setConfig service key value source w = (.ok (), { w with configs }) ∧
      Revises service key w.now w.configs configs := by
  have identified : ∀ n, ∃ configId, c.configId service key n = .ok configId := by
    intro n
    unfold Conductor.configId
    split
    case h_1 s =>
      rw [if_pos (encoded s rfl)]
      exact ⟨_, rfl⟩
    case h_2 => exact ⟨_, rfl⟩
  obtain ⟨configId, e⟩ := identified
    (modifyLast (WorldState.isCurrent service key) (fun r => { r with validTo := some w.now }) w.configs).length
  simp only [Conductor.setConfig, Effect.bind_apply, Effect.update, Effect.next, Effect.read, Effect.lift, e]
  exact ⟨_, rfl, _, rfl, rfl, rfl, rfl, rfl⟩

/-- A text that is not encoded is the key of no revision, so that there was none to end. -/
lemma setConfig_unencoded {service source s : String} {value : Json} (encodable : Encodable c w)
    (unencoded : c.rt.encodes s = false) :
    ∃ e, c.setConfig service (.str s) value source w = (.error e, w) ∧ e.cls ≠ .other "SimulationError" := by
  have none_current : ∀ revision ∈ w.configs, WorldState.isCurrent service (.str s) revision = false := by
    intro revision mem
    unfold WorldState.isCurrent
    cases same : revision.key.pyEq (.str s) with
    | false => simp
    | true =>
      have encoded := encodable revision mem s (pyEq_text.mp same)
      rw [unencoded] at encoded
      cases encoded
  have raises : ∀ n, c.configId service (.str s) n =
      .error ⟨.other "UnicodeEncodeError", "'utf-8' codec can't encode: surrogates not allowed", none, none⟩ := by
    intro n
    simp [Conductor.configId, unencoded]
  simp only [Conductor.setConfig, Effect.bind_apply, Effect.update, Effect.next, Effect.read, Effect.lift,
    modifyLast_of_none none_current, raises]
  exact ⟨_, rfl, by decide⟩

/-- The key that is looked up, or the exception. -/
lemma knownKey_verdict {known : String → Bool} {message : String} {v : Json} :
    match keyVerdict known v with
    | .accepted => ∃ key, v = .str key ∧ known key = true ∧ c.knownKey message known v = .ok key
    | .refused => c.knownKey message known v = .error (simulationError message)
    | .raised => ∃ e, c.knownKey message known v = .error e ∧ e.cls ≠ .other "SimulationError" := by
  unfold Conductor.knownKey
  cases v with
  | arr _ => exact ⟨_, rfl, nofun⟩
  | obj _ => exact ⟨_, rfl, nofun⟩
  | str key =>
    unfold keyVerdict asKey
    dsimp only
    cases e : known key with
    | true => exact ⟨key, rfl, e, rfl⟩
    | false => rfl
  | null => rfl
  | bool _ => rfl
  | int _ => rfl
  | float _ => rfl

variable {actionType targetService : String} {params : Dict}

/-- A change that sets no key. -/
lemma Carried.unset (now : w'.now = w.now) (orders : w'.orders = w.orders)
    (unset : configKey actionType params = none) (configs : w'.configs = w.configs)
    (same : w' = w ↔ idle w actionType targetService params) : Carried actionType targetService params w w' := by
  refine ⟨now, orders, ?_, fun _ => configs, same⟩
  intro key e
  rw [unset] at e
  cases e

/-- A change that sets a key is never idle. -/
lemma Carried.set {key : Json} {configs : List ConfigRevision} (set : configKey actionType params = some key)
    (restless : ¬ idle w actionType targetService params) (revises : Revises targetService key w.now w.configs configs) :
    Carried actionType targetService params w { w with configs } := by
  refine ⟨rfl, rfl, ?_, ?_, ?_⟩
  · intro key' e
    cases set.symm.trans e
    exact revises
  · intro e
    cases set.symm.trans e
  · refine iff_of_false ?_ restless
    intro same
    obtain ⟨revision, _, _, _, _, e⟩ := revises
    have longer : configs = w.configs := congrArg WorldState.configs same
    rw [longer] at e
    have lengths := congrArg List.length e
    rw [List.length_append, modifyLast_length, List.length_singleton] at lengths
    omega

section verdict

variable {service : Service}

/-- A change of the configuration that is accepted, or raises on its key. -/
lemma setConfig_concludes {key : String} {value : Json} (encodable : Encodable c w)
    (set : configKey actionType params = some (.str key)) (restless : ¬ idle w actionType targetService params) :
    Concludes w (Carried actionType targetService params w) (if c.rt.encodes key then .accepted else .raised)
      (c.setConfig targetService (.str key) value "remediation" w) := by
  cases encoded : c.rt.encodes key with
  | true =>
    obtain ⟨configs, returned, revises⟩ := @setConfig_revises c w targetService "remediation" (.str key) value
      fun s e => by cases e; exact encoded
    rw [returned]
    exact Concludes.accepted (Carried.set set restless revises)
  | false =>
    obtain ⟨e, raised, other⟩ := @setConfig_unencoded c w targetService "remediation" key value encodable encoded
    rw [raised]
    exact Concludes.raised other

lemma WorldState.onService_eq_self {f : Service → Service} (known : Assoc.get w.services targetService = some service) :
    w.onService targetService f = w ↔ f service = service := by
  rw [← Assoc.modify_eq_self known]
  constructor
  · exact congrArg WorldState.services
  · intro same
    show { w with services := Assoc.modify f w.services targetService } = w
    rw [same]

lemma WorldState.onDependency_eq_self {f : Dependency → Dependency} {key : String} {d : Dependency}
    (known : Assoc.get w.dependencies key = some d) : w.onDependency key f = w ↔ f d = d := by
  rw [← Assoc.modify_eq_self known]
  constructor
  · exact congrArg WorldState.dependencies
  · intro same
    show { w with dependencies := Assoc.modify f w.dependencies key } = w
    rw [same]

/-- Both keys are looked up before the dependency is changed. -/
lemma failover_concludes :
    Concludes w (Carried "failover_dependency" targetService params w) (c.verdict w "failover_dependency" params)
      ((do
        let w ← Effect.read
        let key ← Effect.lift (c.knownKey "failover_dependency requires a known dependency_key"
          (fun key => (Assoc.get w.dependencies key).isSome) (params.get "dependency_key"))
        let destination ← Effect.lift (c.knownKey "failover_dependency requires a known to_service"
          (fun name => (Assoc.get w.services name).isSome) (params.get "to_service"))
        Effect.update fun w => w.onDependency key fun d =>
          { d with toService := .str destination, status := "active" } : Sim Unit) w) := by
  show Concludes w _
    (match keyVerdict (fun key => (Assoc.get w.dependencies key).isSome) (params.get "dependency_key") with
      | .accepted => keyVerdict (fun name => (Assoc.get w.services name).isSome) (params.get "to_service")
      | v => v) _
  simp only [Effect.bind_apply, Effect.read, Effect.next, Effect.lift, Effect.update]
  have source := @knownKey_verdict c (fun key => (Assoc.get w.dependencies key).isSome)
    "failover_dependency requires a known dependency_key" (params.get "dependency_key")
  have destination := @knownKey_verdict c (fun name => (Assoc.get w.services name).isSome)
    "failover_dependency requires a known to_service" (params.get "to_service")
  revert source destination
  generalize keyVerdict (fun key => (Assoc.get w.dependencies key).isSome) (params.get "dependency_key") = v
  generalize keyVerdict (fun name => (Assoc.get w.services name).isSome) (params.get "to_service") = v'
  cases v with
  | refused =>
    intro e _
    rw [e]
    exact Concludes.refused
  | raised =>
    rintro ⟨e, raised, other⟩ _
    rw [raised]
    exact Concludes.raised other
  | accepted =>
    rintro ⟨key, text, known, e⟩
    rw [e]
    cases v' with
    | refused =>
      intro e'
      rw [e']
      exact Concludes.refused
    | raised =>
      rintro ⟨e', raised, other⟩
      rw [raised]
      exact Concludes.raised other
    | accepted =>
      rintro ⟨name, text', _, e'⟩
      rw [e']
      obtain ⟨d, found⟩ := Option.isSome_iff_exists.mp known
      apply Concludes.accepted
      refine Carried.unset rfl rfl rfl rfl ?_
      rw [WorldState.onDependency_eq_self found, Dependency.mk.injEq]
      constructor
      · rintro ⟨_, _, _, there, _, _, active⟩ key' d' same found'
        cases text.symm.trans same
        cases found.symm.trans found'
        exact ⟨there.symm.trans text'.symm, active.symm⟩
      · intro idle
        obtain ⟨there, active⟩ := idle key d text found
        exact ⟨rfl, rfl, rfl, (there.trans text').symm, rfl, rfl, active.symm⟩

/-- An action of another type is refused. -/
lemma verdict_other (rollback : actionType ≠ "rollback_deploy") (config : actionType ≠ "set_config")
    (restart : actionType ≠ "restart_service") (failover : actionType ≠ "failover_dependency")
    (scale : actionType ≠ "scale_service") (throttle : actionType ≠ "throttle_traffic")
    (page : actionType ≠ "no_op_page_human") (escalate : actionType ≠ "escalate") :
    c.verdict w actionType params = .refused := by
  unfold Conductor.verdict
  split
  case h_9 => rfl
  all_goals contradiction

/-- `_mutate_action` ends as its checks say, and changes nothing where they do not accept. -/
lemma mutateAction_verdict (known : Assoc.get w.services targetService = some service) (encodable : Encodable c w) :
    Concludes w (Carried actionType targetService params w) (c.verdict w actionType params)
      (c.mutateAction actionType targetService params w) := by
  have found : getService targetService w = (.ok service, w) := by
    simp [getService, Effect.bind_apply, Effect.read, Effect.next, Effect.lift, known, orRaise]
  unfold Conductor.mutateAction
  rw [Effect.bind_apply, found]
  dsimp only [Effect.next]
  split
  case h_1 =>
    -- a rollback adds a deployment
    show Concludes w _ (match params.get "target_version" with
      | .str _ => .accepted
      | _ => .refused) ((match params.get "target_version" with
      | .str targetVersion => c.rollbackDeploy service targetService targetVersion
      | _ => Effect.raise (simulationError "rollback_deploy requires target_version")) w)
    cases params.get "target_version" with
    | str version =>
      apply Concludes.accepted
      refine Carried.unset rfl rfl rfl rfl (iff_of_false ?_ id)
      intro same
      have lengths := congrArg (fun w : WorldState => w.deployments.length) same
      simp [WorldState.onService, modifyLast_length] at lengths
    | _ => exact Concludes.refused
  case h_2 =>
    show Concludes w _ (match params.get "key", Assoc.get params "value" with
      | .str key, some _ => if c.rt.encodes key then .accepted else .raised
      | _, _ => .refused) ((match params.get "key", Assoc.get params "value" with
      | .str key, some value => c.setConfig targetService (.str key) value "remediation"
      | _, _ => Effect.raise (simulationError "set_config requires key and value")) w)
    cases text : params.get "key" with
    | str key =>
      cases Assoc.get params "value" with
      | some value => exact setConfig_concludes encodable (congrArg some text) id
      | none => exact Concludes.refused
    | _ => exact Concludes.refused
  case h_3 =>
    apply Concludes.accepted
    refine Carried.unset rfl rfl rfl rfl (iff_of_false ?_ id)
    intro same
    have restarted := (Assoc.modify_eq_self known).mp (congrArg WorldState.services same)
    have counts := congrArg Service.restartCount restarted
    dsimp only at counts
    omega
  case h_4 =>
    exact failover_concludes
  case h_5 =>
    show Concludes w _ (match asInt? (params.get "capacity_units") with
      | some units => if units ≤ 0 then .refused else .accepted
      | none => .refused) ((match asInt? (params.get "capacity_units") with
      | some units =>
        if units ≤ 0 then Effect.raise (simulationError "scale_service requires positive capacity_units")
        else Effect.update fun w : WorldState => w.onService targetService fun s => { s with capacityUnits := units }
      | none => Effect.raise (simulationError "scale_service requires positive capacity_units")) w)
    cases given : asInt? (params.get "capacity_units") with
    | none => exact Concludes.refused
    | some units =>
      dsimp only
      split
      case isTrue => exact Concludes.refused
      case isFalse =>
        apply Concludes.accepted
        refine Carried.unset rfl rfl rfl rfl ?_
        rw [WorldState.onService_eq_self known, Service.mk.injEq]
        constructor
        · rintro ⟨_, _, _, _, _, _, _, same, _⟩ _ s given' known'
          cases given.symm.trans given'
          cases known.symm.trans known'
          exact same.symm
        · intro idle
          exact ⟨rfl, rfl, rfl, rfl, rfl, rfl, rfl, (idle units service given known).symm, rfl⟩
  case h_6 =>
    show Concludes w _ (match asInt? (params.get "traffic_percent") with
      | some n =>
        if 1 ≤ n ∧ n ≤ 100 then if c.rt.encodes "traffic_limit_percent" then .accepted else .raised
        else .refused
      | none => .refused) ((match asInt? (params.get "traffic_percent") with
      | some n =>
        if 1 ≤ n ∧ n ≤ 100 then
          c.setConfig targetService (.str "traffic_limit_percent") (params.get "traffic_percent") "remediation"
        else Effect.raise (simulationError "throttle_traffic requires traffic_percent between 1 and 100")
      | none => Effect.raise (simulationError "throttle_traffic requires traffic_percent between 1 and 100")) w)
    cases asInt? (params.get "traffic_percent") with
    | none => exact Concludes.refused
    | some n =>
      dsimp only
      split
      case isTrue => exact setConfig_concludes encodable rfl id
      case isFalse => exact Concludes.refused
  case h_7 => exact Concludes.accepted (Carried.unset rfl rfl rfl rfl (iff_of_true rfl trivial))
  case h_8 => exact Concludes.accepted (Carried.unset rfl rfl rfl rfl (iff_of_true rfl trivial))
  case h_9 rollback config restart failover scale throttle page escalate =>
    rw [verdict_other rollback config restart failover scale throttle page escalate]
    exact Concludes.refused

end verdict

end Postmortem.Simulator
