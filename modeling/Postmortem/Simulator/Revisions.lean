import Postmortem.Lib.Run
import Postmortem.Lib.Timeline
import Postmortem.Simulator.Admission

/-!
# The windows of the configuration

`_set_config` ends the current revision of a key now and starts the next one now. The windows of a key stay
contiguous, each ending strictly after it started, as long as the clock has moved since its current revision
started; two revisions at one instant leave a window that is empty, which the `config_valid_window` constraint of
the table refuses. `setting` says what a call sets and when, and `config_windows` is the resulting condition over
a run.
-/

namespace Postmortem.Simulator

variable {c : Conductor} {w w' : WorldState} {service : String} {key : Json}

/-! ## Windows -/

/-- A revision of the key of the service. -/
def ofKey (service : String) (key : Json) (r : ConfigRevision) : Bool := r.service = service && r.key.pyEq key

/-- The windows of every key of every service are contiguous. -/
def Windows (l : List ConfigRevision) : Prop :=
  ∀ service key, Timeline.Contiguous ConfigRevision.validFrom ConfigRevision.validTo (l.filter (ofKey service key))

section modify

variable {α : Type} {p q : α → Bool} {f : α → α} {l : List α}

lemma filter_modifyFirst (same : ∀ a, q (f a) = q a) (part : ∀ a, p a = true → q a = true) :
    (modifyFirst p f l).filter q = modifyFirst p f (l.filter q) := by
  induction l with
  | nil => rfl
  | cons a l ih =>
    cases hp : p a with
    | true =>
      have hq := part a hp
      rw [modifyFirst, if_pos hp, List.filter_cons_of_pos ((same a).trans hq), List.filter_cons_of_pos hq, modifyFirst,
        if_pos hp]
    | false =>
      rw [modifyFirst, if_neg (ne_true_of_eq_false hp), List.filter_cons, List.filter_cons, ih]
      split
      case isTrue => rw [modifyFirst, if_neg (ne_true_of_eq_false hp)]
      case isFalse => rfl

lemma filter_modifyLast (same : ∀ a, q (f a) = q a) (part : ∀ a, p a = true → q a = true) :
    (modifyLast p f l).filter q = modifyLast p f (l.filter q) := by
  unfold modifyLast
  rw [List.filter_reverse, filter_modifyFirst same part, List.filter_reverse]

lemma filter_modifyFirst_apart (same : ∀ a, q (f a) = q a) (apart : ∀ a, p a = true → q a = false) :
    (modifyFirst p f l).filter q = l.filter q := by
  induction l with
  | nil => rfl
  | cons a l ih =>
    unfold modifyFirst
    split
    case isTrue hp =>
      have hq := ne_true_of_eq_false (apart a hp)
      rw [List.filter_cons_of_neg (same a ▸ hq), List.filter_cons_of_neg hq]
    case isFalse => rw [List.filter_cons, List.filter_cons, ih]

lemma filter_modifyLast_apart (same : ∀ a, q (f a) = q a) (apart : ∀ a, p a = true → q a = false) :
    (modifyLast p f l).filter q = l.filter q := by
  unfold modifyLast
  rw [List.filter_reverse, filter_modifyFirst_apart same apart, List.filter_reverse, List.reverse_reverse]

lemma modifyLast_concat {a : α} (h : p a = true) : modifyLast p f (l ++ [a]) = l ++ [f a] := by
  simp [modifyLast, modifyFirst, h]

end modify

lemma isCurrent_eq {r : ConfigRevision} :
    WorldState.isCurrent service key r = (ofKey service key r && r.validTo.isNone) := rfl

/-- The current revision is the last one of its key. -/
lemma Windows.current (h : Windows w.configs) :
    w.currentConfig service key = (w.configs.filter (ofKey service key)).getLast? := by
  have contiguous := h service key
  have found : w.currentConfig service key =
      (w.configs.filter (ofKey service key)).reverse.find? fun r => r.validTo.isNone := by
    unfold WorldState.currentConfig
    rw [← List.filter_reverse, List.find?_filter]
    congr 1
    funext r
    rw [isCurrent_eq, Bool.decide_and, Bool.decide_eq_true, Bool.decide_eq_true]
  rw [found]
  cases last : (w.configs.filter (ofKey service key)).getLast? with
  | none =>
    rw [List.getLast?_eq_none_iff.mp last]
    rfl
  | some r =>
    obtain ⟨init, e⟩ := List.getLast?_eq_some_iff.mp last
    rw [e] at contiguous ⊢
    simp [contiguous.last_open]

/-- Keys that are equal have the same revisions, and other keys have none in common. -/
lemma ofKey_cases {service' : String} {key' : Json} :
    ofKey service' key' = ofKey service key ∨
      ∀ r, ofKey service key r = true → ofKey service' key' r = false := by
  by_cases same : service = service' ∧ key.norm = key'.norm
  case pos =>
    obtain ⟨rfl, same⟩ := same
    left
    funext r
    unfold ofKey Json.pyEq
    rw [same]
  case neg =>
    right
    intro r h
    simp only [ofKey, Bool.and_eq_true, decide_eq_true_eq, Json.pyEq_iff] at h
    obtain ⟨rfl, e⟩ := h
    rw [ofKey, Bool.and_eq_false_iff]
    by_cases there : r.service = service'
    case neg => exact .inl (decide_eq_false there)
    case pos =>
      right
      rw [← Bool.not_eq_true, Json.pyEq_iff, e]
      exact fun e' => same ⟨there, e'⟩

/-- The revision that is ended. -/
def ConfigRevision.ended (now : Timestamp) (r : ConfigRevision) : ConfigRevision := { r with validTo := some now }

lemma ofKey_ended {now : Timestamp} (r : ConfigRevision) : ofKey service key (r.ended now) = ofKey service key r := rfl

/-- A revision keeps the windows contiguous exactly if the current one of its key, if any, started before. -/
lemma Revises.windows {now : Timestamp} {l' : List ConfigRevision} (revises : Revises service key now w.configs l')
    (h : Windows w.configs) : Windows l' ↔ ∀ r, w.currentConfig service key = some r → r.validFrom < now := by
  obtain ⟨revision, rfl, rfl, rfl, opened, rfl⟩ := revises
  show Windows (modifyLast _ (ConfigRevision.ended revision.validFrom) w.configs ++ [revision]) ↔ _
  rw [h.current]
  have own : ofKey revision.service revision.key revision = true := by simp [ofKey]
  -- the windows of the key that is set
  have here : Timeline.Contiguous ConfigRevision.validFrom ConfigRevision.validTo
      ((modifyLast (WorldState.isCurrent revision.service revision.key)
        (ConfigRevision.ended revision.validFrom) w.configs ++ [revision]).filter
          (ofKey revision.service revision.key)) ↔
      ∀ r, (w.configs.filter (ofKey revision.service revision.key)).getLast? = some r →
        r.validFrom < revision.validFrom := by
    have contiguous := h revision.service revision.key
    have part : ∀ r, WorldState.isCurrent revision.service revision.key r = true →
        ofKey revision.service revision.key r = true := by
      intro r
      rw [isCurrent_eq, Bool.and_eq_true]
      exact And.left
    have members : ∀ r ∈ w.configs.filter (ofKey revision.service revision.key),
        ofKey revision.service revision.key r = true := fun r mem => (List.mem_filter.mp mem).2
    rw [List.filter_append, List.filter_cons_of_pos own, List.filter_nil, filter_modifyLast ofKey_ended part]
    revert contiguous members
    generalize w.configs.filter (ofKey revision.service revision.key) = history
    intro contiguous members
    cases last : history.getLast? with
    | none =>
      cases List.getLast?_eq_none_iff.mp last
      exact iff_of_true (Timeline.contiguous_singleton.mpr opened) nofun
    | some r =>
      obtain ⟨init, rfl⟩ := List.getLast?_eq_some_iff.mp last
      have current : WorldState.isCurrent revision.service revision.key r = true := by
        rw [isCurrent_eq, members r (by simp), contiguous.last_open]
        rfl
      rw [modifyLast_concat current, List.append_assoc]
      have replaced : Timeline.Contiguous ConfigRevision.validFrom ConfigRevision.validTo
          (init ++ [r.ended revision.validFrom, revision]) ↔ r.validFrom < revision.validFrom :=
        contiguous.replace rfl rfl opened
      refine replaced.trans ?_
      simp
  constructor
  case mp => exact fun windows => here.mp (windows _ _)
  case mpr =>
    intro later service' key'
    rcases @ofKey_cases revision.service revision.key service' key' with same | apart
    · rw [same]
      exact here.mpr later
    · have untouched : ∀ r, WorldState.isCurrent revision.service revision.key r = true →
          ofKey service' key' r = false := by
        intro r
        rw [isCurrent_eq, Bool.and_eq_true]
        exact fun both => apart r both.1
      rw [List.filter_append, List.filter_cons_of_neg (ne_true_of_eq_false (apart revision own)), List.filter_nil,
        List.append_nil, filter_modifyLast_apart ofKey_ended untouched]
      exact h service' key'

/-! ## What a call sets -/

/-- A call of `_set_config`: the service and the key, and the clock. -/
structure Setting where
  now : Timestamp
  service : String
  key : Json
deriving DecidableEq

namespace Conductor

variable (c : Conductor)

/-- The key is encoded, if it is a text. -/
def encodesKey : Json → Bool
  | .str s => c.rt.encodes s
  | _ => true

/-- What a fault sets before it can raise. -/
def faultSetting (scenario : Scenario) (w : WorldState) : Option Setting :=
  match scenario.familyId with
  | "F7_CONFIG_REGRESSION" =>
    match Assoc.get scenario.fault "key", Assoc.get scenario.fault "bad_value" with
    | some key, some _ => some ⟨w.now, scenario.targetService, key⟩
    | _, _ => none
  | "F11_POOL_DRIVER_MIGRATION" =>
    match Assoc.get w.services scenario.targetService with
    | some s => if migrated scenario then some ⟨w.now, s.name, .str "pool_driver"⟩ else none
    | none => none
  | "F12_CACHE_TOPOLOGY_MIGRATION" =>
    match (c.faultDependency scenario w).1, Assoc.get w.services scenario.targetService with
    | .ok _, some s => if migrated scenario then some ⟨w.now, s.name, .str "cache_failover_target"⟩ else none
    | _, _ => none
  | _ => none

/-- What a call sets. -/
def setting (s : Simulation) : Call → Option Setting
  | .injectNext =>
    match c.scenarios[s.nextScenario]? with
    | some scenario =>
      if Schedulable c scenario then
        (c.faultSetting scenario { s.world with now := injectionTime c scenario s.world }).filter
          fun set => c.encodesKey set.key
      else none
    | none => none
  | .applyAction r =>
    match c.admission r s.world, c.verdict s.world r.actionType r.params with
    | .ok _, .accepted => (configKey r.actionType r.params).map fun key => ⟨s.world.now, r.targetService, key⟩
    | _, _ => none
  | .advanceTime _ => none

end Conductor

/-- The configuration changes as the call sets it, and not otherwise. -/
def Sets (l l' : List ConfigRevision) : Option Setting → Prop
  | some set => Revises set.service set.key set.now l l'
  | none => l' = l

section calls

variable {α β : Type} {l : List ConfigRevision} {scenario : Scenario}

/-- The call leaves the configuration as it is. -/
abbrev Leaves (l : List ConfigRevision) (m : Sim α) : Prop :=
  Effect.Meets (fun w => w.configs = l) m (fun _ w => w.configs = l) fun _ w => w.configs = l

lemma Leaves.bind {m : Sim α} {f : α → Sim β} (first : Leaves l m) (rest : ∀ a, Leaves l (f a)) : Leaves l (m >>= f) :=
  Effect.Meets.bind first rest

lemma Leaves.lift {x : Except Raised α} : Leaves l (Effect.lift x) := Effect.Meets.lift_keeps fun _ _ h => h

lemma Leaves.read : Leaves l (Effect.read : Sim WorldState) := Effect.Meets.read fun _ h => h

lemma Leaves.pure {a : α} : Leaves l (Pure.pure a : Sim α) := Effect.Meets.pure fun _ h => h

lemma Leaves.raise {e : Raised} : Leaves l (Effect.raise e : Sim α) := Effect.Meets.raise fun _ h => h

lemma Leaves.update {f : WorldState → WorldState} (h : ∀ w, (f w).configs = w.configs) : Leaves l (Effect.update f) :=
  Effect.Meets.update fun w e => (h w).trans e

lemma Leaves.update_bind {f : WorldState → WorldState} {rest : Unit → Sim α} (h : ∀ w, (f w).configs = w.configs)
    (leaves : Leaves l (rest ())) : Leaves l (Effect.update f >>= rest) :=
  Leaves.bind (Leaves.update h) fun _ => leaves

lemma getService_leaves {name : String} : Leaves l (getService name) := by
  apply Leaves.bind Leaves.read
  intro w
  exact Leaves.lift

lemma setHealth_leaves {name : String} {health : Health} : Leaves l (setHealth name health) := by
  apply Leaves.bind getService_leaves
  intro _
  exact Leaves.update fun _ => rfl

lemma injectDegradation_leaves {sloKind key signal errorCode : String} :
    Leaves l (c.injectDegradation scenario sloKind key signal errorCode) := by
  apply Leaves.bind setHealth_leaves
  intro _
  apply Leaves.bind Leaves.lift
  intro _
  exact Leaves.pure

lemma faultDependency_leaves : Leaves l (c.faultDependency scenario) := by
  apply Leaves.bind Leaves.lift
  intro _
  apply Leaves.bind Leaves.lift
  intro _
  apply Leaves.bind Leaves.read
  intro _
  apply Leaves.bind Leaves.lift
  intro _
  exact Leaves.pure

lemma failDependency_leaves {key : String} : Leaves l (c.failDependency scenario key) := by
  apply Leaves.bind Leaves.lift
  intro _
  refine Leaves.update_bind (fun _ => rfl) ?_
  apply Leaves.bind Leaves.lift
  intro _
  apply Leaves.bind setHealth_leaves
  intro _
  exact Leaves.pure

/-- The last steps of an outage. -/
lemma outage_leaves {key : String} {breach : Json → Flt → Conductor.Breach} :
    Leaves l
      (do
        let failed ← c.failDependency scenario key
        setHealth scenario.targetService .degraded
        let x ← Effect.lift (c.faultFloat scenario "availability")
        return breach failed x) := by
  apply Leaves.bind failDependency_leaves
  intro _
  apply Leaves.bind setHealth_leaves
  intro _
  apply Leaves.bind Leaves.lift
  intro _
  exact Leaves.pure

lemma injectOutage_leaves {signal : Json → String} {errorCode : String} :
    Leaves l (c.injectOutage scenario signal errorCode) := by
  apply Leaves.bind faultDependency_leaves
  intro _
  exact outage_leaves

lemma injectBadDeploy_leaves : Leaves l (c.injectBadDeploy scenario) := by
  apply Leaves.bind getService_leaves
  intro _
  refine Leaves.update_bind (fun _ => rfl) ?_
  apply Leaves.bind Leaves.lift
  intro _
  refine Leaves.update_bind (fun _ => rfl) ?_
  refine Leaves.update_bind (fun _ => rfl) ?_
  apply Leaves.bind Leaves.lift
  intro _
  exact Leaves.pure

lemma injectPoolExhaustion_leaves : Leaves l (c.injectPoolExhaustion scenario) := by
  apply Leaves.bind getService_leaves
  intro _
  apply Leaves.bind setHealth_leaves
  intro _
  split
  case isTrue =>
    apply Leaves.bind Leaves.lift
    intro _
    exact Leaves.pure
  case isFalse =>
    apply Leaves.bind Leaves.read
    intro _
    split
    case h_1 => exact Leaves.raise
    case h_2 =>
      apply Leaves.bind Leaves.lift
      intro _
      exact Leaves.pure

lemma getService_known {name : String} {s : Service} (known : Assoc.get w.services name = some s) :
    getService name w = (.ok s, w) := by
  simp [getService, Effect.bind_apply, Effect.read, Effect.next, Effect.lift, known, orRaise]

lemma getService_unknown {name : String} (unknown : Assoc.get w.services name = none) :
    getService name w = (.error (keyError name), w) := by
  simp [getService, Effect.bind_apply, Effect.read, Effect.next, Effect.lift, unknown, orRaise]

lemma setHealth_known {name : String} {health : Health} {s : Service} (known : Assoc.get w.services name = some s) :
    setHealth name health w = (.ok (), w.onService name fun s => { s with health }) := by
  unfold setHealth
  rw [Effect.bind_apply, getService_known known]
  rfl

/-- The call ends with what it sets, whether it returns or raises. -/
abbrev SetsFrom (w₀ : WorldState) (set : Option Setting) (m : Sim α) : Prop :=
  Effect.Meets (· = w₀) m (fun _ w => Sets w₀.configs w.configs set) fun _ w => Sets w₀.configs w.configs set

lemma Leaves.setsFrom {m : Sim α} (leaves : Leaves w.configs m) : SetsFrom w none m := by
  apply leaves.mono
  · rintro _ rfl
    rfl
  · exact fun _ _ e => e
  · exact fun _ _ e => e

/-- A key is set, and nothing that follows sets another. -/
lemma setConfig_sets {rest : Unit → Sim α} {value : Json} {source : String} (encodable : Encodable c w)
    (leaves : ∀ l, Leaves l (rest ())) :
    SetsFrom w ((some ⟨w.now, service, key⟩ : Option Setting).filter fun set => c.encodesKey set.key)
      (c.setConfig service key value source >>= rest) := by
  rw [Option.filter_some]
  cases encodes : c.encodesKey key with
  | true =>
    have encoded : ∀ s, key = .str s → c.rt.encodes s = true := by
      rintro s rfl
      exact encodes
    obtain ⟨configs, returned, revises⟩ := @setConfig_revises c w service source key value encoded
    apply Effect.Meets.bind_returned returned
    apply (leaves configs).mono
    · rintro _ rfl
      rfl
    · rintro _ _ rfl
      exact revises
    · rintro _ _ rfl
      exact revises
  | false =>
    cases key with
    | str s =>
      obtain ⟨e, raised, _⟩ := @setConfig_unencoded c w service source s value encodable encodes
      exact Effect.Meets.bind_raised raised rfl
    | _ => cases encodes

lemma injectConfigRegression_sets (encodable : Encodable c w) :
    SetsFrom w ((match Assoc.get scenario.fault "key", Assoc.get scenario.fault "bad_value" with
      | some key, some _ => some ⟨w.now, scenario.targetService, key⟩
      | _, _ => none : Option Setting).filter fun set => c.encodesKey set.key)
      (c.injectConfigRegression scenario) := by
  unfold Conductor.injectConfigRegression Scenario.faultItem
  cases Assoc.get scenario.fault "key" with
  | none => exact Effect.Meets.bind_raised rfl rfl
  | some key =>
    refine Effect.Meets.bind_returned rfl ?_
    cases Assoc.get scenario.fault "bad_value" with
    | none => exact Effect.Meets.bind_raised rfl rfl
    | some badValue =>
      refine Effect.Meets.bind_returned rfl ?_
      apply setConfig_sets encodable
      intro l
      apply Leaves.bind setHealth_leaves
      intro _
      apply Leaves.bind Leaves.lift
      intro _
      exact Leaves.pure

lemma injectPoolDriverMigration_sets (encodable : Encodable c w) :
    SetsFrom w ((match Assoc.get w.services scenario.targetService with
      | some s => if Conductor.migrated scenario then some ⟨w.now, s.name, .str "pool_driver"⟩ else none
      | none => none : Option Setting).filter fun set => c.encodesKey set.key)
      (c.injectPoolDriverMigration scenario) := by
  have last : ∀ l, Leaves l (do
      let p99 ← Effect.lift (c.faultFloat scenario "p99_ms")
      return {
        sloKind := "latency"
        currentValue := p99
        signal := "database too many connections; p99 latency breached"
        errorCode := "DB_POOL_EXHAUSTED" } : Sim Conductor.Breach) :=
    fun l => Leaves.bind Leaves.lift fun _ => Leaves.pure
  cases known : Assoc.get w.services scenario.targetService with
  | none => exact Effect.Meets.bind_raised (getService_unknown known) rfl
  | some s =>
    apply Effect.Meets.bind_returned (getService_known known)
    apply Effect.Meets.bind_returned (setHealth_known known)
    dsimp only
    split
    case isTrue => exact setConfig_sets encodable last
    case isFalse => exact (last _).setsFrom

lemma faultDependency_reads : (c.faultDependency scenario w).2 = w := by
  have reads : Effect.Meets (· = w) (c.faultDependency scenario) (fun _ => (· = w)) (fun _ => (· = w)) := by
    apply Effect.Meets.bind (Effect.Meets.lift_keeps fun _ _ h => h)
    intro _
    apply Effect.Meets.bind (Effect.Meets.lift_keeps fun _ _ h => h)
    intro _
    apply Effect.Meets.bind (Effect.Meets.read fun _ h => h)
    intro _
    apply Effect.Meets.bind (Effect.Meets.lift_keeps fun _ _ h => h)
    intro _
    exact Effect.Meets.pure fun _ h => h
  exact reads.always rfl

lemma injectCacheTopologyMigration_sets (encodable : Encodable c w) :
    SetsFrom w ((match (c.faultDependency scenario w).1, Assoc.get w.services scenario.targetService with
      | .ok _, some s =>
        if Conductor.migrated scenario then some ⟨w.now, s.name, .str "cache_failover_target"⟩ else none
      | _, _ => none : Option Setting).filter fun set => c.encodesKey set.key)
      (c.injectCacheTopologyMigration scenario) := by
  obtain ⟨out, found⟩ : ∃ out, c.faultDependency scenario w = (out, w) := ⟨_, Prod.ext rfl faultDependency_reads⟩
  rw [found]
  cases out with
  | error e => exact Effect.Meets.bind_raised found rfl
  | ok key =>
    apply Effect.Meets.bind_returned found
    cases known : Assoc.get w.services scenario.targetService with
    | none => exact Effect.Meets.bind_raised (getService_unknown known) rfl
    | some s =>
      apply Effect.Meets.bind_returned (getService_known known)
      split
      case isTrue =>
        apply setConfig_sets encodable
        intro l
        apply Leaves.bind setHealth_leaves
        intro _
        exact outage_leaves
      case isFalse => exact outage_leaves.setsFrom

/-- A fault sets what its family and its scenario say. -/
lemma injectFault_sets (encodable : Encodable c w) :
    SetsFrom w ((c.faultSetting scenario w).filter fun set => c.encodesKey set.key) (c.injectFault scenario) := by
  unfold Conductor.injectFault
  split
  case h_1 family =>
    rw [Conductor.faultSetting, family]
    exact injectBadDeploy_leaves.setsFrom
  case h_2 family =>
    rw [Conductor.faultSetting, family]
    exact injectPoolExhaustion_leaves.setsFrom
  case h_3 family =>
    rw [Conductor.faultSetting, family]
    exact injectOutage_leaves.setsFrom
  case h_4 family =>
    rw [Conductor.faultSetting, family]
    exact injectDegradation_leaves.setsFrom
  case h_5 family =>
    rw [Conductor.faultSetting, family]
    exact injectDegradation_leaves.setsFrom
  case h_6 family =>
    rw [Conductor.faultSetting, family]
    exact injectDegradation_leaves.setsFrom
  case h_7 family =>
    rw [Conductor.faultSetting, family]
    exact injectConfigRegression_sets encodable
  case h_8 family =>
    rw [Conductor.faultSetting, family]
    exact injectOutage_leaves.setsFrom
  case h_9 family =>
    rw [Conductor.faultSetting, family]
    exact injectOutage_leaves.setsFrom
  case h_10 family =>
    rw [Conductor.faultSetting, family]
    exact injectDegradation_leaves.setsFrom
  case h_11 family =>
    rw [Conductor.faultSetting, family]
    exact injectPoolDriverMigration_sets encodable
  case h_12 family =>
    rw [Conductor.faultSetting, family]
    exact injectCacheTopologyMigration_sets encodable
  case h_13 =>
    have quiet : c.faultSetting scenario w = none := by
      unfold Conductor.faultSetting
      split
      case h_1 => contradiction
      case h_2 => contradiction
      case h_3 => contradiction
      case h_4 => rfl
    rw [quiet]
    exact Leaves.raise.setsFrom

lemma addOrders_leaves {incident : Incident} {errorCode : String} {indices : List Nat} :
    Leaves l (c.addOrders incident errorCode indices) := by
  induction indices with
  | nil => exact Leaves.pure
  | cons index rest ih =>
    apply Leaves.bind Leaves.read
    intro _
    apply Leaves.bind Leaves.lift
    intro _
    exact Leaves.update_bind (fun _ => rfl) ih

lemma openIncident_leaves {breach : Conductor.Breach} : Leaves l (c.openIncident scenario breach) := by
  apply Leaves.bind
  case first =>
    apply Leaves.bind Leaves.read
    intro _
    refine Leaves.update_bind (fun _ => rfl) ?_
    apply Leaves.bind Leaves.lift
    intro _
    refine Leaves.update_bind (fun _ => rfl) ?_
    apply Leaves.bind Leaves.lift
    intro _
    refine Leaves.update_bind (fun _ => rfl) ?_
    exact Leaves.update_bind (fun _ => rfl) Leaves.pure
  intro _
  apply Leaves.bind addOrders_leaves
  intro _
  exact Leaves.pure

lemma account_leaves {r : ActionRequest} {incident : Incident} {policy : Policy} {expected : Bool} :
    Leaves l (c.account r incident policy expected) := by
  apply Leaves.bind Leaves.read
  intro _
  apply Leaves.bind Leaves.lift
  intro _
  refine Leaves.update_bind (fun _ => rfl) ?_
  apply Leaves.bind
  case first =>
    cases expected with
    | true => exact Leaves.update fun _ => rfl
    | false => exact addOrders_leaves
  intro _
  apply Leaves.bind Leaves.read
  intro _
  exact Leaves.update_bind (fun _ => rfl) Leaves.pure

lemma clearAlerts_leaves {id : String} {alerts : List (String × Alert)} :
    Leaves l (Conductor.clearAlerts id alerts) := by
  induction alerts with
  | nil => exact Leaves.pure
  | cons entry alerts ih =>
    unfold Conductor.clearAlerts
    dsimp only
    split
    case isFalse => exact ih
    case isTrue =>
      refine Leaves.update_bind (fun _ => rfl) ?_
      apply Leaves.bind Leaves.read
      intro _
      apply Leaves.bind Leaves.lift
      intro _
      exact Leaves.update_bind (fun _ => rfl) ih

lemma resolve_leaves {incident : Incident} : Leaves l (Conductor.resolve incident) := by
  refine Leaves.update_bind (fun _ => rfl) ?_
  apply Leaves.bind setHealth_leaves
  intro _
  apply Leaves.bind Leaves.read
  intro _
  exact clearAlerts_leaves

lemma conclude_leaves {r : ActionRequest} {incident : Incident} {policy : Policy} {expected : Bool} :
    Leaves l (c.conclude r incident policy expected) := by
  apply Leaves.bind account_leaves
  intro _
  by_cases completes :
      (if expected = true then incident.oracleStep + 1 else incident.oracleStep) = policy.requiredActions.length
  case pos =>
    rw [if_pos completes]
    apply Leaves.bind resolve_leaves
    intro _
    exact Leaves.pure
  case neg =>
    rw [if_neg completes]
    exact Leaves.pure

/-- A call that leaves the configuration, after one that sets a key. -/
lemma SetsFrom.bind {m : Sim α} {f : α → Sim β} {set : Option Setting} (sets : SetsFrom w set m)
    (leaves : ∀ a l, Leaves l (f a)) : SetsFrom w set (m >>= f) := by
  apply Effect.Meets.bind sets
  intro a w' h
  apply ((leaves a w'.configs).mono (fun _ h => h) ?_ ?_) w' rfl
  · intro _ _ e
    rw [e]
    exact h
  · intro _ _ e
    rw [e]
    exact h

lemma inject_sets (encodable : Encodable c w) :
    SetsFrom w ((c.faultSetting scenario w).filter fun set => c.encodesKey set.key) (c.inject scenario) :=
  (injectFault_sets encodable).bind fun _ _ => openIncident_leaves

lemma applyAction_sets {s : Simulation} {r : ActionRequest} (encodable : Encodable c s.world) :
    Sets s.world.configs (c.applyAction r s.world).2.configs (c.setting s (.applyAction r)) := by
  rw [applyAction_eq]
  unfold Conductor.setting
  dsimp only
  cases admitted : c.admission r s.world with
  | error e => rfl
  | ok entry =>
    obtain ⟨incident, policy, expected⟩ := entry
    obtain ⟨service, known⟩ := (admission_ok.mp admitted).known
    have concludes := @mutateAction_verdict c s.world r.actionType r.targetService r.params service known encodable
    dsimp only
    revert concludes
    generalize c.mutateAction r.actionType r.targetService r.params s.world = out
    generalize c.verdict s.world r.actionType r.params = verdict
    intro concludes
    cases concludes with
    | refused => rfl
    | raised _ => rfl
    | @accepted w' carried =>
      have kept : (c.conclude r incident policy expected w').2.configs = w'.configs := conclude_leaves.always rfl
      show Sets s.world.configs (c.conclude r incident policy expected w').2.configs
        ((configKey r.actionType r.params).map fun key => ⟨s.world.now, r.targetService, key⟩)
      rw [kept]
      cases set : configKey r.actionType r.params with
      | none => exact carried.others set
      | some key => exact carried.configs key set

/-- Every call changes the configuration as it sets it. -/
lemma step_sets {s : Simulation} {call : Conductor.Call} (encodable : Encodable c s.world) :
    Sets s.world.configs (c.step s call).world.configs (c.setting s call) := by
  cases call with
  | applyAction r => exact applyAction_sets encodable
  | advanceTime duration =>
    obtain ⟨now, e, _⟩ := @step_advanceTime c s duration
    rw [e]
    rfl
  | injectNext =>
    unfold Conductor.setting Conductor.step Conductor.injectNext
    cases c.scenarios[s.nextScenario]? with
    | none => rfl
    | some scenario =>
      by_cases inTime : Schedulable c scenario
      case neg =>
        have late : instant (c.fixture.startTime + scenario.injectAtSeconds * 1000000) =
            .error ⟨.OverflowError, "date value out of range", none, none⟩ := if_neg inTime
        simp only [late, if_neg inTime]
        rfl
      case pos =>
        have onTime : instant (c.fixture.startTime + scenario.injectAtSeconds * 1000000) =
            .ok (c.fixture.startTime + scenario.injectAtSeconds * 1000000) := if_pos inTime
        simp only [onTime, if_pos inTime]
        exact (@inject_sets c { s.world with now := injectionTime c scenario s.world } scenario encodable).always rfl

end calls

/-! ## Runs -/

lemma verdict_setConfig {params : Dict} : c.verdict w "set_config" params =
    match params.get "key", Assoc.get params "value" with
    | .str key, some _ => if c.rt.encodes key then .accepted else .raised
    | _, _ => .refused := rfl

lemma verdict_throttle {params : Dict} : c.verdict w "throttle_traffic" params =
    match asInt? (params.get "traffic_percent") with
    | some n =>
      if 1 ≤ n ∧ n ≤ 100 then if c.rt.encodes "traffic_limit_percent" then .accepted else .raised
      else .refused
    | none => .refused := rfl

lemma verdict_encoded {actionType : String} {params : Dict} (accepted : c.verdict w actionType params = .accepted)
    (set : configKey actionType params = some key) : c.encodesKey key = true := by
  unfold configKey at set
  split at set
  case h_1 =>
    cases set
    rw [verdict_setConfig] at accepted
    split at accepted
    case h_1 text _ =>
      rw [text]
      split at accepted
      case isTrue encoded => exact encoded
      case isFalse => cases accepted
    case h_2 => cases accepted
  case h_2 =>
    cases set
    rw [verdict_throttle] at accepted
    split at accepted
    case h_1 =>
      split at accepted
      case isTrue =>
        split at accepted
        case isTrue encoded => exact encoded
        case isFalse => cases accepted
      case isFalse => cases accepted
    case h_2 => cases accepted
  case h_3 => cases set

/-- What is set is encoded. -/
lemma setting_encoded {s : Simulation} {call : Conductor.Call} {set : Setting} (h : c.setting s call = some set) :
    c.encodesKey set.key = true := by
  unfold Conductor.setting at h
  split at h
  case h_1 =>
    split at h
    case h_1 =>
      split at h
      case isTrue => exact (Option.filter_eq_some_iff.mp h).2
      case isFalse => cases h
    case h_2 => cases h
  case h_2 =>
    split at h
    case h_1 accepted =>
      obtain ⟨key, e, rfl⟩ := Option.map_eq_some_iff.mp h
      exact verdict_encoded accepted e
    case h_2 => cases h
  case h_3 => cases h

lemma mem_modifyFirst {α : Type} {p : α → Bool} {f : α → α} {l : List α} {a : α} (h : a ∈ modifyFirst p f l) :
    ∃ b ∈ l, a = b ∨ a = f b := by
  induction l with
  | nil => cases h
  | cons b l ih =>
    unfold modifyFirst at h
    split at h
    case isTrue =>
      rcases List.mem_cons.mp h with rfl | mem
      · exact ⟨b, List.mem_cons_self, .inr rfl⟩
      · exact ⟨a, List.mem_cons_of_mem _ mem, .inl rfl⟩
    case isFalse =>
      rcases List.mem_cons.mp h with rfl | mem
      · exact ⟨a, List.mem_cons_self, .inl rfl⟩
      · obtain ⟨b', mem', e⟩ := ih mem
        exact ⟨b', List.mem_cons_of_mem _ mem', e⟩

lemma step_encodable {s : Simulation} {call : Conductor.Call} (encodable : Encodable c s.world) :
    Encodable c (c.step s call).world := by
  have sets := @step_sets c s call encodable
  intro revision mem
  cases set : c.setting s call with
  | none =>
    rw [set] at sets
    rw [sets] at mem
    exact encodable revision mem
  | some set' =>
    have encoded := setting_encoded set
    rw [set] at sets
    obtain ⟨added, _, key, _, _, e⟩ := sets
    rw [e] at mem
    rcases List.mem_append.mp mem with old | new
    · obtain ⟨r, was, same⟩ := mem_modifyFirst (List.mem_reverse.mp old)
      have keys : revision.key = r.key := by
        rcases same with rfl | rfl
        · rfl
        · rfl
      rw [keys]
      exact encodable r (List.mem_reverse.mp was)
    · cases List.mem_singleton.mp new
      rw [key]
      intro s text
      rw [text] at encoded
      exact encoded

/-- The call sets a key whose current revision did not start before. -/
def Overlaps (c : Conductor) (s : Simulation) (call : Conductor.Call) : Prop :=
  ∃ set ∈ c.setting s call, ∃ r ∈ s.world.currentConfig set.service set.key, set.now ≤ r.validFrom

instance {s : Simulation} {call : Conductor.Call} : Decidable (Overlaps c s call) :=
  inferInstanceAs (Decidable (∃ set ∈ c.setting s call, ∃ r ∈ s.world.currentConfig set.service set.key, set.now ≤ r.validFrom))

/-- A step keeps the windows contiguous exactly if it does not overlap. -/
lemma step_windows {s : Simulation} {call : Conductor.Call} (encodable : Encodable c s.world)
    (windows : Windows s.world.configs) : Windows (c.step s call).world.configs ↔ ¬ Overlaps c s call := by
  have sets := @step_sets c s call encodable
  unfold Overlaps
  cases set : c.setting s call with
  | none =>
    rw [set] at sets
    rw [sets]
    exact iff_of_true windows nofun
  | some set' =>
    rw [set] at sets
    rw [Revises.windows sets windows]
    simp

lemma loadConfig_fresh {item : ConfigItem} {r : ConfigRevision} (h : c.loadConfig item = .ok r) :
    r.service = item.service ∧ r.key = .str item.key ∧ r.validTo = none ∧ c.rt.encodes item.key = true := by
  obtain ⟨configId, identified, h⟩ := bind_ok h
  cases h
  refine ⟨rfl, rfl, rfl, ?_⟩
  unfold Conductor.configId at identified
  dsimp only at identified
  split at identified
  case isTrue encoded => exact encoded
  case isFalse => cases identified

/-- Items with different keys are loaded into windows of one revision each. -/
lemma loadConfigs_windows {items : List ConfigItem} {configs : List ConfigRevision}
    (h : items.mapM c.loadConfig = .ok configs) (initial : (items.map fun item => (item.service, item.key)).Nodup) :
    Windows configs := by
  intro service key
  induction items generalizing configs with
  | nil =>
    cases h
    exact Timeline.contiguous_nil
  | cons item items ih =>
    obtain ⟨fresh, rest⟩ := List.nodup_cons.mp initial
    rw [List.mapM_cons] at h
    obtain ⟨r, first, h⟩ := bind_ok h
    obtain ⟨others, following, h⟩ := bind_ok h
    cases h
    obtain ⟨service', key', opened, _⟩ := loadConfig_fresh first
    rw [List.filter_cons]
    split
    case isFalse => exact ih following rest
    case isTrue own =>
      have alone : others.filter (ofKey service key) = [] := by
        rw [List.filter_eq_nil_iff]
        intro r' mem same
        obtain ⟨item', mem', loaded⟩ := (mapM_ok following).1 r' mem
        obtain ⟨service'', key'', _⟩ := loadConfig_fresh loaded
        simp only [ofKey, Bool.and_eq_true, decide_eq_true_eq, Json.pyEq_iff] at own same
        have texts : Json.norm (.str item.key) = Json.norm (.str item'.key) := by
          rw [← key', ← key'', own.2, same.2]
        have keys : item.key = item'.key := Json.str.inj (by simpa [Json.norm] using texts)
        have services : item.service = item'.service := by
          rw [← service', ← service'', own.1, same.1]
        exact fresh (List.mem_map.mpr ⟨item', mem', Prod.ext services.symm keys.symm⟩)
      rw [alone]
      exact Timeline.contiguous_singleton.mpr opened

lemma loadWorld_encodable (loaded : c.loadWorld = .ok w) : Encodable c w := by
  obtain ⟨slos, configs, _, read, rfl⟩ := loadWorld_eq loaded
  intro revision mem s text
  obtain ⟨item, _, h⟩ := (mapM_ok read).1 revision mem
  obtain ⟨_, key, _, encoded⟩ := loadConfig_fresh h
  cases key.symm.trans text
  exact encoded

lemma loadWorld_windows (loaded : c.loadWorld = .ok w)
    (initial : (c.fixture.configs.map fun item => (item.service, item.key)).Nodup) : Windows w.configs := by
  obtain ⟨slos, configs, _, read, rfl⟩ := loadWorld_eq loaded
  exact loadConfigs_windows read initial

/-- Every revision of a run has a key that is encoded. -/
lemma run_encodable {calls : List Conductor.Call} (loaded : c.loadWorld = .ok w) :
    Encodable c (Run.run c.step { world := w } calls).world :=
  Run.run_invariant (I := fun s : Simulation => Encodable c s.world) (fun _ _ _ => step_encodable)
    (loadWorld_encodable loaded)

/-- From a fixture with one revision for each key, the windows of every key stay contiguous all along a run exactly
if no step sets a key at the instant, or before it, at which the current revision of that key started. -/
theorem config_windows {calls : List Conductor.Call} (loaded : c.loadWorld = .ok w)
    (initial : (c.fixture.configs.map fun item => (item.service, item.key)).Nodup) :
    (∀ before after, calls = before ++ after → Windows (Run.run c.step { world := w } before).world.configs) ↔
      Run.Each c.step (fun s call => ¬ Overlaps c s call) { world := w } calls := by
  have law := @Run.always_iff_each _ _ c.step (fun s => Encodable c s.world ∧ Windows s.world.configs)
    (fun s call => ¬ Overlaps c s call) calls { world := w }
    (fun s call h => (and_iff_right (step_encodable h.1)).trans (step_windows h.1 h.2))
    ⟨loadWorld_encodable loaded, loadWorld_windows loaded initial⟩
  rw [← law]
  constructor
  · exact fun windows before after e => ⟨run_encodable loaded, windows before after e⟩
  · exact fun both before after e => (both before after e).2

namespace Sample

/-- A change of a flag that breaks the checkout service. -/
def flagChange (injectAtSeconds : Int) : Scenario where
  scenarioId := "f7-checkout-flag"
  familyId := "F7_CONFIG_REGRESSION"
  variantId := "base"
  title := "Checkout errors after config flag change"
  severity := "SEV2"
  targetService := "checkout-svc"
  injectAtSeconds
  failedOrders := 0
  fault := [("key", .str "express_checkout_enabled"), ("bad_value", .bool true), ("error_rate", .float (.num (12 / 100)))]

/-- The checkout service with that flag off, which is changed later. -/
def flagged (injectAtSeconds : Int) : Conductor :=
  let c := conductor [flagChange injectAtSeconds]
  { c with
    fixture := { c.fixture with
      configs := [{ service := "checkout-svc", key := "express_checkout_enabled", value := .bool false }] } }

end Sample

/-- `config_windows` where the flag changes an hour after the start. -/
theorem config_windows_sample : Windows (Run.run (Sample.flagged 3600).step
    { world := Sample.start (Sample.flagged 3600) } [Conductor.Call.injectNext]).world.configs := by
  apply (config_windows rfl (by decide)).mpr ?_ _ [] (List.append_nil _).symm
  exact ⟨by decide +kernel, trivial⟩

/-- The flag changes at the start: the first window of the flag is empty. -/
theorem empty_window : (Sample.flagged 0).loadWorld = .ok (Sample.start (Sample.flagged 0)) ∧
    ((Sample.flagged 0).fixture.configs.map fun item => (item.service, item.key)).Nodup ∧
    ¬ Windows (Run.run (Sample.flagged 0).step { world := Sample.start (Sample.flagged 0) } [.injectNext]).world.configs := by
  have loaded : (Sample.flagged 0).loadWorld = .ok (Sample.start (Sample.flagged 0)) := rfl
  have initial : ((Sample.flagged 0).fixture.configs.map fun item => (item.service, item.key)).Nodup := by decide
  refine ⟨loaded, initial, ?_⟩
  intro windows
  have apart := (@step_windows (Sample.flagged 0) { world := Sample.start (Sample.flagged 0) } .injectNext
    (loadWorld_encodable loaded) (loadWorld_windows loaded initial)).mp windows
  exact apart (by decide +kernel)

end Postmortem.Simulator
