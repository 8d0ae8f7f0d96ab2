import Postmortem.Resilience.Course

/-!
# When the harness stops a region

Whatever the cluster answers, and also where the run ends in an exception, the harness stops the region at most once,
only after the leases of every pinned table were seen there, and then writes first to a node that held the lease of the
episodes (`killed_after_pin`).
-/

namespace Postmortem

namespace Resilience

open Interaction

/-- A request that neither stops nor starts a node. -/
def Runs : Request → Prop
  | .composeKill _ => False
  | .composeStart _ => False
  | _ => True

lemma Looks.runs {r : Request} (looks : Looks r) : Runs r := by
  cases r
  all_goals trivial

/-- A request that stops nodes. -/
def Kills : Request → Prop
  | .composeKill _ => True
  | _ => False

/-- The nodes of the transactions that were sent, in order. -/
def writers (h : History) : List Rto.Node := h.flatMap fun e =>
  match e.1 with
  | .insert node _ => [node]
  | _ => []

@[simp] lemma writers_append {h h' : History} : writers (h ++ h') = writers h ++ writers h' := List.flatMap_append

lemma Runs.spares {r : Request} (runs : Runs r) : ¬ Kills r := by
  cases r
  case composeKill => cases runs
  all_goals exact id

/-! ## What neither stops nor starts a node -/

section runs

variable {env : Environment} {rt : Runtime} {cfg : HarnessConfig} {fuel : Nat} {seed : SeedContext} {p : Rto.Params}

lemma runs_insert {node rows} : Asks Runs (insert env node rows) := .bind (.ask trivial) fun _ => .lift

lemma runs_select {node query} : Asks Runs (select env node query) := looks_select.mono fun _ => Looks.runs

lemma runs_writeThenRead {marker agentId writer reader} :
    Asks Runs (writeThenRead env seed marker agentId writer reader) := by
  refine .bind (.ask trivial) fun _ => .bind runs_insert fun _ => .bind ?_ fun _ => .pure
  exact .bind (.ask trivial) fun _ => .bind runs_select fun _ => .bind (.ask trivial) fun _ => .pure

lemma runs_rowExists {node row} : Asks Runs (rowExists env node row) := .bind runs_select fun _ => .pure

lemma runs_probeAtomicity {node} : Asks Runs (probeAtomicity env seed node) := by
  refine .bind (.ask trivial) fun _ => .bind (.ask trivial) fun _ => .bind (.ask trivial) fun _ => ?_
  refine .bind (.ask trivial) fun _ => .bind runs_insert fun _ => .bind runs_rowExists fun _ => ?_
  refine .bind runs_rowExists fun _ => .bind (.ask trivial) fun _ => .bind runs_rowExists fun _ => ?_
  exact .bind runs_rowExists fun _ => .pure

lemma runs_attemptWrite {node} : Asks Runs (attemptWrite env seed node) :=
  .bind (.ask trivial) fun _ => .bind (.ask trivial) fun _ => .pure

lemma runs_rtoLoop {s} : Asks Runs (rtoLoop env seed p fuel s) := by
  induction fuel generalizing s with
  | zero => exact .raise
  | succ fuel ih =>
    refine .bind (.ask trivial) fun now => ?_
    split
    case isFalse => exact .pure
    case isTrue =>
      refine .bind (.ask trivial) fun _ => .bind runs_attemptWrite fun attempted => .bind (.ask trivial) fun _ => ?_
      cases attempted with
      | error e => exact ih
      | ok id => exact .bind (.ask trivial) fun _ => .pure

lemma runs_probeRpo {node tracker phase} : Asks Runs (probeRpo env node tracker phase) :=
  .bind (.forEach fun _ _ => .bind runs_select fun _ => .pure) fun _ => .pure

lemma runs_wait {node timeoutS pollIntervalS} {good : List NodeLiveness → Bool} :
    Asks Runs (time env >>= fun start => pollStatus env node timeoutS pollIntervalS start good fuel []) :=
  .bind (.ask trivial) fun _ => looks_pollStatus.mono fun _ => Looks.runs

lemma runs_prepare : Asks Runs (prepare env rt cfg fuel) := by
  have runs_pin : Asks Runs (pin env rt cfg fuel) :=
    .bind (looks_pinAndVerify.mono fun _ => Looks.runs) fun _ => .bind .lift fun _ => .pure
  have runs_seed : Asks Runs (seedBaseline env cfg.controlNode.toNode) := by
    refine .bind (.ask trivial) fun _ => .bind (.ask trivial) fun _ => .bind (.ask trivial) fun _ => ?_
    refine .bind (.ask trivial) fun _ => .bind (.ask trivial) fun _ => .bind (.ask trivial) fun _ => ?_
    exact .bind .lift fun _ => .pure
  refine .bind runs_seed fun _ => .bind runs_pin fun _ => .bind (looks_nodeStatus.mono fun _ => Looks.runs) fun _ => ?_
  refine .bind (looks_rangeSnapshot.mono fun _ => Looks.runs) fun _ => .bind ?_ fun _ => .bind .lift fun _ => ?_
  · exact .bind runs_writeThenRead fun _ => .pure
  · exact .bind (.bind runs_writeThenRead fun _ => .pure) fun _ => .bind runs_probeAtomicity fun _ => .pure

lemma runs_endure {prep killedAt} : Asks Runs (endure env cfg fuel prep killedAt) := by
  refine .bind (.bind runs_rtoLoop fun _ => .pure) fun _ => .bind (.forEach fun _ _ => ?_) fun _ => ?_
  · exact .bind (.ask trivial) fun _ => .bind runs_insert fun _ => .pure
  · refine .bind runs_wait fun _ => .bind (looks_rangeSnapshot.mono fun _ => Looks.runs) fun _ => ?_
    exact .bind runs_probeRpo fun _ => .pure

lemma spares_restoreRegion {region} : Asks (fun r => ¬ Kills r) (restoreRegion env rt region) := by
  unfold restoreRegion
  split
  case isTrue => exact .raise
  case isFalse => exact .bind (.ask id) fun _ => .bind .lift fun _ => .ask id

lemma runs_recover {prep mid} : Asks Runs (recover env cfg fuel prep mid) := by
  refine .bind runs_wait fun _ => .bind (looks_rangeSnapshot.mono fun _ => Looks.runs) fun _ => ?_
  refine .bind runs_probeRpo fun _ => .bind (.forEach fun _ _ => ?_) fun _ => .pure
  exact looks_recordProbe.mono fun _ => Looks.runs

end runs

/-! ## The first write -/

/-- The loop looks at the clock, and writes first to its first node unless the deadline has passed. -/
def Begins (p : Rto.Params) (events : History) : Prop := ∃ (now : ℚ) (rest : History), events = event .time now :: rest ∧
  (now - p.killStartedAt < p.deadlineSeconds → (writers rest).head? = some (Rto.rotation p 0))

lemma Begins.append {p events more} (begins : Begins p events) : Begins p (events ++ more) := by
  obtain ⟨now, rest, rfl, first⟩ := begins
  refine ⟨now, rest ++ more, rfl, fun within => ?_⟩
  rw [writers_append, List.head?_append, first within]
  rfl

section first

variable {env : Environment} {cfg : HarnessConfig} {fuel : Nat} {seed : SeedContext} {p : Rto.Params} {h : History}

lemma time_bind {α : Type} {f : ℚ → Call α} :
    (time env >>= f) h = f (env h .time) (h ++ [event .time (env h .time)]) := rfl

lemma attemptWrite_eq {node} : ∃ (id : String) (answer : Except Raised Unit), attemptWrite env seed node h =
    (.ok (answer.map fun _ => id), h ++ [event .uuid4 id, event (.insert node [attemptedRow seed id]) answer]) := by
  refine ⟨env h .uuid4, env (h ++ [event .uuid4 (env h .uuid4)]) (.insert node [attemptedRow seed (env h .uuid4)]), ?_⟩
  have e : attemptWrite env seed node h = (.ok (Except.map (fun _ => env h .uuid4)
      (env (h ++ [event .uuid4 (env h .uuid4)]) (.insert node [attemptedRow seed (env h .uuid4)]) : Except Raised Unit)),
      h ++ [event .uuid4 (env h .uuid4)] ++ [event (.insert node [attemptedRow seed (env h .uuid4)]) _]) := rfl
  rw [e, List.append_assoc]
  rfl

/-- An attempt writes to its node, whatever comes of it. -/
lemma attempt_writes {α : Type} {node} {f : ℚ → Except Raised String → Call α} (rest : ∀ a b, Asks Runs (f a b)) :
    ∃ more, ((time env >>= fun start => attemptWrite env seed node >>= f start) h).2 = h ++ more ∧
      (writers more).head? = some node := by
  obtain ⟨id, answer, wrote⟩ := @attemptWrite_eq env seed (h ++ [event .time (env h .time)]) node
  obtain ⟨more, e, _⟩ := rest (env h .time) (answer.map fun _ => id) (h ++ [event .time (env h .time)] ++
    [event .uuid4 id, event (.insert node [attemptedRow seed id]) answer])
  refine ⟨event .time (env h .time) :: event .uuid4 id :: event (.insert node [attemptedRow seed id]) answer :: more,
    ?_, rfl⟩
  have next : (attemptWrite env seed node >>= f (env h .time)) (h ++ [event .time (env h .time)]) =
      f (env h .time) (answer.map fun _ => id) (h ++ [event .time (env h .time)] ++
        [event .uuid4 id, event (.insert node [attemptedRow seed id]) answer]) := by
    rw [Effect.bind_apply, wrote]
    rfl
  rw [time_bind, next, e]
  simp

lemma begins_of_writes {α : Type} {out : Except Stop α × History} {now : ℚ}
    (writes : ∃ more, out.2 = h ++ [event .time now] ++ more ∧ (writers more).head? = some (Rto.rotation p 0)) :
    ∃ events, out.2 = h ++ events ∧ Begins p events := by
  obtain ⟨more, e, first⟩ := writes
  exact ⟨event .time now :: more, by rw [e, ← List.append_cons], now, more, rfl, fun _ => first⟩

lemma rtoLoop_begins : rtoLoop env seed p fuel {} h = (.error .outOfFuel, h) ∨
    ∃ events, (rtoLoop env seed p fuel {} h).2 = h ++ events ∧ Begins p events := by
  cases fuel with
  | zero => exact .inl rfl
  | succ fuel =>
    right
    rw [rtoLoop, time_bind]
    split
    case isFalse late => exact ⟨_, rfl, env h .time, [], rfl, fun within => absurd within late⟩
    case isTrue =>
      refine begins_of_writes (attempt_writes fun start attempted => .bind (.ask trivial) fun _ => ?_)
      cases attempted with
      | error e => exact runs_rtoLoop
      | ok id => exact .bind (.ask trivial) fun _ => .pure

/-- The call raises at once, or it begins with the loop. -/
def Starts {α : Type} (p : Rto.Params) (m : Call α) (h : History) : Prop :=
  (m h).2 = h ∧ (∃ e, (m h).1 = .error e) ∨ ∃ events, (m h).2 = h ++ events ∧ Begins p events

lemma Starts.bind {α β : Type} {m : Call α} {f : α → Call β} (S : Request → Prop) (starts : Starts p m h)
    (rest : ∀ a, Asks S (f a)) : Starts p (m >>= f) h := by
  unfold Starts at starts ⊢
  rw [Effect.bind_apply]
  generalize m h = out at starts ⊢
  obtain ⟨_ | a, h'⟩ := out
  case error =>
    rcases starts with ⟨same, _⟩ | begins
    · exact .inl ⟨same, _, rfl⟩
    · exact .inr begins
  case ok =>
    obtain ⟨more, e, _⟩ := rest a h'
    rcases starts with ⟨_, _, raised⟩ | ⟨events, e', begins⟩
    · cases raised
    · refine .inr ⟨events ++ more, ?_, begins.append⟩
      rw [← List.append_assoc, ← e']
      exact e

/-- The first write of a call that begins with the loop. -/
lemma Starts.first {α : Type} {m : Call α} {now : ℚ} {rest : History} (starts : Starts p m h)
    (added : (m h).2 = h ++ event .time now :: rest) (within : now - p.killStartedAt < p.deadlineSeconds) :
    (writers rest).head? = some (Rto.rotation p 0) := by
  rcases starts with ⟨same, _⟩ | ⟨events, e, now', rest', rfl, first⟩
  · exact absurd (added.symm.trans same) (by simp)
  · obtain ⟨⟨⟩, rfl⟩ := List.cons_eq_cons.mp (List.append_cancel_left (e.symm.trans added))
    exact first within

lemma endure_starts {prep killedAt} : Starts (rtoParams cfg prep killedAt) (endure env cfg fuel prep killedAt) h := by
  have looped : Starts (rtoParams cfg prep killedAt)
      (rtoLoop env prep.seed (rtoParams cfg prep killedAt) fuel {}) h := by
    rcases @rtoLoop_begins env fuel prep.seed (rtoParams cfg prep killedAt) h with raised | begins
    · exact .inl ⟨congrArg Prod.snd raised, _, congrArg Prod.fst raised⟩
    · exact .inr begins
  refine (looped.bind Runs fun _ => .pure).bind Runs fun _ => .bind (.forEach fun _ _ => ?_) fun _ => ?_
  · exact .bind (.ask trivial) fun _ => .bind runs_insert fun _ => .pure
  · refine .bind runs_wait fun _ => .bind (looks_rangeSnapshot.mono fun _ => Looks.runs) fun _ => ?_
    exact .bind runs_probeRpo fun _ => .pure

end first

/-! ## Stopping the region -/

/-- Where only one element of a list is of a kind, the list is split there in one way. -/
lemma split_unique {α : Type} {K : α → Prop} {l l' r r' : List α} {a b : α} (e : l ++ a :: r = l' ++ b :: r')
    (left : ∀ x ∈ l, ¬ K x) (right : ∀ x ∈ r, ¬ K x) (kind : K b) : l = l' ∧ a = b ∧ r = r' := by
  rcases List.append_eq_append_iff.mp e with ⟨more, rfl, same⟩ | ⟨more, rfl, same⟩
  · cases more with
    | nil =>
      cases same
      exact ⟨(List.append_nil _).symm, rfl, rfl⟩
    | cons c more =>
      cases same
      exact absurd kind (right b (List.mem_append_right _ List.mem_cons_self))
  · cases more with
    | nil =>
      cases same
      exact ⟨List.append_nil _, rfl, rfl⟩
    | cons c more =>
      cases same
      exact absurd kind (left b (List.mem_append_right _ List.mem_cons_self))

section killed

variable {env : Environment} {rt : Runtime} {cfg : HarnessConfig} {fuel : Nat} {h : History}

lemma killRegion_eq {region : String} (nodes : servicesInRegion region ≠ []) : ∃ answer : Except Raised Unit,
    killRegion env rt region h = Effect.next (fun _ => time env)
      (checked answer, h ++ [event (.composeKill (servicesInRegion region)) answer]) := by
  refine ⟨env h (.composeKill (servicesInRegion region)), ?_⟩
  rw [killRegion, if_neg nodes]
  rfl

/-- After the preparation the run stops nothing, or it stops the region and goes on. -/
lemma killRegion_cases {α : Type} {region : String} {f : ℚ → Call α} (spares : ∀ t, Asks (fun r => ¬ Kills r) (f t)) :
    ((killRegion env rt region >>= f) h).2 = h ∨
      ∃ answer after, ((killRegion env rt region >>= f) h).2 =
          h ++ event (.composeKill (servicesInRegion region)) answer :: after ∧ (∀ e ∈ after, ¬ Kills e.1) ∧
        (after = [] ∨ ∃ t rest, after = event .time t :: rest ∧
          (f t (h ++ [event (.composeKill (servicesInRegion region)) answer, event .time t])).2 =
            h ++ [event (.composeKill (servicesInRegion region)) answer, event .time t] ++ rest) := by
  by_cases nodes : servicesInRegion region = []
  · refine .inl ?_
    rw [killRegion, if_pos nodes]
    rfl
  · obtain ⟨answer, asked⟩ := @killRegion_eq env rt h region nodes
    refine .inr ⟨answer, ?_⟩
    rw [Effect.bind_apply, asked]
    cases answer with
    | error e => exact ⟨[], rfl, List.forall_mem_nil _, .inl rfl⟩
    | ok u =>
      obtain ⟨t, timed⟩ : ∃ t : ℚ, Effect.next (fun _ : Unit => time env) (checked (Except.ok u),
          h ++ [event (.composeKill (servicesInRegion region)) (Except.ok u : Except Raised Unit)]) = (.ok t,
          h ++ [event (.composeKill (servicesInRegion region)) (Except.ok u : Except Raised Unit)] ++
            [event .time t]) := ⟨_, rfl⟩
      rw [List.append_assoc] at timed
      obtain ⟨more, e, spared⟩ := spares t _
      rw [timed]
      refine ⟨event .time t :: more, ?_, List.forall_mem_cons.mpr ⟨id, spared⟩, .inr ⟨t, more, rfl, e⟩⟩
      exact e.trans (by simp)

lemma Preparation.pinned_subset {prep} (p : Preparation cfg prep) : p.pinned ⊆ p.events := by
  intro e mem
  simp [Preparation.events, mem]

/-- The events of a preparation neither stop nor start a node. -/
lemma prepare_runs : ∀ e ∈ (prepare env rt cfg fuel []).2, Runs e.1 := by
  obtain ⟨events, e, runs⟩ := (runs_prepare : Asks Runs (prepare env rt cfg fuel)) []
  rw [e]
  exact runs

lemma resolveNode_mem {locality : String} {node : Node} (resolved : resolveNodeFromLocality locality = some node) :
    node ∈ topology := by
  unfold resolveNodeFromLocality at resolved
  split at resolved
  case h_1 => exact List.mem_of_find?_eq_some resolved
  case h_2 => cases resolved

end killed

/-- Whatever the cluster answers, the harness stops the region once at most, after the leases of every pinned table
were seen there; then it writes first to the node that held the lease of the episodes. -/
theorem killed_after_pin (env : Environment) (rt : Runtime) (cfg : HarnessConfig) (fuel : Nat) {before services answer after}
    (split : (run env rt cfg fuel []).2 = before ++ event (.composeKill services) answer :: after) :
    services = servicesInRegion cfg.killRegion ∧ (∀ e ∈ before, Runs e.1) ∧ (∀ e ∈ after, ¬ Kills e.1) ∧
      PinnedBy cfg before ∧ ∃ node ∈ topology, HeldAt cfg node before ∧
        ∀ (killedAt now : ℚ) (rest : History), after = event .time killedAt :: event .time now :: rest →
          now - killedAt < cfg.rtoDeadlineSeconds → (writers rest).head? = some node.toNode := by
  have runs := @prepare_runs env rt cfg fuel
  rw [run, Effect.bind_apply] at split
  cases prepared : prepare env rt cfg fuel [] with
  | mk out h =>
    rw [prepared] at split runs
    cases out with
    | error e =>
      obtain rfl : h = before ++ event (.composeKill services) answer :: after := split
      exact absurd (runs _ (List.mem_append_right _ List.mem_cons_self)) id
    | ok prep =>
      obtain ⟨p, e⟩ := prepare_ok prepared
      have later : ∀ mid, Asks (fun r => ¬ Kills r) (restoreRegion env rt cfg.killRegion >>= fun _ =>
          recover env cfg fuel prep mid) :=
        fun _ => .bind spares_restoreRegion fun _ => runs_recover.mono fun _ => Runs.spares
      rcases killRegion_cases (fun t => .bind (runs_endure.mono fun _ => Runs.spares) later) (h := h) with same | ⟨answer', tail, same, spared, goes⟩
      · obtain rfl : h = before ++ event (.composeKill services) answer :: after := same.symm.trans split
        exact absurd (runs _ (List.mem_append_right _ List.mem_cons_self)) id
      · obtain ⟨rfl, stopped, rfl⟩ := split_unique (K := fun e : Event Answer => Kills e.1) (same.symm.trans split)
          (fun e mem => (runs e mem).spares) spared trivial
        cases stopped
        rw [List.nil_append] at e
        have pinned : p.pinned ⊆ h := e ▸ p.pinned_subset
        obtain ⟨_, _, _, _, resolved, _⟩ := p.held
        refine ⟨rfl, runs, spared, p.pins.mono pinned, prep.leaseholderNode, resolveNode_mem resolved,
          p.held.mono pinned, ?_⟩
        rintro killedAt now rest rfl within
        obtain ⟨t, more, same, continued⟩ := goes.resolve_left (List.cons_ne_nil _ _)
        cases same
        exact (endure_starts.bind _ later).first continued within

/-- `killed_after_pin` over the cluster of the sample. -/
theorem killed_after_pin_sample : ∃ before answer after, (run Sample.env Runtime.sample {} 3 []).2 =
    before ++ event (.composeKill ["crdb-use2-a", "crdb-use2-b", "crdb-use2-c"]) answer :: after ∧ PinnedBy {} before ∧
      ∃ node ∈ topology, HeldAt {} node before := by
  obtain ⟨report, h, ran, _⟩ := Sample.passes
  obtain ⟨c, e⟩ := run_ok ran
  have split : (run Sample.env Runtime.sample {} 3 []).2 = c.preparation.events ++
      event (.composeKill (servicesInRegion "us-east-2")) (Except.ok () : Except Raised Unit) ::
        (event .time c.killedAt :: (c.endurance.writes ++ c.endurance.checks) ++
          restarted {} :: event .time c.restartedAt :: c.recovery.events) := by
    rw [ran, e]
    simp [Course.events]
  obtain ⟨_, _, _, pinned, node, mem, held, _⟩ := killed_after_pin Sample.env Runtime.sample {} 3 split
  exact ⟨_, _, _, split, pinned, node, mem, held⟩

end Resilience

end Postmortem
