import Postmortem.Consolidation.Redelivery

/-!
# Rows that are redelivered

A run of the processor in which some rows are delivered again, beside the same run without them. The
windows of the two runs form different groups, and `NoEffect` says that those a window forms in one
run alone write nothing. Then both runs hold the same runbooks.
-/

namespace Postmortem

open CockroachRunbookRepository

/-- A message of a run, with what the environment decides where it is a closed window: where the
handling fails, if it does, and what its calls generate. -/
inductive Delivery where
  | row (e : ChangeEvent)
  /-- A row that was delivered before. -/
  | again (e : ChangeEvent)
  | window (w : ClosedWindow) (failure failure' : Option Failure) (env env' : Nat → CallEnv)

section run

variable (p : ConsolidationProcessor)

/-- The handling of a closed window, to its failure if it fails. -/
def handle (env : Nat → CallEnv) (w : ClosedWindow) (W : World) : Option Failure → Except Raised World
  | none => do
    let (W, _) ← p.process env W (.closed w)
    return W
  | some f => p.fails env f w W

/-- A message of the run with the redelivered rows. -/
def deliver (W : World) : Delivery → Except Raised World
  | .row e => p.buffer e W
  | .again e => p.buffer e W
  | .window w failure _ env _ => handle p env w W failure

/-- A message of the run without them. -/
def deliverOnce (W : World) : Delivery → Except Raised World
  | .row e => p.buffer e W
  | .again _ => .ok W
  | .window w _ failure _ env => handle p env w W failure

/-- The calls that take effect. -/
def callsMade (calls : List Call) : Option Failure → List Call
  | none => calls
  | some f => f.made calls

/-- What the shelves take from a candidate. -/
def CandidateRunbook.content (c : CandidateRunbook) : CandidateRunbook := { c with sourceEventIds := [] }

/-- The candidates that are not among the others write nothing where they stand. -/
def NoEffect (db : Database) (cs others : List CandidateRunbook) : Prop :=
  ∀ before c after, cs = before ++ c :: after → c.content ∉ others.map CandidateRunbook.content →
    Harmless db before c

/-- The groups that the window forms in one of the two runs alone write nothing. -/
def Unaffected (w : ClosedWindow) (failure failure' : Option Failure) (W W' : World) : Prop :=
  ∀ events events', S3WindowStore.readThrough p.rt w.watermark W.bucket = .ok events →
    S3WindowStore.readThrough p.rt w.watermark W'.bucket = .ok events' →
    let cs := Call.candidates (callsMade (p.calls events w.watermark) failure)
    let cs' := Call.candidates (callsMade (p.calls events' w.watermark) failure')
    NoEffect W.db cs cs' ∧ NoEffect W'.db cs' cs

/-- Every window of the run is unaffected, in the states that the two runs reach before it. -/
def RunUnaffected (W : World) (ds : List Delivery) : Prop :=
  ∀ before w failure failure' env env' after,
    ds = before ++ .window w failure failure' env env' :: after →
    ∀ W1 W2, before.foldlM (deliver p) W = .ok W1 → before.foldlM (deliverOnce p) W = .ok W2 →
      Unaffected p w failure failure' W1 W2

end run

/-! ## A window -/

section window

variable {p : ConsolidationProcessor} {w : ClosedWindow}

/-- The order of the candidates of a window. -/
def EarlierIncident (a b : CandidateRunbook) : Prop := a.incident < b.incident

instance : Std.Irrefl EarlierIncident := ⟨fun a => lt_irrefl a.incident⟩

instance : Std.Antisymm EarlierIncident := ⟨fun _ _ h h' => absurd h' (lt_asymm h)⟩

/-- What the handling of a window did. -/
lemma handle_spec {env failure} {W W' : World} (h : handle p env w W failure = .ok W') :
    ∃ events, S3WindowStore.readThrough p.rt w.watermark W.bucket = .ok events ∧
      AppliedAll p.rt p.activation
        (Call.candidates (callsMade (p.calls events w.watermark) failure)) W.db W'.db := by
  cases failure with
  | none =>
    obtain ⟨⟨W1, r⟩, h, e⟩ := bind_ok h
    cases e
    obtain ⟨events, read, did⟩ := process_spec h
    exact ⟨events, read, did.db⟩
  | some f =>
    obtain ⟨events, read, applied, _⟩ := fails_spec h
    exact ⟨events, read, applied⟩

lemma callsMade_sorted {events failure} :
    (Call.candidates (callsMade (p.calls events w.watermark) failure)).Pairwise EarlierIncident := by
  have sorted := @candidates_sorted p events w.watermark
  cases failure with
  | none => exact sorted
  | some f => exact sorted.sublist ((List.take_sublist _ _).filterMap _)

variable {rt : Runtime} {activation : Activation} {k : RunbookName} {db : Database}
  {cs others : List CandidateRunbook}

/-- The candidates of the list that have the content of one of the others. -/
def shared (others cs : List CandidateRunbook) : List CandidateRunbook :=
  (cs.filter fun c => c.content ∈ others.map CandidateRunbook.content).map CandidateRunbook.content

lemma shared_comm (sorted : cs.Pairwise EarlierIncident) (sorted' : others.Pairwise EarlierIncident) :
    shared others cs = shared cs others := by
  have contents : ∀ {a b : List CandidateRunbook}, b.Pairwise EarlierIncident →
      (shared a b).Pairwise EarlierIncident := by
    intro a b hb
    exact List.pairwise_map.mpr (hb.filter _)
  apply (contents sorted).eq_of_mem_iff (contents sorted')
  intro c
  simp only [shared, List.mem_map, List.mem_filter, decide_eq_true_eq]
  constructor
  · rintro ⟨a, ⟨ha, b, hb, e⟩, rfl⟩
    exact ⟨b, ⟨hb, a, ha, e.symm⟩, e⟩
  · rintro ⟨a, ⟨ha, b, hb, e⟩, rfl⟩
    exact ⟨b, ⟨hb, a, ha, e.symm⟩, e⟩

/-- A shelf takes the contents alone. -/
lemma run_content {s : Shelf} : Run.run (Shelf.step rt activation k) s (cs.map CandidateRunbook.content) =
    Run.run (Shelf.step rt activation k) s cs := by
  induction cs generalizing s with
  | nil => rfl
  | cons c cs ih => exact ih

/-- Candidates without effect can be left out. -/
lemma run_shared (adm : db.Admitted) (stored : ∀ c ∈ cs, ids? c ≠ none) (none : NoEffect db cs others) :
    Run.run (Shelf.step rt activation k) (shelfOf k db) cs =
      Run.run (Shelf.step rt activation k) (shelfOf k db) (shared others cs) := by
  rw [shared, run_content]
  symm
  apply Run.run_filter
  intro before c after e alone
  subst e
  have harmless := none before c after rfl (of_decide_eq_false alone)
  apply Shelf.step_eq_self
  rintro writes
  obtain ⟨i, hi, rfl, _⟩ := id writes
  have first : ∀ a ∈ before, ids? a ≠ .none := fun a ha => stored a (List.mem_append_left _ ha)
  exact (@harmless_iff rt activation _ _ _ _ adm hi first).mp harmless writes

/-- An unaffected window keeps the shelves of the two runs equal. -/
lemma window_shelves {env env' failure failure'} {W W' W1 W1' : World} (adm : W.db.Admitted)
    (adm' : W'.db.Admitted) (same : ∀ k, shelfOf k W.db = shelfOf k W'.db)
    (unaffected : Unaffected p w failure failure' W W') (h : handle p env w W failure = .ok W1)
    (h' : handle p env' w W' failure' = .ok W1') : ∀ k, shelfOf k W1.db = shelfOf k W1'.db := by
  intro k
  obtain ⟨events, read, applied⟩ := handle_spec h
  obtain ⟨events', read', applied'⟩ := handle_spec h'
  obtain ⟨none, none'⟩ := unaffected events events' read read'
  rw [applied.onShelf adm, applied'.onShelf adm', run_shared adm applied.stored none,
    run_shared adm' applied'.stored none', same k,
    shared_comm callsMade_sorted callsMade_sorted]

end window

/-! ## A run -/

section run

variable {p : ConsolidationProcessor} {W W1 W2 : World} {ds : List Delivery}

lemma buffer_db {e} {W W' : World} (h : p.buffer e W = .ok W') : W'.db = W.db := by
  obtain ⟨b, _, h⟩ := bind_ok h
  cases h
  rfl

/-- What holds of the two runs. -/
structure Alike (W W' : World) : Prop where
  admitted : W.db.Admitted
  admitted' : W'.db.Admitted
  shelves : ∀ k, shelfOf k W.db = shelfOf k W'.db

/-- A message keeps the two runs alike. -/
lemma Alike.deliver {d W' W1'} (alike : Alike W W')
    (unaffected : ∀ w failure failure' env env', d = .window w failure failure' env env' →
      Unaffected p w failure failure' W W')
    (h : deliver p W d = .ok W1) (h' : deliverOnce p W' d = .ok W1') : Alike W1 W1' := by
  obtain ⟨adm, adm', same⟩ := alike
  cases d with
  | row e =>
    have db := buffer_db h
    have db' := buffer_db h'
    exact ⟨db ▸ adm, db' ▸ adm', by rw [db, db']; exact same⟩
  | again e =>
    have db := buffer_db h
    cases h'
    exact ⟨db ▸ adm, adm', by rw [db]; exact same⟩
  | window w failure failure' env env' =>
    obtain ⟨_, _, applied⟩ := handle_spec h
    obtain ⟨_, _, applied'⟩ := handle_spec h'
    exact ⟨applied.admitted adm, applied'.admitted adm',
      window_shelves adm adm' same (unaffected _ _ _ _ _ rfl) h h'⟩

/-- Where every window is unaffected, the redelivered rows leave no trace in the runbooks. -/
theorem redelivered_rows_without_effect (adm : W.db.Admitted) (unaffected : RunUnaffected p W ds)
    (h : ds.foldlM (deliver p) W = .ok W1) (h' : ds.foldlM (deliverOnce p) W = .ok W2) :
    ∀ k, shelfOf k W1.db = shelfOf k W2.db := by
  suffices alike : Alike W1 W2 from alike.shelves
  induction ds using List.reverseRecOn generalizing W1 W2 with
  | nil =>
    cases h
    cases h'
    exact ⟨adm, adm, fun _ => rfl⟩
  | append_singleton ds d ih =>
    rw [List.foldlM_append] at h h'
    obtain ⟨V, hV, h⟩ := bind_ok h
    obtain ⟨V', hV', h'⟩ := bind_ok h'
    rw [List.foldlM_cons] at h h'
    obtain ⟨_, h, e⟩ := bind_ok h
    obtain ⟨_, h', e'⟩ := bind_ok h'
    cases e
    cases e'
    have alike := ih (fun before w f f' env env' after e => unaffected before w f f' env env'
      (after ++ [d]) (by rw [e]; simp)) hV hV'
    refine alike.deliver (fun w f f' env env' e => ?_) h h'
    subst e
    exact unaffected ds w f f' env env' [] rfl V V' hV hV'

end run

namespace Sample

def empty : World := ⟨{}, episodes⟩

def closes (block : Fin 16) : Delivery := .window window none none (callEnv block) (callEnv block)

/-- One incident is consolidated, and then the rows `rows` of it are redelivered. -/
def redeliveryOf (rows : List ChangeEvent) : List Delivery :=
  [.row alertRow, .row (outcomeRow 0 "success"), closes 2] ++ rows.map .again ++ [closes 3]

/-- The runbooks of the two runs. -/
def runbookNames (rows : List ChangeEvent) : Except Raised (List String × List String) := do
  let W1 ← (redeliveryOf rows).foldlM (deliver processor) empty
  let W2 ← (redeliveryOf rows).foldlM (deliverOnce processor) empty
  return ((shelfOf windowName W1.db).versions.map Runbook.name,
    (shelfOf windowName W2.db).versions.map Runbook.name)

end Sample

/-- The outcome row alone is redelivered: the group it forms has another name, and the window creates
a second runbook from the incident. -/
theorem partial_redelivery_creates : ∃ W1 W2,
    (Sample.redeliveryOf [Sample.outcomeRow 0 "success"]).foldlM (deliver Sample.processor)
      Sample.empty = .ok W1 ∧
    (Sample.redeliveryOf [Sample.outcomeRow 0 "success"]).foldlM (deliverOnce Sample.processor)
      Sample.empty = .ok W2 ∧
    ¬ ∀ k, (shelfOf k W1.db).versions = (shelfOf k W2.db).versions := by
  have run : Sample.runbookNames [Sample.outcomeRow 0 "success"] =
      .ok ([Sample.windowName.name], []) := by decide +kernel
  obtain ⟨W1, h, run⟩ := bind_ok run
  obtain ⟨W2, h', run⟩ := bind_ok run
  refine ⟨W1, W2, h, h', ?_⟩
  intro same
  have names := Prod.mk.inj (Except.ok.inj run)
  rw [same] at names
  cases names.1.symm.trans names.2

namespace Sample

def consolidatedOnce : List Delivery := [.row alertRow, .row (outcomeRow 0 "success"), closes 2]

def allAgain : List Delivery := [.again alertRow, .again (outcomeRow 0 "success")]

/-- Before the last window all groups of the first run are of recorded incidents, and the second run
has none. -/
def lastWindow : Except Raised Bool := do
  let W1 ← (consolidatedOnce ++ allAgain).foldlM (deliver processor) empty
  let W2 ← (consolidatedOnce ++ allAgain).foldlM (deliverOnce processor) empty
  let events ← S3WindowStore.readThrough processor.rt window.watermark W1.bucket
  let events' ← S3WindowStore.readThrough processor.rt window.watermark W2.bucket
  return ((Call.candidates (processor.calls events window.watermark)).all fun c =>
      (ids? c).any fun i => (replayed? i c.name W1.db).isSome) &&
    (Call.candidates (processor.calls events' window.watermark)).isEmpty

/-- The windows of a run in which all rows of an incident are redelivered are unaffected. -/
lemma allAgain_unaffected : RunUnaffected processor empty (consolidatedOnce ++ allAgain ++ [closes 3]) := by
  intro before w f f' env env' after e W1 W2 h h' events events' read read'
  rcases before with _ | ⟨d1, _ | ⟨d2, _ | ⟨d3, _ | ⟨d4, _ | ⟨d5, before⟩⟩⟩⟩⟩
  case cons.cons.nil =>
    -- before the first window the two runs are one
    cases e
    cases h.symm.trans h'
    cases read.symm.trans read'
    refine ⟨?_, ?_⟩
    · rintro before c after e alone
      exact absurd (List.mem_map_of_mem (by rw [e]; simp)) alone
    · rintro before c after e alone
      exact absurd (List.mem_map_of_mem (by rw [e]; simp)) alone
  case cons.cons.cons.cons.cons =>
    obtain ⟨rfl, e⟩ : before = [] ∧ _ := by
      rcases before with _ | ⟨d6, before⟩
      · exact ⟨rfl, e⟩
      · simp [consolidatedOnce, allAgain] at e
    cases e
    have check : lastWindow = .ok true := by decide +kernel
    obtain ⟨V1, hV, check⟩ := bind_ok check
    obtain ⟨V2, hV', check⟩ := bind_ok check
    obtain ⟨_, er, check⟩ := bind_ok check
    obtain ⟨_, er', check⟩ := bind_ok check
    cases h.symm.trans hV
    cases h'.symm.trans hV'
    cases read.symm.trans er
    cases read'.symm.trans er'
    obtain ⟨recorded, none⟩ := Bool.and_eq_true_iff.mp (Except.ok.inj check)
    refine ⟨?_, ?_⟩
    · rintro before c after e _
      obtain ⟨i, hi, counts⟩ := (Option.any_eq_true _ _).mp (List.all_eq_true.mp recorded c (by
        simp only [callsMade] at e
        rw [e]; simp))
      exact .inl ⟨i, hi, Option.isSome_iff_ne_none.mp counts⟩
    · rintro before c after e _
      simp only [callsMade] at e
      rw [List.isEmpty_iff.mp none] at e
      simp at e
  all_goals simp [consolidatedOnce, allAgain, closes] at e

end Sample

/-- `redelivered_rows_without_effect` where all rows of an incident are redelivered. -/
theorem redelivered_rows_without_effect_sample : ∃ W1 W2 : World,
    (Sample.redeliveryOf [Sample.alertRow, Sample.outcomeRow 0 "success"]).foldlM
      (deliver Sample.processor) Sample.empty = .ok W1 ∧ ∀ k, shelfOf k W1.db = shelfOf k W2.db := by
  have run : Sample.runbookNames [Sample.alertRow, Sample.outcomeRow 0 "success"] = .ok ([], []) := by
    decide +kernel
  obtain ⟨W1, h, run⟩ := bind_ok run
  obtain ⟨W2, h', run⟩ := bind_ok run
  exact ⟨W1, W2, h, redelivered_rows_without_effect Sample.episodes_admitted
    Sample.allAgain_unaffected h h'⟩

end Postmortem
