import Postmortem.Consolidation.Pipeline

/-!
# A window that fails and is redelivered

The message of a closed window is redelivered after its handling failed. The redelivered handling
reads the rows that are left, so it applies the groups that were already applied once more, and then
those that were not. On a shelf this is a run of candidates that is repeated (`run_again`); it leaves
the versions of an uninterrupted run exactly where no repeated candidate writes.
-/

namespace Postmortem

open CockroachRunbookRepository

lemma apart_of_lt {a b : CandidateRunbook} (h : a.incident < b.incident) : Shelf.Apart a b :=
  fun e => ne_of_lt h (congrArg toLex e)

namespace Shelf

variable {rt : Runtime} {activation : Activation} {k : RunbookName} {s : Shelf}
  {again due : List CandidateRunbook}

/-- Where a repeated candidate writes, the shelf is ahead for the candidates that follow. -/
lemma ahead_of_writes (sound : s.Sound) (apart : ∀ a ∈ again, ∀ d ∈ due, Apart a d)
    (grows : s.evidence < (Run.run (step rt activation k) s again).evidence) :
    Ahead k due s (Run.run (step rt activation k) s again) := by
  refine ⟨grows, fun known => (run_versions sound).mpr (.inl known), ?_⟩
  intro d hd j hj name mem
  rcases (mem_run_incidents sound).mp mem with old | ⟨before, a, after, rfl, i, hi, name', same, _⟩
  · exact old
  · exfalso
    apply apart a (by simp) d hd
    obtain ⟨org, _, incident⟩ := text_of_ids? hi
    obtain ⟨org', _, incident'⟩ := text_of_ids? hj
    have orgs : i.org = j.org := congrArg RunbookName.org (name'.trans name.symm)
    rw [← org, ← incident, ← org', ← incident', orgs, same]

/-- Repeated candidates before those that are due change nothing exactly where none of them writes. -/
lemma run_again (sound : s.Sound) (apart : ∀ a ∈ again, ∀ d ∈ due, Apart a d)
    (rest : due.Pairwise Apart) :
    (Run.run (step rt activation k) s (again ++ due)).versions =
      (Run.run (step rt activation k) s due).versions ↔ ∀ c ∈ again, ¬ Writes k s c := by
  rw [Run.run_append]
  constructor
  · intro same
    rcases @run_grows rt activation k _ again sound with grows | idle
    · have ahead := ahead_of_writes sound apart grows
      have more := @Ahead.run rt activation k _ _ _ ahead rest sound (run_sound sound)
      rw [evidence, evidence, same] at more
      exact absurd more (Nat.lt_irrefl _)
    · exact idle
  · intro idle
    rw [run_eq_self idle]

end Shelf

/-! ## The redelivery -/

section redelivery

variable (p : ConsolidationProcessor) (w : ClosedWindow) (f : Failure) (W : World)

/-- No group that the redelivered window forms, and that is not due, writes after those that were
applied before the failure. -/
def HarmlessRedelivery : Prop :=
  ∃ events remaining, S3WindowStore.readThrough p.rt w.watermark W.bucket = .ok events ∧
    S3WindowStore.readThrough p.rt w.watermark
      (W.bucket.without (f.keys p.rt (p.calls events w.watermark))) = .ok remaining ∧
    ∀ c ∈ Call.candidates (p.calls remaining w.watermark),
      c ∉ Call.candidates (f.due (p.calls events w.watermark)) →
        Harmless W.db (Call.candidates (f.made (p.calls events w.watermark))) c

end redelivery

section failure

variable {p : ConsolidationProcessor} {f : Failure} {w : ClosedWindow}

lemma keys_groupCalls {groups : List EpisodeGroup} :
    ∀ call ∈ groups.flatMap p.groupCalls, Call.keys p.rt call = [] := by
  intro call hc
  obtain ⟨g, _, hc⟩ := List.mem_flatMap.mp hc
  unfold ConsolidationProcessor.groupCalls at hc
  split at hc
  case h_1 e _ =>
    obtain rfl := List.mem_singleton.mp hc
    rfl
  case h_2 result _ =>
    rcases List.mem_cons.mp hc with rfl | hc
    · rfl
    · obtain rfl := List.mem_singleton.mp hc
      rfl

/-- The candidates of a window are those applied before the failure and those that are due. -/
lemma candidates_failure (f : Failure) (calls : List Call) :
    Call.candidates calls = Call.candidates (f.made calls) ++ Call.candidates (f.due calls) := by
  rw [Call.candidates, Call.candidates, Call.candidates, ← List.filterMap_append, Failure.made,
    Failure.due, List.take_append_drop]

/-- Where a group is due, no row was deleted. -/
lemma keys_of_due {events watermark}
    (h : Call.candidates (f.due (p.calls events watermark)) ≠ []) :
    f.keys p.rt (p.calls events watermark) = [] := by
  have none := @keys_groupCalls p (groupCompletedIncidents p.rt events)
  have marks := @candidates_markProcessed (p.completedEvents events) watermark
  unfold ConsolidationProcessor.calls at h ⊢
  generalize (groupCompletedIncidents p.rt events).flatMap p.groupCalls = groups at *
  generalize ConsolidationProcessor.markProcessed (p.completedEvents events) watermark = mark at *
  -- the failure is in the loop: past it no call applies a candidate
  have loop : f.calls < groups.length := by
    by_contra past
    apply h
    have past := Nat.le_of_not_lt past
    rw [Failure.due, List.drop_append, List.drop_eq_nil_of_le past, List.nil_append]
    apply List.eq_nil_iff_forall_not_mem.mpr
    intro c hc
    have mem : c ∈ Call.candidates mark := ((List.drop_sublist _ _).filterMap _).subset hc
    rw [marks] at mem
    cases mem
  have made : f.made (groups ++ mark) = groups.take f.calls := by
    rw [Failure.made, List.take_append_of_le_length (Nat.le_of_lt loop)]
  have head : (f.due (groups ++ mark)).head? = some groups[f.calls] := by
    rw [Failure.due, List.head?_drop, List.getElem?_append_left loop, List.getElem?_eq_getElem loop]
  rw [Failure.keys, made, head]
  have noneMade : (groups.take f.calls).flatMap (Call.keys p.rt) = [] := by
    rw [List.flatMap_eq_nil_iff]
    exact fun call hc => none call (List.mem_of_mem_take hc)
  simp [noneMade, none _ (List.getElem_mem loop)]

/-- No row is lost where no key was deleted. -/
@[simp] lemma without_nil {b : Bucket} : b.without [] = b := by simp [Bucket.without]

lemma readThrough_congr {rt watermark} {b b' : Bucket} (h : b.pending = b'.pending) :
    S3WindowStore.readThrough rt watermark b = S3WindowStore.readThrough rt watermark b' := by
  rw [S3WindowStore.readThrough, S3WindowStore.readThrough, h]

/-- What a redelivered window applies: the candidates that were due, after others of other incidents. -/
lemma redelivered_candidates {events remaining watermark} {b : Bucket}
    (read : S3WindowStore.readThrough p.rt watermark b = .ok events)
    (reread : S3WindowStore.readThrough p.rt watermark (b.without (f.keys p.rt (p.calls events watermark))) =
      .ok remaining) :
    ∃ repeated,
      Call.candidates (p.calls remaining watermark) =
        repeated ++ Call.candidates (f.due (p.calls events watermark)) ∧
      (∀ c, c ∈ repeated ↔ c ∈ Call.candidates (p.calls remaining watermark) ∧
        c ∉ Call.candidates (f.due (p.calls events watermark))) ∧
      ∀ a ∈ repeated, ∀ d ∈ Call.candidates (f.due (p.calls events watermark)), Shelf.Apart a d := by
  by_cases due : Call.candidates (f.due (p.calls events watermark)) = []
  case pos =>
    exact ⟨Call.candidates (p.calls remaining watermark), by simp [due], by simp [due], by simp [due]⟩
  case neg =>
    -- no row was deleted, so the window forms the groups it formed before
    rw [keys_of_due due, without_nil, read] at reread
    cases reread
    have split := candidates_failure f (p.calls events watermark)
    have sorted := @candidates_sorted p events watermark
    rw [split] at sorted
    obtain ⟨_, _, apart⟩ := List.pairwise_append.mp sorted
    refine ⟨_, split, ?_, fun a ha d hd => apart_of_lt (apart a ha d hd)⟩
    intro c
    rw [split, List.mem_append]
    constructor
    · intro hc
      exact ⟨.inl hc, fun hd => lt_irrefl _ (apart c hc c hd)⟩
    · rintro ⟨made | due, notDue⟩
      · exact made
      · exact absurd due notDue

/-- After a window that failed and was redelivered, the runbooks are those of an uninterrupted
handling exactly where the redelivery is harmless. -/
theorem redelivery_iff {W W1 W' W2 : World} {env env' env'' r r'} (adm : W.db.Admitted)
    (uninterrupted : p.process env W (.closed w) = .ok (W1, r))
    (interrupted : p.fails env' f w W = .ok W')
    (redelivered : p.process env'' W' (.closed w) = .ok (W2, r')) :
    (∀ k, (shelfOf k W2.db).versions = (shelfOf k W1.db).versions) ↔ HarmlessRedelivery p w f W := by
  obtain ⟨events, read, all⟩ := process_spec uninterrupted
  obtain ⟨_, read', applied, pending⟩ := fails_spec interrupted
  cases read.symm.trans read'
  obtain ⟨remaining, reread, again⟩ := process_spec redelivered
  rw [readThrough_congr pending] at reread
  obtain ⟨repeated, all_eq, mem, apart⟩ := redelivered_candidates read reread
  have split := candidates_failure f (p.calls events w.watermark)
  have rest : (Call.candidates (f.due (p.calls events w.watermark))).Pairwise Shelf.Apart := by
    have sorted := @candidates_sorted p events w.watermark
    rw [split] at sorted
    exact (List.pairwise_append.mp sorted).2.1.imp apart_of_lt
  have shelves : ∀ k, (shelfOf k W2.db).versions = (shelfOf k W1.db).versions ↔
      ∀ c ∈ repeated, ¬ Shelf.Writes k (shelfOf k W'.db) c := by
    intro k
    have first := applied.onShelf (k := k) adm
    have one := all.db.onShelf (k := k) adm
    have two := again.db.onShelf (k := k) (applied.admitted adm)
    rw [split, Run.run_append, ← first] at one
    rw [all_eq] at two
    rw [one, two]
    exact Shelf.run_again (shelfOf_sound (applied.admitted adm)) apart rest
  have harmless : ∀ c ∈ repeated, (∀ k, ¬ Shelf.Writes k (shelfOf k W'.db) c) ↔
      Harmless W.db (Call.candidates (f.made (p.calls events w.watermark))) c := by
    intro c hc
    obtain ⟨i, hi⟩ := Option.ne_none_iff_exists'.mp
      (again.db.stored c (by rw [all_eq]; exact List.mem_append_left _ hc))
    rw [@harmless_iff p.rt p.activation _ _ _ _ adm hi applied.stored,
      ← applied.onShelf adm]
    refine ⟨fun idle => idle _, ?_⟩
    rintro idle k writes
    obtain ⟨j, hj, rfl, _⟩ := id writes
    cases hi.symm.trans hj
    exact idle writes
  calc (∀ k, (shelfOf k W2.db).versions = (shelfOf k W1.db).versions)
      ↔ ∀ k, ∀ c ∈ repeated, ¬ Shelf.Writes k (shelfOf k W'.db) c := forall_congr' shelves
    _ ↔ ∀ c ∈ repeated, ∀ k, ¬ Shelf.Writes k (shelfOf k W'.db) c :=
        ⟨fun h c hc k => h k c hc, fun h k c hc => h c hc k⟩
    _ ↔ ∀ c ∈ repeated, Harmless W.db (Call.candidates (f.made (p.calls events w.watermark))) c :=
        forall₂_congr harmless
    _ ↔ HarmlessRedelivery p w f W := by
        constructor
        · intro h
          exact ⟨events, remaining, read, reread, fun c hc due => h c ((mem c).mpr ⟨hc, due⟩)⟩
        · rintro ⟨_, _, e, e', h⟩ c hc
          cases read.symm.trans e
          cases reread.symm.trans e'
          obtain ⟨hc, due⟩ := (mem c).mp hc
          exact h c hc due

end failure

namespace Sample

/-- A failed incident and a successful one. -/
def mixed : World := ⟨bucket [outcomeRow 0 "failed", outcomeRow 1 "success"], episodes⟩

/-- The name the model gives both incidents. -/
def windowName : RunbookName := ⟨org, agent, service.text ++ "-incident"⟩

/-- The failures that count against the runbook after an uninterrupted handling, and after one that
fails once the calls `n` are made and is redelivered. -/
def failures (n : Nat) : Except Raised (List Nat × List Nat) := do
  let (W1, _) ← processor.process (callEnv 2) mixed (.closed window)
  let W' ← processor.fails (callEnv 2) ⟨n, []⟩ window mixed
  let (W2, _) ← processor.process (callEnv 3) W' (.closed window)
  return ((shelfOf windowName W1.db).versions.map Runbook.failureCount,
    (shelfOf windowName W2.db).versions.map Runbook.failureCount)

end Sample

/-- A failed incident and then a successful one of the same name: once both are applied and the
deletion of the rows fails, the redelivered window weakens the runbook by the incident that an
uninterrupted handling ignores. -/
theorem redelivery_weakens : ∃ W1 W' W2 r r',
    Sample.processor.process (Sample.callEnv 2) Sample.mixed (.closed Sample.window) = .ok (W1, r) ∧
    Sample.processor.fails (Sample.callEnv 2) ⟨4, []⟩ Sample.window Sample.mixed = .ok W' ∧
    Sample.processor.process (Sample.callEnv 3) W' (.closed Sample.window) = .ok (W2, r') ∧
    ¬ ∀ k, (shelfOf k W2.db).versions = (shelfOf k W1.db).versions := by
  have run : Sample.failures 4 = .ok ([0], [1]) := by decide +kernel
  obtain ⟨⟨W1, r⟩, one, run⟩ := bind_ok run
  obtain ⟨W', failed, run⟩ := bind_ok run
  obtain ⟨⟨W2, r'⟩, two, run⟩ := bind_ok run
  refine ⟨W1, W', W2, r, r', one, failed, two, ?_⟩
  intro same
  have counts : ([0], [1]) = ((shelfOf Sample.windowName W1.db).versions.map Runbook.failureCount,
      (shelfOf Sample.windowName W2.db).versions.map Runbook.failureCount) :=
    (Except.ok.inj run).symm
  rw [same] at counts
  obtain ⟨none, one⟩ := Prod.mk.inj counts
  cases none.trans one.symm

/-- `redelivery_iff` where the handling fails once the first group is applied. -/
theorem redelivery_iff_sample : ∃ W1 W2 : World,
    ((∀ k, (shelfOf k W2.db).versions = (shelfOf k W1.db).versions) ↔
      HarmlessRedelivery Sample.processor Sample.window ⟨2, []⟩ Sample.mixed) := by
  have run : Sample.failures 2 = .ok ([0], [0]) := by decide +kernel
  obtain ⟨⟨W1, r⟩, one, run⟩ := bind_ok run
  obtain ⟨W', failed, run⟩ := bind_ok run
  obtain ⟨⟨W2, r'⟩, two, run⟩ := bind_ok run
  exact ⟨W1, W2, redelivery_iff Sample.episodes_admitted one failed two⟩

end Postmortem
