import Postmortem.Backend.Delivery

/-!
# The order of delivery

The history of an incident is the end of the list of its published events (`historyOf_step`). A put that
overtakes no earlier publication takes the first event that is held for the stream, so the account of every
stream stays a part of that list in its order (`Ordered`), and its beginning where nothing is evicted or shed
(`Numbered`). Then the streams of the incident number the events alike. `overtaken` is a run of two publishers
in which a put overtakes another, and a stream and a later one disagree.
-/

namespace Postmortem

namespace Broker

variable {limits : BrokerLimits} {b : Broker} {o : BrokerOp} {i : Uuid} {n : Nat} {s s' : EventStream}
  {log : List AgentEvent}

/-- The step evicts an event of the incident, or sheds one. -/
def Loses (limits : BrokerLimits) (i : Uuid) (b : Broker) (o : BrokerOp) : Prop :=
  (b.appended i o ≠ [] ∧ limits.historyLimit ≤ (b.historyOf i).length) ∨
    ∃ t ∈ b.putting o, b.Sheds limits o t.1

instance : Decidable (Loses limits i b o) := inferInstanceAs (Decidable (_ ∨ _))

/-! ## The history -/

lemma historyOf_step : (b.step limits o).historyOf i = Run.run (push limits.historyLimit) (b.historyOf i)
    (b.appended i o) := by
  cases o with
  | append p e order =>
    simp only [step, appended]
    by_cases enabled : b.Appends p e order
    · rw [if_pos enabled]
      show (Assoc.get (Assoc.set b.history e.incidentId _) i).getD [] = _
      rw [Assoc.get_set]
      by_cases mine : e.incidentId = i
      · rw [if_pos mine, if_pos ⟨enabled, mine⟩, mine]
        rfl
      · rw [if_neg mine, if_neg fun both => mine both.2]
        rfl
    · rw [if_neg enabled, if_neg fun both => enabled both.1]
      rfl
  | put p =>
    simp only [step]
    split
    case h_1 => rfl
    case h_2 =>
      split
      case h_1 => rfl
      case h_2 => exact onStream_historyOf
  | subscribe n j =>
    simp only [step]
    split
    all_goals rfl
  | next n => exact onStream_historyOf
  | close n =>
    simp only [step]
    split
    all_goals rfl

/-- A ring buffer keeps the end of what it is given. -/
lemma push_suffix {maxlen h e} (suffix : h <:+ log) : push maxlen h e <:+ log ++ [e] := by
  obtain ⟨evicted, rfl⟩ := suffix
  have kept : push maxlen h e <:+ h ++ [e] := List.drop_suffix _ _
  rw [List.append_assoc]
  exact kept.trans (List.suffix_append evicted _)

lemma push_of_room {maxlen h e} (room : h.length < maxlen) : push maxlen h e = h ++ [e] := by
  unfold push
  rw [Nat.sub_eq_zero_of_le room, List.drop_zero]

/-- At most one event is appended. -/
lemma appended_cases : b.appended i o = [] ∨ ∃ e, b.appended i o = [e] := by
  cases o with
  | append p e order =>
    simp only [appended]
    split
    case isTrue => exact .inr ⟨e, rfl⟩
    case isFalse => exact .inl rfl
  | _ => exact .inl rfl

/-- A stream after a step is what became of one, or has just subscribed. -/
lemma stream_of_step (found : (b.step limits o).stream n = some s') :
    (∃ s, b.stream n = some s ∧ s' = b.change limits n o s) ∨
      b.stream n = none ∧ ∃ i, o = .subscribe n i ∧ s' = { incidentId := i, replay := b.historyOf i } := by
  cases before : b.stream n with
  | some s =>
    rw [stream_step limits o before] at found
    exact .inl ⟨s, rfl, (Option.some.inj found).symm⟩
  | none =>
    right
    refine ⟨rfl, ?_⟩
    cases o with
    | append p e order =>
      simp only [step] at found
      split at found
      all_goals cases before.symm.trans found
    | put p =>
      simp only [step] at found
      split at found
      case h_1 => cases before.symm.trans found
      case h_2 =>
        split at found
        case h_1 => cases before.symm.trans found
        case h_2 m rest _ =>
          rw [stream_onStream] at found
          have none : ∀ f : EventStream → EventStream, (if m = n then (b.stream n).map f else b.stream n) = none := by
            intro f
            rw [before]
            split
            all_goals rfl
          cases (none _).symm.trans found
    | subscribe m j =>
      simp only [step] at found
      split at found
      case h_1 => cases before.symm.trans found
      case h_2 =>
        have written : Assoc.get (Assoc.set b.streams m { incidentId := j, replay := b.historyOf j }) n =
            some s' := found
        rw [Assoc.get_set] at written
        split at written
        case isTrue e =>
          subst e
          exact ⟨j, rfl, (Option.some.inj written).symm⟩
        case isFalse => cases before.symm.trans written
    | next m =>
      simp only [step] at found
      rw [stream_onStream, before] at found
      split at found
      all_goals cases found
    | close m =>
      simp only [step] at found
      split at found
      case h_1 => cases before.symm.trans found
      case h_2 t other =>
        have ne : m ≠ n := by
          rintro rfl
          cases before.symm.trans other
        have kept : Assoc.get (Assoc.set b.streams m { t with closed := true }) n = some s' := found
        rw [Assoc.get_set_ne ne] at kept
        cases before.symm.trans kept

/-- The account of a stream that subscribes is the history. -/
lemma account_subscribe (wf : b.Wf) (fresh : b.stream n = none) :
    account n (b.step limits (.subscribe n i)) { incidentId := i, replay := b.historyOf i } = b.historyOf i := by
  obtain ⟨_, _, pubs⟩ := subscribe_stream limits i fresh
  unfold account backlog
  rw [pubs, heldFor_fresh wf fresh]
  simp

/-! ## In the order of the history -/

/-- What a stream has delivered or is due to deliver stands in the order of the published events. -/
structure Ordered (i : Uuid) (log : List AgentEvent) (b : Broker) : Prop where
  wf : b.Wf
  history : b.historyOf i <:+ log
  account : ∀ n s, b.stream n = some s → s.incidentId = i → (Broker.account n b s).Sublist log

lemma Ordered.step (h : Ordered i log b) (fair : ¬ b.Overtakes o) :
    Ordered i (log ++ b.appended i o) (b.step limits o) := by
  constructor
  case wf => exact h.wf.step
  case history =>
    rw [historyOf_step]
    obtain none | ⟨e, some⟩ := @appended_cases b o i
    · rw [none, List.append_nil]
      exact h.history
    · rw [some]
      exact push_suffix h.history
  case account =>
    intro n s' found incident
    obtain ⟨s, before, rfl⟩ | ⟨fresh, j, rfl, rfl⟩ := stream_of_step found
    · have mine : s.incidentId = i := change_incidentId.symm.trans incident
      have sub := h.account n s before mine
      have accounts := step_accounts limits o h.wf before
      rw [mine] at accounts
      generalize Broker.account n b s = l at sub accounts
      generalize Broker.account n (b.step limits o) (b.change limits n o s) = l' at accounts ⊢
      generalize b.appended i o = emitted at accounts ⊢
      cases accounts with
      | kept => simpa using sub
      | @received _ e => exact sub.append (List.Sublist.refl [e])
      | missed => exact sub.trans (List.sublist_append_left _ _)
      | @moved read early e late order =>
        have first : early = [] := by
          by_contra held
          exact fair (order held)
        subst first
        simpa using sub
      | @shed read early e late full order =>
        have first : early = [] := by
          by_contra held
          exact fair (order held)
        subst first
        rw [List.append_nil]
        have less : (read ++ late).Sublist (read ++ e :: late) :=
          (List.Sublist.refl read).append (List.sublist_cons_self e late)
        exact less.trans sub
    · cases incident
      rw [account_subscribe h.wf fresh]
      exact h.history.sublist.trans (List.sublist_append_left _ _)

/-- Nothing was evicted, and the account of every stream is the published events up to some point, which is
now for a subscriber. -/
structure Numbered (i : Uuid) (log : List AgentEvent) (b : Broker) : Prop where
  wf : b.Wf
  history : b.historyOf i = log
  account : ∀ n s, b.stream n = some s → s.incidentId = i →
    Broker.account n b s <+: log ∧ (n ∈ b.subscribersOf i → Broker.account n b s = log)

lemma Numbered.step (h : Numbered i log b) (fair : ¬ b.Overtakes o) (kept : ¬ Loses limits i b o) :
    Numbered i (log ++ b.appended i o) (b.step limits o) := by
  have history : (b.step limits o).historyOf i = log ++ b.appended i o := by
    rw [historyOf_step]
    obtain none | ⟨e, some⟩ := @appended_cases b o i
    · rw [none, List.append_nil]
      exact h.history
    · have room : (b.historyOf i).length < limits.historyLimit := by
        by_contra full
        exact kept (.inl ⟨by simp [some], Nat.not_lt.mp full⟩)
      rw [some, ← h.history]
      exact push_of_room room
  constructor
  case wf => exact h.wf.step
  case history => exact history
  case account =>
    intro n s' found incident
    obtain ⟨s, before, rfl⟩ | ⟨fresh, j, rfl, rfl⟩ := stream_of_step found
    · have mine : s.incidentId = i := change_incidentId.symm.trans incident
      obtain ⟨upTo, now⟩ := h.account n s before mine
      have subscribed : n ∈ (b.step limits o).subscribersOf i → n ∈ b.subscribersOf i := by
        intro mem
        obtain mem | ⟨fresh, _⟩ := mem_of_mem_step mem
        · exact mem
        · cases before.symm.trans fresh
      have accounts := step_accounts limits o h.wf before
      rw [mine] at accounts
      generalize Broker.account n b s = l at upTo now accounts
      generalize Broker.account n (b.step limits o) (b.change limits n o s) = l' at accounts ⊢
      generalize b.appended i o = emitted at accounts ⊢
      cases accounts with
      | kept =>
        rw [List.append_nil]
        exact ⟨upTo, fun mem => now (subscribed mem)⟩
      | received mem =>
        rw [now mem]
        exact ⟨List.prefix_rfl, fun _ => rfl⟩
      | missed out => exact ⟨upTo.trans (List.prefix_append _ _), fun mem => absurd (subscribed mem) out⟩
      | @moved read early e late order =>
        have first : early = [] := by
          by_contra held
          exact fair (order held)
        subst first
        rw [List.append_nil, List.append_assoc]
        exact ⟨upTo, fun mem => now (subscribed mem)⟩
      | shed full =>
        obtain ⟨t, put, rfl, full⟩ := full
        exact absurd (.inr ⟨t, put, t, put, rfl, full⟩) kept
    · cases incident
      have nothing : b.appended j (.subscribe n j) = [] := rfl
      rw [account_subscribe h.wf fresh, h.history, nothing, List.append_nil]
      exact ⟨List.prefix_rfl, fun _ => rfl⟩

lemma ordered_empty : Ordered i [] {} := by
  constructor
  case wf => exact wf_empty
  case history => exact List.suffix_rfl
  case account => rintro n s ⟨⟩

lemma numbered_empty : Numbered i [] {} := by
  constructor
  case wf => exact wf_empty
  case history => rfl
  case account => rintro n s ⟨⟩

lemma delivered_prefix : s.delivered <+: account n b s :=
  (List.prefix_append _ _).trans (List.prefix_append _ _)

/-- A list without repetitions has no two members in both orders. -/
lemma not_reversed {α : Type} {l : List α} {x y : α} (nodup : l.Nodup) (xy : [x, y].Sublist l) :
    ¬ [y, x].Sublist l := by
  induction l with
  | nil => cases xy
  | cons a l ih =>
    obtain ⟨fresh, nodup⟩ := List.nodup_cons.mp nodup
    intro yx
    cases xy with
    | cons _ xy =>
      cases yx with
      | cons _ yx => exact ih nodup xy yx
      | cons_cons _ _ => exact fresh (xy.subset (by simp))
    | cons_cons _ hy =>
      cases yx with
      | cons _ yx => exact fresh (yx.subset (by simp))
      | cons_cons _ _ => exact fresh (hy.subset (by simp))

end Broker

open Broker

/-- Where no put overtakes another, every stream delivers in the order of the history, of which the broker
retains the end, so no two streams deliver two events in opposite orders; and where no event is evicted or
shed, the streams of the incident number the events alike. -/
theorem streams_ordered {limits : BrokerLimits} {ops : List BrokerOp} {i : Uuid}
    (fair : Run.Each (step limits) (fun b o => ¬ Overtakes b o) {} ops) :
    (Run.run (step limits) {} ops).historyOf i <:+ published limits i {} ops ∧
    (∀ n s, (Run.run (step limits) {} ops).stream n = some s → s.incidentId = i →
      s.delivered.Sublist (published limits i {} ops)) ∧
    ((published limits i {} ops).Nodup → ∀ n s m t, (Run.run (step limits) {} ops).stream n = some s →
      (Run.run (step limits) {} ops).stream m = some t → s.incidentId = i → t.incidentId = i →
      ∀ x y, [x, y].Sublist s.delivered → ¬ [y, x].Sublist t.delivered) ∧
    (Run.Each (step limits) (fun b o => ¬ Loses limits i b o) {} ops →
      ∀ n s m t, (Run.run (step limits) {} ops).stream n = some s →
        (Run.run (step limits) {} ops).stream m = some t → s.incidentId = i → t.incidentId = i →
        ∀ k (hs : k < s.delivered.length) (ht : k < t.delivered.length), s.delivered[k] = t.delivered[k]) := by
  have ordered : Ordered i (published limits i {} ops) (Run.run (step limits) {} ops) :=
    Run.run_traced (fun _ _ _ fair h => h.step fair) fair ordered_empty
  have inOrder : ∀ n s, (Run.run (step limits) {} ops).stream n = some s → s.incidentId = i →
      s.delivered.Sublist (published limits i {} ops) := by
    intro n s found incident
    exact delivered_prefix.sublist.trans (ordered.account n s found incident)
  refine ⟨ordered.history, inOrder, ?_, ?_⟩
  · intro nodup n s m t hs ht is it x y xy yx
    exact not_reversed nodup (xy.trans (inOrder n s hs is)) (yx.trans (inOrder m t ht it))
  · intro kept n s m t hs ht is it k ks kt
    have numbered : Numbered i (published limits i {} ops) (Run.run (step limits) {} ops) :=
      Run.run_traced (fun _ _ _ c h => h.step c.1 c.2) (fair.and kept) numbered_empty
    have ps : s.delivered <+: published limits i {} ops := delivered_prefix.trans (numbered.account n s hs is).1
    have pt : t.delivered <+: published limits i {} ops := delivered_prefix.trans (numbered.account m t ht it).1
    rw [List.IsPrefix.getElem ps ks, List.IsPrefix.getElem pt kt]

namespace Sample

/-- Two publishers, of which the first is overtaken or not, and a stream that reads both events. -/
def twoPublishers (puts : List BrokerOp) : List BrokerOp :=
  [.subscribe 0 (.sample 3), .append 0 (published "first") [0], .append 1 (published "second") [0]] ++ puts ++
    [.next 0, .next 0, .subscribe 1 (.sample 3), .next 1, .next 1]

/-- The broker after them. -/
def afterPuts (puts : List BrokerOp) : Broker := Run.run (step {}) {} (twoPublishers puts)

end Sample

/-- The puts in the order of the appends. -/
theorem streams_ordered_sample : ∃ s t,
    (Sample.afterPuts [.put 0, .put 1]).stream 0 = some s ∧ (Sample.afterPuts [.put 0, .put 1]).stream 1 = some t ∧
      ∀ k (hs : k < s.delivered.length) (ht : k < t.delivered.length), s.delivered[k] = t.delivered[k] := by
  have fair : Run.Each (step {}) (fun b o => ¬ Overtakes b o) {} (Sample.twoPublishers [.put 0, .put 1]) := by
    decide +kernel
  have kept : Run.Each (step {}) (fun b o => ¬ Loses {} (.sample 3) b o) {}
      (Sample.twoPublishers [.put 0, .put 1]) := by
    decide +kernel
  obtain ⟨_, _, _, numbers⟩ := @streams_ordered {} _ (.sample 3) fair
  exact ⟨_, _, rfl, rfl, numbers kept 0 _ 1 _ rfl rfl rfl rfl⟩

/-- The second publisher puts first. The stream delivers the second event before the first, which stands
first in the history; a stream that subscribes later delivers them as they stand there. -/
theorem overtaken :
    (Sample.afterPuts [.put 1, .put 0]).historyOf (.sample 3) =
        [Sample.published "first", Sample.published "second"] ∧
      ((Sample.afterPuts [.put 1, .put 0]).stream 0).map EventStream.delivered =
        some [Sample.published "second", Sample.published "first"] ∧
      ((Sample.afterPuts [.put 1, .put 0]).stream 1).map EventStream.delivered =
        some [Sample.published "first", Sample.published "second"] := by
  decide +kernel

end Postmortem
