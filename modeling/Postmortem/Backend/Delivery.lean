import Postmortem.Backend.Events
import Mathlib.Data.List.Infix

/-!
# What the streams deliver

An event of a stream's incident is replayed, waits in its queue, or is held by a publisher between its append
and its put; `account` is all of them after the events the stream has delivered, and `step_accounts` is what
one step does to it. A step adds the event it appends (`received`), moves an event from a publisher to the
queue (`moved`) or loses it there (`shed`). So no stream misses or repeats an event while its queue has room
(`stream_exactly_once`), whatever the threads do. The order is that of the history where no put overtakes an
earlier publication that still has to be put to the same stream (`streams_ordered`), which the lock does not
see to: it is released before the puts (`overtaken`).
-/

namespace Postmortem

namespace Broker

variable {limits : BrokerLimits} {b : Broker} {o : BrokerOp} {i j : Uuid} {n m p : Nat} {s : EventStream}
  {f : EventStream → EventStream}

/-! ## Streams -/

lemma stream_onStream : (b.onStream n f).stream m = if n = m then (b.stream m).map f else b.stream m := by
  cases h : b.stream n with
  | none =>
    simp only [onStream, h]
    split
    case isTrue e =>
      rw [← e, h]
      rfl
    case isFalse => rfl
  | some s =>
    simp only [onStream, h]
    show Assoc.get (Assoc.set b.streams n (f s)) m = _
    rw [Assoc.get_set]
    split
    case isTrue e =>
      rw [← e, h]
      rfl
    case isFalse => rfl

@[simp] lemma onStream_publications : (b.onStream n f).publications = b.publications := by
  unfold onStream
  split
  all_goals rfl

@[simp] lemma onStream_subscribersOf : (b.onStream n f).subscribersOf i = b.subscribersOf i := by
  unfold onStream
  split
  all_goals rfl

@[simp] lemma onStream_historyOf : (b.onStream n f).historyOf i = b.historyOf i := by
  unfold onStream
  split
  all_goals rfl

/-! ## Publications -/

/-- The put that the step makes: the stream and the event. -/
def putting (b : Broker) : BrokerOp → Option (Nat × AgentEvent)
  | .put publisher =>
    match b.publishing publisher with
    | none => none
    | some x => x.remaining.head?.map fun n => (n, x.event)
  | _ => none

/-- The publications with an earlier append than the publisher's. -/
def earlier (b : Broker) : BrokerOp → List Publication
  | .put publisher => b.publications.takeWhile fun x => x.publisher ≠ publisher
  | _ => []

/-- The events that publishers still have to put to the stream, in the order of their appends. -/
def heldFor (n : Nat) (l : List Publication) : List AgentEvent :=
  l.filterMap fun x => if n ∈ x.remaining then some x.event else none

lemma heldFor_append {l l' : List Publication} : heldFor n (l ++ l') = heldFor n l ++ heldFor n l' :=
  List.filterMap_append

/-- What is left of a publication after a turn of its loop. -/
def turned (x : Publication) : List Publication :=
  match x.remaining with
  | [] => []
  | _ :: remaining => [{ x with remaining }]

/-- A turn changes the publication of the publisher, where it stands. -/
lemma advance_eq {l : List Publication} {x} (h : (l.find? fun x => x.publisher = p) = some x) :
    ∃ later, l = (l.takeWhile fun x => x.publisher ≠ p) ++ x :: later ∧
      advance p l = (l.takeWhile fun x => x.publisher ≠ p) ++ (turned x ++ later) := by
  induction l with
  | nil => cases h
  | cons y l ih =>
    by_cases e : y.publisher = p
    · rw [List.find?_cons_of_pos (by simpa using e)] at h
      cases h
      refine ⟨l, by simp [e], ?_⟩
      unfold advance turned
      rw [if_pos e]
      cases x.remaining with
      | nil => simp [e]
      | cons => simp [e]
    · rw [List.find?_cons_of_neg (by simpa using e)] at h
      obtain ⟨later, split, advanced⟩ := ih h
      refine ⟨later, by simpa [e] using split, ?_⟩
      unfold advance
      rw [if_neg e, advanced]
      simp [e]

/-! ## What every run keeps -/

/-- The stream exists and is one of the incident. -/
def Streams (b : Broker) (i : Uuid) (n : Nat) : Prop := ∃ s, b.stream n = some s ∧ s.incidentId = i

/-- Subscribers are distinct streams of their incident, and a publication is put to each at most once. -/
structure Wf (b : Broker) : Prop where
  distinct : ∀ i, (b.subscribersOf i).Nodup
  subscribed : ∀ i, ∀ n ∈ b.subscribersOf i, b.Streams i n
  once : ∀ x ∈ b.publications, x.remaining.Nodup
  held : ∀ x ∈ b.publications, ∀ n ∈ x.remaining, b.Streams x.event.incidentId n

lemma wf_empty : ({} : Broker).Wf := by
  constructor
  case distinct => exact fun _ => List.nodup_nil
  case subscribed => exact fun _ => List.forall_mem_nil _
  case once => exact List.forall_mem_nil _
  case held => exact List.forall_mem_nil _

/-- What the step does to a stream that exists. -/
def change (limits : BrokerLimits) (b : Broker) (n : Nat) : BrokerOp → EventStream → EventStream
  | .put publisher, s =>
    match b.putting (.put publisher) with
    | some (m, event) => if m = n then s.put limits event else s
    | none => s
  | .next m, s => if m = n then s.next else s
  | .close m, s => if m = n then { s with closed := true } else s
  | _, s => s

variable (limits o) in
lemma stream_step (h : b.stream n = some s) :
    (b.step limits o).stream n = some (b.change limits n o s) := by
  cases o with
  | append publisher event order =>
    simp only [step, change]
    split
    all_goals exact h
  | put publisher =>
    simp only [step, change, putting]
    cases b.publishing publisher with
    | none => exact h
    | some x =>
      cases left : x.remaining with
      | nil =>
        simp only [left]
        exact h
      | cons m rest =>
        simp only [left]
        rw [stream_onStream]
        show (if m = n then Option.map _ (b.stream n) else b.stream n) = some (if m = n then _ else s)
        rw [h]
        split
        all_goals rfl
  | subscribe m i =>
    simp only [step, change]
    split
    case h_1 => exact h
    case h_2 fresh =>
      have ne : m ≠ n := by
        rintro rfl
        rw [h] at fresh
        cases fresh
      show Assoc.get (Assoc.set b.streams m _) n = _
      rw [Assoc.get_set_ne ne]
      exact h
  | next m =>
    simp only [step, change]
    rw [stream_onStream, h]
    split
    all_goals rfl
  | close m =>
    simp only [step, change]
    split
    case h_1 none =>
      have ne : m ≠ n := by
        rintro rfl
        rw [h] at none
        cases none
      rw [if_neg ne]
      exact h
    case h_2 t found =>
      show Assoc.get (Assoc.set b.streams m _) n = _
      rw [Assoc.get_set]
      split
      case isTrue e =>
        subst e
        rw [h] at found
        cases found
        rfl
      case isFalse => exact h

lemma change_incidentId : (b.change limits n o s).incidentId = s.incidentId := by
  unfold change EventStream.put EventStream.next
  split
  all_goals repeat' split
  all_goals rfl

lemma Streams.step (h : b.Streams i n) : (b.step limits o).Streams i n := by
  obtain ⟨s, found, incident⟩ := h
  exact ⟨_, stream_step limits o found, change_incidentId.trans incident⟩

lemma get_discard : (Assoc.get (b.discard i n) j).getD [] =
    if i = j then (b.subscribersOf i).erase n else b.subscribersOf j := by
  simp only [discard]
  split
  case isTrue empty =>
    rw [Assoc.get_erase]
    split
    case isTrue => exact (List.isEmpty_iff.mp empty).symm
    case isFalse => rfl
  case isFalse =>
    rw [Assoc.get_set]
    split
    all_goals rfl

/-- What the step does to the subscribers of the incident. -/
def resubscribe (b : Broker) (i : Uuid) : BrokerOp → List Nat → List Nat
  | .subscribe n j, l => if b.stream n = none ∧ j = i then l ++ [n] else l
  | .close n, l => if (b.stream n).map EventStream.incidentId = some i then l.erase n else l
  | _, l => l

lemma subscribersOf_step : (b.step limits o).subscribersOf i = b.resubscribe i o (b.subscribersOf i) := by
  cases o with
  | append publisher event order =>
    simp only [step, resubscribe]
    split
    all_goals rfl
  | put publisher =>
    simp only [step, resubscribe]
    split
    case h_1 => rfl
    case h_2 =>
      split
      case h_1 => rfl
      case h_2 => exact onStream_subscribersOf
  | subscribe n j =>
    simp only [step, resubscribe]
    split
    case h_1 found => simp [found]
    case h_2 fresh =>
      show (Assoc.get (Assoc.set b.subscribers j _) i).getD [] = _
      rw [Assoc.get_set]
      by_cases e : j = i
      · simp [fresh, e]
      · rw [if_neg e, if_neg fun h => e h.2]
        rfl
  | next n =>
    simp only [step, resubscribe]
    exact onStream_subscribersOf
  | close n =>
    simp only [step, resubscribe]
    split
    case h_1 none => simp [none]
    case h_2 s found =>
      show (Assoc.get (b.discard s.incidentId n) i).getD [] = _
      rw [get_discard, found]
      by_cases e : s.incidentId = i
      · simp [e]
      · simp [e]

/-- A subscriber after a step was one before, or its stream is new. -/
lemma mem_of_mem_step (mem : n ∈ (b.step limits o).subscribersOf i) :
    n ∈ b.subscribersOf i ∨ b.stream n = none ∧ o = .subscribe n i := by
  rw [subscribersOf_step] at mem
  cases o with
  | subscribe m j =>
    simp only [resubscribe] at mem
    split at mem
    case isTrue fresh =>
      obtain ⟨fresh, rfl⟩ := fresh
      rcases List.mem_append.mp mem with mem | mem
      · exact .inl mem
      · cases List.mem_singleton.mp mem
        exact .inr ⟨fresh, rfl⟩
    case isFalse => exact .inl mem
  | close m =>
    simp only [resubscribe] at mem
    split at mem
    case isTrue => exact .inl (List.mem_of_mem_erase mem)
    case isFalse => exact .inl mem
  | _ => exact .inl mem

/-- A subscriber stays one until its stream is closed. -/
lemma mem_step_of_mem (mem : n ∈ b.subscribersOf i) (opened : o ≠ .close n) :
    n ∈ (b.step limits o).subscribersOf i := by
  rw [subscribersOf_step]
  cases o with
  | subscribe m j =>
    simp only [resubscribe]
    split
    case isTrue => exact List.mem_append_left _ mem
    case isFalse => exact mem
  | close m =>
    have ne : n ≠ m := by
      rintro rfl
      exact opened rfl
    simp only [resubscribe]
    split
    case isTrue => exact (List.mem_erase_of_ne ne).mpr mem
    case isFalse => exact mem
  | _ => exact mem

lemma publications_put {x} (found : b.publishing p = some x) :
    ∃ later, b.publications = b.earlier (.put p) ++ x :: later ∧
      (b.step limits (.put p)).publications = b.earlier (.put p) ++ (turned x ++ later) := by
  obtain ⟨later, split, advanced⟩ := advance_eq found
  refine ⟨later, split, ?_⟩
  simp only [step, found]
  cases x.remaining with
  | nil => exact advanced
  | cons => exact onStream_publications.trans advanced

/-- What the step does to the publications. -/
lemma publications_step : (b.step limits o).publications = b.publications ∨
    (∃ p e order, o = .append p e order ∧ b.Appends p e order ∧
      (b.step limits o).publications = b.publications ++ [⟨p, e, order⟩]) ∨
    ∃ p x later, o = .put p ∧ b.publishing p = some x ∧ b.publications = b.earlier o ++ x :: later ∧
      (b.step limits o).publications = b.earlier o ++ (turned x ++ later) := by
  cases o with
  | append p e order =>
    simp only [step]
    split
    case isTrue h => exact .inr (.inl ⟨p, e, order, rfl, h, rfl⟩)
    case isFalse => exact .inl rfl
  | put p =>
    cases found : b.publishing p with
    | none =>
      left
      simp only [step, found]
    | some x =>
      obtain ⟨later, split, turn⟩ := publications_put found
      exact .inr (.inr ⟨p, x, later, rfl, found, split, turn⟩)
  | subscribe n i =>
    left
    simp only [step]
    split
    all_goals rfl
  | next n => exact .inl onStream_publications
  | close n =>
    left
    simp only [step]
    split
    all_goals rfl

lemma Wf.distinct_step (wf : b.Wf) : ((b.step limits o).subscribersOf i).Nodup := by
  rw [subscribersOf_step]
  cases o with
  | subscribe n j =>
    simp only [resubscribe]
    split
    case isTrue fresh =>
      have new : n ∉ b.subscribersOf i := by
        intro mem
        obtain ⟨s, found, _⟩ := wf.subscribed i n mem
        rw [found] at fresh
        cases fresh.1
      exact (List.nodup_append_comm.mp (List.nodup_cons.mpr ⟨new, wf.distinct i⟩))
    case isFalse => exact wf.distinct i
  | close n =>
    simp only [resubscribe]
    split
    case isTrue => exact (wf.distinct i).erase n
    case isFalse => exact wf.distinct i
  | _ => exact wf.distinct i

/-- A publication after a step is a new one, to the subscribers of its incident, or what is left of one. -/
lemma mem_publications_step {x} (mem : x ∈ (b.step limits o).publications) :
    x.remaining.Perm (b.subscribersOf x.event.incidentId) ∨
      ∃ y ∈ b.publications, x.event = y.event ∧ x.remaining.Sublist y.remaining := by
  obtain same | ⟨p, e, order, rfl, ⟨_, perm⟩, appended⟩ | ⟨p, y, later, rfl, _, split, turn⟩ :=
    @publications_step limits b o
  · rw [same] at mem
    exact .inr ⟨x, mem, rfl, List.Sublist.refl _⟩
  · rw [appended] at mem
    rcases List.mem_append.mp mem with mem | mem
    · exact .inr ⟨x, mem, rfl, List.Sublist.refl _⟩
    · cases List.mem_singleton.mp mem
      exact .inl perm
  · rw [turn, ← List.append_assoc] at mem
    right
    rcases List.mem_append.mp mem with mem | mem
    · rcases List.mem_append.mp mem with mem | mem
      · refine ⟨x, ?_, rfl, List.Sublist.refl _⟩
        rw [split]
        exact List.mem_append_left _ mem
      · refine ⟨y, ?_, ?_⟩
        · rw [split]
          exact List.mem_append_right _ List.mem_cons_self
        · unfold turned at mem
          split at mem
          case h_1 => cases mem
          case h_2 left =>
            cases List.mem_singleton.mp mem
            rw [left]
            exact ⟨rfl, List.sublist_cons_self _ _⟩
    · refine ⟨x, ?_, rfl, List.Sublist.refl _⟩
      rw [split]
      exact List.mem_append_right _ (List.mem_cons_of_mem _ mem)

lemma Wf.step (wf : b.Wf) : (b.step limits o).Wf := by
  constructor
  case distinct => exact fun i => wf.distinct_step
  case subscribed =>
    intro i n mem
    obtain mem | ⟨fresh, rfl⟩ := mem_of_mem_step mem
    · exact (wf.subscribed i n mem).step
    · refine ⟨{ incidentId := i, replay := b.historyOf i }, ?_, rfl⟩
      simp only [Broker.step, fresh]
      exact Assoc.get_set_self
  case once =>
    intro x mem
    obtain perm | ⟨y, hy, _, sub⟩ := mem_publications_step mem
    · exact perm.nodup_iff.mpr (wf.distinct _)
    · exact (wf.once y hy).sublist sub
  case held =>
    intro x mem n hn
    obtain perm | ⟨y, hy, e, sub⟩ := mem_publications_step mem
    · exact (wf.subscribed _ n (perm.mem_iff.mp hn)).step
    · rw [e]
      exact (wf.held y hy n (sub.subset hn)).step

lemma run_wf {ops} (wf : b.Wf) : (Run.run (Broker.step limits) b ops).Wf :=
  Run.run_invariant (fun _ _ _ wf => wf.step) wf

/-! ## The account of a stream -/

/-- What the stream has delivered, and what it still has to read. -/
def backlog (s : EventStream) : List AgentEvent := s.replay ++ s.queue

/-- Every event the stream has delivered or is due to deliver. -/
def account (n : Nat) (b : Broker) (s : EventStream) : List AgentEvent :=
  s.delivered ++ backlog s ++ heldFor n b.publications

/-- The step puts to the full queue of the stream. -/
def Sheds (limits : BrokerLimits) (b : Broker) (o : BrokerOp) (n : Nat) : Prop :=
  ∃ t ∈ b.putting o, t.1 = n ∧ ∃ s ∈ b.stream n, s.full limits = true

/-- The step puts to a stream for which an earlier publication is still held. -/
def Overtakes (b : Broker) (o : BrokerOp) : Prop :=
  ∃ t ∈ b.putting o, heldFor t.1 (b.earlier o) ≠ []

instance : Decidable (b.Sheds limits o n) := inferInstanceAs (Decidable (∃ t ∈ b.putting o, _))

instance : Decidable (b.Overtakes o) := inferInstanceAs (Decidable (∃ t ∈ b.putting o, _))

/-- What a step may do to the account of a stream, and what it appends to the stream's incident. -/
inductive Accounts (limits : BrokerLimits) (b : Broker) (o : BrokerOp) (n : Nat) (subscribed : Prop) :
    List AgentEvent → List AgentEvent → List AgentEvent → Prop where
  | kept {l} : Accounts limits b o n subscribed l l []
  | received {l e} (mem : subscribed) : Accounts limits b o n subscribed l (l ++ [e]) [e]
  | missed {l e} (mem : ¬ subscribed) : Accounts limits b o n subscribed l l [e]
  | moved {read early e late} (order : early ≠ [] → Overtakes b o) :
    Accounts limits b o n subscribed (read ++ (early ++ e :: late)) (read ++ [e] ++ (early ++ late)) []
  | shed {read early e late} (full : Sheds limits b o n) (order : early ≠ [] → Overtakes b o) :
    Accounts limits b o n subscribed (read ++ (early ++ e :: late)) (read ++ (early ++ late)) []

lemma next_read : s.next.delivered ++ backlog s.next = s.delivered ++ backlog s := by
  unfold EventStream.next backlog
  split
  case isTrue => rfl
  case isFalse =>
    split
    case h_1 replayed => simp [replayed]
    case h_2 empty queued => simp [empty, queued]
    case h_3 => rfl

lemma heldFor_singleton {x : Publication} :
    heldFor n [x] = if n ∈ x.remaining then [x.event] else [] := by
  unfold heldFor
  split
  case isTrue mem => simp [mem]
  case isFalse out => simp [out]

/-- A turn takes the event of the publication from the stream it is put to, and from no other. -/
lemma heldFor_turned {x : Publication} (once : x.remaining.Nodup) :
    heldFor n (turned x) = if x.remaining.head? = some n then [] else heldFor n [x] := by
  unfold turned
  cases left : x.remaining with
  | nil =>
    rw [heldFor_singleton, left]
    simp [heldFor]
  | cons m rest =>
    rw [heldFor_singleton, heldFor_singleton, left]
    rw [left, List.nodup_cons] at once
    by_cases e : m = n
    · subst e
      simp [once.1]
    · have ne : n ≠ m := fun h => e h.symm
      simp [e, ne]

/-- An event is appended: the streams of its incident that are subscribed will receive it. -/
lemma append_accounts {p : Nat} {e : AgentEvent} {order : List Nat} (wf : b.Wf) (h : b.stream n = some s) :
    Accounts limits b (.append p e order) n (n ∈ b.subscribersOf s.incidentId) (account n b s)
      (account n (b.step limits (.append p e order)) (b.change limits n (.append p e order) s))
      (b.appended s.incidentId (.append p e order)) := by
  by_cases enabled : b.Appends p e order
  · have pubs : (b.step limits (.append p e order)).publications = b.publications ++ [⟨p, e, order⟩] := by
      simp only [step, if_pos enabled]
    have reached : n ∈ order ↔ n ∈ b.subscribersOf e.incidentId := enabled.2.mem_iff
    unfold account
    rw [pubs, heldFor_append, heldFor_singleton, ← List.append_assoc]
    simp only [change, reached]
    by_cases mine : e.incidentId = s.incidentId
    · have emitted : b.appended s.incidentId (.append p e order) = [e] := if_pos ⟨enabled, mine⟩
      rw [emitted, mine]
      by_cases mem : n ∈ b.subscribersOf s.incidentId
      · rw [if_pos mem]
        exact .received mem
      · rw [if_neg mem, List.append_nil]
        exact .missed mem
    · have emitted : b.appended s.incidentId (.append p e order) = [] := if_neg fun both => mine both.2
      have out : n ∉ b.subscribersOf e.incidentId := by
        intro mem
        obtain ⟨t, found, incident⟩ := wf.subscribed _ n mem
        cases h.symm.trans found
        exact mine incident.symm
      rw [emitted, if_neg out, List.append_nil]
      exact .kept
  · have same : b.step limits (.append p e order) = b := by
      simp only [step, if_neg enabled]
    have emitted : b.appended s.incidentId (.append p e order) = [] := if_neg fun both => enabled both.1
    rw [same, emitted]
    exact .kept

/-- A publisher puts its event into the next queue, or sheds it where the queue is full. -/
lemma put_accounts {p : Nat} (wf : b.Wf) (h : b.stream n = some s) :
    Accounts limits b (.put p) n (n ∈ b.subscribersOf s.incidentId) (account n b s)
      (account n (b.step limits (.put p)) (b.change limits n (.put p) s)) (b.appended s.incidentId (.put p)) := by
  cases publishing : b.publishing p with
  | none =>
    have same : b.step limits (.put p) = b := by
      simp only [step, publishing]
    have idle : b.change limits n (.put p) s = s := by
      simp only [change, putting, publishing]
    rw [same, idle]
    exact .kept
  | some x =>
    obtain ⟨later, split, turn⟩ := @publications_put limits b p x publishing
    have once : x.remaining.Nodup := by
      apply wf.once x
      rw [split]
      exact List.mem_append_right _ List.mem_cons_self
    have before : heldFor n b.publications =
        heldFor n (b.earlier (.put p)) ++ (heldFor n [x] ++ heldFor n later) := by
      rw [split, heldFor_append, ← heldFor_append (l := [x])]
      rfl
    have after : heldFor n (b.step limits (.put p)).publications =
        heldFor n (b.earlier (.put p)) ++ (heldFor n (turned x) ++ heldFor n later) := by
      rw [turn, heldFor_append, heldFor_append]
    unfold account
    rw [before, after, heldFor_turned once]
    by_cases target : x.remaining.head? = some n
    · have put : b.putting (.put p) = some (n, x.event) := by
        simp only [putting, publishing, target, Option.map_some]
      have mem : n ∈ x.remaining := List.mem_of_head? target
      have order : heldFor n (b.earlier (.put p)) ≠ [] → b.Overtakes (.put p) := by
        intro held
        exact ⟨_, put, held⟩
      have changed : b.change limits n (.put p) s = s.put limits x.event := by
        simp only [change, put, if_true]
      rw [if_pos target, heldFor_singleton, if_pos mem, changed]
      unfold EventStream.put
      cases full : s.full limits with
      | true =>
        rw [if_pos rfl]
        exact .shed ⟨_, put, rfl, s, h, full⟩ order
      | false =>
        have read : s.delivered ++ backlog { s with queue := s.queue ++ [x.event] } =
            s.delivered ++ backlog s ++ [x.event] := by
          simp [backlog]
        rw [if_neg Bool.false_ne_true, read]
        exact .moved order
    · have elsewhere : b.change limits n (.put p) s = s := by
        simp only [change, putting, publishing]
        cases left : x.remaining with
        | nil => rfl
        | cons m rest =>
          have ne : m ≠ n := by
            rintro rfl
            rw [left] at target
            exact target rfl
          simp [ne]
      rw [if_neg target, elsewhere]
      exact .kept

variable (limits o) in
lemma step_accounts (wf : b.Wf) (h : b.stream n = some s) :
    Accounts limits b o n (n ∈ b.subscribersOf s.incidentId) (account n b s)
      (account n (b.step limits o) (b.change limits n o s)) (b.appended s.incidentId o) := by
  cases o with
  | append p e order => exact append_accounts wf h
  | put p => exact put_accounts wf h
  | subscribe m j =>
    have same : (b.step limits (.subscribe m j)).publications = b.publications := by
      simp only [step]
      split
      all_goals rfl
    unfold account
    rw [same]
    exact .kept
  | next m =>
    have same : (b.step limits (.next m)).publications = b.publications := onStream_publications
    unfold account
    rw [same]
    simp only [change]
    split
    case isTrue =>
      rw [next_read]
      exact .kept
    case isFalse => exact .kept
  | close m =>
    have same : (b.step limits (.close m)).publications = b.publications := by
      simp only [step]
      split
      all_goals rfl
    unfold account
    rw [same]
    simp only [change]
    split
    all_goals exact .kept

/-- The events the operations append to the history of the incident. -/
def published (limits : BrokerLimits) (i : Uuid) (b : Broker) (ops : List BrokerOp) : List AgentEvent :=
  Run.trace (step limits) (fun b o => b.appended i o) b ops

/-! ## Every event exactly once -/

/-- A stream that is read gives what it has to read, in order. -/
lemma next_opened (opened : s.closed = false) :
    s.next.closed = false ∧ ∀ k, s.delivered ++ (backlog s).take (k + 1) =
      s.next.delivered ++ (backlog s.next).take k := by
  unfold EventStream.next backlog
  rw [opened, if_neg Bool.false_ne_true]
  split
  case h_1 e replay _ replayed =>
    refine ⟨rfl, fun k => ?_⟩
    simp [replayed]
  case h_2 empty queued =>
    refine ⟨rfl, fun k => ?_⟩
    simp [empty, queued]
  case h_3 empty queued =>
    refine ⟨opened, fun k => ?_⟩
    simp [empty, queued]

variable (limits b s) in
/-- Other steps leave what it has to read, and may add to it. -/
lemma change_other (unread : o ≠ .next n) (opened : o ≠ .close n) :
    (b.change limits n o s).closed = s.closed ∧ (b.change limits n o s).delivered = s.delivered ∧
      backlog s <+: backlog (b.change limits n o s) := by
  cases o with
  | put p =>
    simp only [change]
    split
    case h_1 m e _ =>
      split
      case isTrue =>
        unfold EventStream.put
        split
        case isTrue => exact ⟨rfl, rfl, List.prefix_rfl⟩
        case isFalse =>
          refine ⟨rfl, rfl, [e], ?_⟩
          simp [backlog]
      case isFalse => exact ⟨rfl, rfl, List.prefix_rfl⟩
    case h_2 => exact ⟨rfl, rfl, List.prefix_rfl⟩
  | next m =>
    have ne : m ≠ n := by
      rintro rfl
      exact unread rfl
    have same : b.change limits n (.next m) s = s := if_neg ne
    rw [same]
    exact ⟨rfl, rfl, List.prefix_rfl⟩
  | close m =>
    have ne : m ≠ n := by
      rintro rfl
      exact opened rfl
    have same : b.change limits n (.close m) s = s := if_neg ne
    rw [same]
    exact ⟨rfl, rfl, List.prefix_rfl⟩
  | _ => exact ⟨rfl, rfl, List.prefix_rfl⟩

variable (limits) in
/-- Whatever the other threads do, `k` resumptions deliver the first `k` events the stream has to read. -/
lemma run_reads {rest} (found : b.stream n = some s) (opened : s.closed = false) (kept : .close n ∉ rest) :
    ∃ s', (Run.run (step limits) b rest).stream n = some s' ∧
      s.delivered ++ (backlog s).take (rest.count (.next n)) <+: s'.delivered := by
  induction rest generalizing b s with
  | nil => exact ⟨s, found, by simp⟩
  | cons o rest ih =>
    obtain ⟨ne, still⟩ := not_or.mp (mt List.mem_cons.mpr kept)
    have after := stream_step limits o found
    by_cases read : o = .next n
    · subst read
      have changed : b.change limits n (.next n) s = s.next := if_pos rfl
      rw [changed] at after
      obtain ⟨opened', given⟩ := next_opened opened
      obtain ⟨s', found', delivers⟩ := ih after opened' still
      refine ⟨s', found', ?_⟩
      rw [List.count_cons_self, given]
      exact delivers
    · obtain ⟨closed, delivered, more⟩ := change_other limits b s read fun e => ne e.symm
      obtain ⟨s', found', delivers⟩ := ih after (closed.trans opened) still
      refine ⟨s', found', ?_⟩
      rw [List.count_cons_of_ne read]
      rw [delivered] at delivers
      have first : (backlog s).take (rest.count (.next n)) <+: _ := List.IsPrefix.take more _
      exact ((List.prefix_append_right_inj _).mpr first).trans delivers

/-- Nothing is held for a stream that does not exist. -/
lemma heldFor_fresh (wf : b.Wf) (fresh : b.stream n = none) : heldFor n b.publications = [] := by
  apply List.filterMap_eq_nil_iff.mpr
  intro x hx
  rw [if_neg]
  intro mem
  obtain ⟨s, found, _⟩ := wf.held x hx n mem
  rw [fresh] at found
  cases found

variable (limits i) in
/-- A stream that subscribes. -/
lemma subscribe_stream (fresh : b.stream n = none) :
    (b.step limits (.subscribe n i)).stream n = some { incidentId := i, replay := b.historyOf i } ∧
      n ∈ (b.step limits (.subscribe n i)).subscribersOf i ∧
      (b.step limits (.subscribe n i)).publications = b.publications := by
  refine ⟨?_, ?_, ?_⟩
  · simp only [step, fresh]
    exact Assoc.get_set_self
  · rw [subscribersOf_step]
    simp [resubscribe, fresh]
  · simp only [step, fresh]

/-- The account of an open subscriber is what it found in the history and what was published since. -/
structure Accounted (h : List AgentEvent) (i : Uuid) (n : Nat) (log : List AgentEvent) (b : Broker) : Prop where
  wf : b.Wf
  subscribed : n ∈ b.subscribersOf i
  account : ∃ s, b.stream n = some s ∧ s.incidentId = i ∧ s.closed = false ∧ (account n b s).Perm (h ++ log)

lemma Accounted.step {h log} (acc : Accounted h i n log b) (opened : o ≠ .close n)
    (roomy : ¬ b.Sheds limits o n) : Accounted h i n (log ++ b.appended i o) (b.step limits o) := by
  obtain ⟨s, found, rfl, closed, perm⟩ := acc.account
  constructor
  case wf => exact acc.wf.step
  case subscribed => exact mem_step_of_mem acc.subscribed opened
  case account =>
    refine ⟨_, stream_step limits o found, change_incidentId, ?_, ?_⟩
    · by_cases read : o = .next n
      · subst read
        have changed : b.change limits n (.next n) s = s.next := if_pos rfl
        rw [changed]
        exact (next_opened closed).1
      · exact (change_other limits b s read opened).1.trans closed
    · have accounts := step_accounts limits o acc.wf found
      rw [← List.append_assoc]
      generalize Broker.account n b s = l at perm accounts
      generalize Broker.account n (b.step limits o) (b.change limits n o s) = l' at accounts ⊢
      generalize b.appended s.incidentId o = emitted at accounts ⊢
      cases accounts with
      | kept => simpa using perm
      | received => exact perm.append_right _
      | missed out => exact absurd acc.subscribed out
      | @moved read early e late =>
        rw [List.append_nil]
        refine List.Perm.trans ?_ perm
        rw [List.append_assoc, List.singleton_append]
        exact (List.perm_middle (a := e)).symm.append_left read
      | shed full => exact absurd full roomy

end Broker

open Broker

/-- The incident's stream is not closed, and no event is shed for it. -/
def Roomy (limits : BrokerLimits) (n : Nat) (b : Broker) (o : BrokerOp) : Prop :=
  o ≠ .close n ∧ ¬ Sheds limits b o n

instance {limits n b o} : Decidable (Roomy limits n b o) := inferInstanceAs (Decidable (_ ∧ _))

/-- While its queue never fills, a stream delivers every event of the retained history and every event
published afterwards exactly once: together with what it has to read and what publishers hold for it, what it
delivered is these events. Once no publisher holds one, it delivers them all as it is read. -/
theorem stream_exactly_once {limits : BrokerLimits} {before after : List BrokerOp} {n : Nat} {i : Uuid}
    (fresh : (Run.run (step limits) {} before).stream n = none)
    (roomy : Run.Each (step limits) (Roomy limits n)
      (Run.run (step limits) {} (before ++ [.subscribe n i])) after) :
    ∃ s, (Run.run (step limits) {} (before ++ [.subscribe n i] ++ after)).stream n = some s ∧
      (account n (Run.run (step limits) {} (before ++ [.subscribe n i] ++ after)) s).Perm
        ((Run.run (step limits) {} before).historyOf i ++
          published limits i (Run.run (step limits) {} (before ++ [.subscribe n i])) after) ∧
      (heldFor n (Run.run (step limits) {} (before ++ [.subscribe n i] ++ after)).publications = [] →
        ∀ rest, .close n ∉ rest → (backlog s).length ≤ rest.count (.next n) →
          ∃ s' l, (Run.run (step limits) {} (before ++ [.subscribe n i] ++ after ++ rest)).stream n = some s' ∧
            l <+: s'.delivered ∧
            l.Perm ((Run.run (step limits) {} before).historyOf i ++
              published limits i (Run.run (step limits) {} (before ++ [.subscribe n i])) after)) := by
  have wf : (Run.run (step limits) {} before).Wf := run_wf wf_empty
  simp only [Run.run_append, Run.run_cons, Run.run_nil] at roomy ⊢
  generalize Run.run (step limits) {} before = b at fresh roomy wf ⊢
  obtain ⟨found, subscribed, pubs⟩ := subscribe_stream limits i fresh
  have start : Accounted (b.historyOf i) i n [] (b.step limits (.subscribe n i)) := by
    refine ⟨wf.step, subscribed, _, found, rfl, rfl, ?_⟩
    unfold account backlog
    rw [pubs, heldFor_fresh wf fresh]
    simp
  have acc : Accounted (b.historyOf i) i n (published limits i (b.step limits (.subscribe n i)) after)
      (Run.run (step limits) (b.step limits (.subscribe n i)) after) :=
    Run.run_traced (fun _ _ _ roomy acc => acc.step roomy.1 roomy.2) roomy start
  obtain ⟨s, found, _, closed, perm⟩ := acc.account
  refine ⟨s, found, perm, ?_⟩
  intro settled rest kept enough
  obtain ⟨s', found', delivers⟩ := run_reads limits found closed kept
  rw [List.take_of_length_le enough] at delivers
  refine ⟨s', _, found', delivers, ?_⟩
  unfold account at perm
  rw [settled, List.append_nil] at perm
  exact perm

namespace Sample

/-- An event of an incident. -/
def published (message : String) : AgentEvent where
  incidentId := .sample 3
  type := .recallStarted
  stage := "recall"
  message := message

/-- One event is published before the stream subscribes. -/
def publishedBefore : List BrokerOp := [.append 0 (published "first") [], .put 0]

/-- Another is published afterwards, and the stream is read once. -/
def publishedAfter : List BrokerOp := [.append 1 (published "second") [0], .put 1, .next 0]

end Sample

/-- A stream that has read the event it replays, and not yet the one in its queue. -/
theorem stream_exactly_once_sample : ∃ s,
    (Run.run (step {}) {} (Sample.publishedBefore ++ [.subscribe 0 (.sample 3)] ++ Sample.publishedAfter)).stream 0 =
        some s ∧
      (s.delivered ++ backlog s).Perm [Sample.published "first", Sample.published "second"] := by
  obtain ⟨s, found, perm, _⟩ := @stream_exactly_once {} Sample.publishedBefore Sample.publishedAfter 0 (.sample 3)
    (by decide +kernel) (by decide +kernel)
  refine ⟨s, found, ?_⟩
  unfold account at perm
  have held : heldFor 0 (Run.run (step {}) {}
      (Sample.publishedBefore ++ [.subscribe 0 (.sample 3)] ++ Sample.publishedAfter)).publications = [] := by
    decide +kernel
  have events : (Run.run (step {}) {} Sample.publishedBefore).historyOf (.sample 3) ++
      published {} (.sample 3) (Run.run (step {}) {} (Sample.publishedBefore ++ [.subscribe 0 (.sample 3)]))
        Sample.publishedAfter = [Sample.published "first", Sample.published "second"] := by
    decide +kernel
  rw [held, List.append_nil, events] at perm
  exact perm

end Postmortem
