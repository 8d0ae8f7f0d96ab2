import Mathlib.Data.List.Chain
import Mathlib.Order.Lattice
import Mathlib.Tactic.Lemma
import Mathlib.Tactic.Basic

/-!
# Timelines

A history of entries, each in force from its own start up to the start of the one that replaced it.
`withNext` pairs each entry with its successor, which is how a table with half-open validity windows
stores the history, and `Ordered` says that the starts increase strictly.

`withNext_concat` is what a transition does to such a table: the last entry is closed and the new one
opened. `filter_inForce` is the law of an as-of query: at any instant exactly the last entry that has
started is in force.
-/

namespace Timeline

variable {β τ : Type}

/-- Each entry with the entry that replaced it. -/
def withNext : List β → List (β × Option β)
  | [] => []
  | b :: l => (b, l.head?) :: withNext l

/-- The entries of a history are the entries of its pairs. -/
@[simp] lemma map_fst_withNext {l : List β} : (withNext l).map Prod.fst = l := by
  induction l with
  | nil => rfl
  | cons b l ih => rw [withNext, List.map_cons, ih]

/-- A new entry closes the open pair and opens its own. -/
lemma withNext_concat {l : List β} {b} :
    withNext (l ++ [b]) = (withNext l).map (fun p => (p.1, some (p.2.getD b))) ++ [(b, none)] := by
  induction l with
  | nil => rfl
  | cons a l ih =>
    show (a, (l ++ [b]).head?) :: withNext (l ++ [b]) = _
    rw [ih]
    cases l with
    | nil => rfl
    | cons c l => rfl

lemma mem_withNext {l : List β} {a n} (h : (a, n) ∈ withNext l) : a ∈ l ∧ ∀ b, n = some b → b ∈ l := by
  induction l with
  | nil => cases h
  | cons c l ih =>
    rcases List.mem_cons.mp h with e | h
    · cases e
      refine ⟨List.mem_cons_self, ?_⟩
      intro b e
      exact List.mem_cons_of_mem _ (List.mem_of_head? e)
    · obtain ⟨ha, hn⟩ := ih h
      exact ⟨List.mem_cons_of_mem _ ha, fun b e => List.mem_cons_of_mem _ (hn b e)⟩

lemma open_iff {l : List β} {a} : (a, none) ∈ withNext l ↔ l.getLast? = some a := by
  induction l with
  | nil => simp [withNext]
  | cons c l ih =>
    cases l with
    | nil => simp [withNext, eq_comm]
    | cons d l =>
      rw [List.getLast?_cons_cons, ← ih]
      constructor
      · intro h
        rcases List.mem_cons.mp h with e | h
        · cases e
        · exact h
      · exact List.mem_cons_of_mem _

variable [LinearOrder τ] {start : β → τ} {l : List β} {t : τ}

/-- The starts increase strictly. -/
def Ordered (start : β → τ) (l : List β) : Prop := l.Pairwise fun a b => start a < start b

lemma Ordered.concat {b} (o : Ordered start l) (h : ∀ a, l.getLast? = some a → start a < start b) :
    Ordered start (l ++ [b]) := by
  apply List.pairwise_append.mpr
  refine ⟨o, List.pairwise_singleton _ _, ?_⟩
  intro a ha c hc
  obtain rfl := List.mem_singleton.mp hc
  cases last : l.getLast? with
  | none =>
    rw [List.getLast?_eq_none_iff.mp last] at ha
    cases ha
  | some z =>
    obtain ⟨init, rfl⟩ := List.getLast?_eq_some_iff.mp last
    have hz : start z < start c := h z last
    rcases List.mem_append.mp ha with before | same
    · exact lt_trans ((List.pairwise_append.mp o).2.2 a before z List.mem_cons_self) hz
    · obtain rfl := List.mem_singleton.mp same
      exact hz

lemma Ordered.lt_next {a b} (o : Ordered start l) (h : (a, some b) ∈ withNext l) :
    start a < start b := by
  induction l with
  | nil => cases h
  | cons c l ih =>
    obtain ⟨first, rest⟩ := List.pairwise_cons.mp o
    rcases List.mem_cons.mp h with e | h
    · obtain ⟨rfl, next⟩ := Prod.mk.inj e
      exact first b (List.mem_of_head? next.symm)
    · exact ih rest h

/-- Consecutive pairs: the successor of one is the entry of the next, and starts later. -/
lemma Ordered.isChain (o : Ordered start l) :
    (withNext l).IsChain fun p q => p.2 = some q.1 ∧ start p.1 < start q.1 := by
  induction l with
  | nil => exact .nil
  | cons b l ih =>
    obtain ⟨first, rest⟩ := List.pairwise_cons.mp o
    cases l with
    | nil => exact .singleton _
    | cons c l => exact .cons_cons ⟨rfl, first c List.mem_cons_self⟩ (ih rest)

/-- The pair is in force at `t`. -/
def InForce (start : β → τ) (t : τ) (p : β × Option β) : Prop :=
  start p.1 ≤ t ∧ ∀ n, p.2 = some n → t < start n

/-- Exactly the last entry that has started is in force. -/
lemma Ordered.filter_inForce [DecidablePred (InForce start t)] (o : Ordered start l) :
    ((withNext l).filter fun p => InForce start t p).map Prod.fst =
      (l.filter fun b => start b ≤ t).getLast?.toList := by
  induction l with
  | nil => rfl
  | cons b l ih =>
    obtain ⟨first, rest⟩ := List.pairwise_cons.mp o
    have tail := ih rest
    by_cases started : start b ≤ t
    · rw [List.filter_cons_of_pos (by simpa using started), withNext]
      cases l with
      | nil =>
        have now : InForce start t (b, none) := ⟨started, by rintro n ⟨⟩⟩
        simp [withNext, now]
      | cons c l =>
        by_cases next : start c ≤ t
        · -- the successor has started, so the entry is over
          have ended : ¬ InForce start t (b, some c) := fun h => not_lt_of_ge next (h.2 c rfl)
          rw [List.head?_cons, List.filter_cons_of_neg (by simpa using ended), tail,
            List.filter_cons_of_pos (by simpa using next), List.getLast?_cons_cons]
        · -- the successor has not, nor has anything after it
          have now : InForce start t (b, some c) := by
            refine ⟨started, ?_⟩
            rintro n ⟨⟩
            exact lt_of_not_ge next
          have none_started : (c :: l).filter (fun b => decide (start b ≤ t)) = [] := by
            apply List.filter_eq_nil_iff.mpr
            intro d hd le
            have le : start d ≤ t := of_decide_eq_true le
            rcases List.mem_cons.mp hd with rfl | hd
            · exact next le
            · exact next (le_of_lt (lt_of_lt_of_le ((List.pairwise_cons.mp rest).1 d hd) le))
          rw [none_started] at tail ⊢
          rw [List.head?_cons, List.filter_cons_of_pos (by simpa using now), List.map_cons, tail]
          rfl
    · have late : ¬ InForce start t (b, l.head?) := fun h => started h.1
      rw [withNext, List.filter_cons_of_neg (by simpa using late), tail,
        List.filter_cons_of_neg (by simpa using started)]

/-- From the start of the first entry on, exactly one pair is in force. -/
lemma Ordered.one_inForce [DecidablePred (InForce start t)] {a} (o : Ordered start l)
    (head : l.head? = some a) (started : start a ≤ t) :
    ∃ b ∈ withNext l, ((withNext l).filter fun c => InForce start t c) = [b] ∧
      ∀ c ∈ withNext l, InForce start t c ↔ c = b := by
  have law := o.filter_inForce (t := t)
  have mem : a ∈ l.filter fun b => start b ≤ t :=
    List.mem_filter.mpr ⟨List.mem_of_head? head, decide_eq_true started⟩
  cases last : (l.filter fun b => decide (start b ≤ t)).getLast? with
  | none =>
    rw [List.getLast?_eq_none_iff.mp last] at mem
    cases mem
  | some z =>
    rw [last] at law
    obtain ⟨b, one, _⟩ := List.map_eq_singleton_iff.mp law
    have only : ∀ c, (c ∈ withNext l ∧ InForce start t c) ↔ c = b := by
      intro c
      rw [← List.mem_singleton, ← one, List.mem_filter, decide_eq_true_iff]
    refine ⟨b, ((only b).mpr rfl).1, one, ?_⟩
    intro c hc
    rw [← only c]
    exact (and_iff_right hc).symm

/-- Two pairs in force at one instant are one pair. -/
lemma Ordered.inForce_unique {p q : β × Option β} (o : Ordered start l) (hp : p ∈ withNext l)
    (hq : q ∈ withNext l) (ip : InForce start t p) (iq : InForce start t q) : p = q := by
  induction l with
  | nil => cases hp
  | cons b l ih =>
    obtain ⟨first, rest⟩ := List.pairwise_cons.mp o
    -- a later pair in force means that the successor of the first has started
    have later : ∀ r ∈ withNext l, InForce start t r → ¬ InForce start t (b, l.head?) := by
      intro r hr ir ib
      obtain ⟨a, n⟩ := r
      have ha := (mem_withNext hr).1
      cases l with
      | nil => cases hr
      | cons c l =>
        have before := ib.2 c rfl
        rcases List.mem_cons.mp ha with rfl | ha
        · exact not_lt_of_ge ir.1 before
        · exact not_lt_of_ge ir.1 (lt_trans before ((List.pairwise_cons.mp rest).1 a ha))
    rcases List.mem_cons.mp hp with rfl | hp <;> rcases List.mem_cons.mp hq with rfl | hq
    · rfl
    · exact absurd ip (later q hq iq)
    · exact absurd iq (later p hp ip)
    · exact ih rest hp hq

/-! ## Stored windows -/

section windows

variable {stop : β → Option τ}

/-- Each window ends where the next one starts, after its own start, and the last one is open. -/
def Contiguous (start : β → τ) (stop : β → Option τ) (l : List β) : Prop :=
  ∀ p ∈ withNext l, stop p.1 = p.2.map start ∧ ∀ n, p.2 = some n → start p.1 < start n

@[simp] lemma contiguous_nil : Contiguous start stop [] := nofun

@[simp] lemma contiguous_singleton {b} : Contiguous start stop [b] ↔ stop b = none := by
  simp [Contiguous, withNext]

lemma contiguous_cons {b} : Contiguous start stop (b :: l) ↔
    (stop b = l.head?.map start ∧ ∀ n, l.head? = some n → start b < start n) ∧ Contiguous start stop l := by
  unfold Contiguous
  rw [withNext, List.forall_mem_cons]

lemma Contiguous.last_open {b} (h : Contiguous start stop (l ++ [b])) : stop b = none :=
  (h (b, none) (open_iff.mpr List.getLast?_concat)).1

/-- A new window closes the open one, and all are contiguous exactly if it starts later. -/
lemma Contiguous.replace {a a' b} (h : Contiguous start stop (l ++ [a])) (same : start a' = start a)
    (closed : stop a' = some (start b)) (opened : stop b = none) :
    Contiguous start stop (l ++ [a', b]) ↔ start a < start b := by
  induction l with
  | nil =>
    show Contiguous start stop [a', b] ↔ _
    rw [contiguous_cons, contiguous_singleton]
    simp [closed, opened, same]
  | cons c l ih =>
    obtain ⟨next, rest⟩ := contiguous_cons.mp h
    rw [← ih rest]
    -- the window before the one that is closed sees the same start
    have kept : stop c = (l ++ [a', b]).head?.map start ∧ ∀ n, (l ++ [a', b]).head? = some n → start c < start n := by
      cases l with
      | nil =>
        obtain ⟨ends, before⟩ := next
        refine ⟨ends.trans (congrArg some same.symm), ?_⟩
        rintro n ⟨⟩
        rw [same]
        exact before a rfl
      | cons d l => exact next
    show Contiguous start stop (c :: (l ++ [a', b])) ↔ _
    rw [contiguous_cons]
    exact and_iff_right kept

end windows

end Timeline
