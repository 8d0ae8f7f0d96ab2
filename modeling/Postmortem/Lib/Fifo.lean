import Postmortem.Lib.Run
import Mathlib.Data.List.Nodup

/-!
# A queue with partial batch failures

A first-in-first-out queue delivers a batch from its head to a handler, which reports the keys of the
items it gives back. The other items of the batch are deleted, and those given back stay at the head.
A handler that reports a suffix of every batch (`GivesBackSuffix`) takes the items in the order they were
sent, none twice and none out of turn: what was deleted and what is pending is what was sent
(`run_in_order`).
-/

namespace Fifo

variable {α κ σ : Type} [DecidableEq κ]

/-- The keys a handler reports, `none` where it raised, and what it leaves behind. -/
abbrev Handler (α κ σ : Type) := σ → List α → Option (List κ) × σ

/-- A queue and the state its handlers work on. -/
structure Queue (α σ : Type) where
  pending : List α
  deleted : List α := []
  world : σ

/-- What happens to a queue. -/
inductive Op (α κ σ : Type) where
  | send (a : α)
  | deliver (size : Nat) (handler : Handler α κ σ)

/-- A delivery: the items of the batch that the handler does not report are deleted. -/
def deliver (key : α → κ) (q : Queue α σ) (size : Nat) (handler : Handler α κ σ) : Queue α σ :=
  let batch := q.pending.take size
  match handler q.world batch with
  | (none, world) => { q with world }
  | (some reported, world) =>
    { pending := batch.filter (key · ∈ reported) ++ q.pending.drop size
      deleted := q.deleted ++ batch.filter (key · ∉ reported)
      world }

/-- One step of the queue. -/
def step (key : α → κ) (q : Queue α σ) : Op α κ σ → Queue α σ
  | .send a => { q with pending := q.pending ++ [a] }
  | .deliver size handler => deliver key q size handler

/-- The items sent, in order. -/
def sent (ops : List (Op α κ σ)) : List α :=
  ops.filterMap fun
    | .send a => some a
    | .deliver _ _ => none

/-- The handler reports a suffix of the batch. -/
def GivesBackSuffix (key : α → κ) (handler : Handler α κ σ) (batch : List α) : Prop :=
  ∀ world, ∃ taken back, batch = taken ++ back ∧ (handler world batch).1 = some (back.map key)

section deliver

variable {key : α → κ} {q : Queue α σ} {batch taken back : List α}

/-- The reported keys select what is given back. -/
lemma filter_reported (distinct : ((taken ++ back).map key).Nodup) :
    (taken ++ back).filter (key · ∈ back.map key) = back ∧
      (taken ++ back).filter (key · ∉ back.map key) = taken := by
  rw [List.map_append, List.nodup_append] at distinct
  have apart : ∀ a ∈ taken, key a ∉ back.map key :=
    fun a ha hb => distinct.2.2 _ (List.mem_map_of_mem ha) _ hb rfl
  have reported : ∀ a ∈ back, key a ∈ back.map key := fun a ha => List.mem_map_of_mem ha
  constructor
  case left =>
    rw [List.filter_append, List.filter_eq_nil_iff.mpr fun a ha => by simpa using apart a ha,
      List.filter_eq_self.mpr fun a ha => by simpa using reported a ha]
    rfl
  case right =>
    rw [List.filter_append, List.filter_eq_self.mpr fun a ha => by simpa using apart a ha,
      List.filter_eq_nil_iff.mpr fun a ha => by simpa using reported a ha, List.append_nil]

/-- A delivery deletes what the handler took, and the rest stays where it was. -/
lemma deliver_suffix {size : Nat} {handler : Handler α κ σ} {world : σ} (e : q.pending.take size = taken ++ back)
    (h : handler q.world (q.pending.take size) = (some (back.map key), world))
    (distinct : (q.pending.map key).Nodup) :
    deliver key q size handler =
      { pending := back ++ q.pending.drop size, deleted := q.deleted ++ taken, world } := by
  have part : ((taken ++ back).map key).Nodup := by
    rw [← e]
    exact ((List.take_sublist _ _).map _).nodup distinct
  obtain ⟨kept, gone⟩ := filter_reported part
  unfold deliver
  simp only [h]
  rw [e, kept, gone]

end deliver

/-- Every item is deleted in its turn. -/
lemma run_in_order {key : α → κ} {ops : List (Op α κ σ)} {q : Queue α σ}
    (handlers : ∀ size handler, Op.deliver size handler ∈ ops → ∀ batch, (batch.map key).Nodup →
      batch <:+: q.pending ++ sent ops → GivesBackSuffix key handler batch)
    (distinct : ((q.pending ++ sent ops).map key).Nodup) :
    (Run.run (step key) q ops).deleted ++ (Run.run (step key) q ops).pending =
      q.deleted ++ q.pending ++ sent ops := by
  induction ops generalizing q with
  | nil => exact (List.append_nil _).symm
  | cons op ops ih =>
    cases op with
    | send a =>
      have same : (step key q (.send a)).pending ++ sent ops = q.pending ++ sent (.send a :: ops) :=
        List.append_assoc _ _ _
      have rest := @ih (step key q (.send a)) (fun size handler h batch nodup part =>
        handlers size handler (List.mem_cons_of_mem _ h) batch nodup (same ▸ part)) (by rwa [same])
      refine rest.trans ?_
      rw [List.append_assoc, same, List.append_assoc]
      rfl
    | deliver size handler =>
      have distinct_pending : (q.pending.map key).Nodup := by
        rw [List.map_append] at distinct
        exact distinct.of_append_left
      have batch_part : q.pending.take size <:+: q.pending ++ sent (Op.deliver size handler :: ops) :=
        ((List.take_prefix _ _).isInfix).trans (List.prefix_append _ _).isInfix
      obtain ⟨taken, back, e, reported⟩ := handlers size handler List.mem_cons_self (q.pending.take size)
        (((List.take_sublist _ _).map _).nodup distinct_pending) batch_part q.world
      have handled : handler q.world (q.pending.take size) =
          (some (back.map key), (handler q.world (q.pending.take size)).2) := Prod.ext reported rfl
      have delivered := deliver_suffix e handled distinct_pending
      have whole : taken ++ (back ++ q.pending.drop size) = q.pending := by
        rw [← List.append_assoc, ← e, List.take_append_drop]
      have left : (step key q (.deliver size handler)).pending ++ sent ops <:+: q.pending ++ sent ops := by
        refine ⟨taken, [], ?_⟩
        rw [List.append_nil, ← List.append_assoc]
        show taken ++ (deliver key q size handler).pending ++ sent ops = _
        rw [delivered, whole]
      have rest := @ih (step key q (.deliver size handler)) (fun size' handler' h batch nodup part =>
        handlers size' handler' (List.mem_cons_of_mem _ h) batch nodup (part.trans left))
        ((left.sublist.map _).nodup distinct)
      refine rest.trans ?_
      show (deliver key q size handler).deleted ++ (deliver key q size handler).pending ++ sent ops = _
      rw [delivered]
      show q.deleted ++ taken ++ (back ++ q.pending.drop size) ++ sent ops = _
      rw [List.append_assoc q.deleted, whole]
      rfl

end Fifo
