import Postmortem.Consolidation.Contracts
import Mathlib.Data.List.Dedup
import Mathlib.Data.Prod.Lex

/-!
# Grouping

`consolidation/postmortem_consolidation/grouping.py`: the rows of a window by incident. An incident
whose rows have no outcome makes no group.
-/

namespace Postmortem

/-- `_outcome_for` -/
def outcomeFor (rt : Runtime) (events : List ChangeEvent) : Option RunbookOutcome :=
  match (events.filter fun e => e.eventType = "outcome").getLast? with
  | none => none
  | some last =>
    let value := rt.lower (Python.str rt (last.metadata.getD "outcome" (.str "")))
    if value ∈ ["success", "resolved"] then some .success
    else if value ∈ ["failed", "failure"] then some .failed
    else if value ∈ ["no_effect", "no-effect"] then some .noEffect
    else none

/-- The key of `grouped`. -/
abbrev IncidentKey := String × String

/-- `(event.org_id, event.incident_id)` -/
def ChangeEvent.incidentKey (e : ChangeEvent) : IncidentKey := (e.orgId, e.incidentId)

/-- The order of tuples of texts. -/
def IncidentKey.le (a b : IncidentKey) : Prop := toLex a ≤ toLex b

instance : DecidableRel IncidentKey.le := fun a b => inferInstanceAs (Decidable (toLex a ≤ toLex b))

/-- The order by `(occurred_at, event_id)`. -/
def ChangeEvent.occurredBefore (a b : ChangeEvent) : Prop :=
  toLex (a.occurredAt, a.eventId) ≤ toLex (b.occurredAt, b.eventId)

instance : DecidableRel ChangeEvent.occurredBefore := fun a b =>
  inferInstanceAs (Decidable (toLex (a.occurredAt, a.eventId) ≤ toLex (b.occurredAt, b.eventId)))

/-- The rows of an incident in order. -/
def incidentEvents (events : List ChangeEvent) (key : IncidentKey) : List ChangeEvent :=
  (events.filter fun e => e.incidentKey = key).insertionSort ChangeEvent.occurredBefore

/-- The group of an incident, if it has an outcome. -/
def groupOf (rt : Runtime) (events : List ChangeEvent) (key : IncidentKey) : Option EpisodeGroup :=
  let ordered := incidentEvents events key
  match outcomeFor rt ordered, ordered.head? with
  | some outcome, some first => some {
      orgId := first.orgId
      agentId := first.agentId
      incidentId := first.incidentId
      serviceId := first.serviceId
      episodes := ordered
      outcome := outcome }
  | _, _ => none

/-- The incidents of the rows, in order. -/
def incidentKeys (events : List ChangeEvent) : List IncidentKey :=
  (events.map ChangeEvent.incidentKey).dedup.insertionSort IncidentKey.le

/-- `group_completed_incidents` -/
def groupCompletedIncidents (rt : Runtime) (events : List ChangeEvent) : List EpisodeGroup :=
  (incidentKeys events).filterMap (groupOf rt events)

lemma incidentKeys_sorted (events : List ChangeEvent) :
    (incidentKeys events).Pairwise fun a b => toLex a < toLex b := by
  have total : Std.Total IncidentKey.le := ⟨fun a b => le_total (toLex a) (toLex b)⟩
  have trans : IsTrans IncidentKey IncidentKey.le := ⟨fun _ _ _ => le_trans (α := String ×ₗ String)⟩
  have sorted : (incidentKeys events).Pairwise IncidentKey.le := List.pairwise_insertionSort _ _
  have nodup : (incidentKeys events).Nodup :=
    (List.perm_insertionSort _ _).nodup_iff.mpr (List.nodup_dedup _)
  exact (sorted.and nodup).imp fun h => lt_of_le_of_ne h.1 fun e => h.2 (toLex.injective e)

/-- A group is that of an incident of its rows. -/
lemma groupOf_spec {rt events key g} (h : groupOf rt events key = some g) :
    (g.orgId, g.incidentId) = key ∧ g.episodes = incidentEvents events key ∧
      outcomeFor rt g.episodes = some g.outcome ∧ g.episodes ≠ [] := by
  simp only [groupOf] at h
  split at h
  case h_1 outcome first eo ef =>
    cases h
    have mem : first ∈ incidentEvents events key := List.mem_of_mem_head? ef
    obtain ⟨_, e⟩ := List.mem_filter.mp ((List.mem_insertionSort _).mp mem)
    refine ⟨of_decide_eq_true e, rfl, eo, ?_⟩
    rintro (empty : incidentEvents events key = [])
    rw [empty] at ef
    cases ef
  case h_2 => cases h

lemma mem_groupCompletedIncidents {rt events g} (h : g ∈ groupCompletedIncidents rt events) :
    groupOf rt events (g.orgId, g.incidentId) = some g := by
  obtain ⟨key, _, e⟩ := List.mem_filterMap.mp h
  obtain ⟨ek, _⟩ := groupOf_spec e
  rw [ek]
  exact e

lemma mem_episodes {rt events g e} (h : g ∈ groupCompletedIncidents rt events) :
    e ∈ g.episodes ↔ e ∈ events ∧ e.incidentKey = (g.orgId, g.incidentId) := by
  obtain ⟨_, rows, _⟩ := groupOf_spec (mem_groupCompletedIncidents h)
  rw [rows, incidentEvents, List.mem_insertionSort, List.mem_filter]
  simp

end Postmortem
