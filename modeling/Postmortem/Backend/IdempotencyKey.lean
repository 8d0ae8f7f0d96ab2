import Postmortem.Lib.Framing
import Postmortem.System

/-!
# Default idempotency keys

`RemediationCommand.effective_idempotency_key` without an explicit key: incident, action, service, version and cited
memory with colons between them. The version is any text and is not escaped, yet the key determines all five
(`default_key_iff`): the identifiers have a fixed width, and no action has a colon in its name. So what
`REPLAY_LOOKUP_SQL` finds under such a key is the action of the same remediation.
-/

namespace Postmortem

/-- The command has no idempotency key of its own; an empty one counts as none. -/
def DefaultKey (c : RemediationCommand) : Prop := ∀ key, c.idempotencyKey = some key → key = ""

/-- The commands ask for the same remediation. -/
structure SameRemediation (c d : RemediationCommand) : Prop where
  incidentId : c.incidentId = d.incidentId
  action : c.action = d.action
  serviceId : c.serviceId = d.serviceId
  targetVersion : c.targetVersion = d.targetVersion
  citedMemoryId : c.citedMemoryId = d.citedMemoryId

section key

variable {c d : RemediationCommand} {u v : Uuid}

lemma Uuid.text_width : u.text.toList.length = v.text.toList.length := by
  have width : ∀ w : Uuid, w.text.toList.length = 36 := by
    intro w
    have canonical := w.canonical
    unfold Uuid.isCanonical at canonical
    exact of_decide_eq_true (Bool.and_eq_true_iff.mp canonical).1
  rw [width u, width v]

/-- No action has a colon in its name. -/
lemma ActionKind.no_colon {a : ActionKind} : ':' ∉ a.value.toList := by
  cases a <;> decide

lemma ActionKind.value_injective {a b : ActionKind} (h : a.value = b.value) : a = b := by
  cases a <;> cases b <;> first | rfl | exact absurd h (by decide)

/-- The derived key. -/
lemma DefaultKey.key (h : DefaultKey c) : c.effectiveIdempotencyKey = c.incidentId.text ++ (":" ++ (c.action.value ++
    String.singleton ':' ++ (c.serviceId.text ++ (":" ++ (c.targetVersion ++ (":" ++ c.citedMemoryId.text)))))) := by
  have colon : String.singleton ':' = ":" := rfl
  unfold RemediationCommand.effectiveIdempotencyKey
  rw [colon]
  simp only [String.append_assoc]
  cases own : c.idempotencyKey with
  | none => rfl
  | some key =>
    obtain rfl := h key own
    rfl

/-- Two commands without a key of their own have the same key exactly where they ask for the same remediation. -/
lemma default_key_eq_iff (hc : DefaultKey c) (hd : DefaultKey d) :
    c.effectiveIdempotencyKey = d.effectiveIdempotencyKey ↔ SameRemediation c d := by
  rw [hc.key, hd.key]
  constructor
  case mp =>
    intro same
    obtain ⟨incident, same⟩ := Framing.append_left_inj Uuid.text_width same
    obtain ⟨_, same⟩ := Framing.append_left_inj rfl same
    obtain ⟨action, same⟩ := Framing.separated_inj ActionKind.no_colon ActionKind.no_colon same
    obtain ⟨service, same⟩ := Framing.append_left_inj Uuid.text_width same
    obtain ⟨_, same⟩ := Framing.append_left_inj rfl same
    -- the version is taken apart from the right
    have width : (":" ++ c.citedMemoryId.text).toList.length = (":" ++ d.citedMemoryId.text).toList.length := by
      rw [String.toList_append, String.toList_append, List.length_append, List.length_append, Uuid.text_width]
    obtain ⟨version, same⟩ := Framing.append_right_inj width same
    obtain ⟨_, memory⟩ := Framing.append_left_inj rfl same
    exact ⟨Uuid.ext incident, ActionKind.value_injective action, Uuid.ext service, version, Uuid.ext memory⟩
  case mpr =>
    rintro ⟨incident, action, service, version, memory⟩
    rw [incident, action, service, version, memory]

/-- The lookup finds an action of the same organization with the same key. -/
lemma actionOfKey_spec {p : RemediationParams} {db : Database} {a : RemediationAction}
    (found : actionOfKey p db = some a) :
    a ∈ db.remediationActions ∧ a.orgId = p.orgId ∧ a.idempotencyKey = p.idempotencyKey := by
  obtain ⟨mem, same⟩ := Table.find_spec found
  exact ⟨mem, (Prod.mk.inj same).1, (Prod.mk.inj same).2⟩

end key

/-- Two commands without an idempotency key of their own have the same key exactly where they agree on incident,
action, service, version and cited memory; and an action that the replay lookup of one finds in the database was
not written for another remediation. -/
theorem default_key_iff (c d : RemediationCommand) (hc : DefaultKey c) (hd : DefaultKey d) :
    (c.effectiveIdempotencyKey = d.effectiveIdempotencyKey ↔ SameRemediation c d) ∧
      ∀ rt embedding embedding' g db,
        actionOfKey (remediationParams rt c embedding) db = some (actionRow (remediationParams rt d embedding') g) →
          SameRemediation c d := by
  refine ⟨default_key_eq_iff hc hd, ?_⟩
  intro rt embedding embedding' g db found
  obtain ⟨_, _, same⟩ := actionOfKey_spec found
  exact (default_key_eq_iff hc hd).mp same.symm

/-- A version with a colon moves no part of the key: the commands for `v1` and `v1:v1` have different keys. -/
theorem default_key_iff_sample : Sample.command.effectiveIdempotencyKey ≠
    { Sample.command with targetVersion := "v1:v1" }.effectiveIdempotencyKey := by
  intro same
  obtain ⟨exact, _⟩ := default_key_iff Sample.command { Sample.command with targetVersion := "v1:v1" } nofun nofun
  exact absurd (exact.mp same).targetVersion (by decide)

end Postmortem
