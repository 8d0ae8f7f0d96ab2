import Postmortem.Backend.TurnTrace

/-!
# Which commands reach the store

A call of the remediation port has come through every gate of the turn. `Sanctioned` lists what the
gates establish of the command; each stage keeps `Only`, the statement that every call in the log is
sanctioned, and `gateStage_only` is where the facts come together.
-/

namespace Postmortem

section sanction

open ResponderService

variable {σ : Type} (rt : Runtime) (ports : Ports σ) (signal : IncidentSignal) (approved : Bool)
  (approver : Option String)

/-- The recall adapter returned a bundle that screening turned into `memory`. -/
def Recalled (memory : RecallBundle) : Prop :=
  ∃ embedding bundle, ports.recall (recallQuery signal embedding) = .ok (.value bundle) ∧
    guardUntrustedRecallBundle rt bundle = .ok memory

/-- One of the tags names a critical service. -/
def Critical : Prop := ∃ tag ∈ signal.serviceTags, rt.lower (Python.strip tag) ∈ criticalServiceTags

/-- The command needs the approval of a named human. -/
def NeedsApproval (c : RemediationCommand) : Prop :=
  c.action = .scale ∨ c.action = .featureFlag ∨
    ((c.action = .rollback ∨ c.action = .restart) ∧ Critical rt signal) ∨ c.requiresHumanApproval = true

/-- What holds of a command that reaches the store. -/
structure Sanctioned (c : RemediationCommand) : Prop where
  decided : ∃ memory decision proposed, Recalled rt ports signal memory ∧
    ports.decide signal memory = .ok (.value decision) ∧ decision.kind = .remediate ∧
    decision.command = some proposed ∧ c = { proposed with approved } ∧
    ∃ item ∈ memory.allCandidates, item.memoryId = c.citedMemoryId
  cites : c.citedMemoryId ≠ Uuid.nil
  approval : NeedsApproval rt signal c →
    approved = true ∧ ∃ name, approver = some name ∧ Python.strip name ≠ ""

/-- Every call in the log satisfies `P`. -/
def Only (P : RemediationCommand → Prop) (s : TurnState σ) : Prop :=
  ∀ c embedding out, .remediated c embedding out ∈ s.log → P c

end sanction

section gates

open ResponderService

variable {σ : Type} {rt : Runtime} {ports : Ports σ} {signal : IncidentSignal} {approved : Bool}
  {approver : Option String} {P : RemediationCommand → Prop}

lemma isHighBlastRadius_iff {c} :
    isHighBlastRadius rt c signal.serviceTags = true ↔ NeedsApproval rt signal c := by
  simp [isHighBlastRadius, NeedsApproval, isCriticalTierService, Critical, or_assoc]

/-- An event is no call. -/
lemma event_only {type stage message data} :
    Effect.Meets (Only P) (event ports signal type stage message data) (fun _ => Only P)
      (fun _ => Only P) := by
  intro s hs
  unfold event
  generalize ({ incidentId := signal.incidentId, type, stage, message, data } : AgentEvent) = e
  have kept : Only P { s with log := s.log ++ [.published e] } := by
    intro c embedding out h
    rcases List.mem_append.mp h with h | h
    · exact hs c embedding out h
    · cases List.mem_singleton.mp h
  simp only
  cases ports.publish s.log.length e with
  | none => exact kept
  | some _ => exact kept

/-- A call that does not touch the state, with what it returned. -/
lemma lift_only {α : Type} {x : Except Raised α} :
    Effect.Meets (Only P) (Effect.lift x : Turn σ α) (fun a s => Only P s ∧ x = .ok a)
      (fun _ => Only P) :=
  Effect.Meets.lift (fun _ e _ hs => ⟨hs, e⟩) (fun _ _ _ hs => hs)

/-- A fact about the state does not depend on what the stage has learned. -/
lemma learned {α : Type} {R : Prop} {m : Turn σ α} {Q : α → TurnState σ → Prop}
    {E : Raised → TurnState σ → Prop} (h : R → Effect.Meets (Only P) m Q E) :
    Effect.Meets (fun s => Only P s ∧ R) m Q E := by
  rintro s ⟨hs, r⟩
  exact h r s hs

lemma recallStage_only : Effect.Meets (Only P) (recallStage rt ports signal)
    (fun memory s => Only P s ∧ Recalled rt ports signal memory) (fun _ => Only P) := by
  apply event_only.bind
  intro _
  apply lift_only.bind
  intro embedding
  apply learned
  intro _
  apply lift_only.bind
  intro returned
  apply learned
  intro recalled
  apply lift_only.bind
  intro memory
  apply learned
  intro screened
  have found : Recalled rt ports signal memory := by
    cases returned with
    | value bundle => exact ⟨embedding, bundle, recalled, screened⟩
    | malformed reading => cases screened
  apply lift_only.bind
  intro data
  apply learned
  intro _
  apply event_only.bind
  intro _
  exact Effect.Meets.pure fun _ hs => ⟨hs, found⟩

lemma reasonStage_only {memory} : Effect.Meets (Only P) (reasonStage ports signal memory)
    (fun decision s => Only P s ∧ ports.decide signal memory = .ok (.value decision))
    (fun _ => Only P) := by
  apply event_only.bind
  intro _
  apply lift_only.bind
  intro returned
  apply learned
  intro decided
  apply lift_only.bind
  intro decision
  apply learned
  intro read
  have found : ports.decide signal memory = .ok (.value decision) := by
    cases returned with
    | value d =>
      cases read
      exact decided
    | malformed reading => cases read
  apply event_only.bind
  intro _
  exact Effect.Meets.pure fun _ hs => ⟨hs, found⟩

/-- What the gates establish of a command that may run. -/
structure Passes (rt : Runtime) (signal : IncidentSignal) (approver : Option String)
    (memory : RecallBundle) (c : RemediationCommand) : Prop where
  cites : c.citedMemoryId ≠ Uuid.nil
  recalled : ∃ item ∈ memory.allCandidates, item.memoryId = c.citedMemoryId
  approval : NeedsApproval rt signal c →
    c.approved = true ∧ ∃ name, approver = some name ∧ Python.strip name ≠ ""

lemma gateStage_only {memory command} :
    Effect.Meets (Only P) (gateStage rt ports signal memory approver command)
      (fun embedding s => Only P s ∧ (embedding ≠ none → Passes rt signal approver memory command))
      (fun _ => Only P) := by
  apply lift_only.bind
  intro _
  apply learned
  intro _
  apply lift_only.bind
  intro _
  apply learned
  intro _
  apply lift_only.bind
  intro _
  apply learned
  intro grounded
  apply event_only.bind
  intro _
  split
  · apply event_only.bind
    intro _
    exact Effect.Meets.pure fun _ hs => ⟨hs, fun h => absurd rfl h⟩
  · apply lift_only.bind
    intro record
    apply learned
    intro authorized
    have passes : Passes rt signal approver memory command := by
      obtain ⟨cites, recalled⟩ := requireGroundedAction_ok grounded
      refine ⟨cites, List.mem_map.mp recalled, ?_⟩
      intro needs
      exact authorizeAction_ok authorized (isHighBlastRadius_iff.mpr needs)
    apply lift_only.bind
    intro _
    apply learned
    intro _
    apply event_only.bind
    intro _
    exact Effect.Meets.pure fun _ hs => ⟨hs, fun _ => passes⟩

lemma executeStage_only {command embedding} (ok : P command) :
    Effect.Meets (Only P) (executeStage rt ports signal command embedding) (fun _ => Only P)
      (fun _ => Only P) := by
  have flag : Effect.Meets (Only P)
      (Effect.update fun s : TurnState σ => { s with transactionStarted := true })
      (fun _ => Only P) (fun (_ : Raised) => Only P) := Effect.Meets.update fun _ hs => hs
  have call : Effect.Meets (Only P) (callRemediation ports command embedding) (fun _ => Only P)
      (fun _ => Only P) := by
    intro s hs
    unfold callRemediation
    generalize ports.remediateAndRecord command embedding s.store = called
    obtain ⟨store, out⟩ := called
    have kept : Only P { s with store, log := s.log ++ [.remediated command embedding out] } := by
      intro c e o h
      rcases List.mem_append.mp h with h | h
      · exact hs c e o h
      · cases List.mem_singleton.mp h
        exact ok
    cases out with
    | ok _ => exact kept
    | error _ => exact kept
  apply flag.bind
  intro _
  apply call.bind
  intro _
  apply lift_only.bind
  intro _
  apply learned
  intro _
  apply event_only.bind
  intro _
  exact Effect.Meets.pure fun _ hs => hs

/-- The calls of a turn are sanctioned. -/
lemma respond_only :
    Effect.Meets (Only (Sanctioned rt ports signal approved approver))
      (respond rt ports signal approved approver)
      (fun _ => Only (Sanctioned rt ports signal approved approver))
      (fun _ => Only (Sanctioned rt ports signal approved approver)) := by
  apply recallStage_only.bind
  intro memory
  apply learned
  intro recalled
  apply reasonStage_only.bind
  intro decision
  apply learned
  intro decided
  have act : Effect.Meets (Only (Sanctioned rt ports signal approved approver))
      (actStage rt ports signal memory approved approver decision)
      (fun _ => Only (Sanctioned rt ports signal approved approver))
      (fun _ => Only (Sanctioned rt ports signal approved approver)) := by
    unfold actStage
    split
    case h_1 proposed kind command =>
      apply gateStage_only.bind
      intro embedding
      apply learned
      intro passes
      cases embedding with
      | none => exact Effect.Meets.pure fun _ hs => hs
      | some embedding =>
        obtain ⟨cites, item, approval⟩ := passes (by simp)
        have sanctioned : Sanctioned rt ports signal approved approver { proposed with approved } :=
          ⟨⟨memory, decision, proposed, recalled, decided, kind, command, rfl, item⟩, cites, approval⟩
        apply (executeStage_only sanctioned).bind
        intro _
        exact Effect.Meets.pure fun _ hs => hs
    case h_2 => exact Effect.Meets.pure fun _ hs => hs
  apply act.bind
  intro result
  apply event_only.bind
  intro _
  exact Effect.Meets.pure fun _ hs => hs

lemma failSafely_only {exc} : Effect.Meets (Only P) (failSafely ports signal exc) (fun _ => Only P)
    (fun _ => Only P) := by
  intro s hs
  have last : Effect.Meets (Only P) (failureEvent ports signal exc s.transactionStarted)
      (fun _ => Only P) (fun _ => Only P) := event_only
  have raised : ∀ u : Unit, Effect.Meets (Only P) (Effect.raise exc : Turn σ ResponseResult)
      (fun _ => Only P) (fun _ => Only P) := fun _ => Effect.Meets.raise fun _ h => h
  exact last.bind raised s hs

end gates

/-- Only sanctioned commands reach the store. In every turn, with adapters and a sink that return or
raise anything, a call of the remediation port is on a sanitized signal, cites a memory of the
screened bundle, carries the caller's flag `approved`, and has the approval of a named human where it
needs one. -/
theorem only_sanctioned {σ : Type} {rt} {ports : Ports σ} {signal approved approver store} :
    ∀ c embedding out, .remediated c embedding out ∈
        (ResponderService.handle rt ports signal approved approver { store }).2.log →
      c.approved = approved ∧
      ∃ signal', sanitizeSignal rt signal = .ok signal' ∧
        Sanctioned rt ports signal' approved approver c := by
  intro c embedding out called
  cases sanitized : sanitizeSignal rt signal with
  | error e =>
    rw [ResponderService.handle_rejected rt ports signal sanitized] at called
    cases called
  | ok signal' =>
    rw [ResponderService.handle_accepted rt ports signal sanitized] at called
    have start : Only (Sanctioned rt ports signal' approved approver) ({ store } : TurnState σ) := by
      intro c embedding out h
      cases h
    have turn : Effect.Meets (Only (Sanctioned rt ports signal' approved approver))
        (ResponderService.handleSanitized rt ports signal' approved approver)
        (fun _ => Only (Sanctioned rt ports signal' approved approver))
        (fun _ => Only (Sanctioned rt ports signal' approved approver)) :=
      event_only.bind fun _ => respond_only.attempt fun _ => failSafely_only
    have only : Only (Sanctioned rt ports signal' approved approver)
        (ResponderService.handleSanitized rt ports signal' approved approver { store }).2 := by
      have ended := turn { store } start
      generalize ResponderService.handleSanitized rt ports signal' approved approver { store } = out
        at ended
      obtain ⟨_ | _, _⟩ := out
      case ok => exact ended
      case error => exact ended
    have sanctioned := only c embedding out called
    obtain ⟨_, _, _, _, _, _, _, same, _⟩ := sanctioned.decided
    exact ⟨by rw [same], signal', rfl, sanctioned⟩

/-- The rollback of the example on a critical service, approved by a named human. -/
theorem only_sanctioned_sample :
    let signal := { Sample.alert "SEV-1" with serviceTags := [" Checkout "] }
    let log := (ResponderService.handle Runtime.sample Sample.ports signal true (some "sre")
      { store := 0 }).2.log
    ∃ c embedding out, .remediated c embedding out ∈ log ∧ NeedsApproval Runtime.sample signal c ∧
      c.approved = true ∧ Sanctioned Runtime.sample Sample.ports signal true (some "sre") c := by
  intro signal log
  have accepted : sanitizeSignal Runtime.sample signal = .ok signal := by decide +kernel
  have same := @ResponderService.handle_accepted Nat Runtime.sample Sample.ports signal signal true
    (some "sre") { store := 0 } accepted
  have protocol : TurnProtocol log := by
    show TurnProtocol (ResponderService.handle Runtime.sample Sample.ports signal true (some "sre")
      { store := 0 }).2.log
    rw [same]
    exact turnProtocol_of_complete (handleSanitized_complete (by simp [Sample.ports]))
  obtain ⟨c, embedding, out, called⟩ := protocol.called.mpr (by decide +kernel)
  obtain ⟨flag, signal', accepted', sanctioned⟩ := only_sanctioned c embedding out called
  cases accepted.symm.trans accepted'
  have proposed : c = { Sample.proposed with approved := true } := by
    obtain ⟨_, _, _, _, decided, _, command, same, _⟩ := sanctioned.decided
    cases decided
    cases command
    exact same
  have critical : Critical Runtime.sample signal := ⟨" Checkout ", by simp [signal], by decide +kernel⟩
  have needs : NeedsApproval Runtime.sample signal c := by
    rw [proposed]
    exact .inr (.inr (.inl ⟨.inl rfl, critical⟩))
  exact ⟨c, embedding, out, called, needs, flag, sanctioned⟩

end Postmortem
