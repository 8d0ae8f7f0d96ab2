import Postmortem.Lib.Effect

/-!
# Calls that ask an environment

A call that asks requests of an environment and goes on with the answers, as an `Effect` on the history: the
events so far, each a request with its answer. The environment may answer by all of the history, so what holds
for every environment holds for every behaviour of what is outside.

`Asks S m` says that a call adds events to the history and asks nothing but requests of `S`. There is one rule
for each way to build a call, and what a call that returned has added is events of `S` (`Asks.returned`). Of a loop
over a list `Each` says what its calls returned and added, one by one (`forEach_ok`).
-/

namespace Interaction

variable {ρ : Type} {ans : ρ → Type} {ε α β : Type}

/-- A request with its answer. -/
abbrev Event (ans : ρ → Type) : Type := (r : ρ) × ans r

/-- What was asked and answered so far. -/
abbrev History (ans : ρ → Type) : Type := List (Event ans)

/-- What answers the requests. -/
abbrev Environment (ans : ρ → Type) : Type := History ans → (r : ρ) → ans r

/-- Ask a request. -/
def ask (env : Environment ans) (r : ρ) : Effect (History ans) ε (ans r) :=
  fun h => (.ok (env h r), h ++ [⟨r, env h r⟩])

/-- A call for each entry of a list, in order. -/
def forEach {σ : Type} (f : β → Effect σ ε α) : List β → Effect σ ε (List α)
  | [] => pure []
  | b :: l => do
    let a ← f b
    let rest ← forEach f l
    return a :: rest

/-- The call adds events, and only requests of `S` are asked. -/
def Asks (S : ρ → Prop) (m : Effect (History ans) ε α) : Prop :=
  ∀ h, ∃ events, (m h).2 = h ++ events ∧ ∀ e ∈ events, S e.1

variable {env : Environment ans} {S T : ρ → Prop} {m : Effect (History ans) ε α} {h h' : History ans}

lemma ask_ok_iff {r : ρ} {a : ans r} :
    (ask env r : Effect (History ans) ε (ans r)) h = (.ok a, h') ↔ a = env h r ∧ h' = h ++ [⟨r, env h r⟩] := by
  simp [ask, eq_comm]

namespace Asks

lemma pure {a : α} : Asks S (pure a : Effect (History ans) ε α) :=
  fun _ => ⟨[], (List.append_nil _).symm, List.forall_mem_nil _⟩

lemma raise {e : ε} : Asks S (Effect.raise e : Effect (History ans) ε α) :=
  fun _ => ⟨[], (List.append_nil _).symm, List.forall_mem_nil _⟩

lemma lift {x : Except ε α} : Asks S (Effect.lift x : Effect (History ans) ε α) :=
  fun _ => ⟨[], (List.append_nil _).symm, List.forall_mem_nil _⟩

lemma ask {r : ρ} (asked : S r) : Asks S (Interaction.ask env r : Effect (History ans) ε (ans r)) :=
  fun _ => ⟨_, rfl, List.forall_mem_singleton.mpr asked⟩

lemma bind {f : α → Effect (History ans) ε β} (first : Asks S m) (rest : ∀ a, Asks S (f a)) : Asks S (m >>= f) := by
  intro h
  obtain ⟨events, e, asked⟩ := first h
  rw [Effect.bind_apply]
  cases out : m h with
  | mk answer h' =>
    rw [out] at e
    cases answer with
    | error err => exact ⟨events, e, asked⟩
    | ok a =>
      obtain ⟨more, e', asked'⟩ := rest a h'
      refine ⟨events ++ more, ?_, List.forall_mem_append.mpr ⟨asked, asked'⟩⟩
      rw [← List.append_assoc, ← e]
      exact e'

lemma mono (only : Asks S m) (weaker : ∀ r, S r → T r) : Asks T m := by
  intro h
  obtain ⟨events, e, asked⟩ := only h
  exact ⟨events, e, fun event mem => weaker _ (asked event mem)⟩

lemma forEach {f : β → Effect (History ans) ε α} {l : List β} (each : ∀ b ∈ l, Asks S (f b)) :
    Asks S (Interaction.forEach f l) := by
  induction l with
  | nil => exact .pure
  | cons b l ih =>
    refine .bind (each b List.mem_cons_self) fun _ => .bind (ih fun b' mem => each b' (List.mem_cons_of_mem _ mem)) ?_
    exact fun _ => .pure

/-- What the call added to the history, where it returned. -/
lemma returned {a : α} (only : Asks S m) (out : m h = (.ok a, h')) : ∃ events, h' = h ++ events ∧ ∀ e ∈ events, S e.1 := by
  obtain ⟨events, e, asked⟩ := only h
  rw [out] at e
  exact ⟨events, e, asked⟩

end Asks

/-- A loop over a list that returned: what each of its calls returned and added. -/
inductive Each (Q : β → α → History ans → Prop) : List β → List α → History ans → Prop where
  | nil : Each Q [] [] []
  | cons {b l a as events rest} : Q b a events → Each Q l as rest → Each Q (b :: l) (a :: as) (events ++ rest)

lemma forEach_ok {Q : β → α → History ans → Prop} {f : β → Effect (History ans) ε α} {l : List β} {as : List α}
    (each : ∀ b h a h', f b h = (.ok a, h') → ∃ events, h' = h ++ events ∧ Q b a events)
    (ran : forEach f l h = (.ok as, h')) : ∃ events, h' = h ++ events ∧ Each Q l as events := by
  induction l generalizing h as with
  | nil =>
    cases ran
    exact ⟨[], (List.append_nil _).symm, .nil⟩
  | cons b l ih =>
    obtain ⟨a, h₁, first, ran⟩ := Effect.bind_ok_iff.mp ran
    obtain ⟨rest, h₂, looped, ran⟩ := Effect.bind_ok_iff.mp ran
    cases ran
    obtain ⟨events, rfl, q⟩ := each b h a h₁ first
    obtain ⟨more, rfl, all⟩ := ih looped
    exact ⟨events ++ more, List.append_assoc _ _ _, .cons q all⟩

end Interaction
