import Mathlib.Tactic.Lemma
import Mathlib.Tactic.Basic

/-!
# Calls with state and exceptions

`Effect σ ε α` is a call that reads and changes a state `σ` and either returns an `α` or raises an
`ε`; what it changed before it raised stays changed. `Meets P m Q E` says what a call does from a state
that satisfies `P`: it returns with `Q`, or raises with `E`. `Agrees m m'` is about two runs: from any two
states, the calls return the same if both return. `Keeps f m` is a frame: the call leaves what `f` reads of the
state as it was. There is one rule for each way to build a call.
-/

/-- A call that may raise. -/
def Effect (σ ε α : Type) : Type := σ → Except ε α × σ

namespace Effect

variable {σ ε α β : Type}

/-- What a call does next, by how it ended. -/
def next (f : α → Effect σ ε β) : Except ε α × σ → Except ε β × σ
  | (.ok a, s) => f a s
  | (.error e, s) => (.error e, s)

instance : Monad (Effect σ ε) where
  pure a s := (.ok a, s)
  bind m f s := next f (m s)

/-- `raise e` -/
def raise (e : ε) : Effect σ ε α := fun s => (.error e, s)

/-- A call that does not touch the state. -/
def lift (x : Except ε α) : Effect σ ε α := fun s => (x, s)

/-- The state. -/
def read : Effect σ ε σ := fun s => (.ok s, s)

/-- Change the state. -/
def update (f : σ → σ) : Effect σ ε Unit := fun s => (.ok (), f s)

/-- `try m except e: h e` -/
def attempt (m : Effect σ ε α) (h : ε → Effect σ ε α) : Effect σ ε α := fun s =>
  match m s with
  | (.ok a, s) => (.ok a, s)
  | (.error e, s) => h e s

@[simp] lemma pure_apply {a : α} {s : σ} : (pure a : Effect σ ε α) s = (.ok a, s) := rfl

lemma bind_apply {m : Effect σ ε α} {f : α → Effect σ ε β} {s} : (m >>= f) s = next f (m s) := rfl

lemma bind_assoc {γ : Type} {m : Effect σ ε α} {f : α → Effect σ ε β} {g : β → Effect σ ε γ} :
    m >>= f >>= g = m >>= fun a => f a >>= g := by
  funext s
  simp only [bind_apply]
  generalize m s = out
  obtain ⟨_ | _, _⟩ := out
  case ok => rfl
  case error => rfl

lemma bind_ok_iff {m : Effect σ ε α} {f : α → Effect σ ε β} {b : β} {s u : σ} :
    (m >>= f) s = (.ok b, u) ↔ ∃ a t, m s = (.ok a, t) ∧ f a t = (.ok b, u) := by
  rw [bind_apply]
  generalize m s = out
  obtain ⟨_ | a, t⟩ := out
  case error => simp [next]
  case ok =>
    constructor
    · intro h
      exact ⟨a, t, rfl, h⟩
    · rintro ⟨a', t', returned, h⟩
      cases returned
      exact h

lemma lift_ok_iff {x : Except ε α} {a : α} {s t : σ} :
    (lift x : Effect σ ε α) s = (.ok a, t) ↔ x = .ok a ∧ t = s := by
  simp [lift, eq_comm]

lemma pure_ok_iff {a b : α} {s t : σ} :
    (pure a : Effect σ ε α) s = (.ok b, t) ↔ b = a ∧ t = s := by
  simp [eq_comm]

/-- The call returns with `Q` or raises with `E`. -/
def Meets (P : σ → Prop) (m : Effect σ ε α) (Q : α → σ → Prop) (E : ε → σ → Prop) : Prop :=
  ∀ s, P s → match m s with
    | (.ok a, t) => Q a t
    | (.error e, t) => E e t

section meets

variable {P P' : σ → Prop} {Q Q' : α → σ → Prop} {E E' : ε → σ → Prop} {m : Effect σ ε α}

lemma Meets.pure {a : α} (h : ∀ s, P s → Q a s) : Meets P (pure a) Q E := h

lemma Meets.raise {e : ε} (h : ∀ s, P s → E e s) : Meets P (raise e) Q E := h

lemma Meets.lift {x : Except ε α} (ok : ∀ a, x = .ok a → ∀ s, P s → Q a s)
    (error : ∀ e, x = .error e → ∀ s, P s → E e s) : Meets P (lift x) Q E := by
  intro s hs
  cases x with
  | ok a => exact ok a rfl s hs
  | error e => exact error e rfl s hs

/-- A value that is computed without the state. -/
lemma Meets.lift_keeps {x : Except ε α} (raised : ∀ e s, P s → E e s) :
    Meets P (Effect.lift x) (fun _ => P) E :=
  Meets.lift (fun _ _ _ h => h) fun e _ s h => raised e s h

lemma Meets.read {Q : σ → σ → Prop} (h : ∀ s, P s → Q s s) : Meets P read Q E := h

lemma Meets.update {f : σ → σ} {Q : Unit → σ → Prop} (h : ∀ s, P s → Q () (f s)) :
    Meets P (update f) Q E := h

lemma Meets.bind {R : β → σ → Prop} {f : α → Effect σ ε β} (first : Meets P m Q E)
    (rest : ∀ a, Meets (Q a) (f a) R E) : Meets P (m >>= f) R E := by
  intro s hs
  have h := first s hs
  rw [bind_apply]
  cases e : m s with
  | mk out t =>
    rw [e] at h
    cases out with
    | ok a => exact rest a t h
    | error _ => exact h

lemma Meets.ok {s t : σ} {a : α} (h : Meets P m Q E) (hs : P s) (returned : m s = (.ok a, t)) : Q a t := by
  have h := h s hs
  rw [returned] at h
  exact h

/-- What holds however the call ends. -/
lemma Meets.always {R : σ → Prop} {s : σ} (h : Meets P m (fun _ => R) (fun _ => R)) (hs : P s) : R (m s).2 := by
  have h := h s hs
  generalize m s = out at h ⊢
  obtain ⟨_ | _, _⟩ := out
  case ok => exact h
  case error => exact h

/-- From one state, how the call returned is known too. -/
lemma Meets.outcome {s₀ : σ} (h : Meets (· = s₀) m Q E) :
    Meets (· = s₀) m (fun a s => Q a s ∧ m s₀ = (.ok a, s)) E := by
  rintro s rfl
  have h := h s rfl
  generalize m s = out at h
  obtain ⟨_ | _, _⟩ := out
  case ok => exact ⟨h, rfl⟩
  case error => exact h

/-- A call that first reads the state. -/
lemma Meets.read_bind {R : β → σ → Prop} {f : σ → Effect σ ε β} (rest : ∀ s, P s → Meets (· = s) (f s) R E) :
    Meets P (Effect.read >>= f) R E := by
  intro s hs
  exact rest s hs s rfl

/-- A call that first computes a value. -/
lemma Meets.lift_bind {R : β → σ → Prop} {x : Except ε α} {f : α → Effect σ ε β}
    (ok : ∀ a, x = .ok a → Meets P (f a) R E) (error : ∀ e, x = .error e → ∀ s, P s → E e s) :
    Meets P (Effect.lift x >>= f) R E := by
  cases x with
  | ok a => exact ok a rfl
  | error e => exact error e rfl

/-- A call whose first step is known to return. -/
lemma Meets.bind_returned {R : β → σ → Prop} {f : α → Effect σ ε β} {s t : σ} {a : α} (returned : m s = (.ok a, t))
    (rest : Meets (· = t) (f a) R E) : Meets (· = s) (m >>= f) R E := by
  rintro _ rfl
  rw [bind_apply, returned]
  exact rest t rfl

/-- A call whose first step is known to raise. -/
lemma Meets.bind_raised {R : β → σ → Prop} {f : α → Effect σ ε β} {s t : σ} {e : ε} (raised : m s = (.error e, t))
    (h : E e t) : Meets (· = s) (m >>= f) R E := by
  rintro _ rfl
  rw [bind_apply, raised]
  exact h

lemma Meets.attempt {h : ε → Effect σ ε α} (body : Meets P m Q E)
    (handler : ∀ e, Meets (E e) (h e) Q E') : Meets P (attempt m h) Q E' := by
  intro s hs
  have b := body s hs
  unfold Effect.attempt
  cases e : m s with
  | mk out t =>
    rw [e] at b
    cases out with
    | ok _ => exact b
    | error err => exact handler err t b

lemma Meets.mono (h : Meets P m Q E) (pre : ∀ s, P' s → P s) (post : ∀ a s, Q a s → Q' a s)
    (raised : ∀ e s, E e s → E' e s) : Meets P' m Q' E' := by
  intro s hs
  have h := h s (pre s hs)
  generalize m s = out at h
  obtain ⟨_ | _, _⟩ := out
  case ok => exact post _ _ h
  case error => exact raised _ _ h

/-- Two facts about one call. -/
lemma Meets.and (h : Meets P m Q E) (h' : Meets P m Q' E') :
    Meets P m (fun a s => Q a s ∧ Q' a s) (fun e s => E e s ∧ E' e s) := by
  intro s hs
  have h := h s hs
  have h' := h' s hs
  generalize m s = out at h h'
  obtain ⟨_ | _, _⟩ := out
  case ok => exact ⟨h, h'⟩
  case error => exact ⟨h, h'⟩

end meets

/-- Whatever the states they start from, the two calls do not return different values. -/
def Agrees (m m' : Effect σ ε α) : Prop :=
  ∀ s s' a a' t t', m s = (.ok a, t) → m' s' = (.ok a', t') → a = a'

section agrees

variable {m m' : Effect σ ε α}

lemma Agrees.pure {a : α} : Agrees (pure a : Effect σ ε α) (pure a) := by
  rintro s s' _ _ _ _ ⟨⟩ ⟨⟩
  rfl

lemma Agrees.lift {x : Except ε α} : Agrees (lift x : Effect σ ε α) (lift x) := by
  intro s s' a a' t t' h h'
  obtain ⟨e, _⟩ := lift_ok_iff.mp h
  obtain ⟨e', _⟩ := lift_ok_iff.mp h'
  exact Except.ok.inj (e.symm.trans e')

lemma Agrees.raise_left {e : ε} : Agrees (raise e) m := by
  rintro s s' _ _ _ _ ⟨⟩

lemma Agrees.raise_right {e : ε} : Agrees m (raise e) := by
  rintro s s' _ _ _ _ _ ⟨⟩

/-- Calls that agree are followed by calls that agree. -/
lemma Agrees.bind {f f' : α → Effect σ ε β} (first : Agrees m m') (rest : ∀ a, Agrees (f a) (f' a)) :
    Agrees (m >>= f) (m' >>= f') := by
  intro s s' b b' u u' h h'
  obtain ⟨a, t, returned, h⟩ := bind_ok_iff.mp h
  obtain ⟨a', t', returned', h'⟩ := bind_ok_iff.mp h'
  cases first s s' a a' t t' returned returned'
  exact rest a t t' b b' u u' h h'

/-- What a call returns does not matter if what follows agrees whatever it is. -/
lemma Agrees.skip {f f' : α → Effect σ ε β} (rest : ∀ a a', Agrees (f a) (f' a')) :
    Agrees (m >>= f) (m' >>= f') := by
  intro s s' b b' u u' h h'
  obtain ⟨a, t, _, h⟩ := bind_ok_iff.mp h
  obtain ⟨a', t', _, h'⟩ := bind_ok_iff.mp h'
  exact rest a a' t t' b b' u u' h h'

end agrees

/-- However it ends, the call leaves what `f` reads of the state as it was. -/
def Keeps {τ : Type} (f : σ → τ) (m : Effect σ ε α) : Prop := ∀ s, f (m s).2 = f s

section keeps

variable {τ : Type} {f : σ → τ} {m : Effect σ ε α}

lemma Keeps.pure {a : α} : Keeps f (pure a : Effect σ ε α) := fun _ => rfl

lemma Keeps.raise {e : ε} : Keeps f (raise e : Effect σ ε α) := fun _ => rfl

lemma Keeps.lift {x : Except ε α} : Keeps f (lift x : Effect σ ε α) := fun _ => rfl

lemma Keeps.read : Keeps f (read : Effect σ ε σ) := fun _ => rfl

lemma Keeps.update {g : σ → σ} (h : ∀ s, f (g s) = f s) : Keeps f (update g : Effect σ ε Unit) := h

lemma Keeps.bind {g : α → Effect σ ε β} (first : Keeps f m) (rest : ∀ a, Keeps f (g a)) : Keeps f (m >>= g) := by
  intro s
  rw [bind_apply, ← first s]
  generalize m s = out
  obtain ⟨_ | a, t⟩ := out
  case error => rfl
  case ok => exact rest a t

/-- A call that first changes what `f` does not read. -/
lemma Keeps.update_bind {g : σ → σ} {h : Unit → Effect σ ε β} (same : ∀ s, f (g s) = f s) (rest : ∀ a, Keeps f (h a)) :
    Keeps f (Effect.update g >>= h) :=
  Keeps.bind (Keeps.update same) rest

lemma Keeps.ok {a : α} {s t : σ} (h : Keeps f m) (returned : m s = (.ok a, t)) : f t = f s := by
  rw [← h s, returned]

end keeps

end Effect
