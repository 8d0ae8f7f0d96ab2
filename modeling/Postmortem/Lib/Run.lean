import Mathlib.Data.List.Induction
import Mathlib.Tactic.Lemma

/-!
# Runs

A system is a step function on a state; a run folds it over the list of operations. The rules below
are the inductions every result about runs uses: an invariant of the step is an invariant of the run
(`run_invariant`) and a relation the step extends is extended by the run (`run_relation`). `total`
sums an observation of the steps along a run, `trace` collects what they emit.
-/

namespace Run

variable {σ ο : Type}

/-- The state after the operations `ops`, from `s`. -/
def run (step : σ → ο → σ) (s : σ) (ops : List ο) : σ := ops.foldl step s

@[simp] lemma run_nil {step : σ → ο → σ} {s} : run step s [] = s := rfl

@[simp] lemma run_cons {step : σ → ο → σ} {s o ops} :
    run step s (o :: ops) = run step (step s o) ops := rfl

lemma run_append {step : σ → ο → σ} {s ops ops'} :
    run step s (ops ++ ops') = run step (run step s ops) ops' :=
  List.foldl_append

/-- An operation of a longer run, with those before it, is one of the run or the last. -/
lemma split_concat {P : List ο → ο → Prop} {ops o} :
    (∃ before o' after, ops ++ [o] = before ++ o' :: after ∧ P before o') ↔
      (∃ before o' after, ops = before ++ o' :: after ∧ P before o') ∨ P ops o := by
  constructor
  · rintro ⟨before, o', after, e, h⟩
    cases after using List.reverseRecOn with
    | nil =>
      obtain ⟨rfl, same⟩ := List.append_inj' e rfl
      cases same
      exact .inr h
    | append_singleton after last =>
      have e : ops ++ [o] = (before ++ o' :: after) ++ [last] := by simpa using e
      obtain ⟨rfl, _⟩ := List.append_inj' e rfl
      exact .inl ⟨before, o', after, rfl, h⟩
  · rintro (⟨before, o', after, rfl, h⟩ | h)
    · exact ⟨before, o', after ++ [o], by simp, h⟩
    · exact ⟨ops, o, [], rfl, h⟩

/-- An invariant of the step is an invariant of the run. -/
lemma run_invariant {step : σ → ο → σ} {I : σ → Prop} {ops s}
    (h : ∀ s, ∀ o ∈ ops, I s → I (step s o)) (i : I s) : I (run step s ops) := by
  induction ops generalizing s with
  | nil => exact i
  | cons o ops ih =>
    apply ih fun s o' ho => h s o' (List.mem_cons_of_mem _ ho)
    exact h s o List.mem_cons_self i

/-- A relation that every step of the run extends is extended by the run. -/
lemma run_extends {step : σ → ο → σ} {R : σ → σ → Prop} {ops s} (refl : ∀ s, R s s)
    (trans : ∀ s t u, R s t → R t u → R s u)
    (h : ∀ before o after, ops = before ++ o :: after →
      R (run step s before) (step (run step s before) o)) : R s (run step s ops) := by
  induction ops generalizing s with
  | nil => exact refl s
  | cons o ops ih =>
    have first : R s (step s o) := h [] o ops rfl
    apply trans _ _ _ first
    apply ih
    rintro before o' after rfl
    exact h (o :: before) o' after rfl

/-- A relation that every step extends is extended by the run. -/
lemma run_relation {step : σ → ο → σ} {R : σ → σ → Prop} {ops s} (refl : ∀ s, R s s)
    (trans : ∀ s t u, R s t → R t u → R s u) (h : ∀ s, ∀ o ∈ ops, R s (step s o)) :
    R s (run step s ops) := by
  apply run_extends refl trans
  rintro before o after rfl
  exact h _ o (List.mem_append_right _ List.mem_cons_self)

/-- Operations that change nothing where the run starts. -/
lemma run_idle {step : σ → ο → σ} {ops s} (h : ∀ o ∈ ops, step s o = s) : run step s ops = s := by
  induction ops with
  | nil => rfl
  | cons o ops ih =>
    rw [run_cons, h o List.mem_cons_self]
    exact ih fun o' ho => h o' (List.mem_cons_of_mem _ ho)

/-- Operations that change nothing where they stand can be left out. -/
lemma run_filter {step : σ → ο → σ} {keep : ο → Bool} {ops s}
    (h : ∀ before o after, ops = before ++ o :: after → keep o = false →
      step (run step s before) o = run step s before) :
    run step s (ops.filter keep) = run step s ops := by
  induction ops generalizing s with
  | nil => rfl
  | cons o ops ih =>
    have rest : run step (step s o) (ops.filter keep) = run step (step s o) ops := by
      apply ih
      intro before o' after e
      exact h (o :: before) o' after (by rw [e]; rfl)
    cases ho : keep o with
    | true =>
      rw [List.filter_cons_of_pos ho]
      exact rest
    | false =>
      have idle : step s o = s := h [] o ops rfl ho
      rw [List.filter_cons_of_neg (by simp [ho]), run_cons, ← rest, idle]

/-- Where every operation that changes the state adds to a measure, a run adds to it or changes
nothing. -/
lemma run_measure {step : σ → ο → σ} {I : σ → Prop} {m : σ → Nat} {ops s}
    (hI : ∀ s, ∀ o ∈ ops, I s → I (step s o))
    (h : ∀ s, ∀ o ∈ ops, I s → step s o = s ∨ m s < m (step s o)) (i : I s) :
    m s < m (run step s ops) ∨ ∀ o ∈ ops, step s o = s := by
  induction ops generalizing s with
  | nil =>
    right
    intro o ho
    cases ho
  | cons o ops ih =>
    have rest := ih (s := step s o) (fun s o' ho => hI s o' (List.mem_cons_of_mem _ ho))
      (fun s o' ho => h s o' (List.mem_cons_of_mem _ ho)) (hI s o List.mem_cons_self i)
    rcases h s o List.mem_cons_self i with idle | grows
    · rw [idle] at rest
      rw [run_cons, idle]
      rcases rest with grows | idles
      · exact .inl grows
      · right
        intro o' ho
        rcases List.mem_cons.mp ho with rfl | ho
        · exact idle
        · exact idles o' ho
    · left
      rw [run_cons]
      rcases rest with grows' | idles
      · exact Nat.lt_trans grows grows'
      · rw [run_idle idles]
        exact grows

/-- The sum of `f` over the steps of the run. -/
def total (step : σ → ο → σ) (f : σ → ο → Nat) : σ → List ο → Nat
  | _, [] => 0
  | s, o :: ops => f s o + total step f (step s o) ops

lemma total_append {step : σ → ο → σ} {f s ops ops'} :
    total step f s (ops ++ ops') = total step f s ops + total step f (run step s ops) ops' := by
  induction ops generalizing s with
  | nil => simp [total]
  | cons o ops ih => simp [total, ih, Nat.add_assoc]

lemma total_concat {step : σ → ο → σ} {f s ops o} :
    total step f s (ops ++ [o]) = total step f s ops + f (run step s ops) o := by
  simp [total_append, total]

/-- What the steps of the run emit, in order. -/
def trace {τ : Type} (step : σ → ο → σ) (f : σ → ο → List τ) : σ → List ο → List τ
  | _, [] => []
  | s, o :: ops => f s o ++ trace step f (step s o) ops

lemma trace_append {τ : Type} {step : σ → ο → σ} {f : σ → ο → List τ} {s ops ops'} :
    trace step f s (ops ++ ops') = trace step f s ops ++ trace step f (run step s ops) ops' := by
  induction ops generalizing s with
  | nil => rfl
  | cons o ops ih => rw [List.cons_append, trace, trace, ih, List.append_assoc, run_cons]

/-- What is made of the trace piece by piece is made of what each step emits. -/
lemma trace_hom {τ υ : Type} {step : σ → ο → σ} {f : σ → ο → List τ} {g : List τ → List υ} {s ops} (nil : g [] = [])
    (append : ∀ l l', g (l ++ l') = g l ++ g l') :
    g (trace step f s ops) = trace step (fun s o => g (f s o)) s ops := by
  induction ops generalizing s with
  | nil => exact nil
  | cons o ops ih => rw [trace, append, ih, trace]

/-- A part of the state that every step changes by running what it emits is changed by running the
trace. -/
lemma run_trace {τ ρ : Type} {step : σ → ο → σ} {f : σ → ο → List τ} {part : σ → ρ} {g : ρ → τ → ρ} {s ops}
    (h : ∀ s o, part (step s o) = run g (part s) (f s o)) :
    part (run step s ops) = run g (part s) (trace step f s ops) := by
  induction ops generalizing s with
  | nil => rfl
  | cons o ops ih => rw [run_cons, ih, h, trace, run_append]

/-- Every step of the run meets the condition, where it stands. -/
def Each (step : σ → ο → σ) (C : σ → ο → Prop) : σ → List ο → Prop
  | _, [] => True
  | s, o :: ops => C s o ∧ Each step C (step s o) ops

instance Each.decidable {step : σ → ο → σ} {C : σ → ο → Prop} [∀ s o, Decidable (C s o)] :
    ∀ s ops, Decidable (Each step C s ops)
  | _, [] => isTrue trivial
  | s, o :: ops =>
    have := @Each.decidable step C _ (step s o) ops
    inferInstanceAs (Decidable (_ ∧ _))

lemma Each.all {step : σ → ο → σ} {C : σ → ο → Prop} {ops s} (all : ∀ s o, C s o) : Each step C s ops := by
  induction ops generalizing s with
  | nil => trivial
  | cons o ops ih => exact ⟨all s o, ih⟩

lemma Each.and {step : σ → ο → σ} {C D : σ → ο → Prop} {ops s} (c : Each step C s ops)
    (d : Each step D s ops) : Each step (fun s o => C s o ∧ D s o) s ops := by
  induction ops generalizing s with
  | nil => trivial
  | cons o ops ih => exact ⟨⟨c.1, d.1⟩, ih c.2 d.2⟩

/-- What a step that meets the condition keeps holds all along a run of such steps. -/
lemma Each.always {step : σ → ο → σ} {I : σ → Prop} {C : σ → ο → Prop} {ops s}
    (h : ∀ s o, C s o → I s → I (step s o)) (each : Each step C s ops) (i : I s) :
    ∀ before after, ops = before ++ after → I (run step s before) := by
  induction ops generalizing s with
  | nil =>
    intro before after e
    rw [(List.append_eq_nil_iff.mp e.symm).1]
    exact i
  | cons o ops ih =>
    intro before after e
    cases before with
    | nil => exact i
    | cons o' before =>
      obtain ⟨rfl, rest⟩ := List.cons.inj e
      exact ih each.2 (h s o each.1 i) before after rest

/-- What a step keeps exactly if it meets the condition holds all along a run exactly if every step does. -/
lemma always_iff_each {step : σ → ο → σ} {I : σ → Prop} {C : σ → ο → Prop} {ops s}
    (h : ∀ s o, I s → (I (step s o) ↔ C s o)) (i : I s) :
    (∀ before after, ops = before ++ after → I (run step s before)) ↔ Each step C s ops := by
  induction ops generalizing s with
  | nil =>
    constructor
    · exact fun _ => trivial
    · intro _ before after e
      rw [(List.append_eq_nil_iff.mp e.symm).1]
      exact i
  | cons o ops ih =>
    constructor
    · intro always
      have kept : I (step s o) := always [o] ops rfl
      refine ⟨(h s o i).mp kept, (ih kept).mp ?_⟩
      rintro before after rfl
      exact always (o :: before) after rfl
    · intro each
      exact Each.always (fun s o meets i => (h s o i).mpr meets) each i

/-- What a step that meets the condition keeps of the state and of all that was emitted before it, a run of
such steps keeps. -/
lemma run_traced {τ : Type} {step : σ → ο → σ} {f : σ → ο → List τ} {I : List τ → σ → Prop}
    {C : σ → ο → Prop} {ops l s} (h : ∀ l s o, C s o → I l s → I (l ++ f s o) (step s o))
    (each : Each step C s ops) (i : I l s) : I (l ++ trace step f s ops) (run step s ops) := by
  induction ops generalizing l s with
  | nil => simpa [trace] using i
  | cons o ops ih =>
    rw [trace, ← List.append_assoc, run_cons]
    exact ih each.2 (h l s o each.1 i)

end Run
