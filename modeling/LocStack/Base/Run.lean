/-
# `LocStack.Base.Run` — runs of a deterministic machine, and what holds along them

A machine answers an event with a new state and a list of outputs,
`step : σ → ε → σ × List ω`.  An event that is not enabled in a state is
one the machine answers with that same state and no output, so every list
of events is a run and no enabledness relation is needed.

Two properties of a run recur in every development over such a machine:

    StatesMeet step P s es    P holds of every state the run passes through
    StepsMeet step ok s es    ok holds of every (state, event) pair it takes

The second is a condition on the *inputs* of the run, the first a property
of what the machine *does*.  `statesMeet_of_stepsMeet` carries an invariant
along a run whose steps all meet a condition; `statesMeet_iff_stepsMeet`
says when the condition is exact.

Where a property counts what happened, the run is read with its history:
`taken` is the list of steps, `recorded_after` the induction.
-/
import Mathlib.Data.List.Induction

namespace LocStack.Base

open List

variable {σ ε ω : Type*}

/-- The state after the events `es`. -/
def after (step : σ → ε → σ × List ω) : σ → List ε → σ
  | s, [] => s
  | s, e :: es => after step (step s e).1 es

/-- Everything the machine says while it processes `es`, in order. -/
def outs (step : σ → ε → σ × List ω) : σ → List ε → List ω
  | _, [] => []
  | s, e :: es => (step s e).2 ++ outs step (step s e).1 es

/-- `P` holds of every state of the run, the first and the last included. -/
def StatesMeet (step : σ → ε → σ × List ω) (P : σ → Prop) : σ → List ε → Prop
  | s, [] => P s
  | s, e :: es => P s ∧ StatesMeet step P (step s e).1 es

/-- `ok` holds of every step the run takes: of the state before it and its
event. -/
def StepsMeet (step : σ → ε → σ × List ω) (ok : σ → ε → Prop) : σ → List ε → Prop
  | _, [] => True
  | s, e :: es => ok s e ∧ StepsMeet step ok (step s e).1 es

instance decidableStepsMeet {step : σ → ε → σ × List ω} {ok : σ → ε → Prop}
    [hok : ∀ s e, Decidable (ok s e)] : ∀ s es, Decidable (StepsMeet step ok s es)
  | _, [] => .isTrue trivial
  | s, e :: es => @instDecidableAnd _ _ (hok s e) (decidableStepsMeet (step s e).1 es)

/-- The steps the run takes, each as the state before it and its event. -/
def taken (step : σ → ε → σ × List ω) : σ → List ε → List (σ × ε)
  | _, [] => []
  | s, e :: es => (s, e) :: taken step (step s e).1 es

section Basic

variable {step : σ → ε → σ × List ω} {s : σ} {e : ε}

@[simp] theorem after_nil : after step s [] = s := rfl

variable {es : List ε}

@[simp] theorem after_cons :
    after step s (e :: es) = after step (step s e).1 es := rfl

@[simp] theorem outs_nil : outs step s [] = [] := rfl

@[simp] theorem outs_cons :
    outs step s (e :: es) = (step s e).2 ++ outs step (step s e).1 es := rfl

theorem after_append (s : σ) (es fs : List ε) :
    after step s (es ++ fs) = after step (after step s es) fs := by
  induction es generalizing s with
  | nil => rfl
  | cons e es ih => exact ih _

theorem outs_append (s : σ) (es fs : List ε) :
    outs step s (es ++ fs) = outs step s es ++ outs step (after step s es) fs := by
  induction es generalizing s with
  | nil => rfl
  | cons e es ih =>
    simp only [cons_append, outs_cons, after_cons, append_assoc]
    rw [ih]

theorem taken_append (s : σ) (es fs : List ε) :
    taken step s (es ++ fs) = taken step s es ++ taken step (after step s es) fs := by
  induction es generalizing s with
  | nil => rfl
  | cons e es ih =>
    show (s, e) :: taken step (step s e).1 (es ++ fs) = _
    rw [ih]
    rfl

/-- What is said along a run is said at one of its steps. -/
theorem mem_outs_iff {o : ω} {s : σ} :
    o ∈ outs step s es ↔
      ∃ pre e post, es = pre ++ e :: post ∧ o ∈ (step (after step s pre) e).2 := by
  induction es generalizing s with
  | nil => simp
  | cons f es ih =>
    rw [outs_cons, mem_append, ih]
    constructor
    · rintro (hf | ⟨pre, e, post, rfl, ho⟩)
      · exact ⟨[], f, es, rfl, hf⟩
      · exact ⟨f :: pre, e, post, rfl, ho⟩
    · rintro ⟨pre, e, post, heq, ho⟩
      cases pre with
      | nil =>
        obtain ⟨rfl, -⟩ := List.cons.inj heq
        exact Or.inl ho
      | cons g pre =>
        obtain ⟨rfl, rfl⟩ := List.cons.inj heq
        exact Or.inr ⟨pre, e, post, rfl, ho⟩

/-- An invariant of the state together with the steps taken and the outputs
given so far. -/
theorem recorded_after {R : σ → List (σ × ε) → List ω → Prop}
    (hstep : ∀ s e tr out, R s tr out → R (step s e).1 (tr ++ [(s, e)]) (out ++ (step s e).2))
    {s : σ} (hs : R s [] []) (es : List ε) :
    R (after step s es) (taken step s es) (outs step s es) := by
  induction es using List.reverseRecOn with
  | nil => exact hs
  | append_singleton es e ih =>
    rw [after_append, taken_append, outs_append]
    have h := hstep (after step s es) e _ _ ih
    rw [← append_nil (step (after step s es) e).2] at h
    exact h

/-- An invariant of the state and the outputs so far, where the events are as
`ok` wants them. -/
theorem recorded_after_of_forall {R : σ → List ω → Prop} {ok : ε → Prop}
    (hstep : ∀ s e out, R s out → ok e → R (step s e).1 (out ++ (step s e).2)) {s : σ} (hs : R s [])
    (h : ∀ e ∈ es, ok e) : R (after step s es) (outs step s es) := by
  induction es using List.reverseRecOn with
  | nil => exact hs
  | append_singleton es e ih =>
    rw [forall_mem_append, forall_mem_singleton] at h
    rw [after_append, outs_append, after_cons, after_nil, outs_cons, outs_nil, append_nil]
    exact hstep _ e _ (ih h.1) h.2

end Basic

section Along

variable {step : σ → ε → σ × List ω} {P Q : σ → Prop} {ok : σ → ε → Prop} {s : σ} {es : List ε}
  {ok' : σ → ε → Prop}

/-- `StepsMeet`, read off the ways to cut the run at one event. -/
theorem stepsMeet_iff : StepsMeet step ok s es ↔
      ∀ pre e post, es = pre ++ e :: post → ok (after step s pre) e := by
  induction es generalizing s with
  | nil => simp [StepsMeet]
  | cons f es ih =>
    simp only [StepsMeet, ih]
    constructor
    · rintro ⟨hf, hes⟩ pre e post heq
      cases pre with
      | nil =>
        obtain ⟨rfl, -⟩ := List.cons.inj heq
        exact hf
      | cons g pre =>
        obtain ⟨rfl, hrest⟩ := List.cons.inj heq
        exact hes pre e post hrest
    · intro h
      exact ⟨h [] f es rfl, fun pre e post heq => h (f :: pre) e post (by rw [heq]; rfl)⟩

theorem StatesMeet.head (h : StatesMeet step P s es) : P s := by
  cases es with
  | nil => exact h
  | cons e es => exact h.1

theorem StatesMeet.last (h : StatesMeet step P s es) : P (after step s es) := by
  induction es generalizing s with
  | nil => exact h
  | cons e es ih => exact ih h.2

theorem StatesMeet.stepsMeet (hok : ∀ s e, P s → P (step s e).1 → ok s e)
    (h : StatesMeet step P s es) : StepsMeet step ok s es := by
  induction es generalizing s with
  | nil => trivial
  | cons e es ih => exact ⟨hok s e h.1 h.2.head, ih h.2⟩

theorem StatesMeet.mono (hPQ : ∀ s, P s → Q s) (h : StatesMeet step P s es) :
    StatesMeet step Q s es := by
  induction es generalizing s with
  | nil => exact hPQ s h
  | cons e es ih => exact ⟨hPQ s h.1, ih h.2⟩

theorem StepsMeet.mono (hok : ∀ s e, ok s e → ok' s e) (h : StepsMeet step ok s es) :
    StepsMeet step ok' s es := by
  induction es generalizing s with
  | nil => trivial
  | cons e es ih => exact ⟨hok s e h.1, ih h.2⟩

theorem StepsMeet.and (h : StepsMeet step ok s es) (h' : StepsMeet step ok' s es) :
    StepsMeet step (fun s e => ok s e ∧ ok' s e) s es := by
  induction es generalizing s with
  | nil => trivial
  | cons e es ih => exact ⟨⟨h.1, h'.1⟩, ih h.2 h'.2⟩

/-- A condition on the events alone. -/
theorem stepsMeet_of_forall {p : ε → Prop} (h : ∀ e ∈ es, p e) (s : σ) :
    StepsMeet step (fun _ e => p e) s es := by
  induction es generalizing s with
  | nil => trivial
  | cons e es ih =>
    exact ⟨h e mem_cons_self, ih (fun f hf => h f (mem_cons_of_mem _ hf)) _⟩

/-- An invariant that every step meeting `ok` preserves holds along every
run whose steps meet `ok`. -/
theorem statesMeet_of_stepsMeet (hstep : ∀ s e, P s → ok s e → P (step s e).1) (hs : P s)
    (h : StepsMeet step ok s es) : StatesMeet step P s es := by
  induction es generalizing s with
  | nil => exact hs
  | cons e es ih => exact ⟨hs, ih (hstep s e hs h.1) h.2⟩

/-- The outputs of such a run, where each step's are as `Q` wants them. -/
theorem forall_outs_of_stepsMeet {Q : ω → Prop} (hstep : ∀ s e, P s → ok s e → P (step s e).1)
    (hout : ∀ s e, P s → ok s e → ∀ o ∈ (step s e).2, Q o) (hs : P s) (h : StepsMeet step ok s es) :
    ∀ o ∈ outs step s es, Q o := by
  induction es generalizing s with
  | nil => exact fun _ ho => absurd ho not_mem_nil
  | cons e es ih =>
    intro o ho
    rcases mem_append.mp ho with ho | ho
    · exact hout s e hs h.1 o ho
    · exact ih (hstep s e hs h.1) h.2 o ho

section

variable (hstep : ∀ s e, P s → P (step s e).1)
include hstep

/-- The unconditional case: a preserved property holds after every run. -/
theorem invariant_after (hs : P s) (es : List ε) : P (after step s es) := by
  induction es generalizing s with
  | nil => exact hs
  | cons e es ih => exact ih (hstep s e hs)

/-- The unconditional case along a run: of every state it passes through. -/
theorem statesMeet_of_invariant (hs : P s) (es : List ε) : StatesMeet step P s es := by
  induction es generalizing s with
  | nil => exact hs
  | cons e es ih => exact ⟨hs, ih (hstep s e hs)⟩

theorem stepsMeet_of_invariant (hok : ∀ s e, P s → ok s e) (hs : P s) (es : List ε) :
    StepsMeet step ok s es := by
  induction es generalizing s with
  | nil => trivial
  | cons e es ih => exact ⟨hok s e hs, ih (hstep s e hs)⟩

end

/-- When a step preserves `P` exactly if it meets `ok`, a run keeps `P`
throughout exactly if all its steps meet `ok`.  `Q` is what else is known
of the states of any run. -/
theorem statesMeet_iff_stepsMeet (hQ : ∀ s e, Q s → Q (step s e).1)
    (hexact : ∀ s e, Q s → P s → (P (step s e).1 ↔ ok s e)) (hq : Q s) (hs : P s) :
    StatesMeet step P s es ↔ StepsMeet step ok s es := by
  induction es generalizing s with
  | nil => exact ⟨fun _ => trivial, fun _ => hs⟩
  | cons e es ih =>
    constructor
    · rintro ⟨_, h⟩
      exact ⟨(hexact s e hq hs).mp h.head, (ih (hQ s e hq) h.head).mp h⟩
    · rintro ⟨hok, h⟩
      have hs' := (hexact s e hq hs).mpr hok
      exact ⟨hs, (ih (hQ s e hq) hs').mpr h⟩

/-- The same for runs whose steps all meet `pre`, with an invariant that
`ok` keeps and that has `P` as one of its parts. -/
theorem statesMeet_iff_stepsMeet_of_pre (Inv : σ → Prop) {pre : σ → ε → Prop}
    (hP : ∀ s, Inv s → P s) (hkeep : ∀ s e, Inv s → pre s e → ok s e → Inv (step s e).1)
    (hexact : ∀ s e, Inv s → pre s e → P (step s e).1 → ok s e) (hs : Inv s)
    (hpre : StepsMeet step pre s es) : StatesMeet step P s es ↔ StepsMeet step ok s es := by
  induction es generalizing s with
  | nil => exact ⟨fun _ => trivial, fun _ => hP s hs⟩
  | cons e es ih =>
    constructor
    · rintro ⟨_, h⟩
      have hok := hexact s e hs hpre.1 h.head
      exact ⟨hok, (ih (hkeep s e hs hpre.1 hok) hpre.2).mp h⟩
    · rintro ⟨hok, h⟩
      exact ⟨hP s hs, (ih (hkeep s e hs hpre.1 hok) hpre.2).mpr h⟩

theorem statesMeet_iff_stepsMeet_of_inv (Inv : σ → Prop) (hP : ∀ s, Inv s → P s)
    (hkeep : ∀ s e, Inv s → ok s e → Inv (step s e).1)
    (hexact : ∀ s e, Inv s → P (step s e).1 → ok s e) (hs : Inv s) (es : List ε) :
    StatesMeet step P s es ↔ StepsMeet step ok s es := by
  have hpre : StepsMeet step (fun _ _ => True) s es :=
    stepsMeet_of_invariant (P := fun _ => True) (fun _ _ _ => trivial) (fun _ _ _ => trivial)
      trivial es
  exact statesMeet_iff_stepsMeet_of_pre Inv hP (fun s e h _ => hkeep s e h)
    (fun s e h _ => hexact s e h) hs hpre

/-- Two conditions on the steps that agree wherever an invariant holds, which
one of them keeps. -/
theorem stepsMeet_congr (Inv : σ → Prop) (hkeep : ∀ s e, Inv s → ok' s e → Inv (step s e).1)
    (hexact : ∀ s e, Inv s → (ok s e ↔ ok' s e)) (hs : Inv s) (es : List ε) :
    StepsMeet step ok s es ↔ StepsMeet step ok' s es := by
  induction es generalizing s with
  | nil => exact Iff.rfl
  | cons e es ih =>
    constructor
    · rintro ⟨hok, h⟩
      have hok' := (hexact s e hs).mp hok
      exact ⟨hok', (ih (hkeep s e hs hok')).mp h⟩
    · rintro ⟨hok', h⟩
      exact ⟨(hexact s e hs).mpr hok', (ih (hkeep s e hs hok')).mpr h⟩

end Along

end LocStack.Base
