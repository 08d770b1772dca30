import Mathlib.Logic.Basic

/-!
# Runs of a labelled transition system

A system is a relation `step s e t` between a state, the label of a step and the next
state. `Run` is its reflexive-transitive closure with the labels kept in order, so that a
property of every run is a property of every order of steps.

* `Run.invariant` is the one induction every safety result goes through;
* `Guarded` restricts a system to the steps that meet a condition on the state before
  the step and its label: a result about `Guarded` runs says under which condition on the
  steps a property holds in every state reached;
* `Reached` is a state with a run that leads to it, built step by step for concrete runs.
-/

namespace Transition

variable {σ ε : Type*}

/-- Taking the steps labelled `es`, in this order, leads from `s` to the last state. -/
inductive Run (step : σ → ε → σ → Prop) (s : σ) : List ε → σ → Prop
  | nil : Run step s [] s
  | snoc {es : List ε} {t : σ} {e : ε} {u : σ} :
      Run step s es t → step t e u → Run step s (es ++ [e]) u

/-- The steps of a system whose label and state before the step meet `guard`. -/
def Guarded (guard : σ → ε → Prop) (step : σ → ε → σ → Prop) (s : σ) (e : ε) (t : σ) : Prop :=
  guard s e ∧ step s e t

variable {step step' : σ → ε → σ → Prop} {guard : σ → ε → Prop} {s t u : σ} {e : ε} {es : List ε}

namespace Run

/-- A property of the first state that every step preserves holds of every state reached. -/
theorem invariant (Inv : σ → Prop) (hs : Inv s)
    (hstep : ∀ s e t, Inv s → step s e t → Inv t) (h : Run step s es t) : Inv t := by
  induction h with
  | nil => exact hs
  | snoc _ hst ih => exact hstep _ _ _ ih hst

theorem single (h : step s e t) : Run step s [e] t := Run.nil.snoc h

/-- Two runs compose. -/
theorem append {es' : List ε} (h : Run step s es t) (h' : Run step t es' u) :
    Run step s (es ++ es') u := by
  induction h' with
  | nil => rwa [List.append_nil]
  | snoc _ hst ih => rw [← List.append_assoc]; exact .snoc ih hst

theorem cons (h : step s e t) (h' : Run step t es u) : Run step s (e :: es) u :=
  (single h).append h'

/-- A larger step relation has more runs. -/
theorem mono (hle : ∀ s e t, step s e t → step' s e t) (h : Run step s es t) :
    Run step' s es t := by
  induction h with
  | nil => exact .nil
  | snoc _ hst ih => exact .snoc ih (hle _ _ _ hst)

end Run

/-- A guarded run is a run. -/
theorem Run.of_guarded (h : Run (Guarded guard step) s es t) : Run step s es t :=
  h.mono fun _ _ _ hg => hg.2

/-- On the way to a state, or there, `P` held. -/
def Once (step : σ → ε → σ → Prop) (s : σ) (es : List ε) (P : σ → Prop) : Prop :=
  ∃ es₁ es₂ t, es = es₁ ++ es₂ ∧ Run step s es₁ t ∧ P t

theorem Once.now {P : σ → Prop} (h : Run step s es t) (ht : P t) : Once step s es P :=
  ⟨es, [], t, (List.append_nil es).symm, h, ht⟩

theorem Once.later {P : σ → Prop} (h : Once step s es P) (es' : List ε) :
    Once step s (es ++ es') P := by
  obtain ⟨es₁, es₂, t, rfl, hrun, ht⟩ := h
  exact ⟨es₁, es₂ ++ es', t, by rw [List.append_assoc], hrun, ht⟩

/-- By steps whose labels meet `L` a state that meets `P` can be reached. -/
def CanReach (step : σ → ε → σ → Prop) (L : ε → Prop) (s : σ) (P : σ → Prop) : Prop :=
  ∃ es t, (∀ e ∈ es, L e) ∧ Run step s es t ∧ P t

namespace CanReach

variable {L : ε → Prop} {P Q : σ → Prop}

theorem here (hs : P s) : CanReach step L s P := ⟨[], s, by simp, .nil, hs⟩

/-- From each state of the first kind one of the second kind can be reached. -/
theorem trans (h : CanReach step L s P) (hP : ∀ es t, Run step s es t → P t → CanReach step L t Q) :
    CanReach step L s Q := by
  obtain ⟨es, t, hes, hrun, ht⟩ := h
  obtain ⟨es', u, hes', hrun', hu⟩ := hP es t hrun ht
  refine ⟨es ++ es', u, fun e he => ?_, hrun.append hrun', hu⟩
  exact (List.mem_append.1 he).elim (hes e) (hes' e)

/-- A step first. -/
theorem step_first (he : L e) (h : step s e t) (ht : CanReach step L t P) :
    CanReach step L s P := by
  obtain ⟨es, u, hes, hrun, hu⟩ := ht
  exact ⟨e :: es, u, List.forall_mem_cons.2 ⟨he, hes⟩, .cons h hrun, hu⟩

end CanReach

/-! ## Executable systems -/

/-- The steps of an executable system: `f s e` is the next state, if the step can be taken. -/
def Steps (f : σ → ε → Option σ) (s : σ) (e : ε) (t : σ) : Prop := f s e = some t

variable {f : σ → ε → Option σ}

/-- The state after a step, or the same state if the step cannot be taken. -/
def after (f : σ → ε → Option σ) (s : σ) (e : ε) : σ := (f s e).getD s

theorem steps_after (h : (f s e).isSome) : Steps f s e (after f s e) := by
  obtain ⟨t, ht⟩ := Option.isSome_iff_exists.1 h
  rw [Steps, after, ht, Option.getD_some]

/-- A step that is taken only if it meets the guard. -/
def guardedStep (guard : σ → ε → Prop) [∀ s e, Decidable (guard s e)] (f : σ → ε → Option σ)
    (s : σ) (e : ε) : Option σ := if guard s e then f s e else none

/-- Taking several steps that meet the guard is a run. -/
theorem Run.of_foldlM [∀ s e, Decidable (guard s e)]
    (h : es.foldlM (guardedStep guard f) s = some t) : Run (Guarded guard (Steps f)) s es t := by
  induction es generalizing s with
  | nil =>
    obtain rfl := Option.some.inj h
    exact .nil
  | cons e es ih =>
    rw [List.foldlM_cons] at h
    obtain ⟨u, hu, hrest⟩ := Option.bind_eq_some_iff.1 h
    exact .cons (Option.ite_none_right_eq_some.1 hu) (ih hrest)

/-- A state with a run that leads to it. -/
structure Reached (step : σ → ε → σ → Prop) (s : σ) where
  labels : List ε
  state : σ
  run : Run step s labels state

namespace Reached

/-- Before the first step. -/
def start : Reached step s := ⟨[], s, .nil⟩

/-- One more step. -/
def take (r : Reached (Steps f) s) (e : ε) (h : (f r.state e).isSome) : Reached (Steps f) s :=
  ⟨r.labels ++ [e], after f r.state e, r.run.snoc (steps_after h)⟩

/-- One more step that meets the guard. -/
def takeGuarded (r : Reached (Guarded guard (Steps f)) s) (e : ε) (hguard : guard r.state e)
    (h : (f r.state e).isSome) : Reached (Guarded guard (Steps f)) s :=
  ⟨r.labels ++ [e], after f r.state e, r.run.snoc ⟨hguard, steps_after h⟩⟩

/-- Several more steps that meet the guard. -/
def takeAll [∀ s e, Decidable (guard s e)] (r : Reached (Guarded guard (Steps f)) s) (es : List ε)
    (h : (es.foldlM (guardedStep guard f) r.state).isSome) : Reached (Guarded guard (Steps f)) s :=
  ⟨r.labels ++ es, (es.foldlM (guardedStep guard f) r.state).get h,
    r.run.append (Run.of_foldlM (Option.some_get h).symm)⟩

end Reached

end Transition
