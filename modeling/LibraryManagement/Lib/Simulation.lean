import LibraryManagement.Lib.Transition
import Mathlib.Data.List.Forall2

/-!
# Forward simulations

A system refines another one if related states stay related: every step of the first one is
matched by a run of the second, which may be empty (`Simulation.run` is the induction over the
steps). A property of the runs of the second system is then one of the first.

In a `Lockstep` every step is matched by a single one, whose label corresponds.
-/

namespace Transition

variable {σ ε τ δ : Type*} {step : σ → ε → σ → Prop} {step' : τ → δ → τ → Prop}
  {Related : σ → τ → Prop} {s t : σ} {e : ε} {es : List ε} {a : τ}

/-- The steps of the first system are matched by runs of the second. -/
def Simulation (step : σ → ε → σ → Prop) (step' : τ → δ → τ → Prop) (Related : σ → τ → Prop) :
    Prop :=
  ∀ s e t a, Related s a → step s e t → ∃ ds b, Run step' a ds b ∧ Related t b

theorem Simulation.run (h : Simulation step step' Related) (hs : Related s a)
    (hrun : Run step s es t) : ∃ ds b, Run step' a ds b ∧ Related t b := by
  induction hrun with
  | nil => exact ⟨[], a, .nil, hs⟩
  | snoc _ hstep ih =>
    obtain ⟨ds, b, hb, hrelated⟩ := ih
    obtain ⟨ds', c, hc, hrelated⟩ := h _ _ _ _ hrelated hstep
    exact ⟨ds ++ ds', c, hb.append hc, hrelated⟩

/-- Every step of the first system is matched by one of the second, under a label that
corresponds. -/
def Lockstep (step : σ → ε → σ → Prop) (step' : τ → δ → τ → Prop) (Labels : ε → δ → Prop)
    (Related : σ → τ → Prop) : Prop :=
  ∀ s e t a, Related s a → step s e t → ∃ d b, Labels e d ∧ step' a d b ∧ Related t b

theorem Lockstep.run {Labels : ε → δ → Prop} (h : Lockstep step step' Labels Related)
    (hs : Related s a) (hrun : Run step s es t) :
    ∃ ds b, List.Forall₂ Labels es ds ∧ Run step' a ds b ∧ Related t b := by
  induction hrun with
  | nil => exact ⟨[], a, .nil, .nil, hs⟩
  | snoc _ hstep ih =>
    obtain ⟨ds, b, hlabels, hb, hrelated⟩ := ih
    obtain ⟨d, c, hlabel, hc, hrelated⟩ := h _ _ _ _ hrelated hstep
    exact ⟨ds ++ [d], c, List.rel_append hlabels (.cons hlabel .nil), hb.snoc hc, hrelated⟩

end Transition
