import LibraryManagement.Lib.Swift
import Mathlib.Data.Set.Insert

/-!
# Hoare triples for computations that may trap

`Triple E P x Q`: from a state in which `P` holds, `x` completes with a result and a state that
meet `Q`, or stops with one of the traps in `E`. One rule for each operation of `Traps`; a
sequence whose first part only establishes a fact about its result goes through `Triple.read`.
-/

namespace Traps

variable {σ α β : Type} {E : Set Trap} {P P' : σ → Prop} {Q Q' : α → σ → Prop} {x : Traps σ α}
  {s t : σ}

def Triple (E : Set Trap) (P : σ → Prop) (x : Traps σ α) (Q : α → σ → Prop) : Prop :=
  ∀ s, P s → match x s with
    | .ok a t => Q a t
    | .error e _ => e ∈ E

namespace Triple

/-- What holds after the computation completed. -/
theorem ok {a : α} (h : Triple E P x Q) (hs : P s) (hx : x s = .ok a t) : Q a t := by
  have hpost := h s hs
  rwa [hx] at hpost

/-- Which traps the computation ends in. -/
theorem error {e : Trap} (h : Triple E P x Q) (hs : P s) (hx : x s = .error e t) : e ∈ E := by
  have hpost := h s hs
  rwa [hx] at hpost

theorem weaken (h : Triple E P x Q) (hP : ∀ s, P' s → P s) (hQ : ∀ a s, Q a s → Q' a s) :
    Triple E P' x Q' := by
  intro s hs
  cases hx : x s with
  | ok a t => exact hQ a t (h.ok (hP s hs) hx)
  | error e t => exact h.error (hP s hs) hx

/-- Nothing is to be known about the computation. -/
theorem any : Triple Set.univ P x fun _ _ => True := by
  intro s _
  cases x s <;> trivial

/-! ## Rules -/

theorem pure {a : α} (h : ∀ s, P s → Q a s) : Triple E P (pure a : Traps σ α) Q := h

theorem throw {e : Trap} (he : e ∈ E) : Triple E P (throw e : Traps σ α) Q := fun _ _ => he

theorem bind {f : α → Traps σ β} {R : β → σ → Prop} (hx : Triple E P x Q)
    (hf : ∀ a, Triple E (Q a) (f a) R) : Triple E P (x >>= f) R := by
  intro s hs
  rw [bind_apply]
  cases hres : x s with
  | ok a t => exact hf a t (hx.ok hs hres)
  | error e t => exact hx.error hs hres

/-- After a computation that establishes a fact about its result. -/
theorem read {f : α → Traps σ β} {R : β → σ → Prop} {φ : α → Prop}
    (hx : Triple E P x fun a s => φ a ∧ P' s) (hf : ∀ a, φ a → Triple E P' (f a) R) :
    Triple E P (x >>= f) R :=
  hx.bind fun a s hs => hf a hs.1 s hs.2

theorem unwrap {o : Option α} (he : .unwrappedNil ∈ E) :
    Triple E P (unwrap o) fun a s => o = some a ∧ P s := by
  cases o with
  | none => exact throw he
  | some a => exact pure fun s hs => ⟨rfl, hs⟩

theorem cast {o : Option α} (he : .failedCast ∈ E) :
    Triple E P (cast o) fun a s => o = some a ∧ P s := by
  cases o with
  | none => exact throw he
  | some a => exact pure fun s hs => ⟨rfl, hs⟩

theorem checked {o : Option α} (he : .overflow ∈ E) :
    Triple E P (checked o) fun a s => o = some a ∧ P s := by
  cases o with
  | none => exact throw he
  | some a => exact pure fun s hs => ⟨rfl, hs⟩

theorem index {xs : List α} {i : ℕ} (he : .indexOutOfRange ∈ E) :
    Triple E P (index xs i) fun a s => xs[i]? = some a ∧ P s := by
  unfold Traps.index
  cases xs[i]? with
  | none => exact throw he
  | some a => exact pure fun s hs => ⟨rfl, hs⟩

/-- An index inside the array. -/
theorem index_of_lt {xs : List α} {i : ℕ} (hi : i < xs.length) :
    Triple E P (Traps.index xs i) fun a s => xs[i]? = some a ∧ P s := by
  unfold Traps.index
  rw [List.getElem?_eq_getElem hi]
  exact pure fun s hs => ⟨rfl, hs⟩

/-- A loop keeps what each of its steps keeps. -/
theorem foldlM {f : β → α → Traps σ β} {xs : List α} (h : ∀ b a, Triple E P (f b a) fun _ => P)
    (b : β) : Triple E P (xs.foldlM f b) fun _ => P := by
  induction xs generalizing b with
  | nil => exact pure fun s hs => hs
  | cons a xs ih =>
    rw [List.foldlM_cons]
    exact (h b a).bind fun b' => ih b'

theorem mapM {f : α → Traps σ β} {xs : List α} (h : ∀ a, Triple E P (f a) fun _ => P) :
    Triple E P (xs.mapM f) fun _ => P := by
  induction xs with
  | nil => exact pure fun s hs => hs
  | cons a xs ih =>
    rw [List.mapM_cons]
    exact (h a).bind fun b => ih.bind fun bs => pure fun s hs => hs

end Triple

end Traps
