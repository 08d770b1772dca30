import LibraryManagement.Lib.Swift
import Mathlib.Data.Set.Defs

/-!
# What a computation appends to a log

A computation that may trap appends entries to a log, which is a part of its state. It may have
appended some of them when it traps, so `Emits Inv log S x Q` is about both ends of `x`: from a
state with the invariant every entry that `x` appends is in `S`, the invariant holds in the last
state, and a result of `x` meets `Q`.

One rule for each operation of `Traps`; a sequence goes through `Emits.bind`.
-/

namespace Traps

variable {σ ω α β : Type} {Inv : σ → Prop} {log : σ → List ω} {S S' : Set ω} {Q Q' : α → Prop}
  {x : Traps σ α} {s t : σ}

/-- The state in which the computation completes or traps. -/
def final (x : Traps σ α) (s : σ) : σ :=
  match x s with
  | .ok _ t => t
  | .error _ t => t

theorem final_of_ok {a : α} (h : x s = .ok a t) : x.final s = t := by rw [final, h]

theorem final_of_error {e : Trap} (h : x s = .error e t) : x.final s = t := by rw [final, h]

structure Emits (Inv : σ → Prop) (log : σ → List ω) (S : Set ω) (x : Traps σ α) (Q : α → Prop) :
    Prop where
  inv : ∀ s, Inv s → Inv (x.final s)
  log : ∀ s, Inv s → ∃ ws, (∀ w ∈ ws, w ∈ S) ∧ log (x.final s) = log s ++ ws
  result : ∀ (s t : σ) (a : α), Inv s → x s = .ok a t → Q a

namespace Emits

theorem weaken (h : Emits Inv log S x Q) (hQ : ∀ a, Q a → Q' a) : Emits Inv log S x Q' where
  inv := h.inv
  log := h.log
  result s t a hs ha := hQ a (h.result s t a hs ha)

theorem mono (h : Emits Inv log S x Q) (hS : S ⊆ S') : Emits Inv log S' x Q where
  inv := h.inv
  log s hs := by
    obtain ⟨ws, hws, hlog⟩ := h.log s hs
    exact ⟨ws, fun w hw => hS (hws w hw), hlog⟩
  result := h.result

/-! ## Rules -/

/-- A computation that leaves the state as it is, completed or not. -/
theorem of_read (hfinal : ∀ s, x.final s = s)
    (hresult : ∀ (s t : σ) (a : α), Inv s → x s = .ok a t → Q a) : Emits Inv log S x Q where
  inv s hs := by rwa [hfinal]
  log s _ := ⟨[], by simp, by rw [hfinal, List.append_nil]⟩
  result := hresult

theorem pure {a : α} (h : Q a) : Emits Inv log S (pure a) Q :=
  of_read (fun _ => rfl) fun _ _ _ _ hb => (pure_eq_ok.1 hb).1 ▸ h

/-- Both parts of a sequence append entries in `S`; the second part only if the first one
completes. -/
theorem bind {f : α → Traps σ β} {R : β → Prop} (hx : Emits Inv log S x Q)
    (hf : ∀ a, Q a → Emits Inv log S (f a) R) : Emits Inv log S (x >>= f) R where
  inv s hs := by
    have hinv := hx.inv s hs
    cases hres : x s with
    | error e t =>
      have hbind : (x >>= f) s = .error e t := by rw [bind_apply, hres]
      rwa [final_of_error hbind, ← final_of_error hres]
    | ok a t =>
      have hbind : (x >>= f).final s = (f a).final t := by rw [final, bind_apply, hres, final]
      rw [final_of_ok hres] at hinv
      rw [hbind]
      exact (hf a (hx.result s t a hs hres)).inv t hinv
  log s hs := by
    obtain ⟨ws, hws, hlog⟩ := hx.log s hs
    have hinv := hx.inv s hs
    cases hres : x s with
    | error e t =>
      have hbind : (x >>= f) s = .error e t := by rw [bind_apply, hres]
      rw [final_of_error hbind, ← final_of_error hres]
      exact ⟨ws, hws, hlog⟩
    | ok a t =>
      have hbind : (x >>= f).final s = (f a).final t := by rw [final, bind_apply, hres, final]
      rw [final_of_ok hres] at hinv hlog
      obtain ⟨ws', hws', hlog'⟩ := (hf a (hx.result s t a hs hres)).log t hinv
      refine ⟨ws ++ ws', fun w hw => (List.mem_append.1 hw).elim (hws w) (hws' w), ?_⟩
      rw [hbind, hlog', hlog, List.append_assoc]
  result s u b hs hb := by
    obtain ⟨a, t, ha, hb⟩ := bind_eq_ok.1 hb
    have hinv := hx.inv s hs
    rw [final_of_ok ha] at hinv
    exact (hf a (hx.result s t a hs ha)).result t u b hinv hb

theorem unwrap {o : Option α} : Emits Inv log S (Traps.unwrap o) fun a => o = some a :=
  of_read (fun s => by cases o <;> rfl) fun _ _ _ _ h => (unwrap_eq_ok.1 h).1

theorem cast {o : Option α} : Emits Inv log S (Traps.cast o) fun a => o = some a :=
  of_read (fun s => by cases o <;> rfl) fun _ _ _ _ h => (cast_eq_ok.1 h).1

theorem checked {o : Option α} : Emits Inv log S (Traps.checked o) fun a => o = some a :=
  of_read (fun s => by cases o <;> rfl) fun _ _ _ _ h => (checked_eq_ok.1 h).1

theorem index {xs : List α} {i : ℕ} :
    Emits Inv log S (Traps.index xs i) fun a => xs[i]? = some a :=
  of_read (fun s => by unfold Traps.index; cases xs[i]? <;> rfl)
    fun _ _ _ _ h => (index_eq_ok.1 h).1

/-- A loop appends what its steps append. -/
theorem foldlM {f : β → α → Traps σ β} {xs : List α} {R : β → Prop}
    (h : ∀ b, ∀ a ∈ xs, R b → Emits Inv log S (f b a) R) {b : β} (hb : R b) :
    Emits Inv log S (xs.foldlM f b) R := by
  induction xs generalizing b with
  | nil => exact pure hb
  | cons a xs ih =>
    rw [List.foldlM_cons]
    exact (h b a List.mem_cons_self hb).bind fun b' hb' =>
      ih (fun b a ha => h b a (List.mem_cons_of_mem _ ha)) hb'

theorem mapM {f : α → Traps σ β} {xs : List α} {R : β → Prop}
    (h : ∀ a ∈ xs, Emits Inv log S (f a) R) :
    Emits Inv log S (xs.mapM f) fun bs => ∀ b ∈ bs, R b := by
  induction xs with
  | nil => exact pure (by simp)
  | cons a xs ih =>
    rw [List.mapM_cons]
    obtain ⟨ha, hxs⟩ := List.forall_mem_cons.1 h
    exact ha.bind fun b hb => (ih hxs).bind fun bs hbs => pure (List.forall_mem_cons.2 ⟨hb, hbs⟩)

end Emits

end Traps
