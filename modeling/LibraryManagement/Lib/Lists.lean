import Mathlib.Algebra.GroupWithZero.Nat
import Mathlib.Data.List.Perm.Basic
import Mathlib.Data.List.Nodup

/-!
# Lists by classes

`flatMap_filter_perm`: selecting the elements of a list class by class gives the list back, up
to the order, so the sizes of the classes add up (`sum_countP_eq_length`). A class is the set of
elements with one key, and each key is taken once.
-/

namespace List

variable {α κ : Type*} [DecidableEq κ] {key : α → Option κ} {ks : List κ} {xs : List α} {x : α}
  {k : κ}

/-- The classes of one more element are as before but for its own. -/
theorem flatMap_ite_singleton (hks : ks.Nodup) (hk : k ∈ ks) :
    (ks.flatMap fun k' => if k = k' then [x] else []) = [x] := by
  induction ks with
  | nil => cases hk
  | cons k' ks ih =>
    obtain ⟨hnotMem, hrest⟩ := nodup_cons.1 hks
    rw [flatMap_cons]
    by_cases heq : k = k'
    · -- The key is not taken again in the rest.
      have hempty : (ks.flatMap fun k' => if k = k' then [x] else []) = [] := by
        refine flatMap_eq_nil_iff.2 fun k'' hk'' => if_neg ?_
        rintro rfl
        exact hnotMem (heq ▸ hk'')
      rw [if_pos heq, hempty, append_nil]
    · have hmem : k ∈ ks := (mem_cons.1 hk).resolve_left heq
      rw [if_neg heq, nil_append, ih hrest hmem]

/-- The classes of a list are the whole list. -/
theorem flatMap_filter_perm (hks : ks.Nodup) (hkeys : ∀ x ∈ xs, ∃ k ∈ ks, key x = some k) :
    (ks.flatMap fun k => xs.filter fun x => key x = some k).Perm xs := by
  induction xs with
  | nil => simp
  | cons x xs ih =>
    obtain ⟨k, hk, hkey⟩ := hkeys x mem_cons_self
    have hclass (k' : κ) : ((x :: xs).filter fun x => key x = some k') =
        (if k = k' then [x] else []) ++ xs.filter fun x => key x = some k' := by
      rw [filter_cons, hkey]
      by_cases heq : k = k' <;> simp [heq]
    have hsplit := flatMap_append_perm ks (fun k' => if k = k' then [x] else [])
      fun k' => xs.filter fun x => key x = some k'
    rw [flatMap_ite_singleton hks hk] at hsplit
    simp only [hclass]
    exact hsplit.symm.trans ((ih fun y hy => hkeys y (mem_cons_of_mem _ hy)).cons x)

/-- The sizes of the classes add up to the length of the list. -/
theorem sum_countP_eq_length (hks : ks.Nodup) (hkeys : ∀ x ∈ xs, ∃ k ∈ ks, key x = some k) :
    (ks.map fun k => xs.countP fun x => key x = some k).sum = xs.length := by
  have hlength := (flatMap_filter_perm hks hkeys).length_eq
  rw [length_flatMap] at hlength
  simpa only [countP_eq_length_filter] using hlength

end List
