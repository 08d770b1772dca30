import LibraryManagement.Lib.Transition
import Mathlib.Data.Set.Card

/-!
# Lending copies

What a lending library is for: it has so many copies of each book, a loan is of one copy of one
book, and no more copies are lent than there are. A `Ledger` carries that as a field, so every
operation on it takes a proof that a copy is left, or that the stock stays large enough.

Nothing is counted here: the number of lent copies is the number of loans (`Ledger.lent`).
-/

open Transition

structure Ledger (β ι : Type*) where
  /-- How many copies there are of a book. -/
  stock : β → ℕ
  /-- The book that was lent. -/
  loan : ι → Option β
  within : ∀ b, {i | loan i = some b}.encard ≤ stock b

namespace Ledger

variable {β ι : Type*}

/-- How many copies of a book are lent. -/
noncomputable def lent (l : Ledger β ι) (b : β) : ℕ∞ := {i | l.loan i = some b}.encard

/-- A library without books. -/
def empty : Ledger β ι := ⟨fun _ => 0, fun _ => none, fun b => by simp⟩

/-! ## Operations -/

variable [DecidableEq β] [DecidableEq ι] (l : Ledger β ι)

/-- There are `n` copies of a book from now on. -/
def setStock (b : β) (n : ℕ) (h : l.lent b ≤ n) : Ledger β ι where
  stock := Function.update l.stock b n
  loan := l.loan
  within a := by
    rw [Function.update_apply]
    split
    · next heq => exact heq ▸ h
    · exact l.within a

/-- The loans of a book after a new loan. -/
theorem loans_update {i : ι} (hi : l.loan i = none) (b a : β) :
    {j | Function.update l.loan i (some b) j = some a} =
      if b = a then insert i {j | l.loan j = some a} else {j | l.loan j = some a} := by
  ext j
  by_cases hj : j = i
  · subst hj
    split <;> simp_all
  · split <;> simp [hj]

/-- A copy is lent. -/
def lend (i : ι) (b : β) (hi : l.loan i = none) (h : l.lent b < l.stock b) : Ledger β ι where
  stock := l.stock
  loan := Function.update l.loan i (some b)
  within a := by
    rw [loans_update l hi]
    split
    · next heq =>
      subst heq
      rw [Set.encard_insert_of_notMem (by simp [hi])]
      exact Order.add_one_le_of_lt h
    · exact l.within a

/-- A copy is given back. -/
def giveBack (i : ι) : Ledger β ι where
  stock := l.stock
  loan := Function.update l.loan i none
  within a := by
    refine (Set.encard_le_encard fun j hj => ?_).trans (l.within a)
    have hj : Function.update l.loan i none j = some a := hj
    rw [Function.update_apply] at hj
    split at hj
    · cases hj
    · exact hj

inductive Op (β ι : Type*)
  | setStock (b : β) (n : ℕ)
  | lend (i : ι) (b : β)
  | giveBack (i : ι)

inductive Step (l : Ledger β ι) : Op β ι → Ledger β ι → Prop
  | setStock {b : β} {n : ℕ} (h : l.lent b ≤ n) : Step l (.setStock b n) (l.setStock b n h)
  | lend {i : ι} {b : β} (hi : l.loan i = none) (h : l.lent b < l.stock b) :
      Step l (.lend i b) (l.lend i b hi h)
  | giveBack {i : ι} (hi : l.loan i ≠ none) : Step l (.giveBack i) (l.giveBack i)

end Ledger
