import Mathlib.Data.List.Chain

/-!
# Paths from a root

A list whose front is a node of a graph, each element is reached from the next one by an edge, and
whose last element is the root: what has been walked, the latest node first. Walking on adds a
node in front (`Rooted.push`), and going back takes some off (`Rooted.suffix`).
-/

namespace List

variable {α : Type*} {edge : α → α → Prop} {root x y : α} {xs ys : List α}

/-- A path from the root, the latest node first. -/
structure Rooted (edge : α → α → Prop) (root : α) (xs : List α) : Prop where
  chain : xs.IsChain fun x y => edge y x
  last : ∀ x ∈ xs.getLast?, x = root

namespace Rooted

theorem nil : Rooted edge root [] := ⟨.nil, by rintro x ⟨⟩⟩

theorem single : Rooted edge root [root] where
  chain := .singleton root
  last _ hx := (Option.some.inj hx).symm

theorem push (h : Rooted edge root (y :: ys)) (hedge : edge y x) :
    Rooted edge root (x :: y :: ys) where
  chain := List.isChain_cons_cons.2 ⟨hedge, h.chain⟩
  last z hz := h.last z (by rwa [List.getLast?_cons_cons] at hz)

theorem suffix (h : Rooted edge root xs) (hsuffix : ys <:+ xs) : Rooted edge root ys where
  chain := h.chain.suffix hsuffix
  last x hx := by
    obtain ⟨zs, rfl⟩ := hsuffix
    refine h.last x ?_
    rw [List.getLast?_append, hx]
    rfl

/-- The front is the root, or there is an edge to it from the one below. -/
theorem cases_front (h : Rooted edge root (x :: xs)) :
    (xs = [] ∧ x = root) ∨ ∃ y ys, xs = y :: ys ∧ edge y x ∧ Rooted edge root xs := by
  cases xs with
  | nil => exact .inl ⟨rfl, h.last x rfl⟩
  | cons y ys =>
    exact .inr ⟨y, ys, rfl, (List.isChain_cons_cons.1 h.chain).1, h.suffix (List.suffix_cons x _)⟩

end Rooted

end List
