import LibraryManagement.Lib.TreeMap
import Mathlib.Data.Set.Insert

/-!
# What is known about a keyed store

A `Shape` gives, for every key, the values the key can hold, and the keys that are set: the
typed variant of a definite-assignment analysis. `Meets` says that a store is of a shape.

* `Meets.exists_of_assigned`: reading a key that is set;
* `Meets.insert`: setting a key may change what is known about that key only;
* `Meets.insertMany`: setting several keys to values they can hold;
* `S ≤ T` (`Meets.mono`): a store of the shape `S` is one of the shape `T`.
-/

structure Shape (κ ν : Type*) where
  /-- The values a key can hold. -/
  allows : κ → Set ν
  /-- The keys that are set. -/
  assigned : Set κ

namespace Shape

variable {κ ν : Type} {cmp : κ → κ → Ordering} [Std.TransCmp cmp] {S T : Shape κ ν}
  {m : Std.ExtTreeMap κ ν cmp} {k : κ} {v : ν}

def Meets (S : Shape κ ν) (m : Std.ExtTreeMap κ ν cmp) : Prop :=
  (∀ k, ∀ v ∈ m[k]?, v ∈ S.allows k) ∧ ∀ k ∈ S.assigned, k ∈ m

/-- Less is known with more values and fewer keys. -/
instance : LE (Shape κ ν) where
  le S T := (∀ k, S.allows k ⊆ T.allows k) ∧ T.assigned ⊆ S.assigned

theorem Meets.mono (h : S.Meets m) (hle : S ≤ T) : T.Meets m :=
  ⟨fun k v hv => hle.1 k (h.1 k v hv), fun k hk => h.2 k (hle.2 hk)⟩

/-- A key that is set holds one of the values it can hold. -/
theorem Meets.exists_of_assigned (h : S.Meets m) (hk : k ∈ S.assigned) :
    ∃ v ∈ S.allows k, m[k]? = some v := by
  obtain ⟨v, hv⟩ := Option.isSome_iff_exists.1 (Std.ExtTreeMap.isSome_getElem?_iff_mem.2 (h.2 k hk))
  exact ⟨v, h.1 k v hv, hv⟩

/-- Setting a key leaves what is known about the other keys. -/
theorem Meets.insert [Std.LawfulEqCmp cmp] (h : S.Meets m) (hv : v ∈ T.allows k)
    (hallows : ∀ a ≠ k, S.allows a ⊆ T.allows a)
    (hassigned : ∀ a ∈ T.assigned, a = k ∨ a ∈ S.assigned) : T.Meets (m.insert k v) := by
  refine ⟨?_, fun a ha => ?_⟩
  · exact Std.ExtTreeMap.forall_getElem?_insert hv fun a w hne hw => hallows a hne (h.1 a w hw)
  · rw [Std.ExtTreeMap.mem_insert]
    rcases hassigned a ha with rfl | ha
    · exact .inl Std.ReflCmp.compare_self
    · exact .inr (h.2 a ha)

/-- Setting several keys, each to one of its values. -/
theorem Meets.insertMany [Std.LawfulEqCmp cmp] {data : List (κ × ν)} (h : S.Meets m)
    (hdata : ∀ e ∈ data, e.2 ∈ S.allows e.1) :
    Meets ⟨S.allows, S.assigned ∪ {k | k ∈ data.map Prod.fst}⟩ (m.insertMany data) := by
  induction data generalizing m S with
  | nil =>
    rw [Std.ExtTreeMap.insertMany_nil]
    exact h.mono ⟨fun _ => subset_rfl, by simp⟩
  | cons e data ih =>
    obtain ⟨hv, hdata⟩ := List.forall_mem_cons.1 hdata
    rw [Std.ExtTreeMap.insertMany_cons]
    have hinsert : Meets ⟨S.allows, S.assigned ∪ {e.1}⟩ (m.insert e.1 e.2) :=
      h.insert hv (fun _ _ => subset_rfl) fun a ha => ha.symm
    refine (ih hinsert hdata).mono ⟨fun _ => subset_rfl, ?_⟩
    rintro a (ha | ha)
    · exact .inl (.inl ha)
    · rcases List.mem_cons.1 ha with rfl | ha
      · exact .inl (.inr rfl)
      · exact .inr ha

end Shape
