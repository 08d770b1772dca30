import Std.Data.ExtTreeMap
import Mathlib.Data.List.Nodup
import Mathlib.Data.Set.Card

/-!
# Counting the values of an ordered map

`countValues p m` is the number of keys of `m` whose value satisfies `p`. The two lemmas
say how it moves when one key is written: a fresh key adds its own value, and a key that
was there exchanges its old value for the new one.

`AtMostOne p m` says that no two keys have a value that satisfies `p`. It survives a write
whose value does not satisfy `p`, or to the only key that can have one (`OnlyAt`).
-/

namespace Std.ExtTreeMap

variable {α β : Type*} {cmp : α → α → Ordering} [TransCmp cmp] [LawfulEqCmp cmp]

omit [LawfulEqCmp cmp] in
/-- A key belongs to a map exactly when it has a value there. -/
theorem mem_iff_exists_getElem? {m : ExtTreeMap α β cmp} {k : α} :
    k ∈ m ↔ ∃ v : β, m[k]? = some v := by
  rw [mem_iff_isSome_getElem?, Option.isSome_iff_exists]

omit [LawfulEqCmp cmp] in
theorem mem_of_getElem? {m : ExtTreeMap α β cmp} {k : α} {v : β} (h : m[k]? = some v) : k ∈ m :=
  mem_iff_exists_getElem?.2 ⟨v, h⟩

/-- What holds of the written value, and of those of the other keys, holds of all values. -/
theorem forall_getElem?_insert {P : α → β → Prop} {m : ExtTreeMap α β cmp} {k : α} {v : β}
    (hself : P k v) (hother : ∀ (a : α) (w : β), a ≠ k → m[a]? = some w → P a w) (a : α) (w : β)
    (h : (m.insert k v)[a]? = some w) : P a w := by
  rw [getElem?_insert] at h
  split at h
  · next hka =>
    obtain rfl := LawfulEqCmp.eq_of_compare hka
    obtain rfl := Option.some.inj h
    exact hself
  · next hka => exact hother a w (fun hak => hka (hak ▸ ReflCmp.compare_self)) h

/-- Writing several keys makes maps equal that differ at these keys only. -/
theorem insertMany_congr {data : List (α × β)} {m m' : ExtTreeMap α β cmp}
    (h : ∀ k ∉ data.map Prod.fst, m[k]? = m'[k]?) : m.insertMany data = m'.insertMany data := by
  induction data generalizing m m' with
  | nil =>
    rw [insertMany_nil, insertMany_nil]
    exact ext_getElem? fun k => h k (by simp)
  | cons entry data ih =>
    rw [insertMany_cons, insertMany_cons]
    refine ih fun k hk => ?_
    rw [getElem?_insert, getElem?_insert]
    split
    · rfl
    · next hne =>
      refine h k fun hmem => ?_
      rcases List.mem_cons.1 hmem with rfl | hmem
      · exact hne ReflCmp.compare_self
      · exact hk hmem

omit [LawfulEqCmp cmp] in
theorem values_eq_map_snd (m : ExtTreeMap α β cmp) : m.values = m.toList.map Prod.snd := by
  have hfoldr : m.values = m.foldr (fun _ v vs => v :: vs) [] := by
    obtain ⟨⟨m⟩⟩ := m
    rfl
  rw [hfoldr, foldr_eq_foldr_toList]
  induction m.toList with
  | nil => rfl
  | cons entry entries ih => rw [List.foldr_cons, ih, List.map_cons]

/-- A value of a map has a key. -/
theorem exists_getElem?_of_mem_values {m : ExtTreeMap α β cmp} {v : β} (h : v ∈ m.values) :
    ∃ k : α, m[k]? = some v := by
  rw [values_eq_map_snd] at h
  obtain ⟨⟨k, v⟩, hmem, rfl⟩ := List.mem_map.1 h
  exact ⟨k, mem_toList_iff_getElem?_eq_some.1 hmem⟩

/-- The number of keys whose value satisfies `p`. -/
def countValues (p : β → Bool) (m : ExtTreeMap α β cmp) : ℕ :=
  m.toList.countP fun entry => p entry.2

theorem nodup_toList (m : ExtTreeMap α β cmp) : m.toList.Nodup := by
  refine m.distinct_keys_toList.imp fun {a b} hab heq => hab ?_
  subst heq
  exact ReflCmp.compare_self

theorem toList_insert_perm (m : ExtTreeMap α β cmp) (k : α) (v : β) :
    (m.insert k v).toList.Perm ((k, v) :: (m.erase k).toList) := by
  refine (List.perm_ext_iff_of_nodup (nodup_toList _) ?_).2 fun ⟨a, b⟩ => ?_
  · refine List.nodup_cons.2 ⟨fun h => ?_, nodup_toList _⟩
    rw [mem_toList_iff_getElem?_eq_some, getElem?_erase_self] at h
    cases h
  · rw [mem_toList_iff_getElem?_eq_some, getElem?_insert, List.mem_cons,
      mem_toList_iff_getElem?_eq_some, getElem?_erase, Prod.mk.injEq]
    by_cases hka : cmp k a = .eq
    · obtain rfl := LawfulEqCmp.eq_of_compare hka
      rw [if_pos hka, if_pos hka, Option.some.injEq]
      exact ⟨fun h => .inl ⟨rfl, h.symm⟩, fun h => by simpa [eq_comm] using h⟩
    · have hne : a ≠ k := fun h => hka (h ▸ ReflCmp.compare_self)
      simp [hka, hne]

theorem insert_erase_self {m : ExtTreeMap α β cmp} {k : α} {w : β} (h : m[k]? = some w) :
    (m.erase k).insert k w = m := by
  refine ext_getElem? fun a => ?_
  rw [getElem?_insert, getElem?_erase]
  by_cases hka : cmp k a = .eq
  · rw [if_pos hka, ← LawfulEqCmp.eq_of_compare hka, h]
  · rw [if_neg hka, if_neg hka]

theorem erase_of_getElem?_eq_none {m : ExtTreeMap α β cmp} {k : α} (h : m[k]? = none) :
    m.erase k = m := by
  refine ext_getElem? fun a => ?_
  rw [getElem?_erase]
  by_cases hka : cmp k a = .eq
  · rw [if_pos hka, ← LawfulEqCmp.eq_of_compare hka, h]
  · rw [if_neg hka]

/-- Writing the value that a key has changes nothing. -/
theorem insert_of_getElem? {m : ExtTreeMap α β cmp} {k : α} {v : β} (h : m[k]? = some v) :
    m.insert k v = m := by
  refine ext_getElem? fun a => ?_
  rw [getElem?_insert]
  split
  · next hka => rw [← LawfulEqCmp.eq_of_compare hka, h]
  · rfl

/-- Of many entries those may be left out that the map has already. -/
theorem insertMany_filter {m : ExtTreeMap α β cmp} {entries : List (α × β)} {p : α → Prop}
    [DecidablePred p] (h : ∀ entry ∈ entries, ¬ p entry.1 → m[entry.1]? = some entry.2) :
    m.insertMany (entries.filter fun entry => p entry.1) = m.insertMany entries := by
  induction entries generalizing m with
  | nil => rfl
  | cons entry entries ih =>
    obtain ⟨k, v⟩ := entry
    rw [insertMany_cons]
    by_cases hk : p k
    · rw [List.filter_cons_of_pos (by simpa using hk), insertMany_cons]
      refine ih fun entry hentry hnot => ?_
      have hne : ¬ cmp k entry.1 = .eq := fun heq => hnot (LawfulEqCmp.eq_of_compare heq ▸ hk)
      rw [getElem?_insert, if_neg hne]
      exact h entry (List.mem_cons_of_mem _ hentry) hnot
    · rw [List.filter_cons_of_neg (by simpa using hk),
        insert_of_getElem? (h (k, v) List.mem_cons_self hk)]
      exact ih fun entry hentry => h entry (List.mem_cons_of_mem _ hentry)

theorem countValues_insert (p : β → Bool) (m : ExtTreeMap α β cmp) (k : α) (v : β) :
    countValues p (m.insert k v) = countValues p (m.erase k) + if p v then 1 else 0 := by
  rw [countValues, (toList_insert_perm m k v).countP_eq, List.countP_cons]
  rfl

/-- A fresh key adds its own value to the count. -/
theorem countValues_insert_of_none (p : β → Bool) {m : ExtTreeMap α β cmp} {k : α} (v : β)
    (h : m[k]? = none) :
    countValues p (m.insert k v) = countValues p m + if p v then 1 else 0 := by
  rw [countValues_insert, erase_of_getElem?_eq_none h]

/-- Overwriting a key exchanges its old value for the new one in the count. -/
theorem countValues_insert_of_some (p : β → Bool) {m : ExtTreeMap α β cmp} {k : α} {w : β} (v : β)
    (h : m[k]? = some w) :
    countValues p (m.insert k v) + (if p w then 1 else 0)
      = countValues p m + if p v then 1 else 0 := by
  have hold : countValues p m = countValues p (m.erase k) + if p w then 1 else 0 := by
    conv_lhs => rw [← insert_erase_self h]
    rw [countValues_insert, erase_of_getElem?_eq_none getElem?_erase_self]
  rw [countValues_insert, hold]
  omega

theorem countValues_eq_zero {p : β → Bool} {m : ExtTreeMap α β cmp} :
    countValues p m = 0 ↔ ∀ (k : α) (v : β), m[k]? = some v → p v = false := by
  rw [countValues, List.countP_eq_zero]
  constructor
  · intro h k v hkv
    simpa only [Bool.not_eq_true] using h (k, v) (mem_toList_iff_getElem?_eq_some.2 hkv)
  · intro h ⟨k, v⟩ hmem
    simpa using h k v (mem_toList_iff_getElem?_eq_some.1 hmem)

/-- The count is the number of keys, as the size of a set. -/
theorem encard_setOf_getElem? (p : β → Bool) (m : ExtTreeMap α β cmp) :
    {k : α | ∃ v : β, m[k]? = some v ∧ p v = true}.encard = countValues p m := by
  classical
  have hkeys : {k : α | ∃ v : β, m[k]? = some v ∧ p v = true} =
      ↑((m.toList.filter fun entry => p entry.2).map Prod.fst).toFinset := by
    ext k
    simp only [Set.mem_ofPred_eq, List.coe_toFinset, List.mem_map, List.mem_filter, Prod.exists,
      exists_and_right, exists_eq_right, mem_toList_iff_getElem?_eq_some]
  have hnodup : ((m.toList.filter fun entry => p entry.2).map Prod.fst).Nodup := by
    refine List.Pairwise.sublist (List.Sublist.map _ List.filter_sublist) ?_
    rw [map_fst_toList_eq_keys]
    exact nodup_keys
  rw [hkeys, Set.encard_coe_eq_coe_finsetCard, List.toFinset_card_of_nodup hnodup, List.length_map,
    countValues, List.countP_eq_length_filter]

/-! ## At most one value -/

/-- Some key has a value that satisfies `p`. -/
def Has (p : β → Prop) (m : ExtTreeMap α β cmp) : Prop :=
  ∃ (k : α) (v : β), m[k]? = some v ∧ p v

/-- No key other than `k` has a value that satisfies `p`. -/
def OnlyAt (k : α) (p : β → Prop) (m : ExtTreeMap α β cmp) : Prop :=
  ∀ (k' : α) (v : β), m[k']? = some v → p v → k' = k

/-- At most one key has a value that satisfies `p`. -/
def AtMostOne (p : β → Prop) (m : ExtTreeMap α β cmp) : Prop :=
  ∀ (k : α) (v : β), m[k]? = some v → p v → m.OnlyAt k p

variable {p : β → Prop} {m : ExtTreeMap α β cmp} {k : α} {v : β}

theorem has_iff_mem_toList : m.Has p ↔ ∃ entry ∈ m.toList, p entry.2 := by
  constructor
  · rintro ⟨k, v, hkv, hv⟩
    exact ⟨(k, v), mem_toList_iff_getElem?_eq_some.2 hkv, hv⟩
  · rintro ⟨⟨k, v⟩, hmem, hv⟩
    exact ⟨k, v, mem_toList_iff_getElem?_eq_some.1 hmem, hv⟩

theorem onlyAt_iff_mem_toList : m.OnlyAt k p ↔ ∀ entry ∈ m.toList, p entry.2 → entry.1 = k := by
  constructor
  · intro h entry hmem hv
    exact h _ _ (mem_toList_iff_getElem?_eq_some.1 hmem) hv
  · intro h k' v hkv hv
    exact h (k', v) (mem_toList_iff_getElem?_eq_some.2 hkv) hv

instance [DecidablePred p] : Decidable (m.Has p) := decidable_of_iff' _ has_iff_mem_toList

instance [DecidablePred p] [DecidableEq α] : Decidable (m.OnlyAt k p) :=
  decidable_of_iff' _ onlyAt_iff_mem_toList

omit [LawfulEqCmp cmp] in
theorem onlyAt_of_not_has (h : ¬ m.Has p) : m.OnlyAt k p :=
  fun k' v hkv hv => absurd ⟨k', v, hkv, hv⟩ h

omit [LawfulEqCmp cmp] in
theorem atMostOne_empty : AtMostOne p (∅ : ExtTreeMap α β cmp) := by
  intro k v hkv
  simp at hkv

/-- Writing one key keeps at most one value if no other key has one, or the new value is none. -/
theorem AtMostOne.insert (h : m.AtMostOne p) (hk : p v → m.OnlyAt k p) :
    (m.insert k v).AtMostOne p := by
  intro k₁ v₁ h₁ hv₁ k₂ v₂ h₂ hv₂
  rw [getElem?_insert] at h₁ h₂
  split at h₁
  · next hk₁ =>
    obtain rfl := LawfulEqCmp.eq_of_compare hk₁
    obtain rfl := Option.some.inj h₁
    split at h₂
    · next hk₂ => exact (LawfulEqCmp.eq_of_compare hk₂).symm
    · exact hk hv₁ k₂ v₂ h₂ hv₂
  · split at h₂
    · next hk₂ =>
      obtain rfl := LawfulEqCmp.eq_of_compare hk₂
      obtain rfl := Option.some.inj h₂
      exact (hk hv₂ k₁ v₁ h₁ hv₁).symm
    · exact h k₁ v₁ h₁ hv₁ k₂ v₂ h₂ hv₂

end Std.ExtTreeMap
