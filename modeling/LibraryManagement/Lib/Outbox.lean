import LibraryManagement.Lib.Simulation
import Mathlib.Data.Set.Defs
import Mathlib.Logic.Function.Basic

/-!
# Writers in front of one store

Each writer has an outbox: the writes it has handed over and that have not arrived. The store
takes or refuses the oldest write of an outbox, and the outboxes of different writers interleave
freely. A writer reads the store with its own writes on it (`System.view`).

Only what a write does to the store has to be looked at: an invariant that every write keeps
(`run_invariant`) and a preorder that every write respects (`run_related`) hold of whole runs.
-/

namespace Outbox

open Transition

variable {κ σ ω : Type*} [DecidableEq κ]

/-- The store, and the writes of each writer that have not arrived. -/
@[ext]
structure System (κ σ ω : Type*) where
  store : σ
  sent : κ → List ω

/-- What a writer reads: the store with the writer's own writes. -/
def System.view (apply : σ → ω → σ) (s : System κ σ ω) (k : κ) : σ := (s.sent k).foldl apply s.store

/-- Every write that has not arrived is in `W`. -/
def System.Within (W : Set ω) (s : System κ σ ω) : Prop := ∀ k, ∀ w ∈ s.sent k, w ∈ W

inductive Label (κ ω : Type*)
  /-- The writer hands over these writes. -/
  | send (k : κ) (ws : List ω)
  /-- The writer's oldest write arrives, and is taken or not. -/
  | arrive (k : κ) (taken : Bool)

/-- The writers hand over writes in `W`; the store takes the ones that it `admits`. -/
inductive Step (apply : σ → ω → σ) (W : Set ω) (admits : σ → ω → Prop) :
    System κ σ ω → Label κ ω → System κ σ ω → Prop
  | send {s : System κ σ ω} (k : κ) (ws : List ω) : (∀ w ∈ ws, w ∈ W) →
      Step apply W admits s (.send k ws) ⟨s.store, Function.update s.sent k (s.sent k ++ ws)⟩
  | take {s : System κ σ ω} (k : κ) (w : ω) (ws : List ω) : s.sent k = w :: ws →
      admits s.store w →
        Step apply W admits s (.arrive k true) ⟨apply s.store w, Function.update s.sent k ws⟩
  | refuse {s : System κ σ ω} (k : κ) (w : ω) (ws : List ω) : s.sent k = w :: ws →
      Step apply W admits s (.arrive k false) ⟨s.store, Function.update s.sent k ws⟩

variable {apply : σ → ω → σ} {W : Set ω} {admits : σ → ω → Prop} {s t : System κ σ ω}
  {l : Label κ ω} {ls : List (Label κ ω)} {Inv : σ → Prop} {R : σ → σ → Prop}

/-- Another outbox of one writer. -/
theorem System.Within.update {store : σ} {k : κ} {ws : List ω} (hs : s.Within W)
    (hws : ∀ w ∈ ws, w ∈ W) :
    System.Within W (⟨store, Function.update s.sent k ws⟩ : System κ σ ω) := by
  intro k' w hw
  replace hw : w ∈ Function.update s.sent k ws k' := hw
  rw [Function.update_apply] at hw
  split at hw
  · exact hws w hw
  · exact hs k' w hw

theorem within_step (hs : s.Within W) (h : Step apply W admits s l t) : t.Within W := by
  cases h with
  | send k ws hws =>
    refine hs.update fun w hw => ?_
    rcases List.mem_append.1 hw with hold | hnew
    · exact hs k w hold
    · exact hws w hnew
  | take k w ws hsent hadmits =>
    exact hs.update fun w' hw' => hs k w' (hsent ▸ List.mem_cons_of_mem _ hw')
  | refuse k w ws hsent =>
    exact hs.update fun w' hw' => hs k w' (hsent ▸ List.mem_cons_of_mem _ hw')

/-- A step changes the store by one write, if at all. -/
theorem store_step (hs : s.Within W) (h : Step apply W admits s l t) :
    t.store = s.store ∨ ∃ w ∈ W, admits s.store w ∧ t.store = apply s.store w := by
  cases h with
  | send k ws hws => exact .inl rfl
  | take k w ws hsent hadmits =>
    exact .inr ⟨w, hs k w (hsent ▸ List.mem_cons_self), hadmits, rfl⟩
  | refuse k w ws hsent => exact .inl rfl

/-- What a writer reads after one outbox has changed. -/
theorem System.view_update (store : σ) (k k' : κ) (ws : List ω) :
    (⟨store, Function.update s.sent k' ws⟩ : System κ σ ω).view apply k =
      (if k = k' then ws else s.sent k).foldl apply store := by
  simp only [System.view, Function.update_apply]

/-- A relation between stores that every write keeps relates what a writer reads before and after a
step that refuses none of its own writes: the arrival of an own write does not change it. To be
looked at are the writes that it hands over and the writes of others that are taken. -/
theorem view_step (hrefl : ∀ a, R a a) (hmono : ∀ a b w, R a b → R (apply a w) (apply b w)) {k : κ}
    (h : Step apply W admits s l t) (hl : l ≠ .arrive k false)
    (hsend : ∀ ws, l = .send k ws → R (s.view apply k) (ws.foldl apply (s.view apply k)))
    (htake : ∀ k', l = .arrive k' true → k' ≠ k → ∀ w ∈ (s.sent k').head?,
      R s.store (apply s.store w)) :
    R (s.view apply k) (t.view apply k) := by
  have hfoldl {a b : σ} (hab : R a b) (ws : List ω) :
      R (ws.foldl apply a) (ws.foldl apply b) := by
    induction ws generalizing a b with
    | nil => exact hab
    | cons w ws ih => exact ih (hmono a b w hab)
  cases h with
  | send k' ws hws =>
    rw [System.view_update]
    split
    · next heq =>
      obtain rfl := heq
      rw [List.foldl_append]
      exact hsend ws rfl
    · exact hrefl _
  | take k' w ws hsent hadmits =>
    rw [System.view_update]
    split
    · next heq =>
      rw [System.view, heq, hsent]
      exact hrefl _
    · next hne =>
      refine hfoldl (htake k' rfl (fun heq => hne heq.symm) w ?_) (s.sent k)
      rw [hsent]
      rfl
  | refuse k' w ws hsent =>
    have hne : k ≠ k' := by
      rintro rfl
      exact hl rfl
    rw [System.view_update, if_neg hne]
    exact hrefl _

/-! ## Runs -/

theorem within_run (hs : s.Within W) (h : Run (Step apply W admits) s ls t) : t.Within W :=
  h.invariant (System.Within W) hs fun _ _ _ hs hstep => within_step hs hstep

/-- A preorder that every write respects relates the store to itself later on. -/
theorem run_related (hrefl : ∀ a, R a a) (htrans : ∀ a b c, R a b → R b c → R a c)
    (hwrite : ∀ a, ∀ w ∈ W, admits a w → R a (apply a w)) (hs : s.Within W)
    (h : Run (Step apply W admits) s ls t) : R s.store t.store := by
  have hboth : t.Within W ∧ R s.store t.store := by
    refine h.invariant (fun t => t.Within W ∧ R s.store t.store) ⟨hs, hrefl _⟩ ?_
    rintro t l u ⟨hwithin, hR⟩ hstep
    refine ⟨within_step hwithin hstep, ?_⟩
    rcases store_step hwithin hstep with hsame | ⟨w, hw, hadmits, htaken⟩
    · rwa [hsame]
    · rw [htaken]
      exact htrans _ _ _ hR (hwrite _ w hw hadmits)
  exact hboth.2

/-- An invariant that every write keeps holds of the store, and of what the writers read. -/
theorem run_invariant (hwrite : ∀ a, ∀ w ∈ W, Inv a → Inv (apply a w)) (hs : s.Within W)
    (hInv : Inv s.store) (h : Run (Step apply W admits) s ls t) :
    Inv t.store ∧ ∀ k, Inv (t.view apply k) := by
  have hstore : Inv t.store :=
    run_related (R := fun a b => Inv a → Inv b) (fun _ ha => ha)
      (fun _ _ _ hab hbc ha => hbc (hab ha)) (fun a w hw _ => hwrite a w hw) hs h hInv
  refine ⟨hstore, fun k => ?_⟩
  exact List.foldlRecOn (t.sent k) apply hstore fun a ha w hw =>
    hwrite a w (within_run hs h k w hw) ha

end Outbox
