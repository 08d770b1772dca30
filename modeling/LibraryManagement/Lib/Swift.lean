import Mathlib.Tactic.Common
import Mathlib.Algebra.Order.Ring.Int

/-!
# The parts of Swift's standard library a handler computes with

* `Trap` and `Traps`: a computation that may stop the program; what it did before the trap stays.
* `Swift.int?` and `Swift.description`: the failable initialiser `Int(_: String)` of the
  64-bit `Int`, and the decimal text that interpolating an `Int` gives.
  `int?_description` is the round trip.
* `Swift.add?` and `Swift.sub?`: `+` and `-`, which trap on overflow.
* `Swift.components`: `components(separatedBy:)` for a separator of one character.
-/

/-- Why a Swift program stops. -/
inductive Trap
  /-- `!` on a value that is `nil`. -/
  | unwrappedNil
  /-- `as!` on a value that is missing or of another type. -/
  | failedCast
  /-- `!` or `as!` on what a store holds under a key: nothing, or a value of another type. -/
  | missingEntry
  /-- An index outside an array. -/
  | indexOutOfRange
  /-- An arithmetic result outside `Int`. -/
  | overflow
  /-- An argument a library refuses with an exception. -/
  | invalidArgument
deriving Repr, DecidableEq

/-- A computation over the state `σ` that may trap. The state at the trap is kept. -/
abbrev Traps (σ α : Type) := EStateM Trap σ α

namespace Traps

variable {σ α β : Type} {s t u : σ}

/-- `x!`. -/
def unwrap : Option α → Traps σ α
  | some a => pure a
  | none => throw .unwrappedNil

/-- `x as! T`, where the argument is the cast `x as? T`. -/
def cast : Option α → Traps σ α
  | some a => pure a
  | none => throw .failedCast

/-- An arithmetic operation, `none` when it overflows. -/
def checked : Option α → Traps σ α
  | some a => pure a
  | none => throw .overflow

/-- `xs[i]`. -/
def index (xs : List α) (i : ℕ) : Traps σ α :=
  match xs[i]? with
  | some a => pure a
  | none => throw .indexOutOfRange

/-- The result and the last state of a computation that completes. -/
def result? (x : Traps σ α) (s : σ) : Option (α × σ) :=
  match x s with
  | .ok a t => some (a, t)
  | .error _ _ => none

/-! ## Evaluation -/

theorem bind_apply (x : Traps σ α) (f : α → Traps σ β) (s : σ) :
    (x >>= f) s = match x s with
      | .ok a t => f a t
      | .error e t => .error e t := by
  show EStateM.bind x f s = _
  unfold EStateM.bind
  cases x s <;> rfl

theorem checked_apply (o : Option α) (s : σ) :
    (checked o : Traps σ α) s = match o with
      | some a => .ok a s
      | none => .error .overflow s := by
  cases o <;> rfl

/-! ## How a computation that completed got there -/

@[simp] theorem pure_eq_ok {a b : α} {s t : σ} :
    (pure a : Traps σ α) s = .ok b t ↔ a = b ∧ s = t := by
  simp [pure, EStateM.pure]

theorem result?_eq_some {x : Traps σ α} {a : α} : result? x s = some (a, t) ↔ x s = .ok a t := by
  unfold result?
  cases x s <;> simp

/-- A computation with a result completes. -/
theorem exists_of_result? {x : Traps σ α} {f : α × σ → β} {b : β}
    (h : (result? x s).map f = some b) : ∃ a t, x s = .ok a t ∧ f (a, t) = b := by
  obtain ⟨⟨a, t⟩, hres, hb⟩ := Option.map_eq_some_iff.1 h
  exact ⟨a, t, result?_eq_some.1 hres, hb⟩

/-- A sequence completes exactly when its first part does and the rest does from there. -/
@[simp] theorem bind_eq_ok {x : Traps σ α} {f : α → Traps σ β} {b : β} {s u : σ} :
    (x >>= f) s = .ok b u ↔ ∃ a t, x s = .ok a t ∧ f a t = .ok b u := by
  simp only [bind, EStateM.bind]
  cases x s <;> simp

/-- A loop completes exactly when its steps do, if that does not depend on the state. -/
theorem exists_forM_eq_ok {f : α → Traps σ Unit} {p : α → Prop}
    (hf : ∀ a s, (∃ t, f a s = .ok () t) ↔ p a) {xs : List α} {s : σ} :
    (∃ t, xs.forM f s = .ok () t) ↔ ∀ a ∈ xs, p a := by
  induction xs generalizing s with
  | nil => exact ⟨fun _ => by simp, fun _ => ⟨s, rfl⟩⟩
  | cons a xs ih =>
    show (∃ t, (f a >>= fun _ => xs.forM f) s = .ok () t) ↔ _
    rw [List.forall_mem_cons]
    constructor
    · rintro ⟨t, hrun⟩
      obtain ⟨u, s', hfirst, hrest⟩ := bind_eq_ok.1 hrun
      exact ⟨(hf a s).1 ⟨s', hfirst⟩, ih.1 ⟨t, hrest⟩⟩
    · rintro ⟨hfirst, hrest⟩
      obtain ⟨s', hs'⟩ := (hf a s).2 hfirst
      obtain ⟨t, ht⟩ := ih.2 hrest
      exact ⟨t, bind_eq_ok.2 ⟨(), s', hs', ht⟩⟩

@[simp] theorem throw_ne_ok {e : Trap} {a : α} {s t : σ} :
    ¬ (throw e : Traps σ α) s = .ok a t := by
  show ¬ EStateM.Result.error e s = .ok a t
  simp

@[simp] theorem unwrap_eq_ok {o : Option α} {a : α} {s t : σ} :
    (unwrap o : Traps σ α) s = .ok a t ↔ o = some a ∧ s = t := by
  cases o <;> simp [unwrap]

@[simp] theorem cast_eq_ok {o : Option α} {a : α} {s t : σ} :
    (cast o : Traps σ α) s = .ok a t ↔ o = some a ∧ s = t := by
  cases o <;> simp [cast]

@[simp] theorem checked_eq_ok {o : Option α} {a : α} {s t : σ} :
    (checked o : Traps σ α) s = .ok a t ↔ o = some a ∧ s = t := by
  cases o <;> simp [checked]

@[simp] theorem index_eq_ok {xs : List α} {i : ℕ} {a : α} {s t : σ} :
    (index xs i : Traps σ α) s = .ok a t ↔ xs[i]? = some a ∧ s = t := by
  unfold index
  cases xs[i]? <;> simp

@[simp] theorem unwrap_some (a : α) : (unwrap (some a) : Traps σ α) = pure a := rfl
@[simp] theorem cast_some (a : α) : (cast (some a) : Traps σ α) = pure a := rfl

/-! ## Which traps a computation can end in -/

/-- The computation ends in no other traps than those in `P`. -/
def Only (P : Set Trap) (x : Traps σ α) : Prop :=
  ∀ (s t : σ) (e : Trap), x s = .error e t → e ∈ P

variable {P : Set Trap}

theorem only_pure (a : α) : Only P (pure a : Traps σ α) := fun s t e h => by
  simp [pure, EStateM.pure] at h

theorem only_checked (h : .overflow ∈ P) (o : Option α) : Only P (checked o : Traps σ α) := by
  intro s t e herr
  cases o with
  | none =>
    have hoverflow : EStateM.Result.error Trap.overflow s = .error e t := herr
    rw [EStateM.Result.error.injEq] at hoverflow
    exact hoverflow.1 ▸ h
  | some a => exact only_pure a s t e herr

theorem Only.bind {x : Traps σ α} {f : α → Traps σ β} (hx : Only P x) (hf : ∀ a, Only P (f a)) :
    Only P (x >>= f) := by
  intro s u e herr
  simp only [Bind.bind, EStateM.bind] at herr
  cases hres : x s with
  | ok a t => exact hf a t u e (by rwa [hres] at herr)
  | error e' t =>
    rw [hres, EStateM.Result.error.injEq] at herr
    exact herr.1 ▸ hx s t e' hres

theorem only_foldlM {f : β → α → Traps σ β} {xs : List α} (h : ∀ b, ∀ x ∈ xs, Only P (f b x))
    (b : β) : Only P (xs.foldlM f b) := by
  induction xs generalizing b with
  | nil => exact only_pure b
  | cons x xs ih =>
    rw [List.foldlM_cons]
    exact (h b x List.mem_cons_self).bind
      fun b' => ih (fun b x hx => h b x (List.mem_cons_of_mem _ hx)) b'

/-! ## Computations that only read -/

/-- A computation that only reads, done for each element of a list. -/
theorem mapM_eq_ok {f : β → Traps σ α} {g : β → Option α}
    (hf : ∀ x a s t, f x s = .ok a t ↔ g x = some a ∧ s = t) {xs : List β} {ys : List α} :
    xs.mapM f s = .ok ys t ↔ xs.map g = ys.map some ∧ s = t := by
  induction xs generalizing ys t with
  | nil => simp
  | cons x xs ih =>
    rw [List.mapM_cons, bind_eq_ok]
    constructor
    · rintro ⟨y, s', hx, hrest⟩
      obtain ⟨ys', s'', hxs, hpure⟩ := bind_eq_ok.1 hrest
      obtain ⟨hy, rfl⟩ := (hf _ _ _ _).1 hx
      obtain ⟨hys, rfl⟩ := ih.1 hxs
      obtain ⟨rfl, rfl⟩ := pure_eq_ok.1 hpure
      exact ⟨by rw [List.map_cons, List.map_cons, hy, hys], rfl⟩
    · rintro ⟨hmap, rfl⟩
      cases ys with
      | nil => simp at hmap
      | cons y ys =>
        obtain ⟨hy, hys⟩ := List.cons.inj hmap
        exact ⟨y, s, (hf _ _ _ _).2 ⟨hy, rfl⟩,
          bind_eq_ok.2 ⟨ys, s, ih.2 ⟨hys, rfl⟩, pure_eq_ok.2 ⟨rfl, rfl⟩⟩⟩

/-- Reads that all succeed have a list of results. -/
theorem exists_map_some {f : β → Option α} {xs : List β} (h : ∀ x ∈ xs, ∃ y, f x = some y) :
    ∃ ys : List α, xs.map f = ys.map some := by
  induction xs with
  | nil => exact ⟨[], rfl⟩
  | cons x xs ih =>
    obtain ⟨y, hy⟩ := h x List.mem_cons_self
    obtain ⟨ys, hys⟩ := ih fun x hx => h x (List.mem_cons_of_mem _ hx)
    exact ⟨y :: ys, by rw [List.map_cons, List.map_cons, hy, hys]⟩

@[simp] theorem mapM_unwrap_eq_ok {f : β → Option α} {xs : List β} {ys : List α} :
    (xs.mapM fun x => (unwrap (f x) : Traps σ α)) s = .ok ys t ↔ xs.map f = ys.map some ∧ s = t :=
  mapM_eq_ok fun _ _ _ _ => unwrap_eq_ok

end Traps

namespace Swift

/-! ## 64-bit integers -/

/-- The numbers of the type `Int`. -/
def InInt (n : ℤ) : Prop := -2 ^ 63 ≤ n ∧ n < 2 ^ 63

instance (n : ℤ) : Decidable (InInt n) := inferInstanceAs (Decidable (_ ∧ _))

/-- A number, if it is one of the type `Int`. -/
def inRange? (n : ℤ) : Option ℤ := if InInt n then some n else none

/-- `a + b`. -/
def add? (a b : ℤ) : Option ℤ := inRange? (a + b)

/-- `a - b`. -/
def sub? (a b : ℤ) : Option ℤ := inRange? (a - b)

@[simp] theorem inRange?_eq_some {n m : ℤ} : inRange? n = some m ↔ n = m ∧ InInt m := by
  unfold inRange?
  split
  · next h => exact ⟨fun hm => by simp_all, fun hm => by simp [hm.1]⟩
  · next h => exact ⟨fun hm => by simp at hm, fun hm => absurd (hm.1 ▸ hm.2) h⟩

/-- A loop counts what its steps count, if the counter would stay in `Int` with every element
counted. -/
theorem foldlM_count {σ α : Type} {f : ℤ → α → Traps σ ℤ} {p : α → Bool} {xs : List α} {n : ℤ}
    {s : σ} (hf : ∀ n, ∀ a ∈ xs, InInt (n + 1) → f n a s = .ok (n + if p a then 1 else 0) s)
    (hlow : -2 ^ 63 ≤ n) (hhigh : n + xs.length < 2 ^ 63) :
    xs.foldlM f n s = .ok (n + xs.countP p) s := by
  induction xs generalizing n with
  | nil => simp
  | cons a xs ih =>
    rw [List.length_cons, Nat.cast_add, Nat.cast_one] at hhigh
    have hfirst := hf n a List.mem_cons_self ⟨by omega, by omega⟩
    have hrest := ih (n := n + if p a then 1 else 0)
      (fun m b hb => hf m b (List.mem_cons_of_mem _ hb)) (by split <;> omega) (by split <;> omega)
    have hcount : ((a :: xs).countP p : ℤ) = xs.countP p + if p a then 1 else 0 := by
      rw [List.countP_cons]
      split <;> simp
    rw [List.foldlM_cons, Traps.bind_apply, hfirst, hcount, add_comm (xs.countP p : ℤ), ← add_assoc]
    exact hrest

/-! ## Integers as texts -/

/-- The value of a non-empty text of decimal digits. -/
def digits? (cs : List Char) : Option ℤ :=
  if cs ≠ [] ∧ cs.all Char.isDigit then some (Nat.ofDigitChars 10 cs 0 : ℕ) else none

/-- The number an optional sign and decimal digits denote, of any size. -/
def signed? (s : String) : Option ℤ :=
  match s.toList with
  | '-' :: cs => (digits? cs).map (- ·)
  | '+' :: cs => digits? cs
  | cs => digits? cs

/-- `Int(_: String)`: `nil` unless the text is an optional sign and decimal digits whose
number is one of the type `Int`. -/
def int? (s : String) : Option ℤ := (signed? s).bind inRange?

/-- `"\(n)"`. -/
def description (n : ℤ) : String := n.repr

theorem digits?_toDigits (n : ℕ) : digits? (Nat.toDigits 10 n) = some (n : ℤ) := by
  have hdigits : (Nat.toDigits 10 n).all Char.isDigit = true :=
    List.all_eq_true.2 fun c hc => Nat.isDigit_of_mem_toDigits (by decide) (by decide) hc
  rw [digits?, if_pos ⟨Nat.toDigits_ne_nil, hdigits⟩, Nat.ofDigitChars_ten_toDigits]

/-- A text that does not begin with a sign is read as digits. -/
theorem signed?_of_head {s : String} {c : Char} {cs : List Char} (hs : s.toList = c :: cs)
    (hminus : c ≠ '-') (hplus : c ≠ '+') : signed? s = digits? (c :: cs) := by
  unfold signed?
  rw [hs]
  split
  · next h => exact absurd (List.cons.inj h).1 hminus
  · next h => exact absurd (List.cons.inj h).1 hplus
  · rfl

theorem signed?_description (n : ℤ) : signed? (description n) = some n := by
  cases n with
  | ofNat n =>
    have hrepr : (description (Int.ofNat n)).toList = Nat.toDigits 10 n := by
      simp [description, Int.repr, Nat.repr_eq_ofList_toDigits]
    obtain ⟨c, cs, hc⟩ := List.exists_cons_of_ne_nil (Nat.toDigits_ne_nil (n := n) (b := 10))
    have hdigit : c.isDigit = true :=
      Nat.isDigit_of_mem_toDigits (b := 10) (n := n) (by decide) (by decide) (by simp [hc])
    rw [signed?_of_head (hrepr.trans hc) (by rintro rfl; simp at hdigit)
      (by rintro rfl; simp at hdigit), ← hc, digits?_toDigits]
    rfl
  | negSucc n =>
    have hrepr : (description (Int.negSucc n)).toList = '-' :: Nat.toDigits 10 (n + 1) := by
      simp [description, Int.repr, Nat.repr_eq_ofList_toDigits]
    simp only [signed?, hrepr, digits?_toDigits]
    rfl

/-- Interpolating an `Int` and reading the text back gives the number. -/
@[simp] theorem int?_description {n : ℤ} (h : InInt n) : int? (description n) = some n := by
  rw [int?, signed?_description]
  simp [h]

theorem inInt_of_int? {s : String} {n : ℤ} (h : int? s = some n) : InInt n := by
  simp only [int?, Option.bind_eq_some_iff, inRange?_eq_some] at h
  obtain ⟨m, -, -, hn⟩ := h
  exact hn

/-! ## Texts -/

/-- `s.uppercased()` for a text of ASCII characters. -/
def asciiUppercased (s : String) : String := String.ofList (s.toList.map Char.toUpper)

/-- A character that was made uppercase is no lowercase letter. -/
theorem toUpper_toUpper (c : Char) : c.toUpper.toUpper = c.toUpper := by
  have hother {c : Char} (h : ¬ ('a'.val ≤ c.val ∧ c.val ≤ 'z'.val)) : c.toUpper = c := dif_neg h
  refine hother ?_
  unfold Char.toUpper
  split
  · grind [UInt32.toNat_add]
  · assumption

theorem asciiUppercased_asciiUppercased (s : String) :
    asciiUppercased (asciiUppercased s) = asciiUppercased s := by
  rw [asciiUppercased, asciiUppercased, String.toList_ofList, List.map_map]
  congr 1
  exact List.map_congr_left fun c _ => toUpper_toUpper c

/-- `s.components(separatedBy: sep)`. -/
def components (sep : Char) (s : String) : List String :=
  (s.toList.splitOn sep).map String.ofList

/-- No piece of a list contains what the list was split at. -/
theorem notMem_of_mem_splitOn {sep : Char} {cs piece : List Char} (h : piece ∈ cs.splitOn sep) :
    sep ∉ piece := by
  induction cs generalizing piece with
  | nil =>
    rw [List.splitOn_nil, List.mem_singleton] at h
    rw [h]
    exact List.not_mem_nil
  | cons c cs ih =>
    rw [List.splitOn_cons_eq_if_modifyHead] at h
    split at h
    · rcases List.mem_cons.1 h with rfl | h
      · exact List.not_mem_nil
      · exact ih h
    · next hc =>
      -- The first piece of the rest is one character longer now.
      obtain ⟨first, rest, hsplit⟩ := List.exists_cons_of_ne_nil (List.splitOn_ne_nil sep cs)
      rw [hsplit, List.modifyHead_cons] at h
      rw [hsplit] at ih
      rcases List.mem_cons.1 h with rfl | h
      · intro hmem
        rcases List.mem_cons.1 hmem with rfl | hmem
        · exact hc (beq_self_eq_true sep)
        · exact ih List.mem_cons_self hmem
      · exact ih (List.mem_cons_of_mem _ h)

theorem notMem_of_mem_components {sep : Char} {s piece : String} (h : piece ∈ components sep s) :
    sep ∉ piece.toList := by
  obtain ⟨cs, hcs, rfl⟩ := List.mem_map.1 h
  rw [String.toList_ofList]
  exact notMem_of_mem_splitOn hcs

/-- Two texts without the separator are the components of the text that joins them. -/
theorem components_join {sep : Char} {a b s : String} (hs : s.toList = a.toList ++ sep :: b.toList)
    (ha : sep ∉ a.toList) (hb : sep ∉ b.toList) : components sep s = [a, b] := by
  rw [components, hs, List.splitOn_append_cons_self_of_not_mem ha, List.splitOn_eq_singleton hb]
  simp

/-- The first two components of a text that joins two others are these, exactly when neither
contains the separator. -/
theorem components_join_iff {sep : Char} {a b s : String}
    (hs : s.toList = a.toList ++ sep :: b.toList) :
    (components sep s)[0]? = some a ∧ (components sep s)[1]? = some b ↔
      sep ∉ a.toList ∧ sep ∉ b.toList := by
  constructor
  · intro h
    have ha : a ∈ components sep s := List.mem_of_getElem? h.1
    have hb : b ∈ components sep s := List.mem_of_getElem? h.2
    exact ⟨notMem_of_mem_components ha, notMem_of_mem_components hb⟩
  · intro h
    have hpieces : components sep s = [a, b] := components_join hs h.1 h.2
    rw [hpieces]
    exact ⟨rfl, rfl⟩

end Swift
