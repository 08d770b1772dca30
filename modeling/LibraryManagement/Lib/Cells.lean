import Mathlib.Logic.Function.Basic
import Mathlib.Data.List.Basic

/-!
# Tables whose cells are reused

A table has some of its rows on the screen, each in a cell. A row that comes on the screen is
rendered: it gets a cell that no other row on the screen has, and a listener to a source. The
listener is delivered snapshots of its source, one after the other, and writes into the cell it
was registered for, also when that cell has gone on to another row.

* `Table.Sound` is what a table is to show: the cell of a row displays the last snapshot
  that the row's own listener was delivered;
* `Table.Steady` is what keeps it so: a delivery to another listener of the cell does not change
  what the cell shows;
* `Table.Every` says that all snapshots of the listeners have a property.
-/

namespace Cells

variable {α τ β : Type*}

/-- What one rendering has left behind. -/
structure Rendering (τ β : Type*) where
  cell : ℕ
  source : τ
  /-- The snapshots that the listener is still to be delivered. -/
  pending : List β
  /-- The snapshot it was delivered last. -/
  delivered : Option β

/-- A changed source is one more snapshot. -/
def Rendering.notify [DecidableEq β] (now now' : τ → β) (l : Rendering τ β) : Rendering τ β :=
  if now l.source = now' l.source then l
  else { l with pending := l.pending ++ [now' l.source] }

structure Table (α τ β : Type*) where
  shows : ℕ → α
  renderings : List (Rendering τ β)
  /-- The rows on the screen, with the numbers of their last renderings. -/
  visible : List (ℕ × ℕ)

namespace Table

/-- Nothing was rendered. -/
def blank (shows : ℕ → α) : Table α τ β := ⟨shows, [], []⟩

/-- The row is on the screen by this rendering. -/
def InSight (t : Table α τ β) (row : ℕ) (l : Rendering τ β) : Prop :=
  ∃ n, (row, n) ∈ t.visible ∧ t.renderings[n]? = some l

/-- The rendering by which the row is on the screen. -/
def lookup (t : Table α τ β) (row : ℕ) : Option (Rendering τ β) :=
  (t.visible.lookup row).bind fun n => t.renderings[n]?

theorem inSight_of_lookup {t : Table α τ β} {row : ℕ} {l : Rendering τ β}
    (h : t.lookup row = some l) : t.InSight row l := by
  obtain ⟨n, hn, hl⟩ := Option.bind_eq_some_iff.1 h
  obtain ⟨before, after, hvisible, -⟩ := List.lookup_eq_some_iff.1 hn
  exact ⟨n, by simp [hvisible], hl⟩

/-! ## What happens to a table -/

/-- No other row on the screen has the cell. -/
def Free (t : Table α τ β) (row cell : ℕ) : Prop :=
  ∀ p ∈ t.visible, p.1 ≠ row → ∀ l ∈ t.renderings[p.2]?, l.cell ≠ cell

instance (t : Table α τ β) (row cell : ℕ) : Decidable (t.Free row cell) :=
  inferInstanceAs (Decidable (∀ p ∈ t.visible, _))

/-- The row leaves the screen. -/
def hide (t : Table α τ β) (row : ℕ) : Table α τ β :=
  { t with visible := t.visible.filter (·.1 ≠ row) }

/-- The row is rendered in a cell, when the source is as in the snapshot `x`. -/
def render (t : Table α τ β) (row cell : ℕ) (source : τ) (x : β) : Table α τ β :=
  { t with
    renderings := t.renderings ++ [⟨cell, source, [x], none⟩]
    visible := (row, t.renderings.length) :: t.visible.filter (·.1 ≠ row) }

/-- The listener with this number is delivered the snapshot `x`, with others to come. -/
def receive (t : Table α τ β) (n : ℕ) (l : Rendering τ β) (x : β) (pending : List β)
    (content : α) : Table α τ β :=
  { t with
    shows := Function.update t.shows l.cell content
    renderings := t.renderings.set n { l with pending := pending, delivered := some x } }

/-- The sources change. -/
def change [DecidableEq β] (now now' : τ → β) (t : Table α τ β) : Table α τ β :=
  { t with renderings := t.renderings.map (·.notify now now') }

/-! ## What a table is to show -/

/-- The listener of a row has a source that the row is for, and the cell of the row displays what
the listener was delivered last. -/
structure Sound (now : τ → β) (Bound : ℕ → τ → Prop) (Displays : τ → β → α → Prop)
    (t : Table α τ β) : Prop where
  rendered : ∀ p ∈ t.visible, p.2 < t.renderings.length
  bound : ∀ p ∈ t.visible, ∀ l ∈ t.renderings[p.2]?, Bound p.1 l.source
  apart : ∀ p ∈ t.visible, ∀ q ∈ t.visible, ∀ l ∈ t.renderings[p.2]?, ∀ l' ∈ t.renderings[q.2]?,
    l.cell = l'.cell → p = q
  current : ∀ p ∈ t.visible, ∀ l ∈ t.renderings[p.2]?, ∀ x ∈ l.delivered,
    Displays l.source x (t.shows l.cell)
  latest : ∀ l ∈ t.renderings, l.pending.getLast?.or l.delivered = some (now l.source)

/-- A delivery writes what the cell shows already, if the cell has gone on to another rendering
whose listener was delivered something. -/
def Steady (t : Table α τ β) (n : ℕ) (l : Rendering τ β) (content : α) : Prop :=
  ∀ p ∈ t.visible, p.2 ≠ n → ∀ l' ∈ t.renderings[p.2]?, l'.cell = l.cell → l'.delivered.isSome →
    content = t.shows l.cell

instance [DecidableEq α] (t : Table α τ β) (n : ℕ) (l : Rendering τ β) (content : α) :
    Decidable (t.Steady n l content) := inferInstanceAs (Decidable (∀ p ∈ t.visible, _))

/-- Every snapshot of a listener has the property. -/
def Every (P : β → Prop) (t : Table α τ β) : Prop :=
  ∀ l ∈ t.renderings, (∀ x ∈ l.pending, P x) ∧ ∀ x ∈ l.delivered, P x

variable {now now' : τ → β} {Bound : ℕ → τ → Prop} {Displays : τ → β → α → Prop} {P Q : β → Prop}
  {t : Table α τ β} {l : Rendering τ β} {row cell n k : ℕ} {source : τ} {x : β}
  {pending : List β} {content : α}

theorem sound_blank (shows : ℕ → α) : (blank shows : Table α τ β).Sound now Bound Displays where
  rendered := by rintro p ⟨⟩
  bound := by rintro p ⟨⟩
  apart := by rintro p ⟨⟩
  current := by rintro p ⟨⟩
  latest := by rintro l ⟨⟩

/-- A row whose listener has nothing left to deliver displays its source as it is. -/
theorem Sound.displays_now (h : t.Sound now Bound Displays) (hl : t.InSight row l)
    (hpending : l.pending = []) : Displays l.source (now l.source) (t.shows l.cell) := by
  obtain ⟨n, hvisible, hn⟩ := hl
  have hlatest := h.latest l (List.mem_of_getElem? hn)
  rw [hpending, List.getLast?_nil, Option.none_or] at hlatest
  exact h.current _ hvisible l hn _ hlatest

theorem Sound.bound_inSight (h : t.Sound now Bound Displays) (hl : t.InSight row l) :
    Bound row l.source := by
  obtain ⟨n, hvisible, hn⟩ := hl
  exact h.bound _ hvisible l hn

theorem Sound.displays (h : t.Sound now Bound Displays) (hl : t.InSight row l)
    (hx : l.delivered = some x) : Displays l.source x (t.shows l.cell) := by
  obtain ⟨n, hvisible, hn⟩ := hl
  exact h.current _ hvisible l hn x hx

theorem Sound.hide (h : t.Sound now Bound Displays) (row : ℕ) : (t.hide row).Sound now Bound Displays where
  rendered p hp := h.rendered p (List.mem_of_mem_filter hp)
  bound p hp := h.bound p (List.mem_of_mem_filter hp)
  apart p hp q hq := h.apart p (List.mem_of_mem_filter hp) q (List.mem_of_mem_filter hq)
  current p hp := h.current p (List.mem_of_mem_filter hp)
  latest := h.latest

/-- The rows on the screen after a rendering: the rendered one, and others in other cells. -/
theorem mem_visible_render {p : ℕ × ℕ} (hp : p ∈ (t.render row cell source x).visible) :
    p = (row, t.renderings.length) ∨ p ∈ t.visible ∧ p.1 ≠ row := by
  rcases List.mem_cons.1 hp with rfl | hp
  · exact .inl rfl
  · obtain ⟨hold, hne⟩ := List.mem_filter.1 hp
    exact .inr ⟨hold, of_decide_eq_true hne⟩

theorem Sound.render (h : t.Sound now Bound Displays) (hfree : t.Free row cell)
    (hbound : Bound row source) :
    (t.render row cell source (now source)).Sound now Bound Displays := by
  have hnew : (t.render row cell source (now source)).renderings[t.renderings.length]? =
      some ⟨cell, source, [now source], none⟩ := by simp [Table.render]
  have hold {p : ℕ × ℕ} (hp : p ∈ t.visible) :
      (t.render row cell source (now source)).renderings[p.2]? = t.renderings[p.2]? :=
    List.getElem?_append_left (h.rendered p hp)
  constructor
  · intro p hp
    rw [Table.render, List.length_append, List.length_singleton]
    rcases mem_visible_render hp with rfl | ⟨hp, -⟩
    · exact Nat.lt_succ_self _
    · exact Nat.lt_succ_of_lt (h.rendered p hp)
  · intro p hp l hl
    rcases mem_visible_render hp with rfl | ⟨hp, -⟩
    · rw [hnew] at hl
      obtain rfl := Option.some.inj hl
      exact hbound
    · rw [hold hp] at hl
      exact h.bound p hp l hl
  · intro p hp q hq l hl l' hl' hcell
    -- Two rows in one cell: the new one is in a cell that was free.
    rcases mem_visible_render hp with rfl | ⟨hp, hprow⟩ <;>
      rcases mem_visible_render hq with rfl | ⟨hq, hqrow⟩
    · rfl
    · rw [hnew] at hl
      obtain rfl := Option.some.inj hl
      rw [hold hq] at hl'
      exact absurd hcell.symm (hfree q hq hqrow l' hl')
    · rw [hnew] at hl'
      obtain rfl := Option.some.inj hl'
      rw [hold hp] at hl
      exact absurd hcell (hfree p hp hprow l hl)
    · rw [hold hp] at hl
      rw [hold hq] at hl'
      exact h.apart p hp q hq l hl l' hl' hcell
  · intro p hp l hl y hy
    rcases mem_visible_render hp with rfl | ⟨hp, -⟩
    · -- The new listener was delivered nothing.
      rw [hnew] at hl
      obtain rfl := Option.some.inj hl
      cases hy
    · rw [hold hp] at hl
      exact h.current p hp l hl y hy
  · intro l hl
    rcases List.mem_append.1 hl with hl | hl
    · exact h.latest l hl
    · obtain rfl := List.mem_singleton.1 hl
      rfl

/-- What a listener that was delivered a snapshot has left. -/
theorem latest_receive (hlatest : l.pending.getLast?.or l.delivered = some (now l.source))
    (hdrop : l.pending.drop k = x :: pending) :
    pending.getLast?.or (some x) = some (now l.source) := by
  have hlast : l.pending.getLast? = some (pending.getLast?.getD x) := by
    have hsuffix : (l.pending.drop k).getLast? = some (pending.getLast?.getD x) := by
      rw [hdrop, List.getLast?_cons]
    rw [List.getLast?_drop] at hsuffix
    exact (Option.ite_none_left_eq_some.1 hsuffix).2
  rw [hlast, Option.some_or] at hlatest
  rw [← hlatest]
  cases pending.getLast? <;> rfl

/-- A delivery changes the row of its own listener, and no other that was delivered something. -/
theorem Sound.receive (h : t.Sound now Bound Displays) (hl : t.renderings[n]? = some l)
    (hdrop : l.pending.drop k = x :: pending)
    (hown : ∀ p ∈ t.visible, p.2 = n → Displays l.source x content)
    (hsteady : t.Steady n l content) : (t.receive n l x pending content).Sound now Bound Displays := by
  have hn : n < t.renderings.length := (List.getElem?_eq_some_iff.1 hl).1
  -- Every rendering has the cell it had.
  have hbefore {m : ℕ} {l' : Rendering τ β}
      (hm : (t.receive n l x pending content).renderings[m]? = some l') :
      m = n ∧ l' = { l with pending := pending, delivered := some x } ∨
        m ≠ n ∧ t.renderings[m]? = some l' := by
    rw [Table.receive, List.getElem?_set] at hm
    split at hm
    · next heq => exact .inl ⟨heq.symm, (Option.some.inj hm).symm⟩
    · next hne => exact .inr ⟨fun heq => hne heq.symm, hm⟩
  have hcell {m : ℕ} {l' : Rendering τ β}
      (hm : (t.receive n l x pending content).renderings[m]? = some l') :
      ∃ l₀ ∈ t.renderings[m]?, l₀.cell = l'.cell ∧ l₀.source = l'.source := by
    rcases hbefore hm with ⟨rfl, rfl⟩ | ⟨-, hm⟩
    · exact ⟨l, hl, rfl, rfl⟩
    · exact ⟨l', hm, rfl, rfl⟩
  constructor
  · intro p hp
    rw [Table.receive, List.length_set]
    exact h.rendered p hp
  · intro p hp l' hl'
    obtain ⟨l₀, hl₀, -, hsource⟩ := hcell hl'
    exact hsource ▸ h.bound p hp l₀ hl₀
  · intro p hp q hq l₁ hl₁ l₂ hl₂ hsame
    obtain ⟨l₁', hl₁', hcell₁, -⟩ := hcell hl₁
    obtain ⟨l₂', hl₂', hcell₂, -⟩ := hcell hl₂
    exact h.apart p hp q hq l₁' hl₁' l₂' hl₂' (hcell₁.trans (hsame.trans hcell₂.symm))
  · intro p hp l' hl' y hy
    rcases hbefore hl' with ⟨hpn, rfl⟩ | ⟨hpn, hl'⟩
    · obtain rfl := Option.some.inj hy
      simpa only [Table.receive, Function.update_self] using hown p hp hpn
    · by_cases hsame : l'.cell = l.cell
      · have hkept : content = t.shows l.cell :=
          hsteady p hp hpn l' hl' hsame (Option.isSome_iff_exists.2 ⟨y, hy⟩)
        simp only [Table.receive, hkept, Function.update_eq_self]
        exact h.current p hp l' hl' y hy
      · simp only [Table.receive, Function.update_of_ne hsame]
        exact h.current p hp l' hl' y hy
  · intro l' hl'
    rcases List.mem_or_eq_of_mem_set hl' with hl' | rfl
    · exact h.latest l' hl'
    · have hlatest := h.latest l (List.mem_of_getElem? hl)
      have hrest : pending.getLast?.or (some x) = some (now l.source) :=
        latest_receive hlatest hdrop
      exact hrest

section Change

variable [DecidableEq β]

theorem cell_notify (l : Rendering τ β) : (l.notify now now').cell = l.cell := by
  unfold Rendering.notify
  split <;> rfl

theorem source_notify (l : Rendering τ β) : (l.notify now now').source = l.source := by
  unfold Rendering.notify
  split <;> rfl

theorem delivered_notify (l : Rendering τ β) : (l.notify now now').delivered = l.delivered := by
  unfold Rendering.notify
  split <;> rfl

/-- The renderings after a change are those before, notified. -/
theorem getElem?_change {m : ℕ} {l' : Rendering τ β}
    (hm : (t.change now now').renderings[m]? = some l') :
    ∃ l ∈ t.renderings[m]?, l' = l.notify now now' := by
  rw [Table.change, List.getElem?_map] at hm
  obtain ⟨l, hl, rfl⟩ := Option.map_eq_some_iff.1 hm
  exact ⟨l, hl, rfl⟩

theorem Sound.change (h : t.Sound now Bound Displays) : (t.change now now').Sound now' Bound Displays := by
  constructor
  · intro p hp
    rw [Table.change, List.length_map]
    exact h.rendered p hp
  · intro p hp l' hl'
    obtain ⟨l, hl, rfl⟩ := getElem?_change hl'
    rw [source_notify]
    exact h.bound p hp l hl
  · intro p hp q hq l₁ hl₁ l₂ hl₂ hsame
    obtain ⟨l₁', hl₁', rfl⟩ := getElem?_change hl₁
    obtain ⟨l₂', hl₂', rfl⟩ := getElem?_change hl₂
    rw [cell_notify, cell_notify] at hsame
    exact h.apart p hp q hq l₁' hl₁' l₂' hl₂' hsame
  · intro p hp l' hl' y hy
    obtain ⟨l, hl, rfl⟩ := getElem?_change hl'
    rw [delivered_notify] at hy
    rw [source_notify, cell_notify]
    exact h.current p hp l hl y hy
  · intro l' hl'
    obtain ⟨l, hl, rfl⟩ := List.mem_map.1 hl'
    -- A rendering whose source did not change has nothing more to hear.
    unfold Rendering.notify
    split
    · next heq => rw [← heq, h.latest l hl]
    · simp

theorem Every.change (h : t.Every P) (hmono : ∀ x, P x → Q x) (hnow : ∀ s, Q (now' s)) :
    (t.change now now').Every Q := by
  intro l' hl'
  obtain ⟨l, hl, rfl⟩ := List.mem_map.1 hl'
  obtain ⟨hpending, hdelivered⟩ := h l hl
  refine ⟨?_, ?_⟩
  · intro x hx
    unfold Rendering.notify at hx
    split at hx
    · exact hmono x (hpending x hx)
    · rcases List.mem_append.1 hx with hx | hx
      · exact hmono x (hpending x hx)
      · obtain rfl := List.mem_singleton.1 hx
        exact hnow _
  · intro x hx
    rw [delivered_notify] at hx
    exact hmono x (hdelivered x hx)

end Change

/-! ## All snapshots -/

theorem every_blank (shows : ℕ → α) : (blank shows : Table α τ β).Every P := by
  rintro l ⟨⟩

theorem Every.render (h : t.Every P) (hx : P x) : (t.render row cell source x).Every P := by
  intro l hl
  rcases List.mem_append.1 hl with hl | hl
  · exact h l hl
  · obtain rfl := List.mem_singleton.1 hl
    refine ⟨?_, by rintro y ⟨⟩⟩
    intro y hy
    rwa [List.mem_singleton.1 hy]

/-- The snapshot that is delivered was one of the listener's. -/
theorem Every.of_drop (h : t.Every P) (hl : t.renderings[n]? = some l)
    (hdrop : l.pending.drop k = x :: pending) : P x ∧ ∀ y ∈ pending, P y := by
  have hall := (h l (List.mem_of_getElem? hl)).1
  have hsub : ∀ y ∈ x :: pending, P y := fun y hy => hall y (List.mem_of_mem_drop (hdrop ▸ hy))
  exact ⟨hsub x List.mem_cons_self, fun y hy => hsub y (List.mem_cons_of_mem x hy)⟩

theorem Every.receive (h : t.Every P) (hl : t.renderings[n]? = some l)
    (hdrop : l.pending.drop k = x :: pending) : (t.receive n l x pending content).Every P := by
  obtain ⟨hx, hpending⟩ := h.of_drop hl hdrop
  intro l' hl'
  rcases List.mem_or_eq_of_mem_set hl' with hl' | rfl
  · exact h l' hl'
  · refine ⟨hpending, ?_⟩
    intro y hy
    rwa [← Option.some.inj hy]

end Table

end Cells
