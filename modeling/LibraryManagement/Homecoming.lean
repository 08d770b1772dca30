import LibraryManagement.Storyboard

/-!
# No screen is a dead end

The buttons of a device lead back to the root of the tab. Every load that was started can be
answered and every confirm of a book comes to its end, so the device also comes to rest there
(`home_of_run`). A handler may trap on the way, which leads back to the login screen.
-/

namespace LibraryManagement

open Handler Transition

namespace AddBooksViewController

/-- How many blocks of a confirm are still to run. -/
def Block.remaining : Block → ℕ
  | check => 5
  | readFlag => 4
  | save => 3
  | updateData => 2
  | finished => 1

/-- A block is the last one, or fewer are still to run after it. -/
theorem Adding.block_remaining {a : Adding} {shown : BookForm} :
    Traps.Triple Set.univ (fun _ => True) (a.block shown) fun a' _ =>
      a'.next = .finished ∨ a'.next.remaining < a.next.remaining := by
  unfold block
  split
  · next h =>
    exact Traps.Triple.any.bind fun _ => .pure fun _ _ => .inr (by simp [h, Block.remaining])
  · next h =>
    refine Traps.Triple.any.bind fun exists' => .pure fun _ _ => ?_
    cases exists' with
    | true => exact .inl rfl
    | false => exact .inr (by simp [h, Block.remaining])
  · next h =>
    exact Traps.Triple.any.bind fun _ => .pure fun _ _ => .inr (by simp [h, Block.remaining])
  · next h => exact Traps.Triple.any.bind fun _ => .pure fun _ _ => .inl rfl
  · next h => exact .pure fun _ _ => .inl h

end AddBooksViewController

namespace Path

variable {p p' : Path} {uppercased : String → String} {db : Database}

/-- The blocks that are still to run. -/
def remaining (p : Path) : ℕ := (p.adding.map fun a => a.next.remaining).sum

theorem SameScreens.refl (p : Path) : p.SameScreens p := ⟨rfl, rfl, rfl⟩

theorem SameScreens.trans {p'' : Path} (h : p.SameScreens p') (h' : p'.SameScreens p'') :
    p.SameScreens p'' :=
  ⟨h'.tab.trans h.tab, h'.stack.trans h.stack, h'.alert.trans h.alert⟩

/-- The next answer to a load that waits. -/
theorem deliver_leads {l : Load} {rest : List Load} (hpending : p.pending = l :: rest) :
    ∃ x, p.handler uppercased db (.deliver 0) = some x ∧ Leads x fun p' =>
      p.SameScreens p' ∧ p'.remaining = p.remaining ∧ p'.pending = rest := by
  refine ⟨l.answer db (p.delivered 0 l), ?_, ?_⟩
  · simp [handler, hpending]
  · refine (answer_keeps l).weaken (fun _ h => h) fun p' _ h => ⟨⟨h.tab, h.stack, h.alert⟩, ?_, ?_⟩
    · simp only [remaining, h.adding]
      rfl
    · rw [h.pending, delivered, hpending]
      rfl

/-- The next block of the oldest confirm. -/
theorem block_leads {a : AddBooksViewController.Adding} {rest : List AddBooksViewController.Adding}
    (hadding : p.adding = a :: rest) (shown : BookForm) :
    ∃ x, p.handler uppercased db (.block 0 shown) = some x ∧ Leads x fun p' =>
      p.SameScreens p' ∧ p'.remaining < p.remaining := by
  refine ⟨do return p.advance 0 (← a.block shown), ?_, ?_⟩
  · simp only [handler, hadding]
    rfl
  · refine AddBooksViewController.Adding.block_remaining.bind fun a' => .pure fun _ hnext =>
      ⟨⟨rfl, rfl, rfl⟩, ?_⟩
    have hpos : 0 < a.next.remaining := by cases a.next <;> decide
    simp only [remaining, advance, hadding, List.map_cons, List.sum_cons]
    split
    · -- The confirm is over.
      simp only [List.eraseIdx_cons_zero]
      omega
    · next hfinished =>
      have hlt := hnext.resolve_left hfinished
      simp only [List.set_cons_zero, List.map_cons, List.sum_cons]
      omega

/-- At the root of a tab, or before the login. -/
def AtRoot (p : Path) : Prop := p.tab = none ∨ ∃ tab, p.tab = some tab ∧ p.stack tab = [tab.root]

/-- At rest at the root of a tab, or before the login. -/
structure AtHome (p : Path) : Prop where
  settled : p.Settled
  alert : p.alert = false
  root : p.AtRoot

theorem atHome_launch : launch.AtHome := ⟨⟨rfl, rfl⟩, rfl, .inl rfl⟩

/-- OK on the alert leads back to the list of the cards. -/
theorem ok_leads (hp : p.OnStoryboard) (halert : p.alert = true) :
    ∃ x, p.handler uppercased db .ok = some x ∧ Leads x fun p' => p'.alert = false := by
  obtain ⟨x, hx⟩ := Option.isSome_iff_exists.1 ((hp.unwinds uppercased db).2.1 halert)
  refine ⟨x, hx, ?_⟩
  obtain ⟨⟨tab, place, below⟩, -, hx⟩ := Option.bind_eq_some_iff.1 hx
  obtain ⟨-, hx⟩ := Option.ite_none_right_eq_some.1 hx
  obtain ⟨y, hy, rfl⟩ := Option.map_eq_some_iff.1 hx
  unfold unwind at hy
  split at hy
  · obtain rfl := Option.some.inj hy
    exact .after fun _ => .after fun _ => .after fun _ => .done rfl
  · cases hy

/-- The button of the selected tab leads to its root, unless that is in front. -/
theorem root_leads {tab : Tab} {place : Place} {below : List Place} (hp : p.OnStoryboard)
    (halert : p.alert = false) (hfront : p.front = some (tab, place, below)) (hne : below ≠ []) :
    ∃ x, p.handler uppercased db .root = some x ∧ Leads x fun p' =>
      p'.alert = false ∧ p'.tab = some tab ∧ p'.stack tab = [tab.root] := by
  obtain ⟨last, hlast⟩ := Option.isSome_iff_exists.1 (List.getLast?_isSome.2 hne)
  have hroot : last = tab.root :=
    ((hp.front hfront).suffix (List.suffix_cons _ _)).last last hlast
  refine ⟨p.reveal tab last [], ?_, ?_⟩
  · simp only [handler, hfront, Option.bind_some, hlast, halert, if_true]
  · refine .after fun _ => .after fun _ => .done ⟨halert, rfl, ?_⟩
    simp only [Function.update_self, hroot]

end Path

namespace Fleet

variable {κ : Type} [DecidableEq κ] {uppercased : String → String} {r : Fleet κ} {k : κ}

/-- The device does something, and nobody closes the app. -/
def Acts (k : κ) (e : κ × FleetEvent) : Prop := e.1 = k ∧ e.2 ≠ .quit

/-- An event of the path with a known outcome. -/
theorem canReach_event {e : Event} {x : Handler Path} {Q : Path → Prop}
    {P : Fleet κ → Prop} (he : r.pathEvent k (.event e) = some e)
    (hx : (r.station k).path.handler uppercased (r.view k) e = some x) (hlead : Path.Leads x Q)
    (ht : ∀ t, (t.station k).path = Path.launch ∨ Q (t.station k).path →
      CanReach (Steps (step uppercased)) (Acts k) t P) :
    CanReach (Steps (step uppercased)) (Acts k) r P := by
  obtain ⟨t, hstep, hstation⟩ := step_event he hx
  refine .step_first ⟨rfl, by rintro ⟨⟩⟩ hstep (ht t ?_)
  rw [hstation, Station.run]
  split
  · next p d hok => exact .inr (hlead.ok trivial hok)
  · exact .inl rfl

/-- A device can answer its loads and end its confirms of books, unless a handler traps. -/
theorem canReach_settled (uppercased : String → String) (r : Fleet κ) (k : κ) :
    CanReach (Steps (step uppercased)) (Acts k) r fun t => (t.station k).path = Path.launch ∨
      (t.station k).path.Settled ∧ (r.station k).path.SameScreens (t.station k).path := by
  -- A block may start loads, and an answer starts nothing.
  generalize hblocks : (r.station k).path.remaining = n
  generalize hloads : (r.station k).path.pending.length = m
  induction n using Nat.strong_induction_on generalizing r m with
  | _ n ihn =>
    induction m generalizing r with
    | zero =>
      have hpending := List.length_eq_zero_iff.1 hloads
      cases hadding : (r.station k).path.adding with
      | nil => exact .here (.inr ⟨⟨hpending, hadding⟩, .refl _⟩)
      | cons a rest =>
        obtain ⟨x, hx, hlead⟩ := Path.block_leads hadding ⟨"", "", "", "", "", "", "", ""⟩
        refine canReach_event rfl hx hlead fun t ht => ?_
        rcases ht with hlaunch | ⟨hsame, hless⟩
        · exact .here (.inl hlaunch)
        · exact (ihn _ (hblocks ▸ hless) t rfl _ rfl).trans fun _ u _ hu =>
            .here (hu.imp_right fun hu => ⟨hu.1, hsame.trans hu.2⟩)
    | succ m ihm =>
      obtain ⟨l, rest, hpending⟩ := List.exists_cons_of_length_eq_add_one hloads
      obtain ⟨x, hx, hlead⟩ := Path.deliver_leads hpending
      refine canReach_event rfl hx hlead fun t ht => ?_
      rcases ht with hlaunch | ⟨hsame, hblocks', hpending'⟩
      · exact .here (.inl hlaunch)
      · have hlength : (t.station k).path.pending.length = m := by
          rw [hpending', ← Nat.add_right_cancel_iff (n := 1), ← hloads, hpending]
          rfl
        exact (ihm t (hblocks'.trans hblocks) hlength).trans fun _ u _ hu =>
          .here (hu.imp_right fun hu => ⟨hu.1, hsame.trans hu.2⟩)

/-- An alert is dismissed. -/
theorem canReach_noAlert (hr : (r.station k).path.OnStoryboard) :
    CanReach (Steps (step uppercased)) (Acts k) r fun t => (t.station k).path.alert = false := by
  cases halert : (r.station k).path.alert with
  | false => exact .here halert
  | true =>
    obtain ⟨x, hx, hlead⟩ := Path.ok_leads hr halert
    refine canReach_event rfl hx hlead fun t ht => .here ?_
    rcases ht with hlaunch | halert'
    · rw [hlaunch]
      rfl
    · exact halert'

/-- Without an alert, the button of the tab leads to its root. -/
theorem canReach_root (hr : (r.station k).path.OnStoryboard)
    (halert : (r.station k).path.alert = false) :
    CanReach (Steps (step uppercased)) (Acts k) r fun t =>
      (t.station k).path.alert = false ∧ (t.station k).path.AtRoot := by
  cases htab : (r.station k).path.tab with
  | none => exact .here ⟨halert, .inl htab⟩
  | some tab =>
    obtain ⟨place, below, hstack⟩ := List.exists_cons_of_ne_nil (hr.selected tab htab)
    have hfront := Path.front_eq_some.2 ⟨htab, hstack⟩
    rcases (hr.front hfront).cases_front with ⟨rfl, rfl⟩ | ⟨under, rest, rfl, -, -⟩
    · exact .here ⟨halert, .inr ⟨tab, htab, hstack⟩⟩
    · obtain ⟨x, hx, hlead⟩ := Path.root_leads hr halert hfront (List.cons_ne_nil _ _)
      refine canReach_event rfl hx hlead fun t ht => .here ?_
      rcases ht with hlaunch | ⟨halert', htab', hroot⟩
      · rw [hlaunch]
        exact ⟨rfl, .inl rfl⟩
      · exact ⟨halert', .inr ⟨tab, htab', hroot⟩⟩

/-- At the root the device comes to rest. -/
theorem canReach_home (halert : (r.station k).path.alert = false)
    (hroot : (r.station k).path.AtRoot) :
    CanReach (Steps (step uppercased)) (Acts k) r fun t => (t.station k).path.AtHome := by
  refine (canReach_settled uppercased r k).trans fun _ t _ ht => .here ?_
  rcases ht with hlaunch | ⟨hsettled, hsame⟩
  · exact hlaunch ▸ Path.atHome_launch
  · refine ⟨hsettled, hsame.alert.trans halert, ?_⟩
    rw [Path.AtRoot, hsame.tab, hsame.stack]
    exact hroot

end Fleet

/-- From every reachable state each device can come to rest at the root of the tab that is
selected, or before the login, without being closed. -/
theorem home_of_run {κ : Type} [DecidableEq κ] {uppercased : String → String} {db : Database}
    {auth : Auth} {es : List (κ × FleetEvent)} {r : Fleet κ}
    (h : Run (Steps (Fleet.step uppercased)) (Fleet.start db auth) es r) (k : κ) :
    CanReach (Steps (Fleet.step uppercased)) (Fleet.Acts k) r
      fun t => (t.station k).path.AtHome := by
  have hr : ∀ k, (r.station k).path.OnStoryboard :=
    Fleet.storyboard_run (fun _ => Path.onStoryboard_launch) h
  refine (Fleet.canReach_noAlert (hr k)).trans fun _ s hs halert => ?_
  have hs' := Fleet.storyboard_run hr hs
  exact (Fleet.canReach_root (hs' k) halert).trans fun _ t _ ht => Fleet.canReach_home ht.1 ht.2

theorem home_twoDevices :
    CanReach (Steps Sample.fleetStep) (Fleet.Acts false) Sample.twoDevices.state
      fun t => (t.station false).path.AtHome :=
  home_of_run Sample.twoDevices.run.of_guarded false

end LibraryManagement
