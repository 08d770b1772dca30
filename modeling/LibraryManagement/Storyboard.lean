import LibraryManagement.Fleet
import LibraryManagement.Lib.Rooted
import LibraryManagement.Segues
import Mathlib.Data.List.TakeWhile

/-!
# The screens that are open

The screens of a tab are a path through the storyboard from the tab's root, on every device and
whatever traps (`storyboard_of_run`). A confirm or a cancel unwinds to a screen that was passed on
every such path, so it finds its target (`unwinds_of_run`).
-/

namespace LibraryManagement

open Handler Transition

/-! ## Paths of the storyboard -/

namespace Place

/-- The screens that a screen can open. -/
def opens (place : Place) : List Place := place.segues ++ place.rowSegue.toList

variable {place below target : Place}

/-- A screen with an unwind target is opened by the target, or by a list that the target opens. -/
theorem opener_cases (htarget : place.unwindTarget = some target) (hopens : place ∈ below.opens) :
    below = target ∨ (below = manageStudents ∧ target = studentMenu) ∨
      (below = manageBooks ∧ target = bookMenu) := by
  revert hopens
  cases place <;> cases htarget <;> cases below <;> decide

theorem opener_manageStudents (h : manageStudents ∈ below.opens) : below = studentMenu := by
  revert h
  cases below <;> decide

theorem opener_manageBooks (h : manageBooks ∈ below.opens) : below = bookMenu := by
  revert h
  cases below <;> decide

theorem unwindTarget_root (tab : Tab) : tab.root.unwindTarget = none := by cases tab <;> rfl

end Place

/-- Screens as the storyboard opens them, from the root of the tab. -/
abbrev Opened (tab : Tab) (places : List Place) : Prop :=
  places.Rooted (fun below place => place ∈ below.opens) tab.root

variable {tab : Tab} {place target : Place} {below : List Place}

/-- A list of the students or of the books was opened from the menu. -/
theorem Opened.menu_mem (h : Opened tab (place :: below))
    (hplace : place = .manageStudents ∧ target = .studentMenu ∨
      place = .manageBooks ∧ target = .bookMenu) : target ∈ below := by
  rcases h.cases_front with ⟨rfl, hroot⟩ | ⟨under, rest, rfl, hopens, -⟩
  · rcases hplace with ⟨rfl, rfl⟩ | ⟨rfl, rfl⟩ <;> cases tab <;> cases hroot
  · rcases hplace with ⟨rfl, rfl⟩ | ⟨rfl, rfl⟩
    · exact Place.opener_manageStudents hopens ▸ List.mem_cons_self
    · exact Place.opener_manageBooks hopens ▸ List.mem_cons_self

/-- What a confirm unwinds to was passed on the way. -/
theorem Opened.target_mem (h : Opened tab (place :: below))
    (htarget : place.unwindTarget = some target) : target ∈ below := by
  rcases h.cases_front with ⟨rfl, rfl⟩ | ⟨under, rest, rfl, hopens, hbelow⟩
  · rw [Place.unwindTarget_root] at htarget
    cases htarget
  · rcases Place.opener_cases htarget hopens with rfl | hlist
    · exact List.mem_cons_self
    · exact List.mem_cons_of_mem _ (Opened.menu_mem hbelow hlist)

/-! ## What an event does to the screens -/

namespace Path

variable {p p' : Path}

/-- The screens are as the storyboard opens them, and the alert of a borrow is shown on the borrow
screen. -/
structure OnStoryboard (p : Path) : Prop where
  opened : ∀ tab, Opened tab (p.stack tab)
  closed : p.tab = none → ∀ tab, p.stack tab = []
  selected : ∀ tab ∈ p.tab, p.stack tab ≠ []
  alert : p.alert = true → p.here = some .addNewBorrowingCard

theorem onStoryboard_launch : launch.OnStoryboard where
  opened _ := .nil
  closed _ _ := rfl
  selected _ htab := by cases htab
  alert halert := by cases halert

/-- The same screens. -/
theorem OnStoryboard.same (hp : p.OnStoryboard) (htab : p'.tab = p.tab)
    (hstack : p'.stack = p.stack) (halert : p'.alert = p.alert) : p'.OnStoryboard where
  opened tab := hstack ▸ hp.opened tab
  closed hnone tab := hstack ▸ hp.closed (htab ▸ hnone) tab
  selected tab hselected := hstack ▸ hp.selected tab (htab ▸ hselected)
  alert h := by
    rw [here, front, htab, hstack]
    exact hp.alert (halert ▸ h)

/-- Another stack of the tab that is selected now. -/
theorem OnStoryboard.select {places : List Place} (hp : p.OnStoryboard)
    (hplaces : Opened tab places) (hne : places ≠ []) (htab : p'.tab = some tab)
    (hstack : p'.stack = Function.update p.stack tab places) (halert : p'.alert = false) :
    p'.OnStoryboard where
  opened tab' := by
    rw [hstack, Function.update_apply]
    split
    · next heq => exact heq ▸ hplaces
    · exact hp.opened tab'
  closed hnone := by
    rw [htab] at hnone
    cases hnone
  selected tab' htab' := by
    obtain rfl : tab = tab' := Option.some.inj (htab.symm.trans htab')
    rwa [hstack, Function.update_self]
  alert htrue := by
    rw [halert] at htrue
    cases htrue

theorem OnStoryboard.front (hp : p.OnStoryboard) (hfront : p.front = some (tab, place, below)) :
    Opened tab (place :: below) := by
  have hopened := hp.opened tab
  rwa [(front_eq_some.1 hfront).2] at hopened

/-- The screen in front opens one more. -/
theorem OnStoryboard.further {next : Place} (hp : p.OnStoryboard)
    (hfront : p.front = some (tab, place, below)) (hnext : next ∈ place.opens) :
    Opened tab (next :: p.stack tab) :=
  (front_eq_some.1 hfront).2 ▸ (hp.front hfront).push hnext

/-- The alert of a borrow is not shown on another screen. -/
theorem OnStoryboard.no_alert (hp : p.OnStoryboard) (hfront : p.front = some (tab, place, below))
    (hne : place ≠ .addNewBorrowingCard) : p.alert = false := by
  refine Bool.eq_false_iff.2 fun halert => hne ?_
  exact Option.some.inj ((here_of_front hfront).symm.trans (hp.alert halert))

/-- Completed, the handler leads to a path that meets `Q`. -/
def Leads (x : Handler Path) (Q : Path → Prop) : Prop :=
  Traps.Triple Set.univ (fun _ => True) x fun p _ => Q p

variable {Q : Path → Prop} {α : Type}

theorem Leads.done (hp : Q p) : Leads (return p) Q := Traps.Triple.pure fun _ _ => hp

theorem Leads.after {x : Handler α} {f : α → Handler Path} (hf : ∀ a, Leads (f a) Q) :
    Leads (x >>= f) Q := Traps.Triple.any.bind hf

theorem push_leads (hp : p.OnStoryboard) (hopened : Opened tab (place :: p.stack tab))
    (halert : p.alert = false) : Leads (p.push tab place) OnStoryboard :=
  .after fun _ => .after fun _ => .after fun _ =>
    .done (hp.select hopened (List.cons_ne_nil _ _) rfl rfl halert)

theorem reveal_leads (hp : p.OnStoryboard) (hopened : Opened tab (place :: below))
    (halert : p.alert = false) : Leads (p.reveal tab place below) OnStoryboard :=
  .after fun _ => .after fun _ =>
    .done (hp.select hopened (List.cons_ne_nil _ _) rfl rfl halert)

theorem unwind_leads {x : Handler Path} (hp : p.OnStoryboard) (hopened : Opened tab below)
    (halert : p.alert = false) (hx : p.unwind tab below target = some x) :
    Leads x OnStoryboard := by
  unfold unwind at hx
  split at hx
  · next top rest hdrop =>
    obtain rfl := Option.some.inj hx
    have hsuffix : top :: rest <:+ below := hdrop ▸ List.dropWhile_suffix _
    exact reveal_leads hp (hopened.suffix hsuffix) halert
  · cases hx

/-- The same screens are open. -/
structure SameScreens (p p' : Path) : Prop where
  tab : p'.tab = p.tab
  stack : p'.stack = p.stack
  alert : p'.alert = p.alert

/-- The same screens are open, and the same answers outstanding. -/
structure Keeps (p p' : Path) : Prop extends SameScreens p p' where
  pending : p'.pending = p.pending
  adding : p'.adding = p.adding

/-- The answer to a load opens no screen and starts no load. -/
theorem answer_keeps {db : Database} (l : Load) : Leads (l.answer db p) p.Keeps := by
  cases l with
  | studentRow id =>
    refine .after fun _ => .done ?_
    split <;> exact ⟨⟨rfl, rfl, rfl⟩, rfl, rfl⟩
  | bookRow id =>
    refine .after fun _ => .done ?_
    split <;> exact ⟨⟨rfl, rfl, rfl⟩, rfl, rfl⟩
  | picked screen id =>
    refine .after fun _ => .done ?_
    split <;> exact ⟨⟨rfl, rfl, rfl⟩, rfl, rfl⟩
  | _ => exact .after fun _ => .done ⟨⟨rfl, rfl, rfl⟩, rfl, rfl⟩

theorem answer_leads {db : Database} (l : Load) (hp : p.OnStoryboard) :
    Leads (l.answer db p) OnStoryboard :=
  (answer_keeps l).weaken (fun _ h => h) fun _ _ h => hp.same h.tab h.stack h.alert

/-- An event leads from screens of the storyboard to screens of the storyboard. -/
theorem handler_leads {uppercased : String → String} {db : Database} {e : Event} {x : Handler Path}
    (hp : p.OnStoryboard) (hx : p.handler uppercased db e = some x) : Leads x OnStoryboard := by
  cases e with
  | login email =>
    obtain ⟨hnone, hx⟩ := Option.ite_none_right_eq_some.1 hx
    obtain rfl := Option.some.inj hx
    refine .after fun id => push_leads (hp.same rfl rfl rfl) ?_ ?_
    · exact (hp.closed hnone .students).symm ▸ .single
    · refine Bool.eq_false_iff.2 fun halert => ?_
      have hhere := hp.alert halert
      rw [here, Path.front, hnone] at hhere
      cases hhere
  | logout =>
    obtain ⟨hhere, hx⟩ := Option.ite_none_right_eq_some.1 hx
    obtain rfl := Option.some.inj hx
    refine .done ⟨fun _ => .nil, fun _ _ => rfl, by rintro tab ⟨⟩, fun halert => ?_⟩
    have hborrow := hp.alert halert
    rw [hhere] at hborrow
    cases hborrow
  | select next =>
    obtain ⟨⟨tab, place, below⟩, -, hx⟩ := Option.bind_eq_some_iff.1 hx
    obtain ⟨⟨halert, -⟩, hx⟩ := Option.ite_none_right_eq_some.1 hx
    split at hx
    · next hstack =>
      obtain rfl := Option.some.inj hx
      exact push_leads hp (hstack.symm ▸ .single) halert
    · next top rest hstack =>
      obtain rfl := Option.some.inj hx
      exact reveal_leads hp (hstack ▸ hp.opened next) halert
  | segue next =>
    obtain ⟨⟨tab, place, below⟩, hfront, hx⟩ := Option.bind_eq_some_iff.1 hx
    obtain ⟨⟨halert, hnext⟩, hx⟩ := Option.ite_none_right_eq_some.1 hx
    obtain rfl := Option.some.inj hx
    exact push_leads hp (hp.further hfront (List.mem_append_left _ hnext)) halert
  | tap row =>
    obtain ⟨⟨tab, place, below⟩, hfront, hx⟩ := Option.bind_eq_some_iff.1 hx
    obtain ⟨next, hnext, rfl⟩ := Option.map_eq_some_iff.1 hx
    have hne : place ≠ .addNewBorrowingCard := by
      rintro rfl
      cases hnext
    exact .after fun _ => push_leads hp
      (hp.further hfront (List.mem_append_right _ (Option.mem_toList.2 hnext)))
      (hp.no_alert hfront hne)
  | readMore title content =>
    obtain ⟨⟨tab, place, below⟩, hfront, hx⟩ := Option.bind_eq_some_iff.1 hx
    obtain ⟨hrules, hx⟩ := Option.ite_none_right_eq_some.1 hx
    obtain rfl := Option.some.inj hx
    obtain rfl : place = .rules := hrules
    exact .after fun _ => push_leads (p := { p with read := true }) (hp.same rfl rfl rfl)
      (hp.further hfront (by decide)) (hp.no_alert hfront (by decide))
  | back =>
    obtain ⟨⟨tab, place, below⟩, hfront, hx⟩ := Option.bind_eq_some_iff.1 hx
    cases below with
    | nil => cases hx
    | cons top rest =>
      obtain ⟨halert, hx⟩ := Option.ite_none_right_eq_some.1 hx
      obtain rfl := Option.some.inj hx
      exact reveal_leads hp ((hp.front hfront).suffix (List.suffix_cons _ _)) halert
  | root =>
    simp only [handler] at hx
    obtain ⟨⟨tab, place, below⟩, hfront, hx⟩ := Option.bind_eq_some_iff.1 hx
    split at hx
    · next last hlast =>
      obtain ⟨halert, hx⟩ := Option.ite_none_right_eq_some.1 hx
      obtain rfl := Option.some.inj hx
      have hbelow : Opened tab below := (hp.front hfront).suffix (List.suffix_cons _ _)
      exact reveal_leads hp (hbelow.last last hlast ▸ .single) halert
    · cases hx
  | unwind =>
    obtain ⟨⟨tab, place, below⟩, hfront, hx⟩ := Option.bind_eq_some_iff.1 hx
    obtain ⟨target, -, hx⟩ := Option.bind_eq_some_iff.1 hx
    obtain ⟨halert, hx⟩ := Option.ite_none_right_eq_some.1 hx
    exact unwind_leads hp ((hp.front hfront).suffix (List.suffix_cons _ _)) halert hx
  | deliver i =>
    obtain ⟨l, -, rfl⟩ := Option.map_eq_some_iff.1 hx
    exact answer_leads l (hp.same rfl rfl rfl)
  | again i =>
    obtain ⟨l, -, rfl⟩ := Option.map_eq_some_iff.1 hx
    exact answer_leads l hp
  | render row =>
    obtain ⟨⟨tab, place, below⟩, -, hx⟩ := Option.bind_eq_some_iff.1 hx
    obtain ⟨y, -, rfl⟩ := Option.map_eq_some_iff.1 hx
    exact .after fun _ => .done (hp.same rfl rfl rfl)
  | addStudent form autoID =>
    obtain ⟨-, hx⟩ := Option.ite_none_right_eq_some.1 hx
    obtain rfl := Option.some.inj hx
    refine .after fun waiting => ?_
    cases waiting with
    | listener id => exact .done hp
    | answers ids => exact .done (hp.same rfl rfl rfl)
  | addBook form =>
    obtain ⟨-, hx⟩ := Option.ite_none_right_eq_some.1 hx
    obtain rfl := Option.some.inj hx
    refine .after fun book => ?_
    cases book with
    | none => exact .done hp
    | some book => exact .done (hp.same rfl rfl rfl)
  | block i shown =>
    obtain ⟨a, -, rfl⟩ := Option.map_eq_some_iff.1 hx
    exact .after fun _ => .done (hp.same rfl rfl rfl)
  | lend autoID =>
    obtain ⟨⟨hhere, -, -⟩, hx⟩ := Option.ite_none_right_eq_some.1 hx
    obtain rfl := Option.some.inj hx
    exact .after fun _ => .done ⟨hp.opened, hp.closed, hp.selected, fun _ => hhere⟩
  | ok =>
    obtain ⟨⟨tab, place, below⟩, hfront, hx⟩ := Option.bind_eq_some_iff.1 hx
    obtain ⟨-, hx⟩ := Option.ite_none_right_eq_some.1 hx
    obtain ⟨y, hy, rfl⟩ := Option.map_eq_some_iff.1 hx
    exact .after fun _ => unwind_leads (p := { p with alert := false })
      ⟨hp.opened, hp.closed, hp.selected, by rintro ⟨⟩⟩
      ((hp.front hfront).suffix (List.suffix_cons _ _)) rfl hy
  | addRule title content =>
    obtain ⟨⟨tab, place, below⟩, hfront, hx⟩ := Option.bind_eq_some_iff.1 hx
    obtain ⟨⟨hplace, -⟩, hx⟩ := Option.ite_none_right_eq_some.1 hx
    obtain ⟨y, hy, rfl⟩ := Option.map_eq_some_iff.1 hx
    obtain rfl : place = .addRules := hplace
    exact .after fun _ => unwind_leads (p := p.load [.rules]) (hp.same rfl rfl rfl)
      ((hp.front hfront).suffix (List.suffix_cons _ _)) (hp.no_alert hfront (by decide)) hy
  | change db' => cases hx
  | pickerRow row =>
    obtain ⟨-, hx⟩ := Option.ite_none_right_eq_some.1 hx
    obtain rfl := Option.some.inj hx
    exact .after fun _ => .after fun _ => .done hp
  | bookText text =>
    obtain ⟨-, hx⟩ := Option.ite_none_right_eq_some.1 hx
    obtain rfl := Option.some.inj hx
    exact .done (hp.same rfl rfl rfl)
  | _ =>
    obtain ⟨-, hx⟩ := Option.ite_none_right_eq_some.1 hx
    obtain rfl := Option.some.inj hx
    exact .after fun _ => .done (hp.same rfl rfl rfl)

/-- An unwind to a screen below is possible. -/
theorem isSome_unwind (htarget : target ∈ below) : (p.unwind tab below target).isSome := by
  unfold unwind
  split
  · rfl
  · next hdrop =>
    have hall := List.dropWhile_eq_nil_iff.1 hdrop target htarget
    simp at hall

/-- The buttons that unwind find their targets. -/
theorem OnStoryboard.unwinds (hp : p.OnStoryboard) (uppercased : String → String)
    (db : Database) :
    (p.alert = false → ∀ place ∈ p.here, place.unwindTarget.isSome →
      (p.handler uppercased db .unwind).isSome) ∧
    (p.alert = true → (p.handler uppercased db .ok).isSome) ∧
    ∀ title content, p.here = some .addRules →
      AddRulesViewController.confirmButton title content = true →
        (p.handler uppercased db (.addRule title content)).isSome := by
  have hfront {place : Place} (hhere : p.here = some place) :
      ∃ tab below, p.front = some (tab, place, below) := by
    obtain ⟨⟨tab, place, below⟩, hfront, rfl⟩ := Option.map_eq_some_iff.1 hhere
    exact ⟨tab, below, hfront⟩
  refine ⟨fun halert place hhere htarget => ?_, fun halert => ?_,
    fun title content hhere hconfirm => ?_⟩
  · obtain ⟨tab, below, hfront⟩ := hfront hhere
    obtain ⟨target, htarget⟩ := Option.isSome_iff_exists.1 htarget
    have hmem := Opened.target_mem (hp.front hfront) htarget
    simp only [handler, hfront, htarget, Option.bind_some, halert, if_true]
    exact isSome_unwind hmem
  · obtain ⟨tab, below, hfront⟩ := hfront (hp.alert halert)
    have hmem : .listBorrowingCard ∈ below := Opened.target_mem (hp.front hfront) rfl
    simp only [handler, hfront, Option.bind_some, halert, if_true, Option.isSome_map]
    exact isSome_unwind hmem
  · obtain ⟨tab, below, hfront⟩ := hfront hhere
    have hmem : .rules ∈ below := Opened.target_mem (hp.front hfront) rfl
    simp only [handler, hfront, Option.bind_some, hconfirm, and_self, if_true,
      Option.isSome_map]
    exact isSome_unwind hmem

end Path

/-! ## Every run -/

namespace Fleet

variable {κ : Type} {uppercased : String → String} {r t : Fleet κ} {k : κ} {e : FleetEvent}

theorem handler_leads {x : Handler Path} (hr : (r.station k).path.OnStoryboard)
    (hx : r.handler uppercased k e = some x) : Path.Leads x Path.OnStoryboard := by
  rcases handler_cases hx with ⟨rfl, -⟩ | ⟨rfl, -⟩ | ⟨i, autoID, form, id, -, -, rfl⟩ |
    ⟨i, accepted, shown, confirmed, answered, -, -, rfl⟩ | ⟨e', -, hx⟩
  · exact .done hr
  · exact .done hr
  · exact .after fun _ => .done hr
  · exact .after fun _ => .done hr
  · exact Path.handler_leads hr hx

theorem run_onStoryboard {s : Station} {x : Handler Path} (hx : Path.Leads x Path.OnStoryboard) :
    (s.run x).path.OnStoryboard := by
  unfold Station.run
  split
  · next p d hok => exact hx.ok trivial hok
  · exact Path.onStoryboard_launch

variable [DecidableEq κ]

theorem storyboard_step (hr : ∀ k, (r.station k).path.OnStoryboard)
    (h : step uppercased r (k, e) = some t) (a : κ) : (t.station a).path.OnStoryboard := by
  by_cases ha : k = a
  · obtain rfl := ha
    rcases step_cases h with ⟨taken, w, ws, rfl, hsent, rfl⟩ | ⟨rfl, rfl⟩ | ⟨x, hx, rfl⟩ <;>
      rw [station_update]
    · exact hr k
    · exact Path.onStoryboard_launch
    · exact run_onStoryboard (handler_leads (hr k) hx)
  · rw [station_of_ne ha h]
    exact hr a

theorem storyboard_run {es : List (κ × FleetEvent)} (hr : ∀ k, (r.station k).path.OnStoryboard)
    (h : Run (Steps (step uppercased)) r es t) : ∀ k, (t.station k).path.OnStoryboard := by
  refine h.invariant (fun r : Fleet κ => ∀ k, (r.station k).path.OnStoryboard) hr ?_
  rintro r ⟨k, e⟩ t hr hstep
  exact storyboard_step hr hstep

/-- An event of the path, when its handler is there. -/
theorem step_event {e : Event} {x : Handler Path} (he : r.pathEvent k (.event e) = some e)
    (hx : (r.station k).path.handler uppercased (r.view k) e = some x) :
    ∃ t, step uppercased r (k, .event e) = some t ∧
      t.station k = (r.note uppercased k (.event e)).run x := by
  have hhandler : r.handler uppercased k (.event e) = some x := by
    have hbind : r.handler uppercased k (.event e) = (r.pathEvent k (.event e)).bind
        ((r.station k).path.handler uppercased (r.view k)) := rfl
    rw [hbind, he, Option.bind_some, hx]
  have hstep : step uppercased r (k, .event e) = (r.handler uppercased k (.event e)).map fun h =>
    { r with
      auth := r.authAfter k (.event e)
      station := Function.update r.station k ((r.note uppercased k (.event e)).run h) } := rfl
  rw [hhandler, Option.map_some] at hstep
  exact ⟨_, hstep, station_update⟩

end Fleet

section

variable {κ : Type} [DecidableEq κ] {uppercased : String → String} {db : Database} {auth : Auth}
  {es : List (κ × FleetEvent)} {r : Fleet κ}

/-- On every device the screens of each tab are as the storyboard opens them from the tab's root. -/
theorem storyboard_of_run (h : Run (Steps (Fleet.step uppercased)) (Fleet.start db auth) es r)
    (k : κ) : (r.station k).path.OnStoryboard :=
  Fleet.storyboard_run (fun _ => Path.onStoryboard_launch) h k

theorem storyboard_twoDevices :
    (Sample.twoDevices.state.station false).path.here = some .addStudents ∧
      (Sample.twoDevices.state.station false).path.OnStoryboard :=
  ⟨by decide +kernel, storyboard_of_run Sample.twoDevices.run.of_guarded false⟩

/-- On every device the confirm and the cancel of a screen can unwind, and so can OK on the alert
of a borrow and on that of a new rule. -/
theorem unwinds_of_run (h : Run (Steps (Fleet.step uppercased)) (Fleet.start db auth) es r)
    (k : κ) :
    ((r.station k).path.alert = false → ∀ place ∈ (r.station k).path.here,
      place.unwindTarget.isSome → (Fleet.step uppercased r (k, .event .unwind)).isSome) ∧
    ((r.station k).path.alert = true → (Fleet.step uppercased r (k, .event .ok)).isSome) ∧
    ∀ title content, (r.station k).path.here = some .addRules →
      AddRulesViewController.confirmButton title content = true →
        (Fleet.step uppercased r (k, .event (.addRule title content))).isSome := by
  have hr := Fleet.storyboard_run (fun _ => Path.onStoryboard_launch) h k
  have hpossible {e : Event} (he : r.pathEvent k (.event e) = some e)
      (hx : ((r.station k).path.handler uppercased (r.view k) e).isSome) :
      (Fleet.step uppercased r (k, .event e)).isSome := by
    obtain ⟨x, hx⟩ := Option.isSome_iff_exists.1 hx
    obtain ⟨t, ht, -⟩ := Fleet.step_event he hx
    exact Option.isSome_iff_exists.2 ⟨t, ht⟩
  obtain ⟨hunwind, hok, hrule⟩ := hr.unwinds uppercased (r.view k)
  exact ⟨fun halert place hhere htarget => hpossible rfl (hunwind halert place hhere htarget),
    fun halert => hpossible rfl (hok halert),
    fun title content hhere hconfirm => hpossible rfl (hrule title content hhere hconfirm)⟩

namespace Sample

/-- The form of a new student is open, and no load of the login is answered. -/
def atForm : Reached (Guarded (fun _ _ => True) (Steps fleetStep))
    (Fleet.start Database.empty users) :=
  Reached.start.takeAll ([.login "a@b" "secret", .event (.segue .addStudents)].map (true, ·))
    (by decide +kernel)

end Sample

theorem unwinds_atForm :
    (Sample.fleetStep Sample.atForm.state (true, .event .unwind)).isSome :=
  (unwinds_of_run Sample.atForm.run.of_guarded true).1 (by decide +kernel)
    .addStudents (by decide +kernel) rfl

end

end LibraryManagement
