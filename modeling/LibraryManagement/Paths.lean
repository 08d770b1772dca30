import LibraryManagement.Lib.Transition
import LibraryManagement.Segues
import LibraryManagement.VisitsTheorems

/-!
# Definite assignment along every path

No screen forces an entry that is missing or of another type (`entries_of_run`), on every path
on which the loads are answered before the next screen opens (`App.Settles`) and whose events
meet a condition (`App.Provides`). Most of it is about one of the app's missing writes: nothing
ever writes `"ID_cards"`, tapping a rule does not write `"current_rule"`, and a student without a
name is not cached.
-/

namespace LibraryManagement

open Handler Transition

/-! ## What is to hold -/

/-- A screen opens, appears again or goes away. -/
def Event.navigates : Event → Bool
  | login _ => true
  | logout => true
  | select _ => true
  | segue _ => true
  | tap _ => true
  | readMore _ _ => true
  | back => true
  | root => true
  | unwind => true
  | ok => true
  | addRule _ _ => true
  | _ => false

namespace App

/-- The trap an event ends in. -/
def trap (uppercased : String → String) (r : App) (e : Event) : Option Trap :=
  (r.path.handler uppercased r.client.db e).bind fun h => match h ⟨r.client.temp, []⟩ with
    | .ok _ _ => none
    | .error e _ => some e

/-- No entry that the event forces is missing or of another type. -/
def NoMissing (uppercased : String → String) (r : App) (e : Event) : Prop :=
  r.trap uppercased e ≠ some .missingEntry

/-- Every load is answered before a screen opens, appears again or goes away. -/
def Settles (r : App) (e : Event) : Prop := e.navigates = true → r.path.Settled

instance (r : App) : DecidablePred r.Settles := fun e =>
  inferInstanceAs (Decidable (e.navigates = true → _))

/-- The condition on an event. -/
def Provides (r : App) : Event → Prop
  | .deliver i => ∀ l ∈ r.path.pending[i]?, l.Plain r.client.db
  | .again i => ∀ l ∈ r.path.listeners[i]?, l.Plain r.client.db
  -- The borrowing list prints an entry that only a document of this id can fill.
  | .segue place => place = .listBorrowingCard → "ID_cards" ∈ r.path.shown
  -- The screen behind a row reads what the row has cached; a rule is cached by its button.
  | .tap row => (r.path.here = some .rules → r.path.read = true) ∧
    ∀ place ∈ r.path.here, ∀ list ∈ place.list, ∀ id ∈ listedID list row r.client.temp,
      id ∈ r.path.shown
  | .render row => r.path.here = some .listBorrowingCard →
    ∀ id ∈ listedID "listID" row r.client.temp, kind id = none
  -- The lent count is stored when the answer about the book has come.
  | .lend _ => ∀ l ∈ r.path.pending, l.place ≠ some .addNewBorrowingCard
  | .giveBack final => final.statusIsOn = false →
    ∀ l ∈ r.path.pending, l.place ≠ some .editBorrowCard
  | _ => True

/-- The paths on which every entry is there. -/
def Given (r : App) (e : Event) : Prop := r.Settles e ∧ r.Provides e

end App

/-! ## Confirms -/

namespace Path

variable {p : Path} {K : Set String} {tab : Tab} {place : Place} {below : List Place}

/-- A handler that leaves the entries and the path as they are. -/
theorem keep_spec (h : p.Keys K) {α : Type} {x : Handler α}
    (hx : Spec (p.entries K).Holds x fun _ => (p.entries K).Holds) :
    Spec (p.entries K).Holds (do
      let _ ← x
      return p) fun p' d => p'.Sound d :=
  hx.bind fun _ => .pure fun _ hd => ⟨K, hd, h⟩

theorem addStudent_spec (h : p.Keys K) {uppercased : String → String} {form : StudentForm}
    {autoID : String} (hids : "ID_students" ∈ K) :
    Spec (p.entries K).Holds (do
      match ← AddStudentsViewController.confirmButton uppercased form autoID with
      | .listener _ => return p
      | .answers ids =>
        return p.load (ids.map
          (.studentTest (AddStudentsViewController.newStudent uppercased form))))
      fun p' d => p'.Sound d := by
  refine (AddStudentsViewController.confirmButton_spec hids).bind fun waiting => ?_
  cases waiting with
  | listener id => exact .pure fun _ hd => ⟨K, hd, h⟩
  | answers ids =>
    refine .pure fun d hd => ⟨K, hd, h.load fun l hl => ?_⟩
    obtain ⟨id, -, rfl⟩ := List.mem_map.1 hl
    simp [Load.place]

/-- A confirm that goes on has lowered the flag, which only its own test raises. -/
theorem addBook_spec (h : p.Keys K) {uppercased : String → String} {form : BookForm}
    (hhere : p.here = some .addBooks) :
    Spec (p.entries K).Holds (do
      match ← AddBooksViewController.confirmButton uppercased form with
      | none => return p
      | some book => return { p with adding := p.adding ++ [⟨book, .check, []⟩] })
      fun p' d => p'.Sound d := by
  refine AddBooksViewController.confirmButton_spec.bind fun book => ?_
  cases book with
  | none =>
    refine .pure fun d hd => ⟨K, ?_, h⟩
    rcases hd with ⟨-, hd⟩ | ⟨⟨_, hnone⟩, -⟩
    · exact hd
    · cases hnone
  | some book =>
    have htesting : Path.testing { p with adding := p.adding ++ [⟨book, .check, []⟩] } = true := by
      simp [Path.testing, AddBooksViewController.Adding.Testing]
    refine .pure fun d hd => ⟨K ∪ {key | key ∈ ["check"]}, ?_, ?_⟩
    · rcases hd with ⟨hnone, -⟩ | ⟨-, hd⟩
      · cases hnone
      · rw [entries, htesting]
        exact hd
    · exact { h.mono (Set.subset_union_left (t := {key | key ∈ ["check"]})) with
        adding := fun _ => hhere
        testing := fun _ => .inr List.mem_cons_self }

theorem block_spec (h : p.Keys K) {i : ℕ} {a : AddBooksViewController.Adding} {shown : BookForm}
    (ha : p.adding[i]? = some a) (hids : "ID_books" ∈ K) :
    Spec (p.entries K).Holds (do return p.advance i (← a.block shown)) fun p' d => p'.Sound d := by
  have hmem : a ∈ p.adding := List.mem_of_getElem? ha
  have hflag (htesting : a.Testing) : (p.entries K).testing = true ∧ "check" ∈ K := by
    have hany : p.testing = true := List.any_eq_true.2 ⟨a, hmem, by simpa using htesting⟩
    exact ⟨hany, h.testing hany⟩
  refine (AddBooksViewController.Adding.block_spec hids hflag).read fun a' htesting => ?_
  -- A confirm that is over has no test, and one that goes on has none that it did not have.
  have hback : (p.advance i a').testing = true → p.testing = true := by
    intro hany
    obtain ⟨b, hb, hbtesting⟩ := List.any_eq_true.1 hany
    simp only [decide_eq_true_eq] at hbtesting
    simp only [advance] at hb
    split at hb
    · exact List.any_eq_true.2 ⟨b, List.mem_of_mem_eraseIdx hb, by simpa using hbtesting⟩
    · rcases List.mem_or_eq_of_mem_set hb with hb | rfl
      · exact List.any_eq_true.2 ⟨b, hb, by simpa using hbtesting⟩
      · exact List.any_eq_true.2 ⟨a, hmem, by simpa using htesting hbtesting⟩
  refine .pure fun d hd => ⟨K, hd.mono rfl hback subset_rfl, ?_⟩
  have hload : (p.load (if a'.next = .readFlag then a'.reads.map (.bookTest a'.book) else [])).Keys K :=
    h.load fun l hl => by
      split at hl
      · obtain ⟨id, -, rfl⟩ := List.mem_map.1 hl
        simp [Load.place]
      · cases hl
  exact { hload with
    adding := fun _ => h.adding (List.ne_nil_of_mem hmem)
    testing := fun htesting => h.testing (hback htesting) }

/-- The borrow screen changes, but neither the picked book nor the button. -/
theorem Keys.relend (h : p.Keys K) {s : AddNewBorrowingCardViewController.Screen}
    (hid : s.id = p.lending.id) (henabled : s.confirmEnabled = p.lending.confirmEnabled) :
    Path.Keys { p with lending := s } K :=
  { h with
    lent := fun hne hs => h.lent (hid ▸ hne) (henabled ▸ hs)
    alert := fun halert hne => h.alert halert (hid ▸ hne) }

theorem bookIDAction_spec (h : p.Keys K) (hhere : p.here = some .addNewBorrowingCard)
    (halert : p.alert = false) :
    Spec (p.entries K).Holds (do
      let (s, asked) ← AddNewBorrowingCardViewController.bookIDAction p.lending
      return { p.load (asked.toList.map (.picked p.borrows)) with lending := s })
      fun p' d => p'.Sound d := by
  refine AddNewBorrowingCardViewController.bookIDAction_spec.read fun r hr => ?_
  refine .pure fun d hd => ⟨K, hd, ?_⟩
  rcases r with ⟨s, asked⟩
  rcases hr with hasked | hr
  · obtain rfl : asked = some s.id := hasked
    have hpicked : (p.load [.picked p.borrows s.id]).Keys K :=
      h.load (by simp [Load.place, hhere])
    exact { hpicked with
      lent := fun _ _ => .inr ⟨s.id, List.mem_append_right _ List.mem_cons_self⟩
      alert := fun htrue => absurd (halert.symm.trans htrue) Bool.false_ne_true }
  · obtain ⟨rfl, rfl⟩ := Prod.mk.inj hr
    exact h.load (by simp)

theorem render_spec (h : p.Keys K) {temp : UserDefaults} {row : ℕ} {x : Handler Place.Rendered}
    (hfront : p.front = some (tab, place, below)) (hx : place.cellForRowAt row = some x)
    (hrow : p.here = some .listBorrowingCard → ∀ id ∈ listedID "listID" row temp, kind id = none) :
    Spec (fun d => (p.entries K).Holds d ∧ d.temp = temp)
      (do
        let rendered ← x
        return { p.load rendered.loads with shown := rendered.shown ++ p.shown })
      fun p' d => p'.Sound d := by
  have hbase := h.base_of_front hfront
  have hassigned := h.assigned_of_front hfront
  cases place with
  | manageStudents =>
    obtain rfl := Option.some.inj hx
    have hids : "ID_students" ∈ (p.entries K).assigned := hbase _ (by simp [base])
    simp only [bind_assoc, pure_bind]
    exact (ManageStudentsViewController.cellForRowAt_spec hids).weaken (fun d hd => hd.1)
      (fun _ _ hd => hd) |>.bind fun id => .pure fun d hd => ⟨K, hd, h.load (by simp [Load.place])⟩
  | manageBooks =>
    obtain rfl := Option.some.inj hx
    have hids : "ID_books" ∈ (p.entries K).assigned := hbase _ (by simp [base])
    simp only [bind_assoc, pure_bind]
    exact (ManageBooksViewController.cellForRowAt_spec hids).weaken (fun d hd => hd.1)
      (fun _ _ hd => hd) |>.bind fun id => .pure fun d hd => ⟨K, hd, h.load (by simp [Load.place])⟩
  | rules =>
    obtain rfl := Option.some.inj hx
    have hids : "ID_rules" ∈ (p.entries K).assigned := hbase _ (by simp [base])
    simp only [bind_assoc, pure_bind]
    exact (RuleViewController.cellForRowAt_spec hids).weaken (fun d hd => hd.1)
      (fun _ _ hd => hd) |>.bind fun id => .pure fun d hd => ⟨K, hd, h.load (by simp [Load.place])⟩
  | listBorrowingCard =>
    obtain rfl := Option.some.inj hx
    have hdata : "data" ∈ (p.entries K).assigned := hassigned _ (by simp [Place.assigned])
    have hlist : "listID" ∈ (p.entries K).assigned := hassigned _ (by simp [Place.assigned])
    have hplain := hrow (here_of_front hfront)
    simp only [bind_assoc, pure_bind]
    have hcell (d : Device) (hd : (p.entries K).Holds d ∧ d.temp = temp) :
        (p.entries K).Holds d ∧ ∀ id, listedID "listID" row d.temp = some id → kind id = none :=
      ⟨hd.1, fun id hid => hplain id (hd.2 ▸ hid)⟩
    refine ((ListBorrowingCardStudentViewController.cellForRowAt_spec hdata hlist).weaken hcell
      fun _ _ hd => hd).bind ?_
    exact fun r => .pure fun d hd => ⟨_, hd.2, (h.load (by simp)).cache hd.1⟩
  | _ => cases hx

/-- Without a tab there is nothing to show. -/
theorem logout_spec (h : p.Keys K) (hsettled : p.Settled) :
    Spec (p.entries K).Holds (return { p with tab := none, stack := fun _ => [] })
      fun p' d => p'.Sound d := by
  refine .pure fun _ hd => ⟨K, hd, { h with
    base := fun htab => absurd rfl htab
    session := fun htab => absurd rfl htab
    assigned := fun _ _ hq => by cases hq
    awaited := fun _ _ hq => by cases hq
    belongs := fun l hl => ?_
    adding := fun hadding => absurd hsettled.2 hadding }⟩
  have hmem : l ∈ p.pending := hl
  rw [hsettled.1] at hmem
  cases hmem

/-- The rule that edit-rule shows is set before the screen opens. -/
theorem readMore_spec (h : p.Keys K) {title content : String} (hsettled : p.Settled)
    (hfront : p.front = some (tab, place, below)) :
    Spec (p.entries K).Holds (do
      ListRulesTableViewCell.readMoreButton title content
      { p with read := true }.push tab .editInfoRule) fun p' d => p'.Sound d := by
  have hread : Path.Keys { p with read := true } (K ∪ {key | key ∈ ["current_rule"]}) :=
    { h.mono (Set.subset_union_left (t := {key | key ∈ ["current_rule"]})) with
      read := fun _ => .inr List.mem_cons_self }
  exact ListRulesTableViewCell.readMoreButton_spec.bind fun _ => push_spec hread
    hsettled.quiet (fun key hkey => .inl (h.base_of_front hfront key hkey))
    (fun key hkey => (h.session_of_front hfront key hkey).mono Set.subset_union_left)
    fun key hkey => .inr hkey

/-- With no answer outstanding a book was found, and left its count. -/
theorem lend_spec (h : p.Keys K) {autoID : String} (henabled : p.lending.confirmEnabled = true)
    (hnone : ¬ ∃ id, .picked p.borrows id ∈ p.pending) :
    Spec (p.entries K).Holds (do
      AddNewBorrowingCardViewController.confirmAction p.lending autoID
      return { p with alert := true }) fun p' d => p'.Sound d := by
  have hlend : Path.Keys { p with alert := true } K :=
    { h with alert := fun _ hid => (h.lent hid henabled).resolve_right hnone }
  exact AddNewBorrowingCardViewController.confirmAction_spec.bind fun _ =>
    .pure fun _ hd => ⟨K, hd, hlend⟩

/-- The one load that promises the count was answered before a card is given back. -/
theorem giveBack_spec (h : p.Keys K) {final : EditBorrowCardViewController.Screen}
    (hfront : p.front = some (tab, .editBorrowCard, below))
    (hanswered : final.statusIsOn = false → ∀ l ∈ p.pending, l.place ≠ some .editBorrowCard) :
    Spec (p.entries K).Holds (do
      EditBorrowCardViewController.confirmButton final
      return p) fun p' d => p'.Sound d := by
  refine keep_spec h (EditBorrowCardViewController.confirmButton_spec
    (h.assigned_of_front hfront _ (by simp [Place.assigned])) fun hoff => ?_)
  refine (h.awaited_of_front hfront "check" (by simp [Place.awaited])).resolve_right ?_
  rintro ⟨l, hl, hfills⟩
  have hplace : l.place ≠ some .editBorrowCard := hanswered hoff l hl
  cases l <;> simp_all [Load.fills, Load.place]

/-- Every event that meets the condition finds the entries it forces, and keeps the invariant. -/
theorem handler_spec {uppercased : String → String} {db : Database} {temp : UserDefaults}
    {e : Event} {x : Handler Path} (h : p.Keys K) (hsettles : App.Settles ⟨⟨temp, db⟩, p⟩ e)
    (hgiven : App.Provides ⟨⟨temp, db⟩, p⟩ e) (hx : p.handler uppercased db e = some x) :
    Spec (fun d => (p.entries K).Holds d ∧ d.temp = temp) x fun p' d => p'.Sound d := by
  have here_front {place : Place} (hhere : p.here = some place) :
      ∃ tab below, p.front = some (tab, place, below) := by
    obtain ⟨⟨tab, place, below⟩, hfront, rfl⟩ := Option.map_eq_some_iff.1 hhere
    exact ⟨tab, below, hfront⟩
  -- Most handlers do not need to know which `UserDefaults` they start from.
  have free {y : Handler Path} (hy : Spec (p.entries K).Holds y fun p' d => p'.Sound d) :
      Spec (fun d => (p.entries K).Holds d ∧ d.temp = temp) y fun p' d => p'.Sound d :=
    hy.weaken (fun _ hd => hd.1) fun _ _ hd => hd
  cases e with
  | login email =>
    obtain ⟨htab, hx⟩ := Option.ite_none_right_eq_some.1 hx
    obtain rfl := Option.some.inj hx
    exact free (login_spec h (hsettles rfl) htab)
  | logout =>
    obtain ⟨-, hx⟩ := Option.ite_none_right_eq_some.1 hx
    obtain rfl := Option.some.inj hx
    exact free (logout_spec h (hsettles rfl))
  | select next =>
    obtain ⟨⟨tab, place, below⟩, hfront, hx⟩ := Option.bind_eq_some_iff.1 hx
    obtain ⟨-, hx⟩ := Option.ite_none_right_eq_some.1 hx
    have hsettled : p.Settled := hsettles rfl
    have hbase := h.base_of_front hfront
    have hsession := h.session_of_front hfront
    split at hx
    · obtain rfl := Option.some.inj hx
      exact free (push_spec h hsettled.quiet hbase hsession (h.assigned_of_root hsettled hfront next))
    · next top rest hstack =>
      obtain rfl := Option.some.inj hx
      exact free (reveal_spec h hsettled.quiet hbase hsession (by simp [hstack]))
  | segue next =>
    obtain ⟨⟨tab, place, below⟩, hfront, hx⟩ := Option.bind_eq_some_iff.1 hx
    obtain ⟨⟨-, hnext⟩, hx⟩ := Option.ite_none_right_eq_some.1 hx
    obtain rfl := Option.some.inj hx
    have hsettled : p.Settled := hsettles rfl
    exact free (push_spec h hsettled.quiet (h.base_of_front hfront) (h.session_of_front hfront)
      (h.assigned_of_segue hsettled hfront hnext hgiven))
  | tap row =>
    obtain ⟨⟨tab, place, below⟩, hfront, hx⟩ := Option.bind_eq_some_iff.1 hx
    obtain ⟨next, hnext, rfl⟩ := Option.map_eq_some_iff.1 hx
    exact tap_spec h (hsettles rfl) hfront hnext hgiven.1 (hgiven.2 place (here_of_front hfront))
  | readMore title content =>
    obtain ⟨⟨tab, place, below⟩, hfront, hx⟩ := Option.bind_eq_some_iff.1 hx
    obtain ⟨-, hx⟩ := Option.ite_none_right_eq_some.1 hx
    obtain rfl := Option.some.inj hx
    exact free (readMore_spec h (hsettles rfl) hfront)
  | back =>
    simp only [handler] at hx
    obtain ⟨⟨tab, place, below⟩, hfront, hx⟩ := Option.bind_eq_some_iff.1 hx
    cases below with
    | nil => cases hx
    | cons top rest =>
      obtain ⟨-, hx⟩ := Option.ite_none_right_eq_some.1 hx
      obtain rfl := Option.some.inj hx
      exact free (reveal_spec h (hsettles rfl).quiet (h.base_of_front hfront)
        (h.session_of_front hfront) (mem_stack_of_front hfront))
  | root =>
    simp only [handler] at hx
    obtain ⟨⟨tab, place, below⟩, hfront, hx⟩ := Option.bind_eq_some_iff.1 hx
    split at hx
    · next last hlast =>
      obtain ⟨-, hx⟩ := Option.ite_none_right_eq_some.1 hx
      obtain rfl := Option.some.inj hx
      refine free (reveal_spec h (hsettles rfl).quiet (h.base_of_front hfront)
        (h.session_of_front hfront) fun q hq => ?_)
      obtain rfl := List.mem_singleton.1 hq
      exact mem_stack_of_front hfront _ (List.mem_of_getLast? hlast)
    · cases hx
  | unwind =>
    simp only [handler] at hx
    obtain ⟨⟨tab, place, below⟩, hfront, hx⟩ := Option.bind_eq_some_iff.1 hx
    obtain ⟨target, htarget, hx⟩ := Option.bind_eq_some_iff.1 hx
    obtain ⟨-, hx⟩ := Option.ite_none_right_eq_some.1 hx
    exact free (unwind_spec h (hsettles rfl).quiet (h.base_of_front hfront)
      (h.session_of_front hfront) (mem_stack_of_front hfront) hx)
  | deliver i =>
    obtain ⟨l, hl, rfl⟩ := Option.map_eq_some_iff.1 hx
    exact free (Load.answer_spec (h.delivered hl) (hgiven l hl))
  | again i =>
    obtain ⟨l, hl, rfl⟩ := Option.map_eq_some_iff.1 hx
    exact free (Load.answer_spec (h.again (List.mem_of_getElem? hl)) (hgiven l hl))
  | render row =>
    obtain ⟨⟨tab, place, below⟩, hfront, hx⟩ := Option.bind_eq_some_iff.1 hx
    obtain ⟨y, hy, rfl⟩ := Option.map_eq_some_iff.1 hx
    exact render_spec h hfront hy hgiven
  | addStudent form autoID =>
    obtain ⟨hhere, hx⟩ := Option.ite_none_right_eq_some.1 hx
    obtain rfl := Option.some.inj hx
    obtain ⟨tab, below, hfront⟩ := here_front hhere
    exact free (addStudent_spec h (h.base_of_front hfront _ (by simp [base])))
  | editStudent form statusIsOn =>
    obtain ⟨hhere, hx⟩ := Option.ite_none_right_eq_some.1 hx
    obtain rfl := Option.some.inj hx
    obtain ⟨tab, below, hfront⟩ := here_front hhere
    exact free (keep_spec h (EditInfoStudentViewController.confirmAction_spec
      (h.assigned_of_front hfront _ (by simp [Place.assigned]))))
  | addBook form =>
    obtain ⟨hhere, hx⟩ := Option.ite_none_right_eq_some.1 hx
    obtain rfl := Option.some.inj hx
    exact free (addBook_spec h hhere)
  | block i shown =>
    obtain ⟨a, ha, rfl⟩ := Option.map_eq_some_iff.1 hx
    have hhere := h.adding (List.ne_nil_of_mem (List.mem_of_getElem? ha))
    obtain ⟨tab, below, hfront⟩ := here_front hhere
    exact free (block_spec h ha (h.base_of_front hfront _ (by simp [base])))
  | editBook form =>
    obtain ⟨hhere, hx⟩ := Option.ite_none_right_eq_some.1 hx
    obtain rfl := Option.some.inj hx
    obtain ⟨tab, below, hfront⟩ := here_front hhere
    exact free (keep_spec h (EditInfoBookViewController.confirmButton_spec h.plain
      (h.assigned_of_front hfront _ (by simp [Place.assigned]))))
  | bookAction =>
    simp only [handler] at hx
    obtain ⟨⟨hhere, halert⟩, hx⟩ := Option.ite_none_right_eq_some.1 hx
    obtain rfl := Option.some.inj hx
    obtain ⟨tab, below, hfront⟩ := here_front hhere
    exact free ((AddNewBorrowingCardViewController.bookAction_spec
      (h.assigned_of_front hfront _ (by simp [Place.assigned]))).read fun s hs =>
        .pure fun _ hd => ⟨K, hd, h.relend hs.1 hs.2⟩)
  | pickerRow row =>
    obtain ⟨⟨hhere, halert⟩, hx⟩ := Option.ite_none_right_eq_some.1 hx
    obtain rfl := Option.some.inj hx
    obtain ⟨tab, below, hfront⟩ := here_front hhere
    exact free ((AddNewBorrowingCardViewController.numberOfRowsInComponent_spec
      (h.base_of_front hfront _ (by simp [base]))).bind fun _ =>
        keep_spec h (AddNewBorrowingCardViewController.titleForRow_spec
          (h.assigned_of_front hfront _ (by simp [Place.assigned]))))
  | didSelectRow row =>
    obtain ⟨⟨hhere, halert⟩, hx⟩ := Option.ite_none_right_eq_some.1 hx
    obtain rfl := Option.some.inj hx
    obtain ⟨tab, below, hfront⟩ := here_front hhere
    exact free ((AddNewBorrowingCardViewController.didSelectRow_spec
      (h.assigned_of_front hfront _ (by simp [Place.assigned]))).read fun s hs =>
        .pure fun _ hd => ⟨K, hd, h.relend hs.1 hs.2⟩)
  | bookText text =>
    obtain ⟨⟨hhere, halert⟩, hx⟩ := Option.ite_none_right_eq_some.1 hx
    obtain rfl := Option.some.inj hx
    exact free (.pure fun _ hd => ⟨K, hd, h.relend rfl rfl⟩)
  | bookIDAction =>
    simp only [handler] at hx
    obtain ⟨⟨hhere, halert⟩, hx⟩ := Option.ite_none_right_eq_some.1 hx
    obtain rfl := Option.some.inj hx
    exact free (bookIDAction_spec h hhere halert)
  | lend autoID =>
    obtain ⟨⟨hhere, halert, henabled⟩, hx⟩ := Option.ite_none_right_eq_some.1 hx
    obtain rfl := Option.some.inj hx
    have hnone : ¬ ∃ id, .picked p.borrows id ∈ p.pending := by
      rintro ⟨id, hl⟩
      exact hgiven (.picked p.borrows id) hl rfl
    exact free (lend_spec h henabled hnone)
  | ok =>
    simp only [handler] at hx
    obtain ⟨⟨tab, place, below⟩, hfront, hx⟩ := Option.bind_eq_some_iff.1 hx
    obtain ⟨halert, hx⟩ := Option.ite_none_right_eq_some.1 hx
    obtain ⟨y, hy, rfl⟩ := Option.map_eq_some_iff.1 hx
    have hover : Path.Keys { p with alert := false } K := { h with alert := fun hfalse => by cases hfalse }
    exact free ((AddNewBorrowingCardViewController.okAction_spec (h.alert halert)).bind fun _ =>
      unwind_spec hover (hsettles rfl).quiet (h.base_of_front hfront) (h.session_of_front hfront)
        (mem_stack_of_front hfront) hy)
  | giveBack final =>
    obtain ⟨hhere, hx⟩ := Option.ite_none_right_eq_some.1 hx
    obtain rfl := Option.some.inj hx
    obtain ⟨tab, below, hfront⟩ := here_front hhere
    exact free (giveBack_spec h hfront hgiven)
  | addRule title content =>
    obtain ⟨⟨tab, place, below⟩, hfront, hx⟩ := Option.bind_eq_some_iff.1 hx
    obtain ⟨-, hx⟩ := Option.ite_none_right_eq_some.1 hx
    obtain ⟨y, hy, rfl⟩ := Option.map_eq_some_iff.1 hx
    have hsettled : p.Settled := hsettles rfl
    have hquiet : (p.load [.rules]).Quiet := ⟨by simp [load, hsettled.1, Load.place], hsettled.2⟩
    exact free ((AddRulesViewController.okAction_spec
      (h.base_of_front hfront _ (by simp [base]))).bind fun _ =>
        unwind_spec (h.load (by simp [Load.place])) hquiet (h.base_of_front hfront)
          (fun key hkey => (h.session_of_front hfront key hkey).load) (mem_stack_of_front hfront) hy)
  | editRule title content =>
    obtain ⟨hhere, hx⟩ := Option.ite_none_right_eq_some.1 hx
    obtain rfl := Option.some.inj hx
    exact free (keep_spec h EditInfoRuleViewController.confirmButton_spec)
  | editAccount form password₁ password₂ =>
    obtain ⟨hhere, hx⟩ := Option.ite_none_right_eq_some.1 hx
    obtain rfl := Option.some.inj hx
    exact free (keep_spec h EditAccountViewController.confirmButton_spec)
  | change db' => cases hx

end Path

/-! ## Every path -/

namespace App

variable {uppercased : String → String} {r t : App} {e : Event}

theorem sound_start (db : Database) : (start db).path.Sound ⟨∅, []⟩ := by
  refine ⟨∅, ⟨by simp, by rintro key ⟨⟩⟩, ?_⟩
  exact {
    plain := by rintro id ⟨⟩
    base := by simp [start, Path.launch]
    session := by simp [start, Path.launch]
    read := by simp [start, Path.launch]
    assigned := by simp [start, Path.launch]
    awaited := by simp [start, Path.launch]
    belongs := by simp [start, Path.launch]
    adding := by simp [start, Path.launch]
    testing := by simp [start, Path.launch, Path.testing]
    lent := by simp [start, Path.launch]
    alert := by simp [start, Path.launch]
    listeners := by simp [start, Path.launch] }

theorem handler_spec (hsound : r.path.Sound ⟨r.client.temp, []⟩) (hgiven : r.Given e)
    {x : Handler Path} (hx : r.path.handler uppercased r.client.db e = some x) :
    Spec (fun d => d = ⟨r.client.temp, []⟩) x fun p d => p.Sound d := by
  obtain ⟨K, hholds, hkeys⟩ := hsound
  refine (Path.handler_spec hkeys hgiven.1 hgiven.2 hx).weaken ?_ fun _ _ hd => hd
  rintro d rfl
  exact ⟨hholds, rfl⟩

theorem noMissing_of_sound (hsound : r.path.Sound ⟨r.client.temp, []⟩) (hgiven : r.Given e) :
    r.NoMissing uppercased e := by
  intro htrap
  obtain ⟨x, hx, hres⟩ := Option.bind_eq_some_iff.1 htrap
  split at hres
  · cases hres
  · next e' d herror =>
    obtain rfl := Option.some.inj hres
    exact (handler_spec hsound hgiven hx).error rfl herror rfl

theorem sound_step (hsound : r.path.Sound ⟨r.client.temp, []⟩) (hgiven : r.Given e)
    (hstep : r.step uppercased e = some t) : t.path.Sound ⟨t.client.temp, []⟩ := by
  unfold step at hstep
  split at hstep
  · obtain rfl := Option.some.inj hstep
    exact hsound
  · obtain ⟨x, hx, hmap⟩ := Option.bind_eq_some_iff.1 hstep
    obtain ⟨p, d, hok, rfl⟩ := Client.map_run_eq_some.1 hmap
    have hsound' : p.Sound d := (handler_spec hsound hgiven hx).ok rfl hok
    exact hsound'

end App

/-- On every path on which the loads are answered before the next screen opens and whose events
meet the condition, no screen forces an entry that is missing or of another type. -/
theorem entries_of_run {uppercased : String → String} {db : Database} {es : List Event} {r : App}
    {e : Event} (h : Run (Guarded App.Given (Steps (App.step uppercased))) (App.start db) es r)
    (hgiven : r.Given e) : r.NoMissing uppercased e :=
  App.noMissing_of_sound
    (h.invariant (fun r => r.path.Sound ⟨r.client.temp, []⟩) (App.sound_start db)
      fun _ _ _ hsound hstep => App.sound_step hsound hstep.1 hstep.2) hgiven

namespace Sample

/-- A registered user and one student. -/
def oneStudent : Database :=
  Write.applyAll Database.empty
    [.setData .accounts "a@b" [("name", .string "An"), ("birthday", .string "01-01-1990"),
      ("gender", .string "Other"), ("email", .string "a@b"), ("status", .string "2")],
    .addDocument .students "S1" (Student.data { name := "AN", ID := "1712001" } "1")]

abbrev appStep : App → Event → Option App := App.step Swift.asciiUppercased

variable {db : Database}

/-- The load that waits longest is answered. -/
def answered (r : Reached (Guarded App.Given (Steps appStep)) (App.start db))
    (hplain : ∀ l ∈ r.state.path.pending[0]?, l.Plain r.state.client.db)
    (h : (appStep r.state (.deliver 0)).isSome) :
    Reached (Guarded App.Given (Steps appStep)) (App.start db) :=
  r.takeGuarded (.deliver 0) ⟨nofun, hplain⟩ h

/-- The account and the students are there. -/
def loggedIn : Reached (Guarded App.Given (Steps appStep)) (App.start oneStudent) :=
  let login : Reached (Guarded App.Given (Steps appStep)) (App.start oneStudent) :=
    Reached.start.takeGuarded (.login "a@b") ⟨by decide +kernel, trivial⟩ (by decide +kernel)
  let account := answered login (by decide +kernel) (by decide +kernel)
  answered account (by decide +kernel) (by decide +kernel)

/-- Every load of the login is answered. -/
def menu : Reached (Guarded App.Given (Steps appStep)) (App.start oneStudent) :=
  let rules := answered loggedIn (by decide +kernel) (by decide +kernel)
  let books := answered rules (by decide +kernel) (by decide +kernel)
  answered books (by decide +kernel) (by decide +kernel)

/-- The row of the student is shown in the list. -/
def listed : Reached (Guarded App.Given (Steps appStep)) (App.start oneStudent) :=
  let list := menu.takeGuarded (.segue .manageStudents) ⟨by decide +kernel, by rintro ⟨⟩⟩
    (by decide +kernel)
  let row := list.takeGuarded (.render 0) ⟨nofun, show _ = _ → _ by decide +kernel⟩
    (by decide +kernel)
  answered row (by decide +kernel) (by decide +kernel)

/-- The student's row is tapped, and its borrowing cards have come. -/
def studentOpened : Reached (Guarded App.Settles (Steps appStep)) (App.start oneStudent) :=
  let listed : Reached (Guarded App.Settles (Steps appStep)) (App.start oneStudent) :=
    ⟨listed.labels, listed.state, listed.run.mono fun _ _ _ h => ⟨h.1.1, h.2⟩⟩
  let tapped := listed.takeGuarded (.tap 0) (by decide +kernel) (by decide +kernel)
  tapped.takeGuarded (.deliver 0) nofun (by decide +kernel)

end Sample

theorem entries_listedRow : Sample.listed.state.path.shown = ["S1"] ∧
    Sample.listed.state.NoMissing Swift.asciiUppercased (.tap 0) :=
  ⟨by decide +kernel, entries_of_run Sample.listed.run
    ⟨by decide +kernel, by decide +kernel, by decide +kernel⟩⟩

/-- The swipe to the borrowing list ends in a trap: no screen has written `"ID_cards"`. -/
theorem entries_fail : ¬ ∀ (db : Database) (es : List Event) (r : App) (e : Event),
    Run (Guarded App.Settles (Steps (App.step Swift.asciiUppercased))) (App.start db) es r →
      r.Settles e → r.NoMissing Swift.asciiUppercased e := by
  intro hall
  have htrap : Sample.studentOpened.state.trap Swift.asciiUppercased (.segue .listBorrowingCard)
      = some .missingEntry := by decide +kernel
  exact hall _ _ _ _ Sample.studentOpened.run (by decide +kernel) htrap

end LibraryManagement
