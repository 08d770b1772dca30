import LibraryManagement.Lib.Transition
import LibraryManagement.Screens.StudentsTheorems
import LibraryManagement.VisitsTheorems

/-!
# Whose cards the borrowing list shows

The screen of a student listens to the cards, keeps those of its student and writes them to
three entries of `UserDefaults`, from which the borrowing list is rendered. The listener stays
when the screen is left, so that every screen that was ever opened writes there, whenever the
cards change. The state keeps whose listener was delivered last (`CardLists.delivered`).
-/

namespace LibraryManagement

open Handler Transition EditInfoStudentViewController

/-- The client, with the listeners of the students' screens. -/
structure CardLists where
  client : Client
  /-- The IDs of the students whose screens were opened, oldest first. -/
  listeners : List String
  /-- The ID of the student whose screen was opened last. -/
  current : Option String
  /-- The ID of the student whose listener was delivered last. -/
  delivered : Option String

/-- A visit, a delivery, a change of the cards, or what the borrowing list does. -/
inductive CardStep
  /-- The row of a student is tapped and the student's screen opens. -/
  | visit (student : CurrentStudent)
  | deliver (i : ℕ)
  | change (cards : Collection)
  | openList
  | render (row : ℕ)

namespace CardLists

def start (c : Client) : CardLists := ⟨c, [], none, none⟩

/-- The screen of a student opens: the ID it shows. -/
def visit (student : CurrentStudent) : Handler String := do
  student.select
  let (form, _) ← EditInfoStudentViewController.viewDidLoad
  return form.ID

def step (r : CardLists) : CardStep → Option CardLists
  | .visit student => (r.client.run (visit student)).map fun (ID, c) =>
    { r with client := c, listeners := r.listeners ++ [ID], current := some ID }
  | .deliver i => r.listeners[i]?.bind fun ID =>
    (r.client.run (cardsDelivery ID (r.client.db .borrowCard))).map fun (_, c) =>
      { r with client := c, delivered := some ID }
  | .change cards =>
    some { r with client := { r.client with db := Function.update r.client.db .borrowCard cards } }
  | .openList => (r.client.run ListBorrowingCardStudentViewController.viewDidLoad).map fun (_, c) =>
    { r with client := c }
  | .render row =>
    (r.client.run (ListBorrowingCardStudentViewController.cellForRowAt row)).map fun (_, c) =>
      { r with client := c }

/-! ## What is to hold -/

/-- The card that a row shows. -/
def shown (r : CardLists) (row : ℕ) : Option Document :=
  (r.client.temp["data"]?.bind Value.dictionaries?).bind (·[row]?)

/-- A row that is rendered shows a card of the current student. -/
def ShowsOwn (r : CardLists) : CardStep → Prop
  | .render row => ∀ card ∈ r.shown row, ∀ ID ∈ r.current, card.Carries "ID_student" ID
  | _ => True

/-- The condition on a step: a row is rendered when the listener delivered last was that of a
screen of the current student. -/
def KeepsCards (r : CardLists) : CardStep → Prop
  | .render _ => r.delivered = r.current
  | _ => True

instance (r : CardLists) : DecidablePred r.KeepsCards
  | .visit _ => inferInstanceAs (Decidable True)
  | .deliver _ => inferInstanceAs (Decidable True)
  | .change _ => inferInstanceAs (Decidable True)
  | .openList => inferInstanceAs (Decidable True)
  | .render _ => inferInstanceAs (Decidable (_ = _))

/-! ## Whose cards are stored -/

/-- The stored cards are those of the student whose listener was delivered last. -/
def Labelled (r : CardLists) : Prop :=
  ∀ ID ∈ r.delivered, ∀ cards ∈ r.client.temp["data"]?.bind Value.dictionaries?,
    ∀ card ∈ cards, card.Carries "ID_student" ID

variable {r t : CardLists}

theorem labelled_start (c : Client) : (start c).Labelled := by
  intro ID hID
  cases hID

theorem ownCards_carries {studentID : String} {cards : List (String × Document)} {card : Document}
    (h : card ∈ (ownCards studentID cards).map Prod.snd) : card.Carries "ID_student" studentID := by
  obtain ⟨entry, hentry, rfl⟩ := List.mem_map.1 h
  simpa using (List.mem_filter.1 hentry).2

/-- Opening a student's screen leaves the stored cards alone, or makes them unreadable. -/
theorem visit_ok {student : CurrentStudent} {ID : String} {d d' : Device}
    (h : visit student d = .ok ID d') {cards : List Document}
    (hcards : d'.temp["data"]?.bind Value.dictionaries? = some cards) :
    d.temp["data"]?.bind Value.dictionaries? = some cards := by
  simp only [visit, CurrentStudent.select, Traps.bind_eq_ok, set_eq_ok, exists_const] at h
  obtain ⟨_, ⟨_, rfl, rfl⟩, opened, d₁, hload, hreturn⟩ := h
  obtain ⟨rfl, -⟩ := EditInfoStudentViewController.viewDidLoad_ok hload
  obtain ⟨-, rfl⟩ := Traps.pure_eq_ok.1 hreturn
  obtain ⟨-, hcards⟩ := (UserDefaults.bind_getElem?_insert_of_none rfl).1 hcards
  exact ((UserDefaults.bind_getElem?_insert_of_none rfl).1 hcards).2

theorem labelled_step {e : CardStep} (hr : r.Labelled) (h : r.step e = some t) : t.Labelled := by
  cases e with
  | visit student =>
    obtain ⟨ID, d, hvisit, rfl⟩ := Client.map_run_eq_some.1 h
    intro ID' hID' cards hcards
    exact hr ID' hID' cards (visit_ok hvisit hcards)
  | deliver i =>
    obtain ⟨ID, -, hstep⟩ := Option.bind_eq_some_iff.1 h
    obtain ⟨_, d, hdelivery, rfl⟩ := Client.map_run_eq_some.1 hstep
    obtain rfl := cardsDelivery_ok hdelivery
    -- The stored cards are now those of this listener's student.
    intro ID' hID' cards hcards card hcard
    obtain rfl : ID = ID' := Option.some.inj hID'
    have hstored := (listing_data _ _).symm.trans hcards
    obtain rfl := Option.some.inj hstored
    exact ownCards_carries hcard
  | change cards =>
    obtain rfl := Option.some.inj h
    exact hr
  | openList =>
    obtain ⟨⟨name, hidden⟩, d, hload, rfl⟩ := Client.map_run_eq_some.1 h
    obtain ⟨rfl, -⟩ := ListBorrowingCardStudentViewController.viewDidLoad_ok hload
    exact hr
  | render row =>
    obtain ⟨⟨id, cell, hidden⟩, d, hcell, rfl⟩ := Client.map_run_eq_some.1 h
    obtain ⟨data, listID, card, status, -, -, -, -, -, -, rfl⟩ :=
      ListBorrowingCardStudentViewController.cellForRowAt_ok hcell
    -- Caching the card leaves the stored cards alone, unless its id is their key.
    intro ID hID cards hcards
    exact hr ID hID cards ((UserDefaults.bind_getElem?_insert_of_none rfl).1 hcards).2

theorem showsOwn_of_labelled {e : CardStep} (hr : r.Labelled) (hkeeps : r.KeepsCards e) :
    r.ShowsOwn e := by
  cases e with
  | render row =>
    intro card hcard ID hID
    have hdelivered : ID ∈ r.delivered := by
      rw [show r.delivered = r.current from hkeeps]
      exact hID
    obtain ⟨cards, hcards, hrow⟩ := Option.bind_eq_some_iff.1 hcard
    exact hr ID hdelivered cards hcards card (List.mem_of_getElem? hrow)
  | _ => trivial

end CardLists

/-! ## Every run -/

/-- In every run whose steps meet the condition, whatever the listeners deliver and in whatever
order, a row that is rendered shows a card of the current student. -/
theorem ownCards_of_run {c : Client} {es : List CardStep} {r : CardLists} {e : CardStep}
    (h : Run (Guarded CardLists.KeepsCards (Steps CardLists.step)) (CardLists.start c) es r)
    (hkeeps : r.KeepsCards e) : r.ShowsOwn e := by
  have hlabelled : r.Labelled := h.invariant CardLists.Labelled (CardLists.labelled_start c)
    fun _ _ _ hr hstep => CardLists.labelled_step hr hstep.2
  exact CardLists.showsOwn_of_labelled hlabelled hkeeps

namespace Sample

def borrower (id name ID : String) : CurrentStudent where
  id := id
  document := Document.merge ∅ (Student.data { name := name, ID := ID } "1")

/-- One card of each of two students. -/
def cardOfEach : Client where
  temp := ∅
  db := Function.update Database.empty .borrowCard
    (((∅ : Collection).insert "K1" (Document.merge ∅
        (BorrowCard.data { idStudent := "1712001", idBook := "B1" }))).insert "K2" (Document.merge ∅
      (BorrowCard.data { idStudent := "1712002", idBook := "B2" })))

/-- The list of the second student is opened when that student's cards have come last. -/
def secondList : Reached (Guarded CardLists.KeepsCards (Steps CardLists.step))
    (CardLists.start cardOfEach) :=
  let first := Reached.start.takeGuarded (.visit (borrower "S1" "AN" "1712001")) trivial
    (by decide +kernel)
  let firstCards := first.takeGuarded (.deliver 0) trivial (by decide +kernel)
  let second := firstCards.takeGuarded (.visit (borrower "S2" "BINH" "1712002")) trivial
    (by decide +kernel)
  let secondCards := second.takeGuarded (.deliver 1) trivial (by decide +kernel)
  secondCards.takeGuarded .openList trivial (by decide +kernel)

/-- The listener of the first student is delivered once more. -/
def lateFirst : Reached (Steps CardLists.step) (CardLists.start cardOfEach) :=
  let list : Reached (Steps CardLists.step) (CardLists.start cardOfEach) :=
    ⟨secondList.labels, secondList.state, secondList.run.of_guarded⟩
  list.take (.deliver 0) (by decide +kernel)

end Sample

theorem ownCards_secondList : (Sample.secondList.state.shown 0).isSome ∧
    Sample.secondList.state.ShowsOwn (.render 0) :=
  ⟨by decide +kernel, ownCards_of_run Sample.secondList.run (by decide +kernel)⟩

/-- The list of the second student shows the card of the first. -/
theorem ownCards_fails : ¬ ∀ (c : Client) (es : List CardStep) (r t : CardLists) (e : CardStep),
    Run (Steps CardLists.step) (CardLists.start c) es r → Steps CardLists.step r e t →
      r.ShowsOwn e := by
  intro hall
  have hown : ∀ card ∈ Sample.lateFirst.state.shown 0, ∀ ID ∈ Sample.lateFirst.state.current,
      card.Carries "ID_student" ID :=
    hall _ _ _ _ (.render 0) Sample.lateFirst.run (steps_after (by decide +kernel))
  revert hown
  decide +kernel

end LibraryManagement
