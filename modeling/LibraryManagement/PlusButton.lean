import LibraryManagement.VisitsTheorems
import LibraryManagement.Screens.StudentsTheorems

/-!
# The plus button of the borrowing list

When the list has loaded, the button is hidden from a student who may not borrow. From then
on every row that is rendered shows or hides it by its own card, so that the row rendered
last decides alone (`renderRows_ok`).
-/

namespace LibraryManagement

open Handler EditInfoStudentViewController ListBorrowingCardStudentViewController

namespace Visits

/-- Rendering rows in this order, from a button that is hidden or not. -/
def renderRows (rows : List ℕ) (hidden : Bool) : Handler Bool :=
  rows.foldlM (fun _ row => do
    let (_, _, hidden) ← cellForRowAt row
    return hidden) hidden

/-- The borrowing list of the current student loads and renders `rows`: whether the plus button
is hidden then. The cards were delivered to the screen of the student with this ID. -/
def borrowingList (studentID : String) (cards : Collection) (rows : List ℕ) : Handler Bool := do
  cardsDelivery studentID cards
  let (_, hidden) ← ListBorrowingCardStudentViewController.viewDidLoad
  renderRows rows hidden

end Visits

/-! ## What is to hold -/

/-- A card that was given back. -/
def Returned (card : Document) : Prop := card.Carries "status" "0"

instance : DecidablePred Returned := fun card => inferInstanceAs (Decidable (card.Carries "status" "0"))

/-- The button is visible exactly if the student may borrow and has given everything back. -/
def ReflectsRight (status : String) (cards : List (String × Document)) (hidden : Bool) : Prop :=
  hidden = false ↔ status ≠ "0" ∧ ∀ card ∈ cards, Returned card.2

/-- The row rendered last is not that of a card that was given back, or the student has no card,
or may borrow and has given everything back. -/
def LastDecides (status : String) (cards : List (String × Document)) (rows : List ℕ) : Prop :=
  cards = [] ∨ (∃ row ∈ rows.getLast?, ∃ card ∈ cards[row]?, ¬ Returned card.2) ∨
    status ≠ "0" ∧ ∀ card ∈ cards, Returned card.2

/-! ## Rendering -/

namespace Visits

variable {d d' : Device}

/-- The row rendered last decides; every row shows one of the cards. -/
theorem renderRows_ok {rows : List ℕ} {hidden hidden' : Bool} {cards : List Document}
    (hcards : ∀ data ∈ d.temp["data"]?.bind Value.dictionaries?, data = cards)
    (h : renderRows rows hidden d = .ok hidden' d') :
    (∀ row ∈ rows, row < cards.length) ∧
      (rows = [] ∧ hidden' = hidden ∨
        ∃ row card, rows.getLast? = some row ∧ cards[row]? = some card ∧
          hidden' = decide (¬ Returned card)) := by
  induction rows generalizing hidden d with
  | nil =>
    obtain ⟨rfl, -⟩ := Traps.pure_eq_ok.1 h
    exact ⟨by simp, .inl ⟨rfl, rfl⟩⟩
  | cons row rows ih =>
    rw [renderRows, List.foldlM_cons] at h
    obtain ⟨hidden₁, d₁, hrow, hrest⟩ := Traps.bind_eq_ok.1 h
    obtain ⟨⟨id, cell, hidden₂⟩, d₂, hcell, hpure⟩ := Traps.bind_eq_ok.1 hrow
    obtain ⟨rfl, rfl⟩ := Traps.pure_eq_ok.1 hpure
    obtain ⟨data, listID, card, status, hdata, -, hcard, -, hstatus, rfl, rfl⟩ :=
      cellForRowAt_ok hcell
    obtain rfl : data = cards := hcards data hdata
    -- A card cached under the key of the cards themselves would trap in the next row.
    have hkept : ∀ data' ∈ (d.temp.insert id (.dictionary card))["data"]?.bind Value.dictionaries?,
        data' = data := by
      intro data' hdata'
      exact hcards data' ((UserDefaults.bind_getElem?_insert_of_none rfl).1 hdata').2
    obtain ⟨hrange, hlast⟩ := ih hkept hrest
    have hlt : row < data.length := (List.getElem?_eq_some_iff.1 hcard).1
    refine ⟨List.forall_mem_cons.2 ⟨hlt, hrange⟩, .inr ?_⟩
    rcases hlast with ⟨rfl, rfl⟩ | ⟨last, card', hlast, hcard', hhidden⟩
    · refine ⟨row, card, rfl, hcard, ?_⟩
      simp [Returned, Document.Carries, hstatus]
    · refine ⟨last, card', ?_, hcard', hhidden⟩
      rw [List.getLast?_cons, hlast, Option.getD_some]

/-- What the button shows after a complete rendering. -/
theorem borrowingList_ok {studentID : String} {cards : Collection} {rows : List ℕ} {hidden : Bool}
    {ID status : String} {student : Document}
    (hID : d.temp["ID_current_student"]?.bind Value.string? = some ID)
    (hstudent : d.temp[ID]?.bind Value.dictionary? = some student)
    (hstatus : student.string? "status" = some status)
    (h : borrowingList studentID cards rows d = .ok hidden d') :
    (∀ row ∈ rows, row < (ownCards studentID cards.toList).length) ∧
      (rows = [] ∧ hidden = decide (status = "0") ∨
        ∃ row card, rows.getLast? = some row ∧
          (ownCards studentID cards.toList)[row]? = some card ∧
          hidden = decide (¬ Returned card.2)) := by
  obtain ⟨_, d₁, hdelivery, hload⟩ := Traps.bind_eq_ok.1 h
  obtain rfl := cardsDelivery_ok hdelivery
  obtain ⟨⟨name, hidden₁⟩, d₂, hview, hrender⟩ := Traps.bind_eq_ok.1 hload
  obtain ⟨rfl, ID', student', status', hID', hstudent', hstatus', rfl⟩ := viewDidLoad_ok hview
  -- The delivery has left the current student alone.
  have hID' := listing_bind (fun _ => rfl) (fun _ => rfl) (fun _ => rfl) hID'
  have hstudent' := listing_bind (fun _ => rfl) (fun _ => rfl) (fun _ => rfl) hstudent'
  obtain rfl : ID = ID' := Option.some.inj (hID.symm.trans hID')
  obtain rfl : student = student' := Option.some.inj (hstudent.symm.trans hstudent')
  obtain rfl : status = status' := Option.some.inj (hstatus.symm.trans hstatus')
  have hdata : ∀ data ∈ (listing (ownCards studentID cards.toList) d.temp)["data"]?.bind
      Value.dictionaries?, data = (ownCards studentID cards.toList).map Prod.snd := by
    intro data hdata
    rw [listing_data] at hdata
    exact (Option.some.inj hdata).symm
  obtain ⟨hrange, hlast⟩ := renderRows_ok hdata hrender
  rw [List.length_map] at hrange
  refine ⟨hrange, hlast.imp_right ?_⟩
  rintro ⟨row, card, hrow, hcard, hhidden⟩
  rw [List.getElem?_map, Option.map_eq_some_iff] at hcard
  obtain ⟨entry, hentry, rfl⟩ := hcard
  exact ⟨row, entry, hrow, hentry, hhidden⟩

end Visits

/-! ## Every order of the rows -/

section

variable {d d' : Device} {studentID ID status : String} {student : Document}
  {cards : Collection} {rows : List ℕ} {hidden : Bool}

/-- The row rendered last is right about the whole list, or it is not. -/
theorem reflectsRight_iff {cards : List (String × Document)}
    (hall : ∀ row < cards.length, row ∈ rows)
    (hlast : rows = [] ∧ hidden = decide (status = "0") ∨
      ∃ row card, rows.getLast? = some row ∧ cards[row]? = some card ∧
        hidden = decide (¬ Returned card.2)) :
    ReflectsRight status cards hidden ↔ LastDecides status cards rows := by
  unfold ReflectsRight LastDecides
  rcases hlast with ⟨rfl, rfl⟩ | ⟨row, card, hrow, hcard, rfl⟩
  · -- No row was rendered, so there is no card.
    have hnil : cards = [] := by
      by_contra hne
      have hfirst := hall 0 (List.length_pos_iff.2 hne)
      cases hfirst
    simp [hnil]
  · have hmem : card ∈ cards := List.mem_of_getElem? hcard
    have hne : cards ≠ [] := List.ne_nil_of_mem hmem
    -- The last row that was rendered has decided.
    have hsecond : (∃ row ∈ rows.getLast?, ∃ card ∈ cards[row]?, ¬ Returned card.2) ↔
        ¬ Returned card.2 := by
      simp only [hrow, hcard, Option.mem_def, Option.some.injEq, exists_eq_left']
    rw [hsecond]
    by_cases hreturned : Returned card.2
    · simp [hreturned, hne]
    · have hnot : ¬ (status ≠ "0" ∧ ∀ card ∈ cards, Returned card.2) :=
        fun hright => hreturned (hright.2 card hmem)
      simp only [hreturned, not_false_eq_true, decide_true, Bool.true_eq_false, hnot, iff_self,
        true_or, or_true]

/-- Once every row was rendered the button is right exactly when the row rendered last is not
that of a card that was given back, or there is no card, or everything was given back by a
student who may borrow. Orders that meet the condition agree. -/
theorem plusButton_iff (hID : d.temp["ID_current_student"]?.bind Value.string? = some ID)
    (hstudent : d.temp[ID]?.bind Value.dictionary? = some student)
    (hstatus : student.string? "status" = some status)
    (hall : ∀ row < (ownCards studentID cards.toList).length, row ∈ rows)
    (h : Visits.borrowingList studentID cards rows d = .ok hidden d') :
    (ReflectsRight status (ownCards studentID cards.toList) hidden ↔
        LastDecides status (ownCards studentID cards.toList) rows) ∧
      ∀ rows' hidden' d'', (∀ row < (ownCards studentID cards.toList).length, row ∈ rows') →
        Visits.borrowingList studentID cards rows' d = .ok hidden' d'' →
          LastDecides status (ownCards studentID cards.toList) rows →
            LastDecides status (ownCards studentID cards.toList) rows' → hidden = hidden' := by
  have hright := reflectsRight_iff hall (Visits.borrowingList_ok hID hstudent hstatus h).2
  refine ⟨hright, ?_⟩
  intro rows' hidden' d'' hall' h' hdecides hdecides'
  have hright' := reflectsRight_iff hall' (Visits.borrowingList_ok hID hstudent hstatus h').2
  have hsame : hidden = false ↔ hidden' = false :=
    (hright.2 hdecides).trans (hright'.2 hdecides').symm
  cases hidden <;> cases hidden' <;> simp_all

end

namespace Sample

/-- The current student, who may borrow. -/
def selected : Device :=
  ⟨((∅ : UserDefaults).insert "S1" (.dictionary student.document)).insert "ID_current_student"
    (.string "S1"), []⟩

def card (status : ℤ) : Document :=
  Document.merge ∅ (BorrowCard.data { idStudent := "1712001", idBook := "B1", status := status })

/-- An open card, and one that was given back. -/
def twoCards : Collection := ((∅ : Collection).insert "K1" (card 1)).insert "K2" (card 0)

end Sample

/-- With the open card rendered last the button is right. -/
theorem plusButton_openLast :
    ReflectsRight "1" (ownCards "1712001" Sample.twoCards.toList) true := by
  have hhidden : (Traps.result? (Visits.borrowingList "1712001" Sample.twoCards [1, 0])
      Sample.selected).map Prod.fst = some true := by decide +kernel
  obtain ⟨_, d, hd, rfl⟩ := Traps.exists_of_result? hhidden
  have hID : Sample.selected.temp["ID_current_student"]?.bind Value.string? = some "S1" := by
    decide +kernel
  have hstudent : Sample.selected.temp["S1"]?.bind Value.dictionary? = some Sample.student.document := by
    decide +kernel
  have hstatus : Sample.student.document.string? "status" = some "1" := by decide +kernel
  have hiff := (plusButton_iff hID hstudent hstatus (by decide +kernel) hd).1
  exact hiff.2 (.inr (.inl (by decide +kernel)))

/-- With the open card rendered first the button is visible at the end. -/
theorem plusButton_fails : ¬ ∀ (d d' : Device) (studentID ID status : String) (student : Document)
    (cards : Collection) (rows : List ℕ) (hidden : Bool),
    d.temp["ID_current_student"]?.bind Value.string? = some ID →
      d.temp[ID]?.bind Value.dictionary? = some student → student.string? "status" = some status →
        (∀ row < (ownCards studentID cards.toList).length, row ∈ rows) →
          Visits.borrowingList studentID cards rows d = .ok hidden d' →
            ReflectsRight status (ownCards studentID cards.toList) hidden := by
  intro hall
  have hvisible : (Traps.result? (Visits.borrowingList "1712001" Sample.twoCards [0, 1])
      Sample.selected).map Prod.fst = some false := by decide +kernel
  obtain ⟨_, d, hd, rfl⟩ := Traps.exists_of_result? hvisible
  have hright := (hall Sample.selected d "1712001" "S1" "1" Sample.student.document Sample.twoCards
    [0, 1] _ (by decide +kernel) (by decide +kernel) (by decide +kernel) (by decide +kernel)
    hd).1 rfl
  revert hright
  decide +kernel

end LibraryManagement
