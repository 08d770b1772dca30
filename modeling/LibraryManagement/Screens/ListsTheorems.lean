import LibraryManagement.Screens.Lists

/-!
# What the loads and the lists do

One lemma for each handler that completed: what it read and what it left in `UserDefaults`.
-/

namespace LibraryManagement

open Handler

variable {d d' : Device}

@[simp] theorem loadBookData_eq_ok {books : Collection} {u : Unit} :
    loadBookData books d = .ok u d' ↔
      { d with temp := d.temp.insert "ID_books" (.strings books.keys) } = d' := set_eq_ok

@[simp] theorem loadStudentData_eq_ok {students : Collection} {u : Unit} :
    loadStudentData students d = .ok u d' ↔
      { d with temp := d.temp.insert "ID_students" (.strings students.keys) } = d' := set_eq_ok

/-- The picker has one entry for each book, in the order of the books. -/
@[simp] theorem loadBook_eq_ok {books : Collection} {u : Unit} :
    loadBook books d = .ok u d' ↔
      ∃ data, books.toList.map (fun document => bookEntry document.2) = data.map some ∧
        { d with temp := d.temp.insert "listBook" (.strings data) } = d' := by
  simp only [loadBook, Traps.bind_eq_ok, Traps.mapM_unwrap_eq_ok, set_eq_ok, and_assoc,
    exists_and_left, exists_eq_left']

namespace ManageBooksViewController

/-- A shown row caches its document. -/
theorem cellDelivery_ok {id : String} {document : Option Document} {shown : Bool}
    (h : cellDelivery id document d = .ok shown d') :
    ∃ data name, document = some data ∧ data["name"]? = some name ∧
      (name.string? ≠ some "" ∧ shown = true ∧
          d' = { d with temp := d.temp.insert id (.dictionary data) } ∨
        name.string? = some "" ∧ shown = false ∧ d' = d) := by
  simp only [cellDelivery, Traps.bind_eq_ok, Traps.unwrap_eq_ok, and_assoc, exists_and_left,
    exists_eq_left'] at h
  obtain ⟨data, hdata, name, hname, hrest⟩ := h
  refine ⟨data, name, hdata, hname, ?_⟩
  split at hrest
  · next hne =>
    simp only [Traps.bind_eq_ok, Traps.unwrap_eq_ok, set_eq_ok, Traps.pure_eq_ok, and_assoc,
      exists_and_left, exists_eq_left', exists_const] at hrest
    obtain ⟨ID, hID, rfl, rfl⟩ := hrest
    exact .inl ⟨hne, rfl, rfl⟩
  · next hempty =>
    obtain ⟨rfl, rfl⟩ := Traps.pure_eq_ok.1 hrest
    exact .inr ⟨not_not.1 hempty, rfl, rfl⟩

/-- A document with a name and an ID is delivered to its row. -/
theorem cellDelivery_complete {id : String} {document : Option Document} {data : Document}
    {ID name : FieldValue} (hdocument : document = some data) (hname : data["name"]? = some name)
    (hID : data["ID"]? = some ID) (d : Device) :
    ∃ shown d', cellDelivery id document d = .ok shown d' := by
  simp only [cellDelivery, hdocument, hname, hID, Traps.unwrap_some, pure_bind]
  split
  · exact ⟨true, _, Traps.bind_eq_ok.2 ⟨(), _, set_eq_ok.2 rfl, Traps.pure_eq_ok.2 ⟨rfl, rfl⟩⟩⟩
  · exact ⟨false, d, rfl⟩

@[simp] theorem didSelectRowAt_eq_ok {row : ℕ} {u : Unit} :
    didSelectRowAt row d = .ok u d' ↔
      ∃ ids, d.temp["ID_books"]?.bind Value.strings? = some ids ∧ ∃ id, ids[row]? = some id ∧
        { d with temp := d.temp.insert "ID_current_book" (.string id) } = d' := by
  simp only [didSelectRowAt, Traps.bind_eq_ok, forced_eq_ok, Traps.index_eq_ok, set_eq_ok,
    and_assoc, exists_and_left, exists_eq_left']

end ManageBooksViewController

namespace ManageStudentsViewController

/-- A row of a student with a name caches its document. -/
theorem cellDelivery_ok {id : String} {document : Option Document} {u : Unit}
    (h : cellDelivery id document d = .ok u d') :
    ∃ data name, document = some data ∧ data.string? "name" = some name ∧
      (name ≠ "" ∧ d' = { d with temp := d.temp.insert id (.dictionary data) } ∨
        name = "" ∧ d' = d) := by
  simp only [cellDelivery, Traps.bind_eq_ok, Traps.unwrap_eq_ok, Traps.cast_eq_ok, and_assoc,
    exists_and_left, exists_eq_left'] at h
  obtain ⟨data, hdata, name, hname, hrest⟩ := h
  refine ⟨data, name, hdata, hname, ?_⟩
  split at hrest
  · next hne =>
    simp only [Traps.bind_eq_ok, Traps.unwrap_eq_ok, set_eq_ok, and_assoc, exists_and_left,
      exists_eq_left'] at hrest
    obtain ⟨ID, hID, rfl⟩ := hrest
    exact .inl ⟨hne, rfl⟩
  · next hempty =>
    obtain ⟨-, rfl⟩ := Traps.pure_eq_ok.1 hrest
    exact .inr ⟨not_not.1 hempty, rfl⟩

@[simp] theorem didSelectRowAt_eq_ok {row : ℕ} {u : Unit} :
    didSelectRowAt row d = .ok u d' ↔
      ∃ ids, d.temp["ID_students"]?.bind Value.strings? = some ids ∧ ∃ id, ids[row]? = some id ∧
        { d with temp := d.temp.insert "ID_current_student" (.string id) } = d' := by
  simp only [didSelectRowAt, Traps.bind_eq_ok, forced_eq_ok, Traps.index_eq_ok, set_eq_ok,
    and_assoc, exists_and_left, exists_eq_left']

end ManageStudentsViewController

namespace ListBorrowingCardStudentViewController

/-- A rendered row caches its card under the id beside it; an open card hides the button. -/
theorem cellForRowAt_ok {row : ℕ} {id : String} {cell : Cell} {hidden : Bool}
    (h : cellForRowAt row d = .ok (id, cell, hidden) d') :
    ∃ data listID card status, d.temp["data"]?.bind Value.dictionaries? = some data ∧
      d.temp["listID"]?.bind Value.strings? = some listID ∧ data[row]? = some card ∧
      listID[row]? = some id ∧ card.string? "status" = some status ∧
      hidden = decide (status ≠ "0") ∧
      d' = { d with temp := d.temp.insert id (.dictionary card) } := by
  simp only [cellForRowAt, Traps.bind_eq_ok, forced_eq_ok, Traps.index_eq_ok, Traps.cast_eq_ok,
    set_eq_ok, Traps.pure_eq_ok, Prod.mk.injEq, and_assoc, exists_and_left, exists_eq_left',
    exists_const] at h
  obtain ⟨data, hdata, listID, hlist, card, hcard, bookName, -, startedDay, -, endedDay, -, status,
    hstatus, id', hid, rfl, -, rfl, rfl⟩ := h
  exact ⟨data, listID, card, status, hdata, hlist, hcard, hid, hstatus, rfl, rfl⟩

/-- The button is hidden from a student who may not borrow. -/
theorem viewDidLoad_ok {name : Option String} {hidden : Bool}
    (h : viewDidLoad d = .ok (name, hidden) d') :
    d' = d ∧ ∃ ID student status, d.temp["ID_current_student"]?.bind Value.string? = some ID ∧
      d.temp[ID]?.bind Value.dictionary? = some student ∧ student.string? "status" = some status ∧
      hidden = decide (status = "0") := by
  simp only [viewDidLoad, numberOfRowsInSection, Traps.bind_eq_ok, forced_eq_ok, Traps.cast_eq_ok,
    Traps.pure_eq_ok, Prod.mk.injEq, and_assoc, exists_and_left, exists_eq_left'] at h
  obtain ⟨-, -, ID, hID, student, hstudent, status, hstatus, -, rfl, rfl⟩ := h
  exact ⟨rfl, ID, student, status, hID, hstudent, hstatus, rfl⟩

end ListBorrowingCardStudentViewController

end LibraryManagement
