import LibraryManagement.Entities

/-!
# The loads and the lists

The student menu empties the id lists and starts the loads that fill them; the book tab
starts one of them again. A list screen has one row for each listed id, and the delivery of
the document behind a row caches it in `UserDefaults` under the document's id. The rows of
the borrowing list have their documents already, from the listener of the student's screen.
-/

namespace LibraryManagement

open Handler

/-- `"\(x)"` for a field. -/
def FieldValue.interpolated : FieldValue → String
  | string s => s
  | number n => Swift.description n

/-! ## Loads -/

namespace StudentMenuViewController

/-- Before the loads are started the lists are empty. -/
def viewWillAppear : Handler Unit := do
  set "ID_students" (some (.strings []))
  set "ID_rules" (some (.strings []))
  set "ID_books" (some (.strings []))

end StudentMenuViewController

def loadStudentData (students : Collection) : Handler Unit :=
  set "ID_students" (some (.strings students.keys))

def loadRuleData (rules : Collection) : Handler Unit := do
  let titles ← rules.toList.mapM fun document => Traps.cast (document.2.string? "title")
  set "ID_rules" (some (.strings titles))

def loadBookData (books : Collection) : Handler Unit :=
  set "ID_books" (some (.strings books.keys))

/-- The picker entry of a book. -/
def bookEntry (document : Document) : Option String := do
  let ID ← document["ID"]?
  let name ← document["name"]?
  return ID.interpolated ++ "-" ++ name.interpolated

def loadBook (books : Collection) : Handler Unit := do
  let data ← books.toList.mapM fun document => Traps.unwrap (bookEntry document.2)
  set "listBook" (some (.strings data))

/-! ## Rows -/

/-- The id in a row of the list of ids that is stored under `list`. -/
def listedID (list : String) (row : ℕ) (temp : UserDefaults) : Option String :=
  (temp[list]?.bind Value.strings?).bind (·[row]?)

/-- A document with a name is shown in its row and cached. -/
def Named (document : Option Document) : Prop := document.bind (·.string? "name") ≠ some ""

instance (document : Option Document) : Decidable (Named document) :=
  inferInstanceAs (Decidable (_ ≠ _))

namespace ManageBooksViewController

def numberOfRowsInSection : Handler ℕ := do return (← forced "ID_books" Value.strings?).length

/-- The id of the document a row listens to. -/
def cellForRowAt (row : ℕ) : Handler String := do
  let ids ← forced "ID_books" Value.strings?
  document (← Traps.index ids row)

/-- The delivery of the document `id` to its row, and whether the row is shown: a book with a
name is shown and cached, the row of a book without one is hidden. -/
def cellDelivery (id : String) (document : Option Document) : Handler Bool := do
  let data ← Traps.unwrap document
  let name ← Traps.unwrap data["name"]?
  if name.string? ≠ some "" then
    let _ ← Traps.unwrap data["ID"]?
    set id (some (.dictionary data))
    return true
  else
    return false

def didSelectRowAt (row : ℕ) : Handler Unit := do
  let ids ← forced "ID_books" Value.strings?
  set "ID_current_book" (some (.string (← Traps.index ids row)))

end ManageBooksViewController

namespace ManageStudentsViewController

def numberOfRowsInSection : Handler ℕ := do return (← forced "ID_students" Value.strings?).length

/-- The id of the document a row listens to. -/
def cellForRowAt (row : ℕ) : Handler String := do
  let ids ← forced "ID_students" Value.strings?
  document (← Traps.index ids row)

/-- Whether the notice that there are no students is hidden. -/
def viewDidLoad : Handler Bool := do
  let ids ← forced "ID_students" Value.strings?
  let _ ← numberOfRowsInSection
  return decide (ids.length ≠ 0)

/-- The delivery of the document `id` to its row: a student with a name is shown and cached. -/
def cellDelivery (id : String) (document : Option Document) : Handler Unit := do
  let data ← Traps.unwrap document
  let name ← Traps.cast (data.string? "name")
  if name ≠ "" then
    let _ ← Traps.unwrap data["ID"]?
    set id (some (.dictionary data))

def didSelectRowAt (row : ℕ) : Handler Unit := do
  let ids ← forced "ID_students" Value.strings?
  set "ID_current_student" (some (.string (← Traps.index ids row)))

end ManageStudentsViewController

namespace ListBorrowingCardStudentViewController

def numberOfRowsInSection : Handler ℤ := forced "count" Value.int?

/-- The texts of a row. -/
structure Cell where
  bookName : String
  startedDay : String
  endedDay : String
  status : String
deriving Repr, DecidableEq

/-- Rendering a row shows the card and caches it; the id of the card comes with the row, and
whether the row hides the plus button. -/
def cellForRowAt (row : ℕ) : Handler (String × Cell × Bool) := do
  let data ← forced "data" Value.dictionaries?
  let listID ← forced "listID" Value.strings?
  let card ← Traps.index data row
  let bookName ← Traps.cast (card.string? "bookName")
  let startedDay ← Traps.cast (card.string? "startedDay")
  let endedDay ← Traps.cast (card.string? "endedDay")
  let status ← Traps.cast (card.string? "status")
  let id ← Traps.index listID row
  set id (some (.dictionary card))
  return (id, ⟨bookName, startedDay, endedDay, if status = "0" then "Done" else ""⟩, status ≠ "0")

def didSelectRowAt (row : ℕ) : Handler Unit := do
  let listID ← forced "listID" Value.strings?
  set "ID_current_bc" (some (.string (← Traps.index listID row)))

/-- The name of the student, and whether the plus button is hidden. -/
def viewDidLoad : Handler (Option String × Bool) := do
  let _ ← numberOfRowsInSection
  let t ← forced (← forced "ID_current_student" Value.string?) Value.dictionary?
  let status ← Traps.cast (t.string? "status")
  return (t.string? "name", status = "0")

/-- What the list prints when it appears. -/
def viewWillAppear : Handler Value := do
  let _ ← numberOfRowsInSection
  forced "ID_cards" some

end ListBorrowingCardStudentViewController

end LibraryManagement
