import LibraryManagement.Screens.Books
import LibraryManagement.Screens.BorrowCards
import LibraryManagement.Screens.Lists

/-!
# Whole visits of one client

A visit runs the handlers of a screen from its opening to the confirmation, one after the
other, with every read answered from the database as it is: no other client writes in
between, every write takes effect, and the visit does not trap. What the librarian types or
picks is a parameter of the visit.

A listed id is that of a stored document, which it names; a text that was typed may name any
document (`Database.read`).

`UserDefaults` survives from visit to visit. The student a card belongs to is a parameter
too: the document the student list cached before the visit, under its id.
-/

namespace LibraryManagement

open Handler

structure Client where
  temp : UserDefaults
  db : Database

/-- The client before its first visit. -/
def Client.empty : Client := ⟨∅, Database.empty⟩

/-- The client after a handler that did not trap, whose writes all took effect. -/
def Client.perform (c : Client) (h : Handler Unit) : Option Client :=
  match h ⟨c.temp, []⟩ with
  | .ok _ d => some ⟨d.temp, Write.applyAll c.db d.writes⟩
  | .error _ _ => none

/-- The same for a handler with a result. -/
def Client.run {α : Type} (c : Client) (h : Handler α) : Option (α × Client) :=
  match h ⟨c.temp, []⟩ with
  | .ok a d => some (a, ⟨d.temp, Write.applyAll c.db d.writes⟩)
  | .error _ _ => none

/-- A student whose row was tapped. -/
structure CurrentStudent where
  id : String
  document : Document

def CurrentStudent.select (student : CurrentStudent) : Handler Unit := do
  set student.id (some (.dictionary student.document))
  set "ID_current_student" (some (.string student.id))

/-- The text names the book of a stored card. -/
def IsBookOf (card : Document) (text : String) : Prop :=
  IsDocumentPath text ∧ ∃ idBook ∈ card.string? "ID_book",
    CollectionName.books.document text = CollectionName.books.document idBook

instance (card : Document) : DecidablePred (IsBookOf card) := fun _ =>
  inferInstanceAs (Decidable (_ ∧ ∃ idBook ∈ _, _))

namespace Visits

variable (uppercased : String → String) (db : Database)

/-- The duplicate test's answers for `ids`. -/
def answers (book : Book) (ids : List String) : Handler Unit :=
  ids.forM fun id => AddBooksViewController.checkNewBookAnswer book (db .books)[id]?

/-- Adding a book. Of the test's reads those of `answered` are answered before the flag is
read, in this order, and the others afterwards. -/
def addBook (form : BookForm) (answered : List String) : Handler Unit := do
  loadBookData (db .books)
  match ← AddBooksViewController.confirmButton uppercased form with
  | none => return ()
  | some book =>
    let ids ← AddBooksViewController.checkNewBook
    answers db book (answered.filter (· ∈ ids))
    if ← AddBooksViewController.readFlag then
      answers db book (ids.filter (· ∉ answered))
    else
      book.saveOrUpdateNewBook
      AddBooksViewController.updateData form
      answers db book (ids.filter (· ∉ answered))

/-- Editing the book in row `row`. A hidden row cannot be tapped. The book's ID cannot be
edited; the other fields are those of `form` when the button is pressed. -/
def editBook (row : ℕ) (form : BookForm) : Handler Unit := do
  loadBookData (db .books)
  let id ← Traps.index (db .books).keys row
  if ← ManageBooksViewController.cellDelivery id (db .books)[id]? then
    ManageBooksViewController.didSelectRowAt row
    let opened ← EditInfoBookViewController.viewDidLoad
    EditInfoBookViewController.confirmButton uppercased { form with bookID := opened.bookID }

/-- The text before the first hyphen of the entry in row `row` of the picker. -/
def picked (row : ℕ) : Option String := do
  let document ← (db .books).toList[row]?
  let entry ← bookEntry document.2
  (Swift.components '-' entry)[0]?

/-- Lending the book in row `row` of the picker. The button can be pressed unless the answer
disabled it. -/
def borrow (student : CurrentStudent) (row : ℕ) (startedDay autoID : String) :
    Handler Unit := do
  loadBookData (db .books)
  loadBook (db .books)
  student.select
  let s ← AddNewBorrowingCardViewController.viewDidLoad
  let s ← AddNewBorrowingCardViewController.bookAction s
  let s ← AddNewBorrowingCardViewController.didSelectRow row s
  let (s, asked) ← AddNewBorrowingCardViewController.bookIDAction { s with startedDay := startedDay }
  let s ← match asked with
    | some id => AddNewBorrowingCardViewController.bookAnswer s (db.read .books id)
    | none => pure s
  if s.confirmEnabled then
    AddNewBorrowingCardViewController.confirmAction s autoID
    AddNewBorrowingCardViewController.okAction s

/-- The screen of the stored card `id` opens: what it shows, and the id of the book it reads. -/
def openCard (student : CurrentStudent) (id : String) :
    Handler (EditBorrowCardViewController.Screen × String) := do
  let document ← Traps.unwrap (db .borrowCard)[id]?
  student.select
  set id (some (.dictionary document))
  set "ID_current_bc" (some (.string id))
  EditBorrowCardViewController.viewDidLoad

/-- Editing the stored card `id`, which shows `final` when the button is pressed. -/
def editCard (student : CurrentStudent) (id : String)
    (final : EditBorrowCardViewController.Screen) : Handler Unit := do
  let document ← Traps.unwrap (db .borrowCard)[id]?
  student.select
  set id (some (.dictionary document))
  set "ID_current_bc" (some (.string id))
  let (_, asked) ← EditBorrowCardViewController.viewDidLoad
  EditBorrowCardViewController.bookAnswer (db.read .books asked)
  EditBorrowCardViewController.confirmButton final

end Visits

/-- One whole visit, with what the librarian does in it. -/
inductive Visit
  | addBook (form : BookForm) (answered : List String)
  | editBook (row : ℕ) (form : BookForm)
  | borrow (student : CurrentStudent) (row : ℕ) (startedDay autoID : String)
  | editCard (student : CurrentStudent) (id : String) (final : EditBorrowCardViewController.Screen)

/-- A visit of a client whose reads are up to date. A generated id is an id, and one the collection
does not have yet. -/
def Visit.step (uppercased : String → String) (c : Client) : Visit → Option Client
  | .addBook form answered => c.perform (Visits.addBook uppercased c.db form answered)
  | .editBook row form => c.perform (Visits.editBook uppercased c.db row form)
  | .borrow student row startedDay autoID =>
    if autoID ∈ c.db .borrowCard ∨ ¬ IsDocumentID autoID then none
    else c.perform (Visits.borrow c.db student row startedDay autoID)
  | .editCard student id final => c.perform (Visits.editCard c.db student id final)

/-! ## Forms for concrete runs -/

namespace Sample

/-- A complete form. -/
def form (bookID bookname quantity : String) : BookForm where
  bookID := bookID
  bookname := bookname
  category := "Novel"
  author := "An author"
  publishingyear := "2019"
  publishingcompany := "A company"
  dateadded := "01/06/2020"
  quantity := quantity

def student : CurrentStudent where
  id := "S1"
  document := Document.merge ∅ (Student.data { name := "AN", ID := "1712001" } "1")

/-- Steps of the client with texts of ASCII characters. -/
abbrev step : Client → Visit → Option Client := Visit.step Swift.asciiUppercased

/-- The edit-card screen with the switch off. -/
def returned (bookID : String) : EditBorrowCardViewController.Screen where
  studentName := "AN"
  studentID := "1712001"
  bookID := bookID
  startedDay := "02/06/2020"
  endedDay := "03/06/2020"
  fine := "0"
  statusIsOn := false

end Sample

end LibraryManagement
