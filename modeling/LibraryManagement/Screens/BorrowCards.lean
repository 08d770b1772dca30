import LibraryManagement.Entities

/-!
# The borrowing-card screens

`AddNewBorrowingCardViewController` lends a book to the current student and
`EditBorrowCardViewController` takes it back. Each reads the lent count of the book when
the book is known, keeps it in `UserDefaults` under `"check"`, and stores the count plus or
minus one from there when the card is confirmed.
-/

namespace LibraryManagement

open Handler

namespace AddNewBorrowingCardViewController

/-- The fields of the screen, and the two variables the picked entry is split into. -/
structure Screen where
  name : String
  idStudent : String
  idBook : String
  startedDay : String
  /-- The notice about the picked book, hidden at first. -/
  notice : Option String
  confirmEnabled : Bool
  id : String
  bookName : String
deriving Repr, DecidableEq

/-- The cached copy of the student whose row was tapped. -/
def currentStudent : Handler Document := do
  forced (← forced "ID_current_student" Value.string?) Value.dictionary?

/-- The storyboard leaves the confirm button enabled. -/
def viewDidLoad : Handler Screen := do
  let t ← currentStudent
  return {
    name := (t.string? "name").getD ""
    idStudent := (t.string? "ID").getD ""
    idBook := ""
    startedDay := ""
    notice := none
    confirmEnabled := true
    id := ""
    bookName := "" }

/-- Opening the picker puts its first entry into the field. -/
def bookAction (s : Screen) : Handler Screen := do
  let data ← forced "listBook" Value.strings?
  return { s with idBook := ← Traps.index data 0 }

def numberOfRowsInComponent : Handler ℕ := do return (← forced "ID_books" Value.strings?).length

/-- The text of a row of the picker. -/
def titleForRow (row : ℕ) : Handler String := do
  let data ← forced "listBook" Value.strings?
  Traps.index data row

/-- Selecting a row of the picker. -/
def didSelectRow (row : ℕ) (s : Screen) : Handler Screen := do
  let data ← forced "listBook" Value.strings?
  return { s with idBook := ← Traps.index data row }

/-- The end of editing the book field: the screen, and the id of the book that is read. -/
def bookIDAction (s : Screen) : Handler (Screen × Option String) := do
  if s.idBook ≠ "" then
    let data := Swift.components '-' s.idBook
    let s := { s with id := ← Traps.index data 0 }
    let s := { s with bookName := ← Traps.index data 1 }
    return (s, some (← document s.id))
  else
    return (s, none)

/-- The answer to a read of a book. -/
def bookAnswer (s : Screen) : Option Document → Handler Screen
  | some document => do
    let quantity ← Traps.unwrap (Swift.int? (← Traps.cast (document.string? "quantity")))
    let check ← Traps.cast (document.int? "check")
    if quantity > check then
      set "check" (some (.int check))
      return { s with notice := some "* This book is available to borrow", confirmEnabled := true }
    else
      return { s with notice := some "* No available book in library", confirmEnabled := false }
  | none => return s

/-- The button's action stores the card. -/
def confirmAction (s : Screen) (autoID : String) : Handler Unit :=
  BorrowCard.addCard {
    idStudent := s.idStudent
    idBook := s.id
    bookName := s.bookName
    startedDay := s.startedDay
    endedDay := ""
    status := 1
    fine := 0 } autoID

/-- OK on the alert that follows stores the lent count. -/
def okAction (s : Screen) : Handler Unit := do
  let id ← document s.id
  let check ← forced "check" Value.int?
  write (.setAt .books id [("check", .number (← Traps.checked (Swift.add? check 1)))])

end AddNewBorrowingCardViewController

namespace EditBorrowCardViewController

/-- The fields of the screen. All of them can be edited. -/
structure Screen where
  studentName : String
  studentID : String
  bookID : String
  startedDay : String
  endedDay : String
  fine : String
  statusIsOn : Bool
deriving Repr, DecidableEq

/-- The screen as it opens, and the id of the book that is read. -/
def viewDidLoad : Handler (Screen × String) := do
  let student ← forced (← forced "ID_current_student" Value.string?) Value.dictionary?
  let bc ← forced (← forced "ID_current_bc" Value.string?) Value.dictionary?
  let s : Screen := {
    studentName := ← Traps.cast (student.string? "name")
    studentID := ← Traps.cast (bc.string? "ID_student")
    bookID := ← Traps.cast (bc.string? "ID_book")
    startedDay := ← Traps.cast (bc.string? "startedDay")
    endedDay := ← Traps.cast (bc.string? "endedDay")
    fine := ← Traps.cast (bc.string? "fine")
    statusIsOn := (← Traps.cast (bc.string? "status")) = "1" }
  return (s, ← document s.bookID)

/-- The answer to the read of the book. -/
def bookAnswer : Option Document → Handler Unit
  | some document => set "check" (document["check"]?.map Value.ofField)
  | none => return ()

/-- Closing a card writes the card and then the book; a card left open is written to
another collection. -/
def confirmButton (s : Screen) : Handler Unit := do
  let ID ← forced "ID_current_bc" Value.string?
  if s.statusIsOn = false then
    setData .borrowCard ID [("endedDay", .string s.endedDay), ("status", .string "0")]
    let id ← document s.bookID
    let check ← forced "check" Value.int?
    write (.setAt .books id [("check", .number (← Traps.checked (Swift.sub? check 1)))])
  else
    setData .cities ID [("endedDay", .string s.endedDay)]

end EditBorrowCardViewController

end LibraryManagement
