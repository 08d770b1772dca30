import LibraryManagement.Entities

/-!
# The student screens

`AddStudentsViewController` adds a student and `EditInfoStudentViewController` edits one.
Uppercasing a name is the parameter `uppercased`.

The confirm of a new student has two ways of testing its ID. If exactly one student is
listed it listens to that student, and decides whenever the listener delivers
(`listenerDelivery`). Otherwise it starts one read for each listed student (`checkStudent`)
and reads the flag those reads set, in the same handler; their answers are handled later, on
the main queue (`checkStudentAnswer`).
-/

namespace LibraryManagement

open Handler

/-- The text fields the two student screens share. -/
structure StudentForm where
  name : String
  birthday : String
  gender : String
  ID : String
  address : String
  email : String
  startedDay : String
deriving Repr, DecidableEq

namespace AddStudentsViewController

variable (uppercased : String → String)

def newStudent (form : StudentForm) : Student where
  name := uppercased form.name
  ID := form.ID
  birthday := form.birthday
  gender := form.gender
  address := form.address
  email := form.email
  startedDay := form.startedDay
  status := 1

/-- What a confirm leaves behind. -/
inductive Waiting
  /-- A listener to the only listed student. -/
  | listener (id : String)
  /-- The reads of the duplicate test. -/
  | answers (ids : List String)
deriving Repr, DecidableEq

/-- The ids of the documents whose reads the duplicate test starts. -/
def checkStudent : Handler (List String) := do
  let ids ← forced "ID_students" Value.strings?
  ids.mapM document

/-- The answer to one read of the duplicate test. -/
def checkStudentAnswer (student : Student) : Option Document → Handler Unit
  | some document => do
    let ID ← Traps.cast (document.string? "ID")
    if student.ID = ID then
      set "check" (some (.bool true))
  | none => return ()

/-- A delivery of the only student that was listed, with the id of its document. A student
without a name is a placeholder, which the new student replaces. -/
def listenerDelivery (student : Student) (id autoID : String) : Option Document → Handler Unit
  | some data => do
    if (← Traps.cast (data.string? "name")) = "" then
      student.updateDetail id
    else if student.ID = (← Traps.cast (data.string? "ID")) then
      return ()
    else
      student.insertNewStudent autoID
  | none => return ()

def confirmButton (form : StudentForm) (autoID : String) : Handler Waiting := do
  let ids ← forced "ID_students" Value.strings?
  if ids.length = 1 then
    return .listener (← document (← Traps.index ids 0))
  else
    set "check" (some (.bool false))
    let reads ← checkStudent
    if ← forced "check" Value.bool? then
      return .answers reads
    else
      (newStudent uppercased form).insertNewStudent autoID
      return .answers reads

end AddStudentsViewController

namespace EditInfoStudentViewController

/-- The form as it opens, and whether the status switch is on. A text field set to `nil` is
empty. -/
def viewDidLoad : Handler (StudentForm × Bool) := do
  let t ← forced (← forced "ID_current_student" Value.string?) Value.dictionary?
  let text (field : String) : String := (t.string? field).getD ""
  let status ← Traps.cast (t.string? "status")
  return ({
    name := text "name"
    birthday := text "birthday"
    gender := text "gender"
    ID := text "ID"
    address := text "address"
    email := text "email"
    startedDay := text "startedDay" }, status = "1")

/-- What the listener to the cards has kept so far: their number, their contents, their ids. -/
structure Cards where
  count : ℤ
  data : List Document
  ID : List String
deriving DecidableEq

/-- One more card of the delivery, kept if it is one of the student's. -/
def addCard (studentID : String) (cards : Cards) (card : String × Document) : Handler Cards := do
  if (← Traps.cast (card.2.string? "ID_student")) = studentID then
    let count ← Traps.checked (Swift.add? cards.count 1)
    return ⟨count, cards.data ++ [card.2], cards.ID ++ [card.1]⟩
  else
    return cards

/-- A delivery of the listener that the screen of the student with this ID started. -/
def cardsDelivery (studentID : String) (cards : Collection) : Handler Unit := do
  let found ← cards.toList.foldlM (addCard studentID) ⟨0, [], []⟩
  set "count" (some (.int found.count))
  set "data" (some (.dictionaries found.data))
  set "listID" (some (.strings found.ID))

/-- The student of a form. The name is stored as it is typed. -/
def currentStudent (form : StudentForm) (statusIsOn : Bool) : Student where
  name := form.name
  ID := form.ID
  birthday := form.birthday
  gender := form.gender
  address := form.address
  email := form.email
  startedDay := form.startedDay
  status := if statusIsOn then 1 else 0

def confirmAction (form : StudentForm) (statusIsOn : Bool) : Handler Unit := do
  (currentStudent form statusIsOn).updateDetail (← forced "ID_current_student" Value.string?)

end EditInfoStudentViewController

end LibraryManagement
