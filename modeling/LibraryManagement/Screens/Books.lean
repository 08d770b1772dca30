import LibraryManagement.Entities

/-!
# The book screens

`AddBooksViewController` adds a book and `EditInfoBookViewController` edits one; both are
opened from the book tab. Uppercasing a name is the parameter `uppercased`.

Adding a book runs in four blocks: the button's action, a background block that starts one
read for each listed book (`checkNewBook`), a main-queue block that reads the flag those
reads set (`readFlag`), and the write with the cover upload after it. The answers to the
reads are handled one by one on the main queue (`checkNewBookAnswer`), in any order and
before or after the flag is read.
-/

namespace LibraryManagement

open Handler

/-- The text fields the two book screens share. -/
structure BookForm where
  bookID : String
  bookname : String
  category : String
  author : String
  publishingyear : String
  publishingcompany : String
  dateadded : String
  quantity : String
deriving Repr, DecidableEq

namespace AddBooksViewController

variable (uppercased : String → String)

/-- Some field is empty. -/
def Incomplete (form : BookForm) : Prop :=
  form.bookname = "" ∨ form.bookID = "" ∨ form.category = "" ∨ form.author = "" ∨
    form.publishingcompany = "" ∨ form.publishingyear = "" ∨ form.dateadded = "" ∨
    form.quantity = ""

instance (form : BookForm) : Decidable (Incomplete form) :=
  inferInstanceAs (Decidable (_ ∨ _ ∨ _ ∨ _ ∨ _ ∨ _ ∨ _ ∨ _))

/-- The book of a form whose quantity text denotes `quantity`. -/
def newBook (form : BookForm) (quantity : ℤ) : Book where
  ID := form.bookID
  name := uppercased form.bookname
  category := form.category
  author := form.author
  publishingyear := form.publishingyear
  publishingcompany := form.publishingcompany
  dateadded := form.dateadded
  status := 1
  quantity := quantity
  check := 0
  avatarURL := ""

/-- The button's action: the book whose test is started, unless a field is empty. -/
def confirmButton (form : BookForm) : Handler (Option Book) := do
  if Incomplete form then
    return none
  else
    let quantity ← Traps.unwrap (Swift.int? form.quantity)
    set "check" (some (.bool false))
    return some (newBook uppercased form quantity)

/-- The ids of the documents whose reads the duplicate test starts. -/
def checkNewBook : Handler (List String) := do
  let ids ← forced "ID_books" Value.strings?
  ids.mapM document

/-- The answer to one read of the duplicate test. -/
def checkNewBookAnswer (book : Book) : Option Document → Handler Unit
  | some document => do
    let name ← Traps.cast (document.string? "name")
    if book.name = name then
      set "check" (some (.bool true))
  | none => return ()

/-- The main-queue block: whether the book is taken to exist already. -/
def readFlag : Handler Bool := forced "check" Value.bool?

/-- Where the cover of the book with this ID is uploaded to. -/
def coverURL (bookID : String) : String :=
  "gs://librarymanagement-bd9ab.appspot.com/books/" ++ bookID

/-- The write after the cover's upload was started. -/
def updateData (form : BookForm) : Handler Unit :=
  Handler.updateData .books form.bookID [("avatarURL", .string (coverURL form.bookID))]

/-- The block of a confirm that runs next. -/
inductive Block
  | check | readFlag | save | updateData | finished
deriving Repr, DecidableEq

/-- A confirm in progress. -/
structure Adding where
  book : Book
  next : Block
  /-- The reads of the duplicate test that are not answered yet. -/
  reads : List String
deriving Repr, DecidableEq

/-- The flag of the test is still to be read. -/
def Adding.Testing (a : Adding) : Prop := a.next = .check ∨ a.next = .readFlag

instance (a : Adding) : Decidable a.Testing := inferInstanceAs (Decidable (_ ∨ _))

/-- Running the next block, when the form shows `shown`. -/
def Adding.block (shown : BookForm) (a : Adding) : Handler Adding :=
  match a.next with
  | .check => do return { a with next := .readFlag, reads := ← checkNewBook }
  | .readFlag => do return { a with next := if ← readFlag then .finished else .save }
  | .save => do
    a.book.saveOrUpdateNewBook
    return { a with next := .updateData }
  | .updateData => do
    updateData shown
    return { a with next := .finished }
  | .finished => return a

end AddBooksViewController

namespace EditInfoBookViewController

variable (uppercased : String → String)

/-- The cached copy of the book whose row was tapped. -/
def currentDocument : Handler Document := do
  forced (← forced "ID_current_book" Value.string?) Value.dictionary?

/-- The form as it opens. A text field set to `nil` is empty. -/
def viewDidLoad : Handler BookForm := do
  let t ← currentDocument
  let text (field : String) : String := (t.string? field).getD ""
  return {
    bookID := text "ID"
    bookname := text "name"
    category := text "category"
    author := text "author"
    publishingyear := text "publishingyear"
    publishingcompany := text "publishingcompany"
    dateadded := text "dateadded"
    quantity := text "quantity" }

/-- The book of a form, with the cover and the lent count of the cached copy. A quantity
below the lent count raises an alert and leaves the book's quantity at its default. -/
def currentBook (form : BookForm) (avatarURL : String) (check quantity : ℤ) : Book :=
  let currentBook : Book := {
    name := uppercased form.bookname
    author := form.author
    avatarURL := avatarURL
    category := form.category
    dateadded := form.dateadded
    ID := form.bookID
    publishingcompany := form.publishingcompany
    publishingyear := form.publishingyear
    check := check }
  if quantity < check then currentBook else { currentBook with quantity := quantity }

def confirmButton (form : BookForm) : Handler Unit := do
  let t ← currentDocument
  let avatarURL ← Traps.cast (t.string? "avatarURL")
  let check ← Traps.cast (t.int? "check")
  let quantity ← Traps.unwrap (Swift.int? form.quantity)
  (currentBook uppercased form avatarURL check quantity).updateDetail
    (← forced "ID_current_book" Value.string?)

end EditInfoBookViewController

end LibraryManagement
