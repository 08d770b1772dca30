import LibraryManagement.UserDefaults

/-!
# Books, borrowing cards, students and rules

The classes a screen fills from its form, with the writes that store them. Interpolation
turns every property into a text, so a stored number is a text unless the source passes it
bare: the status and the lent count of a new book, and the lent count of an updated one.
-/

namespace LibraryManagement

/-! ## Books -/

structure Book where
  ID : String := ""
  name : String := ""
  category : String := ""
  author : String := ""
  publishingyear : String := ""
  publishingcompany : String := ""
  dateadded : String := ""
  status : ℤ := 1
  quantity : ℤ := 0
  /-- The number of copies lent. -/
  check : ℤ := 0
  avatarURL : String := ""
deriving Repr, DecidableEq

namespace Book

def newData (b : Book) : List (String × FieldValue) :=
  [("ID", .string b.ID), ("name", .string b.name), ("category", .string b.category),
    ("author", .string b.author), ("publishingyear", .string b.publishingyear),
    ("publishingcompany", .string b.publishingcompany), ("dateadded", .string b.dateadded),
    ("status", .number 1), ("quantity", .string (Swift.description b.quantity)),
    ("check", .number 0), ("avatarURL", .string b.avatarURL)]

def saveOrUpdateNewBook (b : Book) : Handler Unit := Handler.setData .books b.ID b.newData

def detail (b : Book) : List (String × FieldValue) :=
  [("ID", .string b.ID), ("name", .string b.name), ("category", .string b.category),
    ("author", .string b.author), ("publishingyear", .string b.publishingyear),
    ("publishingcompany", .string b.publishingcompany), ("dateadded", .string b.dateadded),
    ("status", .string (Swift.description b.status)),
    ("quantity", .string (Swift.description b.quantity)),
    ("check", .number b.check), ("avatarURL", .string b.avatarURL)]

def updateDetail (b : Book) (ID : String) : Handler Unit := Handler.setData .books ID b.detail

end Book

/-! ## Borrowing cards -/

structure BorrowCard where
  idStudent : String := ""
  idBook : String := ""
  bookName : String := ""
  startedDay : String := ""
  endedDay : String := ""
  status : ℤ := 1
  fine : ℤ := 0
deriving Repr, DecidableEq

namespace BorrowCard

/-- A card is stored without its ended day, whatever the object holds. -/
def data (c : BorrowCard) : List (String × FieldValue) :=
  [("ID_student", .string c.idStudent), ("ID_book", .string c.idBook),
    ("bookName", .string c.bookName), ("startedDay", .string c.startedDay),
    ("endedDay", .string ""), ("status", .string (Swift.description c.status)),
    ("fine", .string (Swift.description c.fine))]

def addCard (c : BorrowCard) (autoID : String) : Handler Unit :=
  Handler.addDocument .borrowCard autoID c.data

end BorrowCard

/-! ## Students -/

structure Student where
  name : String := ""
  ID : String := ""
  birthday : String := ""
  gender : String := ""
  address : String := ""
  email : String := ""
  startedDay : String := ""
  status : ℤ := 1
deriving Repr, DecidableEq

namespace Student

/-- The fields of a student, with the status as the source writes it. -/
def data (s : Student) (status : String) : List (String × FieldValue) :=
  [("name", .string s.name), ("ID", .string s.ID), ("birthday", .string s.birthday),
    ("gender", .string s.gender), ("address", .string s.address), ("email", .string s.email),
    ("startedDay", .string s.startedDay), ("status", .string status)]

def insertNewStudent (s : Student) (autoID : String) : Handler Unit :=
  Handler.addDocument .students autoID (s.data "1")

def updateDetail (s : Student) (ID : String) : Handler Unit :=
  Handler.setData .students ID (s.data (Swift.description s.status))

end Student

/-! ## Rules -/

structure Rule where
  title : String := ""
  content : String := ""
deriving Repr, DecidableEq

def Rule.saveOrUpdateRules (r : Rule) : Handler Unit :=
  Handler.setData .rules r.title [("title", .string r.title), ("content", .string r.content)]

end LibraryManagement
