import LibraryManagement.BookForms
import LibraryManagement.BookStatistics
import LibraryManagement.RuleEdits
import LibraryManagement.Screens.AccountsTheorems
import LibraryManagement.Screens.Register
import LibraryManagement.Screens.StudentsTheorems
import LibraryManagement.StudentStatistics

/-!
# What the edit screens change

An edit screen fills its form from a cached copy of a document and stores a whole record again:
the form, values of the copy, and defaults of a constructor. A book is stored at first by another
method than an edit of it, which writes its status as a text.
-/

namespace LibraryManagement

open Handler Transition

/-- The form of an edit screen when its button is pressed. -/
inductive Edit
  | book (form : BookForm)
  | student (form : StudentForm) (statusIsOn : Bool)
  | account (form : AccountForm) (password₁ password₂ : String)
  | rule (content : String)
deriving DecidableEq

namespace Edit

def collection : Edit → CollectionName
  | book _ => .books
  | student _ _ => .students
  | account _ _ _ => .accounts
  | rule _ => .rules

/-- The form as the screen opens. -/
def opened : Edit → Handler Edit
  | book _ => do return .book (← EditInfoBookViewController.viewDidLoad)
  | student _ _ => do
    let (form, statusIsOn) ← EditInfoStudentViewController.viewDidLoad
    return .student form statusIsOn
  | account _ _ _ => do return .account (← EditAccountViewController.viewDidLoad) "" ""
  | rule _ => do
    let (_, content) ← EditInfoRuleViewController.viewDidLoad
    return .rule content

/-- The screen opens and the form is confirmed. A field that cannot be edited is as it opened. -/
def visit (uppercased : String → String) : Edit → Handler Unit
  | book form => do
    let opened ← EditInfoBookViewController.viewDidLoad
    EditInfoBookViewController.confirmButton uppercased { form with bookID := opened.bookID }
  | student form statusIsOn => do
    let (opened, _) ← EditInfoStudentViewController.viewDidLoad
    EditInfoStudentViewController.confirmAction { form with ID := opened.ID } statusIsOn
  | account form password₁ password₂ => do
    let opened ← EditAccountViewController.viewDidLoad
    let _ ← EditAccountViewController.confirmButton { form with email := opened.email }
      password₁ password₂
  | rule content => do
    let (title, _) ← EditInfoRuleViewController.viewDidLoad
    EditInfoRuleViewController.confirmButton title content

/-- The screen takes its copy of the document `id` from `UserDefaults`. -/
def Cached (temp : UserDefaults) (id : String) (document : Document) : Edit → Prop
  | book _ => temp["ID_current_book"]?.bind Value.string? = some id ∧
      temp[id]?.bind Value.dictionary? = some document
  | student _ _ => temp["ID_current_student"]?.bind Value.string? = some id ∧
      temp[id]?.bind Value.dictionary? = some document
  | account _ _ _ => temp["current_user"]?.bind Value.dictionary? = some document
  | rule _ => temp["current_rule"]?.bind Value.dictionary? = some document

/-- The button raises no alert about the form, and no quantity that is no number. -/
def Accepted (document : Document) : Edit → Prop
  | book form => ∃ quantity ∈ Swift.int? form.quantity, ∃ check ∈ document.int? "check",
      check ≤ quantity
  | student _ _ => True
  | account form password₁ password₂ =>
      form.fullname ≠ "" ∧ form.birthday ≠ "" ∧ form.gender ≠ "" ∧ password₁ = password₂
  | rule content => content ≠ ""

/-- The fields that can be edited, with the values of the form. -/
def fields (uppercased : String → String) : Edit → List (String × FieldValue)
  | book form => [("name", .string (uppercased form.bookname)), ("category", .string form.category),
      ("author", .string form.author), ("publishingyear", .string form.publishingyear),
      ("publishingcompany", .string form.publishingcompany),
      ("dateadded", .string form.dateadded),
      ("quantity", .string ((Swift.int? form.quantity).elim form.quantity Swift.description))]
  | student form statusIsOn => [("name", .string form.name), ("birthday", .string form.birthday),
      ("gender", .string form.gender), ("address", .string form.address),
      ("email", .string form.email), ("startedDay", .string form.startedDay),
      ("status", .string (if statusIsOn then "1" else "0"))]
  | account form _ _ => [("name", .string form.fullname), ("birthday", .string form.birthday),
      ("gender", .string form.gender)]
  | rule content => [("content", .string content)]

end Edit

/-! ## Stored documents -/

/-- What the app makes of the book `id`. The ID that a screen shows names the document. -/
inductive WrittenBook (uppercased : String → String) (id : String) : Document → Prop
  | add {form : BookForm} {quantity : ℤ} :
      CollectionName.books.id? form.bookID = some id → Swift.int? form.quantity = some quantity →
        WrittenBook uppercased id
          (Document.merge ∅ (AddBooksViewController.newBook uppercased form quantity).newData)
  | addAgain {form : BookForm} {quantity : ℤ} {document : Document} :
      WrittenBook uppercased id document → CollectionName.books.id? form.bookID = some id →
        Swift.int? form.quantity = some quantity →
          WrittenBook uppercased id
            (document.merge (AddBooksViewController.newBook uppercased form quantity).newData)
  | cover {ID : String} {document : Document} : WrittenBook uppercased id document →
      CollectionName.books.id? ID = some id → WrittenBook uppercased id
        (document.merge [("avatarURL", .string (AddBooksViewController.coverURL ID))])
  | lend {document : Document} (check : ℤ) : WrittenBook uppercased id document →
      WrittenBook uppercased id (document.merge [("check", .number check)])
  | edit {form : BookForm} {avatarURL : String} {check quantity : ℤ} {document : Document} :
      WrittenBook uppercased id document → CollectionName.books.id? form.bookID = some id →
        Swift.int? form.quantity = some quantity →
          WrittenBook uppercased id (document.merge
            (EditInfoBookViewController.currentBook uppercased form avatarURL check quantity).detail)

/-- What the app makes of the document of a student. -/
inductive WrittenStudent (uppercased : String → String) : Document → Prop
  | insert (student : Student) : WrittenStudent uppercased (Document.merge ∅ (student.data "1"))
  | fillIn {document : Document} (form : StudentForm) : WrittenStudent uppercased document →
      WrittenStudent uppercased (document.merge
        ((AddStudentsViewController.newStudent uppercased form).data "1"))
  | edit {document : Document} (form : StudentForm) (statusIsOn : Bool) :
      WrittenStudent uppercased document → WrittenStudent uppercased (document.merge
        ((EditInfoStudentViewController.currentStudent form statusIsOn).data
          (Swift.description (EditInfoStudentViewController.currentStudent form statusIsOn).status)))

/-- The e-mail names this account. -/
def IsEmailOf (named : CollectionName × String) (email : String) : Prop :=
  IsDocumentPath email ∧ CollectionName.accounts.document email = named

/-- What the app makes of an account. -/
inductive WrittenAccount (named : CollectionName × String) : Document → Prop
  | register {form : RegisterForm} : IsEmailOf named form.email →
      WrittenAccount named (Document.merge ∅ (RegisterViewController.account form))
  | avatar {email : String} {document : Document} : WrittenAccount named document →
      IsEmailOf named email → WrittenAccount named
        (document.merge [("avatar", .string (RegisterViewController.avatarURL email))])
  | edit {form : AccountForm} {document : Document} : WrittenAccount named document →
      IsEmailOf named form.email →
        WrittenAccount named (document.merge (EditAccountViewController.profile form))

namespace Edit

/-- The document is as the app's screens wrote it. -/
def Written (uppercased : String → String) (id : String) (document : Document) : Edit → Prop
  | book _ => WrittenBook uppercased id document
  | student _ _ => WrittenStudent uppercased document
  | account _ _ _ => WrittenAccount (.accounts, id) document
  | rule _ => ∃ title content, IsDocumentPath title ∧ CollectionName.rules.id? title = some id ∧
      document = Rule.document title content

/-- An accepted edit of a stored document, of which the client has an up-to-date copy. -/
structure Ready (uppercased : String → String) (c : Client) (id : String) (document : Document)
    (edit : Edit) : Prop where
  isDocumentID : IsDocumentID id
  stored : (c.db edit.collection)[id]? = some document
  written : edit.Written uppercased id document
  cached : edit.Cached c.temp id document
  accepted : edit.Accepted document

/-! ## What is to hold -/

/-- The confirm replaces the edited fields of the document and changes nothing else; if the form
is as it opened it changes nothing. -/
def ChangesOnly (uppercased : String → String) (c : Client) (id : String) (document : Document)
    (edit : Edit) : Prop :=
  ∃ c', c.perform (edit.visit uppercased) = some c' ∧
    c'.db = Function.update c.db edit.collection
      ((c.db edit.collection).insert id (document.merge (edit.fields uppercased))) ∧
    ((c.run edit.opened).map Prod.fst = some edit → c'.db = c.db)

/-- The condition: if it is a book, its status is a text, as an earlier edit left it. -/
def KeepsStatus (document : Document) : Edit → Prop
  | book _ => (document.string? "status").isSome
  | _ => True

end Edit

/-! ## The shape of stored documents -/

variable {uppercased : String → String} {c : Client} {id : String} {document : Document}
  {d d' : Device}

/-- Every field of a stored book has a value of the type that it is read with, but its status. -/
structure StoredBook (uppercased : String → String) (id : String) (document : Document) : Prop where
  ID : ∃ ID, CollectionName.books.id? ID = some id ∧ document.Carries "ID" ID
  name : ∃ name, document.Carries "name" (uppercased name)
  texts : ∀ field ∈ ["category", "author", "publishingyear", "publishingcompany", "dateadded",
    "avatarURL"], ∃ text, document.Carries field text
  quantity : ∃ quantity, Swift.InInt quantity ∧
    document.Carries "quantity" (Swift.description quantity)
  check : ∃ check, document.int? "check" = some check
  status : document.int? "status" = some 1 ∨ document.Carries "status" "1"

theorem storedBook_newData {form : BookForm} {quantity : ℤ}
    (hID : CollectionName.books.id? form.bookID = some id) (hint : Swift.InInt quantity) :
    StoredBook uppercased id (document.merge
      (AddBooksViewController.newBook uppercased form quantity).newData) := by
  constructor
  case ID =>
    refine ⟨form.bookID, hID, ?_⟩
    simp [Book.newData, AddBooksViewController.newBook, Document.merge_cons, Document.Carries]
  case quantity =>
    refine ⟨quantity, hint, ?_⟩
    simp [Book.newData, AddBooksViewController.newBook, Document.merge_cons, Document.Carries]
  all_goals
    simp [Book.newData, AddBooksViewController.newBook, Document.merge_cons, Document.Carries]

theorem storedBook_detail {form : BookForm} {avatarURL : String} {check quantity : ℤ}
    (hID : CollectionName.books.id? form.bookID = some id) (hint : Swift.InInt quantity) :
    StoredBook uppercased id (document.merge
      (EditInfoBookViewController.currentBook uppercased form avatarURL check quantity).detail) := by
  constructor
  case ID =>
    refine ⟨form.bookID, hID, ?_⟩
    simp [Book.detail, Document.merge_cons, Document.Carries]
  case quantity =>
    refine ⟨_, ?_, detail_quantity _ _⟩
    rw [EditInfoBookViewController.currentBook_quantity]
    split
    · decide
    · exact hint
  case status =>
    right
    simp [Book.detail, Document.merge_cons, Document.Carries]
    rfl
  all_goals simp [Book.detail, Document.merge_cons, Document.Carries]

theorem WrittenBook.stored (h : WrittenBook uppercased id document) :
    StoredBook uppercased id document := by
  induction h with
  | add hID hquantity => exact storedBook_newData hID (Swift.inInt_of_int? hquantity)
  | addAgain _ hID hquantity _ => exact storedBook_newData hID (Swift.inInt_of_int? hquantity)
  | cover _ _ ih =>
    -- The cover is one of the texts.
    obtain ⟨⟨ID, hnames, hID⟩, hname, htexts, hquantity, hcheck, hstatus⟩ := ih
    constructor <;> simp_all [Document.merge_cons, Document.Carries]
  | lend check _ ih =>
    obtain ⟨⟨ID, hnames, hID⟩, hname, htexts, hquantity, -, hstatus⟩ := ih
    constructor <;> simp_all [Document.merge_cons, Document.Carries]
  | edit _ hID hquantity _ => exact storedBook_detail hID (Swift.inInt_of_int? hquantity)

/-! ## The catalogue -/

/-- Every book is as the screens wrote it. -/
def BooksWritten (uppercased : String → String) (books : Collection) : Prop :=
  ∀ (id : String) (document : Document), books[id]? = some document →
    WrittenBook uppercased id document

/-- Overriding one book leaves the others as they were written. -/
theorem BooksWritten.override {books : Collection} {data : List (String × FieldValue)}
    (h : BooksWritten uppercased books)
    (hself : WrittenBook uppercased id (Document.merge ((books[id]?).getD ∅) data)) :
    BooksWritten uppercased (books.override id data) :=
  Std.ExtTreeMap.forall_getElem?_insert hself fun id' document _ hdocument =>
    h id' document hdocument

theorem booksWritten_addBook {form : BookForm} {answered : List String} {c c' : Client}
    (hc : BooksWritten uppercased (c.db .books))
    (h : Visit.step uppercased c (.addBook form answered) = some c') :
    BooksWritten uppercased (c'.db .books) := by
  obtain ⟨-, hdb⟩ | ⟨-, -, hvalid, quantity, hquantity, -, hbooks⟩ := Visit.step_addBook h
  · rwa [hdb]
  rw [hbooks]
  rcases Database.overrideAt_cases hvalid _ with ⟨id, -, hid, hoverride⟩ | ⟨-, hsame⟩
  · rw [hoverride]
    refine hc.override ?_
    rw [Document.merge_append]
    -- The ID may name a stored book, which is then written again.
    cases hbook : (c.db .books)[id]? with
    | none => exact .cover (.add hid hquantity) hid
    | some book => exact .cover (.addAgain (hc _ _ hbook) hid hquantity) hid
  · rwa [hsame]

theorem booksWritten_editBook {row : ℕ} {form : BookForm} {c c' : Client}
    (ha : c.db.Addressed) (hc : BooksWritten uppercased (c.db .books))
    (h : Visit.step uppercased c (.editBook row form) = some c') :
    BooksWritten uppercased (c'.db .books) := by
  obtain ⟨id, book, name, -, hbook, -, ⟨-, hdb⟩ | ⟨-, -, avatarURL, check, quantity, -, -,
    hquantity, -, hbooks⟩⟩ := Visit.step_editBook ha h
  · rwa [hdb]
  have hwritten := hc id book hbook
  obtain ⟨ID, hnames, hID⟩ := hwritten.stored.ID
  rw [hbooks]
  refine hc.override ?_
  rw [hbook]
  refine .edit hwritten ?_ hquantity
  rw [hID, Option.getD_some]
  exact hnames

/-- Adding, editing and lending leave books that the screens wrote. -/
theorem CatalogueChange.booksWritten_of_run {changes : List CatalogueChange} {db : Database}
    (h : Run (Steps (step uppercased)) Database.empty changes db) :
    BooksWritten uppercased (db .books) := by
  refine (h.invariant (fun db => db.Addressed ∧ BooksWritten uppercased (db .books))
    ⟨Database.addressed_empty, fun id book hbook => by simp [Database.empty] at hbook⟩
    fun db change db' hdb hstep => ?_).2
  cases change with
  | add temp form answered =>
    obtain ⟨c', hc', rfl⟩ := Option.map_eq_some_iff.1 hstep
    exact ⟨Visit.addressed_step (c := ⟨temp, db⟩) hdb.1 hc',
      booksWritten_addBook (c := ⟨temp, db⟩) hdb.2 hc'⟩
  | edit temp row form =>
    obtain ⟨c', hc', rfl⟩ := Option.map_eq_some_iff.1 hstep
    exact ⟨Visit.addressed_step (c := ⟨temp, db⟩) hdb.1 hc',
      booksWritten_editBook (c := ⟨temp, db⟩) hdb.1 hdb.2 hc'⟩
  | lend id check =>
    obtain ⟨hid, hdb'⟩ := Option.ite_none_right_eq_some.1 hstep
    obtain rfl := Option.some.inj hdb'
    refine ⟨hdb.1.apply (hdb.1 .books id hid), ?_⟩
    obtain ⟨book, hbook⟩ := Std.ExtTreeMap.mem_iff_exists_getElem?.1 hid
    rw [Write.apply_setData]
    refine BooksWritten.override hdb.2 ?_
    rw [hbook]
    exact .lend check (hdb.2 id book hbook)

/-! ## Students and accounts -/

/-- The fields of a stored student are texts, and the status is one of two. -/
structure StoredStudent (document : Document) : Prop where
  texts : ∀ field ∈ ["name", "ID", "birthday", "gender", "address", "email", "startedDay"],
    ∃ text, document.Carries field text
  status : document.Carries "status" "1" ∨ document.Carries "status" "0"

theorem StoredStudent.exists_status (h : StoredStudent document) :
    ∃ status, document.string? "status" = some status :=
  h.status.elim (fun hone => ⟨_, hone⟩) fun hzero => ⟨_, hzero⟩

theorem storedStudent_data {student : Student} {status : String} (h : status = "1" ∨ status = "0") :
    StoredStudent (document.merge (student.data status)) := by
  constructor <;> simp [Student.data, Document.merge_cons, Document.Carries, h]

theorem currentStudent_status (form : StudentForm) (statusIsOn : Bool) :
    Swift.description (EditInfoStudentViewController.currentStudent form statusIsOn).status =
      if statusIsOn then "1" else "0" := by
  cases statusIsOn <;> rfl

theorem WrittenStudent.stored (h : WrittenStudent uppercased document) : StoredStudent document := by
  cases h with
  | insert student => exact storedStudent_data (.inl rfl)
  | fillIn form _ => exact storedStudent_data (.inl rfl)
  | edit form statusIsOn _ =>
    rw [currentStudent_status]
    exact storedStudent_data (by cases statusIsOn <;> simp)

/-- Every student is as the screens wrote it. -/
def StudentsWritten (uppercased : String → String) (students : Collection) : Prop :=
  ∀ (id : String) (document : Document), students[id]? = some document →
    WrittenStudent uppercased document

theorem StudentsWritten.insert {students : Collection} (h : StudentsWritten uppercased students)
    (hself : WrittenStudent uppercased document) :
    StudentsWritten uppercased (students.insert id document) :=
  Std.ExtTreeMap.forall_getElem?_insert hself fun id' document' _ hdocument' =>
    h id' document' hdocument'

/-- New students, those that are filled in and those that are edited are as the screens write
them. -/
theorem StudentChange.studentsWritten_of_run {changes : List StudentChange} {db : Database}
    (h : Run (Steps (step uppercased)) Database.empty changes db) :
    StudentsWritten uppercased (db .students) := by
  refine h.invariant (fun db => StudentsWritten uppercased (db .students))
    (fun id document hdocument => by simp [Database.empty] at hdocument)
    fun db change db' hdb hstep => ?_
  cases change with
  | insert student autoID =>
    obtain ⟨-, hstudents⟩ := step_insert hstep
    rw [hstudents]
    exact StudentsWritten.insert hdb (.insert student)
  | fillIn form ID =>
    obtain ⟨id, hid, hstudents⟩ := step_fillIn hstep
    obtain ⟨student, hstudent⟩ := Std.ExtTreeMap.mem_iff_exists_getElem?.1 hid
    rw [hstudents, Collection.override, hstudent]
    exact StudentsWritten.insert hdb (.fillIn form (hdb id student hstudent))
  | edit temp form statusIsOn =>
    obtain ⟨id, -, hid, hstudents⟩ := step_edit hstep
    obtain ⟨student, hstudent⟩ := Std.ExtTreeMap.mem_iff_exists_getElem?.1 hid
    have hedit := WrittenStudent.edit form statusIsOn (hdb id student hstudent)
    rw [currentStudent_status] at hedit
    rw [hstudents, Collection.override, hstudent]
    exact StudentsWritten.insert hdb hedit

/-- A stored account has an e-mail that names it, and its profile is texts. -/
structure StoredAccount (named : CollectionName × String) (document : Document) : Prop where
  email : ∃ email, IsEmailOf named email ∧ document.Carries "email" email
  texts : ∀ field ∈ ["name", "birthday", "gender"], ∃ text, document.Carries field text

/-- The profile that the edit screen shows. -/
theorem StoredAccount.shows {named : CollectionName × String} (h : StoredAccount named document) :
    ∃ form, EditAccountViewController.shows document = some form ∧ IsEmailOf named form.email ∧
      document.Carries "email" form.email := by
  obtain ⟨name, hname⟩ := h.texts "name" (by simp)
  obtain ⟨birthday, hbirthday⟩ := h.texts "birthday" (by simp)
  obtain ⟨gender, hgender⟩ := h.texts "gender" (by simp)
  obtain ⟨email, hnames, hemail⟩ := h.email
  refine ⟨⟨name, birthday, gender, email⟩, ?_, hnames, hemail⟩
  simp only [Document.Carries] at hname hbirthday hgender hemail
  simp [EditAccountViewController.shows, hname, hbirthday, hgender, hemail]

theorem WrittenAccount.stored {named : CollectionName × String}
    (h : WrittenAccount named document) : StoredAccount named document := by
  induction h with
  | @register form hemail =>
    refine ⟨⟨form.email, hemail, ?_⟩, ?_⟩ <;>
      simp [RegisterViewController.account, Document.merge_cons, Document.Carries]
  | avatar _ _ ih =>
    obtain ⟨⟨email, hnames, hemail⟩, htexts⟩ := ih
    constructor <;> simp_all [Document.merge_cons, Document.Carries]
  | @edit form _ _ hemail _ =>
    refine ⟨⟨form.email, hemail, ?_⟩, ?_⟩ <;>
      simp [EditAccountViewController.profile, Document.merge_cons, Document.Carries]

/-! ## What a visit writes -/

theorem Document.merge_filter {data : List (String × FieldValue)} (p : String → Prop)
    [DecidablePred p] (h : ∀ entry ∈ data, ¬ p entry.1 → document[entry.1]? = some entry.2) :
    document.merge (data.filter fun entry => p entry.1) = document.merge data :=
  Std.ExtTreeMap.insertMany_filter h

/-- A merge of what a document has already changes nothing. -/
theorem Document.merge_eq_self {data : List (String × FieldValue)}
    (h : ∀ entry ∈ data, document[entry.1]? = some entry.2) : document.merge data = document := by
  have hnone := Document.merge_filter (fun _ => False) fun entry hentry _ => h entry hentry
  simpa using hnone.symm

namespace Edit

variable {edit : Edit}

/-- A visit that writes one document is as it is to be if the merge is. -/
theorem changesOnly_iff_merge {temp : UserDefaults} {data : List (String × FieldValue)}
    (hstored : (c.db edit.collection)[id]? = some document)
    (hperform : c.perform (edit.visit uppercased) =
      some ⟨temp, Write.apply c.db (.setData edit.collection id data)⟩) :
    edit.ChangesOnly uppercased c id document ↔
      document.merge data = document.merge (edit.fields uppercased) ∧
        ((c.run edit.opened).map Prod.fst = some edit → document.merge data = document) := by
  have happly : Write.apply c.db (.setData edit.collection id data) =
      Function.update c.db edit.collection
        ((c.db edit.collection).insert id (document.merge data)) := by
    show Function.update c.db edit.collection ((c.db edit.collection).override id data) = _
    rw [Collection.override, hstored, Option.getD_some]
  have hread : ∀ document' : Document, (Function.update c.db edit.collection
      ((c.db edit.collection).insert id document') edit.collection)[id]? = some document' := by
    intro document'
    rw [Function.update_self, Collection.getElem?_insert, if_pos rfl]
  have hself : Function.update c.db edit.collection
      ((c.db edit.collection).insert id document) = c.db := by
    rw [Std.ExtTreeMap.insert_of_getElem? hstored, Function.update_eq_self]
  constructor
  · rintro ⟨c', hc', hdb, hsame⟩
    obtain rfl := Option.some.inj (hperform.symm.trans hc')
    dsimp only at hdb hsame
    -- Both databases differ from the one before in the document only.
    rw [happly] at hdb hsame
    constructor
    · have hdocument := hread (document.merge data)
      rw [hdb, hread] at hdocument
      exact (Option.some.inj hdocument).symm
    · intro hopened
      have hdocument := hread (document.merge data)
      rw [hsame hopened, hstored] at hdocument
      exact (Option.some.inj hdocument).symm
  · rintro ⟨hmerge, hsame⟩
    refine ⟨_, hperform, ?_, ?_⟩
    · rw [← hmerge]
      exact happly
    · intro hopened
      show Write.apply c.db _ = c.db
      rw [happly, hsame hopened, hself]

/-! ## Opening and confirming -/

/-- A screen that opened, and whose confirm handed over one write. -/
theorem perform_opened {α : Type} {load : Handler α} {confirm : α → Handler Unit} {opened : α}
    {w : Write} (hload : load ⟨c.temp, []⟩ = .ok opened ⟨c.temp, []⟩)
    (hconfirm : confirm opened ⟨c.temp, []⟩ = .ok () ⟨c.temp, [w]⟩) :
    c.perform (load >>= confirm) = some ⟨c.temp, Write.apply c.db w⟩ :=
  Client.perform_eq_some.2 ⟨_, Traps.bind_eq_ok.2 ⟨_, _, hload, hconfirm⟩, rfl⟩

/-- A screen that is known to open shows the form it opened with. -/
theorem shown_of_opened {α : Type} {load : Handler α} {form : α → Handler Edit} {a : α}
    (hload : load ⟨c.temp, []⟩ = .ok a ⟨c.temp, []⟩)
    (hopened : (c.run (load >>= form)).map Prod.fst = some edit) :
    ∃ d, form a ⟨c.temp, []⟩ = .ok edit d := by
  obtain ⟨shown, d, hrun, rfl⟩ := Client.map_run_eq_some.1 hopened
  obtain ⟨a', d', hload', hform⟩ := Traps.bind_eq_ok.1 hrun
  obtain ⟨rfl, rfl⟩ := EStateM.Result.ok.inj (hload.symm.trans hload')
  exact ⟨d, hform⟩

theorem load_book {form : BookForm} (h : (book form).Cached c.temp id document) :
    EditInfoBookViewController.viewDidLoad ⟨c.temp, []⟩ =
      .ok (EditInfoBookViewController.shows document) ⟨c.temp, []⟩ :=
  EditInfoBookViewController.viewDidLoad_eq_ok.2 ⟨⟨id, document, h.1, h.2, rfl⟩, rfl⟩

theorem load_student {form : StudentForm} {statusIsOn : Bool} {status : String}
    (h : (student form statusIsOn).Cached c.temp id document)
    (hstatus : document.string? "status" = some status) :
    EditInfoStudentViewController.viewDidLoad ⟨c.temp, []⟩ =
      .ok (EditInfoStudentViewController.shows document, decide (status = "1")) ⟨c.temp, []⟩ :=
  EditInfoStudentViewController.viewDidLoad_eq_ok.2
    ⟨⟨id, document, h.1, h.2, rfl, status, hstatus, rfl⟩, rfl⟩

theorem load_account {form opened : AccountForm} {password₁ password₂ : String}
    (h : (account form password₁ password₂).Cached c.temp id document)
    (hshows : EditAccountViewController.shows document = some opened) :
    EditAccountViewController.viewDidLoad ⟨c.temp, []⟩ = .ok opened ⟨c.temp, []⟩ := by
  have hcopy : c.temp["current_user"]?.bind Value.dictionary? = some document := h
  refine EditAccountViewController.viewDidLoad_eq_ok.2 ⟨?_, rfl⟩
  rw [hcopy]
  exact hshows

theorem load_rule {title content content₀ : String}
    (h : (rule content).Cached c.temp id (Rule.document title content₀)) :
    EditInfoRuleViewController.viewDidLoad ⟨c.temp, []⟩ = .ok (title, content₀) ⟨c.temp, []⟩ := by
  have hshown := Rule.carries_document title content₀
  refine EditInfoRuleViewController.viewDidLoad_eq_ok.2 ⟨_, h, ?_, rfl⟩
  rw [hshown.1, hshown.2]
  rfl

/-- The fields that cannot be edited are filled from the copy. -/
theorem shows_bookID {ID : String} (h : document.Carries "ID" ID) :
    { EditInfoBookViewController.shows document with bookID := ID } =
      EditInfoBookViewController.shows document := by
  rw [EditInfoBookViewController.shows, h, Option.getD_some]

theorem shows_studentID {ID : String} (h : document.Carries "ID" ID) :
    { EditInfoStudentViewController.shows document with ID := ID } =
      EditInfoStudentViewController.shows document := by
  rw [EditInfoStudentViewController.shows, h, Option.getD_some]

theorem perform_visit_book {form : BookForm} {ID : String}
    (h : (book form).Ready uppercased c id document) (hID : document.Carries "ID" ID) :
    ∃ avatarURL check quantity, document.Carries "avatarURL" avatarURL ∧
      document.int? "check" = some check ∧ Swift.int? form.quantity = some quantity ∧
      check ≤ quantity ∧
      c.perform ((book form).visit uppercased) = some ⟨c.temp, Write.apply c.db (.setData .books id
        (EditInfoBookViewController.currentBook uppercased { form with bookID := ID } avatarURL
          check quantity).detail)⟩ := by
  have hshape : StoredBook uppercased id document := WrittenBook.stored h.written
  obtain ⟨avatarURL, havatar⟩ := hshape.texts "avatarURL" (by simp)
  obtain ⟨quantity, hquantity, check, hcheck, hle⟩ := h.accepted
  refine ⟨avatarURL, check, quantity, havatar, hcheck, hquantity, hle, ?_⟩
  refine perform_opened (load_book h.cached) ?_
  rw [← shows_bookID hID, ← Write.setAt_of_isDocumentID h.isDocumentID]
  exact EditInfoBookViewController.confirmButton_eq_ok.2 ⟨id, document, avatarURL, check, quantity,
    h.cached.1, h.cached.2, havatar, hcheck, hquantity, h.isDocumentID.isDocumentPath, rfl⟩

theorem perform_visit_student {form : StudentForm} {statusIsOn : Bool} {ID : String}
    (h : (student form statusIsOn).Ready uppercased c id document)
    (hID : document.Carries "ID" ID) :
    c.perform ((student form statusIsOn).visit uppercased) =
      some ⟨c.temp, Write.apply c.db (.setData .students id
        (Student.data (EditInfoStudentViewController.currentStudent { form with ID := ID } statusIsOn)
          (if statusIsOn then "1" else "0")))⟩ := by
  obtain ⟨status, hstatus⟩ := (WrittenStudent.stored h.written).exists_status
  refine perform_opened (load_student h.cached hstatus) ?_
  rw [← shows_studentID hID, ← currentStudent_status, ← Write.setAt_of_isDocumentID h.isDocumentID]
  exact EditInfoStudentViewController.confirmAction_eq_ok.2
    ⟨id, h.cached.1, h.isDocumentID.isDocumentPath, rfl⟩

/-- The confirm addresses the account by the e-mail that the copy shows. -/
theorem perform_visit_account {form opened : AccountForm} {password₁ password₂ : String}
    (h : (account form password₁ password₂).Ready uppercased c id document)
    (hshows : EditAccountViewController.shows document = some opened)
    (hemail : IsEmailOf (.accounts, id) opened.email) :
    c.perform ((account form password₁ password₂).visit uppercased) =
      some ⟨c.temp, Write.apply c.db (.setData .accounts id
        (EditAccountViewController.profile { form with email := opened.email }))⟩ := by
  obtain ⟨hname, hbirthday, hgender, rfl⟩ := h.accepted
  have hcomplete : ¬ EditAccountViewController.Incomplete { form with email := opened.email } := by
    rintro (hempty | hempty | hempty | hempty)
    · exact hname hempty
    · exact hbirthday hempty
    · exact hemail.1.ne_empty hempty
    · exact hgender hempty
  obtain ⟨newPassword, hconfirm⟩ := EditAccountViewController.confirmButton_stores
    (d := ⟨c.temp, []⟩) password₁ hcomplete hemail.1
  rw [Write.setAt, hemail.2] at hconfirm
  refine perform_opened (load_account h.cached hshows) ?_
  exact Traps.bind_eq_ok.2 ⟨_, _, hconfirm, rfl⟩

/-- The confirm addresses the rule by its title. -/
theorem perform_visit_rule {title content content₀ : String}
    (h : (rule content).Ready uppercased c id (Rule.document title content₀))
    (hvalid : IsDocumentPath title) (htitle : CollectionName.rules.id? title = some id) :
    c.perform ((rule content).visit uppercased) =
      some ⟨c.temp, Write.apply c.db (.setData .rules id
        [("title", .string title), ("content", .string content)])⟩ := by
  have hne : content ≠ "" := h.accepted
  have hsave : Rule.saveOrUpdateRules ⟨title, content⟩ ⟨c.temp, []⟩ = .ok () ⟨c.temp,
      [.setAt .rules title [("title", .string title), ("content", .string content)]]⟩ :=
    Rule.saveOrUpdateRules_eq_ok.2 ⟨hvalid, rfl⟩
  rw [Write.setAt, CollectionName.id?_eq_some.1 htitle] at hsave
  refine perform_opened (load_rule h.cached) ?_
  simp only [EditInfoRuleViewController.confirmButton, if_pos hne]
  exact hsave

/-! ## What it changes -/

/-- A book is stored with its fields as they are, but with a text for its status. -/
theorem merge_detail_iff {form : BookForm} {ID avatarURL : String} {check quantity : ℤ}
    (hID : document.Carries "ID" ID) (havatar : document.Carries "avatarURL" avatarURL)
    (hcheck : document.int? "check" = some check) (hquantity : Swift.int? form.quantity = some quantity)
    (hle : check ≤ quantity) :
    document.merge (EditInfoBookViewController.currentBook uppercased { form with bookID := ID }
        avatarURL check quantity).detail = document.merge ((book form).fields uppercased) ↔
      document.Carries "status" "1" := by
  have hone : Swift.description 1 = "1" := rfl
  have hdetail : (EditInfoBookViewController.currentBook uppercased { form with bookID := ID }
      avatarURL check quantity).detail.filter (fun entry =>
        entry.1 ∉ ["ID", "status", "check", "avatarURL"]) = (book form).fields uppercased := by
    simp [EditInfoBookViewController.currentBook, not_lt.2 hle, Book.detail, fields, hquantity]
  constructor
  · intro hmerge
    have hstatus : (document.merge (EditInfoBookViewController.currentBook uppercased
        { form with bookID := ID } avatarURL check quantity).detail).Carries "status" "1" := by
      simp [Book.detail, Document.merge_cons, Document.Carries, hone]
    -- The fields of the form have no status, so it was there before.
    rw [hmerge] at hstatus
    simpa [fields, Document.merge_cons, Document.Carries] using hstatus
  · intro hstatus
    rw [Document.Carries, Document.string?_eq_some] at hID havatar hstatus
    rw [Document.int?_eq_some] at hcheck
    rw [← hdetail]
    refine (Document.merge_filter (· ∉ ["ID", "status", "check", "avatarURL"]) ?_).symm
    simp [Book.detail, hID, havatar, hcheck, hstatus, hone]

/-- The form that opened has what the book has already, if its status is a text. -/
theorem merge_detail_shows (hup : ∀ s, uppercased (uppercased s) = uppercased s)
    {avatarURL : String} {check quantity : ℤ} (hshape : StoredBook uppercased id document)
    (havatar : document.Carries "avatarURL" avatarURL) (hcheck : document.int? "check" = some check)
    (hquantity : Swift.int? (EditInfoBookViewController.shows document).quantity = some quantity)
    (hle : check ≤ quantity) (hstatus : document.Carries "status" "1") :
    document.merge (EditInfoBookViewController.currentBook uppercased
      (EditInfoBookViewController.shows document) avatarURL check quantity).detail = document := by
  have hone : Swift.description 1 = "1" := rfl
  obtain ⟨⟨ID, -, hID⟩, ⟨name, hname⟩, htexts, ⟨stored, hint, hstored⟩, -, -⟩ := hshape
  -- The quantity field shows a decimal text, which denotes the number it came from.
  obtain rfl : stored = quantity := by
    rw [EditInfoBookViewController.shows, hstored, Option.getD_some,
      Swift.int?_description hint] at hquantity
    exact Option.some.inj hquantity
  obtain ⟨category, hcategory⟩ := htexts "category" (by simp)
  obtain ⟨author, hauthor⟩ := htexts "author" (by simp)
  obtain ⟨year, hyear⟩ := htexts "publishingyear" (by simp)
  obtain ⟨company, hcompany⟩ := htexts "publishingcompany" (by simp)
  obtain ⟨date, hdate⟩ := htexts "dateadded" (by simp)
  rw [Document.Carries] at havatar hstored hstatus
  simp only [Document.Carries] at hID hname hcategory hauthor hyear hcompany hdate
  refine Document.merge_eq_self ?_
  simp [EditInfoBookViewController.currentBook, EditInfoBookViewController.shows, not_lt.2 hle,
    Book.detail, hone, hup, ← Document.string?_eq_some, ← Document.int?_eq_some, hID, hname,
    hcategory, hauthor, hyear, hcompany, hdate, hstatus, hstored, hcheck, havatar]

/-- A student is stored with the ID as it is. -/
theorem merge_student {form : StudentForm} {statusIsOn : Bool} {ID : String}
    (hID : document.Carries "ID" ID) :
    document.merge (Student.data (EditInfoStudentViewController.currentStudent { form with ID := ID }
        statusIsOn) (if statusIsOn then "1" else "0")) =
      document.merge ((student form statusIsOn).fields uppercased) := by
  have hdata : (Student.data (EditInfoStudentViewController.currentStudent { form with ID := ID }
      statusIsOn) (if statusIsOn then "1" else "0")).filter (fun entry => entry.1 ∉ ["ID"]) =
        (student form statusIsOn).fields uppercased := by
    simp [Student.data, EditInfoStudentViewController.currentStudent, fields]
  rw [Document.Carries, Document.string?_eq_some] at hID
  rw [← hdata]
  refine (Document.merge_filter (· ∉ ["ID"]) ?_).symm
  simp [Student.data, EditInfoStudentViewController.currentStudent, hID]

theorem merge_student_shows {status : String} (hshape : StoredStudent document)
    (hstatus : document.string? "status" = some status) :
    document.merge (Student.data (EditInfoStudentViewController.currentStudent
      (EditInfoStudentViewController.shows document) (decide (status = "1")))
      (if decide (status = "1") = true then "1" else "0")) = document := by
  obtain ⟨htexts, hvalue⟩ := hshape
  obtain ⟨name, hname⟩ := htexts "name" (by simp)
  obtain ⟨ID, hID⟩ := htexts "ID" (by simp)
  obtain ⟨birthday, hbirthday⟩ := htexts "birthday" (by simp)
  obtain ⟨gender, hgender⟩ := htexts "gender" (by simp)
  obtain ⟨address, haddress⟩ := htexts "address" (by simp)
  obtain ⟨email, hemail⟩ := htexts "email" (by simp)
  obtain ⟨startedDay, hstartedDay⟩ := htexts "startedDay" (by simp)
  have hshown : (if decide (status = "1") = true then "1" else "0") = status := by
    rcases hvalue with h | h <;> obtain rfl := Option.some.inj (hstatus.symm.trans h) <;> rfl
  simp only [Document.Carries] at hname hID hbirthday hgender haddress hemail hstartedDay
  rw [hshown]
  refine Document.merge_eq_self ?_
  simp [Student.data, EditInfoStudentViewController.currentStudent,
    EditInfoStudentViewController.shows, ← Document.string?_eq_some, hname, hID, hbirthday, hgender,
    haddress, hemail, hstartedDay, hstatus]

/-- An account is stored with the e-mail as it is. -/
theorem merge_account {form : AccountForm} {email password₁ password₂ : String}
    (hemail : document.Carries "email" email) :
    document.merge (EditAccountViewController.profile { form with email := email }) =
      document.merge ((account form password₁ password₂).fields uppercased) := by
  have hprofile : (EditAccountViewController.profile { form with email := email }).filter
      (fun entry => entry.1 ∉ ["email"]) = (account form password₁ password₂).fields uppercased := by
    simp [EditAccountViewController.profile, fields]
  rw [Document.Carries, Document.string?_eq_some] at hemail
  rw [← hprofile]
  refine (Document.merge_filter (· ∉ ["email"]) ?_).symm
  simp [EditAccountViewController.profile, hemail]

theorem merge_account_shows {form : AccountForm}
    (hshows : EditAccountViewController.shows document = some form) :
    document.merge (EditAccountViewController.profile form) = document := by
  simp only [EditAccountViewController.shows, Option.bind_eq_bind, Option.bind_eq_some_iff,
    Option.pure_def, Option.some.injEq] at hshows
  obtain ⟨name, hname, birthday, hbirthday, gender, hgender, email, hemail, rfl⟩ := hshows
  refine Document.merge_eq_self ?_
  simp [EditAccountViewController.profile, ← Document.string?_eq_some, hname, hbirthday, hgender,
    hemail]

/-! ## Exactly when -/

/-- A stored status is a text exactly if it is the text that an edit stores. -/
theorem isSome_status_iff (h : StoredBook uppercased id document) :
    (document.string? "status").isSome ↔ document.Carries "status" "1" := by
  rcases h.status with hnumber | htext
  · have hnone : document.string? "status" = none := by
      rw [Document.string?, Document.int?_eq_some.1 hnumber]
      rfl
    simp [Document.Carries, hnone]
  · simp only [Document.Carries] at htext
    simp [Document.Carries, htext]

theorem changesOnly_book (hup : ∀ s, uppercased (uppercased s) = uppercased s) {form : BookForm}
    (h : (book form).Ready uppercased c id document) :
    (book form).ChangesOnly uppercased c id document ↔ (document.string? "status").isSome := by
  have hshape : StoredBook uppercased id document := WrittenBook.stored h.written
  obtain ⟨ID, -, hID⟩ := hshape.ID
  obtain ⟨avatarURL, check, quantity, havatar, hcheck, hquantity, hle, hperform⟩ :=
    perform_visit_book h hID
  rw [changesOnly_iff_merge h.stored hperform, isSome_status_iff hshape,
    merge_detail_iff hID havatar hcheck hquantity hle]
  -- With a text for its status a book that was not changed has all of its fields already.
  refine and_iff_left_of_imp fun hstatus hopened => ?_
  obtain ⟨d, hshown⟩ := shown_of_opened (load_book h.cached) hopened
  obtain rfl := Edit.book.inj (Traps.pure_eq_ok.1 hshown).1
  rw [shows_bookID hID]
  exact merge_detail_shows hup hshape havatar hcheck hquantity hle hstatus

theorem changesOnly_student {form : StudentForm} {statusIsOn : Bool}
    (h : (student form statusIsOn).Ready uppercased c id document) :
    (student form statusIsOn).ChangesOnly uppercased c id document := by
  have hshape : StoredStudent document := WrittenStudent.stored h.written
  obtain ⟨ID, hID⟩ := hshape.texts "ID" (by simp)
  obtain ⟨status, hstatus⟩ := hshape.exists_status
  refine (changesOnly_iff_merge h.stored (perform_visit_student h hID)).2
    ⟨merge_student hID, fun hopened => ?_⟩
  obtain ⟨d, hshown⟩ := shown_of_opened (load_student h.cached hstatus) hopened
  obtain ⟨rfl, rfl⟩ := Edit.student.inj (Traps.pure_eq_ok.1 hshown).1
  rw [shows_studentID hID]
  exact merge_student_shows hshape hstatus

theorem changesOnly_account {form : AccountForm} {password₁ password₂ : String}
    (h : (account form password₁ password₂).Ready uppercased c id document) :
    (account form password₁ password₂).ChangesOnly uppercased c id document := by
  have hshape : StoredAccount (.accounts, id) document := WrittenAccount.stored h.written
  obtain ⟨opened, hshows, hnames, hemail⟩ := hshape.shows
  refine (changesOnly_iff_merge h.stored (perform_visit_account h hshows hnames)).2
    ⟨merge_account hemail, fun hopened => ?_⟩
  obtain ⟨d, hshown⟩ := shown_of_opened (load_account h.cached hshows) hopened
  obtain ⟨rfl, -, -⟩ := Edit.account.inj (Traps.pure_eq_ok.1 hshown).1
  exact merge_account_shows hshows

theorem changesOnly_rule {content : String} (h : (rule content).Ready uppercased c id document) :
    (rule content).ChangesOnly uppercased c id document := by
  obtain ⟨title, content₀, hvalid, htitle, rfl⟩ := h.written
  refine (changesOnly_iff_merge h.stored (perform_visit_rule h hvalid htitle)).2
    ⟨?_, fun hopened => ?_⟩
  · rw [Rule.merge_document, fields, Document.merge_cons, Document.merge_nil, Rule.insert_document]
  · obtain ⟨d, hshown⟩ := shown_of_opened (load_rule h.cached) hopened
    obtain rfl := Edit.rule.inj (Traps.pure_eq_ok.1 hshown).1
    rw [Rule.merge_document]

end Edit

/-- An accepted edit of an up-to-date copy changes what it edits and nothing else, exactly if the
document is no book, or a book whose status is a text already. -/
theorem changesOnly_iff (hup : ∀ s, uppercased (uppercased s) = uppercased s) {edit : Edit}
    (h : edit.Ready uppercased c id document) :
    edit.ChangesOnly uppercased c id document ↔ edit.KeepsStatus document := by
  cases edit with
  | book form => exact Edit.changesOnly_book hup h
  | student form statusIsOn => exact iff_of_true (Edit.changesOnly_student h) trivial
  | account form password₁ password₂ => exact iff_of_true (Edit.changesOnly_account h) trivial
  | rule content => exact iff_of_true (Edit.changesOnly_rule h) trivial

namespace Sample

/-- The stored book after an edit that left everything as it was. -/
def editedBook : Document :=
  storedBook.merge (EditInfoBookViewController.currentBook Swift.asciiUppercased
    (Sample.form "B1" "One" "3") (AddBooksViewController.coverURL "B1") 0 3).detail

theorem written_storedBook : WrittenBook Swift.asciiUppercased "B1" storedBook := by
  rw [storedBook, addedData, Document.merge_append]
  exact .cover (.add (by decide +kernel) (by decide +kernel)) (by decide +kernel)

/-- A client whose library is the edited book, with its row tapped. -/
def editedLibrary : Client where
  temp := ((∅ : UserDefaults).insert "B1" (.dictionary editedBook)).insert "ID_current_book" (.string "B1")
  db := Function.update Database.empty .books ((∅ : Collection).insert "B1" editedBook)

theorem ready_editedBook : (Edit.book (Sample.form "B1" "Two" "5")).Ready Swift.asciiUppercased
    editedLibrary "B1" editedBook where
  isDocumentID := by decide +kernel
  stored := by decide +kernel
  written := .edit written_storedBook (by decide +kernel) (by decide +kernel)
  cached := ⟨by decide +kernel, by decide +kernel⟩
  accepted := ⟨5, by decide +kernel, 0, by decide +kernel, by decide⟩

/-- The form of the added book as it opens. -/
theorem ready_storedBook : (Edit.book (Sample.form "B1" "ONE" "3")).Ready Swift.asciiUppercased
    oneBook "B1" storedBook where
  isDocumentID := by decide +kernel
  stored := by decide +kernel
  written := written_storedBook
  cached := ⟨by decide +kernel, by decide +kernel⟩
  accepted := ⟨3, by decide +kernel, 0, by decide +kernel, by decide⟩

end Sample

theorem changesOnly_editedBook : (Edit.book (Sample.form "B1" "Two" "5")).ChangesOnly
    Swift.asciiUppercased Sample.editedLibrary "B1" Sample.editedBook :=
  (changesOnly_iff Swift.asciiUppercased_asciiUppercased Sample.ready_editedBook).2
    (show (Sample.editedBook.string? "status").isSome by decide +kernel)

/-- Confirming the form of an added book turns its status into a text. -/
theorem changesOnly_fails : ¬ ∀ (c : Client) (id : String) (document : Document) (edit : Edit),
    edit.Ready Swift.asciiUppercased c id document →
      edit.ChangesOnly Swift.asciiUppercased c id document := by
  intro hall
  have hstatus := (Edit.changesOnly_book Swift.asciiUppercased_asciiUppercased
    Sample.ready_storedBook).1 (hall _ _ _ _ Sample.ready_storedBook)
  revert hstatus
  decide +kernel

end LibraryManagement
