import LibraryManagement.Entries
import LibraryManagement.Screens.Accounts
import LibraryManagement.Screens.Books
import LibraryManagement.Screens.BorrowCards
import LibraryManagement.Screens.Rules
import LibraryManagement.Screens.Statistics
import LibraryManagement.Screens.Students

/-!
# Which entries the handlers force and which they set

One triple for each handler: the keys it forces are to be set before it, and are among the
hypotheses; the keys it sets are in the entries after it.
-/

namespace LibraryManagement

open Handler

variable {E : Entries} {id : String}

/-! ## Loads -/

theorem StudentMenuViewController.viewWillAppear_spec :
    Spec E.Holds viewWillAppear fun _ =>
      (((E.assign ["ID_students"]).assign ["ID_rules"]).assign ["ID_books"]).Holds :=
  (Spec.set_strings rfl).bind fun _ => (Spec.set_strings rfl).bind fun _ => .set_strings rfl

theorem loadStudentData_spec {students : Collection} :
    Spec E.Holds (loadStudentData students) fun _ => (E.assign ["ID_students"]).Holds :=
  .set_strings rfl

theorem loadRuleData_spec {rules : Collection} :
    Spec E.Holds (loadRuleData rules) fun _ => (E.assign ["ID_rules"]).Holds :=
  (Spec.mapM fun _ => Spec.cast.post fun _ _ hd => hd.2).bind fun _ => .set_strings rfl

theorem loadBookData_spec {books : Collection} :
    Spec E.Holds (loadBookData books) fun _ => (E.assign ["ID_books"]).Holds :=
  .set_strings rfl

theorem loadBook_spec {books : Collection} :
    Spec E.Holds (loadBook books) fun _ => (E.assign ["listBook"]).Holds :=
  (Spec.mapM fun _ => Spec.unwrap.post fun _ _ hd => hd.2).bind fun _ => .set_strings rfl

/-! ## Lists -/

/-- Making a listed document the current one, when it is a cached one. -/
theorem selectRow_spec {list current : String} {row : ℕ} (hlist : kind list = some .strings)
    (hset : list ∈ E.assigned) (hcurrent : kind current = some .current) :
    Spec (fun d => E.Holds d ∧ ∀ id, listedID list row d.temp = some id → id ∈ E.ids)
      (do
        let ids ← forced list Value.strings?
        set current (some (.string (← Traps.index ids row))))
      fun _ => (E.assign [current]).Holds := by
  refine Spec.of_state fun d hd => ?_
  have hforced := Spec.forced_at (Spec.exists_of_assigned hd.1 hset hlist fun _ hv => hv)
  refine hforced.read fun ids hids => Spec.index.read fun id hid => ?_
  have hcached : id ∈ E.ids := hd.2 id (by rw [listedID, hids, Option.bind_some, hid])
  exact (Spec.set_current hcurrent hcached).weaken (fun d' hd' => hd' ▸ hd.1) fun _ _ h => h

namespace ManageBooksViewController

variable (hids : "ID_books" ∈ E.assigned)
include hids

theorem numberOfRowsInSection_spec : Spec E.Holds numberOfRowsInSection fun _ => E.Holds :=
  (Spec.forced_strings rfl hids).bind fun _ => .pure fun _ hd => hd

theorem cellForRowAt_spec {row : ℕ} : Spec E.Holds (cellForRowAt row) fun _ => E.Holds :=
  (Spec.forced_strings rfl hids).bind fun _ => Spec.index.read fun _ _ =>
    Spec.document.post fun _ _ hd => hd.2

theorem didSelectRowAt_spec {row : ℕ} :
    Spec (fun d => E.Holds d ∧ ∀ id, listedID "ID_books" row d.temp = some id → id ∈ E.ids)
      (didSelectRowAt row) fun _ => (E.assign ["ID_current_book"]).Holds :=
  selectRow_spec rfl hids rfl

omit hids in
theorem cellDelivery_spec {document : Option Document} (hid : Named document → kind id = none) :
    Spec E.Holds (cellDelivery id document) fun _ =>
      (if Named document then E.cache id else E).Holds := by
  refine Spec.unwrap.read fun data hdata => Spec.unwrap.read fun name hname => ?_
  have hnamed : Named document ↔ name.string? ≠ some "" := by
    simp only [Named, hdata, Option.bind_some, Document.string?, hname]
  split
  · next hne =>
    rw [if_pos (hnamed.2 hne)]
    exact Spec.unwrap.read fun _ _ =>
      (Spec.set_document (hid (hnamed.2 hne))).bind fun _ => .pure fun _ hd => hd
  · next hempty =>
    rw [if_neg (mt hnamed.1 hempty)]
    exact .pure fun _ hd => hd

end ManageBooksViewController

namespace ManageStudentsViewController

variable (hids : "ID_students" ∈ E.assigned)
include hids

theorem numberOfRowsInSection_spec : Spec E.Holds numberOfRowsInSection fun _ => E.Holds :=
  (Spec.forced_strings rfl hids).bind fun _ => .pure fun _ hd => hd

theorem cellForRowAt_spec {row : ℕ} : Spec E.Holds (cellForRowAt row) fun _ => E.Holds :=
  (Spec.forced_strings rfl hids).bind fun _ => Spec.index.read fun _ _ =>
    Spec.document.post fun _ _ hd => hd.2

theorem viewDidLoad_spec : Spec E.Holds viewDidLoad fun _ => E.Holds :=
  (Spec.forced_strings rfl hids).bind fun _ => (numberOfRowsInSection_spec hids).bind fun _ =>
    .pure fun _ hd => hd

theorem didSelectRowAt_spec {row : ℕ} :
    Spec (fun d => E.Holds d ∧ ∀ id, listedID "ID_students" row d.temp = some id → id ∈ E.ids)
      (didSelectRowAt row) fun _ => (E.assign ["ID_current_student"]).Holds :=
  selectRow_spec rfl hids rfl

omit hids in
theorem cellDelivery_spec {document : Option Document} (hid : Named document → kind id = none) :
    Spec E.Holds (cellDelivery id document) fun _ =>
      (if Named document then E.cache id else E).Holds := by
  refine Spec.unwrap.read fun data hdata => Spec.cast.read fun name hname => ?_
  have hnamed : Named document ↔ name ≠ "" := by
    simp only [Named, hdata, Option.bind_some, hname, ne_eq, Option.some.injEq]
  split
  · next hne =>
    rw [if_pos (hnamed.2 hne)]
    exact Spec.unwrap.read fun _ _ => .set_document (hid (hnamed.2 hne))
  · next hempty =>
    rw [if_neg (mt hnamed.1 hempty)]
    exact .pure fun _ hd => hd

end ManageStudentsViewController

namespace ListBorrowingCardStudentViewController

theorem numberOfRowsInSection_spec (hcount : "count" ∈ E.assigned) :
    Spec E.Holds numberOfRowsInSection fun _ => E.Holds :=
  Spec.forced (k := .count) rfl hcount fun _ hv => hv

theorem viewDidLoad_spec (hE : E.Plain) (hcount : "count" ∈ E.assigned)
    (hstudent : "ID_current_student" ∈ E.assigned) : Spec E.Holds viewDidLoad fun _ => E.Holds :=
  (numberOfRowsInSection_spec hcount).bind fun _ =>
    (Spec.forced_current rfl hstudent).read fun _ hid => (Spec.forced_cached hE hid).bind fun _ =>
      Spec.cast.read fun _ _ => .pure fun _ hd => hd

/-- A document with the id `"ID_cards"` is the only thing that can stand under that key. -/
theorem viewWillAppear_spec (hcount : "count" ∈ E.assigned) (hcards : "ID_cards" ∈ E.assigned) :
    Spec E.Holds viewWillAppear fun _ => E.Holds :=
  (numberOfRowsInSection_spec hcount).bind fun _ => fun d hd => by
    obtain ⟨v, -, hget⟩ := Shape.Meets.exists_of_assigned hd hcards
    rw [forced_apply, hget]
    exact hd

theorem didSelectRowAt_spec {row : ℕ} (hlistID : "listID" ∈ E.assigned) :
    Spec (fun d => E.Holds d ∧ ∀ id, listedID "listID" row d.temp = some id → id ∈ E.ids)
      (didSelectRowAt row) fun _ => (E.assign ["ID_current_bc"]).Holds :=
  selectRow_spec rfl hlistID rfl

/-- Rendering a row caches its card. -/
theorem cellForRowAt_spec {row : ℕ} (hdata : "data" ∈ E.assigned)
    (hlistID : "listID" ∈ E.assigned) :
    Spec (fun d => E.Holds d ∧ ∀ id, listedID "listID" row d.temp = some id → kind id = none)
      (cellForRowAt row) fun r d => kind r.1 = none ∧ (E.cache r.1).Holds d := by
  refine Spec.of_state fun d hd => ?_
  have hcards : ∃ cards, d.temp["data"]?.bind Value.dictionaries? = some cards :=
    Spec.exists_of_assigned hd.1 hdata rfl fun _ hv => hv
  have hids : ∃ ids, d.temp["listID"]?.bind Value.strings? = some ids :=
    Spec.exists_of_assigned hd.1 hlistID rfl fun _ hv => hv
  refine (Spec.forced_at hcards).read fun data _ => (Spec.forced_at hids).read fun listID hlist => ?_
  refine Spec.index.read fun card _ => Spec.cast.read fun _ _ => Spec.cast.read fun _ _ =>
    Spec.cast.read fun _ _ => Spec.cast.read fun _ _ => Spec.index.read fun id hid => ?_
  have hplain : kind id = none := hd.2 id (by rw [listedID, hlist, Option.bind_some, hid])
  refine Spec.bind ((Spec.set_document hplain).weaken (fun d' hd' => hd' ▸ hd.1) fun _ _ h => h) ?_
  exact fun _ => .pure fun _ hd' => ⟨hplain, hd'⟩

end ListBorrowingCardStudentViewController

/-! ## Students -/

namespace EditInfoStudentViewController

theorem viewDidLoad_spec (hE : E.Plain) (hstudent : "ID_current_student" ∈ E.assigned) :
    Spec E.Holds viewDidLoad fun _ => E.Holds :=
  (Spec.forced_current rfl hstudent).read fun _ hid => (Spec.forced_cached hE hid).bind fun _ =>
    Spec.cast.read fun _ _ => .pure fun _ hd => hd

theorem addCard_spec {studentID : String} {cards : Cards} {card : String × Document} :
    Spec E.Holds (addCard studentID cards card) fun _ => E.Holds := by
  refine Spec.cast.read fun owner _ => ?_
  split
  · exact Spec.checked.read fun _ _ => .pure fun _ hd => hd
  · exact .pure fun _ hd => hd

theorem cardsDelivery_spec {studentID : String} {cards : Collection} :
    Spec E.Holds (cardsDelivery studentID cards) fun _ =>
      (((E.assign ["count"]).assign ["data"]).assign ["listID"]).Holds :=
  (Spec.foldlM (fun _ _ => addCard_spec) _).bind fun _ =>
    (Spec.set (k := .count) rfl ⟨_, rfl⟩).bind fun _ =>
      (Spec.set (k := .documents) rfl ⟨_, rfl⟩).bind fun _ => .set_strings rfl

theorem confirmAction_spec {form : StudentForm} {statusIsOn : Bool}
    (hstudent : "ID_current_student" ∈ E.assigned) :
    Spec E.Holds (confirmAction form statusIsOn) fun _ => E.Holds :=
  (Spec.forced_current rfl hstudent).read fun _ _ => .setData

end EditInfoStudentViewController

namespace AddStudentsViewController

variable {uppercased : String → String}

theorem checkStudent_spec (hids : "ID_students" ∈ E.assigned) :
    Spec E.Holds checkStudent fun _ => E.Holds :=
  (Spec.forced_strings rfl hids).bind fun _ => .mapM fun _ =>
    Spec.document.post fun _ _ hd => hd.2

theorem checkStudentAnswer_spec {student : Student} {answer : Option Document} :
    Spec E.Holds (checkStudentAnswer student answer) fun _ => E.Holds := by
  cases answer with
  | none => exact .pure fun _ hd => hd
  | some document =>
    refine Spec.cast.read fun ID _ => ?_
    split
    · exact (Spec.set_flag true E.testing).post fun _ _ hd => hd.of_assign
    · exact .pure fun _ hd => hd

/-- The flag is written and read in one handler. -/
theorem confirmButton_spec {form : StudentForm} {autoID : String}
    (hids : "ID_students" ∈ E.assigned) :
    Spec E.Holds (confirmButton uppercased form autoID) fun _ => E.Holds := by
  refine (Spec.forced_strings rfl hids).bind fun ids => ?_
  split
  · exact Spec.index.read fun _ _ => Spec.document.read fun _ _ => .pure fun _ hd => hd
  have hlist : "ID_students" ∈ ((E.test true).assign ["check"]).assigned := .inl hids
  have hflag : "check" ∈ ((E.test true).assign ["check"]).assigned := .inr List.mem_cons_self
  refine (Spec.set_flag false true).bind fun _ => (checkStudent_spec hlist).bind fun reads => ?_
  have hback {d : Device} (hd : ((E.test true).assign ["check"]).Holds d) : E.Holds d :=
    hd.mono rfl (fun _ => rfl) Set.subset_union_left
  refine (Spec.forced_flag rfl hflag).bind fun check => ?_
  split
  · exact .pure fun _ hd => hback hd
  · exact Spec.addDocument.bind fun _ => .pure fun _ hd => hback hd

end AddStudentsViewController

/-! ## Borrowing cards -/

namespace AddNewBorrowingCardViewController

variable {s : Screen}

theorem viewDidLoad_spec (hE : E.Plain) (hstudent : "ID_current_student" ∈ E.assigned) :
    Spec E.Holds viewDidLoad fun s d => s.id = "" ∧ E.Holds d :=
  ((Spec.forced_current rfl hstudent).read fun _ hid => Spec.forced_cached hE hid).bind fun _ =>
    .pure fun _ hd => ⟨rfl, hd⟩

theorem bookAction_spec (hlist : "listBook" ∈ E.assigned) :
    Spec E.Holds (bookAction s) fun s' d =>
      (s'.id = s.id ∧ s'.confirmEnabled = s.confirmEnabled) ∧ E.Holds d :=
  (Spec.forced_strings rfl hlist).bind fun _ => Spec.index.read fun _ _ =>
    .pure fun _ hd => ⟨⟨rfl, rfl⟩, hd⟩

theorem didSelectRow_spec {row : ℕ} (hlist : "listBook" ∈ E.assigned) :
    Spec E.Holds (didSelectRow row s) fun s' d =>
      (s'.id = s.id ∧ s'.confirmEnabled = s.confirmEnabled) ∧ E.Holds d :=
  (Spec.forced_strings rfl hlist).bind fun _ => Spec.index.read fun _ _ =>
    .pure fun _ hd => ⟨⟨rfl, rfl⟩, hd⟩

theorem numberOfRowsInComponent_spec (hids : "ID_books" ∈ E.assigned) :
    Spec E.Holds numberOfRowsInComponent fun _ => E.Holds :=
  (Spec.forced_strings rfl hids).bind fun _ => .pure fun _ hd => hd

theorem titleForRow_spec {row : ℕ} (hlist : "listBook" ∈ E.assigned) :
    Spec E.Holds (titleForRow row) fun _ => E.Holds :=
  (Spec.forced_strings rfl hlist).bind fun _ => Spec.index.post fun _ _ hd => hd.2

/-- A pick asks for the book it is about. -/
theorem bookIDAction_spec :
    Spec E.Holds (bookIDAction s) fun r d =>
      (r.2 = some r.1.id ∨ r = (s, none)) ∧ E.Holds d := by
  unfold bookIDAction
  split
  · refine Spec.index.read fun _ _ => Spec.index.read fun _ _ => Spec.document.read ?_
    rintro id ⟨-, rfl⟩
    exact .pure fun _ hd => ⟨.inl rfl, hd⟩
  · exact .pure fun _ hd => ⟨.inr rfl, hd⟩

/-- The answer about a book that exists sets the count or disables the button. -/
theorem bookAnswer_spec (htesting : E.testing = false) {document : Document} :
    Spec E.Holds (bookAnswer s (some document)) fun s' d => s'.id = s.id ∧
      (s'.confirmEnabled = false ∧ E.Holds d ∨ (E.assign ["check"]).Holds d) := by
  refine Spec.cast.read fun _ _ => Spec.unwrap.read fun quantity _ =>
    Spec.cast.read fun check _ => ?_
  split
  · have hvalue : Value.int check ∈ E.values .check := ⟨⟨check, rfl⟩, by simp [htesting]⟩
    exact (Spec.set rfl hvalue).bind fun _ => .pure fun _ hd => ⟨rfl, .inr hd⟩
  · exact .pure fun _ hd => ⟨rfl, .inl ⟨rfl, hd⟩⟩

theorem confirmAction_spec {autoID : String} :
    Spec E.Holds (confirmAction s autoID) fun _ => E.Holds := Spec.addDocument

/-- Without a book the screen stops before it reads the count. -/
theorem okAction_spec (hcheck : s.id ≠ "" → "check" ∈ E.assigned) :
    Spec E.Holds (okAction s) fun _ => E.Holds := by
  refine Spec.document.read fun id hid => ?_
  obtain ⟨hvalid, rfl⟩ := hid
  exact (Spec.forced_count (hcheck hvalid.ne_empty)).bind fun _ =>
    Spec.checked.read fun _ _ => .write

end AddNewBorrowingCardViewController

namespace EditBorrowCardViewController

theorem viewDidLoad_spec (hE : E.Plain) (hstudent : "ID_current_student" ∈ E.assigned)
    (hcard : "ID_current_bc" ∈ E.assigned) : Spec E.Holds viewDidLoad fun _ => E.Holds :=
  (Spec.forced_current rfl hstudent).read fun _ hid => (Spec.forced_cached hE hid).bind fun _ =>
    (Spec.forced_current rfl hcard).read fun _ hid => (Spec.forced_cached hE hid).bind fun _ =>
      Spec.cast.read fun _ _ => Spec.cast.read fun _ _ => Spec.cast.read fun _ _ =>
        Spec.cast.read fun _ _ => Spec.cast.read fun _ _ => Spec.cast.read fun _ _ =>
          Spec.cast.read fun _ _ => Spec.document.read fun _ _ => .pure fun _ hd => hd

theorem bookAnswer_spec (htesting : E.testing = false) {answer : Option Document}
    (hcount : ∃ n, answer.bind (·.int? "check") = some n) :
    Spec E.Holds (bookAnswer answer) fun _ => (E.assign ["check"]).Holds := by
  obtain ⟨n, hn⟩ := hcount
  obtain ⟨document, rfl, hint⟩ := Option.bind_eq_some_iff.1 hn
  obtain ⟨v, hv, hvint⟩ := Option.bind_eq_some_iff.1 hint
  simp only [bookAnswer, hv, Option.map_some]
  have hvalue : (Value.ofField v).int? = some n := by rw [Value.int?_ofField, hvint]
  exact Spec.set (k := .check) rfl ⟨⟨n, hvalue⟩, by simp [htesting]⟩

theorem confirmButton_spec {s : Screen} (hcard : "ID_current_bc" ∈ E.assigned)
    (hcheck : s.statusIsOn = false → "check" ∈ E.assigned) :
    Spec E.Holds (confirmButton s) fun _ => E.Holds := by
  refine (Spec.forced_current rfl hcard).read fun ID _ => ?_
  split
  · next hoff =>
    exact Spec.setData.bind fun _ => Spec.document.read fun _ _ =>
      (Spec.forced_count (hcheck hoff)).bind fun _ => Spec.checked.read fun _ _ => .write
  · exact .setData

end EditBorrowCardViewController

/-! ## Books -/

namespace AddBooksViewController

variable {uppercased : String → String} {form : BookForm}

/-- A confirm that goes on has lowered the flag of its test. -/
theorem confirmButton_spec :
    Spec E.Holds (confirmButton uppercased form) fun book d =>
      book = none ∧ E.Holds d ∨
        (∃ b, book = some b) ∧ ((E.test true).assign ["check"]).Holds d := by
  unfold confirmButton
  split
  · exact .pure fun _ hd => .inl ⟨rfl, hd⟩
  · exact Spec.unwrap.read fun _ _ => (Spec.set_flag false true).bind fun _ =>
      .pure fun _ hd => .inr ⟨⟨_, rfl⟩, hd⟩

theorem checkNewBook_spec (hids : "ID_books" ∈ E.assigned) :
    Spec E.Holds checkNewBook fun _ => E.Holds :=
  (Spec.forced_strings rfl hids).bind fun _ => .mapM fun _ =>
    Spec.document.post fun _ _ hd => hd.2

theorem checkNewBookAnswer_spec {book : Book} {answer : Option Document} :
    Spec E.Holds (checkNewBookAnswer book answer) fun _ => E.Holds := by
  cases answer with
  | none => exact .pure fun _ hd => hd
  | some document =>
    refine Spec.cast.read fun name _ => ?_
    split
    · exact (Spec.set_flag true E.testing).post fun _ _ hd => hd.of_assign
    · exact .pure fun _ hd => hd

theorem Adding.block_spec {a : Adding} (hids : "ID_books" ∈ E.assigned)
    (hflag : a.Testing → E.testing = true ∧ "check" ∈ E.assigned) :
    Spec E.Holds (a.block form) fun a' d => (a'.Testing → a.Testing) ∧ E.Holds d := by
  unfold block
  cases hnext : a.next with
  | check => exact (checkNewBook_spec hids).bind fun _ => .pure fun _ hd => ⟨fun _ => .inl hnext, hd⟩
  | readFlag =>
    obtain ⟨htesting, hcheck⟩ := hflag (.inr hnext)
    exact (Spec.forced_flag htesting hcheck).bind fun _ =>
      .pure fun _ hd => ⟨fun _ => .inr hnext, hd⟩
  | save => exact Spec.setData.bind fun _ => .pure fun _ hd => ⟨fun h => by simp [Testing] at h, hd⟩
  | updateData =>
    exact Spec.updateData.bind fun _ => .pure fun _ hd => ⟨fun h => by simp [Testing] at h, hd⟩
  | finished => exact .pure fun _ hd => ⟨id, hd⟩

end AddBooksViewController

namespace EditInfoBookViewController

variable (hE : E.Plain) (hbook : "ID_current_book" ∈ E.assigned)
include hE hbook

theorem currentDocument_spec : Spec E.Holds currentDocument fun _ => E.Holds :=
  (Spec.forced_current rfl hbook).read fun _ hid => Spec.forced_cached hE hid

theorem viewDidLoad_spec : Spec E.Holds viewDidLoad fun _ => E.Holds :=
  (currentDocument_spec hE hbook).bind fun _ => .pure fun _ hd => hd

theorem confirmButton_spec {uppercased : String → String} {form : BookForm} :
    Spec E.Holds (confirmButton uppercased form) fun _ => E.Holds :=
  (currentDocument_spec hE hbook).bind fun _ => Spec.cast.read fun _ _ => Spec.cast.read fun _ _ =>
    Spec.unwrap.read fun _ _ => (Spec.forced_current rfl hbook).read fun _ _ => .setData

end EditInfoBookViewController

/-! ## Rules -/

namespace RuleViewController

theorem numberOfRowsInSection_spec (hids : "ID_rules" ∈ E.assigned) :
    Spec E.Holds numberOfRowsInSection fun _ => E.Holds :=
  (Spec.forced_strings rfl hids).bind fun _ => .pure fun _ hd => hd

theorem cellForRowAt_spec (hids : "ID_rules" ∈ E.assigned) :
    Spec E.Holds cellForRowAt fun _ => E.Holds :=
  (Spec.forced_strings rfl hids).bind fun _ => .pure fun _ hd => hd

theorem cellDelivery_spec {row : ℕ} {rules : Collection} :
    Spec E.Holds (cellDelivery row rules) fun _ => E.Holds :=
  Spec.index.read fun _ _ => Spec.cast.read fun _ _ => Spec.cast.read fun _ _ =>
    .pure fun _ hd => hd

end RuleViewController

theorem ListRulesTableViewCell.readMoreButton_spec {title content : String} :
    Spec E.Holds (readMoreButton title content) fun _ => (E.assign ["current_rule"]).Holds :=
  .set (k := .document) rfl ⟨_, rfl⟩

namespace EditInfoRuleViewController

theorem viewDidLoad_spec (hrule : "current_rule" ∈ E.assigned) :
    Spec E.Holds viewDidLoad fun _ => E.Holds :=
  (Spec.forced_document rfl hrule).bind fun _ => .pure fun _ hd => hd

theorem confirmButton_spec {title content : String} :
    Spec E.Holds (confirmButton title content) fun _ => E.Holds := by
  unfold confirmButton
  split
  · exact .setData
  · exact .pure fun _ hd => hd

end EditInfoRuleViewController

namespace AddRulesViewController

variable (hids : "ID_rules" ∈ E.assigned)
include hids

theorem okAction_spec {title content : String} :
    Spec E.Holds (okAction title content) fun _ => E.Holds :=
  Spec.setData.bind fun _ => (Spec.forced_strings rfl hids).bind fun _ => .pure fun _ hd => hd

theorem viewWillDisappear_spec : Spec E.Holds viewWillDisappear fun _ => E.Holds :=
  (Spec.forced_strings rfl hids).bind fun _ => .pure fun _ hd => hd

end AddRulesViewController

/-! ## Accounts -/

theorem LoginViewController.accountAnswer_spec {document : Document} :
    Spec E.Holds (accountAnswer (some document)) fun _ => (E.assign ["current_user"]).Holds :=
  .set (k := .document) rfl ⟨_, rfl⟩

theorem AccountViewController.viewDidLoad_spec (huser : "current_user" ∈ E.assigned) :
    Spec E.Holds viewDidLoad fun _ => E.Holds :=
  (Spec.forced_document rfl huser).bind fun _ => Spec.cast.read fun _ _ => Spec.cast.read fun _ _ =>
    Spec.cast.read fun _ _ => Spec.cast.read fun _ _ => Spec.cast.read fun _ _ =>
      Spec.cast.read fun _ _ => .pure fun _ hd => hd

theorem EditAccountViewController.viewDidLoad_spec (huser : "current_user" ∈ E.assigned) :
    Spec E.Holds viewDidLoad fun _ => E.Holds :=
  (Spec.forced_document rfl huser).bind fun _ => Spec.cast.read fun _ _ => Spec.cast.read fun _ _ =>
    Spec.cast.read fun _ _ => Spec.cast.read fun _ _ => .pure fun _ hd => hd

theorem EditAccountViewController.confirmButton_spec {form : AccountForm}
    {password₁ password₂ : String} :
    Spec E.Holds (confirmButton form password₁ password₂) fun _ => E.Holds := by
  unfold confirmButton
  split_ifs
  · exact .pure fun _ hd => hd
  · exact .pure fun _ hd => hd
  · exact Spec.setData.bind fun _ => .pure fun _ hd => hd
  · exact Spec.setData.bind fun _ => .pure fun _ hd => hd

/-! ## Statistics -/

theorem StatisticBooksViewController.viewDidLoad_spec {books : Collection} :
    Spec E.Holds (viewDidLoad books) fun _ => E.Holds :=
  (Spec.foldlM (fun _ _ => Spec.cast.read fun _ _ => Spec.cast.read fun _ _ =>
    Spec.unwrap.read fun _ _ => Spec.checked.read fun _ _ => Spec.checked.read fun _ _ =>
      .pure fun _ hd => hd) _).bind fun _ => Spec.checked.read fun _ _ => .pure fun _ hd => hd

theorem StatisticStudentsViewController.add_spec {count : ℤ} {document : Document} :
    Spec E.Holds (add count document) fun _ => E.Holds := by
  refine Spec.cast.read fun status _ => ?_
  split
  · exact Spec.checked.post fun _ _ hd => hd.2
  · exact .pure fun _ hd => hd

theorem StatisticStudentsViewController.viewDidLoad_spec {students : Collection} :
    Spec E.Holds (viewDidLoad students) fun _ => E.Holds :=
  (Spec.foldlM (fun _ _ => add_spec) _).bind fun _ => Spec.checked.read fun _ _ =>
    .pure fun _ hd => hd

end LibraryManagement
