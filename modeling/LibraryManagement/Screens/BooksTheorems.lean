import LibraryManagement.Screens.Books

/-!
# What the handlers of the book screens do

One lemma for each handler that completed: what it read, what it left in `UserDefaults` and
which writes it handed to Firestore.
-/

namespace LibraryManagement

open Handler

variable {uppercased : String → String} {form : BookForm} {d d' : Device}

@[simp] theorem Book.saveOrUpdateNewBook_eq_ok {book : Book} {u : Unit} :
    book.saveOrUpdateNewBook d = .ok u d' ↔ IsDocumentPath book.ID ∧
      { d with writes := d.writes ++ [.setAt .books book.ID book.newData] } = d' := by
  simp only [saveOrUpdateNewBook, setData, Traps.bind_eq_ok, document_eq_ok, write_eq_ok,
    and_assoc, exists_and_left, exists_eq_left']

namespace AddBooksViewController

/-- A complete form with a quantity that is a number starts the test with the flag down. -/
theorem confirmButton_eq_ok {book : Option Book} :
    confirmButton uppercased form d = .ok book d' ↔
      Incomplete form ∧ none = book ∧ d = d' ∨
        ¬ Incomplete form ∧ ∃ quantity, Swift.int? form.quantity = some quantity ∧
          some (newBook uppercased form quantity) = book ∧
          { d with temp := d.temp.insert "check" (.bool false) } = d' := by
  unfold confirmButton
  by_cases h : Incomplete form
  · simp only [h, if_true, Traps.pure_eq_ok, not_true, false_and, or_false, true_and]
  · simp only [h, if_false, Traps.bind_eq_ok, Traps.unwrap_eq_ok, set_eq_ok, Traps.pure_eq_ok,
      false_and, not_false_eq_true, true_and, false_or, and_assoc, exists_and_left,
      exists_eq_left', exists_const]

/-- Every listed id is read. -/
@[simp] theorem checkNewBook_eq_ok {ids : List String} :
    checkNewBook d = .ok ids d' ↔
      d.temp["ID_books"]?.bind Value.strings? = some ids ∧ (∀ id ∈ ids, IsDocumentPath id) ∧
        d = d' := by
  simp only [checkNewBook, Traps.bind_eq_ok, forced_eq_ok, mapM_document_eq_ok, and_assoc,
    exists_and_left, exists_eq_left']
  constructor
  · rintro ⟨listed, hlisted, hids, rfl, rfl⟩
    exact ⟨hlisted, hids, rfl⟩
  · rintro ⟨hlisted, hids, rfl⟩
    exact ⟨ids, hlisted, hids, rfl, rfl⟩

/-- An answer raises the flag exactly when it brings a book of the tested name. -/
theorem checkNewBookAnswer_eq_ok {book : Book} {answer : Option Document} {u : Unit} :
    checkNewBookAnswer book answer d = .ok u d' ↔
      answer = none ∧ d = d' ∨
        ∃ document name, answer = some document ∧ document.string? "name" = some name ∧
          (book.name = name ∧ { d with temp := d.temp.insert "check" (.bool true) } = d' ∨
            book.name ≠ name ∧ d = d') := by
  cases answer with
  | none => simp [checkNewBookAnswer]
  | some document =>
    simp only [checkNewBookAnswer, Traps.bind_eq_ok, Traps.cast_eq_ok, and_assoc, exists_and_left,
      exists_eq_left', reduceCtorEq, false_and, false_or, Option.some.injEq]
    refine exists_congr fun name => and_congr_right fun _ => ?_
    split
    · next h => simp [h]
    · next h => simp [h]

/-- An answer changes nothing but the flag: it raises the flag exactly when it brings a book of
the tested name. -/
theorem checkNewBookAnswer_ok {book : Book} {answer : Option Document} {u : Unit}
    (h : checkNewBookAnswer book answer d = .ok u d') : d'.writes = d.writes ∧
      ((∃ document ∈ answer, document.Carries "name" book.name) ∧
          d'.temp = d.temp.insert "check" (.bool true) ∨
        (¬ ∃ document ∈ answer, document.Carries "name" book.name) ∧ d'.temp = d.temp) := by
  rcases checkNewBookAnswer_eq_ok.1 h with
    ⟨rfl, rfl⟩ | ⟨document, name, rfl, hname, ⟨rfl, rfl⟩ | ⟨hne, rfl⟩⟩
  · exact ⟨rfl, .inr ⟨by simp, rfl⟩⟩
  · exact ⟨rfl, .inl ⟨⟨document, rfl, hname⟩, rfl⟩⟩
  · refine ⟨rfl, .inr ⟨?_, rfl⟩⟩
    rintro ⟨document', hdocument, hcarries⟩
    obtain rfl := Option.some.inj hdocument
    exact hne (Option.some.inj (hcarries.symm.trans hname))

@[simp] theorem readFlag_eq_ok {b : Bool} :
    readFlag d = .ok b d' ↔ d.temp["check"]?.bind Value.bool? = some b ∧ d = d' := forced_eq_ok

@[simp] theorem updateData_eq_ok {u : Unit} :
    updateData form d = .ok u d' ↔ IsDocumentPath form.bookID ∧
      { d with writes := d.writes ++ [.updateAt .books form.bookID
        [("avatarURL", .string (coverURL form.bookID))]] } = d' := by
  simp only [updateData, Handler.updateData, Traps.bind_eq_ok, document_eq_ok, write_eq_ok,
    and_assoc, exists_and_left, exists_eq_left']

/-- What a block did, and which one comes next. -/
theorem Adding.block_ok {a a' : Adding} (h : a.block form d = .ok a' d') :
    match a.next with
    | .check => ∃ ids, d.temp["ID_books"]?.bind Value.strings? = some ids ∧
        a' = { a with next := .readFlag, reads := ids } ∧ d' = d
    | .readFlag => ∃ flag, d.temp["check"]?.bind Value.bool? = some flag ∧
        a' = { a with next := if flag then .finished else .save } ∧ d' = d
    | .save => IsDocumentPath a.book.ID ∧ a' = { a with next := .updateData } ∧
        d' = { d with writes := d.writes ++ [.setAt .books a.book.ID a.book.newData] }
    | .updateData => IsDocumentPath form.bookID ∧ a' = { a with next := .finished } ∧
        d' = { d with writes := d.writes ++ [.updateAt .books form.bookID
          [("avatarURL", .string (coverURL form.bookID))]] }
    | .finished => a' = a ∧ d' = d := by
  unfold block at h
  cases hnext : a.next <;> rw [hnext] at h
  case check =>
    simp only [Traps.bind_eq_ok, checkNewBook_eq_ok, Traps.pure_eq_ok, and_assoc, exists_and_left,
      exists_eq_left'] at h
    obtain ⟨ids, hids, -, rfl, rfl⟩ := h
    exact ⟨ids, hids, rfl, rfl⟩
  case readFlag =>
    simp only [Traps.bind_eq_ok, readFlag_eq_ok, Traps.pure_eq_ok, and_assoc, exists_and_left,
      exists_eq_left'] at h
    obtain ⟨flag, hflag, rfl, rfl⟩ := h
    exact ⟨flag, hflag, rfl, rfl⟩
  case save =>
    simp only [Traps.bind_eq_ok, Book.saveOrUpdateNewBook_eq_ok, Traps.pure_eq_ok, and_assoc,
      exists_and_left, exists_eq_left', exists_const] at h
    obtain ⟨hID, rfl, rfl⟩ := h
    exact ⟨hID, rfl, rfl⟩
  case updateData =>
    simp only [Traps.bind_eq_ok, updateData_eq_ok, Traps.pure_eq_ok, and_assoc, exists_and_left,
      exists_eq_left', exists_const] at h
    obtain ⟨hID, rfl, rfl⟩ := h
    exact ⟨hID, rfl, rfl⟩
  case finished =>
    obtain ⟨rfl, rfl⟩ := Traps.pure_eq_ok.1 h
    exact ⟨rfl, rfl⟩

/-- No block writes `UserDefaults`. -/
theorem Adding.block_temp {a a' : Adding} (h : a.block form d = .ok a' d') :
    d'.temp = d.temp := by
  have hcases := block_ok h
  cases hnext : a.next <;> simp only [hnext] at hcases
  case check =>
    obtain ⟨ids, -, -, rfl⟩ := hcases
    rfl
  case readFlag =>
    obtain ⟨flag, -, -, rfl⟩ := hcases
    rfl
  case save => rw [hcases.2.2]
  case updateData => rw [hcases.2.2]
  case finished => rw [hcases.2]

end AddBooksViewController

namespace EditInfoBookViewController

@[simp] theorem currentDocument_eq_ok {document : Document} :
    currentDocument d = .ok document d' ↔
      (∃ ID, d.temp["ID_current_book"]?.bind Value.string? = some ID ∧
        d.temp[ID]?.bind Value.dictionary? = some document) ∧ d = d' := by
  simp only [currentDocument, Traps.bind_eq_ok, forced_eq_ok, and_assoc, exists_and_left,
    exists_eq_left']
  simp only [← exists_and_right, and_assoc]

/-- The form for a book. -/
def shows (book : Document) : BookForm where
  bookID := (book.string? "ID").getD ""
  bookname := (book.string? "name").getD ""
  category := (book.string? "category").getD ""
  author := (book.string? "author").getD ""
  publishingyear := (book.string? "publishingyear").getD ""
  publishingcompany := (book.string? "publishingcompany").getD ""
  dateadded := (book.string? "dateadded").getD ""
  quantity := (book.string? "quantity").getD ""

theorem viewDidLoad_eq_ok {opened : BookForm} :
    viewDidLoad d = .ok opened d' ↔
      (∃ ID document, d.temp["ID_current_book"]?.bind Value.string? = some ID ∧
        d.temp[ID]?.bind Value.dictionary? = some document ∧ shows document = opened) ∧ d = d' := by
  simp only [viewDidLoad, Traps.bind_eq_ok, currentDocument_eq_ok, Traps.pure_eq_ok]
  constructor
  · rintro ⟨document, _, ⟨⟨ID, hID, hdoc⟩, rfl⟩, rfl, rfl⟩
    exact ⟨⟨ID, document, hID, hdoc, rfl⟩, rfl⟩
  · rintro ⟨⟨ID, document, hID, hdoc, rfl⟩, rfl⟩
    exact ⟨document, d, ⟨⟨ID, hID, hdoc⟩, rfl⟩, rfl, rfl⟩

/-- The ID field shows the ID of the cached copy. -/
theorem viewDidLoad_ok {opened : BookForm} (h : viewDidLoad d = .ok opened d') :
    d' = d ∧ ∃ ID document, d.temp["ID_current_book"]?.bind Value.string? = some ID ∧
      d.temp[ID]?.bind Value.dictionary? = some document ∧
      opened.bookID = (document.string? "ID").getD "" := by
  obtain ⟨⟨ID, document, hID, hdoc, rfl⟩, rfl⟩ := viewDidLoad_eq_ok.1 h
  exact ⟨rfl, ID, document, hID, hdoc, rfl⟩

/-- Editing keeps the lent count, whatever the quantity. -/
@[simp] theorem currentBook_check (avatarURL : String) (check quantity : ℤ) :
    (currentBook uppercased form avatarURL check quantity).check = check := by
  unfold currentBook
  split <;> rfl

@[simp] theorem currentBook_name (avatarURL : String) (check quantity : ℤ) :
    (currentBook uppercased form avatarURL check quantity).name = uppercased form.bookname := by
  unfold currentBook
  split <;> rfl

@[simp] theorem currentBook_ID (avatarURL : String) (check quantity : ℤ) :
    (currentBook uppercased form avatarURL check quantity).ID = form.bookID := by
  unfold currentBook
  split <;> rfl

/-- Neither the cover nor the status can be edited. -/
@[simp] theorem currentBook_avatarURL (avatarURL : String) (check quantity : ℤ) :
    (currentBook uppercased form avatarURL check quantity).avatarURL = avatarURL := by
  unfold currentBook
  split <;> rfl

@[simp] theorem currentBook_status (avatarURL : String) (check quantity : ℤ) :
    (currentBook uppercased form avatarURL check quantity).status = 1 := by
  unfold currentBook
  split <;> rfl

/-- A quantity below the lent count is stored as zero. -/
@[simp] theorem currentBook_quantity (avatarURL : String) (check quantity : ℤ) :
    (currentBook uppercased form avatarURL check quantity).quantity
      = if quantity < check then 0 else quantity := by
  unfold currentBook
  split <;> rfl

/-- The confirm button stores the form with the cached cover and lent count. -/
theorem confirmButton_eq_ok {u : Unit} :
    confirmButton uppercased form d = .ok u d' ↔
      ∃ ID document avatarURL check quantity,
        d.temp["ID_current_book"]?.bind Value.string? = some ID ∧
        d.temp[ID]?.bind Value.dictionary? = some document ∧
        document.string? "avatarURL" = some avatarURL ∧ document.int? "check" = some check ∧
        Swift.int? form.quantity = some quantity ∧ IsDocumentPath ID ∧
        { d with writes := d.writes ++ [.setAt .books ID
          (currentBook uppercased form avatarURL check quantity).detail] } = d' := by
  simp only [confirmButton, Book.updateDetail, setData, Traps.bind_eq_ok, currentDocument_eq_ok,
    forced_eq_ok, Traps.cast_eq_ok, Traps.unwrap_eq_ok, document_eq_ok, write_eq_ok, and_assoc,
    exists_and_left, exists_eq_left']
  constructor
  · rintro ⟨document, ⟨ID, hID, hdoc⟩, avatarURL, havatar, check, hcheck, quantity, hquantity, ID',
      hID', hvalid, rfl⟩
    obtain rfl := Option.some.inj (hID.symm.trans hID')
    exact ⟨ID, hID, document, hdoc, avatarURL, havatar, check, hcheck, quantity, hquantity, hvalid,
      rfl⟩
  · rintro ⟨ID, hID, document, hdoc, avatarURL, havatar, check, hcheck, quantity, hquantity, hvalid,
      rfl⟩
    exact ⟨document, ⟨ID, hID, hdoc⟩, avatarURL, havatar, check, hcheck, quantity, hquantity, ID,
      hID, hvalid, rfl⟩

end EditInfoBookViewController

end LibraryManagement
