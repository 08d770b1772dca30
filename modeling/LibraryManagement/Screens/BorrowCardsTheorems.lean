import LibraryManagement.Screens.BorrowCards

/-!
# What the handlers of the borrowing-card screens do

One lemma for each handler that completed: what it read, what it left in `UserDefaults` and
which writes it handed to Firestore.
-/

namespace LibraryManagement

open Handler

variable {d d' : Device}

namespace AddNewBorrowingCardViewController

variable {s s' : Screen}

/-- The current student is the document cached under the id of the row that was tapped. -/
@[simp] theorem currentStudent_eq_ok {document : Document} :
    currentStudent d = .ok document d' ↔
      (∃ ID, d.temp["ID_current_student"]?.bind Value.string? = some ID ∧
        d.temp[ID]?.bind Value.dictionary? = some document) ∧ d = d' := by
  simp only [currentStudent, Traps.bind_eq_ok, forced_eq_ok, and_assoc, exists_and_left,
    exists_eq_left']
  simp only [← exists_and_right, and_assoc]

/-- A screen opens with its button enabled. -/
theorem viewDidLoad_ok (h : viewDidLoad d = .ok s d') :
    d' = d ∧ s.confirmEnabled = true ∧ s.id = "" := by
  simp only [viewDidLoad, Traps.bind_eq_ok, currentStudent_eq_ok, Traps.pure_eq_ok, and_assoc,
    exists_and_left, exists_eq_left'] at h
  obtain ⟨_, -, rfl, rfl⟩ := h
  exact ⟨rfl, rfl, rfl⟩

@[simp] theorem didSelectRow_eq_ok {row : ℕ} :
    didSelectRow row s d = .ok s' d' ↔
      (∃ data entry, d.temp["listBook"]?.bind Value.strings? = some data ∧
        data[row]? = some entry ∧ { s with idBook := entry } = s') ∧ d = d' := by
  simp only [didSelectRow, Traps.bind_eq_ok, forced_eq_ok, Traps.index_eq_ok, Traps.pure_eq_ok,
    and_assoc, exists_and_left, exists_eq_left']
  simp only [← exists_and_right, ← exists_and_left, and_assoc]

/-- Opening the picker selects its first row. -/
theorem bookAction_eq (s : Screen) : bookAction s = didSelectRow 0 s := rfl

/-- Unless the field is empty, the text before the first hyphen names the book to read. -/
theorem bookIDAction_eq_ok {asked : Option String} :
    bookIDAction s d = .ok (s', asked) d' ↔ d = d' ∧
      (s.idBook = "" ∧ s' = s ∧ asked = none ∨
        s.idBook ≠ "" ∧ ∃ id bookName, (Swift.components '-' s.idBook)[0]? = some id ∧
          (Swift.components '-' s.idBook)[1]? = some bookName ∧ IsDocumentPath id ∧
          s' = { s with id := id, bookName := bookName } ∧ asked = some id) := by
  unfold bookIDAction
  split
  · next h =>
    simp only [Traps.bind_eq_ok, Traps.index_eq_ok, document_eq_ok, Traps.pure_eq_ok,
      Prod.mk.injEq]
    constructor
    · rintro ⟨id, _, ⟨hid, rfl⟩, bookName, _, ⟨hname, rfl⟩, _, _, ⟨hdoc, rfl, rfl⟩,
        ⟨rfl, rfl⟩, rfl⟩
      exact ⟨rfl, .inr ⟨h, id, bookName, hid, hname, hdoc, rfl, rfl⟩⟩
    · rintro ⟨rfl, ⟨hempty, -⟩ | ⟨-, id, bookName, hid, hname, hdoc, rfl, rfl⟩⟩
      · exact absurd hempty h
      · exact ⟨id, d, ⟨hid, rfl⟩, bookName, d, ⟨hname, rfl⟩, id, d, ⟨hdoc, rfl, rfl⟩,
          ⟨rfl, rfl⟩, rfl⟩
  · next h =>
    rw [not_not] at h
    simp only [Traps.pure_eq_ok, Prod.mk.injEq]
    constructor
    · rintro ⟨⟨rfl, rfl⟩, rfl⟩
      exact ⟨rfl, .inl ⟨h, rfl, rfl⟩⟩
    · rintro ⟨rfl, ⟨-, rfl, rfl⟩ | ⟨hne, -⟩⟩
      · exact ⟨⟨rfl, rfl⟩, rfl⟩
      · exact absurd h hne

/-- A book with a copy left enables the button and passes its lent count on. -/
theorem bookAnswer_some_eq_ok {document : Document} :
    bookAnswer s (some document) d = .ok s' d' ↔
      ∃ quantity check, (document.string? "quantity").bind Swift.int? = some quantity ∧
        document.int? "check" = some check ∧
        (check < quantity ∧ d' = { d with temp := d.temp.insert "check" (.int check) } ∧
            s' = { s with
              notice := some "* This book is available to borrow", confirmEnabled := true } ∨
          quantity ≤ check ∧ d' = d ∧
            s' = { s with notice := some "* No available book in library", confirmEnabled := false }) := by
  simp only [bookAnswer, Traps.bind_eq_ok, Traps.cast_eq_ok, Traps.unwrap_eq_ok,
    Option.bind_eq_some_iff, and_assoc, exists_and_left, exists_eq_left']
  constructor
  · rintro ⟨text, htext, quantity, hquantity, check, hcheck, hrest⟩
    refine ⟨quantity, ⟨text, htext, hquantity⟩, check, hcheck, ?_⟩
    -- A copy is left, or the button is disabled.
    split at hrest
    · next hlt =>
      simp only [Traps.bind_eq_ok, set_eq_ok, Traps.pure_eq_ok] at hrest
      obtain ⟨_, _, rfl, rfl, rfl⟩ := hrest
      exact .inl ⟨hlt, rfl, rfl⟩
    · next hlt =>
      obtain ⟨rfl, rfl⟩ := Traps.pure_eq_ok.1 hrest
      exact .inr ⟨Int.not_lt.1 hlt, rfl, rfl⟩
  · rintro ⟨quantity, ⟨text, htext, hquantity⟩, check, hcheck, hrest⟩
    refine ⟨text, htext, quantity, hquantity, check, hcheck, ?_⟩
    rcases hrest with ⟨hlt, rfl, rfl⟩ | ⟨hle, rfl, rfl⟩
    · rw [if_pos hlt, Traps.bind_eq_ok]
      exact ⟨(), _, set_eq_ok.2 rfl, rfl⟩
    · rw [if_neg (Int.not_lt.2 hle)]
      exact Traps.pure_eq_ok.2 ⟨rfl, rfl⟩

@[simp] theorem bookAnswer_none_eq_ok :
    bookAnswer s none d = .ok s' d' ↔ s = s' ∧ d = d' := Traps.pure_eq_ok

/-- The card an open screen stores. -/
def Screen.card (s : Screen) : BorrowCard where
  idStudent := s.idStudent
  idBook := s.id
  bookName := s.bookName
  startedDay := s.startedDay

@[simp] theorem confirmAction_eq_ok {autoID : String} {u : Unit} :
    confirmAction s autoID d = .ok u d' ↔
      { d with writes := d.writes ++ [.addDocument .borrowCard autoID s.card.data] } = d' :=
  write_eq_ok

@[simp] theorem okAction_eq_ok {u : Unit} :
    okAction s d = .ok u d' ↔ IsDocumentPath s.id ∧
      ∃ check, d.temp["check"]?.bind Value.int? = some check ∧ Swift.InInt (check + 1) ∧
        { d with writes := d.writes ++
          [.setAt .books s.id [("check", .number (check + 1))]] } = d' := by
  simp only [okAction, Traps.bind_eq_ok, document_eq_ok, forced_eq_ok, Traps.checked_eq_ok,
    Swift.add?, Swift.inRange?_eq_some, write_eq_ok, and_assoc, exists_and_left, exists_eq_left']

end AddNewBorrowingCardViewController

namespace EditBorrowCardViewController

variable {s : Screen}

/-- An answer touches only the count: it becomes that of the book, if the book exists. -/
theorem bookAnswer_ok {document : Option Document} {u : Unit}
    (h : bookAnswer document d = .ok u d') :
    d'.writes = d.writes ∧ (∀ key, key ≠ "check" → d'.temp[key]? = d.temp[key]?) ∧
      (document = none → d'.temp["check"]? = d.temp["check"]?) ∧
      ∀ book, document = some book → d'.temp["check"]? = book["check"]?.map Value.ofField := by
  cases document with
  | none =>
    obtain ⟨-, rfl⟩ := Traps.pure_eq_ok.1 h
    exact ⟨rfl, fun _ _ => rfl, fun _ => rfl, by simp⟩
  | some book =>
    obtain rfl := set_eq_ok.1 h
    refine ⟨rfl, fun key hkey => ?_, by simp, fun book' hbook' => ?_⟩
    · cases book["check"]? with
      | none => simp [Std.ExtTreeMap.getElem?_erase, hkey.symm]
      | some v => simp [UserDefaults.getElem?_insert, hkey.symm]
    · obtain rfl := Option.some.inj hbook'
      cases book["check"]? with
      | none => simp
      | some v => simp

/-- What the confirm button of the screen hands to Firestore. -/
theorem confirmButton_eq_ok {u : Unit} :
    confirmButton s d = .ok u d' ↔
      ∃ ID, d.temp["ID_current_bc"]?.bind Value.string? = some ID ∧ IsDocumentPath ID ∧
        (s.statusIsOn = true ∧ { d with writes := d.writes ++
            [.setAt .cities ID [("endedDay", .string s.endedDay)]] } = d' ∨
          s.statusIsOn = false ∧ IsDocumentPath s.bookID ∧
            ∃ check, d.temp["check"]?.bind Value.int? = some check ∧ Swift.InInt (check - 1) ∧
              { d with writes := d.writes ++ [
                .setAt .borrowCard ID [("endedDay", .string s.endedDay), ("status", .string "0")],
                .setAt .books s.bookID [("check", .number (check - 1))]] } = d') := by
  simp only [confirmButton, setData]
  cases s.statusIsOn with
  | true =>
    simp only [Bool.true_eq_false, if_false, Traps.bind_eq_ok, forced_eq_ok, document_eq_ok,
      write_eq_ok, and_assoc, exists_and_left, exists_eq_left', true_and, false_and, or_false]
  | false =>
    simp only [if_true, Traps.bind_eq_ok, document_eq_ok, write_eq_ok, forced_eq_ok,
      Traps.checked_eq_ok, Swift.sub?, Swift.inRange?_eq_some, and_assoc, exists_and_left,
      exists_eq_left', true_and, false_and, false_or, Bool.false_eq_true, List.append_assoc,
      List.cons_append, List.nil_append, exists_const]

/-- The form shows the texts of the cached card, and the book of the card is read. -/
theorem viewDidLoad_ok {asked : String} (h : viewDidLoad d = .ok (s, asked) d') :
    d' = d ∧ asked = s.bookID ∧ IsDocumentPath asked ∧
      ∃ ID card status, d.temp["ID_current_bc"]?.bind Value.string? = some ID ∧
        d.temp[ID]?.bind Value.dictionary? = some card ∧
        card.string? "ID_book" = some s.bookID ∧ card.string? "status" = some status ∧
        s.statusIsOn = decide (status = "1") := by
  simp only [viewDidLoad, Traps.bind_eq_ok, forced_eq_ok, Traps.cast_eq_ok, document_eq_ok,
    Traps.pure_eq_ok, Prod.mk.injEq, and_assoc, exists_and_left, exists_eq_left'] at h
  obtain ⟨-, -, -, -, ID, hID, card, hcard, -, -, -, -, bookID, hbook, -, -, -, -, -, -, status, hstatus,
    hdoc, rfl, rfl, rfl⟩ := h
  exact ⟨rfl, rfl, hdoc, ID, card, status, hID, hcard, hbook, hstatus, rfl⟩

end EditBorrowCardViewController

end LibraryManagement
