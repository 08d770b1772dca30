import LibraryManagement.Lib.Transition
import LibraryManagement.VisitsTheorems

/-!
# Conservation of lent copies

The lent count of a book is kept by hand in `Books` while the cards live in `BorrowCard`.
`Conserved` says that the two agree: `check` is the number of open cards that name the book.

A run from the empty library keeps it as long as no visit breaks the bookkeeping
(`Visit.KeepsCount`): a book with an open card is not added again, a book is lent under its own
id, and a card is closed only while it is open, with its book in the form. None of this is checked
by the code: adding a book resets its count, and closing a closed card lowers the count again.
-/

namespace LibraryManagement

open Transition

/-! ## Counting open cards -/

/-- The card is open and names the book `id`. -/
def IsOpenCard (id : String) (card : Document) : Bool :=
  card.string? "ID_book" = some id ∧ card.string? "status" = some "1"

/-- The number of open cards of the book `id`. -/
def openCards (db : Database) (id : String) : ℕ := (db .borrowCard).countValues (IsOpenCard id)

/-- Every stored book's lent count is the number of its open cards. -/
def Conserved (db : Database) : Prop :=
  ∀ (id : String) (book : Document), (db .books)[id]? = some book →
    book.int? "check" = some (openCards db id : ℤ)

theorem isOpenCard_new (card : BorrowCard) (id : String) (hstatus : card.status = 1) :
    IsOpenCard id (Document.merge ∅ card.data) = decide (card.idBook = id) := by
  have hone : Swift.description 1 = "1" := rfl
  simp [IsOpenCard, BorrowCard.data, Document.merge_cons, hstatus, hone]

/-- A closed card is not open. -/
theorem isOpenCard_closed (card : Document) (id endedDay : String) :
    IsOpenCard id (card.merge [("endedDay", .string endedDay), ("status", .string "0")]) = false := by
  simp [IsOpenCard, Document.merge_cons]

/-- Lending adds one open card, of the book that was lent. -/
theorem openCards_insert {db db' : Database} {autoID : String} {card : BorrowCard}
    (hfresh : autoID ∉ db .borrowCard) (hstatus : card.status = 1)
    (hcards : db' .borrowCard = (db .borrowCard).insert autoID (Document.merge ∅ card.data))
    (id : String) :
    openCards db' id = openCards db id + if card.idBook = id then 1 else 0 := by
  have hnone : (db .borrowCard)[autoID]? = none := Std.ExtTreeMap.getElem?_eq_none hfresh
  rw [openCards, hcards, Std.ExtTreeMap.countValues_insert_of_none _ _ hnone,
    isOpenCard_new _ _ hstatus, openCards]
  simp

/-- Closing a card takes it from the open cards of its book, if it was one. -/
theorem openCards_close {db db' : Database} {cardID endedDay : String} {card : Document}
    (hcard : (db .borrowCard)[cardID]? = some card)
    (hcards : db' .borrowCard = (db .borrowCard).override cardID
      [("endedDay", .string endedDay), ("status", .string "0")])
    (id : String) :
    openCards db' id + (if IsOpenCard id card then 1 else 0) = openCards db id := by
  have hcount := Std.ExtTreeMap.countValues_insert_of_some (IsOpenCard id)
    (card.merge [("endedDay", .string endedDay), ("status", .string "0")]) hcard
  rw [isOpenCard_closed] at hcount
  rw [openCards, hcards, Collection.override, hcard]
  exact hcount

/-- The open cards depend on the cards only. -/
theorem openCards_congr {db db' : Database} (hcards : db' .borrowCard = db .borrowCard)
    (id : String) : openCards db' id = openCards db id := by
  rw [openCards, hcards, openCards]

/-! ## The visits that keep the count -/

/-- A borrow picks an entry that names a stored book, whose availability is then checked. -/
def Visit.Checked (c : Client) : Visit → Prop
  | .borrow _ row _ _ => ∀ id ∈ Visits.picked c.db row, (c.db.read .books id).isSome
  | _ => True

/-- A book with an open card is not added again, under any text that names it, unless the add is
refused. A borrow picks an entry that begins with the id of a stored book. A card is closed while it
is open, with a text in the form that names its book. -/
def Visit.KeepsCount (uppercased : String → String) (c : Client) : Visit → Prop
  | .addBook form answered =>
    AddBooksViewController.Incomplete form ∨
      Visits.NameTaken c.db (uppercased form.bookname) answered ∨
      ∀ id ∈ CollectionName.books.id? form.bookID, openCards c.db id = 0
  | .editBook _ _ => True
  | .borrow _ row _ _ => ∀ id ∈ Visits.picked c.db row, id ∈ c.db .books
  | .editCard _ id final =>
    final.statusIsOn = true ∨
      ∀ card ∈ (c.db .borrowCard)[id]?, card.Carries "status" "1" ∧ IsBookOf card final.bookID

/-- An open card whose book is named is one of that book. -/
theorem isOpenCard_of_isBookOf {card : Document} {idBook text : String}
    (hidBook : card.string? "ID_book" = some idBook)
    (h : card.Carries "status" "1" ∧ IsBookOf card text) :
    IsOpenCard idBook card = true ∧
      CollectionName.books.document text = CollectionName.books.document idBook := by
  obtain ⟨hstatus, -, own, hown, hsame⟩ := h
  obtain rfl : idBook = own := Option.some.inj (hidBook.symm.trans hown)
  exact ⟨decide_eq_true ⟨hidBook, hstatus⟩, hsame⟩

/-- What the guarded visits preserve: only stored books have open cards. -/
structure Balanced (db : Database) : Prop where
  addressed : db.Addressed
  conserved : Conserved db
  referenced : ∀ id, (db .books)[id]? = none → openCards db id = 0

theorem balanced_empty : Balanced Database.empty where
  addressed := Database.addressed_empty
  conserved id book hbook := by simp [Database.empty] at hbook
  referenced id _ := Std.ExtTreeMap.countValues_eq_zero.2 fun k v hkv => by
    simp [Database.empty] at hkv

/-- The book of an open card is stored. -/
theorem Balanced.stored_of_open {db : Database} (hdb : Balanced db) {id idBook : String}
    {card : Document} (hcard : (db .borrowCard)[id]? = some card)
    (hopen : IsOpenCard idBook card = true) : ∃ book, (db .books)[idBook]? = some book := by
  refine Option.ne_none_iff_exists'.1 fun hnone => ?_
  have hclosed := Std.ExtTreeMap.countValues_eq_zero.1 (hdb.referenced _ hnone) id card hcard
  rw [hopen] at hclosed
  cases hclosed

/-- Conservation is about the books and the cards only. -/
theorem Balanced.congr {db db' : Database} (hdb : Balanced db) (ha : db'.Addressed)
    (hcards : db' .borrowCard = db .borrowCard) (hbooks : db' .books = db .books) :
    Balanced db' where
  addressed := ha
  conserved id book hbook := by
    rw [openCards_congr hcards]
    exact hdb.conserved id book (hbooks ▸ hbook)
  referenced id hnone := by
    rw [openCards_congr hcards]
    exact hdb.referenced id (hbooks ▸ hnone)

/-- The count of one book and the open cards may move together. -/
theorem Balanced.of_override {db db' : Database} {id : String} {data : List (String × FieldValue)}
    (hdb : Balanced db) (ha : db'.Addressed) (hbooks : db' .books = (db .books).override id data)
    (hself : Document.int? ((((db .books)[id]?).getD ∅).merge data) "check"
      = some (openCards db' id : ℤ))
    (hother : ∀ a, id ≠ a → openCards db' a = openCards db a) : Balanced db' := by
  refine ⟨ha, ?_, ?_⟩
  · rw [Conserved, hbooks]
    refine Std.ExtTreeMap.forall_getElem?_insert hself fun a book hne hbook => ?_
    rw [hdb.conserved a book hbook, hother a hne.symm]
  · intro a hnone
    rw [hbooks, Collection.getElem?_override] at hnone
    split at hnone
    · cases hnone
    · next hne => rw [hother a hne, hdb.referenced a hnone]

/-! ## One visit -/

section

variable {uppercased : String → String} {c c' : Client}

theorem balanced_addBook {form : BookForm} {answered : List String} (hc : Balanced c.db)
    (hkeeps : Visit.KeepsCount uppercased c (.addBook form answered))
    (h : Visit.step uppercased c (.addBook form answered) = some c') : Balanced c'.db := by
  have ha := Visit.addressed_step hc.addressed h
  obtain ⟨-, hdb⟩ | ⟨hcomplete, hfree, hID, quantity, -, hcards, hbooks⟩ :=
    Visit.step_addBook h
  · rwa [hdb]
  obtain hincomplete | htaken | hnone := hkeeps
  · exact absurd hincomplete hcomplete
  · exact absurd htaken hfree
  · rcases Database.overrideAt_cases hID _ with ⟨id, -, hid, hbook⟩ | ⟨-, hsame⟩
    · refine hc.of_override ha (hbooks.trans hbook) ?_ fun a _ => openCards_congr hcards a
      rw [openCards_congr hcards, hnone id hid]
      simp [AddBooksViewController.newBook, Book.newData, Document.merge_cons]
    · exact hc.congr ha hcards (hbooks.trans hsame)

theorem balanced_editBook {row : ℕ} {form : BookForm} (hc : Balanced c.db)
    (h : Visit.step uppercased c (.editBook row form) = some c') : Balanced c'.db := by
  have ha := Visit.addressed_step hc.addressed h
  obtain ⟨id, book, _, -, hbook, -, ⟨-, hdb⟩ | ⟨-, -, avatarURL, check, quantity, -, hcheck, -,
    hcards, hbooks⟩⟩ := Visit.step_editBook hc.addressed h
  · rwa [hdb]
  · refine hc.of_override ha hbooks ?_ fun a _ => openCards_congr hcards a
    have hcount := hc.conserved id book hbook
    rw [hcheck] at hcount
    rw [openCards_congr hcards, ← hcount, hbook]
    simp [Book.detail, Document.merge_cons]

theorem balanced_borrow {student : CurrentStudent} {row : ℕ} {startedDay autoID : String}
    (hc : Balanced c.db)
    (hkeeps : Visit.KeepsCount uppercased c (.borrow student row startedDay autoID))
    (h : Visit.step uppercased c (.borrow student row startedDay autoID) = some c') :
    Balanced c'.db := by
  have ha := Visit.addressed_step hc.addressed h
  obtain hdb | ⟨id, check, card, hfresh, -, hpicked, -, -, rfl, hstatus, hread, -, hcards,
    hbooks⟩ := Visit.step_borrow h
  · rwa [hdb]
  -- The picked id is that of the book, which the screen has read and sets.
  have hid : IsDocumentID card.idBook := hc.addressed _ _ (hkeeps _ hpicked)
  obtain ⟨book, hstored⟩ := Std.ExtTreeMap.mem_iff_exists_getElem?.1 (hkeeps _ hpicked)
  have hcount := hc.conserved _ book hstored
  rw [← Database.read_of_isDocumentID hid] at hstored
  rw [← Visits.countRead_of_stored c.temp hstored, hread, Option.some.injEq] at hcount
  have hopen := openCards_insert hfresh hstatus hcards
  rw [Database.overrideAt_of_isDocumentID hid] at hbooks
  refine hc.of_override ha hbooks ?_ fun a hne => by rw [hopen, if_neg hne, Nat.add_zero]
  rw [hopen, if_pos rfl, hcount]
  simp [Document.merge_cons]

theorem balanced_editCard {student : CurrentStudent} {id : String}
    {final : EditBorrowCardViewController.Screen} (hc : Balanced c.db)
    (hkeeps : Visit.KeepsCount uppercased c (.editCard student id final))
    (h : Visit.step uppercased c (.editCard student id final) = some c') : Balanced c'.db := by
  have ha := Visit.addressed_step hc.addressed h
  obtain ⟨-, hcards, hbooks⟩ | ⟨hoff, card, idBook, check, hcard, hidBook, -, -, hcheck, hcards,
    hbooks⟩ := Visit.step_editCard hc.addressed h
  · exact hc.congr ha hcards hbooks
  obtain hon | hopen := hkeeps
  · rw [hoff] at hon
    cases hon
  obtain ⟨hopen, hnames⟩ := isOpenCard_of_isBookOf hidBook (hopen card hcard)
  have hclose := openCards_close hcard hcards
  -- The card is open, so its book is stored and lent at least once.
  have hlent := hclose idBook
  rw [hopen, if_pos rfl] at hlent
  obtain ⟨book, hbook⟩ := hc.stored_of_open hcard hopen
  have hid : IsDocumentID idBook := hc.addressed _ _ (Std.ExtTreeMap.mem_of_getElem? hbook)
  have hcount := hc.conserved _ book hbook
  rw [← Database.read_of_isDocumentID hid] at hbook
  rw [← Visits.countRead_of_stored c.temp hbook, hcheck, Option.some.injEq] at hcount
  rw [Database.overrideAt_congr hnames, Database.overrideAt_of_isDocumentID hid] at hbooks
  refine hc.of_override ha hbooks ?_ fun a hne => ?_
  · simp only [Document.merge_cons, Document.merge_nil, Document.int?_insert, if_true,
      FieldValue.int?_number, Option.some.injEq]
    omega
  · have hother : IsOpenCard a card = false := by
      refine decide_eq_false fun hopen => hne ?_
      exact Option.some.inj (hidBook.symm.trans hopen.1)
    simpa [hother] using hclose a

end

/-! ## Every run -/

/-- A visit that keeps the count preserves the balance. -/
theorem balanced_step {uppercased : String → String} {c c' : Client} {visit : Visit}
    (hc : Balanced c.db) (hkeeps : visit.KeepsCount uppercased c)
    (h : visit.step uppercased c = some c') : Balanced c'.db := by
  cases visit with
  | addBook form answered => exact balanced_addBook hc hkeeps h
  | editBook row form => exact balanced_editBook hc h
  | borrow student row startedDay autoID => exact balanced_borrow hc hkeeps h
  | editCard student id final => exact balanced_editCard hc hkeeps h

/-- Lent copies are conserved in every run of visits that keep the count. -/
theorem conserved_of_run {uppercased : String → String} {visits : List Visit} {c : Client}
    (h : Run (Guarded (Visit.KeepsCount uppercased) (Steps (Visit.step uppercased)))
      Client.empty visits c) : Conserved c.db :=
  (h.invariant (fun c => Balanced c.db) balanced_empty
    fun _ _ _ hc hstep => balanced_step hc hstep.1 hstep.2).conserved

/-- One copy is added and lent. -/
def Sample.lentOnce :
    Reached (Guarded (Visit.KeepsCount Swift.asciiUppercased) (Steps step)) Client.empty :=
  let added := Reached.start.takeGuarded (.addBook (form "B1" "One" "1") [])
    (by exact .inr (.inr (by decide +kernel))) (by decide +kernel)
  added.takeGuarded (.borrow student 0 "02/06/2020" "K1")
    (show ∀ id ∈ Visits.picked added.state.db 0, id ∈ added.state.db .books by decide +kernel)
    (by decide +kernel)

/-- The copy is taken back, with its book named by another text. -/
def Sample.keepsCount :
    Reached (Guarded (Visit.KeepsCount Swift.asciiUppercased) (Steps step)) Client.empty :=
  lentOnce.takeGuarded (.editCard student "K1" (returned "B1/"))
    (by exact .inr (by decide +kernel)) (by decide +kernel)

theorem conserved_keepsCount : (Sample.keepsCount.state.db .books)["B1"]?.isSome ∧
    Conserved Sample.keepsCount.state.db :=
  ⟨by decide +kernel, conserved_of_run Sample.keepsCount.run⟩

/-- After the copy is taken back, the closed card is confirmed once more. -/
def Sample.closedTwice : Reached (Guarded Visit.Checked (Steps step)) Client.empty :=
  let added := Reached.start.takeGuarded (.addBook (form "B1" "One" "1") []) trivial
    (by decide +kernel)
  let lent := added.takeGuarded (.borrow student 0 "02/06/2020" "K1")
    (show ∀ id ∈ Visits.picked added.state.db 0, (added.state.db.read .books id).isSome by
      decide +kernel)
    (by decide +kernel)
  let closed := lent.takeGuarded (.editCard student "K1" (returned "B1")) trivial
    (by decide +kernel)
  closed.takeGuarded (.editCard student "K1" (returned "B1")) trivial (by decide +kernel)

/-- Confirming the closed card once more lowers the count below the number of open cards. -/
theorem conserved_fails : ¬ ∀ (visits : List Visit) (c : Client),
    Run (Guarded Visit.Checked (Steps (Visit.step Swift.asciiUppercased))) Client.empty visits c →
      Conserved c.db := by
  intro hall
  have hcheck : (Sample.closedTwice.state.db .books)["B1"]?.map (·.int? "check")
      = some (some (-1)) := by decide +kernel
  have hopen : openCards Sample.closedTwice.state.db "B1" = 0 := by decide +kernel
  obtain ⟨book, hbook, hminus⟩ := Option.map_eq_some_iff.1 hcheck
  have hcount := hall _ _ Sample.closedTwice.run "B1" book hbook
  rw [hminus, hopen] at hcount
  exact absurd hcount (by decide)

end LibraryManagement
