import LibraryManagement.Stock
import LibraryManagement.Screens.Statistics

/-!
# Well-formed books and referential integrity

Every stored book is to have its ID, a name, a quantity that is a number and a lent count,
and every card is to name a stored book: then no reader traps on a document the app wrote.

Adding a book stores the text that was typed as its ID, which names the document but may differ
from its id. Borrowing and returning address a book by a text: the part of a picker entry before
its first hyphen, and the book-ID field of the edit-card screen. Both write with merge, which
creates a document that has a lent count only when the text names no book. `Integrity` holds
in every run in which books are added under their own ids and the other two texts name stored
books (`Visit.NamesBook`).
-/

namespace LibraryManagement

open Transition

/-- What the readers of the book `id` rely on. -/
structure WellFormed (id : String) (book : Document) : Prop where
  ID : book.string? "ID" = some id
  name : ∃ name, book.string? "name" = some name
  quantity : ∃ quantity, (book.string? "quantity").bind Swift.int? = some quantity
  check : ∃ check, book.int? "check" = some check

/-- Every book is well formed, and every card names a book. -/
structure Integrity (db : Database) : Prop where
  books : ∀ (id : String) (book : Document), (db .books)[id]? = some book → WellFormed id book
  cards : ∀ (cardID : String) (card : Document), (db .borrowCard)[cardID]? = some card →
    ∃ idBook, card.string? "ID_book" = some idBook ∧ idBook ∈ db .books

theorem integrity_empty : Integrity Database.empty where
  books id book hbook := by simp [Database.empty] at hbook
  cards cardID card hcard := by simp [Database.empty] at hcard

/-- A new book is stored under the ID that was typed, if at all; the texts that address a book name
stored books. -/
def Visit.NamesBook (uppercased : String → String) (c : Client) : Visit → Prop
  | .addBook form answered =>
    AddBooksViewController.Incomplete form ∨
      Visits.NameTaken c.db (uppercased form.bookname) answered ∨
      ∀ id ∈ CollectionName.books.id? form.bookID, id = form.bookID
  | .editBook _ _ => True
  | .borrow _ row _ _ => ∀ id ∈ Visits.picked c.db row, id ∈ c.db .books
  | .editCard _ _ final =>
    final.statusIsOn = true ∨ ∀ id ∈ CollectionName.books.id? final.bookID, id ∈ c.db .books

/-! ## One visit -/

/-- The book that a card names was stored, before one more book may be. -/
theorem Integrity.names {db : Database} (hdb : Integrity db) {id cardID : String} {card : Document}
    (hcard : (db .borrowCard)[cardID]? = some card) :
    ∃ idBook, card.string? "ID_book" = some idBook ∧ (idBook ∈ db .books ∨ idBook = id) := by
  obtain ⟨idBook, hidBook, hstored⟩ := hdb.cards cardID card hcard
  exact ⟨idBook, hidBook, .inl hstored⟩

/-- A write to one book keeps the integrity if it leaves a well-formed book and no card loses
its book. -/
theorem Integrity.of_override {db db' : Database} {id : String}
    {data : List (String × FieldValue)} (hdb : Integrity db)
    (hbooks : db' .books = (db .books).override id data)
    (hself : WellFormed id (Document.merge (((db .books)[id]?).getD ∅) data))
    (hcards : ∀ (cardID : String) (card : Document), (db' .borrowCard)[cardID]? = some card →
      ∃ idBook, card.string? "ID_book" = some idBook ∧ (idBook ∈ db .books ∨ idBook = id)) :
    Integrity db' := by
  constructor
  · rw [hbooks]
    exact Std.ExtTreeMap.forall_getElem?_insert hself fun a book _ hbook => hdb.books a book hbook
  · intro cardID card hcard
    obtain ⟨idBook, hidBook, hstored⟩ := hcards cardID card hcard
    refine ⟨idBook, hidBook, ?_⟩
    rw [hbooks, Collection.override, Std.ExtTreeMap.mem_insert]
    obtain hstored | rfl := hstored
    · exact .inr hstored
    · exact .inl Std.ReflCmp.compare_self

/-- Integrity is about the books and the cards only. -/
theorem Integrity.congr {db db' : Database} (hdb : Integrity db)
    (hcards : db' .borrowCard = db .borrowCard) (hbooks : db' .books = db .books) :
    Integrity db' where
  books id book hbook := hdb.books id book (hbooks ▸ hbook)
  cards cardID card hcard := by
    rw [hbooks]
    exact hdb.cards cardID card (hcards ▸ hcard)

/-- The lent count of a well-formed book may change. -/
theorem WellFormed.merge_check {id : String} {book : Document} (hbook : WellFormed id book)
    (check : ℤ) : WellFormed id (book.merge [("check", .number check)]) := by
  obtain ⟨hID, hname, hquantity, -⟩ := hbook
  refine ⟨?_, ?_, ?_, check, ?_⟩
  · simpa [Document.merge_cons] using hID
  · simpa [Document.merge_cons] using hname
  · simpa [Document.merge_cons] using hquantity
  · simp [Document.merge_cons]

section

variable {uppercased : String → String} {c c' : Client}

theorem integrity_addBook {form : BookForm} {answered : List String} (hc : Integrity c.db)
    (hnames : Visit.NamesBook uppercased c (.addBook form answered))
    (h : Visit.step uppercased c (.addBook form answered) = some c') : Integrity c'.db := by
  obtain ⟨-, hdb⟩ | ⟨hcomplete, hfree, hvalid, quantity, hquantity, hcards, hbooks⟩ :=
    Visit.step_addBook h
  · rwa [hdb]
  obtain hincomplete | htaken | hown := hnames
  · exact absurd hincomplete hcomplete
  · exact absurd htaken hfree
  rcases Database.overrideAt_cases hvalid _ with ⟨id, -, hid, hset⟩ | ⟨-, hsame⟩
  · obtain rfl := hown id hid
    have hint := Swift.inInt_of_int? hquantity
    refine hc.of_override (hbooks.trans hset) ?_ fun cardID card hcard => ?_
    · constructor <;>
        simp [AddBooksViewController.newBook, Book.newData, Document.merge_cons, hint]
    · exact hc.names (hcards ▸ hcard)
  · exact hc.congr hcards (hbooks.trans hsame)

theorem integrity_editBook {row : ℕ} {form : BookForm} (ha : c.db.Addressed) (hc : Integrity c.db)
    (h : Visit.step uppercased c (.editBook row form) = some c') : Integrity c'.db := by
  obtain ⟨id, book, name, -, hbook, -, ⟨-, hdb⟩ | ⟨-, -, avatarURL, check, quantity, -, -,
    hquantity, hcards, hbooks⟩⟩ := Visit.step_editBook ha h
  · rwa [hdb]
  have hint := Swift.inInt_of_int? hquantity
  have hstored : Swift.InInt (if quantity < check then 0 else quantity) := by
    split
    · decide
    · exact hint
  have hID := (hc.books id book hbook).ID
  refine hc.of_override hbooks ?_ fun cardID card hcard => ?_
  · constructor <;> simp [Book.detail, Document.merge_cons, hstored, hID]
  · exact hc.names (hcards ▸ hcard)

theorem integrity_borrow {student : CurrentStudent} {row : ℕ} {startedDay autoID : String}
    (ha : c.db.Addressed) (hc : Integrity c.db)
    (hnames : Visit.NamesBook uppercased c (.borrow student row startedDay autoID))
    (h : Visit.step uppercased c (.borrow student row startedDay autoID) = some c') :
    Integrity c'.db := by
  obtain hdb | ⟨id, check, card, -, -, hpicked, -, -, rfl, hstatus, -, -, hcards, hbooks⟩ :=
    Visit.step_borrow h
  · rwa [hdb]
  obtain ⟨book, hbook⟩ := Std.ExtTreeMap.mem_iff_exists_getElem?.1 (hnames _ hpicked)
  rw [Database.overrideAt_of_isDocumentID (ha _ _ (hnames _ hpicked))] at hbooks
  refine hc.of_override hbooks ?_ ?_
  · rw [hbook]
    exact (hc.books _ book hbook).merge_check _
  · rw [hcards]
    refine Std.ExtTreeMap.forall_getElem?_insert ?_ fun cardID card' _ hcard => hc.names hcard
    exact ⟨card.idBook, by simp [BorrowCard.data, Document.merge_cons], .inr rfl⟩

/-- Closing a card leaves every card the book it names. -/
theorem names_of_closed {db db' : Database} {id endedDay a cardID : String} {card card' : Document}
    (hdb : Integrity db) (hcard : (db .borrowCard)[id]? = some card)
    (hcards : db' .borrowCard = (db .borrowCard).override id
      [("endedDay", .string endedDay), ("status", .string "0")])
    (hcard' : (db' .borrowCard)[cardID]? = some card') :
    ∃ idBook, card'.string? "ID_book" = some idBook ∧ (idBook ∈ db .books ∨ idBook = a) := by
  rw [hcards, Collection.getElem?_override, hcard, Option.getD_some] at hcard'
  split at hcard'
  · obtain rfl := Option.some.inj hcard'
    have hnamed : ∃ idBook, card.string? "ID_book" = some idBook ∧
        (idBook ∈ db .books ∨ idBook = a) := hdb.names hcard
    obtain ⟨idBook, hidBook, hstored⟩ := hnamed
    exact ⟨idBook, by simpa [Document.merge_cons] using hidBook, hstored⟩
  · exact hdb.names hcard'

theorem integrity_editCard {student : CurrentStudent} {id : String}
    {final : EditBorrowCardViewController.Screen} (ha : c.db.Addressed) (hc : Integrity c.db)
    (hnames : Visit.NamesBook uppercased c (.editCard student id final))
    (h : Visit.step uppercased c (.editCard student id final) = some c') : Integrity c'.db := by
  obtain ⟨-, hcards, hbooks⟩ | ⟨hoff, card, idBook, check, hcard, hidBook, hvalid, -, -, hcards,
    hbooks⟩ := Visit.step_editCard ha h
  · exact hc.congr hcards hbooks
  -- The switch is off, so the book-ID field names a stored book, or none.
  obtain hon | hstored := hnames
  · rw [hoff] at hon
    cases hon
  rcases Database.overrideAt_cases hvalid _ with ⟨a, -, ha, hset⟩ | ⟨-, hsame⟩
  · obtain ⟨book, hbook⟩ := Std.ExtTreeMap.mem_iff_exists_getElem?.1 (hstored a ha)
    refine hc.of_override (hbooks.trans hset) ?_ fun _ _ => names_of_closed hc hcard hcards
    rw [hbook]
    exact (hc.books _ book hbook).merge_check _
  · refine ⟨fun a book hbook => hc.books a book (hbooks.trans hsame ▸ hbook), ?_⟩
    intro cardID card' hcard'
    obtain ⟨idBook', hidBook', hold⟩ := names_of_closed (a := idBook) hc hcard hcards hcard'
    refine ⟨idBook', hidBook', ?_⟩
    rw [hbooks, hsame]
    rcases hold with hold | rfl
    · exact hold
    · obtain ⟨own, hown, hmem⟩ := hc.cards id card hcard
      exact Option.some.inj (hown.symm.trans hidBook) ▸ hmem

end

/-! ## The readers -/

/-- No reader of the books traps in a cast or an unwrapping. -/
structure ReadersComplete (books : Collection) : Prop where
  /-- The statistics may only overflow. -/
  statistics : Traps.Only {.overflow} (StatisticBooksViewController.viewDidLoad books)
  /-- The book list. -/
  row : ∀ id ∈ books, ∀ d : Device, ∃ shown d',
    ManageBooksViewController.cellDelivery id books[id]? d = .ok shown d'
  /-- The list of the picker. -/
  picker : ∀ d : Device, ∃ d', loadBook books d = .ok () d'
  /-- The availability check. -/
  availability : ∀ (id : String) (s : AddNewBorrowingCardViewController.Screen) (d : Device),
    ∃ s' d', AddNewBorrowingCardViewController.bookAnswer s books[id]? d = .ok s' d'
  /-- The duplicate test of a new book. -/
  duplicate : ∀ (id : String) (book : Book) (d : Device),
    ∃ d', AddBooksViewController.checkNewBookAnswer book books[id]? d = .ok () d'

/-- Summing well-formed books can only overflow. -/
theorem only_add {id : String} {book : Document} (hbook : WellFormed id book) (sums : ℤ × ℤ) :
    Traps.Only {.overflow} (StatisticBooksViewController.add sums book) := by
  obtain ⟨-, -, ⟨quantity, hquantity⟩, check, hcheck⟩ := hbook
  obtain ⟨text, htext, hquantity⟩ := Option.bind_eq_some_iff.1 hquantity
  simp only [StatisticBooksViewController.add, htext, hcheck, hquantity, Traps.cast_some,
    Traps.unwrap_some, pure_bind]
  exact (Traps.only_checked (Set.mem_singleton _) _).bind fun total =>
    (Traps.only_checked (Set.mem_singleton _) _).bind fun check => Traps.only_pure _

variable {books : Collection}

theorem only_statistics (hbooks : ∀ id book, books[id]? = some book → WellFormed id book) :
    Traps.Only {.overflow} (StatisticBooksViewController.viewDidLoad books) := by
  refine (Traps.only_foldlM (fun sums document hmem => ?_) _).bind fun ⟨total, check⟩ =>
    (Traps.only_checked (Set.mem_singleton _) _).bind fun remaining => Traps.only_pure _
  exact only_add (hbooks _ _ (Std.ExtTreeMap.mem_toList_iff_getElem?_eq_some.1 hmem)) sums

/-- The two fields that are unwrapped without a cast. -/
theorem WellFormed.labels {id : String} {book : Document} (hbook : WellFormed id book) :
    ∃ ID name, book["ID"]? = some ID ∧ book["name"]? = some name := by
  obtain ⟨ID, hID, -⟩ := Option.bind_eq_some_iff.1 hbook.ID
  obtain ⟨_, hname⟩ := hbook.name
  obtain ⟨name, hname, -⟩ := Option.bind_eq_some_iff.1 hname
  exact ⟨ID, name, hID, hname⟩

theorem readersComplete_of_wellFormed
    (hbooks : ∀ id book, books[id]? = some book → WellFormed id book) :
    ReadersComplete books := by
  constructor
  · exact only_statistics hbooks
  · intro id hid d
    obtain ⟨book, hbook⟩ := Std.ExtTreeMap.mem_iff_exists_getElem?.1 hid
    obtain ⟨ID, name, hID, hname⟩ := (hbooks id book hbook).labels
    exact ManageBooksViewController.cellDelivery_complete hbook hname hID d
  · intro d
    -- The picker needs an entry for every book.
    obtain ⟨data, hdata⟩ : ∃ data : List String,
        books.toList.map (fun document => bookEntry document.2) = data.map some := by
      refine Traps.exists_map_some fun document hmem => ?_
      obtain ⟨ID, name, hID, hname⟩ :=
        (hbooks _ _ (Std.ExtTreeMap.mem_toList_iff_getElem?_eq_some.1 hmem)).labels
      exact ⟨_, by rw [bookEntry, hID, hname]; rfl⟩
    exact ⟨_, loadBook_eq_ok.2 ⟨data, hdata, rfl⟩⟩
  · intro id s d
    cases hbook : books[id]? with
    | none => exact ⟨s, d, rfl⟩
    | some book =>
      obtain ⟨-, -, ⟨quantity, hquantity⟩, check, hcheck⟩ := hbooks id book hbook
      -- The two branches are a copy left, and none.
      rcases Int.lt_or_le check quantity with hlt | hle
      · exact ⟨_, _, AddNewBorrowingCardViewController.bookAnswer_some_eq_ok.2
          ⟨quantity, check, hquantity, hcheck, .inl ⟨hlt, rfl, rfl⟩⟩⟩
      · exact ⟨_, _, AddNewBorrowingCardViewController.bookAnswer_some_eq_ok.2
          ⟨quantity, check, hquantity, hcheck, .inr ⟨hle, rfl, rfl⟩⟩⟩
  · intro id book d
    cases hdoc : books[id]? with
    | none => exact ⟨d, rfl⟩
    | some document =>
      obtain ⟨name, hname⟩ := (hbooks id document hdoc).name
      by_cases heq : book.name = name
      · exact ⟨_, AddBooksViewController.checkNewBookAnswer_eq_ok.2
          (.inr ⟨document, name, rfl, hname, .inl ⟨heq, rfl⟩⟩)⟩
      · exact ⟨_, AddBooksViewController.checkNewBookAnswer_eq_ok.2
          (.inr ⟨document, name, rfl, hname, .inr ⟨heq, rfl⟩⟩)⟩

/-! ## Every run -/

/-- A visit whose texts name stored books keeps the integrity. -/
theorem integrity_step {uppercased : String → String} {c c' : Client} {visit : Visit}
    (ha : c.db.Addressed) (hc : Integrity c.db) (hnames : visit.NamesBook uppercased c)
    (h : visit.step uppercased c = some c') : Integrity c'.db := by
  cases visit with
  | addBook form answered => exact integrity_addBook hc hnames h
  | editBook row form => exact integrity_editBook ha hc h
  | borrow student row startedDay autoID => exact integrity_borrow ha hc hnames h
  | editCard student id final => exact integrity_editCard ha hc hnames h

/-- In a run whose texts name stored books, every book is well formed, every card names a
book, and the readers complete. -/
theorem integrity_of_run {uppercased : String → String} {visits : List Visit} {c : Client}
    (h : Run (Guarded (Visit.NamesBook uppercased) (Steps (Visit.step uppercased))) Client.empty
      visits c) :
    Integrity c.db ∧ ReadersComplete (c.db .books) := by
  have hc : c.db.Addressed ∧ Integrity c.db :=
    h.invariant (fun c => c.db.Addressed ∧ Integrity c.db)
      ⟨Database.addressed_empty, integrity_empty⟩ fun _ _ _ hc hstep =>
        ⟨Visit.addressed_step hc.1 hstep.2, integrity_step hc.1 hc.2 hstep.1 hstep.2⟩
  exact ⟨hc.2, readersComplete_of_wellFormed hc.2.books⟩

/-- One copy is added and lent. -/
def Sample.lentWhole :
    Reached (Guarded (Visit.NamesBook Swift.asciiUppercased) (Steps step)) Client.empty :=
  let added := Reached.start.takeGuarded (.addBook (form "B1" "One" "1") [])
    (by exact .inr (.inr (by decide +kernel))) (by decide +kernel)
  added.takeGuarded (.borrow student 0 "02/06/2020" "K1")
    (show ∀ id ∈ Visits.picked added.state.db 0, id ∈ added.state.db .books by decide +kernel)
    (by decide +kernel)

/-- The copy is taken back. -/
def Sample.namesBook :
    Reached (Guarded (Visit.NamesBook Swift.asciiUppercased) (Steps step)) Client.empty :=
  lentWhole.takeGuarded (.editCard student "K1" (returned "/B1"))
    (by exact .inr (by decide +kernel)) (by decide +kernel)

theorem integrity_namesBook : (Sample.namesBook.state.db .books)["B1"]?.isSome ∧
    Integrity Sample.namesBook.state.db ∧ ReadersComplete (Sample.namesBook.state.db .books) :=
  ⟨by decide +kernel, integrity_of_run Sample.namesBook.run⟩

/-- A book whose ID has a hyphen is lent: its count goes to the part before the hyphen. -/
def Sample.misaddressed : Reached (Steps step) Client.empty :=
  let added := Reached.start.take (.addBook (form "A-1" "One" "1") []) (by decide +kernel)
  added.take (.borrow student 0 "02/06/2020" "K1") (by decide +kernel)

/-- Lending a book whose ID has a hyphen stores a document with nothing but a count. -/
theorem integrity_fails : ¬ ∀ (visits : List Visit) (c : Client),
    Run (Steps (Visit.step Swift.asciiUppercased)) Client.empty visits c →
      Integrity c.db ∧ ReadersComplete (c.db .books) := by
  intro hall
  have hpartial : (Sample.misaddressed.state.db .books)["A"]?.map (·.string? "name")
      = some none := by decide +kernel
  obtain ⟨book, hbook, hname⟩ := Option.map_eq_some_iff.1 hpartial
  obtain ⟨name, hname'⟩ := ((hall _ _ Sample.misaddressed.run).1.books "A" book hbook).name
  rw [hname] at hname'
  cases hname'

end LibraryManagement
