import LibraryManagement.Visits
import LibraryManagement.Screens.BooksTheorems
import LibraryManagement.Screens.BorrowCardsTheorems
import LibraryManagement.Screens.ListsTheorems

/-!
# What a whole visit does to the database

One case lemma for each visit: the writes it hands to Firestore and what it read for them.
Every invariant of the visits is a case analysis over these.
-/

namespace LibraryManagement

open Handler

theorem Client.perform_eq_some {c c' : Client} {h : Handler Unit} :
    c.perform h = some c' ↔
      ∃ d, h ⟨c.temp, []⟩ = .ok () d ∧ c' = ⟨d.temp, Write.applyAll c.db d.writes⟩ := by
  unfold Client.perform
  cases h ⟨c.temp, []⟩ with
  | ok u d => simp [eq_comm]
  | error e d => simp

theorem Client.run_eq_some {α : Type} {c : Client} {h : Handler α} {r : α × Client} :
    c.run h = some r ↔
      ∃ d, h ⟨c.temp, []⟩ = .ok r.1 d ∧ r.2 = ⟨d.temp, Write.applyAll c.db d.writes⟩ := by
  obtain ⟨a, c'⟩ := r
  unfold Client.run
  cases h ⟨c.temp, []⟩ with
  | ok b d => simp [eq_comm]
  | error e d => simp

/-- A step that runs a handler and goes on with its result. -/
theorem Client.map_run_eq_some {α β : Type} {c : Client} {h : Handler α} {f : α × Client → β}
    {b : β} :
    (c.run h).map f = some b ↔
      ∃ a d, h ⟨c.temp, []⟩ = .ok a d ∧ f (a, ⟨d.temp, Write.applyAll c.db d.writes⟩) = b := by
  constructor
  · intro hmap
    obtain ⟨⟨a, c'⟩, hrun, hb⟩ := Option.map_eq_some_iff.1 hmap
    obtain ⟨d, hd, rfl⟩ := Client.run_eq_some.1 hrun
    exact ⟨a, d, hd, hb⟩
  · rintro ⟨a, d, hd, hb⟩
    exact Option.map_eq_some_iff.2 ⟨_, Client.run_eq_some.2 ⟨d, hd, rfl⟩, hb⟩

namespace Visits

variable {uppercased : String → String} {db : Database} {d d' : Device}

/-- The count a visit works with after its read of the book `id`: that of the book, or what
`UserDefaults` held before if there is no such book. -/
def countRead (temp : UserDefaults) (db : Database) (id : String) : Option ℤ :=
  match db.read .books id with
  | some book => book.int? "check"
  | none => temp["check"]?.bind Value.int?

theorem countRead_of_stored (temp : UserDefaults) {id : String} {book : Document}
    (h : db.read .books id = some book) : countRead temp db id = book.int? "check" := by
  rw [countRead, h]

/-! ## Adding a book -/

/-- Some document of `ids` is a book of this name. -/
def NameTaken (db : Database) (name : String) (ids : List String) : Prop :=
  ∃ id ∈ ids, ∃ document, (db .books)[id]? = some document ∧ document.string? "name" = some name

theorem nameTaken_cons {name id : String} {ids : List String} :
    NameTaken db name (id :: ids) ↔
      (∃ document, (db .books)[id]? = some document ∧ document.string? "name" = some name) ∨
        NameTaken db name ids := by
  simp [NameTaken]

/-- Only listed ids have a document. -/
theorem nameTaken_filter_keys {name : String} {ids : List String} :
    NameTaken db name (ids.filter (· ∈ (db .books).keys)) ↔ NameTaken db name ids := by
  constructor
  · rintro ⟨id, hid, hdoc⟩
    exact ⟨id, (List.mem_filter.1 hid).1, hdoc⟩
  · rintro ⟨id, hid, document, hdoc, hname⟩
    have hkey : id ∈ (db .books).keys :=
      Std.ExtTreeMap.mem_keys.2 (Std.ExtTreeMap.mem_of_getElem? hdoc)
    exact ⟨id, List.mem_filter.2 ⟨hid, decide_eq_true hkey⟩, document, hdoc, hname⟩

/-- The answers raise the flag if one of them brings a book of the tested name. -/
theorem answers_ok {book : Book} {ids : List String} {u : Unit}
    (h : answers db book ids d = .ok u d') :
    d'.writes = d.writes ∧
      (NameTaken db book.name ids ∧ d'.temp["check"]? = some (.bool true) ∨
        ¬ NameTaken db book.name ids ∧ d'.temp = d.temp) := by
  induction ids generalizing d with
  | nil =>
    obtain ⟨-, rfl⟩ := Traps.pure_eq_ok.1 h
    exact ⟨rfl, .inr ⟨by simp [NameTaken], rfl⟩⟩
  | cons id ids ih =>
    obtain ⟨_, d₁, hfirst, hrest⟩ := Traps.bind_eq_ok.1 h
    obtain ⟨hwrites, hflag⟩ := ih hrest
    rw [nameTaken_cons]
    rcases AddBooksViewController.checkNewBookAnswer_eq_ok.1 hfirst with
      ⟨hnone, rfl⟩ | ⟨document, name, hsome, hname, ⟨rfl, rfl⟩ | ⟨hne, rfl⟩⟩
    · refine ⟨hwrites, hflag.imp (fun hf => ⟨.inr hf.1, hf.2⟩) fun hf => ⟨?_, hf.2⟩⟩
      simp [hnone, hf.1]
    · refine ⟨hwrites, .inl ⟨.inl ⟨document, hsome, hname⟩, ?_⟩⟩
      rcases hflag with ⟨-, hup⟩ | ⟨-, hsame⟩
      · exact hup
      · rw [hsame, UserDefaults.getElem?_insert, if_pos rfl]
    · refine ⟨hwrites, hflag.imp (fun hf => ⟨.inr hf.1, hf.2⟩) fun hf => ⟨?_, hf.2⟩⟩
      rintro (⟨document', hdoc', hname'⟩ | htaken)
      · obtain rfl := Option.some.inj (hsome.symm.trans hdoc')
        exact hne (Option.some.inj (hname'.symm.trans hname))
      · exact hf.1 htaken

/-- An add writes nothing, or the new book and its cover. -/
theorem addBook_cases {form : BookForm} {answered : List String}
    (h : addBook uppercased db form answered d = .ok () d') :
    (AddBooksViewController.Incomplete form ∨ NameTaken db (uppercased form.bookname) answered) ∧
        d'.writes = d.writes ∨
      ¬ AddBooksViewController.Incomplete form ∧
        ¬ NameTaken db (uppercased form.bookname) answered ∧ IsDocumentPath form.bookID ∧
        ∃ quantity, Swift.int? form.quantity = some quantity ∧
          d'.writes = d.writes ++ [
            .setAt .books form.bookID
              (AddBooksViewController.newBook uppercased form quantity).newData,
            .updateAt .books form.bookID
              [("avatarURL", .string (AddBooksViewController.coverURL form.bookID))]] := by
  simp only [addBook, Traps.bind_eq_ok, loadBookData_eq_ok, exists_const, exists_eq_left'] at h
  obtain ⟨book, d₁, hconfirm, hrest⟩ := h
  rcases AddBooksViewController.confirmButton_eq_ok.1 hconfirm with
    ⟨hincomplete, rfl, rfl⟩ | ⟨hcomplete, quantity, hquantity, rfl, rfl⟩
  · obtain ⟨-, rfl⟩ := Traps.pure_eq_ok.1 hrest
    exact .inl ⟨.inl hincomplete, rfl⟩
  simp only [Traps.bind_eq_ok, AddBooksViewController.checkNewBook_eq_ok,
    AddBooksViewController.readFlag_eq_ok, and_assoc, exists_and_left, exists_eq_left'] at hrest
  obtain ⟨ids, hids, -, _, d₂, hanswers, flag, hflag, hrest⟩ := hrest
  simp only [UserDefaults.getElem?_insert, String.reduceEq, if_false, if_true, Option.bind_some,
    Value.strings?_strings, Option.some.injEq] at hids
  subst hids
  obtain ⟨hwrites, hanswered⟩ := answers_ok hanswers
  rw [nameTaken_filter_keys] at hanswered
  rcases hanswered with ⟨htaken, hup⟩ | ⟨hfree, hsame⟩
  · simp only [hup, Option.bind_some, Value.bool?_bool, Option.some.injEq] at hflag
    subst hflag
    exact .inl ⟨.inr htaken, (answers_ok hrest).1.trans hwrites⟩
  · simp only [hsame, UserDefaults.getElem?_insert, if_true, Option.bind_some, Value.bool?_bool,
      Option.some.injEq] at hflag
    subst hflag
    simp only [Bool.false_eq_true, if_false, Traps.bind_eq_ok, Book.saveOrUpdateNewBook_eq_ok,
      AddBooksViewController.updateData_eq_ok, and_assoc, exists_and_left, exists_eq_left',
      exists_const] at hrest
    obtain ⟨hid, -, hlate⟩ := hrest
    refine .inr ⟨hcomplete, hfree, hid, quantity, hquantity, (answers_ok hlate).1.trans ?_⟩
    simp only [hwrites, List.append_assoc, List.cons_append, List.nil_append]
    rfl

/-! ## Editing a book -/

/-- An edit writes nothing, or the form with the stored cover and lent count. -/
theorem editBook_cases {row : ℕ} {form : BookForm}
    (h : editBook uppercased db row form d = .ok () d') :
    ∃ id book name, (db .books).keys[row]? = some id ∧ (db .books)[id]? = some book ∧
      book["name"]? = some name ∧
      (name.string? = some "" ∧ d'.writes = d.writes ∨
      name.string? ≠ some "" ∧ IsDocumentPath id ∧ ∃ avatarURL check quantity,
        book.string? "avatarURL" = some avatarURL ∧ book.int? "check" = some check ∧
        Swift.int? form.quantity = some quantity ∧
        d'.writes = d.writes ++ [.setAt .books id (EditInfoBookViewController.currentBook
          uppercased { form with bookID := (book.string? "ID").getD "" } avatarURL check
          quantity).detail]) := by
  simp only [editBook, Traps.bind_eq_ok, loadBookData_eq_ok, Traps.index_eq_ok, and_assoc,
    exists_and_left, exists_eq_left', exists_const] at h
  obtain ⟨id, hid, shown, d₁, hcell, hrest⟩ := h
  obtain ⟨book, name, hbook, hname, ⟨hshown, rfl, rfl⟩ | ⟨hhidden, rfl, rfl⟩⟩ :=
    ManageBooksViewController.cellDelivery_ok hcell
  · simp only [if_true, Traps.bind_eq_ok, ManageBooksViewController.didSelectRowAt_eq_ok] at hrest
    obtain ⟨_, _, ⟨ids, hids, id', hid', rfl⟩, opened, d₂, hload, hconfirm⟩ := hrest
    obtain ⟨rfl, ID, document, hID, hdocument, hopened⟩ :=
      EditInfoBookViewController.viewDidLoad_ok hload
    obtain ⟨ID', document', avatarURL, check, quantity, hID', hdocument', havatar, hcheck,
      hquantity, hvalid, rfl⟩ := EditInfoBookViewController.confirmButton_eq_ok.1 hconfirm
    simp only [UserDefaults.getElem?_insert, if_true, Option.bind_some, Value.string?_string,
      Option.some.injEq] at hID hID'
    subst hID hID'
    -- The row's document is cached under its id; an id that is one of the keys read here traps.
    obtain ⟨-, hids⟩ := (UserDefaults.bind_getElem?_insert_of_none rfl).1 hids
    obtain ⟨-, hdocument⟩ := (UserDefaults.bind_getElem?_insert_of_none rfl).1 hdocument
    obtain ⟨-, hdocument'⟩ := (UserDefaults.bind_getElem?_insert_of_none rfl).1 hdocument'
    simp only [UserDefaults.getElem?_insert, if_true, Option.bind_some, Value.strings?_strings,
      Option.some.injEq] at hids
    subst hids
    obtain rfl := Option.some.inj (hid.symm.trans hid')
    simp only [UserDefaults.getElem?_insert, if_true, Option.bind_some,
      Value.dictionary?_dictionary, Option.some.injEq] at hdocument hdocument'
    subst hdocument hdocument'
    exact ⟨id, book, name, hid, hbook, hname, .inr ⟨hshown, hvalid, avatarURL, check, quantity,
      havatar, hcheck, hquantity, by rw [hopened]⟩⟩
  · obtain ⟨-, rfl⟩ := Traps.pure_eq_ok.1 hrest
    exact ⟨id, book, name, hid, hbook, hname, .inl ⟨hhidden, rfl⟩⟩

/-! ## Lending a book -/

/-- Row `row` of the picker shows the entry of the book at `row`. -/
theorem picked_of_listed {row : ℕ} {data : List String} {entry id : String}
    (hdata : (db .books).toList.map (fun document => bookEntry document.2) = data.map some)
    (hentry : data[row]? = some entry) (hid : (Swift.components '-' entry)[0]? = some id) :
    picked db row = some id := by
  have hrow : ((db .books).toList.map fun document => bookEntry document.2)[row]?
      = some (some entry) := by
    rw [hdata, List.getElem?_map, hentry, Option.map_some]
  rw [List.getElem?_map, Option.map_eq_some_iff] at hrow
  obtain ⟨document, hdocument, hbook⟩ := hrow
  simp [picked, hdocument, hbook, hid]

/-- Pressing the button and OK stores a card for the picked book and raises the count. -/
theorem confirm_ok {s : AddNewBorrowingCardViewController.Screen} {autoID : String}
    (h : (do
      if s.confirmEnabled then
        AddNewBorrowingCardViewController.confirmAction s autoID
        AddNewBorrowingCardViewController.okAction s : Handler Unit) d = .ok () d') :
    s.confirmEnabled = false ∧ d' = d ∨
      s.confirmEnabled = true ∧ IsDocumentPath s.id ∧
        ∃ check, d.temp["check"]?.bind Value.int? = some check ∧ Swift.InInt (check + 1) ∧
          d'.writes = d.writes ++ [
            .addDocument .borrowCard autoID s.card.data,
            .setAt .books s.id [("check", .number (check + 1))]] := by
  cases henabled : s.confirmEnabled with
  | false =>
    rw [henabled] at h
    exact .inl ⟨rfl, (Traps.pure_eq_ok.1 h).2.symm⟩
  | true =>
    simp only [henabled, if_true, Traps.bind_eq_ok,
      AddNewBorrowingCardViewController.confirmAction_eq_ok,
      AddNewBorrowingCardViewController.okAction_eq_ok, exists_eq_left', exists_const] at h
    obtain ⟨hid, check, hcheck, hint, rfl⟩ := h
    exact .inr ⟨rfl, hid, check, hcheck, hint, by simp⟩

/-- A borrow writes nothing, or a card and the lent count one higher. A book that is stored
had a copy left. -/
theorem borrow_cases {student : CurrentStudent} {row : ℕ} {startedDay autoID : String}
    (h : borrow db student row startedDay autoID d = .ok () d') :
    d'.writes = d.writes ∨
      ∃ id check, ∃ card : BorrowCard, picked db row = some id ∧ IsDocumentPath id ∧
        Swift.InInt (check + 1) ∧ card.idBook = id ∧ card.status = 1 ∧
        countRead d.temp db id = some check ∧
        (∀ book, db.read .books id = some book → ∃ quantity,
          (book.string? "quantity").bind Swift.int? = some quantity ∧ check < quantity) ∧
        d'.writes = d.writes ++ [
          .addDocument .borrowCard autoID card.data,
          .setAt .books id [("check", .number (check + 1))]] := by
  simp only [borrow, Traps.bind_eq_ok, loadBookData_eq_ok, loadBook_eq_ok, CurrentStudent.select,
    set_eq_ok, AddNewBorrowingCardViewController.bookAction_eq,
    AddNewBorrowingCardViewController.didSelectRow_eq_ok, exists_const] at h
  obtain ⟨_, rfl, _, ⟨data, hdata, rfl⟩, _, ⟨_, rfl, rfl⟩, opened, _, hload, _, _,
    ⟨⟨_, _, -, -, rfl⟩, rfl⟩, _, _, ⟨⟨listed, entry, hlisted, hentry, rfl⟩, rfl⟩, ⟨s, asked⟩, d₁,
    hask, hrest⟩ := h
  obtain ⟨rfl, henabled, hblank⟩ := AddNewBorrowingCardViewController.viewDidLoad_ok hload
  obtain ⟨-, hlisted⟩ := (UserDefaults.bind_getElem?_insert_of_none rfl).1 hlisted
  obtain ⟨-, hlisted⟩ := (UserDefaults.bind_getElem?_insert_of_none rfl).1 hlisted
  simp only [UserDefaults.getElem?_insert, if_true, Option.bind_some, Value.strings?_strings,
    Option.some.injEq] at hlisted
  subst hlisted
  -- An empty entry asks for no book, and its confirm has an empty field.
  obtain ⟨rfl, ⟨-, rfl, rfl⟩ | ⟨-, id, bookName, hid, -, hvalid, rfl, rfl⟩⟩ :=
    AddNewBorrowingCardViewController.bookIDAction_eq_ok.1 hask
  · obtain ⟨-, hd⟩ | ⟨-, hempty, -⟩ := confirm_ok hrest
    · exact .inl (by rw [hd])
    · exact absurd hblank hempty.ne_empty
  · obtain ⟨s, d₂, hanswer, hconfirm⟩ := Traps.bind_eq_ok.1 hrest
    have hpicked : picked db row = some id := picked_of_listed hdata hentry hid
    cases hbook : db.read .books id with
    | none =>
      rw [hbook] at hanswer
      obtain ⟨rfl, rfl⟩ := AddNewBorrowingCardViewController.bookAnswer_none_eq_ok.1 hanswer
      obtain ⟨-, rfl⟩ | ⟨-, -, check, hread, hint, hwrites⟩ := confirm_ok hconfirm
      · exact .inl rfl
      · -- Nothing the visit stored before the answer is a count.
        obtain ⟨-, hread⟩ := (UserDefaults.bind_getElem?_insert_of_none rfl).1 hread
        obtain ⟨-, hread⟩ := (UserDefaults.bind_getElem?_insert_of_none rfl).1 hread
        obtain ⟨-, hread⟩ := (UserDefaults.bind_getElem?_insert_of_none rfl).1 hread
        obtain ⟨-, hread⟩ := (UserDefaults.bind_getElem?_insert_of_none rfl).1 hread
        refine .inr ⟨id, check, _, hpicked, hvalid, hint, rfl, rfl, ?_, by simp [hbook], hwrites⟩
        rw [countRead, hbook]
        exact hread
    | some book =>
      rw [hbook] at hanswer
      obtain ⟨quantity, check, hquantity, hcheck, ⟨hlt, rfl, rfl⟩ | ⟨-, rfl, rfl⟩⟩ :=
        AddNewBorrowingCardViewController.bookAnswer_some_eq_ok.1 hanswer
      · obtain ⟨hoff, -⟩ | ⟨-, -, check', hread, hint, hwrites⟩ := confirm_ok hconfirm
        · cases hoff
        · simp only [UserDefaults.getElem?_insert, if_true, Option.bind_some, Value.int?_int,
            Option.some.injEq] at hread
          subst hread
          refine .inr ⟨id, check, _, hpicked, hvalid, hint, rfl, rfl,
            (countRead_of_stored _ hbook).trans hcheck, ?_, hwrites⟩
          rintro book' hbook'
          obtain rfl := Option.some.inj (hbook.symm.trans hbook')
          exact ⟨quantity, hquantity, hlt⟩
      · obtain ⟨-, rfl⟩ | ⟨hon, -⟩ := confirm_ok hconfirm
        · exact .inl rfl
        · cases hon

/-! ## Editing a card -/

/-- What the open screen of a card stored and shows. A count it leaves was there before. -/
theorem openCard_ok {student : CurrentStudent} {id asked : String}
    {s : EditBorrowCardViewController.Screen}
    (h : openCard db student id d = .ok (s, asked) d') :
    d'.writes = d.writes ∧ d'.temp["ID_current_bc"]?.bind Value.string? = some id ∧
      (∀ check, d'.temp["check"]?.bind Value.int? = some check →
        d.temp["check"]?.bind Value.int? = some check) ∧
      asked = s.bookID ∧ IsDocumentPath s.bookID ∧
        ∃ card status, (db .borrowCard)[id]? = some card ∧
          card.string? "ID_book" = some s.bookID ∧ card.string? "status" = some status := by
  simp only [openCard, CurrentStudent.select, Traps.bind_eq_ok, Traps.unwrap_eq_ok, set_eq_ok,
    exists_const] at h
  obtain ⟨card, _, ⟨hcard, rfl⟩, _, ⟨_, rfl, rfl⟩, _, rfl, _, rfl, hload⟩ := h
  obtain ⟨rfl, rfl, hvalid, ID, shown, status, hID, hshown, hidBook, hstatus, -⟩ :=
    EditBorrowCardViewController.viewDidLoad_ok hload
  simp only [UserDefaults.getElem?_insert, if_true, Option.bind_some, Value.string?_string,
    Option.some.injEq] at hID
  subst hID
  obtain ⟨-, hshown⟩ := (UserDefaults.bind_getElem?_insert_of_none rfl).1 hshown
  simp only [UserDefaults.getElem?_insert, if_true, Option.bind_some,
    Value.dictionary?_dictionary, Option.some.injEq] at hshown
  subst hshown
  refine ⟨rfl, by simp, ?_, rfl, hvalid, card, status, hcard, hidBook, hstatus⟩
  -- None of the four entries the visit stored is a count.
  intro check hcheck
  obtain ⟨-, hcheck⟩ := (UserDefaults.bind_getElem?_insert_of_none rfl).1 hcheck
  obtain ⟨-, hcheck⟩ := (UserDefaults.bind_getElem?_insert_of_none rfl).1 hcheck
  obtain ⟨-, hcheck⟩ := (UserDefaults.bind_getElem?_insert_of_none rfl).1 hcheck
  obtain ⟨-, hcheck⟩ := (UserDefaults.bind_getElem?_insert_of_none rfl).1 hcheck
  exact hcheck

/-- On the open screen the visit goes on with the answer about the book and the confirm. -/
theorem editCard_eq {student : CurrentStudent} {id : String}
    {final : EditBorrowCardViewController.Screen} :
    editCard db student id final = (do
      let (_, asked) ← openCard db student id
      EditBorrowCardViewController.bookAnswer (db.read .books asked)
      EditBorrowCardViewController.confirmButton final) := by
  simp only [editCard, openCard, bind_assoc]

/-- An edit of a card is written to another collection while the switch is on. Otherwise the
card is closed, and the book the form names gets the count of the card's book, less one. -/
theorem editCard_cases {student : CurrentStudent} {id : String}
    {final : EditBorrowCardViewController.Screen}
    (h : editCard db student id final d = .ok () d') :
    final.statusIsOn = true ∧ IsDocumentPath id ∧ d'.writes = d.writes ++
        [.setAt .cities id [("endedDay", .string final.endedDay)]] ∨
      final.statusIsOn = false ∧ ∃ card idBook check, (db .borrowCard)[id]? = some card ∧
        card.string? "ID_book" = some idBook ∧ IsDocumentPath final.bookID ∧
        Swift.InInt (check - 1) ∧
        countRead d.temp db idBook = some check ∧
        d'.writes = d.writes ++ [
          .setAt .borrowCard id [("endedDay", .string final.endedDay), ("status", .string "0")],
          .setAt .books final.bookID [("check", .number (check - 1))]] := by
  rw [editCard_eq] at h
  obtain ⟨⟨s, asked⟩, d₁, hopens, hrest⟩ := Traps.bind_eq_ok.1 h
  obtain ⟨_, d₂, hanswer, hconfirm⟩ := Traps.bind_eq_ok.1 hrest
  obtain ⟨hopened, hcurrent, hstale, rfl, -, card, -, hcard, hidBook, -⟩ := openCard_ok hopens
  obtain ⟨hwrites, hframe, hleft, hcount⟩ := EditBorrowCardViewController.bookAnswer_ok hanswer
  rw [hopened] at hwrites
  obtain ⟨ID, hID, hpath, hcases⟩ := EditBorrowCardViewController.confirmButton_eq_ok.1 hconfirm
  obtain rfl : id = ID := by
    rw [hframe _ (by decide)] at hID
    exact Option.some.inj (hcurrent.symm.trans hID)
  rcases hcases with ⟨hon, rfl⟩ | ⟨hoff, hvalid, check, hcheck, hint, rfl⟩
  · exact .inl ⟨hon, hpath, by rw [hwrites]⟩
  · refine .inr ⟨hoff, card, s.bookID, check, hcard, hidBook, hvalid, hint, ?_, by rw [hwrites]⟩
    cases hbook : db.read .books s.bookID with
    | some book =>
      rw [hcount book hbook, Document.int?_ofField] at hcheck
      rw [countRead_of_stored _ hbook]
      exact hcheck
    | none =>
      -- Without the book the count is what an earlier visit has left.
      rw [hleft hbook] at hcheck
      rw [countRead, hbook]
      exact hstale check hcheck

end Visits

/-! ## The collections after a visit -/

namespace Visit

variable {uppercased : String → String} {c c' : Client}

theorem step_addBook {form : BookForm} {answered : List String}
    (h : step uppercased c (.addBook form answered) = some c') :
    (AddBooksViewController.Incomplete form ∨
        Visits.NameTaken c.db (uppercased form.bookname) answered) ∧ c'.db = c.db ∨
      ¬ AddBooksViewController.Incomplete form ∧
        ¬ Visits.NameTaken c.db (uppercased form.bookname) answered ∧ IsDocumentPath form.bookID ∧
        ∃ quantity, Swift.int? form.quantity = some quantity ∧
          c'.db .borrowCard = c.db .borrowCard ∧
          c'.db .books = c.db.overrideAt .books form.bookID
            ((AddBooksViewController.newBook uppercased form quantity).newData ++
              [("avatarURL", .string (AddBooksViewController.coverURL form.bookID))]) := by
  obtain ⟨d, hd, rfl⟩ := Client.perform_eq_some.1 h
  obtain ⟨hrefused, hwrites⟩ | ⟨hcomplete, hfree, hid, quantity, hquantity, hwrites⟩ :=
    Visits.addBook_cases hd
  · exact .inl ⟨hrefused, by rw [hwrites]; rfl⟩
  · refine .inr ⟨hcomplete, hfree, hid, quantity, hquantity, ?_, ?_⟩
    · simp (disch := decide) [hwrites]
    · simp (disch := decide) [hwrites]

theorem step_editBook {row : ℕ} {form : BookForm} (hc : c.db.Addressed)
    (h : step uppercased c (.editBook row form) = some c') :
    ∃ id book name, (c.db .books).keys[row]? = some id ∧ (c.db .books)[id]? = some book ∧
      book["name"]? = some name ∧
      (name.string? = some "" ∧ c'.db = c.db ∨
      name.string? ≠ some "" ∧ IsDocumentID id ∧ ∃ avatarURL check quantity,
        book.string? "avatarURL" = some avatarURL ∧ book.int? "check" = some check ∧
        Swift.int? form.quantity = some quantity ∧
        c'.db .borrowCard = c.db .borrowCard ∧
        c'.db .books = (c.db .books).override id (EditInfoBookViewController.currentBook
          uppercased { form with bookID := (book.string? "ID").getD "" } avatarURL check
          quantity).detail) := by
  obtain ⟨d, hd, rfl⟩ := Client.perform_eq_some.1 h
  obtain ⟨id, book, name, hid, hbook, hname, ⟨hhidden, hwrites⟩ | ⟨hshown, -, avatarURL,
    check, quantity, havatar, hcheck, hquantity, hwrites⟩⟩ := Visits.editBook_cases hd
  · exact ⟨id, book, name, hid, hbook, hname, .inl ⟨hhidden, by rw [hwrites]; rfl⟩⟩
  · have hvalid : IsDocumentID id := hc _ id (Std.ExtTreeMap.mem_of_getElem? hbook)
    refine ⟨id, book, name, hid, hbook, hname, .inr ⟨hshown, hvalid, avatarURL, check, quantity,
      havatar, hcheck, hquantity, ?_, ?_⟩⟩
    · simp (disch := decide) [hwrites]
    · simp (disch := decide) [hwrites, Database.overrideAt_of_isDocumentID hvalid]

theorem step_borrow {student : CurrentStudent} {row : ℕ} {startedDay autoID : String}
    (h : step uppercased c (.borrow student row startedDay autoID) = some c') :
    c'.db = c.db ∨
      ∃ id check, ∃ card : BorrowCard, autoID ∉ c.db .borrowCard ∧ IsDocumentID autoID ∧
        Visits.picked c.db row = some id ∧ IsDocumentPath id ∧
        Swift.InInt (check + 1) ∧ card.idBook = id ∧ card.status = 1 ∧
        Visits.countRead c.temp c.db id = some check ∧
        (∀ book, c.db.read .books id = some book → ∃ quantity,
          (book.string? "quantity").bind Swift.int? = some quantity ∧ check < quantity) ∧
        c'.db .borrowCard = (c.db .borrowCard).insert autoID (Document.merge ∅ card.data) ∧
        c'.db .books = c.db.overrideAt .books id [("check", .number (check + 1))] := by
  rw [step] at h
  split at h
  · cases h
  · next hnew =>
    obtain ⟨hfresh, hauto⟩ := not_or.1 hnew
    obtain ⟨d, hd, rfl⟩ := Client.perform_eq_some.1 h
    obtain hwrites | ⟨id, check, card, hpicked, hvalid, hint, hidBook, hstatus, hread, havailable,
      hwrites⟩ := Visits.borrow_cases hd
    · exact .inl (by rw [hwrites]; rfl)
    · refine .inr ⟨id, check, card, hfresh, not_not.1 hauto, hpicked, hvalid, hint, hidBook, hstatus,
        hread, havailable, ?_, ?_⟩
      · simp (disch := decide) [hwrites, Write.apply_addDocument]
      · have hbooks : Write.apply c.db (.addDocument .borrowCard autoID card.data) .books =
            c.db .books := Write.apply_of_ne _ (by rintro ⟨⟩)
        simp (disch := decide) [hwrites, Database.overrideAt, hbooks]

theorem step_editCard {student : CurrentStudent} {id : String}
    {final : EditBorrowCardViewController.Screen} (hc : c.db.Addressed)
    (h : step uppercased c (.editCard student id final) = some c') :
    final.statusIsOn = true ∧ c'.db .borrowCard = c.db .borrowCard ∧
        c'.db .books = c.db .books ∨
      final.statusIsOn = false ∧ ∃ card idBook check, (c.db .borrowCard)[id]? = some card ∧
        card.string? "ID_book" = some idBook ∧ IsDocumentPath final.bookID ∧
        Swift.InInt (check - 1) ∧
        Visits.countRead c.temp c.db idBook = some check ∧
        c'.db .borrowCard = (c.db .borrowCard).override id
          [("endedDay", .string final.endedDay), ("status", .string "0")] ∧
        c'.db .books = c.db.overrideAt .books final.bookID [("check", .number (check - 1))] := by
  obtain ⟨d, hd, rfl⟩ := Client.perform_eq_some.1 h
  obtain ⟨hon, -, hwrites⟩ | ⟨hoff, card, idBook, check, hcard, hidBook, hvalid, hint, hcheck,
    hwrites⟩ := Visits.editCard_cases hd
  · refine .inl ⟨hon, ?_, ?_⟩ <;> simp (disch := decide) [hwrites]
  · have hid : IsDocumentID id := hc _ id (Std.ExtTreeMap.mem_of_getElem? hcard)
    refine .inr ⟨hoff, card, idBook, check, hcard, hidBook, hvalid, hint, hcheck, ?_, ?_⟩
    · simp (disch := decide) [hwrites, Database.overrideAt_of_isDocumentID hid]
    · simp (disch := decide) [hwrites, Database.overrideAt]

/-- A visit names the documents it writes by their ids. -/
theorem addressed_step {visit : Visit} (hc : c.db.Addressed)
    (h : visit.step uppercased c = some c') : c'.db.Addressed := by
  cases visit with
  | addBook form answered =>
    obtain ⟨d, hd, rfl⟩ := Client.perform_eq_some.1 h
    obtain ⟨-, hwrites⟩ | ⟨-, -, hID, quantity, -, hwrites⟩ := Visits.addBook_cases hd
    · rwa [hwrites]
    · rw [hwrites]
      exact (hc.setAt hID).updateAt hID
  | editBook row form =>
    obtain ⟨d, hd, rfl⟩ := Client.perform_eq_some.1 h
    obtain ⟨id, book, name, -, -, -, ⟨-, hwrites⟩ | ⟨-, hvalid, avatarURL, check, quantity, -, -, -,
      hwrites⟩⟩ := Visits.editBook_cases hd
    · rwa [hwrites]
    · rw [hwrites]
      exact hc.setAt hvalid
  | borrow student row startedDay autoID =>
    rw [step] at h
    split at h
    · cases h
    · next hnew =>
      obtain ⟨-, hauto⟩ := not_or.1 hnew
      obtain ⟨d, hd, rfl⟩ := Client.perform_eq_some.1 h
      obtain hwrites | ⟨id, check, card, -, hvalid, -, -, -, -, -, hwrites⟩ :=
        Visits.borrow_cases hd
      · rwa [hwrites]
      · rw [hwrites]
        have hadded : (Write.apply c.db (.addDocument .borrowCard autoID card.data)).Addressed :=
          hc.apply (not_not.1 hauto)
        exact hadded.setAt hvalid
  | editCard student id final =>
    obtain ⟨d, hd, rfl⟩ := Client.perform_eq_some.1 h
    obtain ⟨-, hpath, hwrites⟩ | ⟨-, card, idBook, check, hcard, -, hvalid, -, -, hwrites⟩ :=
      Visits.editCard_cases hd
    · rw [hwrites]
      exact hc.setAt hpath
    · have hid : IsDocumentID id := hc _ id (Std.ExtTreeMap.mem_of_getElem? hcard)
      rw [hwrites]
      exact (hc.setAt hid.isDocumentPath).setAt hvalid

end Visit

end LibraryManagement
