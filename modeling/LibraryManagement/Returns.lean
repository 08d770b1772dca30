import LibraryManagement.CardLifeCycle
import LibraryManagement.Refinement

/-!
# Every loan can be given back

The ledger lends copies; nothing there says that they come back. In every state that the visits
reach, as long as they keep the ledger, each open card can be opened and closed on the edit-card
screen: its fields are there, its book is stored, and the count can be lowered. Closing one after
the other the library gets all its copies back (`allReturned_of_run`).
-/

namespace LibraryManagement

open Handler Transition EditBorrowCardViewController

/-! ## What a return relies on -/

/-- The id that the client library generates is a document's, and none of the keys under which the
edit-card screen finds the card. -/
def Generated (id : String) : Prop :=
  IsDocumentID id ∧ id ≠ "ID_current_student" ∧ id ≠ "ID_current_bc"

/-- The visits that keep the ledger, with generated ids for new cards. -/
structure Visit.Orderly (uppercased : String → String) (c : Client) (visit : Visit) : Prop extends
    visit.KeepsLedger uppercased c where
  generated : ∀ student row startedDay autoID,
    visit = .borrow student row startedDay autoID → Generated autoID

/-- A card that its screen can open and close. -/
structure Closable (id : String) (card : Document) : Prop where
  generated : Generated id
  fields : ∀ field ∈ ["ID_student", "ID_book", "startedDay", "endedDay", "fine", "status"],
    ∃ s, card.string? field = some s
  book : ∀ idBook ∈ card.string? "ID_book", IsDocumentPath idBook

/-- Every card can be closed, and every count is an `Int`. -/
structure Returnable (db : Database) : Prop where
  cards : ∀ (id : String) (card : Document), (db .borrowCard)[id]? = some card → Closable id card
  counts : ∀ (id : String) (book : Document), (db .books)[id]? = some book →
    ∀ check ∈ book.int? "check", Swift.InInt check

theorem returnable_empty : Returnable Database.empty where
  cards id card hcard := by simp [Database.empty] at hcard
  counts id book hbook := by simp [Database.empty] at hbook

theorem Closable.close {id : String} {card : Document} (h : Closable id card) (endedDay : String) :
    Closable id (card.merge [("endedDay", .string endedDay), ("status", .string "0")]) where
  generated := h.generated
  fields field hfield := by
    obtain ⟨s, hs⟩ := h.fields field hfield
    simp only [Document.merge_cons, Document.merge_nil, Document.string?_insert]
    split
    · exact ⟨_, rfl⟩
    · split
      · exact ⟨_, rfl⟩
      · exact ⟨s, hs⟩
  book idBook hidBook := h.book idBook (by simpa [Document.merge_cons] using hidBook)

/-- A new card can be closed. -/
theorem Closable.new {id : String} {card : BorrowCard} (hid : Generated id)
    (hbook : IsDocumentPath card.idBook) : Closable id (Document.merge ∅ card.data) where
  generated := hid
  fields := by simp [BorrowCard.data, Document.merge_cons]
  book idBook hidBook := by
    obtain rfl : card.idBook = idBook := by
      simpa [BorrowCard.data, Document.merge_cons] using hidBook
    exact hbook

/-- A count that is set is an `Int`, so all of them are. -/
theorem Returnable.counts_overrideAt {db : Database} (hdb : Returnable db) {path : String}
    {data : List (String × FieldValue)}
    (hcount : ∀ document : Document, ∀ check ∈ (document.merge data).int? "check",
      Swift.InInt check) (id : String) (book : Document)
    (hbook : (db.overrideAt .books path data)[id]? = some book) :
    ∀ check ∈ book.int? "check", Swift.InInt check :=
  Database.forall_getElem?_overrideAt hdb.counts (fun _ _ => hcount _) id book hbook

section

variable {uppercased : String → String} {c c' : Client} {visit : Visit}

theorem returnable_step (ha : c.db.Addressed) (hc : Returnable c.db)
    (hkeeps : visit.Orderly uppercased c) (h : visit.step uppercased c = some c') :
    Returnable c'.db := by
  cases visit with
  | addBook form answered =>
    obtain ⟨-, hdb⟩ | ⟨-, -, -, quantity, -, hcards, hbooks⟩ := Visit.step_addBook h
    · rwa [hdb]
    · refine ⟨hcards ▸ hc.cards, hbooks ▸ hc.counts_overrideAt ?_⟩
      simp [AddBooksViewController.newBook, Book.newData, Document.merge_cons]
      decide
  | editBook row form =>
    obtain ⟨id, book, _, -, hbook, -, ⟨-, hdb⟩ | ⟨-, hid, avatarURL, check, quantity, -, hcheck, -,
      hcards, hbooks⟩⟩ := Visit.step_editBook ha h
    · rwa [hdb]
    · -- The count stays.
      rw [← Database.overrideAt_of_isDocumentID hid] at hbooks
      refine ⟨hcards ▸ hc.cards, hbooks ▸ hc.counts_overrideAt fun document check' hcheck' =>
        hc.counts id book hbook check' ?_⟩
      simpa [Book.detail, Document.merge_cons, hcheck] using hcheck'
  | borrow student row startedDay autoID =>
    obtain hdb | ⟨id, check, card, -, -, -, hid, hint, rfl, -, -, -, hcards, hbooks⟩ :=
      Visit.step_borrow h
    · rwa [hdb]
    · refine ⟨?_, hbooks ▸ hc.counts_overrideAt ?_⟩
      · rw [hcards]
        exact Std.ExtTreeMap.forall_getElem?_insert (.new (hkeeps.generated _ _ _ _ rfl) hid)
          fun a d _ hd => hc.cards a d hd
      · simpa [Document.merge_cons] using hint
  | editCard student id final =>
    obtain ⟨-, hcards, hbooks⟩ | ⟨-, card, _, check, hcard, -, -, hint, -, hcards, hbooks⟩ :=
      Visit.step_editCard ha h
    · exact ⟨hcards ▸ hc.cards, hbooks ▸ hc.counts⟩
    · refine ⟨?_, hbooks ▸ hc.counts_overrideAt ?_⟩
      · rw [hcards, Collection.override, hcard, Option.getD_some]
        exact Std.ExtTreeMap.forall_getElem?_insert ((hc.cards id card hcard).close _)
          fun a d _ hd => hc.cards a d hd
      · simpa [Document.merge_cons] using hint

end

/-! ## Giving a copy back -/

/-- A student whose document is not cached in place of the card. -/
def anyStudent (cardID : String) : CurrentStudent :=
  ⟨if cardID = "S1" then "S2" else "S1", Document.merge ∅ [("name", .string "")]⟩

theorem anyStudent_id (cardID : String) : (anyStudent cardID).id ≠ cardID ∧
    (anyStudent cardID).id ≠ "ID_current_student" ∧ (anyStudent cardID).id ≠ "ID_current_bc" := by
  unfold anyStudent
  split
  · next h =>
    subst h
    decide
  · next h => exact ⟨Ne.symm h, by decide, by decide⟩

/-- The form with the switch off and the book of the card. -/
def givenBack (idBook : String) : Screen := ⟨"", "", idBook, "", "", "0", false⟩

/-- The screen opens with a student and a card that are cached. -/
theorem viewDidLoad_opens {d : Device} {studentID name id idBook : String}
    {student card : Document} (hcurrent : d.temp["ID_current_student"]? = some (.string studentID))
    (hstudent : d.temp[studentID]? = some (.dictionary student))
    (hname : student.string? "name" = some name)
    (hcurrent' : d.temp["ID_current_bc"]? = some (.string id))
    (hcard : d.temp[id]? = some (.dictionary card)) (h : Closable id card)
    (hidBook : card.string? "ID_book" = some idBook) :
    ∃ s, viewDidLoad d = .ok (s, idBook) d ∧ s.bookID = idBook := by
  obtain ⟨idStudent, hidStudent⟩ := h.fields "ID_student" (by simp)
  obtain ⟨startedDay, hstarted⟩ := h.fields "startedDay" (by simp)
  obtain ⟨endedDay, hended⟩ := h.fields "endedDay" (by simp)
  obtain ⟨fine, hfine⟩ := h.fields "fine" (by simp)
  obtain ⟨status, hstatus⟩ := h.fields "status" (by simp)
  have hvalid := h.book idBook hidBook
  refine ⟨⟨name, idStudent, idBook, startedDay, endedDay, fine, decide (status = "1")⟩, ?_, rfl⟩
  simp [viewDidLoad, -bind_pure_comp, Traps.bind_eq_ok, hcurrent, hstudent, hname, hcurrent', hcard,
    hidStudent, hidBook, hstarted, hended, hfine, hstatus, hvalid]

/-- The screen of a card opens. -/
theorem openCard_opens {db : Database} {id idBook : String} {card : Document} {d : Device}
    (hcard : (db .borrowCard)[id]? = some card) (h : Closable id card)
    (hidBook : card.string? "ID_book" = some idBook) :
    ∃ s d', Visits.openCard db (anyStudent id) id d = .ok (s, idBook) d' ∧ s.bookID = idBook := by
  obtain ⟨-, hne, hne'⟩ := h.generated
  generalize hstudent : anyStudent id = student
  obtain ⟨hid, hkey, hkey'⟩ := hstudent ▸ anyStudent_id id
  have hname : student.document.string? "name" = some "" := by
    simp [← hstudent, anyStudent, Document.merge_cons]
  let temp : UserDefaults := (((d.temp.insert student.id (.dictionary student.document)).insert
    "ID_current_student" (.string student.id)).insert id (.dictionary card)).insert
    "ID_current_bc" (.string id)
  have hcurrent : temp["ID_current_student"]? = some (.string student.id) := by
    simp only [temp, UserDefaults.getElem?_insert]
    simp [hne]
  have hcached : temp[student.id]? = some (.dictionary student.document) := by
    simp only [temp, UserDefaults.getElem?_insert]
    simp [hid.symm, hkey.symm, hkey'.symm]
  have hcurrent' : temp["ID_current_bc"]? = some (.string id) := by
    simp only [temp, UserDefaults.getElem?_insert, if_true]
  have hcard' : temp[id]? = some (.dictionary card) := by
    simp only [temp, UserDefaults.getElem?_insert]
    simp [hne'.symm]
  obtain ⟨s, hopens, hs⟩ := viewDidLoad_opens (d := ⟨temp, d.writes⟩) hcurrent hcached hname
    hcurrent' hcard' h hidBook
  refine ⟨s, ⟨temp, d.writes⟩, ?_, hs⟩
  rw [Visits.openCard, hcard, Traps.unwrap_some, pure_bind]
  exact hopens

section

variable {uppercased : String → String} {c c' : Client} {id idBook : String} {card : Document}

/-- An open card can be closed, by a visit that keeps the ledger. -/
theorem giveBack_step (uppercased : String → String) (hbalanced : Balanced c.db)
    (hc : Returnable c.db) (hcard : (c.db .borrowCard)[id]? = some card)
    (hopen : IsOpenCard idBook card = true) :
    ∃ c', Guarded (Visit.Orderly uppercased) (Steps (Visit.step uppercased)) c
      (.editCard (anyStudent id) id (givenBack idBook)) c' := by
  have hidBook : card.string? "ID_book" = some idBook := (of_decide_eq_true hopen).1
  have hclosable := hc.cards id card hcard
  -- The book of an open card is stored, and its count is at least one.
  have hpos : openCards c.db idBook ≠ 0 := fun hnone => by
    have hclosed := Std.ExtTreeMap.countValues_eq_zero.1 hnone id card hcard
    rw [hopen] at hclosed
    cases hclosed
  obtain ⟨book, hbook⟩ := hbalanced.stored_of_open hcard hopen
  have hvalid : IsDocumentID idBook :=
    hbalanced.addressed _ _ (Std.ExtTreeMap.mem_of_getElem? hbook)
  have hcheck := hbalanced.conserved idBook book hbook
  have hint : Swift.InInt ((openCards c.db idBook : ℤ) - 1) := by
    obtain ⟨hlower, hupper⟩ := hc.counts idBook book hbook _ hcheck
    constructor <;> omega
  obtain ⟨s, d, hopens, rfl⟩ := openCard_opens (d := ⟨c.temp, []⟩) hcard hclosable hidBook
  have hcount : lentCount c.db s.bookID = some (openCards c.db s.bookID : ℤ) := by
    rw [lentCount, Database.read_of_isDocumentID hvalid, hbook]
    exact hcheck
  have hconfirm : ∃ d', Visits.editCard c.db (anyStudent id) id (givenBack s.bookID) ⟨c.temp, []⟩ =
      .ok () d' := editCard_completes hclosable.generated.1 hopens rfl
        hvalid.isDocumentPath hcount hint
  obtain ⟨d', hconfirm⟩ := hconfirm
  refine ⟨_, ⟨⟨.inr fun card' hcard' => ?_, by simp⟩, by simp⟩, Client.perform_eq_some.2
    ⟨d', hconfirm, rfl⟩⟩
  obtain rfl := Option.some.inj (hcard.symm.trans hcard')
  exact ⟨(of_decide_eq_true hopen).2, hvalid.isDocumentPath, _, hidBook, rfl⟩

/-- The number of cards that are not closed. -/
def outstanding (db : Database) : ℕ :=
  (db .borrowCard).countValues fun card => card.string? "status" = some "1"

theorem openCards_eq_zero {db : Database} (h : outstanding db = 0) (id : String) :
    openCards db id = 0 := by
  refine Std.ExtTreeMap.countValues_eq_zero.2 fun cardID card hcard => ?_
  have hclosed := Std.ExtTreeMap.countValues_eq_zero.1 h cardID card hcard
  simp_all [IsOpenCard]

/-- One card is closed, and nothing happens to the stock. -/
theorem giveBack_result (hbalanced : Balanced c.db) (hcard : (c.db .borrowCard)[id]? = some card)
    (hopen : IsOpenCard idBook card = true)
    (h : Visit.step uppercased c (.editCard (anyStudent id) id (givenBack idBook)) = some c') :
    outstanding c'.db + 1 = outstanding c.db ∧ stockOf c'.db = stockOf c.db := by
  have hstatus : card.string? "status" = some "1" := (of_decide_eq_true hopen).2
  obtain ⟨hon, -⟩ | ⟨-, card', _, check, hcard', -, -, -, -, hcards, hbooks⟩ :=
    Visit.step_editCard hbalanced.addressed h
  · cases hon
  obtain rfl := Option.some.inj (hcard.symm.trans hcard')
  constructor
  · have hcount := Std.ExtTreeMap.countValues_insert_of_some
      (fun card : Document => card.string? "status" = some "1")
      (card.merge [("endedDay", .string (givenBack idBook).endedDay), ("status", .string "0")])
      hcard
    rw [Collection.override, hcard, Option.getD_some] at hcards
    rw [outstanding, hcards, outstanding]
    simpa [Document.merge_cons, hstatus] using hcount
  · obtain ⟨book, hbook⟩ := hbalanced.stored_of_open hcard hopen
    have hvalid : IsDocumentID idBook :=
      hbalanced.addressed _ _ (Std.ExtTreeMap.mem_of_getElem? hbook)
    exact stockOf_check hbook (hbooks.trans (Database.overrideAt_of_isDocumentID hvalid))

/-- The open cards are closed one after the other. -/
theorem returns_of_outstanding (n : ℕ) (hn : outstanding c.db = n) (hbalanced : Balanced c.db)
    (hc : Returnable c.db) :
    ∃ visits c',
      Run (Guarded (Visit.Orderly uppercased) (Steps (Visit.step uppercased))) c visits c' ∧
      visits.length = n ∧ outstanding c'.db = 0 ∧ Balanced c'.db ∧
      stockOf c'.db = stockOf c.db := by
  induction n generalizing c with
  | zero => exact ⟨[], c, .nil, rfl, hn, hbalanced, rfl⟩
  | succ n ih =>
    obtain ⟨id, card, hcard, hstatus⟩ : ∃ (id : String) (card : Document),
        (c.db .borrowCard)[id]? = some card ∧ card.string? "status" = some "1" := by
      by_contra hnone
      have hzero : outstanding c.db = 0 :=
        Std.ExtTreeMap.countValues_eq_zero.2 fun id card hcard => by
          simpa using fun hstatus => hnone ⟨id, card, hcard, hstatus⟩
      omega
    obtain ⟨idBook, hidBook⟩ := (hc.cards id card hcard).fields "ID_book" (by simp)
    have hopen : IsOpenCard idBook card = true := decide_eq_true ⟨hidBook, hstatus⟩
    obtain ⟨c', hkeeps, hstep⟩ := giveBack_step uppercased hbalanced hc hcard hopen
    obtain ⟨hless, hstock⟩ := giveBack_result hbalanced hcard hopen hstep
    obtain ⟨visits, c'', hrun, hlength, hzero, hbalanced', hstock'⟩ :=
      ih (by omega) (balanced_step hbalanced hkeeps.count hstep)
        (returnable_step hbalanced.addressed hc hkeeps hstep)
    exact ⟨_, c'', .cons ⟨hkeeps, hstep⟩ hrun, by rw [List.length_cons, hlength], hzero, hbalanced',
      hstock'.trans hstock⟩

/-! ## Every run -/

/-- From every state that such visits reach, one more visit for each open card leads to a state
without loans: every count is zero, and the stock is what it was. -/
theorem allReturned_of_run {visits : List Visit}
    (h : Run (Guarded (Visit.Orderly uppercased) (Steps (Visit.step uppercased)))
      Client.empty visits c) :
    ∃ visits' c', Run (Guarded (Visit.Orderly uppercased) (Steps (Visit.step uppercased)))
        c visits' c' ∧ visits'.length = outstanding c.db ∧ outstanding c'.db = 0 ∧
      (∀ (id : String) (book : Document), (c'.db .books)[id]? = some book →
        book.int? "check" = some 0) ∧ stockOf c'.db = stockOf c.db := by
  obtain ⟨hbalanced, hreturnable⟩ := h.invariant (fun c => Balanced c.db ∧ Returnable c.db)
    ⟨balanced_empty, returnable_empty⟩ fun _ _ _ hc hstep =>
      ⟨balanced_step hc.1 hstep.1.count hstep.2,
        returnable_step hc.1.addressed hc.2 hstep.1 hstep.2⟩
  obtain ⟨visits', c', hrun, hlength, hzero, hbalanced', hstock⟩ :=
    returns_of_outstanding _ rfl hbalanced hreturnable
  refine ⟨visits', c', hrun, hlength, hzero, fun id book hbook => ?_, hstock⟩
  rw [hbalanced'.conserved id book hbook, openCards_eq_zero hzero, Nat.cast_zero]

end

namespace Sample

/-- Two copies are added, and one of them is lent. -/
def lentOne :
    Reached (Guarded (Visit.Orderly Swift.asciiUppercased) (Steps step)) Client.empty :=
  let added := Reached.start.takeGuarded (.addBook (form "B1" "One" "2") [])
    (by exact ⟨⟨.inr (.inr (by decide +kernel)), by simp⟩, by simp⟩) (by decide +kernel)
  added.takeGuarded (.borrow student 0 "02/06/2020" "K1")
    (by exact ⟨⟨show ∀ id ∈ Visits.picked added.state.db 0, id ∈ added.state.db .books by
      decide +kernel, by simp⟩, by
        rintro student row startedDay autoID ⟨⟩
        exact ⟨by decide, by decide, by decide⟩⟩) (by decide +kernel)

end Sample

theorem allReturned_lentOne : outstanding Sample.lentOne.state.db = 1 ∧
    ∃ visits' c', Run (Guarded (Visit.Orderly Swift.asciiUppercased)
        (Steps (Visit.step Swift.asciiUppercased))) Sample.lentOne.state visits' c' ∧
      visits'.length = outstanding Sample.lentOne.state.db ∧ outstanding c'.db = 0 ∧
      (∀ (id : String) (book : Document), (c'.db .books)[id]? = some book →
        book.int? "check" = some 0) ∧ stockOf c'.db = stockOf Sample.lentOne.state.db :=
  ⟨by decide +kernel, allReturned_of_run Sample.lentOne.run⟩

end LibraryManagement
