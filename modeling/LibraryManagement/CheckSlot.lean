import LibraryManagement.Lib.Transition
import LibraryManagement.Screens.StudentsTheorems
import LibraryManagement.VisitsTheorems

/-!
# The key `"check"`

Four screens keep something under the key `"check"` of the one `UserDefaults`: adding a book
and adding a student the flag of their duplicate tests, borrowing and editing a card the lent
count of their book. The visits of one client interleave, with the callbacks they started.

Each visit has a history beside its screen: whether its test raised the flag, and the lent
counts its reads brought. The state also keeps which visit wrote the key last. A visit
vouches for what it wrote (`SlotVisit.Vouches`), and every step preserves that the last writer
vouches for what the key holds (`SlotVisits.Vouched`).
-/

namespace LibraryManagement

open Handler Transition

/-- How far a borrow has come. -/
inductive BorrowStage
  | picking | alert | left
deriving DecidableEq

/-- A visit that uses the key, with the ids of the reads that are not answered yet. -/
inductive SlotVisit
  /-- `raised`: an answer to the visit's test raised the flag. -/
  | addBook (adding : AddBooksViewController.Adding) (raised : Bool)
  | addStudent (form : StudentForm) (reads : List String)
  /-- `seen`: the lent counts that the visit's reads brought, with the books they are of. -/
  | borrow (s : AddNewBorrowingCardViewController.Screen) (stage : BorrowStage)
      (reads : List String) (seen : List ((CollectionName × String) × ℤ))
  | editCard (closed : Bool) (reads : List String) (seen : List ((CollectionName × String) × ℤ))
deriving DecidableEq

namespace SlotVisit

def reads : SlotVisit → List String
  | addBook adding _ => adding.reads
  | addStudent _ reads => reads
  | borrow _ _ reads _ => reads
  | editCard _ reads _ => reads

def seen : SlotVisit → List ((CollectionName × String) × ℤ)
  | addBook _ _ => []
  | addStudent _ _ => []
  | borrow _ _ _ seen => seen
  | editCard _ _ seen => seen

def raised : SlotVisit → Option Bool
  | addBook _ raised => some raised
  | addStudent _ _ => none
  | borrow _ _ _ _ => none
  | editCard _ _ _ => none

/-- The lent count of the book `id`, as a list. -/
def count (db : Database) (id : String) : List ((CollectionName × String) × ℤ) :=
  ((db.read .books id).bind (Document.int? · "check")).toList.map
    (CollectionName.books.document id, ·)

/-- The book has a copy left. -/
def Available (document : Document) : Prop :=
  ∃ quantity ∈ (document.string? "quantity").bind Swift.int?, ∃ check ∈ document.int? "check",
    check < quantity

/-- The answer about `id` writes the key. -/
def Writes (db : Database) (id : String) : SlotVisit → Prop
  | addBook adding _ => ∃ document ∈ (db .books)[id]?, document.Carries "name" adding.book.name
  | addStudent form _ => ∃ document ∈ (db .students)[id]?, document.Carries "ID" form.ID
  | borrow _ _ _ _ => ∃ document ∈ db.read .books id, Available document
  | editCard _ _ _ => ∃ document, document ∈ db.read .books id

/-- The book whose count a visit writes to the key, if it writes one. -/
def key (id : String) : SlotVisit → Option (CollectionName × String)
  | addBook _ _ => none
  | addStudent _ _ => none
  | borrow _ _ _ _ => some (CollectionName.books.document id)
  | editCard _ _ _ => some (CollectionName.books.document id)

instance (document : Document) : Decidable (Available document) :=
  inferInstanceAs (Decidable (∃ quantity ∈ _, ∃ check ∈ _, check < quantity))

instance (db : Database) (id : String) : DecidablePred (Writes db id)
  | addBook _ _ => inferInstanceAs (Decidable (∃ document ∈ _, _))
  | addStudent _ _ => inferInstanceAs (Decidable (∃ document ∈ _, _))
  | borrow _ _ _ _ => inferInstanceAs (Decidable (∃ document ∈ _, _))
  | editCard _ _ _ => decidable_of_iff ((db.read .books id).isSome) Option.isSome_iff_exists

/-- The answer to the read with number `i`, of the document `id`. -/
def answer (uppercased : String → String) (db : Database) (i : ℕ) (id : String) :
    SlotVisit → Handler SlotVisit
  | addBook adding raised => do
    AddBooksViewController.checkNewBookAnswer adding.book (db .books)[id]?
    return addBook { adding with reads := adding.reads.eraseIdx i }
      (raised || decide ((addBook adding raised).Writes db id))
  | addStudent form reads => do
    AddStudentsViewController.checkStudentAnswer
      (AddStudentsViewController.newStudent uppercased form) (db .students)[id]?
    return addStudent form (reads.eraseIdx i)
  | borrow s stage reads seen => do
    return borrow (← AddNewBorrowingCardViewController.bookAnswer s (db.read .books id)) stage
      (reads.eraseIdx i) (seen ++ count db id)
  | editCard closed reads seen => do
    EditBorrowCardViewController.bookAnswer (db.read .books id)
    return editCard closed (reads.eraseIdx i) (seen ++ count db id)

end SlotVisit

/-- The client and its visits, with the visit that wrote the key last and the book whose
count it wrote there. -/
structure SlotVisits where
  client : Client
  visits : List SlotVisit
  writer : Option (ℕ × Option (CollectionName × String))

/-- Before the first visit. -/
def SlotVisits.start (c : Client) : SlotVisits := ⟨c, [], none⟩

/-- A step of one of the visits. -/
inductive SlotStep
  /-- The lists of books and students are loaded. -/
  | load
  /-- The confirm of a new book, of a new student. -/
  | addBook (form : BookForm)
  | addStudent (form : StudentForm) (autoID : String)
  /-- A borrow screen, an edit-card screen opens. -/
  | openBorrow (s : AddNewBorrowingCardViewController.Screen)
  | openCard (cardID : String) (s : EditBorrowCardViewController.Screen)
  /-- The end of editing the book field of a borrow. -/
  | pick (n : ℕ) (entry : String)
  /-- The answer to one of the unanswered reads of a visit. -/
  | answer (n i : ℕ)
  /-- The next block of the confirm of a new book, when the form shows `shown`. -/
  | block (n : ℕ) (shown : BookForm)
  /-- The confirm of a borrow, and OK on its alert. -/
  | confirm (n : ℕ) (autoID : String)
  | ok (n : ℕ)
  /-- The confirm of an edit-card screen that shows `final`. -/
  | giveBack (n : ℕ) (final : EditBorrowCardViewController.Screen)

namespace SlotVisits

/-- The client moves on, and visit `n` with it. -/
def update (r : SlotVisits) (n : ℕ) (c : Client) (visit : SlotVisit) : SlotVisits :=
  { r with client := c, visits := r.visits.set n visit }

/-- One more visit. -/
def add (r : SlotVisits) (c : Client) (visit : SlotVisit) : SlotVisits :=
  { r with client := c, visits := r.visits ++ [visit] }

/-- Visit `n` has written the key. -/
def wrote (r : SlotVisits) (n : ℕ) (key : Option (CollectionName × String)) : SlotVisits :=
  { r with writer := some (n, key) }

/-- Both lists are loaded. -/
def loadLists (db : Database) : Handler Unit := do
  loadBookData (db .books)
  loadStudentData (db .students)

/-- The edit-card screen of the card `cardID` opens and reads its book. -/
def openCard (cardID : String) (s : EditBorrowCardViewController.Screen) : Handler String := do
  set "ID_current_bc" (some (.string cardID))
  document s.bookID

def step (uppercased : String → String) (r : SlotVisits) : SlotStep → Option SlotVisits
  | .load => (r.client.run (loadLists r.client.db)).map fun (_, c) => { r with client := c }
  | .addBook form =>
    (r.client.run (AddBooksViewController.confirmButton uppercased form)).map fun (book, c) =>
      match book with
      | none => { r with client := c }
      | some book => (r.add c (.addBook ⟨book, .check, []⟩ false)).wrote r.visits.length none
  | .addStudent form autoID =>
    if autoID ∈ r.client.db .students then none
    else (r.client.run (AddStudentsViewController.confirmButton uppercased form autoID)).map
      fun (waiting, c) => match waiting with
        -- The listener to the only student never touches the key.
        | .listener _ => r.add c (.addStudent form [])
        | .answers ids => (r.add c (.addStudent form ids)).wrote r.visits.length none
  | .openBorrow s => some (r.add r.client (.borrow s .picking [] []))
  | .openCard cardID s => (r.client.run (openCard cardID s)).map fun (asked, c) =>
      r.add c (.editCard false [asked] [])
  | .pick n entry => match r.visits[n]? with
    | some (.borrow s .picking reads seen) =>
      (r.client.run (AddNewBorrowingCardViewController.bookIDAction
        { s with idBook := entry })).map fun ((s, asked), c) =>
          r.update n c (.borrow s .picking (reads ++ asked.toList) seen)
    | _ => none
  | .answer n i => r.visits[n]?.bind fun visit => visit.reads[i]?.bind fun id =>
    (r.client.run (visit.answer uppercased r.client.db i id)).map fun (visit', c) =>
      if visit.Writes r.client.db id then (r.update n c visit').wrote n (visit.key id)
      else r.update n c visit'
  | .block n shown => match r.visits[n]? with
    | some (.addBook adding raised) =>
      if adding.next = .finished then none
      else (r.client.run (adding.block shown)).map fun (adding, c) =>
        r.update n c (.addBook adding raised)
    | _ => none
  | .confirm n autoID => match r.visits[n]? with
    | some (.borrow s .picking reads seen) =>
      if s.confirmEnabled = false ∨ autoID ∈ r.client.db .borrowCard then none
      else (r.client.run (AddNewBorrowingCardViewController.confirmAction s autoID)).map
        fun (_, c) => r.update n c (.borrow s .alert reads seen)
    | _ => none
  | .ok n => match r.visits[n]? with
    | some (.borrow s .alert reads seen) =>
      (r.client.run (AddNewBorrowingCardViewController.okAction s)).map fun (_, c) =>
        r.update n c (.borrow s .left reads seen)
    | _ => none
  | .giveBack n final => match r.visits[n]? with
    | some (.editCard false reads seen) =>
      (r.client.run (EditBorrowCardViewController.confirmButton final)).map fun (_, c) =>
        r.update n c (.editCard true reads seen)
    | _ => none

/-! ## What is to hold -/

/-- A number that is written is a count that the visit itself read from the book, plus or
minus one; a flag that is read is that of the visit's own test. -/
def Isolated (uppercased : String → String) (r t : SlotVisits) : SlotStep → Prop
  | .addStudent form autoID => ∀ ids ∈ r.client.temp["ID_students"]?.bind Value.strings?,
    ids.length ≠ 1 → t.client.db = Write.apply r.client.db
      (.addDocument .students autoID
        ((AddStudentsViewController.newStudent uppercased form).data "1"))
  | .block n _ => ∀ adding raised, r.visits[n]? = some (.addBook adding raised) →
    adding.next = .readFlag → t.visits[n]? =
      some (.addBook { adding with next := if raised then .finished else .save } raised)
  | .ok n => ∀ s stage reads seen, r.visits[n]? = some (.borrow s stage reads seen) →
    ∃ v, (CollectionName.books.document s.id, v) ∈ seen ∧ t.client.db =
      Write.apply r.client.db (.setAt .books s.id [("check", .number (v + 1))])
  | .giveBack n final => final.statusIsOn = false → ∀ visit, r.visits[n]? = some visit →
    ∃ card v, (CollectionName.books.document final.bookID, v) ∈ visit.seen ∧
      t.client.db = Write.applyAll r.client.db
      [.setAt .borrowCard card [("endedDay", .string final.endedDay), ("status", .string "0")],
        .setAt .books final.bookID [("check", .number (v - 1))]]
  | _ => True

/-- The condition on a step: what uses the key comes when the same visit wrote it last, for a
count with the answer about the book the step writes to. -/
def KeepsSlot (r : SlotVisits) : SlotStep → Prop
  | .block n _ => ∀ adding raised, r.visits[n]? = some (.addBook adding raised) →
    adding.next = .readFlag → r.writer = some (n, none)
  | .ok n => ∀ s stage reads seen, r.visits[n]? = some (.borrow s stage reads seen) →
    r.writer = some (n, some (CollectionName.books.document s.id))
  | .giveBack n final => final.statusIsOn = true ∨
    r.writer = some (n, some (CollectionName.books.document final.bookID))
  | _ => True

end SlotVisits

/-! ## Who vouches for the key -/

/-- What the visit says the key holds after it wrote a flag, or the count of a book. -/
def SlotVisit.Vouches (visit : SlotVisit) (slot : Option Value) :
    Option (CollectionName × String) → Prop
  | none => ∀ b ∈ visit.raised, slot = some (.bool b)
  | some book => ∀ v ∈ slot.bind Value.int?, (book, v) ∈ visit.seen

/-- The last writer of the key vouches for what it holds. -/
def SlotVisits.Vouched (r : SlotVisits) : Prop :=
  ∀ n key, r.writer = some (n, key) →
    ∃ visit, r.visits[n]? = some visit ∧ visit.Vouches r.client.temp["check"]? key

namespace SlotVisit

variable {uppercased : String → String} {db : Database} {d d' : Device} {visit visit' : SlotVisit}
  {i : ℕ} {id : String}

/-- What a visit vouches for it vouches for later, with more counts seen. -/
theorem Vouches.mono {slot : Option Value} {key : Option (CollectionName × String)}
    (h : visit.Vouches slot key)
    (hraised : visit'.raised = visit.raised) (hseen : visit.seen ⊆ visit'.seen) :
    visit'.Vouches slot key := by
  cases key with
  | none => exact fun b hb => h b (hraised ▸ hb)
  | some book => exact fun v hv => hseen (h v hv)

theorem mem_count {document : Document} {v : ℤ} (hdocument : db.read .books id = some document)
    (hv : document.int? "check" = some v) :
    (CollectionName.books.document id, v) ∈ count db id := by
  simp [count, hdocument, hv]

/-- An answer that writes the key leaves there what the visit vouches for; any other answer
leaves the key alone. -/
theorem answer_ok (h : visit.answer uppercased db i id d = .ok visit' d') :
    d'.writes = d.writes ∧
      (visit.Writes db id ∧ visit'.Vouches d'.temp["check"]? (visit.key id) ∨
        ¬ visit.Writes db id ∧ d'.temp["check"]? = d.temp["check"]? ∧
          visit'.raised = visit.raised ∧ visit.seen ⊆ visit'.seen) := by
  cases visit with
  | addBook adding raised =>
    simp only [answer, Traps.bind_eq_ok, Traps.pure_eq_ok] at h
    obtain ⟨_, _, hanswer, rfl, rfl⟩ := h
    obtain ⟨hwrites, ⟨hsame, htemp⟩ | ⟨hother, htemp⟩⟩ :=
      AddBooksViewController.checkNewBookAnswer_ok hanswer
    · -- The flag goes up, as the history of the visit does.
      have hraise : (addBook adding raised).Writes db id := hsame
      refine ⟨hwrites, .inl ⟨hraise, fun b hb => ?_⟩⟩
      obtain rfl : b = true := by simpa [SlotVisit.raised, hraise, eq_comm] using hb
      simp [htemp]
    · have hkeep : ¬ (addBook adding raised).Writes db id := hother
      exact ⟨hwrites, .inr ⟨hkeep, by rw [htemp], by simp [SlotVisit.raised, hkeep], fun _ h => h⟩⟩
  | addStudent form reads =>
    simp only [answer, Traps.bind_eq_ok, Traps.pure_eq_ok] at h
    obtain ⟨_, _, hanswer, rfl, rfl⟩ := h
    obtain ⟨hwrites, ⟨hsame, -⟩ | ⟨hother, htemp⟩⟩ :=
      AddStudentsViewController.checkStudentAnswer_ok hanswer
    · exact ⟨hwrites, .inl ⟨hsame, fun b hb => by cases hb⟩⟩
    · exact ⟨hwrites, .inr ⟨hother, by rw [htemp], rfl, fun _ h => h⟩⟩
  | borrow s stage reads seen =>
    simp only [answer, Traps.bind_eq_ok, Traps.pure_eq_ok] at h
    obtain ⟨s', d', hanswer, rfl, rfl⟩ := h
    cases hbook : db.read .books id with
    | none =>
      rw [hbook, AddNewBorrowingCardViewController.bookAnswer_none_eq_ok] at hanswer
      obtain ⟨rfl, rfl⟩ := hanswer
      exact ⟨rfl, .inr ⟨by simp [Writes, hbook], rfl, rfl, List.subset_append_left _ _⟩⟩
    | some book =>
      rw [hbook, AddNewBorrowingCardViewController.bookAnswer_some_eq_ok] at hanswer
      obtain ⟨quantity, check, hquantity, hcheck, ⟨hlt, rfl, rfl⟩ | ⟨hle, rfl, rfl⟩⟩ := hanswer
      · refine ⟨rfl, .inl ⟨⟨book, hbook, quantity, hquantity, check, hcheck, hlt⟩, fun v hv => ?_⟩⟩
        obtain rfl : check = v := by simpa using hv
        exact List.mem_append_right _ (mem_count hbook hcheck)
      · -- No copy is left, so the answer disables the button and stores no count.
        refine ⟨rfl, .inr ⟨?_, rfl, rfl, List.subset_append_left _ _⟩⟩
        rintro ⟨book', hbook', quantity', hquantity', check', hcheck', hlt⟩
        obtain rfl := Option.some.inj (hbook.symm.trans hbook')
        obtain rfl := Option.some.inj (hquantity.symm.trans hquantity')
        obtain rfl := Option.some.inj (hcheck.symm.trans hcheck')
        omega
  | editCard closed reads seen =>
    simp only [answer, Traps.bind_eq_ok, Traps.pure_eq_ok] at h
    obtain ⟨_, d', hanswer, rfl, rfl⟩ := h
    obtain ⟨hwrites, -, hnone, hsome⟩ := EditBorrowCardViewController.bookAnswer_ok hanswer
    refine ⟨hwrites, ?_⟩
    cases hbook : db.read .books id with
    | none =>
      exact .inr ⟨by simp [Writes, hbook], hnone hbook, rfl, List.subset_append_left _ _⟩
    | some book =>
      refine .inl ⟨⟨book, hbook⟩, fun v hv => List.mem_append_right _ (mem_count hbook ?_)⟩
      rw [hsome book hbook, Document.int?_ofField] at hv
      exact hv

end SlotVisit

namespace SlotVisits

variable {uppercased : String → String} {r t : SlotVisits} {n : ℕ} {c : Client}
  {visit visit' : SlotVisit}

theorem vouched_start (c : Client) : (start c).Vouched := by
  intro n key hwriter
  cases hwriter

theorem Vouched.update (h : r.Vouched) (hvisit : r.visits[n]? = some visit)
    (hraised : visit'.raised = visit.raised) (hseen : visit.seen ⊆ visit'.seen)
    (hslot : c.temp["check"]? = r.client.temp["check"]?) : (r.update n c visit').Vouched := by
  intro m key hwriter
  obtain ⟨writer, hm, hvouches⟩ := h m key hwriter
  rw [SlotVisits.update, hslot]
  by_cases hnm : n = m
  · subst hnm
    obtain rfl := Option.some.inj (hvisit.symm.trans hm)
    obtain ⟨hlt, -⟩ := List.getElem?_eq_some_iff.1 hvisit
    exact ⟨visit', List.getElem?_set_self hlt, hvouches.mono hraised hseen⟩
  · exact ⟨writer, by rw [List.getElem?_set_ne hnm, hm], hvouches⟩

theorem Vouched.add (h : r.Vouched) (hslot : c.temp["check"]? = r.client.temp["check"]?) :
    (r.add c visit).Vouched := by
  intro m key hwriter
  obtain ⟨writer, hm, hvouches⟩ := h m key hwriter
  obtain ⟨hlt, -⟩ := List.getElem?_eq_some_iff.1 hm
  refine ⟨writer, ?_, hslot ▸ hvouches⟩
  rw [SlotVisits.add, List.getElem?_append_left hlt, hm]

theorem vouched_wrote {key : Option (CollectionName × String)} (hvisit : r.visits[n]? = some visit)
    (hvouches : visit.Vouches r.client.temp["check"]? key) : (r.wrote n key).Vouched := by
  intro m key' hwriter
  obtain ⟨rfl, rfl⟩ := Prod.mk.inj (Option.some.inj hwriter)
  exact ⟨visit, hvisit, hvouches⟩

/-- Every step keeps the last writer vouching for the key. -/
theorem vouched_step {e : SlotStep} (hr : r.Vouched) (h : r.step uppercased e = some t) :
    t.Vouched := by
  cases e with
  | load =>
    simp only [step] at h
    obtain ⟨_, d, hload, rfl⟩ := Client.map_run_eq_some.1 h
    simp only [loadLists, Traps.bind_eq_ok, loadBookData_eq_ok, loadStudentData_eq_ok,
      exists_const, exists_eq_left'] at hload
    subst hload
    intro n key hwriter
    obtain ⟨writer, hn, hvouches⟩ := hr n key hwriter
    refine ⟨writer, hn, ?_⟩
    simpa [UserDefaults.getElem?_insert] using hvouches
  | addBook form =>
    obtain ⟨book, d, hconfirm, rfl⟩ := Client.map_run_eq_some.1 h
    rcases AddBooksViewController.confirmButton_eq_ok.1 hconfirm with
      ⟨-, rfl, rfl⟩ | ⟨-, quantity, -, rfl, rfl⟩
    · exact hr
    · refine vouched_wrote List.getElem?_concat_length fun b hb => ?_
      obtain rfl : false = b := by simpa [SlotVisit.raised] using hb
      simp [SlotVisits.add]
  | addStudent form autoID =>
    simp only [step] at h
    split at h
    · cases h
    obtain ⟨waiting, d, hconfirm, rfl⟩ := Client.map_run_eq_some.1 h
    obtain ⟨ids, -, ⟨⟨id, -, rfl⟩, rfl⟩ | ⟨-, rfl, -⟩⟩ :=
      AddStudentsViewController.confirmButton_ok hconfirm
    · exact hr.add rfl
    · exact vouched_wrote List.getElem?_concat_length fun b hb => by cases hb
  | openBorrow s =>
    obtain rfl := Option.some.inj h
    exact hr.add rfl
  | openCard cardID s =>
    obtain ⟨asked, d, hopen, rfl⟩ := Client.map_run_eq_some.1 h
    simp only [openCard, Traps.bind_eq_ok, set_eq_ok, document_eq_ok, exists_const,
      exists_eq_left'] at hopen
    obtain ⟨-, rfl, rfl⟩ := hopen
    exact hr.add (by simp [UserDefaults.getElem?_insert])
  | pick n entry =>
    simp only [step] at h
    split at h
    · next s reads seen hvisit =>
      obtain ⟨⟨s', asked⟩, d, hpick, rfl⟩ := Client.map_run_eq_some.1 h
      obtain ⟨rfl, -⟩ := AddNewBorrowingCardViewController.bookIDAction_eq_ok.1 hpick
      exact hr.update hvisit rfl (fun _ h => h) rfl
    · cases h
  | answer n i =>
    obtain ⟨visit, hvisit, h⟩ := Option.bind_eq_some_iff.1 h
    obtain ⟨id, hid, h⟩ := Option.bind_eq_some_iff.1 h
    obtain ⟨visit', d, hanswer, rfl⟩ := Client.map_run_eq_some.1 h
    obtain ⟨-, ⟨hwrites, hvouches⟩ | ⟨hkeeps, hslot, hraised, hseen⟩⟩ := SlotVisit.answer_ok hanswer
    · obtain ⟨hlt, -⟩ := List.getElem?_eq_some_iff.1 hvisit
      simp only [if_pos hwrites]
      exact vouched_wrote (List.getElem?_set_self hlt) hvouches
    · simp only [if_neg hkeeps]
      exact hr.update hvisit hraised hseen hslot
  | block n shown =>
    simp only [step] at h
    split at h
    · next adding raised hvisit =>
      split at h
      · cases h
      obtain ⟨adding', d, hblock, rfl⟩ := Client.map_run_eq_some.1 h
      refine hr.update hvisit rfl (fun _ h => h) ?_
      rw [AddBooksViewController.Adding.block_temp hblock]
    · cases h
  | confirm n autoID =>
    simp only [step] at h
    split at h
    · next s reads seen hvisit =>
      split at h
      · cases h
      obtain ⟨_, d, hconfirm, rfl⟩ := Client.map_run_eq_some.1 h
      obtain rfl := AddNewBorrowingCardViewController.confirmAction_eq_ok.1 hconfirm
      exact hr.update hvisit rfl (fun _ h => h) rfl
    · cases h
  | ok n =>
    simp only [step] at h
    split at h
    · next s reads seen hvisit =>
      obtain ⟨_, d, hok, rfl⟩ := Client.map_run_eq_some.1 h
      obtain ⟨-, check, -, -, rfl⟩ := AddNewBorrowingCardViewController.okAction_eq_ok.1 hok
      exact hr.update hvisit rfl (fun _ h => h) rfl
    · cases h
  | giveBack n final =>
    simp only [step] at h
    split at h
    · next reads seen hvisit =>
      obtain ⟨_, d, hconfirm, rfl⟩ := Client.map_run_eq_some.1 h
      obtain ⟨ID, -, -, ⟨-, rfl⟩ | ⟨-, -, check, -, -, rfl⟩⟩ :=
        EditBorrowCardViewController.confirmButton_eq_ok.1 hconfirm
      · exact hr.update hvisit rfl (fun _ h => h) rfl
      · exact hr.update hvisit rfl (fun _ h => h) rfl
    · cases h

/-- What the last writer vouches for is what a step that meets the condition uses. -/
theorem isolated_step {e : SlotStep} (hr : r.Vouched) (hkeeps : r.KeepsSlot e)
    (h : r.step uppercased e = some t) : r.Isolated uppercased t e := by
  cases e with
  | addStudent form autoID =>
    intro ids hids hmany
    simp only [step] at h
    split at h
    · cases h
    obtain ⟨waiting, d, hconfirm, rfl⟩ := Client.map_run_eq_some.1 h
    obtain ⟨ids', hids', ⟨⟨id, rfl, -⟩, -⟩ | ⟨-, rfl, hwrites⟩⟩ :=
      AddStudentsViewController.confirmButton_ok hconfirm
    · obtain rfl := Option.some.inj (hids.symm.trans hids')
      exact absurd rfl hmany
    · show Write.applyAll r.client.db d.writes = _
      rw [hwrites]
      rfl
  | block n shown =>
    intro adding raised hvisit hnext
    -- The flag is what the answers of this visit, and of no other, have left.
    obtain ⟨visit, hn, hvouches⟩ := hr n none (hkeeps adding raised hvisit hnext)
    obtain rfl := Option.some.inj (hvisit.symm.trans hn)
    have hslot := hvouches raised rfl
    simp only [step, hvisit] at h
    split at h
    · cases h
    obtain ⟨adding', d, hblock, rfl⟩ := Client.map_run_eq_some.1 h
    have hread := AddBooksViewController.Adding.block_ok hblock
    simp only [hnext, hslot, Option.bind_some, Value.bool?_bool, Option.some.injEq,
      exists_eq_left'] at hread
    obtain ⟨hlt, -⟩ := List.getElem?_eq_some_iff.1 hvisit
    rw [SlotVisits.update, List.getElem?_set_self hlt, hread.1]
  | ok n =>
    intro s stage reads seen hvisit
    -- The count is one that this visit has read for its own book.
    obtain ⟨visit, hn, hvouches⟩ := hr n _ (hkeeps s stage reads seen hvisit)
    obtain rfl := Option.some.inj (hvisit.symm.trans hn)
    simp only [step, hvisit] at h
    split at h
    · next hsome =>
      obtain ⟨rfl, rfl, rfl, rfl⟩ := SlotVisit.borrow.inj (Option.some.inj hsome)
      obtain ⟨_, d, hok, rfl⟩ := Client.map_run_eq_some.1 h
      obtain ⟨-, check, hcheck, -, rfl⟩ := AddNewBorrowingCardViewController.okAction_eq_ok.1 hok
      exact ⟨check, hvouches check hcheck, rfl⟩
    · cases h
  | giveBack n final =>
    intro hoff visit hvisit
    have hwriter := hkeeps.resolve_left (by simp [hoff])
    obtain ⟨writer, hn, hvouches⟩ := hr n _ hwriter
    obtain rfl := Option.some.inj (hvisit.symm.trans hn)
    simp only [step, hvisit] at h
    split at h
    · next reads seen hsome =>
      obtain rfl := Option.some.inj hsome
      obtain ⟨_, d, hconfirm, rfl⟩ := Client.map_run_eq_some.1 h
      obtain ⟨ID, -, -, ⟨hon, -⟩ | ⟨-, -, check, hcheck, -, rfl⟩⟩ :=
        EditBorrowCardViewController.confirmButton_eq_ok.1 hconfirm
      · rw [hon] at hoff
        cases hoff
      · exact ⟨ID, check, hvouches check hcheck, rfl⟩
    · cases h
  | _ => trivial

end SlotVisits

/-! ## Every run -/

/-- In every run whose steps meet the condition each step uses only what its own visit wrote
to the key. -/
theorem isolated_of_run {uppercased : String → String} {c : Client} {es : List SlotStep}
    {r t : SlotVisits} {e : SlotStep}
    (h : Run (Guarded SlotVisits.KeepsSlot (Steps (SlotVisits.step uppercased)))
      (SlotVisits.start c) es r)
    (hkeeps : r.KeepsSlot e) (hstep : Steps (SlotVisits.step uppercased) r e t) :
    r.Isolated uppercased t e :=
  SlotVisits.isolated_step
    (h.invariant SlotVisits.Vouched (SlotVisits.vouched_start c)
      fun _ _ _ hr hstep => SlotVisits.vouched_step hr hstep.2) hkeeps hstep

namespace Sample

/-- Two copies of one book, of which one is lent, and one copy of another book. -/
def twoBooks : Client where
  temp := ∅
  db := Function.update Database.empty .books (((∅ : Collection).insert "B1" (Document.merge ∅
      ((AddBooksViewController.newBook Swift.asciiUppercased (form "B1" "One" "2") 2).newData ++
        [("check", .number 1)]))).insert "B2" (Document.merge ∅
      (AddBooksViewController.newBook Swift.asciiUppercased (form "B2" "Two" "1") 1).newData))

abbrev slotStep : SlotVisits → SlotStep → Option SlotVisits :=
  SlotVisits.step Swift.asciiUppercased

/-- The borrow screen as it opens. -/
def openedScreen : AddNewBorrowingCardViewController.Screen where
  name := "AN"
  idStudent := "1712001"
  idBook := ""
  startedDay := ""
  notice := none
  confirmEnabled := true
  id := ""
  bookName := ""

/-- One book is picked, and its answer comes before the confirm. -/
def onePicked : Reached (Guarded SlotVisits.KeepsSlot (Steps slotStep)) (SlotVisits.start twoBooks) :=
  let opened := Reached.start.takeGuarded (.openBorrow openedScreen) trivial (by decide +kernel)
  let picked := opened.takeGuarded (.pick 0 "B2-TWO") trivial (by decide +kernel)
  let answered := picked.takeGuarded (.answer 0 0) trivial (by decide +kernel)
  answered.takeGuarded (.confirm 0 "K1") trivial (by decide +kernel)

/-- Two books are picked, and the answer about the first one comes last. -/
def twoPicked : Reached (Steps slotStep) (SlotVisits.start twoBooks) :=
  let opened := Reached.start.take (.openBorrow openedScreen) (by decide +kernel)
  let one := opened.take (.pick 0 "B1-ONE") (by decide +kernel)
  let two := one.take (.pick 0 "B2-TWO") (by decide +kernel)
  let answered := two.take (.answer 0 1) (by decide +kernel)
  let late := answered.take (.answer 0 0) (by decide +kernel)
  late.take (.confirm 0 "K1") (by decide +kernel)

end Sample

theorem isolated_onePicked : SlotVisits.Isolated Swift.asciiUppercased Sample.onePicked.state
    (after Sample.slotStep Sample.onePicked.state (.ok 0)) (.ok 0) := by
  refine isolated_of_run Sample.onePicked.run ?_ (steps_after (by decide +kernel))
  have hwriter : Sample.onePicked.state.writer =
      some (0, some (CollectionName.books.document "B2")) := by decide +kernel
  have hvisit : Sample.onePicked.state.visits[0]? = some (.borrow { Sample.openedScreen with
      idBook := "B2-TWO", id := "B2", bookName := "TWO",
      notice := some "* This book is available to borrow" } .alert [] [((.books, "B2"), 0)]) := by
    decide +kernel
  intro s stage reads seen hs
  obtain ⟨rfl, -⟩ := SlotVisit.borrow.inj (Option.some.inj (hvisit.symm.trans hs))
  exact hwriter

/-- The count of the first book, plus one, is stored as that of the second. -/
theorem isolated_fails : ¬ ∀ (c : Client) (es : List SlotStep) (r t : SlotVisits) (e : SlotStep),
    Run (Steps (SlotVisits.step Swift.asciiUppercased)) (SlotVisits.start c) es r →
      Steps (SlotVisits.step Swift.asciiUppercased) r e t →
        r.Isolated Swift.asciiUppercased t e := by
  intro hall
  have hvisit : Sample.twoPicked.state.visits[0]? = some (.borrow { Sample.openedScreen with
      idBook := "B2-TWO", id := "B2", bookName := "TWO",
      notice := some "* This book is available to borrow" } .alert []
        [((.books, "B2"), 0), ((.books, "B1"), 1)]) := by
    decide +kernel
  obtain ⟨v, hv, hdb⟩ := hall _ _ _ _ (.ok 0) Sample.twoPicked.run
    (steps_after (by decide +kernel)) _ _ _ _ hvisit
  obtain rfl : v = 0 := by
    rw [show CollectionName.books.document "B2" = (.books, "B2") by decide +kernel] at hv
    simpa [Sample.openedScreen] using hv
  have hcheck := congrArg (fun db : Database => (db .books)["B2"]?.bind (·.int? "check")) hdb
  revert hcheck
  decide +kernel

end LibraryManagement
