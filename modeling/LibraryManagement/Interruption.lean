import LibraryManagement.VisitsTheorems

/-!
# Interrupted confirms

A borrow stores a card when the button is pressed and raises the book's count when OK is
tapped on the alert; a return closes the card and lowers the count in one handler. The two
writes of either are independent: there is no transaction. The app may be closed or trap
before the second one, and Firestore may refuse either of them.

`confirm_interrupted` says what the database is then: the state before with exactly those of
the two effects whose write was handed over and accepted, and when that is all or nothing.
-/

namespace LibraryManagement

open Handler

/-- A confirm of the borrow screen, or of the edit-card screen with the switch off. -/
inductive Operation
  | borrow (s : AddNewBorrowingCardViewController.Screen) (autoID : String)
  | giveBack (s : EditBorrowCardViewController.Screen)

namespace Operation

/-- The handlers of the operation, one after the other. -/
def confirm : Operation → Handler Unit
  | borrow s autoID => do
    AddNewBorrowingCardViewController.confirmAction s autoID
    AddNewBorrowingCardViewController.okAction s
  | giveBack s => EditBorrowCardViewController.confirmButton { s with statusIsOn := false }

/-- The write that creates or closes the card. -/
def cardWrite (temp : UserDefaults) : Operation → Option Write
  | borrow s autoID => some (.addDocument .borrowCard autoID s.card.data)
  | giveBack s => do
    let ID ← temp["ID_current_bc"]?.bind Value.string?
    guard (IsDocumentPath ID)
    return .setAt .borrowCard ID [("endedDay", .string s.endedDay), ("status", .string "0")]

/-- The write that raises or lowers the count of the book. -/
def bookWrite (temp : UserDefaults) : Operation → Option Write
  | borrow s _ => do
    guard (IsDocumentPath s.id)
    let check ← temp["check"]?.bind Value.int?
    return .setAt .books s.id [("check", .number (← Swift.add? check 1))]
  | giveBack s => do
    guard (IsDocumentPath s.bookID)
    let check ← temp["check"]?.bind Value.int?
    return .setAt .books s.bookID [("check", .number (← Swift.sub? check 1))]

end Operation

/-- The writes a handler hands to Firestore, those before a trap included. -/
def issued (h : Handler Unit) (temp : UserDefaults) : List Write :=
  match h ⟨temp, []⟩ with
  | .ok _ d => d.writes
  | .error _ d => d.writes

/-- How a visit is interrupted. -/
structure Interruption where
  /-- How many writes are handed over before the app is closed. -/
  stop : ℕ
  /-- Whether Firestore accepts the write with this number. -/
  accepts : ℕ → Bool

namespace Interruption

/-- The write with this number takes effect, if it is issued. -/
def Takes (i : Interruption) (n : ℕ) : Prop := n < i.stop ∧ i.accepts n = true

instance (i : Interruption) (n : ℕ) : Decidable (i.Takes n) := inferInstanceAs (Decidable (_ ∧ _))

/-- The database after the writes that took effect. -/
def outcome (i : Interruption) (db : Database) (ws : List Write) : Database :=
  Write.applyAll db ((ws.zipIdx.filter fun w => i.Takes w.2).map Prod.fst)

end Interruption

namespace Interruption

/-- The card's write was handed over and accepted. -/
def CardDone (i : Interruption) (op : Operation) (temp : UserDefaults) : Prop :=
  i.Takes 0 ∧ (op.cardWrite temp).isSome = true

/-- The book's write was handed over, after the card's, and accepted. -/
def BookDone (i : Interruption) (op : Operation) (temp : UserDefaults) : Prop :=
  i.Takes 1 ∧ (op.cardWrite temp).isSome = true ∧ (op.bookWrite temp).isSome = true

instance (i : Interruption) (op : Operation) (temp : UserDefaults) :
    Decidable (i.CardDone op temp) := inferInstanceAs (Decidable (_ ∧ _))

instance (i : Interruption) (op : Operation) (temp : UserDefaults) :
    Decidable (i.BookDone op temp) := inferInstanceAs (Decidable (_ ∧ _))

end Interruption

/-- The state before, or the state with both effects. -/
def AllOrNothing (op : Operation) (temp : UserDefaults) (db db' : Database) : Prop :=
  db' = db ∨ ∃ card ∈ op.cardWrite temp, ∃ book ∈ op.bookWrite temp,
    db' = Write.applyAll db [card, book]

/-! ## What an operation hands over -/

/-- The card's write comes first; a trap leaves the book's write out. -/
theorem issued_confirm (op : Operation) (temp : UserDefaults) :
    issued op.confirm temp = match op.cardWrite temp with
      | some card => card :: (op.bookWrite temp).toList
      | none => [] := by
  cases op with
  | borrow s autoID =>
    simp only [issued, Operation.confirm, Operation.cardWrite, Operation.bookWrite,
      AddNewBorrowingCardViewController.confirmAction, BorrowCard.addCard, addDocument,
      AddNewBorrowingCardViewController.okAction, Traps.bind_apply, write_apply, document_apply,
      forced_apply, Traps.checked_apply]
    -- A trap after the card write leaves it issued, so each possible trap is a case.
    by_cases hid : IsDocumentPath s.id
    · cases hcheck : temp["check"]?.bind Value.int? with
      | none =>
        simp [hid, hcheck]
        rfl
      | some check =>
        cases hsum : Swift.add? check 1 <;> simp [hid, hcheck, hsum] <;> rfl
    · simp [hid, guard]
      rfl
  | giveBack s =>
    simp only [issued, Operation.confirm, Operation.cardWrite, Operation.bookWrite,
      EditBorrowCardViewController.confirmButton, setData, if_true, Traps.bind_apply, write_apply,
      document_apply, forced_apply, Traps.checked_apply]
    cases hID : temp["ID_current_bc"]?.bind Value.string? with
    | none => simp
    | some ID =>
      by_cases hdoc : IsDocumentPath ID
      · by_cases hid : IsDocumentPath s.bookID
        · cases hcheck : temp["check"]?.bind Value.int? with
          | none => simp [hid, hdoc, hcheck]
          | some check => cases hsum : Swift.sub? check 1 <;> simp [hid, hdoc, hcheck, hsum]
        · simp [hid, hdoc, guard]
      · simp [hdoc, guard]

theorem root_of_cardWrite {op : Operation} {temp : UserDefaults} {card : Write}
    (h : op.cardWrite temp = some card) : card.collection.root = .borrowCard := by
  cases op with
  | borrow s autoID =>
    obtain rfl := Option.some.inj h
    rfl
  | giveBack s =>
    simp only [Operation.cardWrite, Option.bind_eq_bind, Option.bind_eq_some_iff,
      Option.pure_def, Option.some.injEq] at h
    obtain ⟨ID, -, -, -, rfl⟩ := h
    exact CollectionName.root_document .borrowCard ID

theorem root_of_bookWrite {op : Operation} {temp : UserDefaults} {book : Write}
    (h : op.bookWrite temp = some book) : book.collection.root = .books := by
  cases op with
  | borrow s autoID =>
    simp only [Operation.bookWrite, Option.bind_eq_bind, Option.bind_eq_some_iff,
      Option.pure_def, Option.some.injEq] at h
    obtain ⟨-, -, check, -, n, -, rfl⟩ := h
    exact CollectionName.root_document .books s.id
  | giveBack s =>
    simp only [Operation.bookWrite, Option.bind_eq_bind, Option.bind_eq_some_iff,
      Option.pure_def, Option.some.injEq] at h
    obtain ⟨-, -, check, -, n, -, rfl⟩ := h
    exact CollectionName.root_document .books s.bookID

/-! ## What takes effect -/

/-- The outcome is the state before with the effects that were done. -/
theorem outcome_confirm (op : Operation) (temp : UserDefaults) (db : Database) (i : Interruption) :
    i.outcome db (issued op.confirm temp) = Write.applyAll db
      ((if i.CardDone op temp then (op.cardWrite temp).toList else []) ++
        if i.BookDone op temp then (op.bookWrite temp).toList else []) := by
  rw [issued_confirm, Interruption.outcome]
  cases hcard : op.cardWrite temp with
  | none => simp [Interruption.CardDone, Interruption.BookDone, hcard]
  | some card =>
    cases hbook : op.bookWrite temp with
    | none =>
      by_cases h0 : i.Takes 0 <;> simp [Interruption.CardDone, Interruption.BookDone, hcard, hbook, h0]
    | some book =>
      by_cases h0 : i.Takes 0 <;> by_cases h1 : i.Takes 1 <;>
        simp [Interruption.CardDone, Interruption.BookDone, hcard, hbook, h0, h1]

/-- The exact outcome of a confirm that is interrupted anywhere, and when it is all or
nothing: both effects are done or none, or one of the writes changes nothing. -/
theorem confirm_interrupted (op : Operation) (temp : UserDefaults) (db : Database)
    (i : Interruption) :
    i.outcome db (issued op.confirm temp) = Write.applyAll db
        ((if i.CardDone op temp then (op.cardWrite temp).toList else []) ++
          if i.BookDone op temp then (op.bookWrite temp).toList else []) ∧
      (AllOrNothing op temp db (i.outcome db (issued op.confirm temp)) ↔
        (i.CardDone op temp ↔ i.BookDone op temp) ∨
          (∃ card ∈ op.cardWrite temp, card.apply db = db) ∨
          ∃ book ∈ op.bookWrite temp, book.apply db = db) := by
  refine ⟨outcome_confirm op temp db i, ?_⟩
  rw [outcome_confirm, AllOrNothing]
  cases hcard : op.cardWrite temp with
  | none => simp [Interruption.CardDone, Interruption.BookDone, hcard]
  | some card =>
    cases hbook : op.bookWrite temp with
    | none =>
      by_cases h0 : i.Takes 0 <;> simp [Interruption.CardDone, Interruption.BookDone, hcard, hbook, h0]
    | some book =>
      have hne : card.collection ≠ book.collection := by
        intro heq
        have hroot := congrArg CollectionName.root heq
        rw [root_of_cardWrite hcard, root_of_bookWrite hbook] at hroot
        cases hroot
      -- The lone write of the card, and that of the book, against the state with both.
      have hcardOnly : card.apply db = book.apply (card.apply db) ↔ book.apply db = db :=
        eq_comm.trans (Write.apply_apply_eq_self_iff db hne)
      have hbookOnly : book.apply db = book.apply (card.apply db) ↔ card.apply db = db := by
        rw [Write.apply_comm db hne]
        exact eq_comm.trans (Write.apply_apply_eq_self_iff db hne.symm)
      by_cases h0 : i.Takes 0 <;> by_cases h1 : i.Takes 1 <;>
        simp [Interruption.CardDone, Interruption.BookDone, hcard, hbook, h0, h1, hcardOnly,
          hbookOnly, or_comm]

/-- A stored book with one copy, picked on the borrow screen. -/
def Sample.shelf : Database :=
  Function.update Database.empty .books ((∅ : Collection).insert "B1"
    (Document.merge ∅ (AddBooksViewController.newBook Swift.asciiUppercased
      (form "B1" "One" "1") 1).newData))

def Sample.picked : Operation :=
  .borrow { name := "AN", idStudent := "1712001", idBook := "B1-ONE", startedDay := "02/06/2020",
            notice := some "* This book is available to borrow", confirmEnabled := true,
            id := "B1", bookName := "ONE" } "K1"

/-- The app is closed before OK is tapped: the card is stored, and the book's count is not. -/
theorem confirm_not_atomic : ¬ ∀ (op : Operation) (temp : UserDefaults) (db : Database)
    (i : Interruption), AllOrNothing op temp db (i.outcome db (issued op.confirm temp)) := by
  intro hall
  rcases hall Sample.picked ((∅ : UserDefaults).insert "check" (.int 0)) Sample.shelf
    ⟨1, fun _ => true⟩ with hbefore | ⟨card, hcard, book, hbook, hboth⟩
  · have hstored := congrArg (fun db : Database => (db .borrowCard)["K1"]?.isSome) hbefore
    revert hstored
    decide +kernel
  · obtain rfl := Option.some.inj hcard
    have hraised : Sample.picked.bookWrite ((∅ : UserDefaults).insert "check" (.int 0))
        = some (.setAt .books "B1" [("check", .number 1)]) := by decide +kernel
    obtain rfl := Option.some.inj (hraised.symm.trans hbook)
    have hcount := congrArg (fun db : Database => (db .books)["B1"]?.bind (·.int? "check")) hboth
    revert hcount
    decide +kernel

end LibraryManagement
