import LibraryManagement.Lib.Ledger
import LibraryManagement.Lib.Simulation
import LibraryManagement.Stock

/-!
# The books and the cards are a ledger

The app keeps the stock and the lent count of a book as two fields of one document and the loans as
open cards in another collection. A `Ledger` has the stock and the loans only, and its lent count
is the number of loans. The visits that keep the bookkeeping right simulate it (`simulates_ledger`):
an add or an edit of a book sets a stock, a borrow lends a copy, a return gives one back, and any
other visit does nothing. So the counts that are kept by hand are those of the ledger in every run
(`refines_of_run`).
-/

namespace LibraryManagement

open Transition

/-! ## The ledger of a database -/

/-- The number of copies that a book document stores. -/
def quantityOf (book : Document) : ℕ :=
  (((book.string? "quantity").bind Swift.int?).map Int.toNat).getD 0

def stockOf (db : Database) (id : String) : ℕ := ((db .books)[id]?.map quantityOf).getD 0

/-- The book of an open card. -/
def loanOf (db : Database) (cardID : String) : Option String :=
  (db .borrowCard)[cardID]?.bind fun card =>
    if card.string? "status" = some "1" then card.string? "ID_book" else none

/-- The database stores this ledger. -/
structure Stores (db : Database) (l : Ledger String String) : Prop where
  stock : l.stock = stockOf db
  loan : l.loan = loanOf db

variable {db db' : Database} {l : Ledger String String} {id cardID : String}

theorem loanOf_eq_some : loanOf db cardID = some id ↔
    ∃ card : Document, (db .borrowCard)[cardID]? = some card ∧ IsOpenCard id card = true := by
  rw [loanOf, Option.bind_eq_some_iff]
  refine exists_congr fun card => and_congr_right fun _ => ?_
  simp only [IsOpenCard, decide_eq_true_eq]
  split
  · next hopen => simp [hopen]
  · next hclosed => simp [hclosed]

/-- The lent copies of a book are its open cards. -/
theorem Stores.lent (h : Stores db l) (id : String) : l.lent id = openCards db id := by
  rw [Ledger.lent, openCards, ← Std.ExtTreeMap.encard_setOf_getElem?]
  congr 1
  ext cardID
  rw [Set.mem_ofPred_eq, h.loan, loanOf_eq_some, Set.mem_ofPred_eq]

theorem stores_empty : Stores Database.empty Ledger.empty where
  stock := by
    funext id
    simp [Ledger.empty, stockOf, Database.empty]
  loan := by
    funext cardID
    simp [Ledger.empty, loanOf, Database.empty]

/-! ## Writes -/

/-- Writing to one book may change its stock only. -/
theorem stockOf_override {data : List (String × FieldValue)}
    (hbooks : db' .books = (db .books).override id data) :
    stockOf db' = Function.update (stockOf db) id
      (quantityOf (Document.merge (((db .books)[id]?).getD ∅) data)) := by
  funext a
  rw [stockOf, hbooks, Collection.getElem?_override, Function.update_apply]
  by_cases ha : id = a
  · rw [if_pos ha, if_pos ha.symm, Option.map_some, Option.getD_some]
  · rw [if_neg ha, if_neg (Ne.symm ha), stockOf]

/-- Counting a loan leaves the stock. -/
theorem stockOf_check {book : Document} (hbook : (db .books)[id]? = some book) {check : ℤ}
    (hbooks : db' .books = (db .books).override id [("check", .number check)]) :
    stockOf db' = stockOf db := by
  have hsame : quantityOf (book.merge [("check", .number check)]) = stockOf db id := by
    simp [quantityOf, stockOf, hbook, Document.merge_cons]
  rw [stockOf_override hbooks, hbook, Option.getD_some, hsame, Function.update_eq_self]

theorem stockOf_congr (hbooks : db' .books = db .books) : stockOf db' = stockOf db := by
  funext id
  rw [stockOf, hbooks, stockOf]

theorem loanOf_congr (hcards : db' .borrowCard = db .borrowCard) : loanOf db' = loanOf db := by
  funext cardID
  rw [loanOf, hcards, loanOf]

/-- A new card is a loan of its book. -/
theorem loanOf_insert {card : BorrowCard} (hstatus : card.status = 1)
    (hcards : db' .borrowCard = (db .borrowCard).insert cardID (Document.merge ∅ card.data)) :
    loanOf db' = Function.update (loanOf db) cardID (some card.idBook) := by
  have hone : Swift.description 1 = "1" := rfl
  funext a
  rw [loanOf, hcards, Collection.getElem?_insert, Function.update_apply]
  by_cases ha : cardID = a
  · rw [if_pos ha, if_pos ha.symm]
    simp [BorrowCard.data, Document.merge_cons, hstatus, hone]
  · rw [if_neg ha, if_neg (Ne.symm ha), loanOf]

/-- A closed card is no loan. -/
theorem loanOf_close {endedDay : String}
    (hcards : db' .borrowCard = (db .borrowCard).override cardID
      [("endedDay", .string endedDay), ("status", .string "0")]) :
    loanOf db' = Function.update (loanOf db) cardID none := by
  funext a
  rw [loanOf, hcards, Collection.getElem?_override, Function.update_apply]
  by_cases ha : cardID = a
  · rw [if_pos ha, if_pos ha.symm]
    simp [Document.merge_cons]
  · rw [if_neg ha, if_neg (Ne.symm ha), loanOf]

/-! ## One visit -/

/-- The visits that keep the count, and that lower no quantity below the copies that are lent. -/
structure Visit.KeepsLedger (uppercased : String → String) (c : Client) (visit : Visit) : Prop where
  count : visit.KeepsCount uppercased c
  quantity : ∀ row form, visit = .editBook row form → visit.KeepsStock uppercased c

/-- The ledger is stored, and its lent copies are counted. -/
structure Kept (c : Client) (l : Ledger String String) : Prop where
  balanced : Balanced c.db
  stores : Stores c.db l

/-- The count of a stored book is the number of its loans. -/
theorem Kept.lent {c : Client} (h : Kept c l) {book : Document} {check : ℤ}
    (hbook : (c.db .books)[id]? = some book) (hcheck : book.int? "check" = some check) :
    (openCards c.db id : ℤ) = check ∧ l.lent id = openCards c.db id := by
  have hcount := h.balanced.conserved id book hbook
  rw [hcheck, Option.some.injEq] at hcount
  exact ⟨hcount.symm, h.stores.lent id⟩

section

variable {uppercased : String → String} {c c' : Client} {visit : Visit}

/-- Nothing happens to the ledger. -/
theorem Stores.stutter (h : Stores db l) (hstock : stockOf db' = stockOf db)
    (hloan : loanOf db' = loanOf db) : ∃ ops l', Run Ledger.Step l ops l' ∧ Stores db' l' :=
  ⟨[], l, .nil, h.stock.trans hstock.symm, h.loan.trans hloan.symm⟩

/-- A quantity that the loans fit in is stored. -/
theorem Stores.setStock (h : Stores db l) {data : List (String × FieldValue)}
    (hbooks : db' .books = (db .books).override id data)
    (hcards : db' .borrowCard = db .borrowCard)
    (hlent : openCards db id ≤ quantityOf (Document.merge (((db .books)[id]?).getD ∅) data)) :
    ∃ ops l', Run Ledger.Step l ops l' ∧ Stores db' l' := by
  have hfits : l.lent id ≤ quantityOf (Document.merge (((db .books)[id]?).getD ∅) data) := by
    rw [h.lent]
    exact Nat.cast_le.2 hlent
  refine ⟨_, l.setStock id _ hfits, .single (.setStock hfits), ?_, ?_⟩
  · rw [stockOf_override hbooks, ← h.stock]
    rfl
  · rw [loanOf_congr hcards, ← h.loan]
    rfl

theorem ledger_addBook {form : BookForm} {answered : List String} (hc : Kept c l)
    (hkeeps : Visit.KeepsCount uppercased c (.addBook form answered))
    (h : Visit.step uppercased c (.addBook form answered) = some c') :
    ∃ ops l', Run Ledger.Step l ops l' ∧ Stores c'.db l' := by
  obtain ⟨-, hdb⟩ | ⟨hcomplete, hfree, hID, quantity, -, hcards, hbooks⟩ :=
    Visit.step_addBook h
  · exact hc.stores.stutter (by rw [hdb]) (by rw [hdb])
  obtain hincomplete | htaken | hnone := hkeeps
  · exact absurd hincomplete hcomplete
  · exact absurd htaken hfree
  rcases Database.overrideAt_cases hID _ with ⟨id, -, hid, hset⟩ | ⟨-, hsame⟩
  · -- No copy of the book is lent, so the quantity may be any.
    exact hc.stores.setStock (hbooks.trans hset) hcards ((hnone id hid).trans_le zero_le)
  · exact hc.stores.stutter (stockOf_congr (hbooks.trans hsame)) (loanOf_congr hcards)

theorem ledger_editBook {row : ℕ} {form : BookForm} (hc : Kept c l)
    (hkeeps : Visit.KeepsStock uppercased c (.editBook row form))
    (h : Visit.step uppercased c (.editBook row form) = some c') :
    ∃ ops l', Run Ledger.Step l ops l' ∧ Stores c'.db l' := by
  obtain ⟨id, book, name, hid, hbook, hname, ⟨-, hdb⟩ | ⟨hshown, -, avatarURL, check, quantity, -,
    hcheck, hquantity, hcards, hbooks⟩⟩ := Visit.step_editBook hc.balanced.addressed h
  · exact hc.stores.stutter (by rw [hdb]) (by rw [hdb])
  obtain ⟨hcount, -⟩ := hc.lent hbook hcheck
  have hint := Swift.inInt_of_int? hquantity
  have hstring : book.string? "name" = name.string? := by rw [Document.string?, hname]; rfl
  have hlow : check = 0 ∨ check ≤ quantity :=
    (hkeeps id hid book hbook).elim (fun hhidden => absurd (hstring ▸ hhidden) hshown)
      fun hlow => hlow check hcheck quantity hquantity
  refine hc.stores.setStock hbooks hcards ?_
  -- An entered quantity below the count is stored as zero, so then no copy may be lent.
  by_cases hlt : quantity < check
  · have hnone : openCards c.db id = 0 := by omega
    exact hnone.trans_le zero_le
  · have hnew : quantityOf (Document.merge (((c.db .books)[id]?).getD ∅)
        (EditInfoBookViewController.currentBook uppercased
          { form with bookID := (book.string? "ID").getD "" } avatarURL check quantity).detail) =
        quantity.toNat := by
      simp [quantityOf, Book.detail, EditInfoBookViewController.currentBook, Document.merge_cons,
        hint, hlt]
    omega

theorem ledger_borrow {student : CurrentStudent} {row : ℕ} {startedDay autoID : String}
    (hc : Kept c l)
    (hkeeps : Visit.KeepsCount uppercased c (.borrow student row startedDay autoID))
    (h : Visit.step uppercased c (.borrow student row startedDay autoID) = some c') :
    ∃ ops l', Run Ledger.Step l ops l' ∧ Stores c'.db l' := by
  obtain hdb | ⟨id, check, card, hfresh, -, hpicked, -, -, rfl, hstatus, hread, havailable, hcards,
    hbooks⟩ := Visit.step_borrow h
  · exact hc.stores.stutter (by rw [hdb]) (by rw [hdb])
  obtain ⟨book, hbook⟩ := Std.ExtTreeMap.mem_iff_exists_getElem?.1 (hkeeps _ hpicked)
  have hid : IsDocumentID card.idBook := hc.balanced.addressed _ _ (hkeeps _ hpicked)
  have hfound := (Database.read_of_isDocumentID hid).trans hbook
  rw [Database.overrideAt_of_isDocumentID hid] at hbooks
  obtain ⟨quantity, hquantity, hless⟩ := havailable book hfound
  rw [Visits.countRead_of_stored c.temp hfound] at hread
  obtain ⟨hcount, hlent⟩ := hc.lent hbook hread
  have hstock : l.stock card.idBook = quantity.toNat := by
    rw [hc.stores.stock]
    simp [stockOf, quantityOf, hbook, hquantity]
  have hnone : l.loan autoID = none := by
    rw [hc.stores.loan, loanOf, Std.ExtTreeMap.getElem?_eq_none hfresh, Option.bind_none]
  have hleft : l.lent card.idBook < l.stock card.idBook := by
    rw [hlent, hstock]
    exact Nat.cast_lt.2 (by omega)
  refine ⟨_, _, .single (.lend hnone hleft), ?_, ?_⟩
  · rw [stockOf_check hbook hbooks, ← hc.stores.stock]
    rfl
  · rw [loanOf_insert hstatus hcards, ← hc.stores.loan]
    rfl

theorem ledger_editCard {student : CurrentStudent} {final : EditBorrowCardViewController.Screen}
    (hc : Kept c l) (hkeeps : Visit.KeepsCount uppercased c (.editCard student id final))
    (h : Visit.step uppercased c (.editCard student id final) = some c') :
    ∃ ops l', Run Ledger.Step l ops l' ∧ Stores c'.db l' := by
  obtain ⟨-, hcards, hbooks⟩ | ⟨hoff, card, idBook, check, hcard, hidBook, -, -, hcheck, hcards,
    hbooks⟩ := Visit.step_editCard hc.balanced.addressed h
  · exact hc.stores.stutter (stockOf_congr hbooks) (loanOf_congr hcards)
  obtain hon | hopen := hkeeps
  · rw [hoff] at hon
    cases hon
  obtain ⟨hopen, hsame⟩ := isOpenCard_of_isBookOf hidBook (hopen card hcard)
  have hloan : l.loan id = some idBook := by
    rw [hc.stores.loan]
    exact loanOf_eq_some.2 ⟨card, hcard, hopen⟩
  -- A book that is lent is stored.
  obtain ⟨book, hbook⟩ := hc.balanced.stored_of_open hcard hopen
  have hid : IsDocumentID idBook := hc.balanced.addressed _ _ (Std.ExtTreeMap.mem_of_getElem? hbook)
  rw [Database.overrideAt_congr hsame, Database.overrideAt_of_isDocumentID hid] at hbooks
  refine ⟨_, _, .single (.giveBack (by rw [hloan]; simp)), ?_, ?_⟩
  · rw [stockOf_check hbook hbooks, ← hc.stores.stock]
    rfl
  · rw [loanOf_close hcards, ← hc.stores.loan]
    rfl

/-- The visits that keep the ledger are its operations. -/
theorem simulates_ledger :
    Simulation (Guarded (Visit.KeepsLedger uppercased) (Steps (Visit.step uppercased)))
      Ledger.Step Kept := by
  rintro c visit c' l hc ⟨hkeeps, hstep⟩
  have hbalanced : Balanced c'.db := balanced_step hc.balanced hkeeps.count hstep
  suffices h : ∃ ops l', Run Ledger.Step l ops l' ∧ Stores c'.db l' by
    obtain ⟨ops, l', hrun, hstores⟩ := h
    exact ⟨ops, l', hrun, hbalanced, hstores⟩
  cases visit with
  | addBook form answered => exact ledger_addBook hc hkeeps.count hstep
  | editBook row form => exact ledger_editBook hc (hkeeps.quantity row form rfl) hstep
  | borrow student row startedDay autoID => exact ledger_borrow hc hkeeps.count hstep
  | editCard student id final => exact ledger_editCard hc hkeeps.count hstep

end

/-! ## Every run -/

/-- In a run of visits that keep the ledger, from the empty library, the database stores one that
the operations lead to: the stored counts are the numbers of its loans, and within its stock. -/
theorem refines_of_run {uppercased : String → String} {visits : List Visit} {c : Client}
    (h : Run (Guarded (Visit.KeepsLedger uppercased) (Steps (Visit.step uppercased)))
      Client.empty visits c) :
    ∃ ops l, Run Ledger.Step Ledger.empty ops l ∧ Stores c.db l ∧
      ∀ (id : String) (book : Document), (c.db .books)[id]? = some book →
        ∃ lent : ℕ, book.int? "check" = some (lent : ℤ) ∧ l.lent id = lent ∧
          lent ≤ quantityOf book := by
  obtain ⟨ops, l, hrun, hkept⟩ := simulates_ledger.run ⟨balanced_empty, stores_empty⟩ h
  refine ⟨ops, l, hrun, hkept.stores, fun id book hbook => ?_⟩
  have hlent := hkept.stores.lent id
  refine ⟨_, hkept.balanced.conserved id book hbook, hlent, ?_⟩
  have hstock : l.stock id = quantityOf book := by
    rw [hkept.stores.stock, stockOf, hbook, Option.map_some, Option.getD_some]
  have hwithin : l.lent id ≤ l.stock id := l.within id
  rw [hlent, hstock] at hwithin
  exact Nat.cast_le.1 hwithin

/-- Two copies are added, one of them is lent, and the quantity is lowered to the lent one. -/
def Sample.keepsLedger :
    Reached (Guarded (Visit.KeepsLedger Swift.asciiUppercased) (Steps step)) Client.empty :=
  let added := Reached.start.takeGuarded (.addBook (form "B1" "One" "2") [])
    (by exact ⟨.inr (.inr (by decide +kernel)), by simp⟩) (by decide +kernel)
  let lent := added.takeGuarded (.borrow student 0 "02/06/2020" "K1")
    (by exact ⟨show ∀ id ∈ Visits.picked added.state.db 0, id ∈ added.state.db .books by
      decide +kernel, by simp⟩) (by decide +kernel)
  lent.takeGuarded (.editBook 0 (form "B1" "One" "1"))
    (by exact ⟨trivial, fun _ _ _ => show ∀ id ∈ (lent.state.db .books).keys[0]?,
      ∀ book ∈ (lent.state.db .books)[id]?, book.string? "name" = some "" ∨
        ∀ check ∈ book.int? "check", ∀ quantity ∈ Swift.int? "1", check = 0 ∨ check ≤ quantity by
      decide +kernel⟩) (by decide +kernel)

theorem refines_keepsLedger : (Sample.keepsLedger.state.db .books)["B1"]?.isSome ∧
    ∃ ops l, Run Ledger.Step Ledger.empty ops l ∧ Stores Sample.keepsLedger.state.db l ∧
      ∀ (id : String) (book : Document), (Sample.keepsLedger.state.db .books)[id]? = some book →
        ∃ lent : ℕ, book.int? "check" = some (lent : ℤ) ∧ l.lent id = lent ∧
          lent ≤ quantityOf book :=
  ⟨by decide +kernel, refines_of_run Sample.keepsLedger.run⟩

end LibraryManagement
