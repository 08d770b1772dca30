import LibraryManagement.Conservation

/-!
# Neither over-lent nor in the negative

A book that was added has a name; `InStock` says that its lent count lies between zero and
the quantity it stores. The availability test of a borrow keeps this bound. The other visits
keep it exactly when they meet `Visit.KeepsStock` (`stocked_step_iff`): the quantity of an added
book is not negative, an edited quantity is not below a positive lent count, and a card is closed
with a count of at least one.
-/

namespace LibraryManagement

open Transition

/-- The lent count lies between zero and the stored quantity. -/
def InStock (book : Document) : Prop :=
  ∃ quantity check, (book.string? "quantity").bind Swift.int? = some quantity ∧
    book.int? "check" = some check ∧ 0 ≤ check ∧ check ≤ quantity

/-- Every book that was added is in stock. -/
def Stocked (db : Database) : Prop :=
  ∀ (id : String) (book : Document), (db .books)[id]? = some book → "name" ∈ book → InStock book

/-- The visits that keep every book in stock. -/
def Visit.KeepsStock (uppercased : String → String) (c : Client) : Visit → Prop
  | .addBook form answered =>
    AddBooksViewController.Incomplete form ∨
      Visits.NameTaken c.db (uppercased form.bookname) answered ∨
      CollectionName.books.id? form.bookID = none ∨
      ∀ quantity ∈ Swift.int? form.quantity, 0 ≤ quantity
  | .editBook row form =>
    ∀ id ∈ (c.db .books).keys[row]?, ∀ book ∈ (c.db .books)[id]?,
      book.string? "name" = some "" ∨
        ∀ check ∈ book.int? "check", ∀ quantity ∈ Swift.int? form.quantity,
          check = 0 ∨ check ≤ quantity
  | .borrow _ _ _ _ => True
  | .editCard _ id final =>
    final.statusIsOn = true ∨
      ∀ card ∈ (c.db .borrowCard)[id]?, ∀ idBook ∈ card.string? "ID_book",
        ∀ check ∈ Visits.countRead c.temp c.db idBook,
          ∀ a ∈ CollectionName.books.id? final.bookID, ∀ book ∈ (c.db .books)[a]?,
            "name" ∈ book → 1 ≤ check ∧
              ∀ quantity ∈ (book.string? "quantity").bind Swift.int?, check ≤ quantity + 1

theorem stocked_empty : Stocked Database.empty := fun id book hbook => by
  simp [Database.empty] at hbook

/-- Overriding one book keeps the others in stock. -/
theorem stocked_override_iff {db db' : Database} {id : String} {data : List (String × FieldValue)}
    (hdb : Stocked db) (hbooks : db' .books = (db .books).override id data) :
    Stocked db' ↔
      ("name" ∈ Document.merge (((db .books)[id]?).getD ∅) data →
        InStock (Document.merge (((db .books)[id]?).getD ∅) data)) := by
  constructor
  · intro h
    exact h id _ (by rw [hbooks, Collection.getElem?_override, if_pos rfl])
  · intro h
    rw [Stocked, hbooks]
    exact Std.ExtTreeMap.forall_getElem?_insert h fun a book _ hbook => hdb a book hbook

/-- Books are in stock by what `Books` holds. -/
theorem stocked_congr {db db' : Database} (hbooks : db' .books = db .books) :
    Stocked db' ↔ Stocked db := by
  rw [Stocked, hbooks, Stocked]

section

variable {uppercased : String → String} {c c' : Client}

theorem stocked_addBook_iff {form : BookForm} {answered : List String} (hc : Stocked c.db)
    (h : Visit.step uppercased c (.addBook form answered) = some c') :
    Stocked c'.db ↔ Visit.KeepsStock uppercased c (.addBook form answered) := by
  obtain ⟨hrefused, hdb⟩ | ⟨hcomplete, hfree, hID, quantity, hquantity, -, hbooks⟩ :=
    Visit.step_addBook h
  · rw [hdb]
    exact ⟨fun _ => hrefused.imp_right .inl, fun _ => hc⟩
  rw [Visit.KeepsStock, hquantity]
  simp only [hcomplete, hfree, false_or, Option.mem_some_iff, forall_eq']
  rcases Database.overrideAt_cases hID _ with ⟨id, -, hid, hbook⟩ | ⟨hid, hsame⟩
  · have hint := Swift.inInt_of_int? hquantity
    rw [stocked_override_iff hc (hbooks.trans hbook), hid]
    simp [InStock, AddBooksViewController.newBook, Book.newData, Document.merge_cons, hint]
  · exact iff_of_true ((stocked_congr (hbooks.trans hsame)).2 hc) (.inl hid)

theorem stocked_editBook_iff {row : ℕ} {form : BookForm} (ha : c.db.Addressed)
    (hc : Stocked c.db)
    (h : Visit.step uppercased c (.editBook row form) = some c') :
    Stocked c'.db ↔ Visit.KeepsStock uppercased c (.editBook row form) := by
  obtain ⟨id, book, name, hid, hbook, hname, hcases⟩ := Visit.step_editBook ha h
  rw [Visit.KeepsStock, hid]
  simp only [Option.mem_some_iff, forall_eq', hbook]
  have hstring : book.string? "name" = name.string? := by rw [Document.string?, hname]; rfl
  rcases hcases with ⟨hhidden, hdb⟩ | ⟨hshown, -, avatarURL, check, quantity, -, hcheck, hquantity,
    -, hbooks⟩
  · rw [hdb, hstring]
    exact ⟨fun _ => .inl hhidden, fun _ => hc⟩
  have hmem : "name" ∈ book := Std.ExtTreeMap.mem_of_getElem? hname
  obtain ⟨_, check', -, hcheck', hnonneg, -⟩ := hc id book hbook hmem
  obtain rfl := Option.some.inj (hcheck.symm.trans hcheck')
  have hint := Swift.inInt_of_int? hquantity
  -- A quantity below the lent count is stored as zero.
  have hstored : Swift.InInt (if quantity < check then 0 else quantity) := by
    split
    · decide
    · exact hint
  rw [stocked_override_iff hc hbooks, hbook, hstring, hcheck, hquantity]
  simp only [Option.mem_some_iff, forall_eq', hshown, false_or]
  simp [InStock, Book.detail, Document.merge_cons, hstored, hnonneg]
  split <;> omega

/-- A borrow is tested for a copy left, so it always keeps the books in stock. -/
theorem stocked_borrow {student : CurrentStudent} {row : ℕ} {startedDay autoID : String}
    (hc : Stocked c.db)
    (h : Visit.step uppercased c (.borrow student row startedDay autoID) = some c') :
    Stocked c'.db := by
  obtain hdb | ⟨path, check, card, -, -, -, hvalid, -, -, -, hread, havailable, -, hbooks⟩ :=
    Visit.step_borrow h
  · rwa [hdb]
  rcases Database.overrideAt_cases hvalid _ with ⟨id, -, hid, hset⟩ | ⟨-, hsame⟩
  swap
  · exact (stocked_congr (hbooks.trans hsame)).2 hc
  rw [stocked_override_iff hc (hbooks.trans hset)]
  have hfound := Database.read_of_id? hid c.db
  cases hbook : (c.db .books)[id]? with
  | none => simp [Document.merge_cons]
  | some book =>
    -- A book without a name is no book in stock, so only a named one matters.
    intro hname
    rw [hbook] at hfound
    have hmem : "name" ∈ book := by simpa [Document.merge_cons] using hname
    obtain ⟨quantity, check', hquantity, hcheck', hnonneg, -⟩ := hc id book hbook hmem
    obtain ⟨quantity', hquantity', hlt⟩ := havailable book hfound
    obtain rfl := Option.some.inj (hquantity.symm.trans hquantity')
    rw [Visits.countRead_of_stored c.temp hfound, hcheck', Option.some.injEq] at hread
    subst hread
    refine ⟨quantity, check' + 1, ?_, ?_, by omega, by omega⟩
    · simpa [Document.merge_cons] using hquantity
    · simp [Document.merge_cons]

theorem stocked_editCard_iff {student : CurrentStudent} {id : String}
    {final : EditBorrowCardViewController.Screen} (ha : c.db.Addressed) (hc : Stocked c.db)
    (h : Visit.step uppercased c (.editCard student id final) = some c') :
    Stocked c'.db ↔ Visit.KeepsStock uppercased c (.editCard student id final) := by
  rw [Visit.KeepsStock]
  obtain ⟨hon, -, hbooks⟩ | ⟨hoff, card, idBook, check, hcard, hidBook, hvalid, -, hread, -,
    hbooks⟩ := Visit.step_editCard ha h
  · exact iff_of_true ((stocked_congr hbooks).2 hc) (.inl hon)
  rw [hoff, hcard]
  simp only [Bool.false_eq_true, false_or, Option.mem_some_iff, forall_eq', hidBook, hread]
  rcases Database.overrideAt_cases hvalid _ with ⟨a, -, ha, hset⟩ | ⟨ha, hsame⟩
  swap
  · rw [stocked_congr (hbooks.trans hsame), ha]
    simpa using hc
  rw [stocked_override_iff hc (hbooks.trans hset), ha]
  simp only [Option.mem_some_iff, forall_eq']
  cases hbook : (c.db .books)[a]? with
  | none => simp [Document.merge_cons]
  | some book =>
    simp only [Option.mem_some_iff, forall_eq', Option.getD_some]
    have hmem : "name" ∈ book.merge [("check", .number (check - 1))] ↔ "name" ∈ book := by
      simp [Document.merge_cons]
    rw [hmem]
    refine imp_congr_right fun hname => ?_
    obtain ⟨quantity, _, hquantity, -, -, -⟩ := hc _ book hbook hname
    -- The count goes down by one and the quantity stays.
    have hkept : ((book.merge [("check", .number (check - 1))]).string? "quantity").bind Swift.int?
        = some quantity := by simpa [Document.merge_cons] using hquantity
    have hlowered : (book.merge [("check", .number (check - 1))]).int? "check"
        = some (check - 1) := by simp [Document.merge_cons]
    rw [hquantity]
    simp only [Option.mem_some_iff, forall_eq']
    constructor
    · rintro ⟨quantity', check', hquantity', hcheck', hnonneg, hle⟩
      obtain rfl := Option.some.inj (hkept.symm.trans hquantity')
      obtain rfl := Option.some.inj (hlowered.symm.trans hcheck')
      omega
    · rintro ⟨hone, hle⟩
      exact ⟨quantity, check - 1, hkept, hlowered, by omega, by omega⟩

/-- A visit keeps every book in stock exactly when it meets the condition. -/
theorem stocked_step_iff {visit : Visit} (ha : c.db.Addressed) (hc : Stocked c.db)
    (h : visit.step uppercased c = some c') :
    Stocked c'.db ↔ visit.KeepsStock uppercased c := by
  cases visit with
  | addBook form answered => exact stocked_addBook_iff hc h
  | editBook row form => exact stocked_editBook_iff ha hc h
  | borrow student row startedDay autoID => exact iff_of_true (stocked_borrow hc h) trivial
  | editCard student id final => exact stocked_editCard_iff ha hc h

end

/-! ## Every run -/

/-- In a run of visits that meet the condition no book is over-lent or lent below zero. -/
theorem stocked_of_run {uppercased : String → String} {visits : List Visit} {c : Client}
    (h : Run (Guarded (Visit.KeepsStock uppercased) (Steps (Visit.step uppercased)))
      Client.empty visits c) : Stocked c.db :=
  (h.invariant (fun c => c.db.Addressed ∧ Stocked c.db)
    ⟨Database.addressed_empty, stocked_empty⟩ fun _ _ _ hc hstep =>
      ⟨Visit.addressed_step hc.1 hstep.2, (stocked_step_iff hc.1 hc.2 hstep.2).2 hstep.1⟩).2

/-- One copy is added and lent. -/
def Sample.lentInStock :
    Reached (Guarded (Visit.KeepsStock Swift.asciiUppercased) (Steps step)) Client.empty :=
  let added := Reached.start.takeGuarded (.addBook (form "B1" "One" "1") [])
    (by exact .inr (.inr (.inr (by decide +kernel)))) (by decide +kernel)
  added.takeGuarded (.borrow student 0 "02/06/2020" "K1") trivial (by decide +kernel)

/-- The copy is taken back. -/
def Sample.keepsStock :
    Reached (Guarded (Visit.KeepsStock Swift.asciiUppercased) (Steps step)) Client.empty :=
  lentInStock.takeGuarded (.editCard student "K1" (returned "B1"))
    (by exact .inr (by decide +kernel)) (by decide +kernel)

theorem stocked_keepsStock : (Sample.keepsStock.state.db .books)["B1"]?.isSome ∧
    Stocked Sample.keepsStock.state.db :=
  ⟨by decide +kernel, stocked_of_run Sample.keepsStock.run⟩

/-- The one copy is lent, and the quantity is edited to none. -/
def Sample.shrunk : Reached (Steps step) Client.empty :=
  let added := Reached.start.take (.addBook (form "B1" "One" "1") []) (by decide +kernel)
  let lent := added.take (.borrow student 0 "02/06/2020" "K1") (by decide +kernel)
  lent.take (.editBook 0 (form "B1" "One" "0")) (by decide +kernel)

/-- A quantity edited below the lent count raises an alert, and is stored as zero. -/
theorem stocked_fails : ¬ ∀ (visits : List Visit) (c : Client),
    Run (Steps (Visit.step Swift.asciiUppercased)) Client.empty visits c → Stocked c.db := by
  intro hall
  have hbook : (Sample.shrunk.state.db .books)["B1"]?.map (fun book => (book.string? "name",
      (book.string? "quantity").bind Swift.int?, book.int? "check"))
      = some (some "ONE", some 0, some 1) := by decide +kernel
  obtain ⟨book, hstored, hfields⟩ := Option.map_eq_some_iff.1 hbook
  simp only [Prod.mk.injEq] at hfields
  obtain ⟨hname, hquantity, hcheck⟩ := hfields
  have hmem : "name" ∈ book := by
    by_contra hnot
    simp [Document.string?, Std.ExtTreeMap.getElem?_eq_none hnot] at hname
  obtain ⟨quantity, check, hquantity', hcheck', -, hle⟩ :=
    hall _ _ Sample.shrunk.run "B1" book hstored hmem
  rw [hquantity, Option.some.injEq] at hquantity'
  rw [hcheck, Option.some.injEq] at hcheck'
  omega

end LibraryManagement
