import LibraryManagement.BookStatistics
import LibraryManagement.Lib.Lists
import LibraryManagement.Returns
import Mathlib.Algebra.BigOperators.Ring.Finset

/-!
# What the book statistics count

The statistics screen adds up the lent counts of the books. As long as the visits keep the count
and the stock, this sum is the number of open cards in the other collection, however many books,
students and cards there are, and what the screen shows as left is not negative
(`statistics_of_run`).
-/

namespace LibraryManagement

open Handler Transition StatisticBooksViewController

/-- The visits that keep the count and the stock. -/
structure Visit.Keeps (uppercased : String → String) (c : Client) (visit : Visit) : Prop where
  count : visit.KeepsCount uppercased c
  stock : visit.KeepsStock uppercased c

/-- Balanced, in stock and catalogued, and every card names a book. -/
structure Accounted (db : Database) : Prop where
  balanced : Balanced db
  stocked : Stocked db
  countable : Countable db
  cards : ∀ (cardID : String) (card : Document), (db .borrowCard)[cardID]? = some card →
    ∃ idBook, card.string? "ID_book" = some idBook

theorem accounted_empty : Accounted Database.empty where
  balanced := balanced_empty
  stocked := stocked_empty
  countable := countable_empty
  cards cardID card hcard := by simp [Database.empty] at hcard

/-! ## Open cards by their books -/

/-- Each open card is an open card of one of the books. -/
theorem sum_openCards {db : Database} (hdb : Accounted db) :
    ((db .books).keys.map (openCards db)).sum = outstanding db := by
  let cards := (db .borrowCard).toList.filter fun card => card.2.string? "status" = some "1"
  have hkeys : ∀ card ∈ cards, ∃ id ∈ (db .books).keys, card.2.string? "ID_book" = some id := by
    intro card hcard
    obtain ⟨hmem, hstatus⟩ := List.mem_filter.1 hcard
    have hstored := Std.ExtTreeMap.mem_toList_iff_getElem?_eq_some.1 hmem
    obtain ⟨idBook, hidBook⟩ := hdb.cards card.1 card.2 hstored
    have hopen : IsOpenCard idBook card.2 = true :=
      decide_eq_true ⟨hidBook, of_decide_eq_true hstatus⟩
    obtain ⟨book, hbook⟩ := hdb.balanced.stored_of_open hstored hopen
    exact ⟨idBook, Std.ExtTreeMap.mem_keys.2 (Std.ExtTreeMap.mem_of_getElem? hbook), hidBook⟩
  have hclass (id : String) :
      openCards db id = cards.countP fun card => card.2.string? "ID_book" = some id := by
    rw [List.countP_filter, openCards, Std.ExtTreeMap.countValues]
    exact List.countP_congr fun card _ => by simp [IsOpenCard]
  have houtstanding : outstanding db = cards.length := by
    rw [outstanding, Std.ExtTreeMap.countValues, List.countP_eq_length_filter]
  rw [houtstanding, List.map_congr_left fun id _ => hclass id]
  exact List.sum_countP_eq_length Std.ExtTreeMap.nodup_keys hkeys

/-- The lent counts of all books together are the open cards. -/
theorem sumOf_lentCopies {db : Database} (hdb : Accounted db) :
    sumOf lentCopies (db .books) = outstanding db := by
  have hcounts : (db .books).toList.map (fun entry => lentCopies entry.2) =
      (db .books).toList.map fun entry => (openCards db entry.1 : ℤ) := by
    refine List.map_congr_left fun entry hentry => ?_
    have hbook := Std.ExtTreeMap.mem_toList_iff_getElem?_eq_some.1 hentry
    rw [lentCopies, hdb.balanced.conserved _ _ hbook, Option.getD_some]
  rw [sumOf, hcounts, ← sum_openCards hdb, ← Std.ExtTreeMap.map_fst_toList_eq_keys, List.map_map,
    Nat.cast_list_sum, List.map_map]
  rfl

/-- A book of which not more copies are lent than there are. -/
theorem Accounted.lent {db : Database} (hdb : Accounted db) (id : String) (book : Document)
    (hbook : (db .books)[id]? = some book) : Lent book := by
  have hcatalogued := hdb.countable.catalogued id book hbook
  obtain ⟨name, hname⟩ := hcatalogued.name
  obtain ⟨field, hfield, -⟩ := Option.bind_eq_some_iff.1 hname
  obtain ⟨stored, check, hquantity, hcheck, hnonneg, hle⟩ :=
    hdb.stocked id book hbook (Std.ExtTreeMap.mem_of_getElem? hfield)
  refine lent_of_catalogued hcatalogued ?_ ?_
  · rwa [lentCopies, hcheck, Option.getD_some]
  · rwa [lentCopies, hcheck, Option.getD_some, quantity, hquantity, Option.getD_some]

section

variable {uppercased : String → String} {c c' : Client} {visit : Visit}

/-- A visit that keeps the count writes a whole book, or the count of a stored one. -/
theorem countable_step (hc : Balanced c.db) (hcountable : Countable c.db)
    (hkeeps : visit.KeepsCount uppercased c) (h : visit.step uppercased c = some c') :
    Countable c'.db := by
  have ha := Visit.addressed_step hc.addressed h
  cases visit with
  | addBook form answered => exact countable_addBook hcountable h
  | editBook row form => exact countable_editBook hcountable h
  | borrow student row startedDay autoID =>
    obtain hdb | ⟨id, check, card, -, -, hpicked, -, -, -, -, -, -, -, hbooks⟩ :=
      Visit.step_borrow h
    · rwa [hdb]
    · have hid := hkeeps id hpicked
      rw [Database.overrideAt_of_isDocumentID (hc.addressed _ id hid)] at hbooks
      exact hcountable.of_check ha hid hbooks
  | editCard student id final =>
    obtain ⟨-, -, hbooks⟩ | ⟨hoff, card, idBook, check, hcard, hidBook, -, -, -, -, hbooks⟩ :=
      Visit.step_editCard hc.addressed h
    · exact ⟨ha, hbooks ▸ hcountable.catalogued⟩
    obtain hon | hopen := hkeeps
    · rw [hoff] at hon
      cases hon
    -- A book with an open card is stored.
    obtain ⟨hopen, hsame⟩ := isOpenCard_of_isBookOf hidBook (hopen card hcard)
    obtain ⟨book, hbook⟩ := hc.stored_of_open hcard hopen
    have hid := Std.ExtTreeMap.mem_of_getElem? hbook
    rw [Database.overrideAt_congr hsame,
      Database.overrideAt_of_isDocumentID (hc.addressed _ idBook hid)] at hbooks
    exact hcountable.of_check ha hid hbooks

/-- Every card keeps the text that names its book. -/
theorem cards_step (ha : c.db.Addressed)
    (hcards : ∀ (cardID : String) (card : Document), (c.db .borrowCard)[cardID]? = some card →
      ∃ idBook, card.string? "ID_book" = some idBook)
    (h : visit.step uppercased c = some c') (cardID : String) (card : Document)
    (hcard : (c'.db .borrowCard)[cardID]? = some card) :
    ∃ idBook, card.string? "ID_book" = some idBook := by
  revert cardID card
  cases visit with
  | addBook form answered =>
    obtain ⟨-, hdb⟩ | ⟨-, -, -, quantity, -, hsame, -⟩ := Visit.step_addBook h
    · rwa [hdb]
    · rwa [hsame]
  | editBook row form =>
    obtain ⟨id, book, name, -, -, -,
      ⟨-, hdb⟩ | ⟨-, -, avatarURL, check, quantity, -, -, -, hsame, -⟩⟩ :=
      Visit.step_editBook ha h
    · rwa [hdb]
    · rwa [hsame]
  | borrow student row startedDay autoID =>
    obtain hdb | ⟨id, check, card, -, -, -, -, -, -, -, -, -, hadded, -⟩ := Visit.step_borrow h
    · rwa [hdb]
    · rw [hadded]
      refine Std.ExtTreeMap.forall_getElem?_insert ⟨card.idBook, ?_⟩ fun a d _ hd => hcards a d hd
      simp [BorrowCard.data, Document.merge_cons]
  | editCard student id final =>
    obtain ⟨-, hsame, -⟩ | ⟨-, card, idBook, check, hcard, hidBook, -, -, -, hclosed, -⟩ :=
      Visit.step_editCard ha h
    · rwa [hsame]
    · rw [hclosed, Collection.override, hcard, Option.getD_some]
      refine Std.ExtTreeMap.forall_getElem?_insert ⟨idBook, ?_⟩ fun a d _ hd => hcards a d hd
      simpa [Document.merge_cons] using hidBook

theorem accounted_step (hc : Accounted c.db) (hkeeps : visit.Keeps uppercased c)
    (h : visit.step uppercased c = some c') : Accounted c'.db where
  balanced := balanced_step hc.balanced hkeeps.count h
  stocked := (stocked_step_iff hc.balanced.addressed hc.stocked h).2 hkeeps.stock
  countable := countable_step hc.balanced hc.countable hkeeps.count h
  cards := cards_step hc.balanced.addressed hc.cards h

/-! ## Every run -/

/-- The screen shows all copies, the open cards as lent, and the rest as left, unless the copies
are too many for an `Int`. -/
theorem statistics_of_run {visits : List Visit}
    (h : Run (Guarded (Visit.Keeps uppercased) (Steps (Visit.step uppercased)))
      Client.empty visits c) (hsum : Swift.InInt (sumOf quantity (c.db .books))) (d : Device) :
    StatisticBooksViewController.viewDidLoad (c.db .books) d =
        .ok (Swift.description (sumOf quantity (c.db .books)),
          Swift.description (outstanding c.db),
          Swift.description (sumOf quantity (c.db .books) - outstanding c.db)) d ∧
      (outstanding c.db : ℤ) ≤ sumOf quantity (c.db .books) := by
  have hc : Accounted c.db := h.invariant (fun c => Accounted c.db) accounted_empty
    fun _ _ _ hc hstep => accounted_step hc hstep.1 hstep.2
  have hlent := lent_of_mem hc.lent
  have hlabels := (reports_of_sum hlent hsum).labels d
  have hrest : sumOf (fun document => quantity document - lentCopies document) (c.db .books) =
      sumOf quantity (c.db .books) - outstanding c.db := by
    rw [← sumOf_lentCopies hc, sumOf_eq, sumOf_eq, sumOf_eq, sum_sub]
  rw [sumOf_lentCopies hc, hrest] at hlabels
  refine ⟨hlabels, ?_⟩
  rw [← sumOf_lentCopies hc, sumOf_eq, sumOf_eq]
  exact (sum_bounds hlent).2

end

namespace Sample

/-- Two copies are added, and one of them is lent. -/
def oneLeft : Reached (Guarded (Visit.Keeps Swift.asciiUppercased) (Steps step)) Client.empty :=
  let added := Reached.start.takeGuarded (.addBook (form "B1" "One" "2") [])
    (by exact ⟨.inr (.inr (by decide +kernel)), .inr (.inr (.inr (by decide +kernel)))⟩)
    (by decide +kernel)
  added.takeGuarded (.borrow student 0 "02/06/2020" "K1")
    (by exact ⟨show ∀ id ∈ Visits.picked added.state.db 0, id ∈ added.state.db .books by
      decide +kernel, trivial⟩) (by decide +kernel)

end Sample

theorem statistics_oneLeft : StatisticBooksViewController.viewDidLoad
    (Sample.oneLeft.state.db .books) ⟨∅, []⟩ =
      .ok (Swift.description (sumOf quantity (Sample.oneLeft.state.db .books)),
        Swift.description (outstanding Sample.oneLeft.state.db),
        Swift.description (sumOf quantity (Sample.oneLeft.state.db .books) -
          outstanding Sample.oneLeft.state.db)) ⟨∅, []⟩ :=
  (statistics_of_run Sample.oneLeft.run (by decide +kernel) ⟨∅, []⟩).1

end LibraryManagement
