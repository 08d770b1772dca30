import LibraryManagement.Stock
import LibraryManagement.Screens.Statistics
import Mathlib.Algebra.BigOperators.Group.List.Basic
import Mathlib.Algebra.Order.BigOperators.Group.List

/-!
# The sums of the book statistics

The screen adds up the quantities and the lent counts of all books, with Swift's `+` that traps.
The forms take any quantity that is an `Int`, and nothing bounds their sum: the loop overflows
at no book exactly when the sum of all quantities is an `Int`.
-/

namespace LibraryManagement

open Handler Transition

namespace StatisticBooksViewController

/-- The quantity of a book whose text is a number. -/
def quantity (document : Document) : ℤ :=
  ((document.string? "quantity").bind Swift.int?).getD 0

/-- The lent count of a book that has one. -/
def lentCopies (document : Document) : ℤ := (document.int? "check").getD 0

/-- A book with a quantity, of which not more copies are lent. -/
structure Lent (document : Document) : Prop where
  quantity : (document.string? "quantity").bind Swift.int? = some (quantity document)
  check : document.int? "check" = some (lentCopies document)
  nonneg : 0 ≤ lentCopies document
  le : lentCopies document ≤ StatisticBooksViewController.quantity document

/-- The sum of a number of every book. -/
def sumOf (f : Document → ℤ) (books : Collection) : ℤ := (books.toList.map fun entry => f entry.2).sum

/-- The loop completes at every prefix of the documents, and the labels are the three sums. -/
structure Reports (books : Collection) : Prop where
  prefixes : ∀ n d, ∃ sums, (books.toList.take n).foldlM
    (fun sums document => add sums document.2) (0, 0) d = .ok sums d
  labels : ∀ d, viewDidLoad books d = .ok (Swift.description (sumOf quantity books),
    Swift.description (sumOf lentCopies books),
    Swift.description (sumOf (fun document => quantity document - lentCopies document) books)) d

variable {document : Document} {documents : List Document} {books : Collection} {total check : ℤ}
  {d d' : Device}

/-- No more copies are lent than there are, of all books together. -/
theorem sum_bounds (hlent : ∀ document ∈ documents, Lent document) :
    0 ≤ (documents.map lentCopies).sum ∧
      (documents.map lentCopies).sum ≤ (documents.map quantity).sum := by
  constructor
  · refine List.sum_nonneg fun c hc => ?_
    obtain ⟨document, hdocument, rfl⟩ := List.mem_map.1 hc
    exact (hlent document hdocument).nonneg
  · exact List.sum_le_sum fun document hdocument => (hlent document hdocument).le

/-! ## The loop -/

/-- One more book: the sums, or an overflow of one of them. -/
theorem add_eq_ok (hlent : Lent document) {sums : ℤ × ℤ} :
    add (total, check) document d = .ok sums d' ↔
      Swift.InInt (total + quantity document) ∧ Swift.InInt (check + lentCopies document) ∧
        sums = (total + quantity document, check + lentCopies document) ∧ d' = d := by
  obtain ⟨text, htext, hquantity⟩ := Option.bind_eq_some_iff.1 hlent.quantity
  simp only [add, htext, hlent.check, hquantity, Traps.cast_some, Traps.unwrap_some, pure_bind,
    Traps.bind_eq_ok, Traps.checked_eq_ok, Swift.add?, Swift.inRange?_eq_some, Traps.pure_eq_ok,
    and_assoc, exists_and_left, exists_eq_left']
  constructor
  · rintro ⟨htotal, hcheck, rfl, rfl⟩
    exact ⟨htotal, hcheck, rfl, rfl⟩
  · rintro ⟨htotal, hcheck, rfl, rfl⟩
    exact ⟨htotal, hcheck, rfl, rfl⟩

/-- As long as the quantities add up to an `Int` the loop completes. The lent counts are no more
than the quantities. -/
theorem foldlM_add (hlent : ∀ document ∈ documents, Lent document) (hcheck : 0 ≤ check)
    (hle : check ≤ total) (hsum : total + (documents.map quantity).sum < 2 ^ 63) :
    documents.foldlM add (total, check) d =
      .ok (total + (documents.map quantity).sum, check + (documents.map lentCopies).sum) d := by
  induction documents generalizing total check with
  | nil => simp
  | cons document documents ih =>
    have hfirst := hlent document List.mem_cons_self
    have hrest : ∀ document ∈ documents, Lent document :=
      fun document hdocument => hlent document (List.mem_cons_of_mem _ hdocument)
    have hnonneg := hfirst.nonneg
    have hle' := hfirst.le
    obtain ⟨hlow, hhigh⟩ := sum_bounds hrest
    rw [List.map_cons, List.sum_cons] at hsum
    have htotal : Swift.InInt (total + quantity document) := ⟨by omega, by omega⟩
    have hcount : Swift.InInt (check + lentCopies document) := ⟨by omega, by omega⟩
    rw [List.foldlM_cons, List.map_cons, List.map_cons, List.sum_cons, List.sum_cons, ← add_assoc,
      ← add_assoc]
    exact Traps.bind_eq_ok.2 ⟨_, d, (add_eq_ok hfirst).2 ⟨htotal, hcount, rfl, rfl⟩,
      ih hrest (by omega) (by omega) (by omega)⟩

/-- A loop that completes has added up to an `Int`. -/
theorem sum_lt_of_foldlM {sums : ℤ × ℤ} (hlent : ∀ document ∈ documents, Lent document)
    (htotal : total < 2 ^ 63) (h : documents.foldlM add (total, check) d = .ok sums d') :
    total + (documents.map quantity).sum < 2 ^ 63 := by
  induction documents generalizing total check d with
  | nil => simpa using htotal
  | cons document documents ih =>
    rw [List.foldlM_cons] at h
    obtain ⟨first, d₁, hadd, hrest⟩ := Traps.bind_eq_ok.1 h
    obtain ⟨hint, -, rfl, rfl⟩ := (add_eq_ok (hlent document List.mem_cons_self)).1 hadd
    have hsum := ih (fun document hdocument => hlent document (List.mem_cons_of_mem _ hdocument))
      hint.2 hrest
    rw [List.map_cons, List.sum_cons]
    omega

/-! ## The screen -/

/-- What the numbers of a prefix of the documents add up to. -/
theorem sum_take_le (hlent : ∀ document ∈ documents, Lent document) (n : ℕ) :
    ((documents.take n).map quantity).sum ≤ (documents.map quantity).sum := by
  have hsplit := List.sum_take_add_sum_drop (documents.map quantity) n
  have hrest : ∀ document ∈ documents.drop n, Lent document :=
    fun document hdocument => hlent document (List.mem_of_mem_drop hdocument)
  obtain ⟨hlow, hhigh⟩ := sum_bounds hrest
  rw [← List.map_take, ← List.map_drop] at hsplit
  omega

theorem sum_sub (documents : List Document) :
    (documents.map fun document => quantity document - lentCopies document).sum =
      (documents.map quantity).sum - (documents.map lentCopies).sum := by
  induction documents with
  | nil => rfl
  | cons document documents ih =>
    simp only [List.map_cons, List.sum_cons, ih]
    omega

theorem sumOf_eq (f : Document → ℤ) (books : Collection) :
    sumOf f books = ((books.toList.map Prod.snd).map f).sum := by
  rw [sumOf, List.map_map]
  rfl

/-- The documents of the collection are lent books. -/
theorem lent_of_mem (hlent : ∀ (id : String) (document : Document), books[id]? = some document →
    Lent document) : ∀ document ∈ books.toList.map Prod.snd, Lent document := by
  intro document hdocument
  obtain ⟨⟨id, document⟩, hentry, rfl⟩ := List.mem_map.1 hdocument
  exact hlent id document (Std.ExtTreeMap.mem_toList_iff_getElem?_eq_some.1 hentry)

/-- With quantities that add up to an `Int` every prefix completes and the sums are shown. -/
theorem reports_of_sum (hlent : ∀ document ∈ books.toList.map Prod.snd, Lent document)
    (hint : Swift.InInt (sumOf quantity books)) : Reports books := by
  rw [sumOf_eq] at hint
  have hhigh := hint.2
  constructor
  · intro n d
    have hprefix : ∀ document ∈ (books.toList.map Prod.snd).take n, Lent document :=
      fun document hdocument => hlent document (List.mem_of_mem_take hdocument)
    have hle := sum_take_le hlent n
    have hloop := foldlM_add (d := d) hprefix le_rfl le_rfl (by omega)
    rw [← List.map_take, List.foldlM_map] at hloop
    exact ⟨_, hloop⟩
  · intro d
    have hloop := foldlM_add (d := d) hlent le_rfl le_rfl (by omega)
    rw [List.foldlM_map, zero_add, zero_add] at hloop
    have hrest : Swift.InInt (((books.toList.map Prod.snd).map quantity).sum -
        ((books.toList.map Prod.snd).map lentCopies).sum) := by
      -- The difference lies between zero and the sum of the quantities.
      obtain ⟨hlow, hle⟩ := sum_bounds hlent
      exact ⟨by omega, by omega⟩
    rw [sumOf_eq, sumOf_eq, sumOf_eq, sum_sub, viewDidLoad, Traps.bind_apply, hloop]
    exact Traps.bind_eq_ok.2 ⟨_, d,
      Traps.checked_eq_ok.2 ⟨Swift.inRange?_eq_some.2 ⟨rfl, hrest⟩, rfl⟩, rfl⟩

/-- For books of which not more copies are lent than there are, the loop overflows at no prefix
and the screen reports the three sums, exactly when all quantities add up to an `Int`. -/
theorem reports_iff (hlent : ∀ (id : String) (document : Document),
    books[id]? = some document → Lent document) :
    Reports books ↔ Swift.InInt (sumOf quantity books) := by
  have hdocuments := lent_of_mem hlent
  constructor
  · intro h
    obtain ⟨sums, hsums⟩ := h.prefixes books.toList.length ⟨∅, []⟩
    rw [List.take_length, ← List.foldlM_map] at hsums
    have hlt := sum_lt_of_foldlM hdocuments (by decide) hsums
    obtain ⟨hlow, hle⟩ := sum_bounds hdocuments
    rw [sumOf_eq]
    exact ⟨by omega, by omega⟩
  · exact reports_of_sum hdocuments

end StatisticBooksViewController

open StatisticBooksViewController

/-! ## Every catalogue -/

/-- What the forms store of a book: a name, and the two numbers that the loop reads. -/
structure Catalogued (book : Document) : Prop where
  name : ∃ name, book.string? "name" = some name
  quantity : ∃ quantity, (book.string? "quantity").bind Swift.int? = some quantity
  check : ∃ check, book.int? "check" = some check

/-- Every book has its name and numbers, and an id by which it can be addressed. -/
structure Countable (db : Database) : Prop where
  addressed : db.Addressed
  catalogued : ∀ (id : String) (book : Document), (db .books)[id]? = some book → Catalogued book

theorem countable_empty : Countable Database.empty where
  addressed := Database.addressed_empty
  catalogued id book hbook := by simp [Database.empty] at hbook

/-- A write to one book keeps the catalogue if it leaves all of that book. -/
theorem Countable.of_overrideAt {db db' : Database} {text : String}
    {data : List (String × FieldValue)} (hdb : Countable db) (ha : db'.Addressed)
    (hbooks : db' .books = db.overrideAt .books text data)
    (hself : ∀ id ∈ CollectionName.books.id? text,
      Catalogued (Document.merge (((db .books)[id]?).getD ∅) data)) : Countable db' := by
  refine ⟨ha, ?_⟩
  rw [hbooks]
  exact Database.forall_getElem?_overrideAt hdb.catalogued hself

/-- The lent count of a stored book may be any number. -/
theorem Countable.of_check {db db' : Database} {id : String} {check : ℤ} (hdb : Countable db)
    (ha : db'.Addressed) (hid : id ∈ db .books)
    (hbooks : db' .books = (db .books).override id [("check", .number check)]) :
    Countable db' := by
  have hvalid : IsDocumentID id := hdb.addressed _ id hid
  obtain ⟨book, hbook⟩ := Std.ExtTreeMap.mem_iff_exists_getElem?.1 hid
  obtain ⟨⟨name, hname⟩, ⟨quantity, hquantity⟩, -⟩ := hdb.catalogued id book hbook
  rw [← Database.overrideAt_of_isDocumentID hvalid] at hbooks
  refine hdb.of_overrideAt ha hbooks ?_
  rw [CollectionName.id?_of_isDocumentID .books hvalid]
  rintro _ ⟨⟩
  rw [hbook, Option.getD_some]
  refine ⟨⟨name, ?_⟩, ⟨quantity, ?_⟩, check, ?_⟩
  · simpa [Document.merge_cons] using hname
  · simpa [Document.merge_cons] using hquantity
  · simp [Document.merge_cons]

section

variable {uppercased : String → String} {c c' : Client} {form : BookForm}

theorem countable_addBook {answered : List String} (hc : Countable c.db)
    (h : Visit.step uppercased c (.addBook form answered) = some c') : Countable c'.db := by
  have ha := Visit.addressed_step hc.addressed h
  obtain ⟨-, hsame⟩ | ⟨-, -, -, quantity, hquantity, -, hbooks⟩ := Visit.step_addBook h
  · rwa [hsame]
  have hint := Swift.inInt_of_int? hquantity
  refine hc.of_overrideAt ha hbooks fun id _ => ⟨⟨uppercased form.bookname, ?_⟩,
    ⟨quantity, ?_⟩, 0, ?_⟩ <;>
    simp [AddBooksViewController.newBook, Book.newData, Document.merge_cons, hint]

theorem countable_editBook {row : ℕ} (hc : Countable c.db)
    (h : Visit.step uppercased c (.editBook row form) = some c') : Countable c'.db := by
  have ha := Visit.addressed_step hc.addressed h
  obtain ⟨id, book, name, -, -, -,
    ⟨-, hsame⟩ | ⟨-, hid, avatarURL, check, quantity, -, -, hquantity, -, hbooks⟩⟩ :=
    Visit.step_editBook hc.addressed h
  · rwa [hsame]
  -- A quantity below the lent count is stored as zero.
  have hstored : Swift.InInt (if quantity < check then 0 else quantity) := by
    split
    · decide
    · exact Swift.inInt_of_int? hquantity
  rw [← Database.overrideAt_of_isDocumentID hid] at hbooks
  refine hc.of_overrideAt ha hbooks fun a _ => ⟨⟨uppercased form.bookname, ?_⟩,
    ⟨if quantity < check then 0 else quantity, ?_⟩, check, ?_⟩ <;>
    simp [Book.detail, Document.merge_cons, hstored]

end

/-- What changes the catalogue: a visit of some client that adds or edits a book, and the lending
of a stored book, which may make any number of its lent count. -/
inductive CatalogueChange
  | add (temp : UserDefaults) (form : BookForm) (answered : List String)
  | edit (temp : UserDefaults) (row : ℕ) (form : BookForm)
  | lend (id : String) (check : ℤ)

namespace CatalogueChange

def step (uppercased : String → String) (db : Database) : CatalogueChange → Option Database
  | .add temp form answered =>
    (Visit.step uppercased ⟨temp, db⟩ (.addBook form answered)).map Client.db
  | .edit temp row form => (Visit.step uppercased ⟨temp, db⟩ (.editBook row form)).map Client.db
  | .lend id check =>
    if id ∈ db .books then some (Write.apply db (.setData .books id [("check", .number check)]))
    else none

variable {uppercased : String → String} {db db' : Database}

theorem countable_lend {id : String} {check : ℤ} (hdb : Countable db)
    (h : step uppercased db (.lend id check) = some db') : Countable db' := by
  obtain ⟨hid, hdb'⟩ := Option.ite_none_right_eq_some.1 h
  obtain rfl := Option.some.inj hdb'
  exact hdb.of_check (hdb.addressed.apply (hdb.addressed _ id hid)) hid (Write.apply_setData ..)

/-- Every change leaves books with a quantity that is a number and a lent count. -/
theorem countable_step {change : CatalogueChange} (hdb : Countable db)
    (h : Steps (step uppercased) db change db') : Countable db' := by
  cases change with
  | add temp form answered =>
    obtain ⟨c', hc', rfl⟩ := Option.map_eq_some_iff.1 h
    exact countable_addBook (c := ⟨temp, db⟩) hdb hc'
  | edit temp row form =>
    obtain ⟨c', hc', rfl⟩ := Option.map_eq_some_iff.1 h
    exact countable_editBook (c := ⟨temp, db⟩) hdb hc'
  | lend id check => exact countable_lend hdb h

theorem countable_of_run {changes : List CatalogueChange}
    (h : Run (Steps (step uppercased)) Database.empty changes db) : Countable db :=
  h.invariant Countable countable_empty fun _ _ _ => countable_step

end CatalogueChange

/-- A book that has its numbers is lent as they say. -/
theorem lent_of_catalogued {book : Document} (hbook : Catalogued book)
    (hnonneg : 0 ≤ lentCopies book) (hle : lentCopies book ≤ quantity book) : Lent book := by
  obtain ⟨stored, hquantity⟩ := hbook.quantity
  obtain ⟨check, hcheck⟩ := hbook.check
  refine ⟨?_, ?_, hnonneg, hle⟩
  · rw [quantity, hquantity, Option.getD_some]
  · rw [lentCopies, hcheck, Option.getD_some]

/-- Whatever was added, edited and lent: with lent counts between zero and the quantity the loop
overflows at no prefix and reports the three sums, exactly when the quantities of all books add
up to an `Int`. -/
theorem totals_iff {uppercased : String → String} {changes : List CatalogueChange} {db : Database}
    (hrun : Run (Steps (CatalogueChange.step uppercased)) Database.empty changes db)
    (hcounts : ∀ (id : String) (document : Document), (db .books)[id]? = some document →
      0 ≤ lentCopies document ∧ lentCopies document ≤ quantity document) :
    Reports (db .books) ↔ Swift.InInt (sumOf quantity (db .books)) := by
  refine reports_iff fun id document hdocument => ?_
  obtain ⟨hnonneg, hle⟩ := hcounts id document hdocument
  exact lent_of_catalogued
    ((CatalogueChange.countable_of_run hrun).catalogued id document hdocument) hnonneg hle

namespace Sample

/-- Two books with as many copies as an `Int` can count. -/
def largest : Reached (Steps (CatalogueChange.step Swift.asciiUppercased)) Database.empty :=
  let first := Reached.start.take (.add ∅ (form "B1" "One" "9223372036854775807") [])
    (by decide +kernel)
  first.take (.add ∅ (form "B2" "Two" "9223372036854775807") ["B1"]) (by decide +kernel)

/-- Two books with two copies, one of which is lent. -/
def oneLent : Reached (Steps (CatalogueChange.step Swift.asciiUppercased)) Database.empty :=
  let first := Reached.start.take (.add ∅ (form "B1" "One" "2") []) (by decide +kernel)
  let second := first.take (.add ∅ (form "B2" "Two" "2") ["B1"]) (by decide +kernel)
  second.take (.lend "B1" 1) (by decide +kernel)

end Sample

theorem totals_oneLent : Reports (Sample.oneLent.state .books) := by
  have hlisted : ∀ entry ∈ (Sample.oneLent.state .books).toList,
      0 ≤ lentCopies entry.2 ∧ lentCopies entry.2 ≤ quantity entry.2 := by decide +kernel
  have hcounts : ∀ (id : String) (document : Document),
      (Sample.oneLent.state .books)[id]? = some document →
        0 ≤ lentCopies document ∧ lentCopies document ≤ quantity document :=
    fun id document hdocument => hlisted (id, document)
      (Std.ExtTreeMap.mem_toList_iff_getElem?_eq_some.2 hdocument)
  exact (totals_iff Sample.oneLent.run hcounts).2 (by decide +kernel)

/-- Two books whose quantities the form accepts are more than an `Int` can count. -/
theorem totals_fail : ¬ ∀ (changes : List CatalogueChange) (db : Database),
    Run (Steps (CatalogueChange.step Swift.asciiUppercased)) Database.empty changes db →
      (∀ (id : String) (document : Document), (db .books)[id]? = some document →
        0 ≤ lentCopies document ∧ lentCopies document ≤ quantity document) →
        Reports (db .books) := by
  intro hall
  have hlisted : ∀ entry ∈ (Sample.largest.state .books).toList,
      0 ≤ lentCopies entry.2 ∧ lentCopies entry.2 ≤ quantity entry.2 := by decide +kernel
  have hreports := hall _ _ Sample.largest.run fun id document hdocument =>
    hlisted (id, document) (Std.ExtTreeMap.mem_toList_iff_getElem?_eq_some.2 hdocument)
  have htrap : (Traps.result? (viewDidLoad (Sample.largest.state .books)) ⟨∅, []⟩).isNone := by
    decide +kernel
  have hshown := Traps.result?_eq_some.2 (hreports.labels ⟨∅, []⟩)
  rw [hshown] at htrap
  cases htrap

end LibraryManagement
