import LibraryManagement.Lib.Transition
import LibraryManagement.VisitsTheorems

/-!
# What the book forms store

Adding a book tests for a book of the same name among the listed ones and then merges the form
into the document that the typed ID names. Editing one merges the form into the document that was
tapped, whatever its quantity: the alert about a quantity below the lent count stops nothing.
-/

namespace LibraryManagement

open Handler AddBooksViewController

variable {uppercased : String → String} {db : Database} {form : BookForm} {answered : List String}
  {d d' : Device}

/-! ## When an add completes -/

/-- A duplicate test can read every book. -/
def Readable (books : Collection) : Prop :=
  ∀ id ∈ books.keys, IsDocumentPath id ∧ ∀ document ∈ books[id]?, (document.string? "name").isSome

instance : DecidablePred Readable := fun books =>
  inferInstanceAs (Decidable (∀ id ∈ books.keys, _))

theorem checkNewBookAnswer_completes {book : Book} {answer : Option Document} :
    (∃ d', checkNewBookAnswer book answer d = .ok () d') ↔
      ∀ document ∈ answer, (document.string? "name").isSome := by
  constructor
  · rintro ⟨d', h⟩ document rfl
    rcases checkNewBookAnswer_eq_ok.1 h with ⟨hnone, -⟩ | ⟨document', name, hsome, hname, -⟩
    · cases hnone
    · rw [Option.some.inj hsome, hname]
      rfl
  · intro hnamed
    cases answer with
    | none => exact ⟨d, rfl⟩
    | some document =>
      obtain ⟨name, hname⟩ := Option.isSome_iff_exists.1 (hnamed document rfl)
      by_cases hsame : book.name = name
      · exact ⟨_, checkNewBookAnswer_eq_ok.2 (.inr ⟨document, name, rfl, hname, .inl ⟨hsame, rfl⟩⟩)⟩
      · exact ⟨_, checkNewBookAnswer_eq_ok.2 (.inr ⟨document, name, rfl, hname, .inr ⟨hsame, rfl⟩⟩)⟩

theorem answers_completes {book : Book} {ids : List String} :
    (∃ d', Visits.answers db book ids d = .ok () d') ↔
      ∀ id ∈ ids, ∀ document ∈ (db .books)[id]?, (document.string? "name").isSome := by
  have hstep : ∀ (id : String) (d : Device), (∃ d', checkNewBookAnswer book (db .books)[id]? d = .ok () d') ↔
      ∀ document ∈ (db .books)[id]?, (document.string? "name").isSome :=
    fun _ _ => checkNewBookAnswer_completes
  exact Traps.exists_forM_eq_ok hstep

/-- A complete form that is added had a number for its quantity, and every book was read. -/
theorem readable_of_addBook (hcomplete : ¬ Incomplete form)
    (h : Visits.addBook uppercased db form answered d = .ok () d') :
    (∃ quantity, Swift.int? form.quantity = some quantity) ∧ Readable (db .books) := by
  simp only [Visits.addBook, Traps.bind_eq_ok, loadBookData_eq_ok, exists_const,
    exists_eq_left'] at h
  obtain ⟨book, d₁, hconfirm, hrest⟩ := h
  rcases confirmButton_eq_ok.1 hconfirm with
    ⟨hincomplete, -⟩ | ⟨-, quantity, hquantity, rfl, rfl⟩
  · exact absurd hincomplete hcomplete
  refine ⟨⟨quantity, hquantity⟩, ?_⟩
  simp only [Traps.bind_eq_ok, checkNewBook_eq_ok, readFlag_eq_ok, and_assoc, exists_and_left,
    exists_eq_left'] at hrest
  obtain ⟨ids, hids, hvalid, _, d₂, hanswers, flag, -, hrest⟩ := hrest
  simp only [UserDefaults.getElem?_insert, String.reduceEq, if_false, if_true, Option.bind_some,
    Value.strings?_strings, Option.some.injEq] at hids
  subst hids
  have hlate : ∃ d₃ d₄, Visits.answers db (newBook uppercased form quantity)
      ((db .books).keys.filter (· ∉ answered)) d₃ = .ok () d₄ := by
    cases flag with
    | true => exact ⟨_, _, hrest⟩
    | false =>
      simp only [Bool.false_eq_true, if_false, Traps.bind_eq_ok, Book.saveOrUpdateNewBook_eq_ok,
        updateData_eq_ok, and_assoc, exists_and_left, exists_eq_left', exists_const] at hrest
      exact ⟨_, _, hrest.2.2⟩
  obtain ⟨d₃, d₄, hlate⟩ := hlate
  -- Every listed book was read before the flag or after it.
  intro id hid
  refine ⟨hvalid id hid, ?_⟩
  by_cases hearly : id ∈ answered
  · exact answers_completes.1 ⟨_, hanswers⟩ id (List.mem_filter.2 ⟨hearly, decide_eq_true hid⟩)
  · exact answers_completes.1 ⟨_, hlate⟩ id (List.mem_filter.2 ⟨hid, decide_eq_true hearly⟩)

/-- A complete form with a number for its quantity is added or found to be a duplicate. -/
theorem addBook_completes {quantity : ℤ} (hcomplete : ¬ Incomplete form)
    (hquantity : Swift.int? form.quantity = some quantity) (hreadable : Readable (db .books))
    (hID : Visits.NameTaken db (uppercased form.bookname) answered ∨ IsDocumentPath form.bookID) :
    ∃ d', Visits.addBook uppercased db form answered d = .ok () d' := by
  have hnamed : ∀ id : String, ∀ document ∈ (db .books)[id]?, (document.string? "name").isSome := by
    intro id document hdocument
    have hid : id ∈ (db .books).keys :=
      Std.ExtTreeMap.mem_keys.2 (Std.ExtTreeMap.mem_of_getElem? hdocument)
    exact (hreadable id hid).2 document hdocument
  let book := newBook uppercased form quantity
  let d₁ : Device := { d with temp :=
    (d.temp.insert "ID_books" (.strings (db .books).keys)).insert "check" (.bool false) }
  have hids : d₁.temp["ID_books"]?.bind Value.strings? = some (db .books).keys := by
    simp only [d₁, UserDefaults.getElem?_insert, String.reduceEq, if_false, if_true,
      Option.bind_some, Value.strings?_strings]
  have hearly : ∃ d₂, Visits.answers db book (answered.filter (· ∈ (db .books).keys)) d₁ = .ok () d₂ :=
    answers_completes.2 fun id _ => hnamed id
  obtain ⟨d₂, hearly⟩ := hearly
  have hlate : ∀ d₃, ∃ d₄,
      Visits.answers db book ((db .books).keys.filter (· ∉ answered)) d₃ = .ok () d₄ :=
    fun d₃ => answers_completes.2 fun id _ => hnamed id
  -- Up to the flag the two ends of the test have the same blocks.
  suffices hrest : ∃ d', (do
      if ← readFlag then
        Visits.answers db book ((db .books).keys.filter (· ∉ answered))
      else
        book.saveOrUpdateNewBook
        updateData form
        Visits.answers db book ((db .books).keys.filter (· ∉ answered)) : Handler Unit) d₂ = .ok () d' by
    obtain ⟨d', hrest⟩ := hrest
    refine ⟨d', ?_⟩
    simp only [Visits.addBook, Traps.bind_eq_ok, loadBookData_eq_ok, exists_const, exists_eq_left']
    refine ⟨some book, d₁, confirmButton_eq_ok.2 (.inr ⟨hcomplete, quantity, hquantity, rfl, rfl⟩), ?_⟩
    exact Traps.bind_eq_ok.2 ⟨_, d₁, checkNewBook_eq_ok.2 ⟨hids, fun id hid => (hreadable id hid).1,
      rfl⟩, Traps.bind_eq_ok.2 ⟨(), d₂, hearly, hrest⟩⟩
  simp only [Traps.bind_eq_ok, readFlag_eq_ok]
  rcases (Visits.answers_ok hearly).2 with ⟨-, hup⟩ | ⟨hfree, hsame⟩
  · obtain ⟨d', hlate⟩ := hlate d₂
    exact ⟨d', true, d₂, ⟨by rw [hup]; rfl, rfl⟩, hlate⟩
  · rw [Visits.nameTaken_filter_keys] at hfree
    have hvalid : IsDocumentPath form.bookID := hID.resolve_left hfree
    have hdown : d₂.temp["check"]?.bind Value.bool? = some false := by
      rw [hsame]
      simp only [d₁, UserDefaults.getElem?_insert, if_true, Option.bind_some, Value.bool?_bool]
    obtain ⟨d', hlate⟩ := hlate { d₂ with writes := d₂.writes ++ [
        .setAt .books form.bookID book.newData] ++ [
        .updateAt .books form.bookID [("avatarURL", .string (coverURL form.bookID))]] }
    refine ⟨d', false, d₂, ⟨hdown, rfl⟩, ?_⟩
    simp only [Bool.false_eq_true, if_false, Traps.bind_eq_ok]
    exact ⟨(), _, Book.saveOrUpdateNewBook_eq_ok.2 ⟨hvalid, rfl⟩, (), _,
      updateData_eq_ok.2 ⟨hvalid, rfl⟩, hlate⟩

/-! ## Adding inserts -/

/-- No document changes, and a new ID gets a document with no copy lent. -/
def InsertsOnly (books books' : Collection) (ID : String) : Prop :=
  (ID ∈ books → books' = books) ∧
    (ID ∉ books → ∃ document, document.int? "check" = some 0 ∧ books' = books.insert ID document)

/-- The fields of an added book: those of the form, and the address of its cover. -/
def addedData (uppercased : String → String) (form : BookForm) (quantity : ℤ) :
    List (String × FieldValue) :=
  (newBook uppercased form quantity).newData ++ [("avatarURL", .string (coverURL form.bookID))]

theorem merge_addedData (uppercased : String → String) (form : BookForm) (quantity : ℤ) (document : Document) :
    (document.merge (addedData uppercased form quantity)).int? "check" = some 0 ∧
      (document.merge (addedData uppercased form quantity)).Carries "quantity"
        (Swift.description quantity) := by
  simp [addedData, Book.newData, newBook, Document.Carries, Document.merge_cons]

variable {c c' : Client}

/-- An add that is not refused sets the document that the typed ID names. -/
theorem db_of_addBook (hcomplete : ¬ Incomplete form)
    (hfree : ¬ Visits.NameTaken c.db (uppercased form.bookname) answered)
    (h : Visit.step uppercased c (.addBook form answered) = some c') :
    IsDocumentPath form.bookID ∧ ∃ quantity, Swift.int? form.quantity = some quantity ∧
      c'.db = Write.apply c.db
        (.setAt .books form.bookID (addedData uppercased form quantity)) := by
  obtain ⟨d, hd, rfl⟩ := Client.perform_eq_some.1 h
  rcases Visits.addBook_cases hd with
    ⟨hrefused, -⟩ | ⟨-, -, hID, quantity, hquantity, hwrites⟩
  · exact absurd hrefused (not_or.2 ⟨hcomplete, hfree⟩)
  · refine ⟨hID, quantity, hquantity, ?_⟩
    simp [hwrites, addedData]

/-- An add whose test found the name changes nothing; otherwise, if there is no document where the
typed ID names one, it gets the document of the form, and every other stays as it is. -/
theorem addBook_inserts {quantity : ℤ} (hcomplete : ¬ Incomplete form)
    (hquantity : Swift.int? form.quantity = some quantity) :
    (Readable (c.db .books) → IsDocumentPath form.bookID →
      ∃ c', Visit.step uppercased c (.addBook form answered) = some c') ∧
    ∀ c', Visit.step uppercased c (.addBook form answered) = some c' →
      (Visits.NameTaken c.db (uppercased form.bookname) answered → c'.db .books = c.db .books) ∧
      (¬ Visits.NameTaken c.db (uppercased form.bookname) answered →
        ∀ name id, CollectionName.books.document form.bookID = (name, id) → id ∉ c.db name →
          ∃ document, document.int? "check" = some 0 ∧
            c'.db = Function.update c.db name ((c.db name).insert id document)) := by
  refine ⟨?_, ?_⟩
  · intro hreadable hID
    have hadd : ∃ d', Visits.addBook uppercased c.db form answered ⟨c.temp, []⟩ = .ok () d' :=
      addBook_completes hcomplete hquantity hreadable (.inr hID)
    obtain ⟨d', hadd⟩ := hadd
    exact ⟨_, Client.perform_eq_some.2 ⟨d', hadd, rfl⟩⟩
  · intro c' hstep
    refine ⟨fun htaken => ?_, ?_⟩
    · rcases Visit.step_addBook hstep with ⟨-, hdb⟩ | ⟨-, hfree, -⟩
      · rw [hdb]
      · exact absurd htaken hfree
    · -- The document is the fields of the form alone, as there was none of this ID.
      intro hfree name id hdocument hnew
      obtain ⟨-, quantity', -, hdb⟩ := db_of_addBook hcomplete hfree hstep
      have hnone : (c.db name)[id]? = none := Std.ExtTreeMap.getElem?_eq_none hnew
      refine ⟨Document.merge ∅ (addedData uppercased form quantity'),
        (merge_addedData uppercased form quantity' ∅).1, ?_⟩
      rw [hdb, Write.setAt, hdocument, Write.apply, Write.collection, Write.applyTo,
        Collection.override, hnone]
      rfl

namespace Sample

def storedBook : Document := Document.merge ∅ (addedData Swift.asciiUppercased (Sample.form "B1" "One" "3") 3)

/-- A library of one book, whose row was tapped. -/
def oneBook : Client where
  temp := ((∅ : UserDefaults).insert "B1" (.dictionary storedBook)).insert "ID_current_book" (.string "B1")
  db := Function.update Database.empty .books ((∅ : Collection).insert "B1" storedBook)

theorem name_of_oneBook {name : String} {ids : List String}
    (h : Visits.NameTaken oneBook.db name ids) : name = "ONE" := by
  obtain ⟨id, -, document, hdocument, hname⟩ := h
  have hstored : oneBook.db .books = (∅ : Collection).insert "B1" storedBook := rfl
  rw [hstored, Collection.getElem?_insert] at hdocument
  split at hdocument
  · obtain rfl := Option.some.inj hdocument
    have hONE : storedBook.string? "name" = some "ONE" := by decide +kernel
    exact Option.some.inj (hname.symm.trans hONE)
  · simp at hdocument

end Sample

theorem addBook_inserts_new : ∃ c',
    Visit.step Swift.asciiUppercased Sample.oneBook
        (.addBook (Sample.form "/B2" "Two" "1") ["B1"]) =
      some c' ∧ ∃ document, document.int? "check" = some 0 ∧
        c'.db = Function.update Sample.oneBook.db .books
          ((Sample.oneBook.db .books).insert "B2" document) := by
  have hcomplete : ¬ Incomplete (Sample.form "/B2" "Two" "1") := by decide +kernel
  have hquantity : Swift.int? (Sample.form "/B2" "Two" "1").quantity = some 1 := by decide +kernel
  obtain ⟨hcompletes, hinserts⟩ := addBook_inserts hcomplete hquantity
  have hreadable : Readable (Sample.oneBook.db .books) := by decide +kernel
  obtain ⟨c', hstep⟩ := hcompletes hreadable (by decide +kernel)
  refine ⟨c', hstep, (hinserts c' hstep).2 ?_ .books "B2" (by decide +kernel) (by decide +kernel)⟩
  intro htaken
  exact absurd (Sample.name_of_oneBook htaken) (by decide +kernel)

/-- A new ID with the name of a listed book is not added. -/
theorem addBook_inserts_fails : ¬ ∀ (c c' : Client) (form : BookForm) (answered : List String)
    (quantity : ℤ), ¬ Incomplete form → Swift.int? form.quantity = some quantity →
      Visit.step Swift.asciiUppercased c (.addBook form answered) = some c' →
        InsertsOnly (c.db .books) (c'.db .books) form.bookID := by
  intro hall
  have hstep := Transition.steps_after (f := Visit.step Swift.asciiUppercased) (s := Sample.oneBook)
    (e := .addBook (Sample.form "B2" "One" "1") ["B1"]) (by decide +kernel)
  obtain ⟨-, hnew⟩ := hall _ _ _ _ 1 (by decide +kernel) (by decide +kernel) hstep
  obtain ⟨document, -, hbooks⟩ := hnew (by decide +kernel)
  have hadded : "B2" ∈ (Transition.after (Visit.step Swift.asciiUppercased) Sample.oneBook
      (.addBook (Sample.form "B2" "One" "1") ["B1"])).db .books := by
    rw [hbooks]
    exact Std.ExtTreeMap.mem_insert_self
  revert hadded
  decide +kernel

/-! ## What the quantity decides -/

/-- The fields other than the quantity are filled in. -/
def OthersFilled (form : BookForm) : Prop :=
  form.bookname ≠ "" ∧ form.bookID ≠ "" ∧ form.category ≠ "" ∧ form.author ≠ "" ∧
    form.publishingcompany ≠ "" ∧ form.publishingyear ≠ "" ∧ form.dateadded ≠ ""

instance : DecidablePred OthersFilled := fun _ =>
  inferInstanceAs (Decidable (_ ∧ _ ∧ _ ∧ _ ∧ _ ∧ _ ∧ _))

theorem incomplete_iff (hothers : OthersFilled form) : Incomplete form ↔ form.quantity = "" := by
  obtain ⟨hname, hID, hcategory, hauthor, hcompany, hyear, hdate⟩ := hothers
  simp only [Incomplete, hname, hID, hcategory, hauthor, hcompany, hyear, hdate, false_or]

/-- The confirm of a form completes. A quantity that is a number and not below `check` is
stored in the document that `id` names, if the book is admitted; otherwise no book changes. -/
def ValidatesQuantity (c : Client) (id text : String) (check : ℤ) (admitted : Prop)
    (confirm : Handler Unit) : Prop :=
  ∃ c', c.perform confirm = some c' ∧
    (∀ quantity, Swift.int? text = some quantity → check ≤ quantity → admitted →
      ∃ document ∈ c'.db.read .books id, document.Carries "quantity" (Swift.description quantity)) ∧
    ((∀ quantity, Swift.int? text = some quantity → ¬ (check ≤ quantity ∧ admitted)) →
      c'.db .books = c.db .books)

/-- For a number the two cases are whether it is accepted. -/
theorem validatesQuantity_iff {id text : String} {check quantity : ℤ} {admitted : Prop}
    {confirm : Handler Unit} (hquantity : Swift.int? text = some quantity) :
    ValidatesQuantity c id text check admitted confirm ↔ ∃ c', c.perform confirm = some c' ∧
      (check ≤ quantity ∧ admitted → ∃ document ∈ c'.db.read .books id,
        document.Carries "quantity" (Swift.description quantity)) ∧
      (¬ (check ≤ quantity ∧ admitted) → c'.db .books = c.db .books) := by
  refine exists_congr fun c' => and_congr_right fun _ => and_congr ?_ ?_
  · rw [hquantity]
    simp only [Option.some.injEq, forall_eq', and_imp]
  · rw [hquantity]
    simp only [Option.some.injEq, forall_eq']

/-- When an add does as it should: no quantity, or a number for a library whose books can be read.
Then the test finds the book; or the number is not negative and the book is new; or the ID names a
document further down, which is no book, or one that has the fields of the form already. -/
def AddValidates (uppercased : String → String) (db : Database) (form : BookForm)
    (answered : List String) : Prop :=
  form.quantity = "" ∨ ∃ quantity ∈ Swift.int? form.quantity, Readable (db .books) ∧
    (Visits.NameTaken db (uppercased form.bookname) answered ∨ IsDocumentPath form.bookID ∧
      (0 ≤ quantity ∧ ¬ Visits.NameTaken db (uppercased form.bookname) (db .books).keys ∨
        ∀ id ∈ CollectionName.books.id? form.bookID, ∃ document ∈ (db .books)[id]?,
          document.merge (addedData uppercased form quantity) = document))

/-- When an edit does as it should: the quantity is a number and the cover a text, and the number
is not below the lent count, or the document has the fields of the form already. -/
def EditValidates (uppercased : String → String) (form : BookForm) (book : Document)
    (check : ℤ) : Prop :=
  ∃ quantity ∈ Swift.int? form.quantity, ∃ avatarURL ∈ book.string? "avatarURL",
    (check ≤ quantity ∨ book.merge (EditInfoBookViewController.currentBook uppercased form avatarURL
      check quantity).detail = book)

theorem nameTaken_keys {name : String} {ids : List String} (h : Visits.NameTaken db name ids) :
    Visits.NameTaken db name (db .books).keys := by
  obtain ⟨id, -, document, hdocument, hname⟩ := h
  have hid : id ∈ (db .books).keys :=
    Std.ExtTreeMap.mem_keys.2 (Std.ExtTreeMap.mem_of_getElem? hdocument)
  exact ⟨id, hid, document, hdocument, hname⟩

/-- An incomplete form is refused once the list is loaded. -/
theorem addBook_refused (uppercased : String → String) (answered : List String)
    (hincomplete : Incomplete form) (c : Client) :
    c.perform (Visits.addBook uppercased c.db form answered) = some
      ⟨c.temp.insert "ID_books" (.strings (c.db .books).keys), c.db⟩ := by
  refine Client.perform_eq_some.2
    ⟨⟨c.temp.insert "ID_books" (.strings (c.db .books).keys), []⟩, ?_, rfl⟩
  simp only [Visits.addBook, Traps.bind_eq_ok, loadBookData_eq_ok, exists_const, exists_eq_left']
  exact ⟨none, _, confirmButton_eq_ok.2 (.inl ⟨hincomplete, rfl, rfl⟩), rfl⟩

/-- An add is right about the quantity exactly under its condition. -/
theorem addBook_validates (hothers : OthersFilled form) :
    ValidatesQuantity c form.bookID form.quantity 0
        (¬ Visits.NameTaken c.db (uppercased form.bookname) (c.db .books).keys)
        (Visits.addBook uppercased c.db form answered) ↔
      AddValidates uppercased c.db form answered := by
  by_cases hempty : form.quantity = ""
  · have hrefused := addBook_refused uppercased answered ((incomplete_iff hothers).2 hempty) c
    have hnone : Swift.int? form.quantity = none := by
      rw [hempty]
      decide
    refine iff_of_true ⟨_, hrefused, ?_, fun _ => rfl⟩ (.inl hempty)
    intro quantity hquantity
    rw [hnone] at hquantity
    cases hquantity
  have hcomplete : ¬ Incomplete form := fun h => hempty ((incomplete_iff hothers).1 h)
  rw [AddValidates, or_iff_right hempty]
  constructor
  · rintro ⟨c', hperform, hstored, hunchanged⟩
    obtain ⟨d, hadd, -⟩ := Client.perform_eq_some.1 hperform
    obtain ⟨⟨quantity, hquantity⟩, hreadable⟩ := readable_of_addBook hcomplete hadd
    refine ⟨quantity, hquantity, hreadable, ?_⟩
    rcases Visit.step_addBook hperform with
      ⟨hrefused, -⟩ | ⟨-, hfree, hID, quantity', hquantity', -, hbooks⟩
    · exact .inl (hrefused.resolve_left hcomplete)
    · obtain rfl : quantity = quantity' := Option.some.inj (hquantity.symm.trans hquantity')
      refine .inr ⟨hID, ?_⟩
      -- A rejected form was stored all the same, so it must have changed nothing.
      by_cases haccepted : 0 ≤ quantity ∧
          ¬ Visits.NameTaken c.db (uppercased form.bookname) (c.db .books).keys
      · exact .inl haccepted
      · have hsame : c'.db .books = c.db .books := by
          refine hunchanged ?_
          intro quantity' hquantity''
          obtain rfl : quantity = quantity' := Option.some.inj (hquantity.symm.trans hquantity'')
          exact haccepted
        exact .inr (Database.overrideAt_eq_self_iff.1 (hbooks.symm.trans hsame))
  · rintro ⟨quantity, hquantity, hreadable, hfound⟩
    have hadd : ∃ d, Visits.addBook uppercased c.db form answered ⟨c.temp, []⟩ = .ok () d :=
      addBook_completes hcomplete hquantity hreadable (hfound.imp_right And.left)
    obtain ⟨d, hadd⟩ := hadd
    have hperform := Client.perform_eq_some.2 ⟨d, hadd, rfl⟩
    rw [validatesQuantity_iff hquantity]
    refine ⟨_, hperform, ?_⟩
    by_cases htaken : Visits.NameTaken c.db (uppercased form.bookname) answered
    · -- The book was found, so it is not admitted and nothing was written.
      refine ⟨fun haccepted => absurd (nameTaken_keys htaken) haccepted.2, fun _ => ?_⟩
      rcases Visit.step_addBook hperform with ⟨-, hdb⟩ | ⟨-, hfree, -⟩
      · rw [hdb]
      · exact absurd htaken hfree
    · obtain ⟨-, quantity', hquantity', hdb⟩ := db_of_addBook hcomplete htaken hperform
      obtain rfl : quantity = quantity' := Option.some.inj (hquantity.symm.trans hquantity')
      rw [hdb, Write.read_apply_setAt, Write.apply_setAt]
      refine ⟨fun _ => ⟨_, rfl, (merge_addedData uppercased form quantity _).2⟩, ?_⟩
      intro hrejected
      obtain ⟨-, haccepted | hsame⟩ := hfound.resolve_left htaken
      · exact absurd haccepted hrejected
      · exact Database.overrideAt_eq_self_iff.2 hsame

theorem detail_quantity (book : Book) (document : Document) :
    (document.merge book.detail).Carries "quantity" (Swift.description book.quantity) := by
  simp [Book.detail, Document.Carries, Document.merge_cons]

/-- The confirm of an edit stores the form in the document that was tapped. -/
theorem perform_editBook {id : String} {book : Document} (hvalid : IsDocumentID id)
    (hid : c.temp["ID_current_book"]?.bind Value.string? = some id)
    (hcached : c.temp[id]?.bind Value.dictionary? = some book) :
    c.perform (EditInfoBookViewController.confirmButton uppercased form) = some c' ↔
      ∃ avatarURL check quantity, book.string? "avatarURL" = some avatarURL ∧
        book.int? "check" = some check ∧ Swift.int? form.quantity = some quantity ∧
        c' = ⟨c.temp, Write.apply c.db (.setData .books id
          (EditInfoBookViewController.currentBook uppercased form avatarURL check quantity).detail)⟩ := by
  rw [Client.perform_eq_some]
  constructor
  · rintro ⟨d, hconfirm, rfl⟩
    obtain ⟨id', book', avatarURL, check, quantity, hid', hcached', havatar, hcheck, hquantity,
      -, rfl⟩ := EditInfoBookViewController.confirmButton_eq_ok.1 hconfirm
    obtain rfl : id = id' := Option.some.inj (hid.symm.trans hid')
    obtain rfl : book = book' := Option.some.inj (hcached.symm.trans hcached')
    rw [Write.setAt_of_isDocumentID hvalid]
    exact ⟨avatarURL, check, quantity, havatar, hcheck, hquantity, rfl⟩
  · rintro ⟨avatarURL, check, quantity, havatar, hcheck, hquantity, rfl⟩
    rw [← Write.setAt_of_isDocumentID hvalid]
    exact ⟨_, EditInfoBookViewController.confirmButton_eq_ok.2 ⟨id, book, avatarURL, check, quantity,
      hid, hcached, havatar, hcheck, hquantity, hvalid.isDocumentPath, rfl⟩, rfl⟩

/-- An edit with an up-to-date copy is right about the quantity exactly under its condition. -/
theorem editBook_validates {id : String} {book : Document} {check : ℤ} (hvalid : IsDocumentID id)
    (hid : c.temp["ID_current_book"]?.bind Value.string? = some id)
    (hcached : c.temp[id]?.bind Value.dictionary? = some book)
    (hstored : (c.db .books)[id]? = some book) (hcheck : book.int? "check" = some check) :
    ValidatesQuantity c id form.quantity check True
        (EditInfoBookViewController.confirmButton uppercased form) ↔
      EditValidates uppercased form book check := by
  constructor
  · rintro ⟨c', hperform, -, hunchanged⟩
    obtain ⟨avatarURL, check', quantity, havatar, hcheck', hquantity, rfl⟩ :=
      (perform_editBook hvalid hid hcached).1 hperform
    obtain rfl : check = check' := Option.some.inj (hcheck.symm.trans hcheck')
    refine ⟨quantity, hquantity, avatarURL, havatar, ?_⟩
    -- A quantity below the count was stored all the same, so it must have changed nothing.
    by_cases haccepted : check ≤ quantity
    · exact .inl haccepted
    · right
      have hsame : Write.apply c.db (.setData .books id (EditInfoBookViewController.currentBook
          uppercased form avatarURL check quantity).detail) .books = c.db .books := by
        refine hunchanged ?_
        intro quantity' hquantity' haccepted'
        obtain rfl : quantity = quantity' := Option.some.inj (hquantity.symm.trans hquantity')
        exact haccepted haccepted'.1
      rw [Write.apply_setData] at hsame
      obtain ⟨book', hbook', hmerge⟩ := Collection.override_eq_self_iff.1 hsame
      obtain rfl : book = book' := Option.some.inj (hstored.symm.trans hbook')
      exact hmerge
  · rintro ⟨quantity, hquantity, avatarURL, havatar, hcases⟩
    rw [validatesQuantity_iff hquantity]
    refine ⟨_, (perform_editBook hvalid hid hcached).2
      ⟨avatarURL, check, quantity, havatar, hcheck, hquantity, rfl⟩, ?_, ?_⟩
    · rintro ⟨haccepted, -⟩
      show ∃ document ∈ (Write.apply c.db (.setData .books id _)).read .books id, _
      rw [Database.read_of_isDocumentID hvalid, Write.apply_setData]
      refine ⟨_, Collection.getElem?_override_self _ _ _, ?_⟩
      have hquantity := detail_quantity (EditInfoBookViewController.currentBook uppercased form
        avatarURL check quantity) (((c.db .books)[id]?).getD ∅)
      rwa [EditInfoBookViewController.currentBook_quantity, if_neg (not_lt.2 haccepted)] at hquantity
    · intro hrejected
      have hmerge := hcases.resolve_left fun haccepted => hrejected ⟨haccepted, trivial⟩
      show Write.apply c.db (.setData .books id _) .books = c.db .books
      rw [Write.apply_setData]
      exact Collection.override_eq_self_iff.2 ⟨book, hstored, hmerge⟩

/-- Both forms are right about the quantity exactly under their conditions. -/
theorem validates_iff (uppercased : String → String) (c : Client) :
    (∀ form answered, OthersFilled form →
      (ValidatesQuantity c form.bookID form.quantity 0
          (¬ Visits.NameTaken c.db (uppercased form.bookname) (c.db .books).keys)
          (Visits.addBook uppercased c.db form answered) ↔
        AddValidates uppercased c.db form answered)) ∧
    ∀ form id book check, IsDocumentID id →
      c.temp["ID_current_book"]?.bind Value.string? = some id →
        c.temp[id]?.bind Value.dictionary? = some book → (c.db .books)[id]? = some book →
          book.int? "check" = some check →
            (ValidatesQuantity c id form.quantity check True
                (EditInfoBookViewController.confirmButton uppercased form) ↔
              EditValidates uppercased form book check) :=
  ⟨fun _ _ hothers => addBook_validates hothers, fun _ _ _ _ hvalid hid hcached hstored hcheck =>
    editBook_validates hvalid hid hcached hstored hcheck⟩

/-- A new book with five copies, and the listed book with two. -/
theorem validates_oneBook :
    ValidatesQuantity Sample.oneBook "B2/" "5" 0
        (¬ Visits.NameTaken Sample.oneBook.db "TWO" (Sample.oneBook.db .books).keys)
        (Visits.addBook Swift.asciiUppercased Sample.oneBook.db (Sample.form "B2/" "Two" "5") []) ∧
      ValidatesQuantity Sample.oneBook "B1" "2" 0 True
        (EditInfoBookViewController.confirmButton Swift.asciiUppercased (Sample.form "B1" "One" "2")) := by
  obtain ⟨hadd, hedit⟩ := validates_iff Swift.asciiUppercased Sample.oneBook
  have htwo : Swift.asciiUppercased "Two" = "TWO" := by decide +kernel
  constructor
  · rw [← htwo]
    refine (hadd (Sample.form "B2/" "Two" "5") [] (by decide +kernel)).2
      (.inr ⟨5, by decide +kernel, by decide +kernel, .inr ⟨by decide +kernel, .inl ⟨by decide, ?_⟩⟩⟩)
    intro htaken
    exact absurd (Sample.name_of_oneBook htaken) (by decide +kernel)
  · exact (hedit (Sample.form "B1" "One" "2") "B1" Sample.storedBook 0 (by decide +kernel)
      (by decide +kernel) (by decide +kernel) (by decide +kernel) (by decide +kernel)).2
        ⟨2, by decide +kernel, coverURL "B1", by decide +kernel, .inl (by decide)⟩

/-- A quantity that is no number stops the app. -/
theorem validates_fails : ¬ ∀ (c : Client) (form : BookForm) (answered : List String),
    OthersFilled form → ValidatesQuantity c form.bookID form.quantity 0
      (¬ Visits.NameTaken c.db (Swift.asciiUppercased form.bookname) (c.db .books).keys)
      (Visits.addBook Swift.asciiUppercased c.db form answered) := by
  intro hall
  have hvalidates := hall Sample.oneBook (Sample.form "B2" "Two" "5 copies") [] (by decide +kernel)
  rcases (addBook_validates (by decide +kernel)).1 hvalidates with hempty | ⟨quantity, hquantity, -⟩
  · revert hempty
    decide +kernel
  · have hnone : Swift.int? (Sample.form "B2" "Two" "5 copies").quantity = none := by decide +kernel
    rw [hnone] at hquantity
    cases hquantity

end LibraryManagement
