import LibraryManagement.VisitsTheorems

/-!
# The entries of the picker

The borrow screen offers the books as texts, the ID and the name joined by a hyphen
(`bookEntry`), and splits the selected text at its hyphens to find the book again (`parse`).
This gives the ID and the name back exactly when neither contains a hyphen
(`entries_roundTrip`).
-/

namespace LibraryManagement

open Handler

namespace AddNewBorrowingCardViewController

/-- The ID and the name that an entry is split into. -/
def parse (entry : String) : Handler (String × String) := do
  let data := Swift.components '-' entry
  return (← Traps.index data 0, ← Traps.index data 1)

/-- The end of editing parses the entry, and reads the book of the ID it found. -/
theorem bookIDAction_eq_parse {s : Screen} (h : s.idBook ≠ "") :
    bookIDAction s = do
      let (id, bookName) ← parse s.idBook
      return ({ s with id := id, bookName := bookName }, some (← document id)) := by
  unfold bookIDAction parse
  rw [if_pos h]
  simp only [bind_assoc, pure_bind]

@[simp] theorem parse_eq_ok {entry id bookName : String} {d d' : Device} :
    parse entry d = .ok (id, bookName) d' ↔ ((Swift.components '-' entry)[0]? = some id ∧
      (Swift.components '-' entry)[1]? = some bookName) ∧ d = d' := by
  simp only [parse, Traps.bind_eq_ok, Traps.index_eq_ok, Traps.pure_eq_ok, Prod.mk.injEq]
  constructor
  · rintro ⟨id, _, ⟨hid, rfl⟩, bookName, _, ⟨hname, rfl⟩, ⟨rfl, rfl⟩, rfl⟩
    exact ⟨⟨hid, hname⟩, rfl⟩
  · rintro ⟨⟨hid, hname⟩, rfl⟩
    exact ⟨id, d, ⟨hid, rfl⟩, bookName, d, ⟨hname, rfl⟩, ⟨rfl, rfl⟩, rfl⟩

end AddNewBorrowingCardViewController

open AddNewBorrowingCardViewController

/-! ## What is to hold -/

/-- The entry of the book is taken for this ID and this name, on every device. -/
def PickedAs (book : Document) (ID name : String) : Prop :=
  ∃ entry, bookEntry book = some entry ∧ ∀ d, parse entry d = .ok (ID, name) d

/-- The entry of the book can be taken for this ID. -/
def ResolvedTo (book : Document) (ID : String) : Prop :=
  ∃ entry name d d', bookEntry book = some entry ∧ parse entry d = .ok (ID, name) d'

/-! ## One entry -/

/-- What add-book stores carries the ID and the name of the form, whatever was stored there. -/
theorem Document.carries_newData (uppercased : String → String) (form : BookForm) (quantity : ℤ)
    (document : Document) :
    (document.merge (AddBooksViewController.newBook uppercased form quantity).newData).Carries
        "ID" form.bookID ∧
      (document.merge (AddBooksViewController.newBook uppercased form quantity).newData).Carries
        "name" (uppercased form.bookname) := by
  simp [Carries, Book.newData, merge_cons, AddBooksViewController.newBook]

theorem bookEntry_of_carries {book : Document} {ID name : String} (hID : book.Carries "ID" ID)
    (hname : book.Carries "name" name) : bookEntry book = some (ID ++ "-" ++ name) := by
  obtain ⟨vID, hvID, hsID⟩ := Option.bind_eq_some_iff.1 hID
  obtain ⟨vname, hvname, hsname⟩ := Option.bind_eq_some_iff.1 hname
  obtain rfl := FieldValue.string?_eq_some.1 hsID
  obtain rfl := FieldValue.string?_eq_some.1 hsname
  rw [bookEntry, hvID, hvname]
  rfl

/-- A book is picked as itself exactly when neither its ID nor its name contains a hyphen. -/
theorem pickedAs_iff {book : Document} {ID name : String} (hID : book.Carries "ID" ID)
    (hname : book.Carries "name" name) :
    PickedAs book ID name ↔ '-' ∉ ID.toList ∧ '-' ∉ name.toList := by
  have hjoined : (ID ++ "-" ++ name).toList = ID.toList ++ '-' :: name.toList := by
    simp [String.toList_append]
  rw [← Swift.components_join_iff hjoined, PickedAs, bookEntry_of_carries hID hname]
  constructor
  · rintro ⟨entry, hentry, hparse⟩
    obtain rfl := Option.some.inj hentry
    exact (parse_eq_ok.1 (hparse ⟨∅, []⟩)).1
  · intro hpieces
    exact ⟨_, rfl, fun d => parse_eq_ok.2 ⟨hpieces, rfl⟩⟩

theorem PickedAs.parse_eq {book : Document} {ID name id bookName entry : String} {d d' : Device}
    (h : PickedAs book ID name) (hentry : bookEntry book = some entry)
    (hparse : parse entry d = .ok (id, bookName) d') : id = ID ∧ bookName = name := by
  obtain ⟨entry', hentry', hall⟩ := h
  obtain rfl := Option.some.inj (hentry.symm.trans hentry')
  have hsame := (hall d).symm.trans hparse
  simp only [EStateM.Result.ok.injEq, Prod.mk.injEq] at hsame
  exact ⟨hsame.1.1.symm, hsame.1.2.symm⟩

/-! ## Every book -/

/-- The ID and the name of a book come back from its entry exactly when neither contains a
hyphen. The screen then reads that book, and takes no book of another ID for it. -/
theorem entries_roundTrip {book : Document} {ID name : String} (hID : book.Carries "ID" ID)
    (hname : book.Carries "name" name) :
    (PickedAs book ID name ↔ '-' ∉ ID.toList ∧ '-' ∉ name.toList) ∧
      (PickedAs book ID name → ∀ entry ∈ bookEntry book, ∀ (s s' : Screen) asked d d',
        bookIDAction { s with idBook := entry } d = .ok (s', asked) d' →
          s'.id = ID ∧ s'.bookName = name ∧ asked = some ID) ∧
      ∀ book' ID' name', PickedAs book ID name → PickedAs book' ID' name' → ID ≠ ID' →
        ∀ id, ¬ (ResolvedTo book id ∧ ResolvedTo book' id) := by
  refine ⟨pickedAs_iff hID hname, ?_, ?_⟩
  · intro hpicked entry hentry s s' asked d d' haction
    -- An entry has the separator in it.
    have hne : entry ≠ "" := by
      rintro rfl
      have hempty := Option.some.inj ((bookEntry_of_carries hID hname).symm.trans hentry)
      have hchars := congrArg String.toList hempty
      simp [String.toList_append] at hchars
    rw [bookIDAction_eq_parse hne] at haction
    obtain ⟨⟨id, bookName⟩, d₁, hparse, hrest⟩ := Traps.bind_eq_ok.1 haction
    obtain ⟨rfl, rfl⟩ := hpicked.parse_eq hentry hparse
    obtain ⟨id', d₂, hdocument, hreturn⟩ := Traps.bind_eq_ok.1 hrest
    obtain ⟨-, rfl, -⟩ := document_eq_ok.1 hdocument
    obtain ⟨hresult, -⟩ := Traps.pure_eq_ok.1 hreturn
    obtain ⟨rfl, rfl⟩ := Prod.mk.inj hresult
    exact ⟨rfl, rfl, rfl⟩
  · rintro book' ID' name' hpicked hpicked' hne id
      ⟨⟨entry, bookName, d₁, d₂, hentry, hparse⟩, ⟨entry', bookName', d₃, d₄, hentry', hparse'⟩⟩
    have hid : id = ID := (hpicked.parse_eq hentry hparse).1
    have hid' : id = ID' := (hpicked'.parse_eq hentry' hparse').1
    exact hne (hid.symm.trans hid')

theorem pickedAs_plain :
    PickedAs (Document.merge ∅ (AddBooksViewController.newBook Swift.asciiUppercased
      (Sample.form "B1" "One" "1") 1).newData) "B1" "ONE" := by
  have hcarries := Document.carries_newData Swift.asciiUppercased (Sample.form "B1" "One" "1") 1 ∅
  have hname : Swift.asciiUppercased "One" = "ONE" := by decide +kernel
  exact (entries_roundTrip hcarries.1 (hname ▸ hcarries.2)).1.2 (by decide +kernel)

/-- The entry of a book with the ID `A-1` is taken for the ID `A`. -/
theorem pickedAs_fails : ¬ ∀ (form : BookForm) (quantity : ℤ),
    ¬ AddBooksViewController.Incomplete form →
      PickedAs (Document.merge ∅ (AddBooksViewController.newBook Swift.asciiUppercased form
        quantity).newData) form.bookID (Swift.asciiUppercased form.bookname) := by
  intro hall
  obtain ⟨entry, hentry, hparse⟩ := hall (Sample.form "A-1" "One" "1") 1 (by decide +kernel)
  have hstored : bookEntry (Document.merge ∅ (AddBooksViewController.newBook Swift.asciiUppercased
      (Sample.form "A-1" "One" "1") 1).newData) = some "A-1-ONE" := by decide +kernel
  obtain rfl := Option.some.inj (hstored.symm.trans hentry)
  have hpieces : (Swift.components '-' "A-1-ONE")[0]? = some "A-1" :=
    (parse_eq_ok.1 (hparse ⟨∅, []⟩)).1.1
  revert hpieces
  decide +kernel

end LibraryManagement
