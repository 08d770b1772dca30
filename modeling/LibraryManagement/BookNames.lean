import LibraryManagement.Lib.Transition
import LibraryManagement.VisitsTheorems

/-!
# The names of the books

One client adds and edits books. The blocks of a confirm and the answers to the reads of its
duplicate test are steps of their own, in any order: a confirm can be pressed while the
blocks of an earlier one have still to run.
-/

namespace LibraryManagement

open Handler Transition AddBooksViewController

/-- A confirm in progress with the history of its test. The test is disturbed if its flag is
read while a read is unanswered, or if another confirm or a write to the books comes between
its start and its end. -/
structure Test where
  adding : Adding
  disturbed : Bool

def Test.disturb (test : Test) : Test := { test with disturbed := true }

/-- The client, with the confirms in progress. -/
structure Catalogue where
  client : Client
  tests : List Test

def Catalogue.empty : Catalogue := ⟨Client.empty, []⟩

/-- A confirm, a block, a callback or an edit. -/
inductive BookStep
  /-- The confirm of a new book. -/
  | press (form : BookForm)
  /-- The next block of a confirm, when the form shows `shown`. -/
  | block (n : ℕ) (shown : BookForm)
  /-- The answer to one of the unanswered reads of a confirm. -/
  | answer (n i : ℕ)
  /-- A whole visit that edits the book in this row. -/
  | edit (row : ℕ) (form : BookForm)

namespace Catalogue

abbrev books (r : Catalogue) : Collection := r.client.db .books

/-- Adding a book. The list of books is up to date. -/
def press (uppercased : String → String) (books : Collection) (form : BookForm) :
    Handler (Option Book) := do
  loadBookData books
  confirmButton uppercased form

/-- The tests after a block of test `n`: a flag read too early disturbs the test itself, a
stored book all others. -/
def afterBlock (r : Catalogue) (n : ℕ) (test : Test) (adding : Adding) : List Test :=
  match test.adding.next with
  | .readFlag => r.tests.set n ⟨adding, test.disturbed || !test.adding.reads.isEmpty⟩
  | .save => (r.tests.map Test.disturb).set n ⟨adding, test.disturbed⟩
  | _ => r.tests.set n ⟨adding, test.disturbed⟩

def step (uppercased : String → String) (r : Catalogue) : BookStep → Option Catalogue
  | .press form =>
    (r.client.run (press uppercased r.books form)).map fun (book, c) => match book with
      | none => ⟨c, r.tests⟩
      | some book => ⟨c, r.tests.map Test.disturb ++ [⟨⟨book, .check, []⟩, false⟩]⟩
  | .block n shown => r.tests[n]?.bind fun test =>
    if test.adding.next = .finished then none
    else (r.client.run (test.adding.block shown)).map fun (adding, c) =>
      ⟨c, r.afterBlock n test adding⟩
  | .answer n i => r.tests[n]?.bind fun test => test.adding.reads[i]?.bind fun id =>
    (r.client.run (checkNewBookAnswer test.adding.book r.books[id]?)).map fun (_, c) =>
      ⟨c, r.tests.set n
        { test with adding := { test.adding with reads := test.adding.reads.eraseIdx i } }⟩
  | .edit row form =>
    (r.client.run (Visits.editBook uppercased r.client.db row form)).map fun (_, c) =>
      ⟨c, r.tests.map Test.disturb⟩

/-! ## What is to hold -/

/-- No two books have the same name. -/
def UniqueNames (books : Collection) : Prop :=
  ∀ name, books.AtMostOne (Document.Carries "name" name)

/-- The condition on a step. A book is stored after an undisturbed test, or no book but the one
its ID names has its name; a book whose row is shown is given a name that no
other book has. -/
def KeepsNames (uppercased : String → String) (r : Catalogue) : BookStep → Prop
  | .press _ => True
  | .block n _ => ∀ test ∈ r.tests[n]?, test.adding.next = .save →
    test.disturbed = false ∨ ∀ id ∈ CollectionName.books.id? test.adding.book.ID,
      r.books.OnlyAt id (Document.Carries "name" test.adding.book.name)
  | .answer _ _ => True
  | .edit row form => ∀ id ∈ r.books.keys[row]?, r.books[id]?.bind (·.string? "name") = some "" ∨
    r.books.OnlyAt id (Document.Carries "name" (uppercased form.bookname))

instance (uppercased : String → String) (r : Catalogue) : DecidablePred (r.KeepsNames uppercased)
  | .press _ => inferInstanceAs (Decidable True)
  | .block n _ => inferInstanceAs (Decidable (∀ test ∈ r.tests[n]?, _ → _ ∨ _))
  | .answer _ _ => inferInstanceAs (Decidable True)
  | .edit row _ => inferInstanceAs (Decidable (∀ id ∈ r.books.keys[row]?, _ ∨ _))

end Catalogue

/-! ## An undisturbed test -/

/-- The name of the book `id`, if there is such a book and it has one. -/
def bookName (books : Collection) (id : String) : Option (Option String) :=
  books[id]?.map (Document.string? · "name")

/-- What holds of a confirm in progress as long as nothing disturbs its test. -/
def Right (c : Client) (a : Adding) : Prop :=
  match a.next with
  | .check => ∃ ids, c.temp["ID_books"]?.bind Value.strings? = some ids ∧
      ∀ id, (bookName (c.db .books) id).isSome → id ∈ ids
  | .readFlag => ∀ id, bookName (c.db .books) id = some (some a.book.name) →
      id ∈ a.reads ∨ c.temp["check"]?.bind Value.bool? = some true
  | .save => ∀ id, bookName (c.db .books) id ≠ some (some a.book.name)
  | .updateData => True
  | .finished => True

theorem bookName_eq_some_iff {books : Collection} {id name : String} :
    bookName books id = some (some name) ↔
      ∃ document, books[id]? = some document ∧ document.Carries "name" name := by
  simp only [bookName, Option.map_eq_some_iff, Document.Carries]

theorem mem_keys_of_bookName {books : Collection} {id : String} (h : (bookName books id).isSome) :
    id ∈ books.keys := by
  rw [bookName, Option.isSome_map] at h
  exact Std.ExtTreeMap.mem_keys.2 (Std.ExtTreeMap.mem_iff_isSome_getElem?.2 h)

/-- A confirm does not notice a change that keeps the names, reloads the list at most and
raises the flag at most. -/
theorem Right.congr {c c' : Client} {a : Adding} (h : Right c a)
    (hnames : ∀ id, bookName (c'.db .books) id = bookName (c.db .books) id)
    (hlist : c'.temp["ID_books"]? = c.temp["ID_books"]? ∨
      c'.temp["ID_books"]? = some (.strings (c'.db .books).keys))
    (hflag : c'.temp["check"]? = c.temp["check"]? ∨ c'.temp["check"]? = some (.bool true)) :
    Right c' a := by
  unfold Right at h ⊢
  cases hnext : a.next <;> simp only [hnext] at h ⊢
  case check =>
    rcases hlist with hsame | hloaded
    · simpa only [hnames, hsame] using h
    · exact ⟨_, by rw [hloaded]; rfl, fun id => mem_keys_of_bookName⟩
  case readFlag =>
    intro id hid
    rw [hnames] at hid
    rcases hflag with hsame | hup
    · rw [hsame]
      exact h id hid
    · exact .inr (by rw [hup]; rfl)
  case save => simpa only [hnames] using h

namespace Catalogue

/-- The names are unique, and the undisturbed tests are right. -/
structure Inv (r : Catalogue) : Prop where
  addressed : r.client.db.Addressed
  unique : UniqueNames r.books
  right : ∀ test ∈ r.tests, test.disturbed = false → Right r.client test.adding

theorem inv_empty : Inv empty where
  addressed := Database.addressed_empty
  unique := fun _ => Std.ExtTreeMap.atMostOne_empty
  right := by
    intro test htest
    cases htest

variable {uppercased : String → String} {r t : Catalogue}

/-- A disturbed test has no claim to be right. -/
theorem disturbed_of_mem_map {tests : List Test} {test : Test}
    (h : test ∈ tests.map Test.disturb) : test.disturbed = true := by
  obtain ⟨test, -, rfl⟩ := List.mem_map.1 h
  rfl

theorem inv_press {form : BookForm} (hr : r.Inv) (h : r.step uppercased (.press form) = some t) :
    t.Inv := by
  obtain ⟨book, d, hpress, rfl⟩ := Client.map_run_eq_some.1 h
  simp only [press, Traps.bind_eq_ok, loadBookData_eq_ok, exists_const, exists_eq_left'] at hpress
  rcases confirmButton_eq_ok.1 hpress with
    ⟨-, rfl, rfl⟩ | ⟨-, quantity, -, rfl, rfl⟩
  · exact ⟨hr.addressed, hr.unique, fun test htest hundisturbed =>
      (hr.right test htest hundisturbed).congr (fun _ => rfl) (.inr (by simp))
        (.inl (by simp [UserDefaults.getElem?_insert]))⟩
  · refine ⟨hr.addressed, hr.unique, fun test htest hundisturbed => ?_⟩
    rcases List.mem_append.1 htest with hold | hnew
    · rw [disturbed_of_mem_map hold] at hundisturbed
      cases hundisturbed
    · obtain rfl := List.mem_singleton.1 hnew
      refine ⟨r.books.keys, ?_, fun id => mem_keys_of_bookName⟩
      simp only [UserDefaults.getElem?_insert, String.reduceEq, if_false, if_true,
        Option.bind_some, Value.strings?_strings]

theorem inv_answer {n i : ℕ} (hr : r.Inv) (h : r.step uppercased (.answer n i) = some t) :
    t.Inv := by
  obtain ⟨test, htest, h⟩ := Option.bind_eq_some_iff.1 h
  obtain ⟨id, hid, h⟩ := Option.bind_eq_some_iff.1 h
  obtain ⟨_, d, hanswer, rfl⟩ := Client.map_run_eq_some.1 h
  obtain ⟨hwrites, htemp⟩ := checkNewBookAnswer_ok hanswer
  have hlist : d.temp["ID_books"]? = r.client.temp["ID_books"]? := by
    rcases htemp with ⟨-, hup⟩ | ⟨-, hsame⟩
    · rw [hup]
      simp [UserDefaults.getElem?_insert]
    · rw [hsame]
  have hflag : d.temp["check"]? = r.client.temp["check"]? ∨
      d.temp["check"]? = some (.bool true) := by
    rcases htemp with ⟨-, hup⟩ | ⟨-, hsame⟩
    · exact .inr (by simp [hup])
    · exact .inl (by rw [hsame])
  rw [hwrites]
  refine ⟨hr.addressed, hr.unique, fun test' htest' hundisturbed => ?_⟩
  rcases List.mem_or_eq_of_mem_set htest' with hold | rfl
  · exact (hr.right test' hold hundisturbed).congr (fun _ => rfl) (.inl hlist) hflag
  · have hright : Right ⟨d.temp, r.client.db⟩ test.adding :=
      (hr.right test (List.mem_of_getElem? htest) hundisturbed).congr (fun _ => rfl) (.inl hlist)
        hflag
    unfold Right at hright ⊢
    cases hnext : test.adding.next <;> simp only [hnext] at hright ⊢
    case check => exact hright
    case save => exact hright
    -- Only the answered read leaves the list, and a book of this name raised the flag.
    case readFlag =>
      intro id' hname
      rcases hright id' hname with hread | hup
      · by_cases hsame : id' = id
        · subst hsame
          obtain ⟨document, hdocument, hcarries⟩ := bookName_eq_some_iff.1 hname
          rcases htemp with ⟨-, hup⟩ | ⟨hother, -⟩
          · exact .inr (by simp [hup])
          · exact absurd ⟨document, hdocument, hcarries⟩ hother
        · left
          obtain ⟨j, hj⟩ := List.getElem?_of_mem hread
          refine List.mem_eraseIdx_iff_getElem?.2 ⟨j, ?_, hj⟩
          rintro rfl
          exact hsame (Option.some.inj (hj.symm.trans hid))
      · exact .inr hup

/-- Storing a book under a name that no other book has keeps the names unique. -/
theorem UniqueNames.override {books : Collection} (h : UniqueNames books) (name : String)
    {id : String} {data : List (String × FieldValue)}
    (hname : ∀ d : Document, (d.merge data).string? "name" = some name)
    (hfree : books.OnlyAt id (Document.Carries "name" name)) :
    UniqueNames (books.override id data) := by
  intro name'
  refine (h name').insert fun hcarries => ?_
  obtain rfl := Option.some.inj ((hname _).symm.trans hcarries)
  exact hfree

/-- Setting the cover of a book changes no name. -/
theorem bookName_updateAt (db : Database) (bookID url id : String) :
    bookName (Write.apply db (.updateAt .books bookID [("avatarURL", .string url)]) .books) id
      = bookName (db .books) id := by
  rw [Write.apply_updateAt]
  split
  · rw [Write.applyTo]
    split
    · next hmem =>
      obtain ⟨document, hdocument⟩ := Std.ExtTreeMap.mem_iff_exists_getElem?.1 hmem
      rw [bookName, bookName, Collection.getElem?_override, hdocument]
      split
      · next hid =>
        subst hid
        simp [hdocument, Document.merge_cons]
      · rfl
    · rfl
  · rfl

theorem uniqueNames_iff {books : Collection} : UniqueNames books ↔
    ∀ name id id', bookName books id = some (some name) →
      bookName books id' = some (some name) → id' = id := by
  simp only [bookName_eq_some_iff]
  constructor
  · rintro h name id id' ⟨document, hid, hname⟩ ⟨document', hid', hname'⟩
    exact h name id document hid hname id' document' hid' hname'
  · intro h name id document hid hname id' document' hid' hname'
    exact h name id id' ⟨document, hid, hname⟩ ⟨document', hid', hname'⟩

theorem inv_block {n : ℕ} {shown : BookForm} (hr : r.Inv)
    (hkeeps : r.KeepsNames uppercased (.block n shown))
    (h : r.step uppercased (.block n shown) = some t) : t.Inv := by
  obtain ⟨test, htest, h⟩ := Option.bind_eq_some_iff.1 h
  split at h
  · cases h
  obtain ⟨adding, d, hblock, rfl⟩ := Client.map_run_eq_some.1 h
  have hright := hr.right test (List.mem_of_getElem? htest)
  have hcases := Adding.block_ok hblock
  unfold Right at hright
  unfold afterBlock
  -- What an undisturbed test has found out depends on the block that it is at.
  cases hnext : test.adding.next <;> simp only [hnext] at hcases hright ⊢
  case check =>
    obtain ⟨ids, hids, rfl, rfl⟩ := hcases
    refine ⟨hr.addressed, hr.unique, fun test' htest' hundisturbed => ?_⟩
    rcases List.mem_or_eq_of_mem_set htest' with hold | rfl
    · exact hr.right test' hold hundisturbed
    · obtain ⟨listed, hlisted, hcomplete⟩ := hright hundisturbed
      obtain rfl := Option.some.inj (hlisted.symm.trans hids)
      exact fun id hname => .inl (hcomplete id (Option.isSome_iff_exists.2 ⟨_, hname⟩))
  case readFlag =>
    obtain ⟨flag, hflag, rfl, rfl⟩ := hcases
    refine ⟨hr.addressed, hr.unique, fun test' htest' hundisturbed => ?_⟩
    rcases List.mem_or_eq_of_mem_set htest' with hold | rfl
    · exact hr.right test' hold hundisturbed
    · simp only [Bool.or_eq_false_iff, Bool.not_eq_false', List.isEmpty_iff] at hundisturbed
      obtain ⟨hundisturbed, hanswered⟩ := hundisturbed
      cases flag with
      | true => trivial
      | false =>
        intro id hname
        -- Every read was answered, so the flag is up if a listed book has the name.
        rcases hright hundisturbed id hname with hread | hup
        · rw [hanswered] at hread
          cases hread
        · cases hflag.symm.trans hup
  case save =>
    obtain ⟨hID, rfl, rfl⟩ := hcases
    refine ⟨hr.addressed.setAt hID, ?_, fun test' htest' hundisturbed => ?_⟩
    · show UniqueNames (Write.apply r.client.db (.setAt .books _ _) .books)
      rw [Write.apply_setAt]
      rcases @Database.overrideAt_cases r.client.db .books _ hID test.adding.book.newData with
        ⟨id, -, hid, hbooks⟩ | ⟨-, hbooks⟩
      · rw [hbooks]
        refine UniqueNames.override hr.unique test.adding.book.name
          (fun d => by simp [Book.newData, Document.merge_cons]) ?_
        rcases hkeeps test htest hnext with hundisturbed | hfree
        · refine Std.ExtTreeMap.onlyAt_of_not_has ?_
          rintro ⟨id, document, hdocument, hcarries⟩
          exact hright hundisturbed id (bookName_eq_some_iff.2 ⟨document, hdocument, hcarries⟩)
        · exact hfree id hid
      · rw [hbooks]
        exact hr.unique
    · rcases List.mem_or_eq_of_mem_set htest' with hold | rfl
      · -- The write disturbs every other test.
        rw [disturbed_of_mem_map hold] at hundisturbed
        cases hundisturbed
      · trivial
  case updateData =>
    obtain ⟨hID, rfl, rfl⟩ := hcases
    have hnames := bookName_updateAt r.client.db shown.bookID (coverURL shown.bookID)
    refine ⟨hr.addressed.updateAt hID, ?_, fun test' htest' hundisturbed => ?_⟩
    · refine uniqueNames_iff.2 fun name id id' hid hid' => ?_
      exact uniqueNames_iff.1 hr.unique name id id' ((hnames id).symm.trans hid)
        ((hnames id').symm.trans hid')
    · rcases List.mem_or_eq_of_mem_set htest' with hold | rfl
      · exact (hr.right test' hold hundisturbed).congr hnames (.inl rfl) (.inl rfl)
      · trivial
  case finished => contradiction

theorem inv_edit {row : ℕ} {form : BookForm} (hr : r.Inv)
    (hkeeps : r.KeepsNames uppercased (.edit row form))
    (h : r.step uppercased (.edit row form) = some t) : t.Inv := by
  obtain ⟨_, d, hedit, rfl⟩ := Client.map_run_eq_some.1 h
  suffices hstored : (Write.applyAll r.client.db d.writes).Addressed ∧
      UniqueNames (Write.applyAll r.client.db d.writes .books) by
    refine ⟨hstored.1, hstored.2, fun test htest hundisturbed => ?_⟩
    rw [disturbed_of_mem_map htest] at hundisturbed
    cases hundisturbed
  obtain ⟨id, book, name, hid, hbook, hname, ⟨-, hwrites⟩ | ⟨hshown, hvalid, avatarURL, check,
    quantity, -, -, -, hwrites⟩⟩ := Visits.editBook_cases hedit
  · rw [hwrites]
    exact ⟨hr.addressed, hr.unique⟩
  · rw [hwrites, List.nil_append, Write.applyAll_cons, Write.applyAll_nil]
    refine ⟨hr.addressed.setAt hvalid, ?_⟩
    have haddressed : IsDocumentID id := hr.addressed _ id (Std.ExtTreeMap.mem_of_getElem? hbook)
    rw [Write.apply_setAt, Database.overrideAt_of_isDocumentID haddressed]
    refine UniqueNames.override hr.unique (uppercased form.bookname) ?_ ?_
    · intro d
      simp [Book.detail, Document.merge_cons]
    · refine (hkeeps id hid).resolve_left fun hempty => hshown ?_
      simpa [hbook, Document.string?, hname] using hempty

theorem inv_step {e : BookStep} (hr : r.Inv) (hkeeps : r.KeepsNames uppercased e)
    (h : r.step uppercased e = some t) : t.Inv := by
  cases e with
  | press form => exact inv_press hr h
  | block n shown => exact inv_block hr hkeeps h
  | answer n i => exact inv_answer hr h
  | edit row form => exact inv_edit hr hkeeps h

end Catalogue

/-! ## Every run -/

/-- In every run whose steps meet the condition the names are unique, and an undisturbed test
never lets a confirm store a book under a name that some book has. -/
theorem uniqueNames_of_run {uppercased : String → String} {es : List BookStep} {r : Catalogue}
    (h : Run (Guarded (Catalogue.KeepsNames uppercased) (Steps (Catalogue.step uppercased)))
      Catalogue.empty es r) :
    Catalogue.UniqueNames r.books ∧
      ∀ test ∈ r.tests, test.disturbed = false → test.adding.next = .save →
        ¬ r.books.Has (Document.Carries "name" test.adding.book.name) := by
  have hinv : r.Inv := h.invariant Catalogue.Inv Catalogue.inv_empty
    fun _ _ _ hr hstep => Catalogue.inv_step hr hstep.1 hstep.2
  refine ⟨hinv.unique, fun test htest hundisturbed hnext => ?_⟩
  have hright := hinv.right test htest hundisturbed
  simp only [Right, hnext] at hright
  rintro ⟨id, document, hdocument, hcarries⟩
  exact hright id (bookName_eq_some_iff.2 ⟨document, hdocument, hcarries⟩)

namespace Sample

abbrev bookStep : Catalogue → BookStep → Option Catalogue := Catalogue.step Swift.asciiUppercased

/-- A book is added, with every block. -/
def oneName :
    Reached (Guarded (Catalogue.KeepsNames Swift.asciiUppercased) (Steps bookStep))
      Catalogue.empty :=
  let one := form "B1" "One" "1"
  let pressed := Reached.start.takeGuarded (.press one) trivial (by decide +kernel)
  let checked := pressed.takeGuarded (.block 0 one) (by decide +kernel) (by decide +kernel)
  let flagRead := checked.takeGuarded (.block 0 one) (by decide +kernel) (by decide +kernel)
  let saved := flagRead.takeGuarded (.block 0 one) (by decide +kernel) (by decide +kernel)
  saved.takeGuarded (.block 0 one) (by decide +kernel) (by decide +kernel)

/-- A second book of another name is added, after its test was answered. -/
def otherName :
    Reached (Guarded (Catalogue.KeepsNames Swift.asciiUppercased) (Steps bookStep))
      Catalogue.empty :=
  let two := form "B2" "Two" "1"
  let pressed := oneName.takeGuarded (.press two) trivial (by decide +kernel)
  let checked := pressed.takeGuarded (.block 1 two) (by decide +kernel) (by decide +kernel)
  let answered := checked.takeGuarded (.answer 1 0) trivial (by decide +kernel)
  let flagRead := answered.takeGuarded (.block 1 two) (by decide +kernel) (by decide +kernel)
  flagRead.takeGuarded (.block 1 two) (by decide +kernel) (by decide +kernel)

/-- A second book of the same name is added, and the flag is read before the test is answered. -/
def sameName : Reached (Steps bookStep) Catalogue.empty :=
  let again := form "B2" "One" "1"
  let pressed : Reached (Steps bookStep) Catalogue.empty :=
    Reached.take ⟨oneName.labels, oneName.state, oneName.run.of_guarded⟩ (.press again)
      (by decide +kernel)
  let checked := pressed.take (.block 1 again) (by decide +kernel)
  let flagRead := checked.take (.block 1 again) (by decide +kernel)
  flagRead.take (.block 1 again) (by decide +kernel)

end Sample

theorem uniqueNames_otherName : Sample.otherName.state.books.keys = ["B1", "B2"] ∧
    Catalogue.UniqueNames Sample.otherName.state.books :=
  ⟨by decide +kernel, (uniqueNames_of_run Sample.otherName.run).1⟩

/-- The name "ONE" is stored under two IDs. -/
theorem uniqueNames_fails : ¬ ∀ (es : List BookStep) (r : Catalogue),
    Run (Steps (Catalogue.step Swift.asciiUppercased)) Catalogue.empty es r →
      Catalogue.UniqueNames r.books := by
  intro hall
  have hnames : ∀ id ∈ ["B1", "B2"], bookName Sample.sameName.state.books id
      = some (some "ONE") := by decide +kernel
  have heq := Catalogue.uniqueNames_iff.1 (hall _ _ Sample.sameName.run) "ONE" "B1" "B2"
    (hnames "B1" (by decide)) (hnames "B2" (by decide))
  exact absurd heq (by decide)

end LibraryManagement
