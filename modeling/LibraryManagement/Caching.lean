import LibraryManagement.Entries
import LibraryManagement.Lib.Transition
import LibraryManagement.VisitsTheorems

/-!
# What caching a book overwrites

A listed book is cached in `UserDefaults` under its document's id, which is the one that the text
typed as its ID names. The same entries hold the app's own keys, and the cached students and cards,
whose ids Firestore generates. The state keeps the ids that the rows of the book list listen to.
-/

namespace LibraryManagement

open Handler Transition

/-- The client, with the ids of the books its rows listen to. -/
structure Shelf where
  client : Client
  listeners : List String

inductive ShelfStep
  | addBook (form : BookForm) (answered : List String)
  /-- The list of books is loaded. -/
  | load
  | render (row : ℕ)
  /-- A delivery to the listener of a row, whatever the document holds by then. -/
  | deliver (i : ℕ) (document : Option Document)
  /-- What the other screens and the other clients do. -/
  | elsewhere (c : Client)

namespace Shelf

/-- The library has no book, and no list was loaded. -/
def start (c : Client) : Shelf :=
  ⟨⟨c.temp.erase "ID_books", Function.update c.db .books ∅⟩, []⟩

/-- The ids of the stored list. -/
def listed (temp : UserDefaults) : List String := (temp["ID_books"]?.bind Value.strings?).getD []

/-- No other screen lists what is no book: the list is emptied, or loaded from the books. -/
def step (uppercased : String → String) (r : Shelf) : ShelfStep → Option Shelf
  | .addBook form answered =>
    (r.client.perform (Visits.addBook uppercased r.client.db form answered)).map fun c =>
      { r with client := c }
  | .load => (r.client.perform (loadBookData (r.client.db .books))).map fun c =>
    { r with client := c }
  | .render row => (r.client.run (ManageBooksViewController.cellForRowAt row)).map fun (id, c) =>
    ⟨c, r.listeners ++ [id]⟩
  | .deliver i document => r.listeners[i]?.bind fun id =>
    (r.client.run (ManageBooksViewController.cellDelivery id document)).map fun (_, c) =>
      { r with client := c }
  | .elsewhere c =>
    if listed c.temp ⊆ listed r.client.temp ++ (c.db .books).keys then
      some { r with client := c }
    else none

/-! ## What is to hold -/

/-- A key that is none of a book's own: one of the app, or the id of a student or a card. -/
def Reserved (autoIDs : List String) (key : String) : Prop := kind key ≠ none ∨ key ∈ autoIDs

instance (autoIDs : List String) (key : String) : Decidable (Reserved autoIDs key) :=
  inferInstanceAs (Decidable (_ ∨ _))

/-- A delivery changes at most the entry of its own book, and no reserved entry. -/
def CachesOnly (autoIDs : List String) (r t : Shelf) : ShelfStep → Prop
  | .deliver i _ => ∀ id ∈ r.listeners[i]?, ∀ key, key ≠ id ∨ Reserved autoIDs key →
    t.client.temp[key]? = r.client.temp[key]?
  | _ => True

/-- The condition on a step: an accepted new book is stored under an id that is no reserved key,
whichever client adds it. -/
def KeepsReserved (uppercased : String → String) (autoIDs : List String) (r : Shelf) :
    ShelfStep → Prop
  | .addBook form answered => ¬ AddBooksViewController.Incomplete form →
    ¬ Visits.NameTaken r.client.db (uppercased form.bookname) answered →
      ∀ id ∈ CollectionName.books.id? form.bookID, ¬ Reserved autoIDs id
  | .elsewhere c => ∀ id ∈ c.db .books, id ∉ r.client.db .books → ¬ Reserved autoIDs id
  | _ => True

/-! ## Where the ids of the rows come from -/

/-- No book that is stored, listed or listened to has a reserved ID. -/
structure Apart (autoIDs : List String) (r : Shelf) : Prop where
  books : ∀ id ∈ r.client.db .books, ¬ Reserved autoIDs id
  listed : ∀ id ∈ listed r.client.temp, ¬ Reserved autoIDs id
  listeners : ∀ id ∈ r.listeners, ¬ Reserved autoIDs id

variable {uppercased : String → String} {autoIDs : List String} {r t : Shelf} {d d' : Device}

theorem apart_start (c : Client) : (start c).Apart autoIDs where
  books := by
    intro id hid
    simp [start] at hid
  listed := by
    intro id hid
    simp [start, Shelf.listed] at hid
  listeners := by
    intro id hid
    cases hid

/-- The answers of a duplicate test change no entry but the flag. -/
theorem answers_frame {db : Database} {book : Book} {ids : List String} {u : Unit} {key : String}
    (hkey : "check" ≠ key) (h : Visits.answers db book ids d = .ok u d') :
    d'.temp[key]? = d.temp[key]? := by
  induction ids generalizing d with
  | nil =>
    obtain ⟨-, rfl⟩ := Traps.pure_eq_ok.1 h
    rfl
  | cons id ids ih =>
    obtain ⟨_, d₁, hfirst, hrest⟩ := Traps.bind_eq_ok.1 h
    have hfirst' : d₁.temp[key]? = d.temp[key]? := by
      obtain ⟨-, ⟨-, htemp⟩ | ⟨-, htemp⟩⟩ := AddBooksViewController.checkNewBookAnswer_ok hfirst
      · rw [htemp, UserDefaults.getElem?_insert, if_neg hkey]
      · rw [htemp]
    exact (ih hrest).trans hfirst'

/-- After an add the list is that of the books before it. -/
theorem addBook_listed {db : Database} {form : BookForm} {answered : List String}
    (h : Visits.addBook uppercased db form answered d = .ok () d') :
    d'.temp["ID_books"]? = some (.strings (db .books).keys) := by
  have hne : "check" ≠ "ID_books" := by decide
  simp only [Visits.addBook, Traps.bind_eq_ok, loadBookData_eq_ok, exists_const,
    exists_eq_left'] at h
  obtain ⟨book, d₁, hconfirm, hrest⟩ := h
  rcases AddBooksViewController.confirmButton_eq_ok.1 hconfirm with
    ⟨-, rfl, rfl⟩ | ⟨-, quantity, -, rfl, rfl⟩
  · obtain ⟨-, rfl⟩ := Traps.pure_eq_ok.1 hrest
    simp only [UserDefaults.getElem?_insert, if_true]
  simp only [Traps.bind_eq_ok, AddBooksViewController.checkNewBook_eq_ok,
    AddBooksViewController.readFlag_eq_ok, and_assoc, exists_and_left, exists_eq_left'] at hrest
  obtain ⟨ids, -, -, _, d₂, hanswers, flag, -, hrest⟩ := hrest
  have hbefore : d₂.temp["ID_books"]? = some (.strings (db .books).keys) := by
    rw [answers_frame hne hanswers]
    simp only [UserDefaults.getElem?_insert, if_true, if_neg hne]
  -- No block writes the list again, whatever the flag says.
  cases flag with
  | true => rw [answers_frame hne hrest, hbefore]
  | false =>
    simp only [Bool.false_eq_true, if_false, Traps.bind_eq_ok, Book.saveOrUpdateNewBook_eq_ok,
      AddBooksViewController.updateData_eq_ok, and_assoc, exists_and_left, exists_eq_left',
      exists_const] at hrest
    obtain ⟨-, -, hlate⟩ := hrest
    rw [answers_frame hne hlate, hbefore]

/-- An add stores at most the book that its form names. -/
theorem mem_of_addBook {c : Client} {form : BookForm} {answered : List String} {id : String}
    (h : r.client.perform (Visits.addBook uppercased r.client.db form answered) = some c)
    (hid : id ∈ c.db .books) :
    id ∈ r.client.db .books ∨ id ∈ CollectionName.books.id? form.bookID ∧
      ¬ AddBooksViewController.Incomplete form ∧
      ¬ Visits.NameTaken r.client.db (uppercased form.bookname) answered := by
  rcases Visit.step_addBook (c := r.client) h with
    ⟨-, hdb⟩ | ⟨hcomplete, hfree, -, quantity, -, -, hbooks⟩
  · rw [hdb] at hid
    exact .inl hid
  · rw [hbooks] at hid
    refine (Database.mem_overrideAt hid).symm.imp_right fun hnamed => ?_
    exact ⟨hnamed, hcomplete, hfree⟩

theorem apart_addBook {form : BookForm} {answered : List String} (hr : r.Apart autoIDs)
    (hkeeps : r.KeepsReserved uppercased autoIDs (.addBook form answered))
    (h : r.step uppercased (.addBook form answered) = some t) : t.Apart autoIDs := by
  obtain ⟨c, hadd, rfl⟩ := Option.map_eq_some_iff.1 h
  refine ⟨?_, ?_, hr.listeners⟩
  · intro id hid
    rcases mem_of_addBook hadd hid with hold | ⟨hnamed, hcomplete, hfree⟩
    · exact hr.books id hold
    · exact hkeeps hcomplete hfree id hnamed
  · -- The list was loaded before the form was confirmed, so the new book is not on it.
    obtain ⟨d, hd, rfl⟩ := Client.perform_eq_some.1 hadd
    intro id hid
    have hlisted : listed d.temp = (r.client.db .books).keys := by
      rw [listed, addBook_listed hd]
      rfl
    exact hr.books id (Std.ExtTreeMap.mem_keys.1 (hlisted ▸ hid))

theorem apart_load (hr : r.Apart autoIDs) (h : r.step uppercased .load = some t) :
    t.Apart autoIDs := by
  simp only [step] at h
  obtain ⟨c, hload, rfl⟩ := Option.map_eq_some_iff.1 h
  obtain ⟨d, hd, rfl⟩ := Client.perform_eq_some.1 hload
  obtain rfl := loadBookData_eq_ok.1 hd
  refine ⟨hr.books, ?_, hr.listeners⟩
  intro id hid
  have hlisted : listed (r.client.temp.insert "ID_books" (.strings (r.client.db .books).keys)) =
      (r.client.db .books).keys := by
    rw [listed, UserDefaults.getElem?_insert, if_pos rfl]
    rfl
  exact hr.books id (Std.ExtTreeMap.mem_keys.1 (hlisted ▸ hid))

/-- A row listens to a book of the list. -/
theorem apart_render {row : ℕ} (hr : r.Apart autoIDs)
    (h : r.step uppercased (.render row) = some t) : t.Apart autoIDs := by
  obtain ⟨id, d, hcell, rfl⟩ := Client.map_run_eq_some.1 h
  simp only [ManageBooksViewController.cellForRowAt, Traps.bind_eq_ok, forced_eq_ok,
    Traps.index_eq_ok, document_eq_ok, and_assoc, exists_and_left, exists_eq_left'] at hcell
  obtain ⟨ids, hids, listed, hrow, -, rfl, rfl⟩ := hcell
  refine ⟨hr.books, hr.listed, ?_⟩
  intro id hid
  rcases List.mem_append.1 hid with hold | hnew
  · exact hr.listeners id hold
  · -- The row listens to the id at its index of the list.
    obtain rfl := List.mem_singleton.1 hnew
    refine hr.listed _ ?_
    rw [Shelf.listed, hids]
    exact List.mem_of_getElem? hrow

/-- A delivery caches the book under its id, or does nothing. -/
theorem deliver_frame {i : ℕ} {document : Option Document}
    (h : r.step uppercased (.deliver i document) = some t) :
    ∃ id ∈ r.listeners, r.listeners[i]? = some id ∧ t.listeners = r.listeners ∧
      t.client.db = r.client.db ∧ ∀ key ≠ id, t.client.temp[key]? = r.client.temp[key]? := by
  obtain ⟨id, hid, hstep⟩ := Option.bind_eq_some_iff.1 h
  obtain ⟨shown, d, hcell, rfl⟩ := Client.map_run_eq_some.1 hstep
  refine ⟨id, List.mem_of_getElem? hid, hid, rfl, ?_⟩
  obtain ⟨data, name, -, -, ⟨-, -, rfl⟩ | ⟨-, -, rfl⟩⟩ :=
    ManageBooksViewController.cellDelivery_ok hcell
  · refine ⟨rfl, ?_⟩
    intro key hkey
    rw [UserDefaults.getElem?_insert, if_neg hkey.symm]
  · exact ⟨rfl, fun _ _ => rfl⟩

theorem apart_deliver {i : ℕ} {document : Option Document} (hr : r.Apart autoIDs)
    (h : r.step uppercased (.deliver i document) = some t) : t.Apart autoIDs := by
  obtain ⟨id, hid, -, hlisteners, hdb, htemp⟩ := deliver_frame h
  -- The list is an entry of the app, which the delivery leaves alone.
  have hlist : "ID_books" ≠ id := by
    rintro rfl
    exact hr.listeners _ hid (.inl (by decide))
  refine ⟨?_, ?_, ?_⟩
  · rw [hdb]
    exact hr.books
  · rw [listed, htemp _ hlist]
    exact hr.listed
  · rw [hlisteners]
    exact hr.listeners

theorem apart_elsewhere {c : Client} (hr : r.Apart autoIDs)
    (hkeeps : r.KeepsReserved uppercased autoIDs (.elsewhere c))
    (h : r.step uppercased (.elsewhere c) = some t) : t.Apart autoIDs := by
  obtain ⟨hlisted, hstep⟩ := Option.ite_none_right_eq_some.1 h
  obtain rfl := Option.some.inj hstep
  have hbooks : ∀ id ∈ c.db .books, ¬ Reserved autoIDs id := by
    intro id hid
    by_cases hold : id ∈ r.client.db .books
    · exact hr.books id hold
    · exact hkeeps id hid hold
  refine ⟨hbooks, ?_, hr.listeners⟩
  intro id hid
  rcases List.mem_append.1 (hlisted hid) with hold | hnew
  · exact hr.listed id hold
  · exact hbooks id (Std.ExtTreeMap.mem_keys.1 hnew)

theorem apart_step {e : ShelfStep} (hr : r.Apart autoIDs)
    (hkeeps : r.KeepsReserved uppercased autoIDs e) (h : r.step uppercased e = some t) :
    t.Apart autoIDs := by
  cases e with
  | addBook form answered => exact apart_addBook hr hkeeps h
  | load => exact apart_load hr h
  | render row => exact apart_render hr h
  | deliver i document => exact apart_deliver hr h
  | elsewhere c => exact apart_elsewhere hr hkeeps h

theorem cachesOnly_of_apart {e : ShelfStep} (hr : r.Apart autoIDs)
    (h : r.step uppercased e = some t) : r.CachesOnly autoIDs t e := by
  cases e with
  | deliver i document =>
    intro id hid key hkey
    obtain ⟨id', hmem, hid', -, -, htemp⟩ := deliver_frame h
    obtain rfl : id' = id := Option.some.inj (hid'.symm.trans hid)
    refine htemp key ?_
    rcases hkey with hne | hreserved
    · exact hne
    · -- A reserved key is no listener's id.
      rintro rfl
      exact hr.listeners _ hmem hreserved
  | _ => trivial

end Shelf

/-! ## Every run -/

/-- In every run in which the IDs of the accepted books are no reserved keys, caching a book
changes no entry but the book's own, and no entry of the app, of a student or of a card. -/
theorem caching_of_run {uppercased : String → String} {autoIDs : List String} {c : Client}
    {es : List ShelfStep} {r : Shelf}
    (h : Run (Guarded (Shelf.KeepsReserved uppercased autoIDs) (Steps (Shelf.step uppercased)))
      (Shelf.start c) es r) :
    ∀ e t, r.step uppercased e = some t → r.CachesOnly autoIDs t e := by
  intro e t hstep
  have hr : r.Apart autoIDs := h.invariant (Shelf.Apart autoIDs) (Shelf.apart_start c)
    fun _ _ _ hr hstep => Shelf.apart_step hr hstep.1 hstep.2
  exact Shelf.cachesOnly_of_apart hr hstep

namespace Sample

abbrev shelfStep : Shelf → ShelfStep → Option Shelf := Shelf.step Swift.asciiUppercased

/-- A student was cached before the first book is added. -/
def cachedStudent : Client := ⟨(∅ : UserDefaults).insert "S1" (.dictionary student.document), Database.empty⟩

/-- A book is added, listed and rendered. -/
def shelved : Reached (Guarded (Shelf.KeepsReserved Swift.asciiUppercased ["S1"]) (Steps shelfStep))
    (Shelf.start cachedStudent) :=
  let added := Reached.start.takeGuarded (.addBook (form "B1" "One" "1") [])
    (show ¬ AddBooksViewController.Incomplete _ → ¬ Visits.NameTaken _ _ _ →
      ∀ id ∈ CollectionName.books.id? "B1", ¬ Shelf.Reserved ["S1"] id from
        fun _ _ => by decide +kernel) (by decide +kernel)
  let loaded := added.takeGuarded .load trivial (by decide +kernel)
  loaded.takeGuarded (.render 0) trivial (by decide +kernel)

/-- A book whose ID is the key of the list of books. -/
def shelvedList : Reached (Steps shelfStep) (Shelf.start cachedStudent) :=
  let added := Reached.start.take (.addBook (form "ID_books" "One" "1") []) (by decide +kernel)
  let loaded := added.take .load (by decide +kernel)
  loaded.take (.render 0) (by decide +kernel)

end Sample

theorem caching_shelved : Sample.shelved.state.CachesOnly ["S1"]
    (after Sample.shelfStep Sample.shelved.state
      (.deliver 0 (Sample.shelved.state.client.db .books)["B1"]?))
    (.deliver 0 (Sample.shelved.state.client.db .books)["B1"]?) :=
  caching_of_run Sample.shelved.run (.deliver 0 (Sample.shelved.state.client.db .books)["B1"]?) _
    (steps_after (by decide +kernel))

/-- The delivery of the book replaces the list of books by its document. -/
theorem caching_fails : ¬ ∀ (c : Client) (es : List ShelfStep) (r : Shelf),
    Run (Steps (Shelf.step Swift.asciiUppercased)) (Shelf.start c) es r →
      ∀ e t, r.step Swift.asciiUppercased e = some t → r.CachesOnly [] t e := by
  intro hall
  have hcaches : ∀ id ∈ Sample.shelvedList.state.listeners[0]?, ∀ key, key ≠ id ∨ Shelf.Reserved [] key →
      (after Sample.shelfStep Sample.shelvedList.state (.deliver 0
        (Sample.shelvedList.state.client.db .books)["ID_books"]?)).client.temp[key]? =
          Sample.shelvedList.state.client.temp[key]? :=
    hall _ _ _ Sample.shelvedList.run (.deliver 0 (Sample.shelvedList.state.client.db .books)["ID_books"]?)
      _ (steps_after (by decide +kernel))
  have hsame := hcaches "ID_books" (by decide +kernel) "ID_books" (.inr (by decide))
  revert hsame
  decide +kernel

end LibraryManagement
