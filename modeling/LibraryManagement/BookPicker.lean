import LibraryManagement.Lib.Transition
import LibraryManagement.Screens.BorrowCardsTheorems
import LibraryManagement.Screens.ListsTheorems
import LibraryManagement.VisitsTheorems

/-!
# The two lists behind the book picker

The picker has a row for each id of `"ID_books"`, and its texts are the entries of `"listBook"`.
The student menu empties the first list and starts a read that fills it again; the second one is
replaced whenever a listener to the books is delivered a snapshot. So each list comes from a
catalogue of its own, one of those there were.
-/

namespace LibraryManagement

open Handler Transition AddNewBorrowingCardViewController

/-- The client, with the catalogues there were. -/
structure BookLists where
  client : Client
  /-- Every catalogue so far, the current one last. -/
  history : List Collection
  /-- The reads that are not answered, with the number of the catalogue they started from. -/
  loads : List ℕ
  /-- The listeners, with the number of the catalogue they were delivered last or started from. -/
  listeners : List ℕ
  /-- The catalogue that `"ID_books"` was loaded from, once a read was answered. It is empty after
  a reset. -/
  loaded : Option Collection
  /-- The catalogue that `"listBook"` describes, once a listener was delivered one. -/
  listed : Option Collection

inductive CatalogueEvent
  /-- Some client adds a book. -/
  | grow (id : String) (document : Document)
  /-- The student menu appears, the book menu appears. -/
  | studentMenu
  | bookMenu
  /-- A read is answered, a listener is delivered, with the catalogue of this number. -/
  | answer (i number : ℕ)
  | deliver (i number : ℕ)

/-- What the picker does with the lists. -/
inductive PickerEvent
  | openPicker (s : Screen)
  | title (row : ℕ)
  | select (row : ℕ) (s : Screen)

namespace BookLists

/-- Nothing was loaded, whatever earlier runs of the app have left in `UserDefaults`. -/
def start (c : Client) : BookLists := ⟨c, [c.db .books], [], [], none, none⟩

abbrev books (r : BookLists) : Collection := r.client.db .books

/-- The number of the current catalogue. -/
def current (r : BookLists) : ℕ := r.history.length - 1

def step (r : BookLists) : CatalogueEvent → Option BookLists
  | .grow id document =>
    if id ∈ r.books then none
    else
      let books := r.books.insert id document
      some { r with
        client := ⟨r.client.temp, Function.update r.client.db .books books⟩
        history := r.history ++ [books] }
  | .studentMenu => (r.client.perform StudentMenuViewController.viewWillAppear).map fun c =>
    { r with
      client := c
      loads := r.loads ++ [r.current]
      listeners := r.listeners ++ [r.current]
      loaded := r.loaded.map fun _ => ∅ }
  | .bookMenu => some { r with loads := r.loads ++ [r.current] }
  | .answer i number => r.loads[i]?.bind fun first => r.history[number]?.bind fun books =>
    if first ≤ number then
      (r.client.perform (loadBookData books)).map fun c =>
        { r with client := c, loads := r.loads.eraseIdx i, loaded := some books }
    else none
  | .deliver i number => r.listeners[i]?.bind fun last => r.history[number]?.bind fun books =>
    if last ≤ number then
      (r.client.perform (loadBook books)).map fun c =>
        { r with client := c, listeners := r.listeners.set i number, listed := some books }
    else none

/-! ## What is to hold -/

/-- The first read was answered, and the first snapshot delivered. -/
def Arrived (r : BookLists) : Prop := r.loaded.isSome ∧ r.listed.isSome

/-- The entry describes the stored book of the id that the list has in this row. -/
def Describes (r : BookLists) (row : ℕ) (entry : String) : Prop :=
  ∃ id, listedID "ID_books" row r.client.temp = some id ∧
    ∃ document ∈ r.books[id]?, bookEntry document = some entry

/-- The row is below the row count of the picker. -/
def HasRow (r : BookLists) (row : ℕ) : Prop :=
  ∃ count, numberOfRowsInComponent ⟨r.client.temp, []⟩ = .ok count ⟨r.client.temp, []⟩ ∧ row < count

/-- The picker reads an entry that is there, and the entry describes the book of its row. Opening
the picker reads the first row. -/
def ReadsEntry (r : BookLists) : PickerEvent → Prop
  | .openPicker s => ∃ entry, bookAction s ⟨r.client.temp, []⟩ =
      .ok { s with idBook := entry } ⟨r.client.temp, []⟩ ∧ r.Describes 0 entry
  | .title row => r.HasRow row → ∃ entry, titleForRow row ⟨r.client.temp, []⟩ =
      .ok entry ⟨r.client.temp, []⟩ ∧ r.Describes row entry
  | .select row s => r.HasRow row → ∃ entry, didSelectRow row s ⟨r.client.temp, []⟩ =
      .ok { s with idBook := entry } ⟨r.client.temp, []⟩ ∧ r.Describes row entry

/-- The two catalogues have the same id in this row. -/
def Agree (r : BookLists) (row : ℕ) : Prop :=
  r.loaded.bind (·.keys[row]?) = r.listed.bind (·.keys[row]?)

/-- The condition on the picker: the catalogues of the last answer and of the last snapshot agree
in the row that is read; when the picker opens they have a first book. -/
def KeepsRow (r : BookLists) : PickerEvent → Prop
  | .openPicker _ => r.Agree 0 ∧ (r.loaded.bind (·.keys[0]?)).isSome
  | .title row => r.Agree row
  | .select row _ => r.Agree row

end BookLists

/-! ## Where the lists come from -/

namespace BookLists

variable {r t : BookLists} {e : CatalogueEvent} {d d' : Device}

/-- The first catalogue is a part of the second one. -/
def Part (older books : Collection) : Prop :=
  ∀ (id : String) (document : Document), older[id]? = some document → books[id]? = some document

/-- What the lists hold: the ids of one catalogue and the entries of another. -/
structure Sound (r : BookLists) : Prop where
  history : ∀ older ∈ r.history, Part older r.books
  loaded : ∀ older ∈ r.loaded, r.client.temp["ID_books"]? = some (.strings older.keys)
  listed : ∀ older ∈ r.listed, Part older r.books ∧
    ∃ data, older.toList.map (fun document => bookEntry document.2) = data.map some ∧
      r.client.temp["listBook"]? = some (.strings data)

theorem sound_start (c : Client) : (start c).Sound where
  history := by
    intro older holder
    rw [List.mem_singleton.1 holder]
    exact fun _ _ hdocument => hdocument
  loaded := by rintro older ⟨⟩
  listed := by rintro older ⟨⟩

theorem part_insert {books : Collection} {id : String} {document : Document} (hid : id ∉ books) :
    Part books (books.insert id document) := by
  intro id' document' hdocument'
  have hne : id ≠ id' := by
    rintro rfl
    exact hid (Std.ExtTreeMap.mem_of_getElem? hdocument')
  rw [Collection.getElem?_insert, if_neg hne]
  exact hdocument'

theorem sound_grow {id : String} {document : Document} (hr : r.Sound)
    (h : r.step (.grow id document) = some t) : t.Sound := by
  obtain ⟨hid, hstep⟩ := Option.ite_none_left_eq_some.1 h
  obtain rfl := Option.some.inj hstep
  -- A new book is in no earlier catalogue, so they all stay parts of this one.
  have hpart {older : Collection} (holder : Part older r.books) :
      Part older (r.books.insert id document) :=
    fun id' document' hdocument' => part_insert hid id' document' (holder id' document' hdocument')
  constructor
  · intro older holder
    simp only [BookLists.books, Function.update_self]
    rcases List.mem_append.1 holder with holder | hnew
    · exact hpart (hr.history older holder)
    · rw [List.mem_singleton.1 hnew]
      exact fun _ _ hdocument => hdocument
  · exact hr.loaded
  · intro older holder
    simp only [BookLists.books, Function.update_self]
    exact ⟨hpart (hr.listed older holder).1, (hr.listed older holder).2⟩

/-- The reset leaves the ids of no book. -/
theorem sound_studentMenu (hr : r.Sound) (h : r.step .studentMenu = some t) : t.Sound := by
  simp only [step] at h
  obtain ⟨c, hperform, rfl⟩ := Option.map_eq_some_iff.1 h
  obtain ⟨d, hd, rfl⟩ := Client.perform_eq_some.1 hperform
  simp only [StudentMenuViewController.viewWillAppear, Traps.bind_eq_ok, set_eq_ok, exists_const,
    exists_eq_left'] at hd
  subst hd
  constructor
  · exact hr.history
  · intro older holder
    obtain ⟨_, -, rfl⟩ := Option.map_eq_some_iff.1 holder
    simp only [UserDefaults.getElem?_insert, if_true]
    rfl
  · intro older holder
    obtain ⟨hpart, data, hdata, hlist⟩ := hr.listed older holder
    refine ⟨hpart, data, hdata, ?_⟩
    simpa [UserDefaults.getElem?_insert] using hlist

theorem sound_bookMenu (hr : r.Sound) (h : r.step .bookMenu = some t) : t.Sound := by
  obtain rfl := Option.some.inj h
  exact ⟨hr.history, hr.loaded, hr.listed⟩

theorem sound_answer {i number : ℕ} (hr : r.Sound) (h : r.step (.answer i number) = some t) :
    t.Sound := by
  obtain ⟨first, -, hrest⟩ := Option.bind_eq_some_iff.1 h
  obtain ⟨books, hbooks, hstep⟩ := Option.bind_eq_some_iff.1 hrest
  obtain ⟨-, hmap⟩ := Option.ite_none_right_eq_some.1 hstep
  obtain ⟨c, hperform, rfl⟩ := Option.map_eq_some_iff.1 hmap
  obtain ⟨d, hd, rfl⟩ := Client.perform_eq_some.1 hperform
  obtain rfl := loadBookData_eq_ok.1 hd
  constructor
  · exact hr.history
  · intro older holder
    obtain rfl := Option.some.inj holder
    rw [UserDefaults.getElem?_insert, if_pos rfl]
  · intro older holder
    obtain ⟨hpart, data, hdata, hlist⟩ := hr.listed older holder
    refine ⟨hpart, data, hdata, ?_⟩
    rw [UserDefaults.getElem?_insert, if_neg (by decide)]
    exact hlist

theorem sound_deliver {i number : ℕ} (hr : r.Sound) (h : r.step (.deliver i number) = some t) :
    t.Sound := by
  obtain ⟨last, -, hrest⟩ := Option.bind_eq_some_iff.1 h
  obtain ⟨books, hbooks, hstep⟩ := Option.bind_eq_some_iff.1 hrest
  obtain ⟨-, hmap⟩ := Option.ite_none_right_eq_some.1 hstep
  obtain ⟨c, hperform, rfl⟩ := Option.map_eq_some_iff.1 hmap
  obtain ⟨d, hd, rfl⟩ := Client.perform_eq_some.1 hperform
  obtain ⟨data, hdata, rfl⟩ := loadBook_eq_ok.1 hd
  constructor
  · exact hr.history
  · intro older holder
    rw [UserDefaults.getElem?_insert, if_neg (by decide)]
    exact hr.loaded older holder
  · intro older holder
    obtain rfl := Option.some.inj holder
    refine ⟨hr.history _ (List.mem_of_getElem? hbooks), data, hdata, ?_⟩
    rw [UserDefaults.getElem?_insert, if_pos rfl]

theorem sound_step (hr : r.Sound) (h : r.step e = some t) : t.Sound := by
  cases e with
  | grow id document => exact sound_grow hr h
  | studentMenu => exact sound_studentMenu hr h
  | bookMenu => exact sound_bookMenu hr h
  | answer i number => exact sound_answer hr h
  | deliver i number => exact sound_deliver hr h

/-! ## Reading a row -/

/-- A row of the entries comes from the document in that row of the catalogue. -/
theorem getElem?_entries {books : Collection} {data : List String} {row : ℕ} {id : String}
    (hdata : books.toList.map (fun document => bookEntry document.2) = data.map some)
    (hid : books.keys[row]? = some id) :
    ∃ document entry, books[id]? = some document ∧ bookEntry document = some entry ∧
      data[row]? = some entry := by
  rw [← Std.ExtTreeMap.map_fst_toList_eq_keys, List.getElem?_map] at hid
  obtain ⟨⟨id, document⟩, hrow, rfl⟩ := Option.map_eq_some_iff.1 hid
  have hentry := congrArg (·[row]?) hdata
  simp only [List.getElem?_map, hrow, Option.map_some] at hentry
  obtain ⟨entry, hentry, heq⟩ := Option.map_eq_some_iff.1 hentry.symm
  exact ⟨document, entry, Std.ExtTreeMap.mem_toList_iff_getElem?_eq_some.1
    (List.mem_of_getElem? hrow), heq.symm, hentry⟩

/-- The entry in a row in which the two catalogues have the same book. -/
theorem describes_of_agree {row : ℕ} {id : String} (hr : r.Sound) (hagree : r.Agree row)
    (hid : r.loaded.bind (·.keys[row]?) = some id) :
    ∃ data entry, r.client.temp["listBook"]? = some (.strings data) ∧ data[row]? = some entry ∧
      r.Describes row entry := by
  obtain ⟨books, hloaded, hrow⟩ := Option.bind_eq_some_iff.1 hid
  obtain ⟨older, hlisted, hrow'⟩ := Option.bind_eq_some_iff.1 (hagree.symm.trans hid)
  obtain ⟨hpart, data, hdata, hlist⟩ := hr.listed older hlisted
  -- The entry comes from the second catalogue, which agrees with the first one in this row only.
  obtain ⟨document, entry, hdocument, hentry, hrow''⟩ := getElem?_entries hdata hrow'
  refine ⟨data, entry, hlist, hrow'', id, ?_, document, hpart id document hdocument, hentry⟩
  rw [listedID, hr.loaded books hloaded]
  exact hrow

/-- Below the row count the loaded catalogue has a book. -/
theorem exists_id_of_hasRow {row : ℕ} (hr : r.Sound) (harrived : r.Arrived) (hrow : r.HasRow row) :
    ∃ id, r.loaded.bind (·.keys[row]?) = some id := by
  obtain ⟨books, hbooks⟩ := Option.isSome_iff_exists.1 harrived.1
  obtain ⟨count, hcount, hlt⟩ := hrow
  simp only [numberOfRowsInComponent, Traps.bind_eq_ok, forced_eq_ok, Traps.pure_eq_ok,
    hr.loaded books hbooks, Option.bind_some, Value.strings?_strings, Option.some.injEq] at hcount
  obtain ⟨ids, _, ⟨rfl, -⟩, rfl, -⟩ := hcount
  exact ⟨books.keys[row], by rw [hbooks, Option.bind_some, List.getElem?_eq_getElem hlt]⟩

theorem didSelectRow_of_list {row : ℕ} {data : List String} {entry : String} (s : Screen)
    (hlist : r.client.temp["listBook"]? = some (.strings data)) (hrow : data[row]? = some entry) :
    didSelectRow row s ⟨r.client.temp, []⟩ = .ok { s with idBook := entry } ⟨r.client.temp, []⟩ :=
  didSelectRow_eq_ok.2 ⟨⟨data, entry, by rw [hlist]; rfl, hrow, rfl⟩, rfl⟩

end BookLists

/-! ## Every run -/

/-- Once the first answer and the first snapshot have come, the picker reads an entry that is there
and describes the book of its row, wherever the two catalogues agree. -/
theorem picker_of_run {c : Client} {es : List CatalogueEvent} {r : BookLists}
    (h : Run (Steps BookLists.step) (BookLists.start c) es r) (harrived : r.Arrived)
    {e : PickerEvent} (hkeeps : r.KeepsRow e) : r.ReadsEntry e := by
  have hr : r.Sound := h.invariant BookLists.Sound (BookLists.sound_start c)
    fun _ _ _ hr hstep => BookLists.sound_step hr hstep
  cases e with
  | openPicker s =>
    -- Opening the picker does not ask for the row count.
    obtain ⟨id, hid⟩ := Option.isSome_iff_exists.1 hkeeps.2
    obtain ⟨data, entry, hlist, hrow, hdescribes⟩ := BookLists.describes_of_agree hr hkeeps.1 hid
    exact ⟨entry, BookLists.didSelectRow_of_list s hlist hrow, hdescribes⟩
  | title row =>
    intro hbelow
    obtain ⟨id, hid⟩ := BookLists.exists_id_of_hasRow hr harrived hbelow
    obtain ⟨data, entry, hlist, hrow, hdescribes⟩ := BookLists.describes_of_agree hr hkeeps hid
    refine ⟨entry, ?_, hdescribes⟩
    simp only [titleForRow, Traps.bind_eq_ok, forced_eq_ok, Traps.index_eq_ok]
    exact ⟨data, _, ⟨by rw [hlist]; rfl, rfl⟩, hrow, rfl⟩
  | select row s =>
    intro hbelow
    obtain ⟨id, hid⟩ := BookLists.exists_id_of_hasRow hr harrived hbelow
    obtain ⟨data, entry, hlist, hrow, hdescribes⟩ := BookLists.describes_of_agree hr hkeeps hid
    exact ⟨entry, BookLists.didSelectRow_of_list s hlist hrow, hdescribes⟩

namespace Sample

/-- The student menu has appeared over an empty catalogue, and its loads were answered. -/
def emptyPicker : Reached (Steps BookLists.step) (BookLists.start ⟨∅, Database.empty⟩) :=
  let menu := Reached.start.take .studentMenu (by decide +kernel)
  let loaded := menu.take (.answer 0 0) (by decide +kernel)
  loaded.take (.deliver 0 0) (by decide +kernel)

/-- A book is added, and the menu appears again. -/
def onePicker : Reached (Steps BookLists.step) (BookLists.start ⟨∅, Database.empty⟩) :=
  let added := emptyPicker.take (.grow "B1" (Document.merge ∅ (Book.newData
    { ID := "B1", name := "ONE" }))) (by decide +kernel)
  let menu := added.take .studentMenu (by decide +kernel)
  let loaded := menu.take (.answer 0 1) (by decide +kernel)
  loaded.take (.deliver 0 1) (by decide +kernel)

end Sample

theorem picker_one : Sample.onePicker.state.ReadsEntry (.title 0) :=
  picker_of_run Sample.onePicker.run (show _ ∧ _ by decide +kernel)
    (show _ = _ by decide +kernel)

/-- Opening the picker over an empty catalogue indexes outside the list. -/
theorem picker_fails : ¬ ∀ (c : Client) (es : List CatalogueEvent) (r : BookLists),
    Run (Steps BookLists.step) (BookLists.start c) es r → r.Arrived →
      ∀ e : PickerEvent, r.ReadsEntry e := by
  intro hall
  obtain ⟨entry, hopen, -⟩ := hall _ _ _ Sample.emptyPicker.run (show _ ∧ _ by decide +kernel)
    (.openPicker ⟨"", "", "", "", none, true, "", ""⟩)
  obtain ⟨⟨data, entry', hlist, hrow, -⟩, -⟩ := didSelectRow_eq_ok.1 hopen
  have hempty : Sample.emptyPicker.state.client.temp["listBook"]?.bind Value.strings? = some [] := by
    decide +kernel
  obtain rfl := Option.some.inj (hempty.symm.trans hlist)
  simp at hrow

end LibraryManagement
