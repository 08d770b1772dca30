import LibraryManagement.Lib.Transition
import LibraryManagement.Lib.Triple
import LibraryManagement.Screens.StudentsTheorems
import LibraryManagement.VisitsTheorems

/-!
# Rows and what they stand for

Three tables have one row for each id of a list in `UserDefaults`. A table is told the number
of rows when it is reloaded, and asks for the row at an index when it scrolls there; a tap on
a row stores the id at its index. Each of these reads the list as it is then, and the menus
and the listeners replace the lists without reloading a table.

The state keeps what every row was last rendered from (`Row`).
-/

namespace LibraryManagement

open Handler Transition Traps

inductive Table
  | books | students | cards
deriving Repr, DecidableEq

namespace Table

/-- The key of the list whose ids the rows stand for. -/
def list : Table → String
  | books => "ID_books"
  | students => "ID_students"
  | cards => "listID"

/-- The key under which a tap stores an id. -/
def current : Table → String
  | books => "ID_current_book"
  | students => "ID_current_student"
  | cards => "ID_current_bc"

def numberOfRowsInSection : Table → Handler ℤ
  | books => do return ((← ManageBooksViewController.numberOfRowsInSection : ℕ) : ℤ)
  | students => do return ((← ManageStudentsViewController.numberOfRowsInSection : ℕ) : ℤ)
  | cards => ListBorrowingCardStudentViewController.numberOfRowsInSection

/-- Rendering a row: the id it is rendered from. -/
def cellForRowAt (row : ℕ) : Table → Handler String
  | books => ManageBooksViewController.cellForRowAt row
  | students => ManageStudentsViewController.cellForRowAt row
  | cards => do
    let (id, _, _) ← ListBorrowingCardStudentViewController.cellForRowAt row
    return id

def didSelectRowAt (row : ℕ) : Table → Handler Unit
  | books => ManageBooksViewController.didSelectRowAt row
  | students => ManageStudentsViewController.didSelectRowAt row
  | cards => ListBorrowingCardStudentViewController.didSelectRowAt row

/-- The list of ids as it is stored. -/
def ids (t : Table) (temp : UserDefaults) : Option (List String) := temp[t.list]?.bind Value.strings?

/-- The lists that rendering reads have at least `n` entries. -/
def Covers (n : ℤ) (t : Table) (temp : UserDefaults) : Prop :=
  (∀ ids ∈ t.ids temp, n ≤ ids.length) ∧
    (t = cards → ∀ data ∈ temp["data"]?.bind Value.dictionaries?, n ≤ data.length)

instance (n : ℤ) (t : Table) (temp : UserDefaults) : Decidable (t.Covers n temp) :=
  inferInstanceAs (Decidable (_ ∧ _))

end Table

/-- What a row was last rendered from: the id, and the list it was read from. -/
structure Row where
  id : String
  list : List String
deriving Repr, DecidableEq

/-- The client, with what its tables were told and show. -/
structure Tables where
  client : Client
  /-- The number of rows at the last reload. -/
  told : Table → ℤ
  rendered : Table → ℕ → Option Row

/-- What a table does, and what comes between. -/
inductive TableStep
  | reload (t : Table)
  | render (t : Table) (row : ℕ)
  | tap (t : Table) (row : ℕ)
  /-- The student menu appears; a list of ids is loaded. -/
  | studentMenu
  | loadStudents
  | loadBooks
  /-- A delivery of the cards to the screen of a student, of a document to a row. -/
  | cards (studentID : String)
  | book (id : String)
  | student (id : String)
  | change (db : Database)

namespace Tables

/-- No table was loaded. -/
def start (c : Client) : Tables := ⟨c, fun _ => 0, fun _ _ => none⟩

/-- A handler that touches no table. -/
def between {α : Type} (r : Tables) (h : Handler α) : Option Tables :=
  (r.client.run h).map fun (_, c) => { r with client := c }

/-- A row shows another id. -/
def display (r : Tables) (t : Table) (row : ℕ) (shown : Row) : Tables :=
  { r with rendered := fun t' row' => if t' = t ∧ row' = row then some shown else r.rendered t' row' }

/-- A table asks only for the rows it was told of, and only a row that was rendered is tapped. -/
def step (r : Tables) : TableStep → Option Tables
  | .reload t => (r.client.run t.numberOfRowsInSection).map fun (n, c) =>
    { r with client := c, told := Function.update r.told t n }
  | .render t row =>
    if row < r.told t then
      (r.client.run (t.cellForRowAt row)).map fun (id, c) =>
        { r with client := c }.display t row ⟨id, (t.ids r.client.temp).getD []⟩
    else none
  | .tap t row => (r.rendered t row).bind fun _ => r.between (t.didSelectRowAt row)
  | .studentMenu => r.between StudentMenuViewController.viewWillAppear
  | .loadStudents => r.between (loadStudentData (r.client.db .students))
  | .loadBooks => r.between (loadBookData (r.client.db .books))
  | .cards studentID =>
    r.between (EditInfoStudentViewController.cardsDelivery studentID (r.client.db .borrowCard))
  | .book id => r.between (ManageBooksViewController.cellDelivery id (r.client.db .books)[id]?)
  | .student id =>
    r.between (ManageStudentsViewController.cellDelivery id (r.client.db .students)[id]?)
  | .change db => some { r with client := { r.client with db := db } }

/-! ## What is to hold -/

/-- The trap a handler ends in. -/
def trap {α : Type} (r : Tables) (h : Handler α) : Option Trap :=
  match h ⟨r.client.temp, []⟩ with
  | .ok _ _ => none
  | .error e _ => some e

/-- No row index is outside its list. -/
def InRange (r : Tables) : TableStep → Prop
  | .render t row => row < r.told t → r.trap (t.cellForRowAt row) ≠ some .indexOutOfRange
  | .tap t row => (r.rendered t row).isSome →
    r.trap (t.didSelectRowAt row) ≠ some .indexOutOfRange
  | _ => True

/-- A tap stores the id that the row was last rendered from. -/
def OpensRendered (r r' : Tables) : TableStep → Prop
  | .tap t row => ∀ shown ∈ r.rendered t row, r'.client.temp[t.current]? = some (.string shown.id)
  | _ => True

/-- The condition on a step. A row is rendered when the stored lists have not become shorter than
the table was told, and tapped when the stored list is, up to that row, the one it was last
rendered from. -/
def KeepsLists (r : Tables) : TableStep → Prop
  | .render t _ => t.Covers (r.told t) r.client.temp
  | .tap t row => ∀ shown ∈ r.rendered t row, ∀ ids ∈ t.ids r.client.temp,
    ids.take (row + 1) = shown.list.take (row + 1)
  | _ => True

end Tables

/-! ## What rendering and tapping do -/

namespace Table

variable {t : Table} {row : ℕ} {d d' : Device}

/-- A row is rendered from the id at its index. -/
theorem cellForRowAt_ok {id : String} (h : t.cellForRowAt row d = .ok id d') :
    ∃ ids, t.ids d.temp = some ids ∧ ids[row]? = some id := by
  cases t with
  | books | students =>
    obtain ⟨ids, d₁, hids, hrest⟩ := bind_eq_ok.1 h
    obtain ⟨id', d₂, hindex, hdocument⟩ := bind_eq_ok.1 hrest
    obtain ⟨hstored, rfl⟩ := forced_eq_ok.1 hids
    obtain ⟨hrow, rfl⟩ := index_eq_ok.1 hindex
    obtain ⟨-, rfl, -⟩ := document_eq_ok.1 hdocument
    exact ⟨ids, hstored, hrow⟩
  | cards =>
    obtain ⟨⟨id', cell, hidden⟩, d₁, hcell, hreturn⟩ := bind_eq_ok.1 h
    obtain ⟨rfl, -⟩ := pure_eq_ok.1 hreturn
    obtain ⟨data, listID, card, status, -, hstored, -, hrow, -⟩ :=
      ListBorrowingCardStudentViewController.cellForRowAt_ok hcell
    exact ⟨listID, hstored, hrow⟩

/-- A tap stores the id at the index of the row. -/
theorem didSelectRowAt_eq (t : Table) (row : ℕ) :
    t.didSelectRowAt row = (do
      let ids ← forced t.list Value.strings?
      Handler.set t.current (some (.string (← index ids row)))) := by
  cases t <;> rfl

theorem didSelectRowAt_ok {u : Unit} (h : t.didSelectRowAt row d = .ok u d') :
    ∃ ids id, t.ids d.temp = some ids ∧ ids[row]? = some id ∧
      d'.temp[t.current]? = some (.string id) := by
  rw [didSelectRowAt_eq] at h
  obtain ⟨ids, d₁, hids, hrest⟩ := bind_eq_ok.1 h
  obtain ⟨id, d₂, hindex, hset⟩ := bind_eq_ok.1 hrest
  obtain ⟨hstored, rfl⟩ := forced_eq_ok.1 hids
  obtain ⟨hrow, rfl⟩ := index_eq_ok.1 hindex
  obtain rfl := set_eq_ok.1 hset
  exact ⟨ids, id, hstored, hrow, by rw [UserDefaults.getElem?_insert, if_pos rfl]⟩

/-! ## Which traps they end in -/

/-- Every trap but an index outside an array. -/
def others : Set Trap := {e | e ≠ .indexOutOfRange}

theorem forced_others {α : Type} {key : String} {as? : Value → Option α} :
    Triple others (fun d' => d' = d) (forced key as?)
      fun a d' => d.temp[key]?.bind as? = some a ∧ d' = d := by
  rintro d' rfl
  rw [forced_apply]
  cases d'.temp[key]?.bind as? with
  | none => exact fun h => by cases h
  | some a => exact ⟨rfl, rfl⟩

theorem document_others {path : String} {P : Device → Prop} :
    Triple others P (document path) fun _ => P := by
  unfold document
  split
  · exact .pure fun _ hd => hd
  · exact .throw fun h => by cases h

/-- The id of a row that the list has is read and referred to. -/
theorem referred_others {key : String}
    (hrow : ∀ ids ∈ d.temp[key]?.bind Value.strings?, row < ids.length) :
    Triple others (fun d' => d' = d) (do
      let ids ← forced key Value.strings?
      document (← index ids row)) fun _ d' => d' = d := by
  refine forced_others.read fun ids hids => ?_
  exact (Triple.index_of_lt (hrow ids hids)).read fun id _ => document_others

theorem cellForRowAt_others {n : ℤ} (hcovers : t.Covers n d.temp) (hrow : (row : ℤ) < n) :
    Triple others (fun d' => d' = d) (t.cellForRowAt row) fun _ _ => True := by
  have hids : ∀ ids ∈ t.ids d.temp, row < ids.length := by
    intro ids hstored
    have hle := hcovers.1 ids hstored
    omega
  cases t with
  | books => exact (referred_others hids).weaken (fun _ hd => hd) fun _ _ _ => trivial
  | students => exact (referred_others hids).weaken (fun _ hd => hd) fun _ _ _ => trivial
  | cards =>
    -- A row of the cards is rendered from two lists at one index.
    have hdata : ∀ data ∈ d.temp["data"]?.bind Value.dictionaries?, row < data.length := by
      intro data hstored
      have hle := hcovers.2 rfl data hstored
      omega
    have hcast : Trap.failedCast ∈ others := by
      intro h
      cases h
    refine Triple.bind (Q := fun _ _ => True) ?_ fun _ => .pure fun _ _ => trivial
    refine forced_others.read fun data hstored => ?_
    refine forced_others.read fun listID hlist => ?_
    refine (Triple.index_of_lt (hdata data hstored)).read fun card _ => ?_
    refine (Triple.cast hcast).read fun bookName _ => ?_
    refine (Triple.cast hcast).read fun startedDay _ => ?_
    refine (Triple.cast hcast).read fun endedDay _ => ?_
    refine (Triple.cast hcast).read fun status _ => ?_
    refine (Triple.index_of_lt (hids listID hlist)).read fun id _ => ?_
    intro d' hd'
    trivial

theorem didSelectRowAt_others (hrow : ∀ ids ∈ t.ids d.temp, row < ids.length) :
    Triple others (fun d' => d' = d) (t.didSelectRowAt row) fun _ _ => True := by
  rw [didSelectRowAt_eq]
  refine forced_others.read fun ids hids => ?_
  refine (Triple.index_of_lt (hrow ids hids)).read fun id _ => ?_
  intro d' hd'
  trivial

end Table

/-! ## Every run -/

namespace Tables

variable {r r' : Tables} {e : TableStep}

/-- Every row was rendered from the id at its index. -/
def Rendered (r : Tables) : Prop :=
  ∀ t row shown, r.rendered t row = some shown → shown.list[row]? = some shown.id

theorem rendered_start (c : Client) : (start c).Rendered := by
  intro t row shown hshown
  cases hshown

theorem between_rendered {α : Type} {h : Handler α} (hstep : r.between h = some r') :
    r'.rendered = r.rendered := by
  obtain ⟨⟨_, c⟩, -, rfl⟩ := Option.map_eq_some_iff.1 hstep
  rfl

theorem rendered_step (hr : r.Rendered) (h : r.step e = some r') : r'.Rendered := by
  cases e with
  | reload t =>
    obtain ⟨⟨n, c⟩, -, rfl⟩ := Option.map_eq_some_iff.1 h
    exact hr
  | render t row =>
    obtain ⟨-, hstep⟩ := Option.ite_none_right_eq_some.1 h
    obtain ⟨id, d, hcell, rfl⟩ := Client.map_run_eq_some.1 hstep
    obtain ⟨ids, hids, hrow⟩ := Table.cellForRowAt_ok hcell
    intro t' row' shown hshown
    -- A cell shows its latest rendering.
    simp only [display] at hshown
    split at hshown
    · next hsame =>
      obtain rfl := Option.some.inj hshown
      rw [hids, hsame.2]
      exact hrow
    · exact hr t' row' shown hshown
  | tap t row =>
    obtain ⟨shown, -, hstep⟩ := Option.bind_eq_some_iff.1 h
    rw [Rendered, between_rendered hstep]
    exact hr
  | change db =>
    obtain rfl := Option.some.inj h
    exact hr
  | studentMenu => rw [Rendered, between_rendered h]; exact hr
  | loadStudents => rw [Rendered, between_rendered h]; exact hr
  | loadBooks => rw [Rendered, between_rendered h]; exact hr
  | cards studentID => rw [Rendered, between_rendered h]; exact hr
  | book id => rw [Rendered, between_rendered h]; exact hr
  | student id => rw [Rendered, between_rendered h]; exact hr

theorem trap_ne_of_triple {α : Type} {x : Handler α} {Q : α → Device → Prop}
    (hx : Triple Table.others (fun d => d = ⟨r.client.temp, []⟩) x Q) :
    r.trap x ≠ some .indexOutOfRange := by
  unfold trap
  cases hres : x ⟨r.client.temp, []⟩ with
  | ok a d => exact Option.some_ne_none _ |>.symm
  | error e d =>
    intro htrap
    exact hx.error rfl hres (Option.some.inj htrap)

/-- A list that agrees with the one a row was rendered from has its id at the same index. -/
theorem getElem?_of_take_eq {t : Table} {row : ℕ} {shown : Row} {ids : List String}
    (hr : r.Rendered) (hshown : r.rendered t row = some shown)
    (htake : ids.take (row + 1) = shown.list.take (row + 1)) : ids[row]? = some shown.id := by
  have hrow : shown.list[row]? = some shown.id := hr t row shown hshown
  calc ids[row]? = (ids.take (row + 1))[row]? := by
        rw [List.getElem?_take_of_lt (Nat.lt_succ_self row)]
    _ = shown.list[row]? := by
        rw [htake, List.getElem?_take_of_lt (Nat.lt_succ_self row)]
    _ = some shown.id := hrow

theorem inRange_of_rendered (hr : r.Rendered) (hkeeps : r.KeepsLists e) : r.InRange e := by
  cases e with
  | render t row =>
    intro hrow
    exact trap_ne_of_triple (Table.cellForRowAt_others hkeeps hrow)
  | tap t row =>
    intro hsome
    obtain ⟨shown, hshown⟩ := Option.isSome_iff_exists.1 hsome
    refine trap_ne_of_triple (Table.didSelectRowAt_others fun ids hids => ?_)
    have hrow := getElem?_of_take_eq hr hshown (hkeeps shown hshown ids hids)
    exact (List.getElem?_eq_some_iff.1 hrow).1
  | _ => trivial

theorem opensRendered_of_rendered (hr : r.Rendered) (hkeeps : r.KeepsLists e)
    (h : r.step e = some r') : r.OpensRendered r' e := by
  cases e with
  | tap t row =>
    intro shown hshown
    obtain ⟨shown', -, hstep⟩ := Option.bind_eq_some_iff.1 h
    obtain ⟨_, d, htap, rfl⟩ := Client.map_run_eq_some.1 hstep
    obtain ⟨ids, id, hids, hrow, hcurrent⟩ := Table.didSelectRowAt_ok htap
    have hsame := getElem?_of_take_eq hr hshown (hkeeps shown hshown ids hids)
    obtain rfl : shown.id = id := Option.some.inj (hsame.symm.trans hrow)
    exact hcurrent
  | _ => trivial

end Tables

/-- In every run whose steps meet the condition no row index is outside its list, and a tap
stores the id that the row was last rendered from. -/
theorem rows_of_run {c : Client} {es : List TableStep} {r : Tables} {e : TableStep}
    (h : Run (Guarded Tables.KeepsLists (Steps Tables.step)) (Tables.start c) es r)
    (hkeeps : r.KeepsLists e) :
    r.InRange e ∧ ∀ r', r.step e = some r' → r.OpensRendered r' e := by
  have hr : r.Rendered := h.invariant Tables.Rendered (Tables.rendered_start c)
    fun _ _ _ hr hstep => Tables.rendered_step hr hstep.2
  exact ⟨Tables.inRange_of_rendered hr hkeeps,
    fun r' hstep => Tables.opensRendered_of_rendered hr hkeeps hstep⟩

namespace Sample

def twoShelved : Client where
  temp := ∅
  db := Function.update Database.empty .books (((∅ : Collection).insert "B1" (Document.merge ∅
      (AddBooksViewController.newBook Swift.asciiUppercased (form "B1" "One" "1") 1).newData)).insert
    "B2" (Document.merge ∅
      (AddBooksViewController.newBook Swift.asciiUppercased (form "B2" "Two" "1") 1).newData))

/-- The list of books is loaded, and its second row is rendered. -/
def secondRow : Reached (Guarded Tables.KeepsLists (Steps Tables.step)) (Tables.start twoShelved) :=
  let loaded := Reached.start.takeGuarded .loadBooks trivial (by decide +kernel)
  let told := loaded.takeGuarded (.reload .books) trivial (by decide +kernel)
  told.takeGuarded (.render .books 1)
    (show Table.books.Covers (told.state.told .books) told.state.client.temp by decide +kernel)
    (by decide +kernel)

/-- The student tab is shown for a moment: the list is empty until it is loaded again. -/
def emptied : Reached (Steps Tables.step) (Tables.start twoShelved) :=
  let rendered : Reached (Steps Tables.step) (Tables.start twoShelved) :=
    ⟨secondRow.labels, secondRow.state, secondRow.run.of_guarded⟩
  rendered.take .studentMenu (by decide +kernel)

end Sample

theorem rows_secondRow : Sample.secondRow.state.rendered .books 1 = some ⟨"B2", ["B1", "B2"]⟩ ∧
    Sample.secondRow.state.OpensRendered (after Tables.step Sample.secondRow.state (.tap .books 1))
      (.tap .books 1) := by
  have hkeeps : ∀ shown ∈ Sample.secondRow.state.rendered .books 1,
      ∀ ids ∈ Table.books.ids Sample.secondRow.state.client.temp,
        ids.take 2 = shown.list.take 2 := by decide +kernel
  exact ⟨by decide +kernel,
    (rows_of_run (e := .tap .books 1) Sample.secondRow.run hkeeps).2 _ (steps_after (by decide +kernel))⟩

/-- Tapping the row then ends in a trap. -/
theorem rows_fail : ¬ ∀ (c : Client) (es : List TableStep) (r : Tables) (e : TableStep),
    Run (Steps Tables.step) (Tables.start c) es r →
      r.InRange e ∧ ∀ r', r.step e = some r' → r.OpensRendered r' e := by
  intro hall
  have hrange : (Sample.emptied.state.rendered .books 1).isSome →
      Sample.emptied.state.trap (Table.books.didSelectRowAt 1) ≠ some .indexOutOfRange :=
    (hall _ _ _ (.tap .books 1) Sample.emptied.run).1
  revert hrange
  decide +kernel

end LibraryManagement
