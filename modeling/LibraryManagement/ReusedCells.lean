import LibraryManagement.Lib.Cells
import LibraryManagement.TableRows

/-!
# What reused cells show

The rows of the book list and of the student list are shown in cells that the table reuses. The
listener of a rendering writes the labels of the cell it was made for. It stays registered when
the cell is reused, and a cell that was hidden once stays hidden.
-/

namespace LibraryManagement

open Handler Transition

/-- The two lists whose rows listen to one document each. -/
inductive Listing
  | books | students
deriving Repr, DecidableEq

/-- A cell of one of these lists. A label can be without text. -/
structure ListCell where
  IDLabel : Option String
  nameLabel : Option String
  isHidden : Bool
deriving Repr, DecidableEq

namespace Listing

def table : Listing → Table
  | books => .books
  | students => .students

def collection : Listing → CollectionName
  | books => .books
  | students => .students

/-- A cell as the storyboard has it. -/
def prototype : Listing → ListCell
  | books => ⟨some "17CTT1", some "Harry Potter va bao boi tu than", false⟩
  | students => ⟨some "MSSV", some "Full Name", false⟩

/-- What a delivery does besides the labels. -/
def cellDelivery (id : String) (document : Option Document) : Listing → Handler Unit
  | books => do
    let _ ← ManageBooksViewController.cellDelivery id document
  | students => ManageStudentsViewController.cellDelivery id document

/-- The labels of a document. -/
def labels (document : Option Document) : Option String × Option String :=
  (document.bind (·.string? "ID"), document.bind (·.string? "name"))

/-- What a delivery makes of the cell. The row of a student without a name is not hidden. -/
def draw (document : Option Document) (cell : ListCell) : Listing → ListCell
  | books =>
    if Named document then
      { cell with IDLabel := (labels document).1, nameLabel := (labels document).2 }
    else { cell with isHidden := true }
  | students =>
    if Named document then
      { cell with IDLabel := (labels document).1, nameLabel := (labels document).2 }
    else cell

end Listing

/-- The client, with a list on its screen. -/
structure ListScreen where
  client : Client
  table : Cells.Table ListCell Row (Option Document)

inductive ListEvent
  /-- A row comes on the screen in a cell, a row leaves the screen. -/
  | render (row cell : ℕ)
  | hide (row : ℕ)
  /-- The listener of a rendering is delivered its next snapshot, of which some may be left out. -/
  | deliver (n skipped : ℕ)
  /-- What the other screens and the other clients do. -/
  | elsewhere (c : Client)

namespace ListScreen

variable (listing : Listing)

/-- The list has no row on the screen. -/
def start (c : Client) : ListScreen := ⟨c, .blank fun _ => listing.prototype⟩

/-- The documents that the rows listen to. -/
def now (db : Database) (row : Row) : Option Document := (db listing.collection)[row.id]?

def step (r : ListScreen) : ListEvent → Option ListScreen
  | .render row cell =>
    if r.table.Free row cell then
      (r.client.run (listing.table.cellForRowAt row)).map fun (id, c) =>
        let source : Row := ⟨id, (listing.table.ids r.client.temp).getD []⟩
        ⟨c, r.table.render row cell source (now listing r.client.db source)⟩
    else none
  | .hide row => some { r with table := r.table.hide row }
  | .deliver n skipped => r.table.renderings[n]?.bind fun l => match l.pending.drop skipped with
    | [] => none
    | x :: pending => (r.client.run (listing.cellDelivery l.source.id x)).map fun (_, c) =>
      ⟨c, r.table.receive n l x pending (listing.draw x (r.table.shows l.cell))⟩
  | .elsewhere c =>
    some ⟨c, r.table.change (now listing r.client.db) (now listing c.db)⟩

/-! ## What is to hold -/

/-- The cell shows the document, and is hidden only if the document has an empty name. -/
def Displays (document : Option Document) (cell : ListCell) : Prop :=
  if cell.isHidden then ¬ Named document else (cell.IDLabel, cell.nameLabel) = Listing.labels document

instance (document : Option Document) (cell : ListCell) : Decidable (Displays document cell) :=
  inferInstanceAs (Decidable (if cell.isHidden then _ else _))

/-- The row is for the id at its index of the list it was rendered from. -/
def Bound (row : ℕ) (source : Row) : Prop := source.list[row]? = some source.id

/-- The cell of every row on the screen shows what the listener of the row was delivered last,
and the stored document if nothing is left to deliver. -/
def ShowsRows (r : ListScreen) : Prop :=
  ∀ row l, r.table.InSight row l → Bound row l.source ∧
    (∀ x ∈ l.delivered, Displays x (r.table.shows l.cell)) ∧
    (l.pending = [] → Displays (now listing r.client.db l.source) (r.table.shows l.cell))

/-- The listener belongs to a row that is still on the screen in its cell. -/
def Own (r : ListScreen) (n : ℕ) : Prop := ∃ p ∈ r.table.visible, p.2 = n

instance (r : ListScreen) (n : ℕ) : Decidable (r.Own n) :=
  inferInstanceAs (Decidable (∃ p ∈ r.table.visible, _))

/-- A book with a name is delivered in a cell that is not hidden, and no student without a name. -/
def Fits (document : Option Document) (cell : ListCell) : Listing → Prop
  | .books => Named document → cell.isHidden = false
  | .students => Named document

instance (document : Option Document) (cell : ListCell) : DecidablePred (Fits document cell)
  | .books => inferInstanceAs (Decidable (_ → _))
  | .students => inferInstanceAs (Decidable (Named _))

/-- The condition on a delivery. The listener of a row that is on the screen is delivered what
fits the cell. The listener of a row that has left its cell changes nothing in it, once the row
that has the cell now was delivered something. -/
def KeepsRows (r : ListScreen) : ListEvent → Prop
  | .deliver n skipped => ∀ l ∈ r.table.renderings[n]?, ∀ x ∈ (l.pending.drop skipped).head?,
    (r.Own n → Fits x (r.table.shows l.cell) listing) ∧
      r.table.Steady n l (listing.draw x (r.table.shows l.cell))
  | _ => True

instance (r : ListScreen) : DecidablePred (r.KeepsRows listing)
  | .deliver n _ => inferInstanceAs (Decidable (∀ l ∈ r.table.renderings[n]?, _))
  | .render _ _ => inferInstanceAs (Decidable True)
  | .hide _ => inferInstanceAs (Decidable True)
  | .elsewhere _ => inferInstanceAs (Decidable True)

end ListScreen

/-! ## One event -/

namespace ListScreen

variable {listing : Listing} {r t : ListScreen} {d d' : Device}

/-- What holds while the deliveries keep to the condition. No row of a student is hidden. -/
structure Sound (listing : Listing) (r : ListScreen) : Prop where
  table : r.table.Sound (now listing r.client.db) Bound fun _ => Displays
  shown : listing = .students → ∀ cell, (r.table.shows cell).isHidden = false

theorem sound_start (c : Client) : (start listing c).Sound listing where
  table := Cells.Table.sound_blank _
  shown := by
    rintro rfl cell
    rfl

/-- A delivery hands no write to Firestore. -/
theorem writes_cellDelivery {id : String} {document : Option Document} {u : Unit}
    (h : listing.cellDelivery id document d = .ok u d') : d'.writes = d.writes := by
  cases listing with
  | books =>
    obtain ⟨shown, d₁, hcell, hreturn⟩ := Traps.bind_eq_ok.1 h
    obtain ⟨-, rfl⟩ := Traps.pure_eq_ok.1 hreturn
    obtain ⟨data, name, -, -, ⟨-, -, rfl⟩ | ⟨-, -, rfl⟩⟩ :=
      ManageBooksViewController.cellDelivery_ok hcell
    · rfl
    · rfl
  | students =>
    obtain ⟨data, name, -, -, ⟨-, rfl⟩ | ⟨-, rfl⟩⟩ := ManageStudentsViewController.cellDelivery_ok h
    · rfl
    · rfl

/-- Rendering a row only reads. -/
theorem cellForRowAt_bound {row : ℕ} {id : String}
    (h : listing.table.cellForRowAt row d = .ok id d') :
    Bound row ⟨id, (listing.table.ids d.temp).getD []⟩ ∧ d' = d := by
  obtain ⟨ids, hids, hrow⟩ := Table.cellForRowAt_ok h
  refine ⟨by rwa [hids], ?_⟩
  cases listing with
  | books =>
    simp only [Listing.table, Table.cellForRowAt, ManageBooksViewController.cellForRowAt,
      Traps.bind_eq_ok, forced_eq_ok, Traps.index_eq_ok, document_eq_ok] at h
    obtain ⟨_, _, ⟨-, rfl⟩, _, _, ⟨-, rfl⟩, -, -, rfl⟩ := h
    rfl
  | students =>
    simp only [Listing.table, Table.cellForRowAt, ManageStudentsViewController.cellForRowAt,
      Traps.bind_eq_ok, forced_eq_ok, Traps.index_eq_ok, document_eq_ok] at h
    obtain ⟨_, _, ⟨-, rfl⟩, _, _, ⟨-, rfl⟩, -, -, rfl⟩ := h
    rfl

/-- A delivery to the row's own listener is displayed. -/
theorem displays_draw {x : Option Document} {cell : ListCell}
    (hfits : Fits x cell listing) (hshown : listing = .students → cell.isHidden = false) :
    Displays x (listing.draw x cell) := by
  cases listing with
  | books =>
    by_cases hnamed : Named x
    · simp [Displays, Listing.draw, hnamed, hfits hnamed]
    · simp [Displays, Listing.draw, hnamed]
  | students =>
    have hnamed : Named x := hfits
    simp [Displays, Listing.draw, hnamed, hshown rfl]

/-- No cell of a student is ever hidden. -/
theorem draw_students {x : Option Document} {cell : ListCell} (h : cell.isHidden = false) :
    (Listing.students.draw x cell).isHidden = false := by
  show (if Named x then _ else cell).isHidden = false
  split <;> exact h

theorem sound_render {row cell : ℕ} (hr : r.Sound listing)
    (h : r.step listing (.render row cell) = some t) : t.Sound listing := by
  simp only [step] at h
  obtain ⟨hfree, hmap⟩ := Option.ite_none_right_eq_some.1 h
  obtain ⟨id, d, hcell, rfl⟩ := Client.map_run_eq_some.1 hmap
  obtain ⟨hbound, rfl⟩ := cellForRowAt_bound hcell
  exact ⟨hr.table.render hfree hbound, hr.shown⟩

theorem sound_hide {row : ℕ} (hr : r.Sound listing) (h : r.step listing (.hide row) = some t) :
    t.Sound listing := by
  obtain rfl := Option.some.inj h
  exact ⟨hr.table.hide row, hr.shown⟩

/-- What a delivery did. -/
theorem step_deliver {n skipped : ℕ} (h : r.step listing (.deliver n skipped) = some t) :
    ∃ l x pending, r.table.renderings[n]? = some l ∧ l.pending.drop skipped = x :: pending ∧
      t.client.db = r.client.db ∧
      t.table = r.table.receive n l x pending (listing.draw x (r.table.shows l.cell)) := by
  obtain ⟨l, hl, hstep⟩ := Option.bind_eq_some_iff.1 h
  split at hstep
  · cases hstep
  · next x pending hdrop =>
    obtain ⟨u, d, hcell, rfl⟩ := Client.map_run_eq_some.1 hstep
    refine ⟨l, x, pending, hl, hdrop, ?_, rfl⟩
    rw [writes_cellDelivery hcell]
    rfl

theorem sound_deliver {n skipped : ℕ} (hr : r.Sound listing)
    (hkeeps : r.KeepsRows listing (.deliver n skipped))
    (h : r.step listing (.deliver n skipped) = some t) : t.Sound listing := by
  obtain ⟨l, x, pending, hl, hdrop, hdb, htable⟩ := step_deliver h
  obtain ⟨hown, hsteady⟩ := hkeeps l hl x (by rw [hdrop]; rfl)
  constructor
  · rw [hdb, htable]
    refine hr.table.receive hl hdrop ?_ hsteady
    intro p hp hpn
    exact displays_draw (hown ⟨p, hp, hpn⟩) fun hstudents => hr.shown hstudents _
  · rintro rfl cell
    rw [htable]
    by_cases hcell : cell = l.cell
    · simp only [Cells.Table.receive, hcell, Function.update_self]
      exact draw_students (hr.shown rfl _)
    · simp only [Cells.Table.receive, Function.update_of_ne hcell]
      exact hr.shown rfl cell

theorem sound_elsewhere {c : Client} (hr : r.Sound listing)
    (h : r.step listing (.elsewhere c) = some t) : t.Sound listing := by
  obtain rfl := Option.some.inj h
  exact ⟨hr.table.change, hr.shown⟩

theorem sound_step {e : ListEvent} (hr : r.Sound listing) (hkeeps : r.KeepsRows listing e)
    (h : r.step listing e = some t) : t.Sound listing := by
  cases e with
  | render row cell => exact sound_render hr h
  | hide row => exact sound_hide hr h
  | deliver n skipped => exact sound_deliver hr hkeeps h
  | elsewhere c => exact sound_elsewhere hr h

theorem showsRows_of_sound (hr : r.Sound listing) : r.ShowsRows listing := by
  intro row l hl
  exact ⟨hr.table.bound_inSight hl, fun x hx => hr.table.displays hl hx,
    hr.table.displays_now hl⟩

end ListScreen

/-! ## Every run -/

/-- In every run whose deliveries meet the condition each row that was delivered its document
shows it, and is hidden only if the document has an empty name. -/
theorem cells_of_run {listing : Listing} {c : Client} {es : List ListEvent} {r : ListScreen}
    (h : Run (Guarded (ListScreen.KeepsRows listing) (Steps (ListScreen.step listing)))
      (ListScreen.start listing c) es r) : r.ShowsRows listing :=
  ListScreen.showsRows_of_sound (h.invariant (ListScreen.Sound listing)
    (ListScreen.sound_start c) fun _ _ _ hr hstep => ListScreen.sound_step hr hstep.1 hstep.2)

namespace Sample

/-- Two stored books, of which the first has this name. -/
def renamedBooks (name : String) : Client where
  temp := (∅ : UserDefaults).insert "ID_books" (.strings ["B1", "B2"])
  db := Write.applyAll Database.empty
    [.setData .books "B1" (Book.newData { ID := "B1", name := name }),
      .setData .books "B2" (Book.newData { ID := "B2", name := "TWO" })]

abbrev listStep : ListScreen → ListEvent → Option ListScreen := ListScreen.step .books

/-- The second row has the cell that the first row had. -/
def reused : Reached (Guarded (ListScreen.KeepsRows .books) (Steps listStep))
    (ListScreen.start .books (renamedBooks "ONE")) :=
  let first := Reached.start.takeGuarded (.render 0 0) trivial (by decide +kernel)
  let shown := first.takeGuarded (.deliver 0 0) (by decide +kernel) (by decide +kernel)
  let gone := shown.takeGuarded (.hide 0) trivial (by decide +kernel)
  let second := gone.takeGuarded (.render 1 0) trivial (by decide +kernel)
  second.takeGuarded (.deliver 1 0) (by decide +kernel) (by decide +kernel)

/-- The first book is renamed, and its listener delivers that to the cell of the second row. -/
def overwritten : Reached (Steps listStep) (ListScreen.start .books (renamedBooks "ONE")) :=
  let reused : Reached (Steps listStep) (ListScreen.start .books (renamedBooks "ONE")) :=
    ⟨reused.labels, reused.state, reused.run.of_guarded⟩
  let renamed := reused.take (.elsewhere (renamedBooks "FIRST")) (by decide +kernel)
  renamed.take (.deliver 0 0) (by decide +kernel)

end Sample

theorem cells_reused : Sample.reused.state.ShowsRows .books ∧
    Sample.reused.state.table.shows 0 = ⟨some "B2", some "TWO", false⟩ :=
  ⟨cells_of_run Sample.reused.run, by decide +kernel⟩

/-- The row of the second book shows the first one. -/
theorem cells_fail : ¬ ∀ (c : Client) (es : List ListEvent) (r : ListScreen),
    Run (Steps (ListScreen.step .books)) (ListScreen.start .books c) es r → r.ShowsRows .books := by
  intro hall
  have hshows := hall _ _ _ Sample.overwritten.run
  have hsight : ∃ l ∈ Sample.overwritten.state.table.renderings[1]?,
      (1, 1) ∈ Sample.overwritten.state.table.visible ∧ ∃ x ∈ l.delivered,
        ¬ ListScreen.Displays x (Sample.overwritten.state.table.shows l.cell) := by decide +kernel
  obtain ⟨l, hl, hvisible, x, hx, hwrong⟩ := hsight
  exact hwrong ((hshows 1 l ⟨1, hvisible, hl⟩).2.1 x hx)

end LibraryManagement
