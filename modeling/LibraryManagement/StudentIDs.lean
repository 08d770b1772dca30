import LibraryManagement.Lib.Transition
import LibraryManagement.Screens.StudentsTheorems
import LibraryManagement.VisitsTheorems

/-!
# The IDs of the students

One client adds and edits students. What a confirm starts is answered later: the reads of the
duplicate test one by one, in any order, and a listener once when it is registered and once
for every change of its document. A callback runs on the main queue, never inside a handler,
so each is a step of its own.
-/

namespace LibraryManagement

open Handler Transition

/-- A listener of a new student to the only student that was listed, with the snapshots that
are not delivered yet. -/
structure Listener where
  form : StudentForm
  id : String
  snapshots : List (Option Document)

/-- A changed document is one more snapshot. -/
def Listener.notify (db db' : Database) (l : Listener) : Listener :=
  if db.read .students l.id = db'.read .students l.id then l
  else { l with snapshots := l.snapshots ++ [db'.read .students l.id] }

/-- The client, with the callbacks that are outstanding. -/
structure Registry where
  client : Client
  reads : List (StudentForm × String)
  listeners : List Listener

def Registry.empty : Registry := ⟨Client.empty, [], []⟩

/-- A confirm or a callback. -/
inductive StudentStep
  /-- The confirm of a new student, with the id a new document would get. -/
  | press (form : StudentForm) (autoID : String)
  /-- The answer to an outstanding read. -/
  | answer (n : ℕ)
  /-- The delivery of the next snapshot of a listener. -/
  | delivery (n : ℕ) (autoID : String)
  /-- A whole visit that edits the student in this row. -/
  | edit (row : ℕ) (form : StudentForm) (statusIsOn : Bool)

namespace Registry

abbrev students (r : Registry) : Collection := r.client.db .students

/-- The client moves on, and the listeners whose documents changed are notified. -/
def move (r : Registry) (c : Client) : Registry :=
  { r with client := c, listeners := r.listeners.map (·.notify r.client.db c.db) }

/-- What a confirm leaves behind is outstanding. -/
def await (r : Registry) (form : StudentForm) : AddStudentsViewController.Waiting → Registry
  | .listener id =>
    { r with listeners := r.listeners ++ [⟨form, id, [r.client.db.read .students id]⟩] }
  | .answers ids => { r with reads := r.reads ++ ids.map (form, ·) }

/-- Adding a student. The list of students is up to date. -/
def press (uppercased : String → String) (students : Collection) (form : StudentForm)
    (autoID : String) : Handler AddStudentsViewController.Waiting := do
  loadStudentData students
  AddStudentsViewController.confirmButton uppercased form autoID

/-- Editing the student in row `row`. The student's ID cannot be edited; the other fields are
those of `form` when the button is pressed. -/
def edit (students : Collection) (row : ℕ) (form : StudentForm) (statusIsOn : Bool) :
    Handler Unit := do
  loadStudentData students
  let id ← Traps.index students.keys row
  ManageStudentsViewController.cellDelivery id students[id]?
  ManageStudentsViewController.didSelectRowAt row
  let (opened, _) ← EditInfoStudentViewController.viewDidLoad
  EditInfoStudentViewController.confirmAction { form with ID := opened.ID } statusIsOn

/-- A generated id is an id, and one the collection does not have yet. -/
def step (uppercased : String → String) (r : Registry) : StudentStep → Option Registry
  | .press form autoID =>
    if autoID ∈ r.students ∨ ¬ IsDocumentID autoID then none
    else (r.client.run (press uppercased r.students form autoID)).map fun (waiting, c) =>
      (r.move c).await form waiting
  | .answer n => r.reads[n]?.bind fun (form, id) =>
    (r.client.run (AddStudentsViewController.checkStudentAnswer
      (AddStudentsViewController.newStudent uppercased form) (r.client.db.read .students id))).map
      fun (_, c) => { r with reads := r.reads.eraseIdx n }.move c
  | .delivery n autoID =>
    if autoID ∈ r.students ∨ ¬ IsDocumentID autoID then none
    else r.listeners[n]?.bind fun l => match l.snapshots with
      | [] => none
      | snapshot :: snapshots =>
        (r.client.run (AddStudentsViewController.listenerDelivery
          (AddStudentsViewController.newStudent uppercased l.form) l.id autoID snapshot)).map
          fun (_, c) => { r with listeners := r.listeners.set n { l with snapshots := snapshots } }.move c
  | .edit row form statusIsOn =>
    (r.client.run (edit r.students row form statusIsOn)).map fun (_, c) => r.move c

end Registry

/-! ## What is to hold -/

/-- No two students have the same ID, the empty one apart. -/
def UniqueIDs (students : Collection) : Prop := ∀ ID ≠ "", students.AtMostOne (Document.Carries "ID" ID)

namespace Registry

end Registry

/-! ## One step -/

@[simp] theorem Listener.notify_id (db db' : Database) (l : Listener) :
    (l.notify db db').id = l.id := by
  unfold notify
  split <;> rfl

namespace Registry

/-- The documents have ids, and the listeners listen to listed ones. -/
structure Proper (r : Registry) : Prop where
  addressed : r.client.db.Addressed
  listeners : ∀ l ∈ r.listeners, IsDocumentID l.id

variable {uppercased : String → String} {r t : Registry}

theorem Proper.move (hr : r.Proper) {c : Client} (hc : c.db.Addressed) : (r.move c).Proper where
  addressed := hc
  listeners l hl := by
    obtain ⟨l, hmem, rfl⟩ := List.mem_map.1 hl
    rw [Listener.notify_id]
    exact hr.listeners l hmem

theorem Proper.await (hr : r.Proper) {form : StudentForm}
    {waiting : AddStudentsViewController.Waiting}
    (hwaiting : ∀ id, waiting = .listener id → IsDocumentID id) :
    (r.await form waiting).Proper := by
  cases waiting with
  | listener id =>
    refine ⟨hr.addressed, fun l hl => ?_⟩
    rcases List.mem_append.1 hl with hold | hnew
    · exact hr.listeners l hold
    · rw [List.mem_singleton.1 hnew]
      exact hwaiting id rfl
  | answers ids => exact ⟨hr.addressed, hr.listeners⟩

/-- An edit stores the form with the ID of the copy its row has cached: the stored document if
that has a name, an earlier copy otherwise. -/
theorem step_edit {row : ℕ} {form : StudentForm} {statusIsOn : Bool} (hr : r.Proper)
    (h : r.step uppercased (.edit row form statusIsOn) = some t) : t.Proper ∧
      ∃ id document copy, r.students.keys[row]? = some id ∧ r.students[id]? = some document ∧
        (document.string? "name" ≠ some "" ∧ copy = document ∨
          document.string? "name" = some "" ∧
            r.client.temp[id]?.bind Value.dictionary? = some copy) ∧
        ∃ (student : Student) (status : String), student.ID = (copy.string? "ID").getD "" ∧
          t.students = r.students.override id (student.data status) := by
  obtain ⟨_, d, hedit, rfl⟩ := Client.map_run_eq_some.1 h
  simp only [edit, Traps.bind_eq_ok, loadStudentData_eq_ok, exists_const, exists_eq_left',
    Traps.index_eq_ok, ManageStudentsViewController.didSelectRowAt_eq_ok,
    EditInfoStudentViewController.confirmAction_eq_ok, and_assoc, exists_and_left] at hedit
  obtain ⟨id, hid, _, d₁, hcell, d₂, ⟨ids, hids, id', hid', rfl⟩, opened, d₃, hopen, ID, hID,
    hpath, rfl⟩ := hedit
  obtain ⟨rfl, ID', copy, hID', hcopy, hopened⟩ := EditInfoStudentViewController.viewDidLoad_ok hopen
  simp only [UserDefaults.getElem?_insert, if_true, Option.bind_some, Value.string?_string,
    Option.some.injEq] at hID hID'
  subst hID hID'
  obtain ⟨-, hcopy⟩ := (UserDefaults.bind_getElem?_insert_of_none rfl).1 hcopy
  obtain ⟨document, name, hdocument, hname, hcell⟩ :=
    ManageStudentsViewController.cellDelivery_ok hcell
  -- The list of ids is still the loaded one: a row cached under its key would trap.
  obtain ⟨rfl, hwrites, hcopy⟩ : id' = id ∧ d₁.writes = [] ∧ (name ≠ "" ∧ copy = document ∨
      name = "" ∧ r.client.temp[id]?.bind Value.dictionary? = some copy) := by
    rcases hcell with ⟨hne, rfl⟩ | ⟨hempty, rfl⟩
    · obtain ⟨-, hids⟩ := (UserDefaults.bind_getElem?_insert_of_none rfl).1 hids
      simp only [UserDefaults.getElem?_insert, if_true, Option.bind_some, Value.strings?_strings,
        Option.some.injEq] at hids
      subst hids
      obtain rfl := Option.some.inj (hid.symm.trans hid')
      simp only [UserDefaults.getElem?_insert, if_true, Option.bind_some,
        Value.dictionary?_dictionary, Option.some.injEq] at hcopy
      exact ⟨rfl, rfl, .inl ⟨hne, hcopy.symm⟩⟩
    · simp only [UserDefaults.getElem?_insert, if_true, Option.bind_some, Value.strings?_strings,
        Option.some.injEq] at hids
      subst hids
      obtain rfl := Option.some.inj (hid.symm.trans hid')
      obtain ⟨-, hcopy⟩ := (UserDefaults.bind_getElem?_insert_of_none rfl).1 hcopy
      exact ⟨rfl, rfl, .inr ⟨hempty, hcopy⟩⟩
  have hvalid : IsDocumentID id' := hr.addressed .students id'
    (Std.ExtTreeMap.mem_keys.1 (List.mem_of_getElem? hid))
  have hstored (data : List (String × FieldValue)) :
      Write.applyAll r.client.db (d₁.writes ++ [.setAt .students id' data]) .students =
        r.students.override id' data := by
    rw [hwrites, List.nil_append, Write.setAt_of_isDocumentID hvalid]
    exact Write.apply_setData r.client.db .students id' data
  refine ⟨Proper.move hr (hr.addressed.applyAll ?_), id', document, copy, hid, hdocument, ?_,
    EditInfoStudentViewController.currentStudent { form with ID := opened.1.ID } statusIsOn, _,
    hopened, hstored _⟩
  · rw [hwrites]
    simpa [Write.document, Write.setAt] using hpath.isDocumentID .students
  · rw [hname, ne_eq, Option.some.injEq]
    exact hcopy

end Registry

section

variable {uppercased : String → String} {r t : Registry} {students students' : Collection}

/-- Storing a student keeps the IDs unique if no other student has its ID. -/
theorem UniqueIDs.override (h : UniqueIDs students) {id : String} {student : Student}
    {status : String} (hfree : student.ID ≠ "" → students.OnlyAt id (Document.Carries "ID" student.ID)) :
    UniqueIDs (students.override id (student.data status)) := by
  intro ID hne
  refine (h ID hne).insert fun hID => ?_
  obtain rfl : student.ID = ID := by simpa [Document.Carries, Student.data, Document.merge_cons] using hID
  exact hfree hne

end

namespace Sample

def enrolled (name ID : String) : StudentForm where
  name := name
  birthday := "01-01-2000"
  gender := "Other"
  ID := ID
  address := "An address"
  email := "An e-mail"
  startedDay := "01-09-2018"

end Sample

end LibraryManagement
