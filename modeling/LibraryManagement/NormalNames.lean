import LibraryManagement.Screens.BooksTheorems
import LibraryManagement.StudentIDs

/-!
# Names in normal form

The duplicate test compares names, and the screens are to store them uppercased. Each handler
that stores a name does this by hand. The handlers of any clients run here in any order, every
one with the `UserDefaults` of its client, whatever these hold by then.
-/

namespace LibraryManagement

open Handler Transition

/-- The database, with what the confirms of new books and students left behind. -/
structure Writers where
  db : Database
  adding : List AddBooksViewController.Adding
  /-- The listeners of new students, with the ids of their documents. -/
  listeners : List (StudentForm × String)

def Writers.empty : Writers := ⟨Database.empty, [], []⟩

inductive NameStep
  | confirmBook (temp : UserDefaults) (form : BookForm)
  /-- The next block of the confirm of a new book, when the form shows `shown`. -/
  | block (temp : UserDefaults) (n : ℕ) (shown : BookForm)
  | editBook (temp : UserDefaults) (form : BookForm)
  | confirmStudent (temp : UserDefaults) (form : StudentForm) (autoID : String)
  | delivery (temp : UserDefaults) (n : ℕ) (autoID : String) (snapshot : Option Document)
  | editStudent (temp : UserDefaults) (form : StudentForm) (statusIsOn : Bool)

namespace Writers

/-- The result of a handler of a client with these entries, with its writes in effect. -/
def run {α : Type} (r : Writers) (temp : UserDefaults) (h : Handler α) : Option (α × Writers) :=
  (Client.run ⟨temp, r.db⟩ h).map fun (a, c) => (a, { r with db := c.db })

def step (uppercased : String → String) (r : Writers) : NameStep → Option Writers
  | .confirmBook temp form =>
    (r.run temp (AddBooksViewController.confirmButton uppercased form)).map fun (book, r) =>
      match book with
      | some book => { r with adding := r.adding ++ [⟨book, .check, []⟩] }
      | none => r
  | .block temp n shown => r.adding[n]?.bind fun a =>
    (r.run temp (a.block shown)).map fun (a, r) => { r with adding := r.adding.set n a }
  | .editBook temp form =>
    (r.run temp (EditInfoBookViewController.confirmButton uppercased form)).map Prod.snd
  | .confirmStudent temp form autoID =>
    (r.run temp (AddStudentsViewController.confirmButton uppercased form autoID)).map
      fun (waiting, r) => match waiting with
        | .listener id => { r with listeners := r.listeners ++ [(form, id)] }
        | .answers _ => r
  | .delivery temp n autoID snapshot => r.listeners[n]?.bind fun (form, id) =>
    (r.run temp (AddStudentsViewController.listenerDelivery
      (AddStudentsViewController.newStudent uppercased form) id autoID snapshot)).map Prod.snd
  | .editStudent temp form statusIsOn =>
    (r.run temp (EditInfoStudentViewController.confirmAction form statusIsOn)).map Prod.snd

/-! ## What is to hold -/

/-- Some document of the collection has this name. -/
def Stored (docs : Collection) (name : String) : Prop := docs.Has (Document.Carries "name" name)

/-- Stored names are their own uppercased forms, so that equal names are names that are equal up
to uppercasing. -/
structure NormalNames (uppercased : String → String) (docs : Collection) : Prop where
  normal : ∀ name, Stored docs name → uppercased name = name
  equality : ∀ name name', Stored docs name → Stored docs name' →
    (uppercased name = uppercased name' ↔ name = name')

/-- The condition on a step: an edit of a student has a name that is its own uppercased form. -/
def KeepsNormal (uppercased : String → String) (_ : Writers) : NameStep → Prop
  | .editStudent _ form _ => uppercased form.name = form.name
  | _ => True

instance (uppercased : String → String) (r : Writers) : DecidablePred (r.KeepsNormal uppercased)
  | .editStudent _ form _ => inferInstanceAs (Decidable (uppercased form.name = form.name))
  | .confirmBook _ _ => inferInstanceAs (Decidable True)
  | .block _ _ _ => inferInstanceAs (Decidable True)
  | .editBook _ _ => inferInstanceAs (Decidable True)
  | .confirmStudent _ _ _ => inferInstanceAs (Decidable True)
  | .delivery _ _ _ _ => inferInstanceAs (Decidable True)

end Writers

/-! ## Writes -/

/-- A field of a merged document is one of the new fields, or was there before. -/
theorem Document.getElem?_merge_cases {document : Document} {data : List (String × FieldValue)}
    {field : String} {v : FieldValue} (h : (document.merge data)[field]? = some v) :
    (field, v) ∈ data ∨ document[field]? = some v := by
  induction data generalizing document with
  | nil => exact .inr h
  | cons entry data ih =>
    rw [merge_cons] at h
    rcases ih h with hmem | hrest
    · exact .inl (List.mem_cons_of_mem _ hmem)
    · rw [getElem?_insert] at hrest
      split at hrest
      · next heq =>
        obtain rfl := Option.some.inj hrest
        exact .inl (heq ▸ List.mem_cons_self)
      · exact .inr hrest

/-- The fields a write stores. -/
def Write.data : Write → List (String × FieldValue)
  | .setData _ _ data => data
  | .addDocument _ _ data => data
  | .updateData _ _ data => data

variable {uppercased : String → String}

/-- A name that a write stores is its own uppercased form. -/
def Write.Normal (uppercased : String → String) (w : Write) : Prop :=
  ∀ name, ("name", .string name) ∈ w.data → uppercased name = name

/-- Every stored name is its own uppercased form. -/
def Normal (uppercased : String → String) (db : Database) : Prop :=
  ∀ c name, Writers.Stored (db c) name → uppercased name = name

theorem normal_empty : Normal uppercased Database.empty := by
  rintro c name ⟨id, document, hdocument, -⟩
  simp [Database.empty] at hdocument

/-- Merging data into a document stores the names there were, and those of the data. -/
theorem Writers.stored_insert {docs : Collection} {id name : String} {document : Document}
    {data : List (String × FieldValue)} (hdocument : document.Carries "name" name → Stored docs name)
    (h : Stored (docs.insert id (document.merge data)) name) :
    Stored docs name ∨ ("name", .string name) ∈ data := by
  obtain ⟨a, stored, hstored, hname⟩ := h
  rw [Collection.getElem?_insert] at hstored
  split at hstored
  · obtain rfl := Option.some.inj hstored
    obtain ⟨v, hv, hstring⟩ := Option.bind_eq_some_iff.1 hname
    obtain rfl := FieldValue.string?_eq_some.1 hstring
    rcases Document.getElem?_merge_cases hv with hmem | hold
    · exact .inr hmem
    · exact .inl (hdocument (by rw [Document.Carries, Document.string?, hold]; rfl))
  · exact .inl ⟨a, stored, hstored, hname⟩

theorem Writers.stored_override {docs : Collection} {id name : String}
    {data : List (String × FieldValue)} (h : Stored (docs.override id data) name) :
    Stored docs name ∨ ("name", .string name) ∈ data := by
  refine stored_insert (fun hname => ?_) h
  cases hid : docs[id]? with
  | none => simp [hid, Document.Carries, Document.string?] at hname
  | some document => exact ⟨id, document, hid, by simpa [hid] using hname⟩

theorem Write.stored_applyTo {docs : Collection} {w : Write} {name : String}
    (h : Writers.Stored (w.applyTo docs) name) :
    Writers.Stored docs name ∨ ("name", .string name) ∈ w.data := by
  cases w with
  | setData c id data => exact Writers.stored_override h
  | addDocument c id data =>
    exact Writers.stored_insert (fun hname => by simp [Document.Carries, Document.string?] at hname) h
  | updateData c id data =>
    simp only [applyTo] at h
    split at h
    · exact Writers.stored_override h
    · exact .inl h

theorem Normal.apply {db : Database} {w : Write} (hdb : Normal uppercased db)
    (hw : w.Normal uppercased) : Normal uppercased (Write.apply db w) := by
  intro c name hname
  rw [Write.apply_apply] at hname
  split at hname
  · rcases Write.stored_applyTo hname with hold | hnew
    · exact hdb c name hold
    · exact hw name hnew
  · exact hdb c name hname

theorem Normal.applyAll {db : Database} {ws : List Write} (hdb : Normal uppercased db)
    (hws : ∀ w ∈ ws, w.Normal uppercased) : Normal uppercased (Write.applyAll db ws) := by
  induction ws generalizing db with
  | nil => exact hdb
  | cons w ws ih =>
    exact ih (hdb.apply (hws w List.mem_cons_self)) fun w hw => hws w (List.mem_cons_of_mem _ hw)

/-! ## What the handlers store -/

namespace Writers

variable {r t : Writers} {temp : UserDefaults}

theorem run_eq_some {α : Type} {h : Handler α} {a : α} :
    r.run temp h = some (a, t) ↔
      ∃ d, h ⟨temp, []⟩ = .ok a d ∧ t = { r with db := Write.applyAll r.db d.writes } := by
  rw [run, Client.map_run_eq_some]
  constructor
  · rintro ⟨a', d, hd, heq⟩
    obtain ⟨rfl, rfl⟩ := Prod.mk.inj heq
    exact ⟨d, hd, rfl⟩
  · rintro ⟨d, hd, rfl⟩
    exact ⟨a, d, hd, rfl⟩

/-- Stored names are normal, and so are the names of the new books that are still to be stored. -/
structure AllNormal (uppercased : String → String) (r : Writers) : Prop where
  db : Normal uppercased r.db
  adding : ∀ a ∈ r.adding, uppercased a.book.name = a.book.name

theorem allNormal_empty : Writers.empty.AllNormal uppercased where
  db := normal_empty
  adding := by
    intro a ha
    cases ha

/-- A book with a normal name has normal data. -/
theorem normal_setData_newData {c : CollectionName} {id : String} {book : Book}
    (h : uppercased book.name = book.name) :
    (Write.setData c id book.newData).Normal uppercased := by
  intro name hname
  simp only [Write.data, Book.newData, List.mem_cons, Prod.mk.injEq, FieldValue.string.injEq,
    String.reduceEq, false_and, true_and, or_false, false_or, List.not_mem_nil] at hname
  rw [hname, h]

theorem normal_setData_detail {c : CollectionName} {id : String} {book : Book}
    (h : uppercased book.name = book.name) :
    (Write.setData c id book.detail).Normal uppercased := by
  intro name hname
  simp only [Write.data, Book.detail, List.mem_cons, Prod.mk.injEq, FieldValue.string.injEq,
    String.reduceEq, false_and, true_and, or_false, false_or, List.not_mem_nil] at hname
  rw [hname, h]

/-- Only the name of a student's data is a name. -/
theorem mem_student_data {student : Student} {status name : String}
    (h : ("name", FieldValue.string name) ∈ student.data status) : name = student.name := by
  simpa [Student.data] using h

/-- Writes of normal names keep all names normal. -/
theorem AllNormal.write {ws : List Write} (hr : r.AllNormal uppercased)
    (hws : ∀ w ∈ ws, w.Normal uppercased) :
    AllNormal uppercased { r with db := Write.applyAll r.db ws } :=
  ⟨hr.db.applyAll hws, hr.adding⟩

/-- The new student of a form has a normal name. -/
theorem normal_newStudent (hup : ∀ s, uppercased (uppercased s) = uppercased s) {w : Write}
    {form : StudentForm}
    (hw : w.data = (AddStudentsViewController.newStudent uppercased form).data "1") :
    w.Normal uppercased := by
  intro name hname
  rw [hw] at hname
  rw [mem_student_data hname]
  exact hup form.name

theorem allNormal_confirmBook (hup : ∀ s, uppercased (uppercased s) = uppercased s)
    {form : BookForm} (hr : r.AllNormal uppercased)
    (h : r.step uppercased (.confirmBook temp form) = some t) : t.AllNormal uppercased := by
  obtain ⟨⟨book, r'⟩, hrun, rfl⟩ := Option.map_eq_some_iff.1 h
  obtain ⟨d, hd, rfl⟩ := run_eq_some.1 hrun
  rcases AddBooksViewController.confirmButton_eq_ok.1 hd with
    ⟨-, rfl, rfl⟩ | ⟨-, quantity, -, rfl, rfl⟩
  · exact hr
  · refine ⟨hr.db, fun a ha => ?_⟩
    rcases List.mem_append.1 ha with hold | hnew
    · exact hr.adding a hold
    · obtain rfl := List.mem_singleton.1 hnew
      exact hup form.bookname

/-- A block stores at most the book of its confirm, or a cover. -/
theorem allNormal_block {n : ℕ} {shown : BookForm} (hr : r.AllNormal uppercased)
    (h : r.step uppercased (.block temp n shown) = some t) : t.AllNormal uppercased := by
  obtain ⟨a, ha, hstep⟩ := Option.bind_eq_some_iff.1 h
  obtain ⟨⟨a', r'⟩, hrun, rfl⟩ := Option.map_eq_some_iff.1 hstep
  obtain ⟨d, hd, rfl⟩ := run_eq_some.1 hrun
  have hname : uppercased a.book.name = a.book.name := hr.adding a (List.mem_of_getElem? ha)
  -- No block changes the name of its book, and only one of them stores it.
  have hblock : a'.book = a.book ∧ ∀ w ∈ d.writes, w.Normal uppercased := by
    have hcases := AddBooksViewController.Adding.block_ok hd
    cases hnext : a.next <;> simp only [hnext] at hcases
    case check =>
      obtain ⟨ids, -, rfl, rfl⟩ := hcases
      exact ⟨rfl, by simp⟩
    case readFlag =>
      obtain ⟨flag, -, rfl, rfl⟩ := hcases
      exact ⟨rfl, by simp⟩
    case save =>
      obtain ⟨-, rfl, rfl⟩ := hcases
      refine ⟨rfl, fun w hw => ?_⟩
      obtain rfl := List.mem_singleton.1 hw
      exact normal_setData_newData hname
    case updateData =>
      obtain ⟨-, rfl, rfl⟩ := hcases
      refine ⟨rfl, fun w hw => ?_⟩
      obtain rfl := List.mem_singleton.1 hw
      intro name hcover
      simp [Write.updateAt, Write.data] at hcover
    case finished =>
      obtain ⟨rfl, rfl⟩ := hcases
      exact ⟨rfl, by simp⟩
  refine ⟨(hr.write hblock.2).db, fun b hb => ?_⟩
  rcases List.mem_or_eq_of_mem_set hb with hold | rfl
  · exact hr.adding b hold
  · rw [hblock.1]
    exact hname

theorem allNormal_editBook (hup : ∀ s, uppercased (uppercased s) = uppercased s) {form : BookForm}
    (hr : r.AllNormal uppercased) (h : r.step uppercased (.editBook temp form) = some t) :
    t.AllNormal uppercased := by
  obtain ⟨⟨_, r'⟩, hrun, rfl⟩ := Option.map_eq_some_iff.1 h
  obtain ⟨d, hd, rfl⟩ := run_eq_some.1 hrun
  obtain ⟨ID, document, avatarURL, check, quantity, -, -, -, -, -, -, rfl⟩ :=
    EditInfoBookViewController.confirmButton_eq_ok.1 hd
  refine hr.write fun w hw => ?_
  obtain rfl := List.mem_singleton.1 hw
  refine normal_setData_detail ?_
  rw [EditInfoBookViewController.currentBook_name]
  exact hup form.bookname

theorem allNormal_confirmStudent (hup : ∀ s, uppercased (uppercased s) = uppercased s)
    {form : StudentForm} {autoID : String} (hr : r.AllNormal uppercased)
    (h : r.step uppercased (.confirmStudent temp form autoID) = some t) :
    t.AllNormal uppercased := by
  obtain ⟨⟨waiting, r'⟩, hrun, rfl⟩ := Option.map_eq_some_iff.1 h
  obtain ⟨d, hd, rfl⟩ := run_eq_some.1 hrun
  obtain ⟨ids, -, ⟨⟨id, -, rfl⟩, rfl⟩ | ⟨-, rfl, hwrites⟩⟩ :=
    AddStudentsViewController.confirmButton_ok hd
  · exact ⟨hr.db, hr.adding⟩
  · refine hr.write fun w hw => ?_
    rw [hwrites] at hw
    obtain rfl := List.mem_singleton.1 hw
    exact normal_newStudent hup rfl

theorem allNormal_delivery (hup : ∀ s, uppercased (uppercased s) = uppercased s) {n : ℕ}
    {autoID : String} {snapshot : Option Document} (hr : r.AllNormal uppercased)
    (h : r.step uppercased (.delivery temp n autoID snapshot) = some t) :
    t.AllNormal uppercased := by
  obtain ⟨⟨form, id⟩, -, hstep⟩ := Option.bind_eq_some_iff.1 h
  obtain ⟨⟨_, r'⟩, hrun, rfl⟩ := Option.map_eq_some_iff.1 hstep
  obtain ⟨d, hd, rfl⟩ := run_eq_some.1 hrun
  refine hr.write fun w hw => ?_
  obtain ⟨-, rfl⟩ | ⟨-, -, ⟨-, -, hwrites⟩ | hwrites⟩ :=
    AddStudentsViewController.listenerDelivery_ok hd
  · cases hw
  · rw [hwrites] at hw
    obtain rfl := List.mem_singleton.1 hw
    exact normal_newStudent hup rfl
  · rw [hwrites] at hw
    obtain rfl := List.mem_singleton.1 hw
    exact normal_newStudent hup rfl

/-- An edited student has the name that was typed. -/
theorem allNormal_editStudent {form : StudentForm} {statusIsOn : Bool}
    (hr : r.AllNormal uppercased) (hname : uppercased form.name = form.name)
    (h : r.step uppercased (.editStudent temp form statusIsOn) = some t) :
    t.AllNormal uppercased := by
  obtain ⟨⟨_, r'⟩, hrun, rfl⟩ := Option.map_eq_some_iff.1 h
  obtain ⟨d, hd, rfl⟩ := run_eq_some.1 hrun
  obtain ⟨ID, -, -, rfl⟩ := EditInfoStudentViewController.confirmAction_eq_ok.1 hd
  refine hr.write fun w hw => ?_
  obtain rfl := List.mem_singleton.1 hw
  intro name hmem
  rw [mem_student_data hmem]
  exact hname

theorem allNormal_step (hup : ∀ s, uppercased (uppercased s) = uppercased s) {e : NameStep}
    (hr : r.AllNormal uppercased) (hkeeps : r.KeepsNormal uppercased e)
    (h : r.step uppercased e = some t) : t.AllNormal uppercased := by
  cases e with
  | confirmBook temp form => exact allNormal_confirmBook hup hr h
  | block temp n shown => exact allNormal_block hr h
  | editBook temp form => exact allNormal_editBook hup hr h
  | confirmStudent temp form autoID => exact allNormal_confirmStudent hup hr h
  | delivery temp n autoID snapshot => exact allNormal_delivery hup hr h
  | editStudent temp form statusIsOn => exact allNormal_editStudent hr hkeeps h

theorem AllNormal.normalNames (hr : r.AllNormal uppercased) (c : CollectionName) :
    NormalNames uppercased (r.db c) := by
  have hnormal : ∀ name, Stored (r.db c) name → uppercased name = name := hr.db c
  refine ⟨hnormal, fun name name' hname hname' => ?_⟩
  rw [hnormal name hname, hnormal name' hname']

end Writers

/-! ## Every run -/

/-- In every run in which the names of edited students are their own uppercased forms, so are all
stored names. -/
theorem normalNames_of_run {uppercased : String → String}
    (hup : ∀ s, uppercased (uppercased s) = uppercased s) {es : List NameStep} {r : Writers}
    (h : Run (Guarded (Writers.KeepsNormal uppercased) (Steps (Writers.step uppercased)))
      Writers.empty es r) :
    Writers.NormalNames uppercased (r.db .books) ∧ Writers.NormalNames uppercased (r.db .students) := by
  have hr : r.AllNormal uppercased := h.invariant (Writers.AllNormal uppercased)
    Writers.allNormal_empty fun _ _ _ hr hstep => Writers.allNormal_step hup hr hstep.1 hstep.2
  exact ⟨hr.normalNames .books, hr.normalNames .students⟩

namespace Sample

abbrev nameStep : Writers → NameStep → Option Writers := Writers.step Swift.asciiUppercased

/-- An edit-student screen of this student. -/
def newName (id : String) : UserDefaults := (∅ : UserDefaults).insert "ID_current_student" (.string id)

/-- A student is added and edited, and the name is typed in capitals. -/
def capitals : Reached (Guarded (Writers.KeepsNormal Swift.asciiUppercased) (Steps nameStep))
    Writers.empty :=
  let added := Reached.start.takeGuarded (.confirmStudent ((∅ : UserDefaults).insert "ID_students"
    (.strings [])) (enrolled "An" "1712001") "S1") trivial (by decide +kernel)
  added.takeGuarded (.editStudent (newName "S1") (enrolled "ANNA" "1712001") true)
    (show Swift.asciiUppercased "ANNA" = "ANNA" by decide +kernel) (by decide +kernel)

/-- The name is typed as usual. -/
def typed : Reached (Steps nameStep) Writers.empty :=
  let capitals : Reached (Steps nameStep) Writers.empty :=
    ⟨capitals.labels, capitals.state, capitals.run.of_guarded⟩
  capitals.take (.editStudent (newName "S1") (enrolled "Anna" "1712001") true) (by decide +kernel)

end Sample

theorem normalNames_capitals :
    Writers.NormalNames Swift.asciiUppercased (Sample.capitals.state.db .books) ∧
      Writers.NormalNames Swift.asciiUppercased (Sample.capitals.state.db .students) :=
  normalNames_of_run Swift.asciiUppercased_asciiUppercased Sample.capitals.run

/-- An edit stores the name as it was typed. -/
theorem normalNames_fails : ¬ ∀ (es : List NameStep) (r : Writers),
    Run (Steps (Writers.step Swift.asciiUppercased)) Writers.empty es r →
      Writers.NormalNames Swift.asciiUppercased (r.db .books) ∧
        Writers.NormalNames Swift.asciiUppercased (r.db .students) := by
  intro hall
  have hstored : Writers.Stored (Sample.typed.state.db .students) "Anna" := by
    have hhas : (Sample.typed.state.db .students).Has (Document.Carries "name" "Anna") := by
      decide +kernel
    exact hhas
  have hnormal := (hall _ _ Sample.typed.run).2.normal "Anna" hstored
  revert hnormal
  decide +kernel

end LibraryManagement
