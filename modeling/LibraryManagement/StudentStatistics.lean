import LibraryManagement.Screens.StatisticsTheorems
import LibraryManagement.StudentIDs

/-!
# Active and disabled students

The statistics take every student without the status `"1"` for disabled. Three writers store a
status: a new student, a placeholder that is filled in, and an edit. Each stores `"1"` or `"0"`,
so that the screen's numbers partition the students in every state reached.
-/

namespace LibraryManagement

open Transition

/-- What changes the students: a new student under a generated id, a new student in place of a
listed one, and the confirm of an edit-student screen of some client. -/
inductive StudentChange
  | insert (student : Student) (autoID : String)
  | fillIn (form : StudentForm) (ID : String)
  | edit (temp : UserDefaults) (form : StudentForm) (statusIsOn : Bool)

namespace StudentChange

/-- The student the edit-student screen was opened for. -/
def currentID (temp : UserDefaults) : Option String :=
  (temp["ID_current_student"]?.bind Value.string?).bind CollectionName.students.id?

/-- The database after a handler of a client with these entries. -/
def perform (db : Database) (temp : UserDefaults) (h : Handler Unit) : Option Database :=
  (Client.perform ⟨temp, db⟩ h).map Client.db

/-- A generated id is one the collection does not have yet. Only students that exist are edited
or filled in. -/
def step (uppercased : String → String) (db : Database) : StudentChange → Option Database
  | .insert student autoID =>
    if autoID ∈ db .students then none else perform db ∅ (student.insertNewStudent autoID)
  | .fillIn form ID =>
    if ∃ id ∈ CollectionName.students.id? ID, id ∈ db .students then
      perform db ∅ ((AddStudentsViewController.newStudent uppercased form).updateDetail ID)
    else none
  | .edit temp form statusIsOn =>
    if ∃ id ∈ currentID temp, id ∈ db .students then
      perform db temp (EditInfoStudentViewController.confirmAction form statusIsOn)
    else none

/-- What the status switch stands for. -/
def shownStatus (statusIsOn : Bool) : String := if statusIsOn then "1" else "0"

/-! ## What is to hold -/

/-- The screen shows the number of students and those of the active and the disabled ones, which
add up, and the helper agrees. -/
structure Partitioned (students : Collection) : Prop where
  labels : ∀ d, StatisticStudentsViewController.viewDidLoad students d =
    .ok (Swift.description students.size, Swift.description (withStatus "1" students),
      Swift.description (withStatus "0" students)) d
  total : withStatus "1" students + withStatus "0" students = students.size
  helper : ∀ d, StatisticStudentsViewController.availableStudents (students.toList.map Prod.snd) d =
    .ok (withStatus "1" students) d

/-- How a change moves the numbers. An edit moves one student if it flips the status. -/
def Moves (students students' : Collection) : StudentChange → Prop
  | .insert _ _ => students'.size = students.size + 1 ∧
    withStatus "1" students' = withStatus "1" students + 1 ∧
      withStatus "0" students' = withStatus "0" students
  | .fillIn _ _ => students'.size = students.size
  | .edit temp _ statusIsOn => ∀ id ∈ currentID temp, ∀ document ∈ students[id]?,
    students'.size = students.size ∧
      (document.Carries "status" (shownStatus statusIsOn) →
        withStatus "1" students' = withStatus "1" students ∧
          withStatus "0" students' = withStatus "0" students) ∧
      (¬ document.Carries "status" (shownStatus statusIsOn) →
        if statusIsOn then
          withStatus "1" students' = withStatus "1" students + 1 ∧
            withStatus "0" students = withStatus "0" students' + 1
        else
          withStatus "1" students = withStatus "1" students' + 1 ∧
            withStatus "0" students' = withStatus "0" students + 1)

/-- Every student is active or disabled. -/
def ActiveOrDisabled (students : Collection) : Prop :=
  ∀ (id : String) (document : Document), students[id]? = some document →
    document.Carries "status" "1" ∨ document.Carries "status" "0"

variable {uppercased : String → String} {db db' : Database} {students : Collection}

/-! ## What a change stores -/

/-- The status that is stored with the other fields of a student. -/
theorem carries_data {student : Student} {document : Document} {status status' : String} :
    (document.merge (student.data status)).Carries "status" status' ↔ status = status' := by
  simp [Document.Carries, Student.data, Document.merge_cons]

theorem perform_eq_some {temp : UserDefaults} {h : Handler Unit} :
    perform db temp h = some db' ↔ ∃ d, h ⟨temp, []⟩ = .ok () d ∧ db' = Write.applyAll db d.writes := by
  simp only [perform, Option.map_eq_some_iff, Client.perform_eq_some]
  constructor
  · rintro ⟨c, ⟨d, hd, rfl⟩, rfl⟩
    exact ⟨d, hd, rfl⟩
  · rintro ⟨d, hd, rfl⟩
    exact ⟨_, ⟨d, hd, rfl⟩, rfl⟩

theorem step_insert {student : Student} {autoID : String}
    (h : step uppercased db (.insert student autoID) = some db') :
    autoID ∉ db .students ∧
      db' .students = (db .students).insert autoID (Document.merge ∅ (student.data "1")) := by
  obtain ⟨hnew, hperform⟩ := Option.ite_none_left_eq_some.1 h
  obtain ⟨d, hd, rfl⟩ := perform_eq_some.1 hperform
  obtain rfl := Student.insertNewStudent_eq_ok.1 hd
  refine ⟨hnew, ?_⟩
  simp [Write.apply_apply, Write.collection, Write.applyTo]

theorem step_fillIn {form : StudentForm} {ID : String}
    (h : step uppercased db (.fillIn form ID) = some db') :
    ∃ id ∈ db .students, db' .students = (db .students).override id
      ((AddStudentsViewController.newStudent uppercased form).data "1") := by
  obtain ⟨⟨id, hid, hold⟩, hperform⟩ := Option.ite_none_right_eq_some.1 h
  obtain ⟨d, hd, rfl⟩ := perform_eq_some.1 hperform
  obtain ⟨-, rfl⟩ := Student.updateDetail_eq_ok.1 hd
  refine ⟨id, hold, ?_⟩
  rw [List.nil_append, Write.applyAll_cons, Write.applyAll_nil, Write.apply_setAt,
    Database.overrideAt, hid]
  rfl

theorem step_edit {temp : UserDefaults} {form : StudentForm} {statusIsOn : Bool}
    (h : step uppercased db (.edit temp form statusIsOn) = some db') :
    ∃ id, currentID temp = some id ∧ id ∈ db .students ∧ db' .students = (db .students).override id
      ((EditInfoStudentViewController.currentStudent form statusIsOn).data (shownStatus statusIsOn)) := by
  obtain ⟨⟨id, hid, hold⟩, hperform⟩ := Option.ite_none_right_eq_some.1 h
  obtain ⟨d, hd, rfl⟩ := perform_eq_some.1 hperform
  obtain ⟨ID, hID, -, rfl⟩ := EditInfoStudentViewController.confirmAction_eq_ok.1 hd
  refine ⟨id, hid, hold, ?_⟩
  rw [Option.mem_def, currentID, hID, Option.bind_some] at hid
  rw [List.nil_append, Write.applyAll_cons, Write.applyAll_nil, Write.apply_setAt,
    Database.overrideAt, hid]
  cases statusIsOn <;> rfl

/-! ## The numbers -/

/-- Overriding a document replaces its status in the count. -/
theorem withStatus_override {id : String} {document : Document}
    (hid : students[id]? = some document) (status stored : String) (student : Student) :
    withStatus status (students.override id (student.data stored)) +
        (if document.Carries "status" status then 1 else 0) =
      withStatus status students + if stored = status then 1 else 0 := by
  have hcount := Std.ExtTreeMap.countValues_insert_of_some
    (fun document : Document => document.Carries "status" status)
    (((students[id]?).getD ∅).merge (student.data stored)) hid
  simp only [decide_eq_true_eq, carries_data] at hcount
  exact hcount

theorem size_override {id : String} {data : List (String × FieldValue)} (hid : id ∈ students) :
    (students.override id data).size = students.size := by
  rw [Collection.override, Std.ExtTreeMap.size_insert, if_pos (Std.ExtTreeMap.mem_iff_contains.1 hid)]

/-- A document under a new id is counted if it has the status. -/
theorem withStatus_insert {id status stored : String} {student : Student} (hid : id ∉ students) :
    withStatus status (students.insert id (Document.merge ∅ (student.data stored))) =
      withStatus status students + if stored = status then 1 else 0 := by
  have hcount := Std.ExtTreeMap.countValues_insert_of_none
    (fun document : Document => document.Carries "status" status)
    (Document.merge ∅ (student.data stored)) (Std.ExtTreeMap.getElem?_eq_none hid)
  simp only [decide_eq_true_eq, carries_data] at hcount
  exact hcount

theorem size_insert_of_notMem {id : String} {document : Document} (hid : id ∉ students) :
    (students.insert id document).size = students.size + 1 := by
  rw [Std.ExtTreeMap.size_insert, if_neg fun hcontains => hid (Std.ExtTreeMap.mem_iff_contains.2 hcontains)]

/-- No student is active and disabled. -/
theorem not_disabled_of_active {document : Document} (hone : document.Carries "status" "1") :
    ¬ document.Carries "status" "0" := by
  intro hzero
  have hsame : "1" = "0" := Option.some.inj (hone.symm.trans hzero)
  revert hsame
  decide

/-- Students that are active or disabled are as many as both kinds together. -/
theorem ActiveOrDisabled.total (h : ActiveOrDisabled students) :
    withStatus "1" students + withStatus "0" students = students.size := by
  have hdisabled : withStatus "0" students =
      students.toList.countP fun entry => ¬ decide (entry.2.Carries "status" "1") := by
    refine List.countP_congr fun entry hentry => ?_
    have hstored := Std.ExtTreeMap.mem_toList_iff_getElem?_eq_some.1 hentry
    have hexclusive : entry.2.Carries "status" "0" ↔ ¬ entry.2.Carries "status" "1" := by
      constructor
      · exact fun hzero hone => not_disabled_of_active hone hzero
      · exact (h entry.1 entry.2 hstored).resolve_left
    simpa using hexclusive
  rw [hdisabled, ← Std.ExtTreeMap.length_toList]
  exact (List.length_eq_countP_add_countP _).symm

/-! ## One change -/

theorem activeOrDisabled_empty : ActiveOrDisabled (Database.empty .students) := by
  intro id document hdocument
  simp [Database.empty] at hdocument

/-- A write that stores one of the two statuses keeps every student active or disabled. -/
theorem ActiveOrDisabled.insert (h : ActiveOrDisabled students) {id stored : String}
    {document : Document} {student : Student} (hstored : stored = "1" ∨ stored = "0") :
    ActiveOrDisabled (students.insert id (document.merge (student.data stored))) := by
  refine Std.ExtTreeMap.forall_getElem?_insert ?_ fun id' document' _ hdocument' =>
    h id' document' hdocument'
  rcases hstored with rfl | rfl
  · exact .inl (carries_data.2 rfl)
  · exact .inr (carries_data.2 rfl)

theorem activeOrDisabled_step {e : StudentChange} (hdb : ActiveOrDisabled (db .students))
    (h : step uppercased db e = some db') : ActiveOrDisabled (db' .students) := by
  cases e with
  | insert student autoID =>
    rw [(step_insert h).2]
    exact hdb.insert (.inl rfl)
  | fillIn form ID =>
    obtain ⟨id, -, hstudents⟩ := step_fillIn h
    rw [hstudents]
    exact hdb.insert (.inl rfl)
  | edit temp form statusIsOn =>
    obtain ⟨id, -, -, hstudents⟩ := step_edit h
    rw [hstudents]
    refine hdb.insert ?_
    cases statusIsOn
    · exact .inr rfl
    · exact .inl rfl

/-- An edit exchanges the stored status for the one the switch shows. -/
theorem moves_edit {temp : UserDefaults} {form : StudentForm} {statusIsOn : Bool}
    (hdb : ActiveOrDisabled (db .students))
    (h : step uppercased db (.edit temp form statusIsOn) = some db') :
    Moves (db .students) (db' .students) (.edit temp form statusIsOn) := by
  obtain ⟨id, hcurrent, hid, hstudents⟩ := step_edit h
  intro id' hid' document hdocument
  obtain rfl : id = id' := Option.some.inj (hcurrent.symm.trans hid')
  have hactive := withStatus_override hdocument "1" (shownStatus statusIsOn)
    (EditInfoStudentViewController.currentStudent form statusIsOn)
  have hdisabled := withStatus_override hdocument "0" (shownStatus statusIsOn)
    (EditInfoStudentViewController.currentStudent form statusIsOn)
  rw [← hstudents] at hactive hdisabled
  refine ⟨by rw [hstudents, size_override hid], ?_⟩
  -- The student was active or disabled, and is what the switch says now.
  rcases hdb id document hdocument with hone | hzero
  · have hzero : ¬ document.Carries "status" "0" := not_disabled_of_active hone
    rw [if_pos hone] at hactive
    rw [if_neg hzero] at hdisabled
    cases statusIsOn with
    | true =>
      simp only [shownStatus, if_true, String.reduceEq, if_false] at hactive hdisabled ⊢
      exact ⟨fun _ => ⟨by omega, by omega⟩, fun hother => absurd hone hother⟩
    | false =>
      simp only [shownStatus, Bool.false_eq_true, if_true, String.reduceEq, if_false]
        at hactive hdisabled ⊢
      exact ⟨fun hsame => absurd hsame hzero, fun _ => ⟨by omega, by omega⟩⟩
  · have hone : ¬ document.Carries "status" "1" := fun hone => not_disabled_of_active hone hzero
    rw [if_neg hone] at hactive
    rw [if_pos hzero] at hdisabled
    cases statusIsOn with
    | true =>
      simp only [shownStatus, if_true, String.reduceEq, if_false] at hactive hdisabled ⊢
      exact ⟨fun hsame => absurd hsame hone, fun _ => ⟨by omega, by omega⟩⟩
    | false =>
      simp only [shownStatus, Bool.false_eq_true, if_true, String.reduceEq, if_false]
        at hactive hdisabled ⊢
      exact ⟨fun _ => ⟨by omega, by omega⟩, fun hother => absurd hzero hother⟩

theorem moves_step {e : StudentChange} (hdb : ActiveOrDisabled (db .students))
    (h : step uppercased db e = some db') : Moves (db .students) (db' .students) e := by
  cases e with
  | insert student autoID =>
    obtain ⟨hnew, hstudents⟩ := step_insert h
    rw [hstudents]
    exact ⟨size_insert_of_notMem hnew, withStatus_insert hnew, withStatus_insert hnew⟩
  | fillIn form ID =>
    obtain ⟨id, hid, hstudents⟩ := step_fillIn h
    rw [hstudents]
    exact size_override hid
  | edit temp form statusIsOn => exact moves_edit hdb h

/-- The three numbers of active or disabled students, whose number is that of an array. -/
theorem partitioned_of_activeOrDisabled (h : ActiveOrDisabled students)
    (hsize : Swift.InInt students.size) : Partitioned students := by
  have hstatus : ∀ (id : String) (document : Document), students[id]? = some document →
      ∃ status, document.Carries "status" status := by
    intro id document hdocument
    rcases h id document hdocument with hone | hzero
    · exact ⟨"1", hone⟩
    · exact ⟨"0", hzero⟩
  refine ⟨fun d => ?_, h.total, fun d => ?_⟩
  · have hrest : (students.size - withStatus "1" students : ℤ) = withStatus "0" students := by
      have htotal := h.total
      omega
    rw [StatisticStudentsViewController.viewDidLoad_eq hstatus hsize, hrest]
  · exact StatisticStudentsViewController.availableStudents_eq_count hstatus hsize

end StudentChange

/-! ## Every run -/

/-- In every state reached the numbers of the screen are those of the active and the disabled
students, and every change moves them as it is to. -/
theorem partitioned_of_run {uppercased : String → String} {es : List StudentChange} {db : Database}
    (h : Run (Steps (StudentChange.step uppercased)) Database.empty es db)
    (hsize : Swift.InInt (db .students).size) :
    StudentChange.Partitioned (db .students) ∧
      ∀ e db', StudentChange.step uppercased db e = some db' →
        StudentChange.Moves (db .students) (db' .students) e := by
  have hdb : StudentChange.ActiveOrDisabled (db .students) :=
    h.invariant (fun db => StudentChange.ActiveOrDisabled (db .students))
      StudentChange.activeOrDisabled_empty
      fun _ _ _ hdb hstep => StudentChange.activeOrDisabled_step hdb hstep
  exact ⟨StudentChange.partitioned_of_activeOrDisabled hdb hsize,
    fun e db' hstep => StudentChange.moves_step hdb hstep⟩

namespace Sample

/-- Two students, the second of them disabled. -/
def secondDisabled : Reached (Steps (StudentChange.step Swift.asciiUppercased)) Database.empty :=
  let first := Reached.start.take (.insert { name := "AN", ID := "1712001" } "S1") (by decide +kernel)
  let second := first.take (.insert { name := "BINH", ID := "1712002" } "S2") (by decide +kernel)
  second.take (.edit ((∅ : UserDefaults).insert "ID_current_student" (.string "S2"))
    (enrolled "BINH" "1712002") false) (by decide +kernel)

end Sample

theorem partitioned_secondDisabled : withStatus "0" (Sample.secondDisabled.state .students) = 1 ∧
    StudentChange.Partitioned (Sample.secondDisabled.state .students) :=
  ⟨by decide +kernel, (partitioned_of_run Sample.secondDisabled.run (by decide +kernel)).1⟩

end LibraryManagement
