import LibraryManagement.StudentIDs

/-!
# What one press of add-student stores

With one student listed the press registers a listener, which decides about the new student
when it is delivered first and stays registered. The state keeps what was handed to Firestore
on behalf of the press (`Press.written`), and whether the press was answered: it stored the
student at once, or a delivery brought a document to decide on.
-/

namespace LibraryManagement

open Handler Transition AddStudentsViewController

/-- The write adds a document under a generated id. -/
def Write.creates : Write → Bool
  | .addDocument _ _ _ => true
  | _ => false

/-- The client after a press. -/
structure Press where
  client : Client
  listener : Option Listener
  answered : Bool
  written : List Write

/-- A delivery to the listener, with the id a new document would get, or the confirm of an
edit-student screen of some client. -/
inductive PressStep
  | delivery (autoID : String)
  | edit (temp : UserDefaults) (form : StudentForm) (statusIsOn : Bool)

namespace Press

abbrev students (r : Press) : Collection := r.client.db .students

/-- The number of documents created on behalf of the press. -/
def created (r : Press) : ℕ := r.written.countP Write.creates

/-- The press: the client may have listed any students. -/
def press (uppercased : String → String) (c : Client) (form : StudentForm) (autoID : String) :
    Option Press :=
  if autoID ∈ c.db .students then none
  else (Traps.result? (confirmButton uppercased form autoID) ⟨c.temp, []⟩).map fun (waiting, d) =>
    match waiting with
    | .listener id => ⟨⟨d.temp, Write.applyAll c.db d.writes⟩,
        some ⟨form, id, [c.db.read .students id]⟩, false, d.writes⟩
    | .answers _ => ⟨⟨d.temp, Write.applyAll c.db d.writes⟩, none, true, d.writes⟩

/-- The students change, and the listener is notified if its document did. -/
def move (r : Press) (db : Database) : Press :=
  { r with
    client := { r.client with db := db }
    listener := r.listener.map (·.notify r.client.db db) }

/-- The first snapshot is taken from the listener. -/
def deliver (r : Press) (l : Listener) (snapshot : Option Document)
    (snapshots : List (Option Document)) (d : Device) : Press :=
  { r with
    listener := some { l with snapshots := snapshots }
    answered := r.answered || snapshot.isSome
    written := r.written ++ d.writes }

/-- A generated id is one the collection does not have yet. Only students that exist are edited. -/
def step (uppercased : String → String) (r : Press) : PressStep → Option Press
  | .delivery autoID =>
    if autoID ∈ r.students then none
    else r.listener.bind fun l => match l.snapshots with
      | [] => none
      | snapshot :: snapshots =>
        (Traps.result? (listenerDelivery (newStudent uppercased l.form) l.id autoID snapshot)
          ⟨r.client.temp, []⟩).map fun (_, d) =>
            (r.deliver l snapshot snapshots d).move (Write.applyAll r.client.db d.writes)
  | .edit temp form statusIsOn =>
    if ∀ id ∈ temp["ID_current_student"]?.bind Value.string?,
        (r.client.db.read .students id).isSome then
      (Traps.result? (EditInfoStudentViewController.confirmAction form statusIsOn) ⟨temp, []⟩).map
        fun (_, d) => r.move (Write.applyAll r.client.db d.writes)
    else none

/-! ## What is to hold -/

/-- A delivery after the press was answered stores nothing. -/
def AnsweredOnce (r t : Press) : PressStep → Prop
  | .delivery _ => r.answered = true → t.written = r.written
  | _ => True

/-- The fields an edit stores. -/
def editData (form : StudentForm) (statusIsOn : Bool) : List (String × FieldValue) :=
  (EditInfoStudentViewController.currentStudent form statusIsOn).data
    (Swift.description (EditInfoStudentViewController.currentStudent form statusIsOn).status)

/-- The condition on a step. A placeholder is filled in by a student with a name, and an edit of
the watched student leaves it with a name and the ID of the press; or it changes nothing. -/
def KeepsAnswer (uppercased : String → String) (r : Press) : PressStep → Prop
  | .delivery _ => ∀ l ∈ r.listener, ∀ data : Document, l.snapshots.head? = some (some data) →
    data.Carries "name" "" → uppercased l.form.name ≠ "" ∨
      Write.apply r.client.db (.setAt .students l.id ((newStudent uppercased l.form).data "1")) =
        r.client.db
  | .edit temp form statusIsOn => ∀ l ∈ r.listener,
    ∀ id ∈ temp["ID_current_student"]?.bind Value.string?,
      CollectionName.students.document id = CollectionName.students.document l.id →
        form.name ≠ "" ∧ form.ID = l.form.ID ∨
          Write.apply r.client.db (.setAt .students id (editData form statusIsOn)) = r.client.db

/-! ## What the listener will deliver -/

/-- A listener that was answered has only refusals left. Before, it has one snapshot to decide
on and refusals after it, or watches no student. -/
structure Watches (db : Database) (answered : Bool) (l : Listener) : Prop where
  refusals : answered = true → ∀ snapshot ∈ l.snapshots, Refuses l.form snapshot
  undecided : answered = false →
    (db.read .students l.id ≠ none ∧ ∃ (data : Document) (rest : List (Option Document)),
      l.snapshots = some data :: rest ∧ ∀ snapshot ∈ rest, Refuses l.form snapshot) ∨
      db.read .students l.id = none ∧ ∀ snapshot ∈ l.snapshots, snapshot = none

structure Once (r : Press) : Prop where
  created : r.created ≤ 1
  unanswered : r.answered = false → r.created = 0
  listener : ∀ l ∈ r.listener, Watches r.client.db r.answered l

variable {uppercased : String → String} {db db' : Database} {answered : Bool}
  {l : Listener} {r t : Press}

/-- A change of the watched student that adds a refusal, or none. -/
theorem Watches.notify (hl : Watches db answered l)
    (hnew : db'.read .students l.id = db.read .students l.id ∨
      (db.read .students l.id ≠ none ∧ db'.read .students l.id ≠ none) ∧
        Refuses l.form (db'.read .students l.id)) :
    Watches db' answered (l.notify db db') := by
  unfold Listener.notify
  split
  · next hsame => exact ⟨hl.refusals, by simpa only [hsame] using hl.undecided⟩
  · next hchanged =>
    obtain ⟨⟨hsome, hsome'⟩, hrefuses⟩ := hnew.resolve_left fun hsame => hchanged hsame.symm
    constructor
    · intro ha snapshot hsnapshot
      rcases List.mem_append.1 hsnapshot with hold | hlast
      · exact hl.refusals ha snapshot hold
      · rw [List.mem_singleton.1 hlast]
        exact hrefuses
    · intro ha
      obtain ⟨-, data, rest, hsnapshots, hrest⟩ :=
        (hl.undecided ha).resolve_right fun hnone => hsome hnone.1
      -- The new snapshot comes after the one that is still to be decided on.
      refine .inl ⟨hsome', data, rest ++ [db'.read .students l.id], by simp [hsnapshots], ?_⟩
      intro snapshot hsnapshot
      rcases List.mem_append.1 hsnapshot with hold | hlast
      · exact hrest snapshot hold
      · rw [List.mem_singleton.1 hlast]
        exact hrefuses

/-- After a delivery the remaining snapshots are refusals, or there was nothing to decide on. -/
theorem Watches.deliver {snapshot : Option Document} {snapshots : List (Option Document)}
    (hl : Watches db answered l) (hsnapshots : l.snapshots = snapshot :: snapshots) :
    Watches db (answered || snapshot.isSome) { l with snapshots := snapshots } := by
  cases answered with
  | true =>
    refine ⟨fun _ s hs => hl.refusals rfl s ?_, fun ha => by simp at ha⟩
    rw [hsnapshots]
    exact List.mem_cons_of_mem _ hs
  | false =>
    rcases hl.undecided rfl with ⟨-, data, rest, heq, hrest⟩ | ⟨hmem, hnone⟩
    · rw [hsnapshots] at heq
      obtain ⟨rfl, rfl⟩ := List.cons.inj heq
      exact ⟨fun _ => hrest, fun ha => by simp at ha⟩
    · obtain rfl : snapshot = none := hnone snapshot (by rw [hsnapshots]; exact List.mem_cons_self)
      refine ⟨fun ha => by simp at ha, fun _ => .inr ⟨hmem, fun s hs => hnone s ?_⟩⟩
      rw [hsnapshots]
      exact List.mem_cons_of_mem _ hs

/-- The listener is notified when one document is written: another one, or the watched student. -/
theorem Once.move (hr : r.Once) {w : Write}
    (hnew : ∀ l ∈ r.listener, w.document = CollectionName.students.document l.id →
      Write.apply r.client.db w = r.client.db ∨
        (r.client.db.read .students l.id ≠ none ∧
          (Write.apply r.client.db w).read .students l.id ≠ none) ∧
            Refuses l.form ((Write.apply r.client.db w).read .students l.id)) :
    (r.move (Write.apply r.client.db w)).Once := by
  refine ⟨hr.created, hr.unanswered, ?_⟩
  intro l hl
  obtain ⟨l, hwatched, rfl⟩ := Option.map_eq_some_iff.1 hl
  refine (hr.listener l hwatched).notify ?_
  show (Write.apply r.client.db w).read .students l.id = _ ∨ _
  by_cases hsame : w.document = CollectionName.students.document l.id
  · exact (hnew l hwatched hsame).imp_left fun hsame => by rw [hsame]
  · left
    rw [Write.read_apply, if_neg hsame]

/-- A stored student with a name refuses the press that stored it. -/
theorem refuses_newStudent {form : StudentForm} {document : Document}
    (hname : uppercased form.name ≠ "") :
    Refuses form (some (document.merge ((newStudent uppercased form).data "1"))) := by
  rintro data ⟨⟩
  simpa [Student.data, newStudent, Document.merge_cons] using hname

/-- Nothing is notified when nothing changes. -/
theorem move_self (r : Press) : r.move r.client.db = r := by
  have hlistener : r.listener.map (·.notify r.client.db r.client.db) = r.listener := by
    cases r.listener with
    | none => rfl
    | some l =>
      rw [Option.map_some, Listener.notify, if_pos rfl]
  show { r with listener := r.listener.map (·.notify r.client.db r.client.db) } = r
  rw [hlistener]

/-- The first snapshot is gone, and what its delivery wrote was counted. -/
theorem Once.deliver {snapshot : Option Document} {snapshots : List (Option Document)} {d : Device}
    (hr : r.Once) (hl : r.listener = some l) (hsnapshots : l.snapshots = snapshot :: snapshots)
    (hcreated : (r.deliver l snapshot snapshots d).created ≤ 1)
    (hnone : snapshot = none → d.writes = []) : (r.deliver l snapshot snapshots d).Once := by
  refine ⟨hcreated, ?_, ?_⟩
  · intro ha
    obtain ⟨hunanswered, hsnapshot⟩ := Bool.or_eq_false_iff.1 ha
    have hwrites : d.writes = [] := hnone (by simpa using hsnapshot)
    rw [Press.created, Press.deliver, hwrites, List.append_nil]
    exact hr.unanswered hunanswered
  · rintro l' ⟨⟩
    exact (hr.listener l hl).deliver hsnapshots

/-- A snapshot that is not refused is the first one, of a student that exists. -/
theorem Once.undecided {snapshot : Option Document} {snapshots : List (Option Document)}
    (hr : r.Once) (hl : r.listener = some l) (hsnapshots : l.snapshots = snapshot :: snapshots)
    (hstores : ¬ Refuses l.form snapshot) :
    r.answered = false ∧ r.client.db.read .students l.id ≠ none ∧ snapshot ≠ none := by
  have hsome : snapshot ≠ none := by
    rintro rfl
    exact hstores fun data hdata => absurd hdata (Option.not_mem_none data)
  have hunanswered : r.answered = false := by
    by_contra ha
    refine hstores ((hr.listener l hl).refusals (by simpa using ha) snapshot ?_)
    rw [hsnapshots]
    exact List.mem_cons_self
  refine ⟨hunanswered, ?_, hsome⟩
  rcases (hr.listener l hl).undecided hunanswered with ⟨hmem, -⟩ | ⟨-, hnone⟩
  · exact hmem
  · exact absurd (hnone snapshot (by rw [hsnapshots]; exact List.mem_cons_self)) hsome

theorem once_delivery {autoID : String} (hr : r.Once)
    (hkeeps : r.KeepsAnswer uppercased (.delivery autoID))
    (h : r.step uppercased (.delivery autoID) = some t) :
    t.Once ∧ (r.answered = true → t.written = r.written) := by
  simp only [step] at h
  split at h
  · cases h
  next hfresh =>
  obtain ⟨l, hl, hstep⟩ := Option.bind_eq_some_iff.1 h
  split at hstep
  · cases hstep
  next snapshot snapshots hsnapshots =>
  obtain ⟨⟨u, d⟩, hres, rfl⟩ := Option.map_eq_some_iff.1 hstep
  rcases listenerDelivery_ok (Traps.result?_eq_some.1 hres) with
    ⟨-, rfl⟩ | ⟨hstores, -, hwrites⟩
  · -- The delivery refuses the student and changes nothing.
    refine ⟨?_, fun _ => List.append_nil _⟩
    have hmoved := move_self (r.deliver l snapshot snapshots ⟨r.client.temp, []⟩)
    rw [show Write.applyAll r.client.db [] = (r.deliver l snapshot snapshots
      ⟨r.client.temp, []⟩).client.db from rfl, hmoved]
    refine hr.deliver hl hsnapshots ?_ fun _ => rfl
    rw [created, Press.deliver, List.append_nil]
    exact hr.created
  · obtain ⟨hunanswered, hmem, hsome⟩ := hr.undecided hl hsnapshots hstores
    have hzero : r.written.countP Write.creates = 0 := hr.unanswered hunanswered
    refine ⟨?_, fun ha => by rw [hunanswered] at ha; cases ha⟩
    rcases hwrites with ⟨⟨data, rfl, hplaceholder⟩, -, hwrites⟩ | hwrites
    · -- The placeholder is filled in, and the listener will hear of it.
      simp only [List.nil_append] at hwrites
      rw [hwrites, Write.applyAll_cons, Write.applyAll_nil]
      refine (hr.deliver hl hsnapshots ?_ fun hnone => absurd hnone hsome).move ?_
      · rw [Press.created, Press.deliver, hwrites, List.countP_append, hzero]
        simp [Write.setAt, Write.creates]
      · rintro l' ⟨⟩ -
        refine (hkeeps l hl data (by rw [hsnapshots]; rfl) hplaceholder).symm.imp_right
          fun hname => ?_
        show (r.client.db.read .students l.id ≠ none ∧ _) ∧ _
        rw [Write.read_apply_setAt]
        exact ⟨⟨hmem, Option.some_ne_none _⟩, refuses_newStudent hname⟩
    · -- The student is stored under a new id, which is not the watched one.
      simp only [List.nil_append] at hwrites
      rw [hwrites, Write.applyAll_cons, Write.applyAll_nil]
      refine (hr.deliver hl hsnapshots ?_ fun hnone => absurd hnone hsome).move ?_
      · rw [Press.created, Press.deliver, hwrites, List.countP_append, hzero]
        simp [Write.creates]
      · rintro l' ⟨⟩ hsame
        have hread : r.client.db.read .students l.id = (r.students)[autoID]? := by
          rw [Database.read, ← show _ = CollectionName.students.document l.id from hsame]
          rfl
        rw [hread, Std.ExtTreeMap.getElem?_eq_none hfresh] at hmem
        exact absurd rfl hmem

/-- An edit leaves the press alone, and the listener gets a refusal or nothing. -/
theorem once_edit {temp : UserDefaults} {form : StudentForm} {statusIsOn : Bool} (hr : r.Once)
    (hkeeps : r.KeepsAnswer uppercased (.edit temp form statusIsOn))
    (h : r.step uppercased (.edit temp form statusIsOn) = some t) : t.Once := by
  obtain ⟨hexists, hstep⟩ := Option.ite_none_right_eq_some.1 h
  obtain ⟨⟨u, d⟩, hres, rfl⟩ := Option.map_eq_some_iff.1 hstep
  obtain ⟨id, hid, -, hd⟩ :=
    EditInfoStudentViewController.confirmAction_eq_ok.1 (Traps.result?_eq_some.1 hres)
  subst hd
  refine hr.move (w := .setAt .students id (editData form statusIsOn)) ?_
  intro l hl hsame
  refine (hkeeps l hl id hid hsame).symm.imp_right fun hform => ?_
  have hexists : r.client.db.read .students id ≠ none := by
    have hsome := hexists id hid
    rintro hnone
    rw [hnone] at hsome
    cases hsome
  rw [← Database.read_congr hsame, ← Database.read_congr hsame, Write.read_apply_setAt]
  refine ⟨⟨hexists, nofun⟩, ?_⟩
  rintro data ⟨⟩
  simpa [editData, EditInfoStudentViewController.currentStudent, Student.data,
    Document.merge_cons, hform.2] using hform.1

theorem once_step {e : PressStep} (hr : r.Once) (hkeeps : r.KeepsAnswer uppercased e)
    (h : r.step uppercased e = some t) : t.Once := by
  cases e with
  | delivery autoID => exact (once_delivery hr hkeeps h).1
  | edit temp form statusIsOn => exact once_edit hr hkeeps h

/-- A press with one listed student leaves the decision to the listener; any other one is
answered at once. -/
theorem once_press {c : Client} {form : StudentForm} {autoID : String}
    (h : press uppercased c form autoID = some r) : r.Once := by
  unfold press at h
  split at h
  · cases h
  obtain ⟨⟨waiting, d⟩, hres, hr⟩ := Option.map_eq_some_iff.1 h
  obtain ⟨ids, -, ⟨⟨id, -, rfl⟩, rfl⟩ | ⟨-, rfl, hwrites⟩⟩ :=
    confirmButton_ok (Traps.result?_eq_some.1 hres)
  · -- The listener starts with the document as it is, or with none.
    subst hr
    refine ⟨by simp [created], fun _ => by simp [created], ?_⟩
    rintro l ⟨⟩
    refine ⟨nofun, fun _ => ?_⟩
    show (c.db.read .students id ≠ none ∧ _) ∨ c.db.read .students id = none ∧ _
    cases hwatched : c.db.read .students id with
    | none => exact .inr ⟨rfl, by simp⟩
    | some data => exact .inl ⟨nofun, data, [], rfl, by simp⟩
  · subst hr
    refine ⟨?_, nofun, nofun⟩
    rw [List.nil_append] at hwrites
    show d.writes.countP Write.creates ≤ 1
    rw [hwrites]
    simp [Write.creates]

end Press

/-! ## Every run -/

/-- In every run after a press whose steps meet the condition at most one document is created on
behalf of the press, and nothing is stored for it once it was answered. -/
theorem onePress_of_run {uppercased : String → String} {c : Client} {form : StudentForm}
    {autoID : String} {r t : Press} {es : List PressStep}
    (hpress : Press.press uppercased c form autoID = some r)
    (h : Run (Guarded (Press.KeepsAnswer uppercased) (Steps (Press.step uppercased))) r es t) :
    t.created ≤ 1 ∧ ∀ e t', t.KeepsAnswer uppercased e → t.step uppercased e = some t' →
      t.AnsweredOnce t' e := by
  have ht : t.Once := h.invariant Press.Once (Press.once_press hpress)
    fun _ _ _ hr hstep => Press.once_step hr hstep.1 hstep.2
  refine ⟨ht.created, ?_⟩
  intro e t' hkeeps hstep
  cases e with
  | delivery autoID' => exact (Press.once_delivery ht hkeeps hstep).2
  | edit temp form' statusIsOn => trivial

namespace Sample

/-- One student is listed. -/
def listedStudent : Client where
  temp := (∅ : UserDefaults).insert "ID_students" (.strings ["S1"])
  db := Function.update Database.empty .students ((∅ : Collection).insert "S1"
    (Document.merge ∅ ((newStudent Swift.asciiUppercased (enrolled "An" "1")).data "1")))

abbrev pressStep : Press → PressStep → Option Press := Press.step Swift.asciiUppercased

/-- The press of a second student. -/
def secondPress : Press :=
  (Press.press Swift.asciiUppercased listedStudent (enrolled "Binh" "2") "S2").getD
    ⟨Client.empty, none, false, []⟩

/-- The screen of an editing client. -/
def editing (id : String) : UserDefaults :=
  (∅ : UserDefaults).insert "ID_current_student" (.string id)

theorem named_secondPress : ∀ l ∈ secondPress.listener, Swift.asciiUppercased l.form.name ≠ "" := by
  decide +kernel

/-- The second student is stored, and then edited. -/
def editedSecond : Reached (Guarded (Press.KeepsAnswer Swift.asciiUppercased) (Steps pressStep))
    secondPress :=
  let stored : Reached (Guarded (Press.KeepsAnswer Swift.asciiUppercased) (Steps pressStep)) secondPress :=
    Reached.start.takeGuarded (.delivery "S2") (fun l hl _ _ _ => .inl (named_secondPress l hl))
      (by decide +kernel)
  have hother : ∀ l ∈ stored.state.listener,
      ∀ id ∈ (editing "S2")["ID_current_student"]?.bind Value.string?,
        CollectionName.students.document id ≠ CollectionName.students.document l.id := by
    decide +kernel
  stored.takeGuarded (.edit (editing "S2") (enrolled "Binh Minh" "2") true)
    (fun l hl id hid hsame => absurd hsame (hother l hl id hid)) (by decide +kernel)

/-- The first student is edited after the second was stored, and the edit is delivered. -/
def storedTwice : Reached (Steps pressStep) secondPress :=
  let stored := Reached.start.take (.delivery "S2") (by decide +kernel)
  let edited := stored.take (.edit (editing "S1") (enrolled "An Khang" "1") true) (by decide +kernel)
  edited.take (.delivery "S3") (by decide +kernel)

theorem press_secondPress : Press.press Swift.asciiUppercased listedStudent (enrolled "Binh" "2") "S2" =
    some secondPress := by
  have hsome : (Press.press Swift.asciiUppercased listedStudent (enrolled "Binh" "2") "S2").isSome := by
    decide +kernel
  obtain ⟨r, hr⟩ := Option.isSome_iff_exists.1 hsome
  rw [secondPress, hr, Option.getD_some]

end Sample

theorem onePress_editedSecond : Sample.editedSecond.state.created = 1 ∧
    Sample.editedSecond.state.answered = true ∧ Sample.editedSecond.state.created ≤ 1 :=
  ⟨by decide +kernel, by decide +kernel,
    (onePress_of_run Sample.press_secondPress Sample.editedSecond.run).1⟩

/-- The listener stores the second student again when the first one is edited. -/
theorem onePress_fails : ¬ ∀ (c : Client) (form : StudentForm) (autoID : String) (r t : Press)
    (es : List PressStep), Press.press Swift.asciiUppercased c form autoID = some r →
      Run (Steps (Press.step Swift.asciiUppercased)) r es t → t.created ≤ 1 := by
  intro hall
  have honce := hall _ _ _ _ _ _ Sample.press_secondPress Sample.storedTwice.run
  revert honce
  decide +kernel

end LibraryManagement
