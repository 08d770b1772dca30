import LibraryManagement.Fleet
import LibraryManagement.Lib.Shape
import LibraryManagement.StudentStatistics

/-!
# The types of the stored fields

Firestore has no schema: every write decides the type of a field anew. `CollectionName.shape` is
the schema that the writes of the app follow all the same, with the fields that a document always
has. Whatever the devices do and however their writes interleave, are lost or are cut off, every
document is of the shape of its collection (`typed_of_run`).

So the readers of students and rules never trap on a stored document (`readers_of_run`). A book
always has its lent count and a card its ended day, but nothing else is certain about them.
-/

namespace LibraryManagement

open Handler Transition

/-! ## The schema -/

/-- Any text. -/
def FieldValue.texts : Set FieldValue := {v | ∃ s, v = .string s}

@[simp] theorem FieldValue.string_mem_texts (s : String) : .string s ∈ texts := ⟨s, rfl⟩

/-- The paths by which the app can name a document. -/
def CollectionName.names (c : CollectionName) (id : String) : Set String :=
  {path | IsDocumentPath path ∧ c.root.document path = (c, id)}

/-- The documents of a collection that go by these names, and those below them. -/
def CollectionName.shapeOf (names : Set String) : CollectionName → Shape String FieldValue
  | books => {
      allows := fun field =>
        if field ∈ ["ID", "name", "category", "author", "publishingyear", "publishingcompany",
          "dateadded", "avatarURL"] then FieldValue.texts
        else if field = "status" then {.number 1, .string "1"}
        else if field = "quantity" then
          {v | ∃ n, Swift.InInt n ∧ v = .string (Swift.description n)}
        else if field = "check" then {v | ∃ n, v = .number n}
        else ∅
      assigned := {"check"} }
  | borrowCard => {
      allows := fun field =>
        if field ∈ ["ID_student", "ID_book", "bookName", "startedDay", "endedDay"] then
          FieldValue.texts
        else if field = "status" then {.string "0", .string "1"}
        else if field = "fine" then {.string "0"}
        else ∅
      assigned := {"endedDay", "status"} }
  | students => {
      allows := fun field =>
        if field ∈ ["name", "ID", "birthday", "gender", "address", "email", "startedDay"] then
          FieldValue.texts
        else if field = "status" then {.string "0", .string "1"}
        else ∅
      assigned := {"name", "ID", "birthday", "gender", "address", "email", "startedDay", "status"} }
  | rules => {
      allows := fun field =>
        if field = "title" then {v | ∃ title ∈ names, v = .string title}
        else if field = "content" then {v | ∃ s ≠ "", v = .string s}
        else ∅
      assigned := {"title", "content"} }
  | accounts => {
      allows := fun field =>
        if field ∈ ["name", "birthday", "gender", "avatar", "status"] then FieldValue.texts
        else if field = "email" then {v | ∃ email ∈ names, v = .string email}
        else ∅
      assigned := {"name", "birthday", "gender", "email"} }
  | cities => {
      allows := fun field => if field = "endedDay" then FieldValue.texts else ∅
      assigned := {"endedDay"} }
  | sub c _ _ => c.shapeOf names

namespace CollectionName

/-- The shape of a document. -/
def shape (c : CollectionName) (id : String) : Shape String FieldValue := c.shapeOf (c.names id)

theorem shapeOf_root (c : CollectionName) (names : Set String) :
    c.root.shapeOf names = c.shapeOf names := by
  induction c with
  | sub c id name ih => exact ih
  | _ => rfl

/-- What is below a collection has the same shape. -/
theorem shape_document {c : CollectionName} (hc : c.root = c) (path : String) :
    (c.document path).1.shape (c.document path).2 =
      c.shapeOf ((c.document path).1.names (c.document path).2) := by
  rw [shape, ← shapeOf_root, root_document, hc]

theorem mem_names {c : CollectionName} {path : String} (hc : c.root = c)
    (h : IsDocumentPath path) : path ∈ (c.document path).1.names (c.document path).2 :=
  ⟨h, by rw [root_document, hc]⟩

end CollectionName

/-- Every document is of the shape of its collection. -/
def Typed (db : Database) : Prop :=
  ∀ (c : CollectionName) (id : String) (d : Document), (db c)[id]? = some d → (c.shape id).Meets d

theorem typed_empty : Typed Database.empty := by
  intro c id d hd
  simp [Database.empty] at hd

/-! ## Writes -/

variable {db : Database} {c : CollectionName} {id : String} {data : List (String × FieldValue)}

/-- The data has values of the shape, and every field that is always there. -/
def CollectionName.Holds (c : CollectionName) (names : Set String)
    (data : List (String × FieldValue)) : Prop :=
  (∀ e ∈ data, e.2 ∈ (c.shapeOf names).allows e.1) ∧
    ∀ k ∈ (c.shapeOf names).assigned, k ∈ data.map Prod.fst

variable {names : Set String}

/-- A new document. -/
theorem CollectionName.Holds.meets (h : c.Holds names data) :
    (c.shapeOf names).Meets (Document.merge ∅ data) := by
  have hempty : Shape.Meets ⟨(c.shapeOf names).allows, ∅⟩ (∅ : Document) :=
    ⟨by simp, by rintro k ⟨⟩⟩
  exact (hempty.insertMany h.1).mono ⟨fun _ => subset_rfl, fun k hk => .inr (h.2 k hk)⟩

/-- New values of some fields. -/
theorem meets_merge {d : Document} (hd : (c.shapeOf names).Meets d)
    (h : ∀ e ∈ data, e.2 ∈ (c.shapeOf names).allows e.1) : (c.shapeOf names).Meets (d.merge data) :=
  (hd.insertMany h).mono ⟨fun _ => subset_rfl, fun _ => .inl⟩

/-- A write keeps the shapes if the document that it makes is of its shape. -/
theorem Typed.apply {w : Write} (hdb : Typed db)
    (h : ∀ d ∈ w.applyToDocument (db w.document.1)[w.document.2]?,
      (w.document.1.shape w.document.2).Meets d) :
    Typed (Write.apply db w) := by
  intro c id d hd
  rw [Write.getElem?_apply] at hd
  split at hd
  · next hw =>
    rw [hw] at h
    exact h d hd
  · exact hdb c id d hd

/-- Merging into the document that a path names. -/
theorem Typed.setAt {path : String} (hdb : Typed db) (hc : c.root = c)
    (h : c.Holds ((c.document path).1.names (c.document path).2) data) :
    Typed (Write.apply db (.setAt c path data)) := by
  refine hdb.apply fun d hd => ?_
  rw [Write.document_setAt] at hd ⊢
  obtain rfl := Option.some.inj hd
  cases hid : (db (c.document path).1)[(c.document path).2]? with
  | none =>
    rw [c.shape_document hc]
    exact h.meets
  | some old =>
    have hold := hdb _ _ old hid
    rw [c.shape_document hc] at hold ⊢
    exact meets_merge hold h.1

/-- Replacing the document that a path names. -/
theorem Typed.replaceAt {path : String} (hdb : Typed db) (hc : c.root = c)
    (h : c.Holds ((c.document path).1.names (c.document path).2) data) :
    Typed (Write.apply db (.replaceAt c path data)) := by
  refine hdb.apply fun d hd => ?_
  obtain rfl := Option.some.inj hd
  rw [Write.document_replaceAt, c.shape_document hc]
  exact h.meets

theorem Typed.addDocument (hdb : Typed db) (h : c.Holds (c.names id) data) :
    Typed (Write.apply db (.addDocument c id data)) := by
  refine hdb.apply fun d hd => ?_
  obtain rfl := Option.some.inj hd
  exact h.meets

theorem Typed.updateAt {path : String} (hdb : Typed db) (hc : c.root = c)
    (h : ∀ e ∈ data, e.2 ∈ (c.shapeOf ((c.document path).1.names (c.document path).2)).allows e.1) :
    Typed (Write.apply db (.updateAt c path data)) := by
  refine hdb.apply fun d hd => ?_
  obtain ⟨old, hold, rfl⟩ := Option.map_eq_some_iff.1 hd
  have hmeets := hdb _ _ old hold
  rw [Write.document_updateAt, c.shape_document hc] at hmeets ⊢
  exact meets_merge hmeets h

/-- Every write of the app follows the schema. -/
theorem AppWrite.typed {w : Write} (hw : AppWrite w) (hdb : Typed db) :
    Typed (Write.apply db w) := by
  have hzero : Swift.description 0 = "0" := rfl
  have hone : Swift.description 1 = "1" := rfl
  cases hw with
  | newBook b hID hquantity =>
    refine hdb.setAt rfl ⟨?_, ?_⟩
    · simp [Book.newData, CollectionName.shapeOf]
      exact ⟨_, hquantity, rfl⟩
    · simp [Book.newData, CollectionName.shapeOf]
  | editedBook b id hid hstatus hquantity =>
    refine hdb.setAt rfl ⟨?_, ?_⟩
    · simp [Book.detail, CollectionName.shapeOf, hstatus, hone]
      exact ⟨_, hquantity, rfl⟩
    · simp [Book.detail, CollectionName.shapeOf]
  | cover id => exact hdb.updateAt rfl (by simp [CollectionName.shapeOf])
  | lentCount id check hid hcheck =>
    exact hdb.setAt rfl ⟨by simp [CollectionName.shapeOf], by simp [CollectionName.shapeOf]⟩
  | newCard card id hstatus hfine =>
    refine hdb.addDocument ⟨?_, ?_⟩
    · simp [BorrowCard.data, CollectionName.shapeOf, hstatus, hfine, hzero, hone]
    · simp [BorrowCard.data, CollectionName.shapeOf]
  | closedCard id endedDay =>
    exact hdb.setAt rfl ⟨by simp [CollectionName.shapeOf], by simp [CollectionName.shapeOf]⟩
  | endedDay id endedDay =>
    exact hdb.setAt rfl ⟨by simp [CollectionName.shapeOf], by simp [CollectionName.shapeOf]⟩
  | newStudent s id =>
    exact hdb.addDocument ⟨by simp [Student.data, CollectionName.shapeOf],
      by simp [Student.data, CollectionName.shapeOf]⟩
  | student s id hid hstatus =>
    refine hdb.setAt rfl ⟨?_, ?_⟩
    · rcases hstatus with hstatus | hstatus
      · simp [Student.data, CollectionName.shapeOf, hstatus, hone]
      · simp [Student.data, CollectionName.shapeOf, hstatus, hzero]
    · simp [Student.data, CollectionName.shapeOf]
  | rule r htitle hcontent =>
    have hnames := CollectionName.rules.mem_names rfl htitle
    exact hdb.setAt rfl ⟨by simp [CollectionName.shapeOf, hcontent, hnames],
      by simp [CollectionName.shapeOf]⟩
  | account form hemail =>
    have hnames := CollectionName.accounts.mem_names rfl hemail
    refine hdb.replaceAt rfl ⟨?_, ?_⟩
    · simp [RegisterViewController.account, CollectionName.shapeOf, hnames]
    · simp [RegisterViewController.account, CollectionName.shapeOf]
  | avatar email => exact hdb.updateAt rfl (by simp [CollectionName.shapeOf])
  | profile form hemail hcomplete =>
    have hnames := CollectionName.accounts.mem_names rfl hemail
    refine hdb.setAt rfl ⟨?_, ?_⟩
    · simp [EditAccountViewController.profile, CollectionName.shapeOf, hnames]
    · simp [EditAccountViewController.profile, CollectionName.shapeOf]

/-! ## Readers -/

/-- No reader of the students traps on a stored one, and the statistics partition them. -/
structure StudentReaders (db : Database) : Prop where
  row : ∀ (id : String) (document : Document), (db .students)[id]? = some document → ∀ d, ∃ d',
    ManageStudentsViewController.cellDelivery id (db .students)[id]? d = .ok () d'
  duplicate : ∀ (student : Student) (path : String) (d : Device), ∃ d',
    AddStudentsViewController.checkStudentAnswer student (db.read .students path) d = .ok () d'
  listener : ∀ (student : Student) (path autoID : String) (d : Device), IsDocumentPath path →
    ∃ d', AddStudentsViewController.listenerDelivery student path autoID
      (db.read .students path) d = .ok () d'
  statistics : Swift.InInt (db .students).size → StudentChange.Partitioned (db .students)

/-- No reader of the rules traps. Each rule is listed by a title that names it, and its row shows
such a title. -/
structure RuleReaders (rules : Collection) : Prop where
  list : ∃ titles, List.Forall₂ (fun title id => CollectionName.rules.id? title = some id) titles
    rules.keys ∧ ∀ d : Device, loadRuleData rules d =
      .ok () { d with temp := d.temp.insert "ID_rules" (.strings titles) }
  row : ∀ (row : ℕ) (id : String), rules.keys[row]? = some id → ∃ title content, content ≠ "" ∧
    CollectionName.rules.id? title = some id ∧
      ∀ d, RuleViewController.cellDelivery row rules d = .ok (title, content) d

/-- A field that is always there and always a text. -/
theorem Typed.string? (hdb : Typed db) (field : String) {document : Document}
    (hdocument : (db c)[id]? = some document)
    (hassigned : field ∈ (c.root.shapeOf (c.names id)).assigned)
    (htexts : (c.root.shapeOf (c.names id)).allows field ⊆ FieldValue.texts) :
    ∃ s, document.string? field = some s ∧
      .string s ∈ (c.root.shapeOf (c.names id)).allows field := by
  have hmeets := hdb c id document hdocument
  rw [CollectionName.shape, ← CollectionName.shapeOf_root] at hmeets
  obtain ⟨v, hv, hfield⟩ := hmeets.exists_of_assigned hassigned
  obtain ⟨s, rfl⟩ := htexts hv
  exact ⟨s, Document.string?_eq_some.2 hfield, hv⟩

/-- What the readers of a student rely on. -/
theorem Typed.student (hdb : Typed db) {document : Document} (hc : c.root = .students)
    (hdocument : (db c)[id]? = some document) :
    (∃ name, document.string? "name" = some name) ∧ (∃ ID, document.string? "ID" = some ID) ∧
      (document.Carries "status" "1" ∨ document.Carries "status" "0") := by
  have hstring := fun field => hdb.string? field hdocument
  rw [hc] at hstring
  obtain ⟨name, hname, -⟩ := hstring "name" (by simp [CollectionName.shapeOf])
    (by simp [CollectionName.shapeOf])
  obtain ⟨ID, hID, -⟩ := hstring "ID" (by simp [CollectionName.shapeOf])
    (by simp [CollectionName.shapeOf])
  obtain ⟨status, hstatus, hallowed⟩ := hstring "status" (by simp [CollectionName.shapeOf])
    (by simp [CollectionName.shapeOf, Set.insert_subset_iff])
  have hcases : status = "0" ∨ status = "1" := by simpa [CollectionName.shapeOf] using hallowed
  refine ⟨⟨name, hname⟩, ⟨ID, hID⟩, ?_⟩
  rcases hcases with rfl | rfl
  · exact .inr hstatus
  · exact .inl hstatus

/-- What is read of a student by path is a student. -/
theorem Typed.read_student (hdb : Typed db) {path : String} {document : Document}
    (hdocument : db.read .students path = some document) :
    (∃ name, document.string? "name" = some name) ∧ ∃ ID, document.string? "ID" = some ID := by
  obtain ⟨hname, hID, -⟩ := hdb.student (CollectionName.students.root_document path) hdocument
  exact ⟨hname, hID⟩

/-- A stored rule has a title that names it, and a content. -/
theorem Typed.rule (hdb : Typed db) {document : Document}
    (hdocument : (db .rules)[id]? = some document) :
    (∃ title, document.string? "title" = some title ∧ IsDocumentPath title ∧
      CollectionName.rules.id? title = some id) ∧
      ∃ content ≠ "", document.string? "content" = some content := by
  have htitles : (CollectionName.rules.root.shapeOf (CollectionName.rules.names id)).allows
      "title" ⊆ FieldValue.texts := by
    simp only [CollectionName.root, CollectionName.shapeOf, if_true]
    rintro v ⟨title, -, rfl⟩
    exact ⟨title, rfl⟩
  have hcontents : (CollectionName.rules.root.shapeOf (CollectionName.rules.names id)).allows
      "content" ⊆ FieldValue.texts := by
    simp only [CollectionName.root, CollectionName.shapeOf, String.reduceEq, if_true, if_false]
    rintro v ⟨content, -, rfl⟩
    exact ⟨content, rfl⟩
  obtain ⟨title, htitle, hname⟩ := hdb.string? "title" hdocument
    (by simp [CollectionName.root, CollectionName.shapeOf]) htitles
  obtain ⟨content, hcontent, hallowed⟩ := hdb.string? "content" hdocument
    (by simp [CollectionName.root, CollectionName.shapeOf]) hcontents
  obtain ⟨hpath, hid⟩ : title ∈ CollectionName.rules.names id := by
    simpa [CollectionName.root, CollectionName.shapeOf] using hname
  exact ⟨⟨title, htitle, hpath, CollectionName.id?_eq_some.2 hid⟩, content,
    by simpa [CollectionName.root, CollectionName.shapeOf] using hallowed, hcontent⟩

theorem Typed.studentReaders (hdb : Typed db) : StudentReaders db where
  row id document hdocument d := by
    obtain ⟨⟨name, hname⟩, ⟨ID, hID⟩, -⟩ := hdb.student rfl hdocument
    have hfield : document["ID"]? = some (.string ID) := Document.string?_eq_some.1 hID
    unfold ManageStudentsViewController.cellDelivery
    rw [hdocument, Traps.unwrap_some, pure_bind, hname, Traps.cast_some, pure_bind]
    split
    · rw [hfield]
      exact ⟨_, rfl⟩
    · exact ⟨d, rfl⟩
  duplicate student path d := by
    cases hdocument : db.read .students path with
    | none => exact ⟨d, rfl⟩
    | some document =>
      obtain ⟨-, ID, hID⟩ := hdb.read_student hdocument
      simp only [AddStudentsViewController.checkStudentAnswer, hID, Traps.cast_some, pure_bind]
      split
      · exact ⟨_, rfl⟩
      · exact ⟨d, rfl⟩
  listener student path autoID d hpath := by
    cases hdocument : db.read .students path with
    | none => exact ⟨d, rfl⟩
    | some document =>
      obtain ⟨⟨name, hname⟩, ID, hID⟩ := hdb.read_student hdocument
      simp only [AddStudentsViewController.listenerDelivery, hname, hID, Traps.cast_some, pure_bind]
      split
      · exact ⟨_, Student.updateDetail_eq_ok.2 ⟨hpath, rfl⟩⟩
      · split
        · exact ⟨d, rfl⟩
        · exact ⟨_, rfl⟩
  statistics hsize :=
    StudentChange.partitioned_of_activeOrDisabled
      (fun _ _ hdocument => (hdb.student rfl hdocument).2.2) hsize

theorem Typed.ruleReaders (hdb : Typed db) : RuleReaders (db .rules) where
  list := by
    have hstored (entry : String × Document) (hentry : entry ∈ (db .rules).toList) :
        ∃ title, entry.2.string? "title" = some title ∧
          CollectionName.rules.id? title = some entry.1 := by
      obtain ⟨⟨title, htitle, -, hid⟩, -⟩ :=
        hdb.rule (Std.ExtTreeMap.mem_toList_iff_getElem?_eq_some.1 hentry)
      exact ⟨title, htitle, hid⟩
    refine ⟨(db .rules).toList.map fun entry => (entry.2.string? "title").getD "", ?_, fun d => ?_⟩
    · rw [← Std.ExtTreeMap.map_fst_toList_eq_keys, List.forall₂_map_left_iff,
        List.forall₂_map_right_iff, List.forall₂_same]
      intro entry hentry
      obtain ⟨title, htitle, hid⟩ := hstored entry hentry
      rw [htitle, Option.getD_some, hid]
    · rw [loadRuleData, Traps.bind_apply, (Traps.mapM_eq_ok
        (g := fun entry : String × Document => entry.2.string? "title")
        fun _ _ _ _ => Traps.cast_eq_ok).2 ⟨?_, rfl⟩]
      · rfl
      · rw [List.map_map]
        refine List.map_congr_left fun entry hentry => ?_
        obtain ⟨title, htitle, -⟩ := hstored entry hentry
        rw [htitle, Function.comp_apply, htitle, Option.getD_some]
  row row id hrow := by
    rw [← Std.ExtTreeMap.map_fst_toList_eq_keys, List.getElem?_map] at hrow
    obtain ⟨⟨id, document⟩, hentry, rfl⟩ := Option.map_eq_some_iff.1 hrow
    have hstored := Std.ExtTreeMap.mem_toList_iff_getElem?_eq_some.1 (List.mem_of_getElem? hentry)
    obtain ⟨⟨title, htitle, -, hid⟩, content, hne, hcontent⟩ := hdb.rule hstored
    have hvalue : (db .rules).values[row]? = some document := by
      rw [Std.ExtTreeMap.values_eq_map_snd, List.getElem?_map, hentry, Option.map_some]
    refine ⟨title, content, hne, hid, fun d => ?_⟩
    unfold RuleViewController.cellDelivery
    rw [Traps.bind_eq_ok]
    exact ⟨document, d, Traps.index_eq_ok.2 ⟨hvalue, rfl⟩, by rw [htitle, hcontent]; rfl⟩

/-! ## Every run -/

section

variable {κ : Type} [DecidableEq κ] {uppercased : String → String} {auth : Auth}
  {es : List (κ × FleetEvent)} {r : Fleet κ}

/-- Whatever the devices do, the database and what every device reads follow the schema. -/
theorem typed_of_run (hdb : Typed db)
    (h : Run (Steps (Fleet.step uppercased)) (Fleet.start db auth) es r) :
    Typed r.db ∧ ∀ k, Typed (r.view k) :=
  Fleet.run_invariant Typed (fun _ _ hw => hw.typed) hdb h

theorem typed_twoDevices : (Sample.twoDevices.state.db .students).size = 2 ∧
    Typed Sample.twoDevices.state.db ∧ ∀ k, Typed (Sample.twoDevices.state.view k) :=
  ⟨by decide +kernel, typed_of_run typed_empty Sample.twoDevices.run.of_guarded⟩

/-- No device ever traps on a stored student or a stored rule. -/
theorem readers_of_run (hdb : Typed db)
    (h : Run (Steps (Fleet.step uppercased)) (Fleet.start db auth) es r) (k : κ) :
    StudentReaders (r.view k) ∧ RuleReaders (r.view k .rules) := by
  have hview : Typed (r.view k) :=
    (Fleet.run_invariant Typed (fun _ _ hw => hw.typed) hdb h).2 k
  exact ⟨hview.studentReaders, hview.ruleReaders⟩

theorem readers_twoDevices : StudentReaders (Sample.twoDevices.state.view true) ∧
    RuleReaders (Sample.twoDevices.state.view true .rules) :=
  readers_of_run typed_empty Sample.twoDevices.run.of_guarded true

end

end LibraryManagement
