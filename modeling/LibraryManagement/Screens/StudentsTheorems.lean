import LibraryManagement.Screens.Students

/-!
# What the handlers of the student screens do

One lemma for each handler that completed: what it read, what it left in `UserDefaults` and
which writes it handed to Firestore.
-/

namespace LibraryManagement

open Handler

variable {uppercased : String → String} {form : StudentForm} {d d' : Device}

@[simp] theorem Student.updateDetail_eq_ok {student : Student} {ID : String} {u : Unit} :
    student.updateDetail ID d = .ok u d' ↔ IsDocumentPath ID ∧
      { d with writes := d.writes ++
        [.setAt .students ID (student.data (Swift.description student.status))] } = d' := by
  simp only [updateDetail, setData, Traps.bind_eq_ok, document_eq_ok, write_eq_ok, and_assoc,
    exists_and_left, exists_eq_left']

@[simp] theorem Student.insertNewStudent_eq_ok {student : Student} {autoID : String} {u : Unit} :
    student.insertNewStudent autoID d = .ok u d' ↔
      { d with writes := d.writes ++ [.addDocument .students autoID (student.data "1")] } = d' :=
  write_eq_ok

namespace AddStudentsViewController

/-- Every listed id is read. -/
@[simp] theorem checkStudent_eq_ok {ids : List String} :
    checkStudent d = .ok ids d' ↔
      d.temp["ID_students"]?.bind Value.strings? = some ids ∧ (∀ id ∈ ids, IsDocumentPath id) ∧
        d = d' := by
  simp only [checkStudent, Traps.bind_eq_ok, forced_eq_ok, mapM_document_eq_ok, and_assoc,
    exists_and_left, exists_eq_left']
  constructor
  · rintro ⟨listed, hlisted, hids, rfl, rfl⟩
    exact ⟨hlisted, hids, rfl⟩
  · rintro ⟨hlisted, hids, rfl⟩
    exact ⟨ids, hlisted, hids, rfl, rfl⟩

/-- An answer changes nothing but the flag: it raises the flag exactly when it brings a student
with the tested ID. -/
theorem checkStudentAnswer_ok {student : Student} {answer : Option Document} {u : Unit}
    (h : checkStudentAnswer student answer d = .ok u d') : d'.writes = d.writes ∧
      ((∃ document ∈ answer, document.Carries "ID" student.ID) ∧
          d'.temp = d.temp.insert "check" (.bool true) ∨
        (¬ ∃ document ∈ answer, document.Carries "ID" student.ID) ∧ d'.temp = d.temp) := by
  cases answer with
  | none =>
    obtain ⟨-, rfl⟩ := Traps.pure_eq_ok.1 h
    exact ⟨rfl, .inr ⟨by simp, rfl⟩⟩
  | some document =>
    simp only [checkStudentAnswer, Traps.bind_eq_ok, Traps.cast_eq_ok, and_assoc, exists_and_left,
      exists_eq_left'] at h
    obtain ⟨ID, hID, hrest⟩ := h
    simp only [Option.mem_some, exists_eq_left', Document.Carries, hID, Option.some.injEq]
    split at hrest
    · next hsame =>
      obtain rfl := set_eq_ok.1 hrest
      exact ⟨rfl, .inl ⟨hsame.symm, rfl⟩⟩
    · next hne =>
      obtain ⟨-, rfl⟩ := Traps.pure_eq_ok.1 hrest
      exact ⟨rfl, .inr ⟨fun heq => hne heq.symm, rfl⟩⟩

/-- The delivery stores nothing: it brings a student with a name and the same ID, or no
document. -/
def Refuses (form : StudentForm) (delivered : Option Document) : Prop :=
  ∀ data ∈ delivered, data.string? "name" ≠ some "" ∧ data.string? "ID" = some form.ID

instance (form : StudentForm) (delivered : Option Document) : Decidable (Refuses form delivered) :=
  inferInstanceAs (Decidable (∀ data ∈ delivered, _ ∧ _))

/-- A delivery refuses the new student, or stores it in place of a delivered placeholder or under
a new id. -/
theorem listenerDelivery_ok {id autoID : String} {delivered : Option Document} {u : Unit}
    (h : listenerDelivery (newStudent uppercased form) id autoID delivered d = .ok u d') :
    Refuses form delivered ∧ d' = d ∨ ¬ Refuses form delivered ∧ d'.temp = d.temp ∧
      ((∃ data ∈ delivered, data.Carries "name" "") ∧ IsDocumentPath id ∧
        d'.writes = d.writes ++ [.setAt .students id ((newStudent uppercased form).data "1")] ∨
        d'.writes = d.writes ++
          [.addDocument .students autoID ((newStudent uppercased form).data "1")]) := by
  cases delivered with
  | none =>
    obtain ⟨-, rfl⟩ := Traps.pure_eq_ok.1 h
    exact .inl ⟨fun data hdata => absurd hdata (Option.not_mem_none data), rfl⟩
  | some data =>
    simp only [listenerDelivery, Traps.bind_eq_ok, Traps.cast_eq_ok, and_assoc, exists_and_left,
      exists_eq_left'] at h
    obtain ⟨name, hname, hrest⟩ := h
    simp only [Refuses, Option.mem_some, forall_eq', hname, ne_eq, Option.some.injEq]
    -- A student without a name is a placeholder.
    split at hrest
    · next hempty =>
      obtain ⟨hid, rfl⟩ := Student.updateDetail_eq_ok.1 hrest
      exact .inr ⟨fun hrefuses => hrefuses.1 hempty, rfl,
        .inl ⟨⟨data, rfl, hempty ▸ hname⟩, hid, rfl⟩⟩
    · next hne =>
      simp only [Traps.bind_eq_ok, Traps.cast_eq_ok, and_assoc, exists_and_left,
        exists_eq_left'] at hrest
      obtain ⟨ID, hID, hrest⟩ := hrest
      rw [hID, Option.some.injEq]
      split at hrest
      · next hsame =>
        obtain ⟨-, rfl⟩ := Traps.pure_eq_ok.1 hrest
        exact .inl ⟨⟨hne, hsame.symm⟩, rfl⟩
      · next hother =>
        obtain rfl := Student.insertNewStudent_eq_ok.1 hrest
        exact .inr ⟨fun hrefuses => hother hrefuses.2.symm, rfl, .inr rfl⟩

/-- A confirm with one listed student leaves a listener. Any other confirm reads the flag it
has just lowered: it stores the student, whatever the reads will bring. -/
theorem confirmButton_ok {autoID : String} {waiting : Waiting}
    (h : confirmButton uppercased form autoID d = .ok waiting d') :
    ∃ ids, d.temp["ID_students"]?.bind Value.strings? = some ids ∧
      ((∃ id, ids = [id] ∧ waiting = .listener id) ∧ d' = d ∨
        ids.length ≠ 1 ∧ waiting = .answers ids ∧
          d'.writes = d.writes ++
            [.addDocument .students autoID ((newStudent uppercased form).data "1")]) := by
  simp only [confirmButton, Traps.bind_eq_ok, forced_eq_ok, and_assoc, exists_and_left,
    exists_eq_left'] at h
  obtain ⟨ids, hids, hrest⟩ := h
  refine ⟨ids, hids, ?_⟩
  split at hrest
  · next hone =>
    simp only [Traps.bind_eq_ok, Traps.index_eq_ok, document_eq_ok, Traps.pure_eq_ok, and_assoc,
      exists_and_left, exists_eq_left'] at hrest
    obtain ⟨id, hid, -, rfl, rfl⟩ := hrest
    obtain ⟨a, rfl⟩ := List.length_eq_one_iff.1 hone
    obtain rfl : a = id := Option.some.inj hid
    exact .inl ⟨⟨a, rfl, rfl⟩, rfl⟩
  · next hmany =>
    simp only [Traps.bind_eq_ok, set_eq_ok, checkStudent_eq_ok, forced_eq_ok, and_assoc,
      exists_and_left, exists_eq_left', exists_const, UserDefaults.getElem?_insert,
      String.reduceEq, if_false, if_true, Option.bind_some, Value.bool?_bool, hids,
      Option.some.injEq, Bool.false_eq_true, Student.insertNewStudent_eq_ok,
      Traps.pure_eq_ok] at hrest
    obtain ⟨-, rfl, rfl⟩ := hrest
    exact .inr ⟨hmany, rfl, rfl⟩

end AddStudentsViewController

namespace EditInfoStudentViewController

/-- The form for a student. -/
def shows (student : Document) : StudentForm where
  name := (student.string? "name").getD ""
  birthday := (student.string? "birthday").getD ""
  gender := (student.string? "gender").getD ""
  ID := (student.string? "ID").getD ""
  address := (student.string? "address").getD ""
  email := (student.string? "email").getD ""
  startedDay := (student.string? "startedDay").getD ""

theorem viewDidLoad_eq_ok {opened : StudentForm} {statusIsOn : Bool} :
    viewDidLoad d = .ok (opened, statusIsOn) d' ↔
      (∃ ID document, d.temp["ID_current_student"]?.bind Value.string? = some ID ∧
        d.temp[ID]?.bind Value.dictionary? = some document ∧ shows document = opened ∧
        ∃ status, document.string? "status" = some status ∧ decide (status = "1") = statusIsOn) ∧
      d = d' := by
  simp only [viewDidLoad, Traps.bind_eq_ok, forced_eq_ok, Traps.cast_eq_ok, Traps.pure_eq_ok,
    and_assoc, exists_and_left, exists_eq_left', Prod.mk.injEq]
  constructor
  · rintro ⟨ID, hID, document, hdoc, status, hstatus, rfl, hon, rfl⟩
    exact ⟨⟨ID, hID, document, hdoc, rfl, status, hstatus, hon⟩, rfl⟩
  · rintro ⟨⟨ID, hID, document, hdoc, rfl, status, hstatus, hon⟩, rfl⟩
    exact ⟨ID, hID, document, hdoc, status, hstatus, rfl, hon, rfl⟩

/-- The ID field shows the ID of the cached copy. -/
theorem viewDidLoad_ok {opened : StudentForm × Bool} (h : viewDidLoad d = .ok opened d') :
    d' = d ∧ ∃ ID document, d.temp["ID_current_student"]?.bind Value.string? = some ID ∧
      d.temp[ID]?.bind Value.dictionary? = some document ∧
      opened.1.ID = (document.string? "ID").getD "" := by
  obtain ⟨⟨ID, document, hID, hdoc, hform, -⟩, rfl⟩ := viewDidLoad_eq_ok.1 h
  exact ⟨rfl, ID, document, hID, hdoc, by rw [← hform]; rfl⟩

@[simp] theorem confirmAction_eq_ok {statusIsOn : Bool} {u : Unit} :
    confirmAction form statusIsOn d = .ok u d' ↔
      ∃ ID, d.temp["ID_current_student"]?.bind Value.string? = some ID ∧ IsDocumentPath ID ∧
        { d with writes := d.writes ++ [.setAt .students ID
          ((currentStudent form statusIsOn).data
            (Swift.description (currentStudent form statusIsOn).status))] } = d' := by
  simp only [confirmAction, Traps.bind_eq_ok, forced_eq_ok, Student.updateDetail_eq_ok, and_assoc,
    exists_and_left, exists_eq_left']

/-- The cards of the student with this ID, with their ids. -/
def ownCards (studentID : String) (cards : List (String × Document)) : List (String × Document) :=
  cards.filter fun card => card.2.Carries "ID_student" studentID

/-- The listener keeps the student's cards, in the order in which they are delivered. -/
theorem addCard_foldlM_ok {studentID : String} {cards : List (String × Document)}
    {found found' : Cards} (h : cards.foldlM (addCard studentID) found d = .ok found' d') :
    d' = d ∧ found'.count = found.count + (ownCards studentID cards).length ∧
      found'.data = found.data ++ (ownCards studentID cards).map Prod.snd ∧
      found'.ID = found.ID ++ (ownCards studentID cards).map Prod.fst := by
  induction cards generalizing found d with
  | nil =>
    obtain ⟨rfl, rfl⟩ := Traps.pure_eq_ok.1 h
    simp [ownCards]
  | cons card cards ih =>
    -- The lists are appended to, so the induction is over any cards found before.
    rw [List.foldlM_cons] at h
    obtain ⟨found₁, d₁, hcard, hrest⟩ := Traps.bind_eq_ok.1 h
    obtain ⟨rfl, hcount, hdata, hID⟩ := ih hrest
    simp only [addCard, Traps.bind_eq_ok, Traps.cast_eq_ok, and_assoc, exists_and_left,
      exists_eq_left'] at hcard
    obtain ⟨owner, howner, hkept⟩ := hcard
    split at hkept
    · next hown =>
      obtain ⟨count, d₂, hchecked, hpure⟩ := Traps.bind_eq_ok.1 hkept
      obtain ⟨hsum, rfl⟩ := Traps.checked_eq_ok.1 hchecked
      obtain ⟨rfl, rfl⟩ := Traps.pure_eq_ok.1 hpure
      obtain ⟨rfl, -⟩ := Swift.inRange?_eq_some.1 hsum
      have hmine : card.2.Carries "ID_student" studentID := hown ▸ howner
      have hcards : ownCards studentID (card :: cards) = card :: ownCards studentID cards := by
        rw [ownCards, List.filter_cons_of_pos (by simpa using hmine), ownCards]
      rw [hcards, hcount, hdata, hID]
      refine ⟨rfl, ?_, by simp, by simp⟩
      simp only [List.length_cons, Nat.cast_add, Nat.cast_one]
      omega
    · next hother =>
      obtain ⟨rfl, rfl⟩ := Traps.pure_eq_ok.1 hkept
      have hforeign : ¬ card.2.Carries "ID_student" studentID := by
        intro hmine
        exact hother (Option.some.inj (howner.symm.trans hmine))
      have hcards : ownCards studentID (card :: cards) = ownCards studentID cards := by
        rw [ownCards, List.filter_cons_of_neg (by simpa using hforeign), ownCards]
      rw [hcards]
      exact ⟨rfl, hcount, hdata, hID⟩

/-- `UserDefaults` with these cards in the three entries of the borrowing list. -/
def listing (cards : List (String × Document)) (temp : UserDefaults) : UserDefaults :=
  ((temp.insert "count" (.int cards.length)).insert "data"
    (.dictionaries (cards.map Prod.snd))).insert "listID" (.strings (cards.map Prod.fst))

@[simp] theorem listing_data (cards : List (String × Document)) (temp : UserDefaults) :
    (listing cards temp)["data"]?.bind Value.dictionaries? = some (cards.map Prod.snd) := by
  simp only [listing, UserDefaults.getElem?_insert, String.reduceEq, if_true, if_false,
    Option.bind_some, Value.dictionaries?_dictionaries]

/-- None of the three entries is a text or a dictionary. -/
theorem listing_bind {α : Type} {cards : List (String × Document)} {temp : UserDefaults}
    {key : String} {as? : Value → Option α} {a : α} (hint : ∀ n, as? (.int n) = none)
    (hdictionaries : ∀ ds, as? (.dictionaries ds) = none) (hstrings : ∀ xs, as? (.strings xs) = none)
    (h : (listing cards temp)[key]?.bind as? = some a) : temp[key]?.bind as? = some a := by
  unfold listing at h
  obtain ⟨-, h⟩ := (UserDefaults.bind_getElem?_insert_of_none (hstrings _)).1 h
  obtain ⟨-, h⟩ := (UserDefaults.bind_getElem?_insert_of_none (hdictionaries _)).1 h
  exact ((UserDefaults.bind_getElem?_insert_of_none (hint _)).1 h).2

/-- A delivery lists the student's cards. -/
theorem cardsDelivery_ok {studentID : String} {cards : Collection} {u : Unit}
    (h : cardsDelivery studentID cards d = .ok u d') :
    d' = { d with temp := listing (ownCards studentID cards.toList) d.temp } := by
  simp only [cardsDelivery, Traps.bind_eq_ok, set_eq_ok, exists_const] at h
  obtain ⟨found, d₁, hfound, _, rfl, _, rfl, rfl⟩ := h
  obtain ⟨rfl, hcount, hdata, hID⟩ := addCard_foldlM_ok hfound
  simp only [List.nil_append, zero_add] at hcount hdata hID
  rw [hcount, hdata, hID]
  rfl

end EditInfoStudentViewController

end LibraryManagement
