import LibraryManagement.NormalNames
import LibraryManagement.TypedDatabase

/-!
# What the database never loses

The app deletes nothing, and merges what it stores into the document that is there. Only the
account of a registration replaces one, and it has every field that an account of the schema can
have. So along every run of any number of devices documents and fields are only ever added. A card
stays what it was made for, and is never reopened once it was returned (`grows_of_run`).

It takes that the ids which the client library generates are new when they arrive: a card under
the id of another one would replace it.
-/

namespace LibraryManagement

open Handler Transition

/-- Every field of a document is a field of a later one. -/
def Document.Extends (d d' : Document) : Prop := ∀ field ∈ d, field ∈ d'

/-- The fields that say what a card was made for. -/
def BorrowCard.identity : List String :=
  ["ID_student", "ID_book", "bookName", "startedDay", "fine"]

/-- What a document of a collection may become later. -/
def CollectionName.Later : CollectionName → Document → Document → Prop
  | borrowCard, d, d' => d.Extends d' ∧
      (∀ field ∈ BorrowCard.identity, ∀ v, d[field]? = some v → d'[field]? = some v) ∧
      (d.Carries "status" "0" → d'.Carries "status" "0")
  | sub c _ _, d, d' => c.Later d d'
  | _, d, d' => d.Extends d'

/-- Every document is still there, and is what it may have become. -/
def Grows (db db' : Database) : Prop :=
  ∀ (c : CollectionName) (id : String) (d : Document), (db c)[id]? = some d →
    ∃ d', (db' c)[id]? = some d' ∧ c.Later d d'

/-- A document under a generated id is a new one. -/
def Write.Fresh (db : Database) : Write → Prop
  | .addDocument c id _ => c.root = .accounts ∨ id ∉ db c
  | _ => True

instance (db : Database) : DecidablePred (Write.Fresh db)
  | .setData _ _ _ => isTrue trivial
  | .addDocument _ _ _ => inferInstanceAs (Decidable (_ ∨ _))
  | .updateData _ _ _ => isTrue trivial

/-! ## A preorder -/

variable {db db' db'' : Database} {c : CollectionName} {id : String} {d d' d'' : Document}
  {data : List (String × FieldValue)}

namespace CollectionName

theorem Later.refl (c : CollectionName) (d : Document) : c.Later d d := by
  have hextends : d.Extends d := fun _ hfield => hfield
  induction c with
  | borrowCard => exact ⟨hextends, fun _ _ _ hv => hv, fun hstatus => hstatus⟩
  | sub c id name ih => exact ih
  | _ => exact hextends

theorem Later.trans (h : c.Later d d') (h' : c.Later d' d'') : c.Later d d'' := by
  induction c with
  | borrowCard =>
    obtain ⟨hfields, hidentity, hstatus⟩ := h
    obtain ⟨hfields', hidentity', hstatus'⟩ := h'
    exact ⟨fun field hfield => hfields' field (hfields field hfield),
      fun field hmem v hv => hidentity' field hmem v (hidentity field hmem v hv),
      fun hclosed => hstatus' (hstatus hclosed)⟩
  | sub c id name ih => exact ih h h'
  | _ => exact fun field hfield => h' field (h field hfield)

theorem later_root (c : CollectionName) : c.root.Later d d' ↔ c.Later d d' := by
  induction c with
  | sub c id name ih => exact ih
  | _ => exact Iff.rfl

/-- What is below a collection grows as the collection does. -/
theorem later_document {path : String} (hc : c.root = c) :
    (c.document path).1.Later d d' ↔ c.Later d d' := by
  rw [← later_root, root_document, hc]

end CollectionName

theorem Grows.refl (db : Database) : Grows db db := fun c _ d hd => ⟨d, hd, .refl c d⟩

theorem Grows.trans (h : Grows db db') (h' : Grows db' db'') : Grows db db'' := by
  intro c id d hd
  obtain ⟨d', hd', hlater⟩ := h c id d hd
  obtain ⟨d'', hd'', hlater'⟩ := h' c id d' hd'
  exact ⟨d'', hd'', hlater.trans hlater'⟩

/-! ## Writes -/

theorem Document.extends_merge (d : Document) (data : List (String × FieldValue)) :
    d.Extends (d.merge data) := by
  intro field hfield
  rw [merge, Std.ExtTreeMap.mem_insertMany_list]
  exact .inl hfield

/-- Other documents stay, and the one that is written to may become what is stored for it. -/
theorem Grows.apply {w : Write}
    (h : ∀ d, (db w.document.1)[w.document.2]? = some d →
      ∃ d', w.applyToDocument (some d) = some d' ∧ w.document.1.Later d d') :
    Grows db (Write.apply db w) := by
  intro c id d hd
  rw [Write.getElem?_apply]
  split
  · next hw =>
    rw [hw] at h
    rw [hd]
    exact h d hd
  · exact ⟨d, hd, .refl c d⟩

theorem Grows.setAt {path : String} (hc : c.root = c) (h : ∀ d, c.Later d (d.merge data)) :
    Grows db (Write.apply db (.setAt c path data)) :=
  .apply fun d _ => ⟨_, rfl, (CollectionName.later_document hc).2 (h d)⟩

theorem Grows.updateAt {path : String} (hc : c.root = c) (h : ∀ d, c.Later d (d.merge data)) :
    Grows db (Write.apply db (.updateAt c path data)) :=
  .apply fun d _ => ⟨_, rfl, (CollectionName.later_document hc).2 (h d)⟩

/-- A document that was not there. -/
theorem Grows.addDocument (h : id ∉ db c) :
    Grows db (Write.apply db (.addDocument c id data)) :=
  .apply fun _ hd => absurd (Std.ExtTreeMap.mem_of_getElem? hd) h

/-- The account of a registration has every field that the account before it had. -/
theorem Grows.account {form : RegisterForm} {email : String} (hdb : Typed db) : Grows db
    (Write.apply db (.replaceAt .accounts email (RegisterViewController.account form))) := by
  refine .apply fun d hd => ⟨_, rfl, (CollectionName.later_document rfl).2 fun field hfield => ?_⟩
  have hmeets := hdb _ _ d hd
  rw [Write.document_replaceAt, CollectionName.shape_document rfl] at hmeets
  obtain ⟨v, hv⟩ := Std.ExtTreeMap.mem_iff_exists_getElem?.1 hfield
  have hallowed := hmeets.1 field v hv
  rw [Document.merge, Std.ExtTreeMap.mem_insertMany_list]
  refine .inr ?_
  simp only [CollectionName.shapeOf] at hallowed
  split at hallowed
  · next hmem =>
    simp only [List.mem_cons, List.not_mem_nil, or_false] at hmem
    rcases hmem with rfl | rfl | rfl | rfl | rfl <;> rfl
  · split at hallowed
    · next hemail =>
      rw [hemail]
      rfl
    · cases hallowed

/-- A card that is closed keeps what it was made for. -/
theorem later_closed (d : Document) (endedDay : String) : CollectionName.borrowCard.Later d
    (d.merge [("endedDay", .string endedDay), ("status", .string "0")]) := by
  refine ⟨d.extends_merge _, fun field hfield v hv => ?_, fun _ => ?_⟩
  · have hne : "endedDay" ≠ field ∧ "status" ≠ field := by
      constructor <;> rintro rfl <;> revert hfield <;> decide
    simp only [Document.merge_cons, Document.merge_nil, Document.getElem?_insert, if_neg hne.1,
      if_neg hne.2, hv]
  · simp [Document.Carries, Document.merge_cons]

/-- Every write of the app adds to what is there. -/
theorem AppWrite.grows {w : Write} (hw : AppWrite w) (hdb : Typed db) (hfresh : w.Fresh db) :
    Grows db (Write.apply db w) := by
  have hextends (data : List (String × FieldValue)) (d : Document) : d.Extends (d.merge data) :=
    d.extends_merge data
  cases hw with
  | closedCard id endedDay => exact .setAt rfl fun d => later_closed d endedDay
  | newCard card id => exact .addDocument (hfresh.resolve_left (by decide))
  | newStudent s id => exact .addDocument (hfresh.resolve_left (by decide))
  | account form => exact .account hdb
  | cover id => exact .updateAt rfl (hextends _)
  | avatar email => exact .updateAt rfl (hextends _)
  | profile form => exact .setAt rfl (hextends _)
  | newBook b => exact .setAt rfl (hextends _)
  | editedBook b id => exact .setAt rfl (hextends _)
  | lentCount id check => exact .setAt rfl (hextends _)
  | endedDay id endedDay => exact .setAt rfl (hextends _)
  | student s id => exact .setAt rfl (hextends _)
  | rule r => exact .setAt rfl (hextends _)

/-! ## Every run -/

/-- Between any two moments of a run no document and no field is lost, no card changes what it was
made for, and no returned card is reopened. -/
theorem grows_of_run {κ : Type} [DecidableEq κ] {uppercased : String → String} {db : Database}
    {auth : Auth} {es es' : List (κ × FleetEvent)} {r t : Fleet κ} (hdb : Typed db)
    (h : Run (Guarded (Fleet.Admits fun db w => w.Fresh db) (Steps (Fleet.step uppercased)))
      (Fleet.start db auth) es r)
    (h' : Run (Guarded (Fleet.Admits fun db w => w.Fresh db) (Steps (Fleet.step uppercased)))
      r es' t) :
    Grows r.db t.db := by
  -- Along the run the database follows the schema, so no account loses a field.
  have hrelated : Typed r.db → Typed t.db ∧ Grows r.db t.db :=
    Fleet.run_related (R := fun db db' => Typed db → Typed db' ∧ Grows db db')
      (fun db hdb => ⟨hdb, .refl db⟩)
      (fun _ _ _ h h' hdb => ⟨(h' (h hdb).1).1, (h hdb).2.trans (h' (h hdb).1).2⟩)
      (fun _ _ hw hfresh hdb => ⟨hw.typed hdb, hw.grows hdb hfresh⟩) h h'
  exact (hrelated (typed_of_run hdb h.of_guarded).1).2

namespace Sample

abbrev Fresh : Fleet Bool → Bool × FleetEvent → Prop := Fleet.Admits fun db w => w.Fresh db

def librarian : RegisterForm := ⟨"An", "01-01-2000", "Other", "a@b", "secret", "secret"⟩

def cardHolder : Student := { name := "AN", ID := "1712001" }

/-- A book whose id is the key that the list of cards forces. -/
def keyBook : Book := { ID := "ID_cards", name := "ONE", quantity := 2 }

def stockedLibrary : Database := Write.applyAll Database.empty
  [.replaceAt .accounts librarian.email (RegisterViewController.account librarian),
    .addDocument .students "S1" (cardHolder.data "1"),
    .setAt .books keyBook.ID keyBook.newData]

theorem typed_stockedLibrary : Typed stockedLibrary := by
  have haccount := AppWrite.account librarian (by decide +kernel)
  have hstudent := AppWrite.newStudent cardHolder "S1"
  have hbook := AppWrite.newBook keyBook (by decide +kernel) (by decide +kernel)
  exact hbook.typed (hstudent.typed (haccount.typed typed_empty))

/-- A login, and the way to the cards of the student, over the row of the book. -/
def openCards (k : Bool) : List (Bool × FleetEvent) :=
  [.login "a@b" "secret", .event (.deliver 0), .event (.deliver 0), .event (.deliver 0),
    .event (.deliver 0), .event (.deliver 0), .event (.select .books), .event (.deliver 0),
    .event (.segue .manageBooks), .event (.render 0), .event (.deliver 0),
    .event (.select .students), .event (.deliver 0), .event (.deliver 0), .event (.deliver 0),
    .event (.deliver 0), .event (.segue .manageStudents), .event (.render 0),
    .event (.deliver 0), .event (.tap 0), .event (.deliver 0),
    .event (.segue .listBorrowingCard)].map (k, ·)

/-- The book is lent on one device. -/
def lentBook : Reached (Guarded Fresh (Steps fleetStep)) (Fleet.start stockedLibrary users) :=
  Reached.start.takeAll (openCards true ++ [.event (.segue .addNewBorrowingCard),
    .event .bookAction, .event (.didSelectRow 0), .event .bookIDAction, .event (.deliver 0),
    .event (.lend "K1"), .event .ok, .arrive true, .arrive true].map (true, ·))
    (by decide +kernel)

/-- It is given back on another one. -/
def returnedBook : Reached (Guarded Fresh (Steps fleetStep)) lentBook.state :=
  Reached.start.takeAll (openCards false ++ [.event (.render 0), .event (.tap 0),
    .event (.deliver 0), .event (.giveBack (returned "ID_cards")), .arrive true,
    .arrive true].map (false, ·)) (by decide +kernel)

end Sample

theorem grows_returnedBook :
    (Sample.lentBook.state.db .borrowCard)["K1"]?.bind (·.string? "status") = some "1" ∧
    (Sample.returnedBook.state.db .borrowCard)["K1"]?.bind (·.string? "status") = some "0" ∧
    Grows Sample.lentBook.state.db Sample.returnedBook.state.db :=
  ⟨by decide +kernel, by decide +kernel,
    grows_of_run Sample.typed_stockedLibrary Sample.lentBook.run Sample.returnedBook.run⟩

end LibraryManagement
