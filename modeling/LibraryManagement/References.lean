import LibraryManagement.Lib.Swift
import LibraryManagement.Firestore
import Mathlib.Data.List.Infix

/-!
# Document references

`collection.document(path)` takes a path: its segments between slashes are the id of a document
of the collection, the name of a collection of that document, the id of a document there, and so
on. Empty segments at the ends of a path are skipped, so one document goes by several paths; two
slashes in a row, no segment, or an even number of them stop the app.
-/

namespace LibraryManagement

/-- A text that is the id of a document. -/
def IsDocumentID (id : String) : Prop := id ≠ "" ∧ '/' ∉ id.toList

instance (id : String) : Decidable (IsDocumentID id) := inferInstanceAs (Decidable (_ ∧ _))

/-! ## Paths -/

namespace ResourcePath

/-- The segments of a path. -/
def segments (path : String) : List String := (Swift.components '/' path).filter (· ≠ "")

theorem isDocumentID_of_mem {path id : String} (h : id ∈ segments path) : IsDocumentID id := by
  obtain ⟨hmem, hne⟩ := List.mem_filter.1 h
  exact ⟨of_decide_eq_true hne, Swift.notMem_of_mem_components hmem⟩

theorem segments_of_isDocumentID {id : String} (h : IsDocumentID id) : segments id = [id] := by
  rw [segments, Swift.components, List.splitOn_eq_singleton h.2, List.map_singleton,
    String.ofList_toList, List.filter_singleton, decide_eq_true h.1, cond_true]

end ResourcePath

open ResourcePath

/-- A text that names a document: one of the collection, or one further down. -/
def IsDocumentPath (path : String) : Prop :=
  ¬ ['/', '/'] <:+: path.toList ∧ (segments path).length % 2 = 1

instance (path : String) : Decidable (IsDocumentPath path) := inferInstanceAs (Decidable (_ ∧ _))

theorem IsDocumentPath.ne_empty {path : String} (h : IsDocumentPath path) : path ≠ "" := by
  rintro rfl
  exact absurd h (by decide +kernel)

/-- An id names its own document. -/
theorem IsDocumentID.isDocumentPath {id : String} (h : IsDocumentID id) : IsDocumentPath id := by
  refine ⟨fun hslashes => h.2 (hslashes.mem List.mem_cons_self), ?_⟩
  rw [segments_of_isDocumentID h]
  rfl

namespace CollectionName

/-- The document at the end of these segments. -/
def descend (c : CollectionName) : List String → CollectionName × String
  | [] => (c, "")
  | [id] => (c, id)
  | id :: name :: segments => (c.sub id name).descend segments

/-- The document that a path of the collection names. -/
def document (c : CollectionName) (path : String) : CollectionName × String :=
  c.descend (segments path)

/-- The collection of the database that a collection belongs to. -/
def root : CollectionName → CollectionName
  | books => books
  | borrowCard => borrowCard
  | students => students
  | accounts => accounts
  | rules => rules
  | cities => cities
  | sub c _ _ => c.root

theorem root_descend (c : CollectionName) (segments : List String) :
    (c.descend segments).1.root = c.root := by
  fun_induction descend c segments with
  | case1 | case2 => rfl
  | case3 c id name segments ih => exact ih

/-- A path of a collection stays below the same collection of the database. -/
theorem root_document (c : CollectionName) (path : String) :
    (c.document path).1.root = c.root := c.root_descend _

/-- No document of another collection is named. -/
theorem document_fst_ne {c c' : CollectionName} (h : c.root ≠ c'.root) (path : String) :
    (c.document path).1 ≠ c' := by
  rintro rfl
  exact h (c.root_document path).symm

theorem descend_snd_mem {c : CollectionName} {segments : List String}
    (h : segments.length % 2 = 1) : (c.descend segments).2 ∈ segments := by
  fun_induction descend c segments with
  | case1 => cases h
  | case2 => exact List.mem_cons_self
  | case3 c id name segments ih =>
    rw [List.length_cons, List.length_cons] at h
    exact List.mem_cons_of_mem _ (List.mem_cons_of_mem _ (ih (by omega)))

theorem document_of_isDocumentID (c : CollectionName) {id : String} (h : IsDocumentID id) :
    c.document id = (c, id) := by
  rw [document, segments_of_isDocumentID h, descend]

example : books.document "/B1/" = (books, "B1") ∧
    books.document "a/b/c" = (books.sub "a" "b", "c") := by decide +kernel

/-- The id of the document that a path names, if it is one of the collection. -/
def id? (c : CollectionName) (path : String) : Option String :=
  if (c.document path).1 = c then some (c.document path).2 else none

theorem id?_eq_some {c : CollectionName} {path id : String} :
    c.id? path = some id ↔ c.document path = (c, id) := by
  rw [id?]
  split
  · next hc => simp [Prod.ext_iff, hc]
  · next hc => simp [Prod.ext_iff, hc]

theorem id?_eq_none {c : CollectionName} {path : String} :
    c.id? path = none ↔ (c.document path).1 ≠ c := by
  simp [id?]

theorem id?_of_isDocumentID (c : CollectionName) {id : String} (h : IsDocumentID id) :
    c.id? id = some id := id?_eq_some.2 (c.document_of_isDocumentID h)

end CollectionName

/-- A path ends in the id of a document. -/
theorem IsDocumentPath.isDocumentID {path : String} (h : IsDocumentPath path)
    (c : CollectionName) : IsDocumentID (c.document path).2 :=
  isDocumentID_of_mem (CollectionName.descend_snd_mem h.2)

/-! ## Reads and writes by path -/

/-- The document that a path of the collection names, if it is there. -/
def Database.read (db : Database) (c : CollectionName) (path : String) : Option Document :=
  (db (c.document path).1)[(c.document path).2]?

theorem Database.read_of_isDocumentID {db : Database} {c : CollectionName} {id : String}
    (h : IsDocumentID id) : db.read c id = (db c)[id]? := by
  rw [read, c.document_of_isDocumentID h]

namespace Write

/-- `setData(data, merge: true)` on the document that a path names. -/
def setAt (c : CollectionName) (path : String) (data : List (String × FieldValue)) : Write :=
  setData (c.document path).1 (c.document path).2 data

/-- `updateData(data)` on the document that a path names. -/
def updateAt (c : CollectionName) (path : String) (data : List (String × FieldValue)) : Write :=
  updateData (c.document path).1 (c.document path).2 data

/-- `setData(data)` on the document that a path names. Nothing is merged, so the document is
replaced, as by `addDocument`. -/
def replaceAt (c : CollectionName) (path : String) (data : List (String × FieldValue)) : Write :=
  addDocument (c.document path).1 (c.document path).2 data

theorem setAt_of_isDocumentID {c : CollectionName} {id : String} (h : IsDocumentID id)
    (data : List (String × FieldValue)) : setAt c id data = setData c id data := by
  rw [setAt, c.document_of_isDocumentID h]

variable {db : Database} {c c' : CollectionName} {path : String}
  {data : List (String × FieldValue)}

@[simp] theorem collection_setAt : (setAt c path data).collection = (c.document path).1 := rfl

@[simp] theorem document_setAt : (setAt c path data).document = c.document path := rfl

@[simp] theorem collection_updateAt : (updateAt c path data).collection = (c.document path).1 := rfl

@[simp] theorem document_updateAt : (updateAt c path data).document = c.document path := rfl

@[simp] theorem document_replaceAt : (replaceAt c path data).document = c.document path := rfl

theorem applyTo_setAt (docs : Collection) :
    (setAt c path data).applyTo docs = docs.override (c.document path).2 data := rfl

theorem apply_updateAt (db : Database) (c : CollectionName) (path : String)
    (data : List (String × FieldValue)) :
    apply db (updateAt c path data) c =
      if c = (c.document path).1 then
        applyTo (db c) (updateData c (c.document path).2 data)
      else db c := by
  rw [apply_apply, collection_updateAt]
  rfl

/-- A write by path leaves the other collections of the database alone. -/
@[simp] theorem apply_setAt_of_ne (h : c.root ≠ c'.root) :
    apply db (setAt c path data) c' = db c' :=
  apply_of_ne db (CollectionName.document_fst_ne h path).symm

@[simp] theorem apply_updateAt_of_ne (h : c.root ≠ c'.root) :
    apply db (updateAt c path data) c' = db c' :=
  apply_of_ne db (CollectionName.document_fst_ne h path).symm

end Write

/-- The collection once the fields of `data` override those of the document that a path names. -/
def Database.overrideAt (db : Database) (c : CollectionName) (path : String)
    (data : List (String × FieldValue)) : Collection :=
  match c.id? path with
  | some id => (db c).override id data
  | none => db c

namespace Database

variable {db : Database} {c : CollectionName} {path : String} {data : List (String × FieldValue)}

theorem overrideAt_of_isDocumentID {id : String} (h : IsDocumentID id) :
    db.overrideAt c id data = (db c).override id data := by
  rw [overrideAt, c.id?_of_isDocumentID h]

theorem overrideAt_congr {path' : String} (h : c.document path = c.document path') :
    db.overrideAt c path data = db.overrideAt c path' data := by
  rw [overrideAt, overrideAt, CollectionName.id?, CollectionName.id?, h]

/-- A document that is there was there before, or is the one the path names. -/
theorem mem_overrideAt {id : String} (h : id ∈ db.overrideAt c path data) :
    id ∈ c.id? path ∨ id ∈ db c := by
  rw [overrideAt] at h
  split at h
  · next id' hid =>
    rw [Collection.override, Std.ExtTreeMap.mem_insert] at h
    refine h.imp_left fun heq => ?_
    rw [hid, Std.LawfulEqCmp.eq_of_compare heq]
    rfl
  · exact .inr h

/-- The path names a document of the collection, which is overridden, or one further down. -/
theorem overrideAt_cases (h : IsDocumentPath path) (data : List (String × FieldValue)) :
    (∃ id, IsDocumentID id ∧ c.id? path = some id ∧
      db.overrideAt c path data = (db c).override id data) ∨
    c.id? path = none ∧ db.overrideAt c path data = db c := by
  cases hid : c.id? path with
  | some id =>
    have hvalid := h.isDocumentID c
    rw [CollectionName.id?_eq_some.1 hid] at hvalid
    exact .inl ⟨id, hvalid, rfl, by rw [overrideAt, hid]⟩
  | none => exact .inr ⟨rfl, by rw [overrideAt, hid]⟩

/-- A property of the documents is kept if what is set has it. -/
theorem forall_getElem?_overrideAt {P : Document → Prop}
    (h : ∀ (id : String) (document : Document), (db c)[id]? = some document → P document)
    (hset : ∀ id ∈ c.id? path, P (Document.merge (((db c)[id]?).getD ∅) data))
    (id : String) (document : Document)
    (hdocument : (db.overrideAt c path data)[id]? = some document) : P document := by
  rw [overrideAt] at hdocument
  split at hdocument
  · next a ha =>
    exact Std.ExtTreeMap.forall_getElem?_insert (P := fun _ document => P document) (hset a ha)
      (fun b d _ => h b d) id document hdocument
  · exact h id document hdocument

/-- Overriding changes nothing exactly when no document of the collection is named, or one that
has these fields. -/
theorem overrideAt_eq_self_iff :
    db.overrideAt c path data = db c ↔
      ∀ id ∈ c.id? path, ∃ document ∈ (db c)[id]?, document.merge data = document := by
  rw [overrideAt]
  split
  · next id hid => rw [Collection.override_eq_self_iff, hid]; simp
  · next hid => simp [hid]

end Database

namespace Write

@[simp] theorem apply_setAt (db : Database) (c : CollectionName) (path : String)
    (data : List (String × FieldValue)) :
    apply db (setAt c path data) c = db.overrideAt c path data := by
  rw [apply_apply, collection_setAt, Database.overrideAt, CollectionName.id?]
  by_cases hc : (c.document path).1 = c
  · rw [if_pos hc, if_pos hc.symm, applyTo_setAt]
  · rw [if_neg hc, if_neg (Ne.symm hc)]

/-- Updating a document that was just set sets it to both lists of fields. -/
@[simp] theorem apply_setAt_updateAt (db : Database) (c : CollectionName) (path : String)
    (data data' : List (String × FieldValue)) :
    apply (apply db (setAt c path data)) (updateAt c path data') =
      apply db (setAt c path (data ++ data')) := by
  ext1 c'
  rw [apply_apply, apply_apply, apply_apply, collection_updateAt, collection_setAt,
    collection_setAt]
  by_cases hc : c' = (c.document path).1
  · rw [if_pos hc, if_pos hc, if_pos hc, applyTo_setAt, applyTo_setAt, updateAt, applyTo,
      if_pos (Collection.mem_override_self ..), Collection.override_override]
  · rw [if_neg hc, if_neg hc, if_neg hc]

end Write

/-- A write changes what is read of its own document only. -/
theorem Write.read_apply (db : Database) (w : Write) (c : CollectionName) (path : String) :
    (apply db w).read c path =
      if w.document = c.document path then w.applyToDocument (db.read c path)
      else db.read c path := getElem?_apply ..

/-- The document that was just set is there, with what was set. -/
theorem Write.read_apply_setAt (db : Database) (c : CollectionName) (path : String)
    (data : List (String × FieldValue)) :
    (apply db (setAt c path data)).read c path = some (((db.read c path).getD ∅).merge data) := by
  rw [read_apply, document_setAt, if_pos rfl]
  rfl

/-- Two paths that name one document read the same. -/
theorem Database.read_congr {c : CollectionName} {path path' : String}
    (h : c.document path = c.document path') (db : Database) :
    db.read c path = db.read c path' := by
  rw [read, h, read]

/-- The document of the collection that a path names is the one that is read. -/
theorem Database.read_of_id? {c : CollectionName} {path id : String} (h : c.id? path = some id)
    (db : Database) : db.read c path = (db c)[id]? := by
  rw [read, CollectionName.id?_eq_some.1 h]

/-- Every document has an id by which it can be named. -/
def Database.Addressed (db : Database) : Prop :=
  ∀ (c : CollectionName), ∀ id ∈ db c, IsDocumentID id

namespace Database

theorem addressed_empty : Database.empty.Addressed := fun _ id hid => by
  simp [Database.empty] at hid

theorem Addressed.apply {db : Database} {w : Write} (h : db.Addressed)
    (hw : IsDocumentID w.document.2) : Addressed (Write.apply db w) := by
  intro c id hid
  rw [Write.apply_apply] at hid
  split at hid
  · rcases Write.mem_applyTo hid with rfl | hold
    · exact hw
    · exact h c id hold
  · exact h c id hid

theorem Addressed.setAt {db : Database} (h : db.Addressed) (hpath : IsDocumentPath path) :
    Addressed (Write.apply db (.setAt c path data)) := h.apply (hpath.isDocumentID c)

theorem Addressed.updateAt {db : Database} (h : db.Addressed) (hpath : IsDocumentPath path) :
    Addressed (Write.apply db (.updateAt c path data)) := h.apply (hpath.isDocumentID c)

theorem Addressed.applyAll {db : Database} {ws : List Write} (h : db.Addressed)
    (hws : ∀ w ∈ ws, IsDocumentID w.document.2) : Addressed (Write.applyAll db ws) :=
  List.foldlRecOn ws Write.apply h fun _ hdb w hw => hdb.apply (hws w hw)

end Database

end LibraryManagement
