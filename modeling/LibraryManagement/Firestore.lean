import LibraryManagement.Lib.TreeMap
import Mathlib.Data.Int.Notation
import Mathlib.Logic.Function.Basic

/-!
# The Firestore database

The app stores texts and integers in the documents of a few collections. A query without
an order delivers the documents in the order of their ids, so a collection is an ordered
map from ids to documents, and a document an ordered map from field names to values.

A write either fails or takes effect as a whole (`Write.apply`). `setData(_:merge: true)`
overrides the fields it is given and creates the document if it is absent; `addDocument`
creates a document under an id the client library generates; `updateData` overrides fields
of a document that exists.
-/

namespace LibraryManagement

/-- The collections the app addresses: six of the database, and those of their documents. -/
inductive CollectionName
  | books | borrowCard | students | accounts | rules | cities
  | sub (c : CollectionName) (id name : String)
deriving Repr, DecidableEq

/-- A value the app stores in a field. -/
inductive FieldValue
  | string (s : String)
  | number (n : ℤ)
deriving Repr, DecidableEq

namespace FieldValue

/-- `as? String`. -/
def string? : FieldValue → Option String
  | string s => some s
  | number _ => none

/-- `as? Int`. -/
def int? : FieldValue → Option ℤ
  | string _ => none
  | number n => some n

@[simp] theorem string?_string (s : String) : (string s).string? = some s := rfl
@[simp] theorem string?_number (n : ℤ) : (number n).string? = none := rfl
@[simp] theorem int?_string (s : String) : (string s).int? = none := rfl
@[simp] theorem int?_number (n : ℤ) : (number n).int? = some n := rfl

theorem string?_eq_some {v : FieldValue} {s : String} : v.string? = some s ↔ v = string s := by
  cases v <;> simp

theorem int?_eq_some {v : FieldValue} {n : ℤ} : v.int? = some n ↔ v = number n := by
  cases v <;> simp

end FieldValue

/-- The data of a document. -/
abbrev Document := Std.ExtTreeMap String FieldValue

/-- The documents of a collection by their ids. -/
abbrev Collection := Std.ExtTreeMap String Document

abbrev Database := CollectionName → Collection

/-- The empty library. -/
def Database.empty : Database := fun _ => ∅

/-! ## Documents -/

namespace Document

/-- `data()[field] as? String`. -/
def string? (d : Document) (field : String) : Option String := d[field]?.bind FieldValue.string?

/-- The field holds this text. -/
def Carries (field s : String) (d : Document) : Prop := d.string? field = some s

instance (field s : String) : DecidablePred (Carries field s) :=
  fun d => inferInstanceAs (Decidable (d.string? field = some s))

/-- `data()[field] as? Int`. -/
def int? (d : Document) (field : String) : Option ℤ := d[field]?.bind FieldValue.int?

theorem string?_eq_some {d : Document} {field s : String} :
    d.string? field = some s ↔ d[field]? = some (.string s) := by
  simp only [string?, Option.bind_eq_some_iff, FieldValue.string?_eq_some, exists_eq_right]

theorem int?_eq_some {d : Document} {field : String} {n : ℤ} :
    d.int? field = some n ↔ d[field]? = some (.number n) := by
  simp only [int?, Option.bind_eq_some_iff, FieldValue.int?_eq_some, exists_eq_right]

/-- The fields of `data` override those of `d`. -/
def merge (d : Document) (data : List (String × FieldValue)) : Document := d.insertMany data

@[simp] theorem merge_nil (d : Document) : d.merge [] = d := Std.ExtTreeMap.insertMany_nil

theorem merge_cons (d : Document) (field : String) (v : FieldValue)
    (data : List (String × FieldValue)) :
    d.merge ((field, v) :: data) = merge (d.insert field v) data :=
  Std.ExtTreeMap.insertMany_cons

/-- Looking a field up after one was set. -/
theorem getElem?_insert (d : Document) (field a : String) (v : FieldValue) :
    (d.insert field v)[a]? = if field = a then some v else d[a]? := by
  simp [Std.ExtTreeMap.getElem?_insert]

@[simp] theorem string?_insert (d : Document) (field a : String) (v : FieldValue) :
    string? (d.insert field v) a = if field = a then v.string? else d.string? a := by
  rw [string?, getElem?_insert]
  split <;> rfl

@[simp] theorem int?_insert (d : Document) (field a : String) (v : FieldValue) :
    int? (d.insert field v) a = if field = a then v.int? else d.int? a := by
  rw [int?, getElem?_insert]
  split <;> rfl

theorem merge_append (d : Document) (data data' : List (String × FieldValue)) :
    d.merge (data ++ data') = (d.merge data).merge data' := by
  induction data generalizing d with
  | nil => rw [merge_nil, List.nil_append]
  | cons entry data ih => rw [List.cons_append, merge_cons, merge_cons, ih]

end Document

/-! ## Collections -/

namespace Collection

/-- The fields of `data` override those of the document `id`, which is created if absent. -/
def override (docs : Collection) (id : String) (data : List (String × FieldValue)) : Collection :=
  docs.insert id (((docs[id]?).getD ∅).merge data)

theorem getElem?_insert (docs : Collection) (id a : String) (d : Document) :
    (docs.insert id d)[a]? = if id = a then some d else docs[a]? := by
  simp [Std.ExtTreeMap.getElem?_insert]

theorem getElem?_override (docs : Collection) (id a : String) (data : List (String × FieldValue)) :
    (docs.override id data)[a]? =
      if id = a then some (((docs[id]?).getD ∅).merge data) else docs[a]? :=
  getElem?_insert ..

theorem getElem?_override_self (docs : Collection) (id : String)
    (data : List (String × FieldValue)) :
    (docs.override id data)[id]? = some (((docs[id]?).getD ∅).merge data) := by
  rw [getElem?_override, if_pos rfl]

theorem mem_override_self (docs : Collection) (id : String) (data : List (String × FieldValue)) :
    id ∈ docs.override id data := by
  simp [override]

/-- Overriding changes nothing exactly when the document is stored and has these fields. -/
theorem override_eq_self_iff {docs : Collection} {id : String} {data : List (String × FieldValue)} :
    docs.override id data = docs ↔ ∃ document ∈ docs[id]?, document.merge data = document := by
  constructor
  · intro hsame
    have hid := getElem?_override_self docs id data
    rw [hsame] at hid
    cases hdocument : docs[id]? with
    | none =>
      rw [hdocument] at hid
      cases hid
    | some document =>
      rw [hdocument, Option.getD_some] at hid
      exact ⟨document, rfl, (Option.some.inj hid).symm⟩
  · rintro ⟨document, hdocument, hmerge⟩
    have hid : docs[id]? = some document := hdocument
    refine Std.ExtTreeMap.ext_getElem? fun a => ?_
    rw [getElem?_override, hid, Option.getD_some, hmerge]
    split
    · next heq => rw [← heq, hid]
    · rfl

/-- Overriding a document twice overrides it with both lists of fields. -/
theorem override_override (docs : Collection) (id : String) (data data' : List (String × FieldValue)) :
    (docs.override id data).override id data' = docs.override id (data ++ data') := by
  refine Std.ExtTreeMap.ext_getElem? fun a => ?_
  simp only [getElem?_override, if_true, Option.getD_some, Document.merge_append]
  split <;> rfl

end Collection

/-! ## Writes -/

/-- A write the client library hands to the database. -/
inductive Write
  /-- `setData(data, merge: true)` on the document `id`. -/
  | setData (c : CollectionName) (id : String) (data : List (String × FieldValue))
  /-- `addDocument(data:)`, with the id the client library generated. -/
  | addDocument (c : CollectionName) (id : String) (data : List (String × FieldValue))
  /-- `updateData(data)` on the document `id`. -/
  | updateData (c : CollectionName) (id : String) (data : List (String × FieldValue))
deriving Repr, DecidableEq

namespace Write

/-- The collection a write addresses. -/
def collection : Write → CollectionName
  | setData c _ _ => c
  | addDocument c _ _ => c
  | updateData c _ _ => c

/-- The document a write is handed to. -/
def document : Write → CollectionName × String
  | setData c id _ => (c, id)
  | addDocument c id _ => (c, id)
  | updateData c id _ => (c, id)

/-- What the write makes of the collection it addresses. -/
def applyTo (docs : Collection) : Write → Collection
  | setData _ id data => docs.override id data
  | addDocument _ id data => docs.insert id (Document.merge ∅ data)
  | updateData _ id data =>
    if id ∈ docs then docs.override id data else docs

/-- The database after a write that took effect. -/
def apply (db : Database) (w : Write) : Database :=
  Function.update db w.collection (w.applyTo (db w.collection))

/-- The database after writes that all took effect, in order. -/
def applyAll (db : Database) (ws : List Write) : Database := ws.foldl apply db

@[simp] theorem applyAll_nil (db : Database) : applyAll db [] = db := rfl

@[simp] theorem applyAll_cons (db : Database) (w : Write) (ws : List Write) :
    applyAll db (w :: ws) = applyAll (apply db w) ws := rfl

/-- The collections after a write. -/
theorem apply_apply (db : Database) (w : Write) (c : CollectionName) :
    apply db w c = if c = w.collection then w.applyTo (db c) else db c := by
  rw [apply, Function.update_apply]
  split
  · next h => rw [h]
  · rfl

theorem mem_applyTo {docs : Collection} {w : Write} {id : String} (h : id ∈ w.applyTo docs) :
    id = w.document.2 ∨ id ∈ docs := by
  have hinsert (a : String) (d : Document) (hid : id ∈ docs.insert a d) : id = a ∨ id ∈ docs :=
    (Std.ExtTreeMap.mem_insert.1 hid).imp_left fun heq => (Std.LawfulEqCmp.eq_of_compare heq).symm
  cases w with
  | setData c a data => exact hinsert _ _ h
  | addDocument c a data => exact hinsert _ _ h
  | updateData c a data =>
    rw [applyTo] at h
    split at h
    · exact hinsert _ _ h
    · exact .inr h

/-- A write leaves every other collection alone. -/
theorem apply_of_ne (db : Database) {w : Write} {c : CollectionName} (h : c ≠ w.collection) :
    apply db w c = db c := Function.update_of_ne h _ _

theorem apply_self (db : Database) (w : Write) :
    apply db w w.collection = w.applyTo (db w.collection) := Function.update_self ..

theorem apply_setData (db : Database) (c : CollectionName) (id : String)
    (data : List (String × FieldValue)) :
    apply db (setData c id data) c = (db c).override id data := apply_self db (setData c id data)

theorem apply_addDocument (db : Database) (c : CollectionName) (id : String)
    (data : List (String × FieldValue)) :
    apply db (addDocument c id data) c = (db c).insert id (Document.merge ∅ data) :=
  apply_self db (addDocument c id data)

/-- What the write makes of its document. -/
def applyToDocument (document : Option Document) : Write → Option Document
  | setData _ _ data => some ((document.getD ∅).merge data)
  | addDocument _ _ data => some (Document.merge ∅ data)
  | updateData _ _ data => document.map (·.merge data)

theorem document_fst (w : Write) : w.document.1 = w.collection := by cases w <;> rfl

theorem document_eq_iff {w : Write} {c : CollectionName} {id : String} :
    w.document = (c, id) ↔ c = w.collection ∧ w.document.2 = id := by
  cases w <;> simp only [document, collection, Prod.mk.injEq, eq_comm]

theorem getElem?_applyTo (docs : Collection) (w : Write) (id : String) :
    (w.applyTo docs)[id]? =
      if w.document.2 = id then w.applyToDocument docs[id]? else docs[id]? := by
  cases w with
  | setData c a data =>
    rw [applyTo, Collection.getElem?_override, document]
    split
    · next hid => rw [hid, applyToDocument]
    · rfl
  | addDocument c a data => exact Collection.getElem?_insert ..
  | updateData c a data =>
    rw [applyTo, document]
    split
    · next hmem =>
      rw [Collection.getElem?_override]
      split
      · next hid =>
        obtain ⟨d, hd⟩ := Std.ExtTreeMap.mem_iff_exists_getElem?.1 hmem
        rw [← hid, hd]
        rfl
      · rfl
    · next hmem =>
      split
      · next hid =>
        rw [← hid, Std.ExtTreeMap.getElem?_eq_none hmem]
        rfl
      · rfl

/-- A write looks at one document, and changes only this one. -/
theorem getElem?_apply (db : Database) (w : Write) (c : CollectionName) (id : String) :
    (apply db w c)[id]? =
      if w.document = (c, id) then w.applyToDocument (db c)[id]? else (db c)[id]? := by
  rw [apply_apply]
  by_cases hc : c = w.collection
  · rw [if_pos hc, getElem?_applyTo]
    simp only [document_eq_iff, hc, true_and]
  · rw [if_neg hc, if_neg fun h => hc (document_eq_iff.1 h).1]

/-- Writes to different collections commute. -/
theorem apply_comm (db : Database) {w w' : Write} (h : w.collection ≠ w'.collection) :
    apply (apply db w) w' = apply (apply db w') w := by
  ext1 c
  simp only [apply_apply]
  by_cases hw : c = w.collection
  · have hw' : c ≠ w'.collection := fun heq => h (hw.symm.trans heq)
    simp only [hw, if_true, if_neg h]
  · simp only [if_neg hw]

/-- Whether a write changes anything does not depend on a write to another collection. -/
theorem apply_apply_eq_self_iff (db : Database) {w w' : Write}
    (h : w.collection ≠ w'.collection) :
    apply (apply db w) w' = apply db w ↔ apply db w' = db := by
  have hself (db : Database) :
      apply db w' = db ↔ w'.applyTo (db w'.collection) = db w'.collection :=
    Function.update_eq_self_iff
  rw [hself, hself, apply_of_ne _ h.symm]

end Write

end LibraryManagement
