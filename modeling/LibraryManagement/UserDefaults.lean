import LibraryManagement.References

/-!
# UserDefaults and handlers

`UserDefaults` is one map for the whole app, from keys to property-list values. Every
screen reads and writes it, and passes what it read on to Firestore.

A handler (an `@IBAction`, a `viewDidLoad`, a completion callback) runs on the main queue
without interruption. It reads and writes `UserDefaults`, hands writes to Firestore and may
trap; a handler that traps has done everything before the trap.
-/

namespace LibraryManagement

/-- A property-list value. -/
inductive Value
  | string (s : String)
  | int (n : ℤ)
  | bool (b : Bool)
  | strings (xs : List String)
  | dictionary (d : Document)
  | dictionaries (ds : List Document)
deriving DecidableEq

namespace Value

/-- `as? String`. -/
def string? : Value → Option String
  | string s => some s
  | _ => none

/-- `as? Int`. Numbers and Booleans are both stored as an `NSNumber`, and bridging gives a
Boolean as `0` or `1`. -/
def int? : Value → Option ℤ
  | int n => some n
  | bool b => some (if b then 1 else 0)
  | _ => none

/-- `as? Bool`, which bridging gives for a Boolean and for the numbers `0` and `1`. -/
def bool? : Value → Option Bool
  | bool b => some b
  | int n => if n = 0 then some false else if n = 1 then some true else none
  | _ => none

/-- `as? Array<String>`. An empty array is one of every element type. -/
def strings? : Value → Option (List String)
  | strings xs => some xs
  | dictionaries [] => some []
  | _ => none

/-- `as? Dictionary<String,Any>`. -/
def dictionary? : Value → Option Document
  | dictionary d => some d
  | _ => none

/-- `as? Array<Dictionary<String,Any>>`. -/
def dictionaries? : Value → Option (List Document)
  | dictionaries ds => some ds
  | strings [] => some []
  | _ => none

/-- A field of a document, as `UserDefaults` stores it. -/
def ofField : FieldValue → Value
  | .string s => string s
  | .number n => int n

@[simp] theorem int?_ofField (v : FieldValue) : (ofField v).int? = v.int? := by cases v <;> rfl

@[simp] theorem string?_string (s : String) : (string s).string? = some s := rfl
@[simp] theorem int?_int (n : ℤ) : (int n).int? = some n := rfl
@[simp] theorem bool?_bool (b : Bool) : (bool b).bool? = some b := rfl
@[simp] theorem strings?_strings (xs : List String) : (strings xs).strings? = some xs := rfl
@[simp] theorem dictionary?_dictionary (d : Document) : (dictionary d).dictionary? = some d := rfl
@[simp] theorem dictionaries?_dictionaries (ds : List Document) :
    (dictionaries ds).dictionaries? = some ds := rfl

theorem string?_eq_some {v : Value} {s : String} : v.string? = some s ↔ v = string s := by
  cases v <;> simp [string?]

end Value

/-- A field that was stored as it is has the number it had in the document. -/
theorem Document.int?_ofField (document : Document) (field : String) :
    (document[field]?.map Value.ofField).bind Value.int? = document.int? field := by
  rw [Document.int?]
  cases document[field]? <;> simp

abbrev UserDefaults := Std.ExtTreeMap String Value

/-- `UserDefaults` is a map: looking a key up after one was set. -/
theorem UserDefaults.getElem?_insert (temp : UserDefaults) (k a : String) (v : Value) :
    (temp.insert k v)[a]? = if k = a then some v else temp[a]? := by
  simp [Std.ExtTreeMap.getElem?_insert]

/-- A value of another type hides what its key held before. -/
theorem UserDefaults.bind_getElem?_insert_of_none {α : Type} {temp : UserDefaults} {k a : String}
    {v : Value} {as? : Value → Option α} {x : α} (hv : as? v = none) :
    (temp.insert k v)[a]?.bind as? = some x ↔ k ≠ a ∧ temp[a]?.bind as? = some x := by
  rw [getElem?_insert]
  split
  · next h => simp [h, hv]
  · next h => simp [h]

/-! ## Handlers -/

/-- What a handler works on: `UserDefaults`, and the writes handed to Firestore so far. -/
structure Device where
  temp : UserDefaults
  writes : List Write

abbrev Handler (α : Type) := Traps Device α

namespace Handler

variable {α : Type} {d d' : Device}

/-- `temp.value(forKey: key)`. -/
def value (key : String) : Handler (Option Value) := fun d => .ok d.temp[key]? d

/-- `temp.set(v, forKey: key)`; setting `nil` removes the key. -/
def set (key : String) (v : Option Value) : Handler Unit :=
  modify fun d => { d with temp := match v with
    | some v => d.temp.insert key v
    | none => d.temp.erase key }

/-- `temp.value(forKey: key) as! T`, for the cast `as? T`. -/
def forced (key : String) (as? : Value → Option α) : Handler α := do
  match (← value key).bind as? with
  | some a => pure a
  | none => throw .missingEntry

/-- `document(path)` of a collection. A path that names no document stops the app; which one it
names is up to the collection (`CollectionName.document`). -/
def document (path : String) : Handler String :=
  if IsDocumentPath path then pure path else throw .invalidArgument

/-- Hand a write to Firestore. -/
def write (w : Write) : Handler Unit := modify fun d => { d with writes := d.writes ++ [w] }

/-- `db.collection(c).document(path).setData(data, merge: true)`. -/
def setData (c : CollectionName) (path : String) (data : List (String × FieldValue)) :
    Handler Unit := do
  write (.setAt c (← document path) data)

/-- `db.collection(c).document(path).updateData(data)`. -/
def updateData (c : CollectionName) (path : String) (data : List (String × FieldValue)) :
    Handler Unit := do
  write (.updateAt c (← document path) data)

/-- `db.collection(c).addDocument(data: data)`, for the id the client library generates. -/
def addDocument (c : CollectionName) (id : String) (data : List (String × FieldValue)) :
    Handler Unit :=
  write (.addDocument c id data)

/-! ## Evaluation -/

theorem write_apply (w : Write) (d : Device) :
    write w d = .ok () { d with writes := d.writes ++ [w] } := rfl

theorem forced_apply (key : String) (as? : Value → Option α) (d : Device) :
    forced key as? d = match d.temp[key]?.bind as? with
      | some a => .ok a d
      | none => .error .missingEntry d := by
  simp only [forced, Traps.bind_apply, value]
  cases d.temp[key]?.bind as? <;> rfl

theorem document_apply (path : String) (d : Device) :
    document path d = if IsDocumentPath path then .ok path d else .error .invalidArgument d := by
  unfold document
  split <;> rfl

/-! ## What a completed operation did -/

@[simp] theorem set_eq_ok {key : String} {v : Option Value} {u : Unit} :
    set key v d = .ok u d' ↔ { d with temp := match v with
      | some v => d.temp.insert key v
      | none => d.temp.erase key } = d' := by
  show EStateM.Result.ok () _ = .ok u d' ↔ _
  simp

@[simp] theorem forced_eq_ok {key : String} {as? : Value → Option α} {a : α} :
    forced key as? d = .ok a d' ↔ d.temp[key]?.bind as? = some a ∧ d = d' := by
  rw [forced_apply]
  cases d.temp[key]?.bind as? <;> simp

@[simp] theorem document_eq_ok {path id : String} :
    document path d = .ok id d' ↔ IsDocumentPath path ∧ path = id ∧ d = d' := by
  unfold document
  split
  · next h => simp [h]
  · next h => simp [h]

/-- Referring to one document for each id of a list. -/
@[simp] theorem mapM_document_eq_ok {ids ids' : List String} :
    ids.mapM document d = .ok ids' d' ↔ (∀ id ∈ ids, IsDocumentPath id) ∧ ids = ids' ∧ d = d' := by
  induction ids generalizing ids' d' with
  | nil => simp
  | cons id ids ih =>
    simp only [List.mapM_cons, Traps.bind_eq_ok, document_eq_ok, ih, Traps.pure_eq_ok, and_assoc,
      exists_and_left, exists_eq_left', List.forall_mem_cons]

@[simp] theorem write_eq_ok {w : Write} {u : Unit} :
    write w d = .ok u d' ↔ { d with writes := d.writes ++ [w] } = d' := by
  show EStateM.Result.ok () _ = .ok u d' ↔ _
  simp

end Handler

end LibraryManagement
