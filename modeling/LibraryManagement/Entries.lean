import LibraryManagement.Lib.Shape
import LibraryManagement.Lib.Triple
import LibraryManagement.UserDefaults

/-!
# What the entries of `UserDefaults` hold

The app has keys of its own, each for one kind of values, and caches documents under their
ids. `Entries` is what is known about the entries at some point: which documents are cached,
which of the app's keys are set, and whether `"check"` holds the flag of a duplicate test.

`Handler.Spec P h Q` is a triple that rules out one trap: `h` forces no entry that is missing
or of another type.
-/

namespace LibraryManagement

/-- What a key of the app is for. -/
inductive KeyKind
  | strings | count | check | documents | document
  /-- The id of the document whose row was tapped. -/
  | current
deriving DecidableEq

/-- The keys of the app. Every other key is the id of a document. -/
def kind : String → Option KeyKind
  | "ID_students" => some .strings
  | "ID_rules" => some .strings
  | "ID_books" => some .strings
  | "listBook" => some .strings
  | "listID" => some .strings
  | "count" => some .count
  | "check" => some .check
  | "data" => some .documents
  | "current_user" => some .document
  | "current_rule" => some .document
  | "ID_current_student" => some .current
  | "ID_current_book" => some .current
  | "ID_current_bc" => some .current
  | _ => none

structure Entries where
  /-- The documents that are cached. -/
  ids : List String
  /-- The flag of a duplicate test is still to be read. -/
  testing : Bool
  /-- The keys that are set. -/
  assigned : Set String

namespace Entries

/-- The values a key of this kind can hold. -/
def values (E : Entries) : KeyKind → Set Value
  | .strings => {v | ∃ xs, v.strings? = some xs}
  | .count => {v | ∃ n, v.int? = some n}
  | .check => {v | (∃ n, v.int? = some n) ∧ (E.testing = true → ∃ b, v = .bool b)}
  | .documents => {v | ∃ ds, v.dictionaries? = some ds}
  | .document => {v | ∃ d, v.dictionary? = some d}
  | .current => {v | ∃ id ∈ E.ids, v = .string id}

def shape (E : Entries) : Shape String Value where
  allows key := match kind key with
    | some k => E.values k
    | none => {v | key ∈ E.ids → ∃ d, v = .dictionary d}
  assigned := E.assigned

def Holds (E : Entries) (d : Device) : Prop := E.shape.Meets d.temp

/-- The cached documents have entries, and none of them stands under a key of the app. -/
def Plain (E : Entries) : Prop := ∀ id ∈ E.ids, kind id = none ∧ id ∈ E.assigned

/-- More keys are set. -/
def assign (E : Entries) (keys : List String) : Entries :=
  { E with assigned := E.assigned ∪ {key | key ∈ keys} }

/-- One more document is cached. -/
def cache (E : Entries) (id : String) : Entries :=
  ⟨id :: E.ids, E.testing, insert id E.assigned⟩

/-- A duplicate test is started or over. -/
def test (E : Entries) (testing : Bool) : Entries := { E with testing := testing }

variable {E E' : Entries} {d : Device} {key id : String} {k : KeyKind} {v : Value}

theorem mem_allows (hk : kind key = some k) : v ∈ E.shape.allows key ↔ v ∈ E.values k := by
  simp only [shape, hk]

theorem mem_allows_of_none (hk : kind key = none) :
    v ∈ E.shape.allows key ↔ (key ∈ E.ids → ∃ d, v = .dictionary d) := by
  simp only [shape, hk]
  rfl

theorem Plain.cache (hE : E.Plain) (hid : kind id = none) : (E.cache id).Plain := by
  intro a ha
  rcases List.mem_cons.1 ha with rfl | ha
  · exact ⟨hid, Set.mem_insert _ _⟩
  · exact ⟨(hE a ha).1, Set.mem_insert_of_mem _ (hE a ha).2⟩

theorem Plain.assign (hE : E.Plain) (keys : List String) : (E.assign keys).Plain :=
  fun a ha => ⟨(hE a ha).1, .inl (hE a ha).2⟩

/-- With more documents cached a key can hold more. -/
theorem values_mono (hids : E.ids ⊆ E'.ids) (htesting : E'.testing = true → E.testing = true) :
    E.values k ⊆ E'.values k := by
  intro v hv
  cases k with
  | check => exact ⟨hv.1, fun h => hv.2 (htesting h)⟩
  | current =>
    obtain ⟨id, hid, hv⟩ := hv
    exact ⟨id, hids hid, hv⟩
  | _ => exact hv

/-- The same documents cached, no new test, and no new key. -/
theorem Holds.mono (h : E.Holds d) (hids : E'.ids = E.ids)
    (htesting : E'.testing = true → E.testing = true) (hassigned : E'.assigned ⊆ E.assigned) :
    E'.Holds d := by
  refine Shape.Meets.mono h ⟨fun key v hv => ?_, hassigned⟩
  cases hk : kind key with
  | none =>
    rw [mem_allows_of_none hk] at hv ⊢
    exact hids ▸ hv
  | some k =>
    rw [mem_allows hk] at hv ⊢
    exact values_mono (by simp [hids]) htesting hv

theorem Holds.of_assign {keys : List String} (h : (E.assign keys).Holds d) : E.Holds d :=
  h.mono rfl id Set.subset_union_left

/-- Setting a key of the app. -/
theorem Holds.insert (h : E.Holds d) (hk : kind key = some k) (hv : v ∈ E.values k) :
    (E.assign [key]).Holds { d with temp := d.temp.insert key v } := by
  refine Shape.Meets.insert h ?_ (fun a _ w hw => hw) fun a ha => ?_
  · rwa [mem_allows hk]
  · rcases ha with ha | ha
    · exact .inr ha
    · exact .inl (List.mem_singleton.1 ha)

/-- Raising or lowering the flag of a test. -/
theorem Holds.insert_flag (h : E.Holds d) (b testing : Bool) :
    ((E.test testing).assign ["check"]).Holds
      { d with temp := d.temp.insert "check" (.bool b) } := by
  refine Shape.Meets.insert h ?_ (fun a hne w hw => ?_) fun a ha => ?_
  · rw [mem_allows (k := .check) rfl]
    exact ⟨⟨_, rfl⟩, fun _ => ⟨b, rfl⟩⟩
  · cases hk : kind a with
    | none => rwa [mem_allows_of_none hk] at hw ⊢
    | some k =>
      rw [mem_allows hk] at hw ⊢
      cases k with
      | check =>
        refine absurd ?_ hne
        unfold kind at hk
        split at hk <;> simp_all
      | _ => exact hw
  · rcases ha with ha | ha
    · exact .inr ha
    · exact .inl (List.mem_singleton.1 ha)

/-- Caching a document under an id that is none of the keys of the app. -/
theorem Holds.insert_document (h : E.Holds d) (hid : kind id = none) (document : Document) :
    (E.cache id).Holds { d with temp := d.temp.insert id (.dictionary document) } := by
  refine Shape.Meets.insert h ?_ (fun a hne w hw => ?_) fun a ha => ha
  · rw [mem_allows_of_none hid]
    exact fun _ => ⟨document, rfl⟩
  · cases hk : kind a with
    | none =>
      rw [mem_allows_of_none hk] at hw ⊢
      exact fun ha => hw ((List.mem_cons.1 ha).resolve_left hne)
    | some k =>
      rw [mem_allows hk] at hw ⊢
      have hids : E.ids ⊆ (E.cache id).ids := List.subset_cons_self _ _
      exact values_mono hids (fun htesting => htesting) hw

end Entries

/-! ## Handlers -/

namespace Handler

variable {α β : Type} {P P' : Device → Prop} {Q Q' : α → Device → Prop} {h : Handler α}
  {E : Entries} {key id path : String} {d d' : Device}

/-- The handler forces no entry that is missing or of another type. -/
def Spec (P : Device → Prop) (h : Handler α) (Q : α → Device → Prop) : Prop :=
  Traps.Triple {e | e ≠ .missingEntry} P h Q

namespace Spec

theorem pure {a : α} (h : ∀ d, P d → Q a d) : Spec P (pure a) Q := Traps.Triple.pure h

theorem bind {f : α → Handler β} {R : β → Device → Prop} (hx : Spec P h Q)
    (hf : ∀ a, Spec (Q a) (f a) R) : Spec P (h >>= f) R := Traps.Triple.bind hx hf

theorem read {f : α → Handler β} {R : β → Device → Prop} {φ : α → Prop}
    (hx : Spec P h fun a d => φ a ∧ P' d) (hf : ∀ a, φ a → Spec P' (f a) R) :
    Spec P (h >>= f) R := Traps.Triple.read hx hf

theorem weaken (hx : Spec P h Q) (hP : ∀ d, P' d → P d) (hQ : ∀ a d, Q a d → Q' a d) :
    Spec P' h Q' := Traps.Triple.weaken hx hP hQ

theorem post (hx : Spec P h Q) (hQ : ∀ a d, Q a d → Q' a d) : Spec P h Q' :=
  hx.weaken (fun _ hd => hd) hQ

/-- A computation may be followed from each single state. -/
theorem of_state (hx : ∀ d, P d → Spec (fun d' => d' = d) h Q) : Spec P h Q :=
  fun d hd => hx d hd d rfl

theorem unwrap {o : Option α} : Spec P (Traps.unwrap o) fun a d => o = some a ∧ P d :=
  Traps.Triple.unwrap (by simp)

theorem cast {o : Option α} : Spec P (Traps.cast o) fun a d => o = some a ∧ P d :=
  Traps.Triple.cast (by simp)

theorem checked {o : Option α} : Spec P (Traps.checked o) fun a d => o = some a ∧ P d :=
  Traps.Triple.checked (by simp)

theorem index {xs : List α} {i : ℕ} :
    Spec P (Traps.index xs i) fun a d => xs[i]? = some a ∧ P d :=
  Traps.Triple.index (by simp)

theorem mapM {f : α → Handler β} {xs : List α} (hf : ∀ a, Spec P (f a) fun _ => P) :
    Spec P (xs.mapM f) fun _ => P := Traps.Triple.mapM hf

theorem foldlM {f : β → α → Handler β} {xs : List α} (hf : ∀ b a, Spec P (f b a) fun _ => P)
    (b : β) : Spec P (xs.foldlM f b) fun _ => P := Traps.Triple.foldlM hf b

theorem document :
    Spec P (document path) fun id d => (IsDocumentPath path ∧ path = id) ∧ P d := by
  unfold Handler.document
  split
  · next h => exact pure fun d hd => ⟨⟨h, rfl⟩, hd⟩
  · exact Traps.Triple.throw (by simp)

/-- What `UserDefaults` holds stays when a write is handed to Firestore. -/
theorem write {w : Write} : Spec E.Holds (write w) fun _ => E.Holds := fun _ hd => hd

theorem setData {c : CollectionName} {data : List (String × FieldValue)} :
    Spec E.Holds (setData c path data) fun _ => E.Holds :=
  document.read fun _ _ => write

theorem updateData {c : CollectionName} {data : List (String × FieldValue)} :
    Spec E.Holds (updateData c path data) fun _ => E.Holds :=
  document.read fun _ _ => write

theorem addDocument {c : CollectionName} {data : List (String × FieldValue)} :
    Spec E.Holds (addDocument c id data) fun _ => E.Holds := write

/-! ### Reading entries -/

/-- Reading an entry in a known state. -/
theorem forced_at {as? : Value → Option α} (hsome : ∃ a, d.temp[key]?.bind as? = some a) :
    Spec (fun d' => d' = d) (forced key as?) fun a d' => d.temp[key]?.bind as? = some a ∧ d' = d := by
  rintro d' rfl
  obtain ⟨a, ha⟩ := hsome
  rw [forced_apply, ha]
  exact ⟨rfl, rfl⟩

theorem exists_of_assigned {k : KeyKind} (hd : E.Holds d) (hkey : key ∈ E.assigned)
    (hk : kind key = some k) {as? : Value → Option α}
    (has : ∀ v ∈ E.values k, ∃ a, as? v = some a) : ∃ a, d.temp[key]?.bind as? = some a := by
  obtain ⟨v, hv, hget⟩ := hd.exists_of_assigned hkey
  obtain ⟨a, ha⟩ := has v ((Entries.mem_allows hk).1 hv)
  exact ⟨a, by rw [hget, Option.bind_some, ha]⟩

/-- Reading a key of the app that is set, by a cast that suits its kind. -/
theorem forced {k : KeyKind} (hk : kind key = some k) (hkey : key ∈ E.assigned)
    {as? : Value → Option α} (has : ∀ v ∈ E.values k, ∃ a, as? v = some a) :
    Spec E.Holds (forced key as?) fun _ => E.Holds := by
  intro d hd
  obtain ⟨a, ha⟩ := exists_of_assigned hd hkey hk has
  rw [forced_apply, ha]
  exact hd

theorem forced_strings (hk : kind key = some .strings) (hkey : key ∈ E.assigned) :
    Spec E.Holds (Handler.forced key Value.strings?) fun _ => E.Holds :=
  forced hk hkey fun _ hv => hv

theorem forced_document (hk : kind key = some .document) (hkey : key ∈ E.assigned) :
    Spec E.Holds (Handler.forced key Value.dictionary?) fun _ => E.Holds :=
  forced hk hkey fun _ hv => hv

theorem forced_count (hkey : "check" ∈ E.assigned) :
    Spec E.Holds (Handler.forced "check" Value.int?) fun _ => E.Holds :=
  forced (k := .check) rfl hkey fun _ hv => hv.1

/-- The flag of a test that is still to be read. -/
theorem forced_flag (htesting : E.testing = true) (hkey : "check" ∈ E.assigned) :
    Spec E.Holds (Handler.forced "check" Value.bool?) fun _ => E.Holds := by
  refine forced (k := .check) rfl hkey fun v hv => ?_
  obtain ⟨b, rfl⟩ := hv.2 htesting
  exact ⟨b, rfl⟩

/-- The id of the current document is that of a cached document. -/
theorem forced_current (hk : kind key = some .current) (hkey : key ∈ E.assigned) :
    Spec E.Holds (Handler.forced key Value.string?) fun id d => id ∈ E.ids ∧ E.Holds d := by
  intro d hd
  obtain ⟨v, hv, hget⟩ := Shape.Meets.exists_of_assigned hd hkey
  obtain ⟨id, hid, rfl⟩ := (Entries.mem_allows hk).1 hv
  rw [forced_apply, hget]
  exact ⟨hid, hd⟩

/-- A cached document is there, as a dictionary. -/
theorem forced_cached (hE : E.Plain) (hid : id ∈ E.ids) :
    Spec E.Holds (Handler.forced id Value.dictionary?) fun _ => E.Holds := by
  intro d hd
  obtain ⟨v, hv, hget⟩ := Shape.Meets.exists_of_assigned hd (hE id hid).2
  obtain ⟨document, rfl⟩ := (Entries.mem_allows_of_none (hE id hid).1).1 hv hid
  rw [forced_apply, hget]
  exact hd

/-! ### Writing entries -/

theorem set {k : KeyKind} {v : Value} (hk : kind key = some k) (hv : v ∈ E.values k) :
    Spec E.Holds (Handler.set key (some v)) fun _ => (E.assign [key]).Holds :=
  fun _ hd => hd.insert hk hv

theorem set_strings {xs : List String} (hk : kind key = some .strings) :
    Spec E.Holds (Handler.set key (some (.strings xs))) fun _ => (E.assign [key]).Holds :=
  set hk ⟨xs, rfl⟩

theorem set_current (hk : kind key = some .current) (hid : id ∈ E.ids) :
    Spec E.Holds (Handler.set key (some (.string id))) fun _ => (E.assign [key]).Holds :=
  set hk ⟨id, hid, rfl⟩

theorem set_flag (b testing : Bool) :
    Spec E.Holds (Handler.set "check" (some (.bool b)))
      fun _ => ((E.test testing).assign ["check"]).Holds :=
  fun _ hd => hd.insert_flag b testing

theorem set_document (hid : kind id = none) {document : Document} :
    Spec E.Holds (Handler.set id (some (.dictionary document))) fun _ => (E.cache id).Holds :=
  fun _ hd => hd.insert_document hid document

end Spec

end Handler

end LibraryManagement
