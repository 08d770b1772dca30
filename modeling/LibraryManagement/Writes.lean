import LibraryManagement.Lib.Emits
import LibraryManagement.Navigation
import LibraryManagement.Screens.Register

/-!
# What the app writes

`AppWrite` has one constructor for each place of the source that hands a write to Firestore, with
what is known about the data there. No handler writes anything else, whatever `UserDefaults` and
the database hold and whether it completes or traps (`Handler.Emits`).
-/

namespace LibraryManagement

open Handler

/-- A write of the app. A document goes by the text that the app names it by. -/
inductive AppWrite : Write → Prop
  | newBook (b : Book) : IsDocumentPath b.ID → Swift.InInt b.quantity →
      AppWrite (.setAt .books b.ID b.newData)
  | editedBook (b : Book) (ID : String) : IsDocumentPath ID → b.status = 1 →
      Swift.InInt b.quantity → AppWrite (.setAt .books ID b.detail)
  | cover (ID : String) : AppWrite
      (.updateAt .books ID [("avatarURL", .string (AddBooksViewController.coverURL ID))])
  | lentCount (ID : String) (check : ℤ) : IsDocumentPath ID → Swift.InInt check →
      AppWrite (.setAt .books ID [("check", .number check)])
  | newCard (card : BorrowCard) (id : String) : card.status = 1 → card.fine = 0 →
      AppWrite (.addDocument .borrowCard id card.data)
  | closedCard (ID endedDay : String) : IsDocumentPath ID → AppWrite
      (.setAt .borrowCard ID [("endedDay", .string endedDay), ("status", .string "0")])
  | endedDay (ID endedDay : String) : IsDocumentPath ID →
      AppWrite (.setAt .cities ID [("endedDay", .string endedDay)])
  | newStudent (s : Student) (id : String) :
      AppWrite (.addDocument .students id (s.data "1"))
  | student (s : Student) (ID : String) : IsDocumentPath ID → s.status = 1 ∨ s.status = 0 →
      AppWrite (.setAt .students ID (s.data (Swift.description s.status)))
  | rule (r : Rule) : IsDocumentPath r.title → r.content ≠ "" → AppWrite
      (.setAt .rules r.title [("title", .string r.title), ("content", .string r.content)])
  | account (form : RegisterForm) : IsDocumentPath form.email →
      AppWrite (.replaceAt .accounts form.email (RegisterViewController.account form))
  | avatar (email : String) : AppWrite
      (.updateAt .accounts email [("avatar", .string (RegisterViewController.avatarURL email))])
  | profile (form : AccountForm) : IsDocumentPath form.email →
      ¬ EditAccountViewController.Incomplete form →
        AppWrite (.setAt .accounts form.email (EditAccountViewController.profile form))

namespace AppWrite

/-- The writes of the app to these collections of the database, and to what is below them. -/
def Below (cs : List CollectionName) : Set Write := {w | AppWrite w ∧ w.document.1.root ∈ cs}

variable {c : CollectionName} {cs : List CollectionName} {path : String}
  {data : List (String × FieldValue)}

theorem setAt_below (hw : AppWrite (.setAt c path data)) (hc : c.root ∈ cs) :
    .setAt c path data ∈ Below cs := by
  refine ⟨hw, ?_⟩
  rwa [Write.document_setAt, CollectionName.root_document]

theorem updateAt_below (hw : AppWrite (.updateAt c path data)) (hc : c.root ∈ cs) :
    .updateAt c path data ∈ Below cs := by
  refine ⟨hw, ?_⟩
  rwa [Write.document_updateAt, CollectionName.root_document]

theorem replaceAt_below (hw : AppWrite (.replaceAt c path data)) (hc : c.root ∈ cs) :
    .replaceAt c path data ∈ Below cs := by
  refine ⟨hw, ?_⟩
  rwa [Write.document_replaceAt, CollectionName.root_document]

end AppWrite

/-! ## What a handler may do -/

/-- What `UserDefaults` may hold. -/
structure Holdings where
  /-- The documents that may be cached. -/
  documents : Set Document
  /-- The texts that may be listed under a key. -/
  listed : String → Set String

/-- The value may stand under the key. -/
def Value.Within (D : Holdings) (key : String) : Value → Prop
  | dictionary d => d ∈ D.documents
  | dictionaries ds => ∀ d ∈ ds, d ∈ D.documents
  | strings xs => ∀ x ∈ xs, x ∈ D.listed key
  | _ => True

def UserDefaults.Within (D : Holdings) (temp : UserDefaults) : Prop :=
  ∀ (key : String) (v : Value), temp[key]? = some v → v.Within D key

theorem Value.mem_of_dictionary? {D : Holdings} {key : String} {v : Value} (hv : v.Within D key)
    {d : Document} (h : v.dictionary? = some d) : d ∈ D.documents := by
  cases v with
  | dictionary d' =>
    obtain rfl := Option.some.inj h
    exact hv
  | _ => cases h

theorem Value.mem_of_dictionaries? {D : Holdings} {key : String} {v : Value}
    (hv : v.Within D key) {ds : List Document} (h : v.dictionaries? = some ds) :
    ∀ d ∈ ds, d ∈ D.documents := by
  cases v with
  | dictionaries ds' =>
    obtain rfl := Option.some.inj h
    exact hv
  | strings xs =>
    cases xs with
    | nil =>
      obtain rfl := Option.some.inj h
      simp
    | cons x xs => cases h
  | _ => cases h

theorem Value.mem_of_strings? {D : Holdings} {key : String} {v : Value} (hv : v.Within D key)
    {xs : List String} (h : v.strings? = some xs) : ∀ x ∈ xs, x ∈ D.listed key := by
  cases v with
  | strings xs' =>
    obtain rfl := Option.some.inj h
    exact hv
  | dictionaries ds =>
    cases ds with
    | nil =>
      obtain rfl := Option.some.inj h
      simp
    | cons d ds => cases h
  | _ => cases h

/-- What is read from the database may be held: its documents, and what the loads list. -/
structure Database.Within (D : Holdings) (db : Database) : Prop where
  documents : ∀ (c : CollectionName) (id : String) (d : Document), (db c)[id]? = some d →
    d ∈ D.documents
  students : ∀ id ∈ db .students, id ∈ D.listed "ID_students"
  books : ∀ id ∈ db .books, id ∈ D.listed "ID_books"
  cards : ∀ id ∈ db .borrowCard, id ∈ D.listed "listID"
  rules : ∀ (id : String) (d : Document) (title : String), (db .rules)[id]? = some d →
    d.string? "title" = some title → title ∈ D.listed "ID_rules"
  entries : ∀ (id : String) (d : Document) (entry : String), (db .books)[id]? = some d →
    bookEntry d = some entry → entry ∈ D.listed "listBook"

/-- These documents, and any lists. -/
def Holdings.caching (documents : Set Document) : Holdings := ⟨documents, fun _ => Set.univ⟩

theorem Database.within_caching {documents : Set Document} {db : Database} :
    db.Within (.caching documents) ↔
      ∀ (c : CollectionName) (id : String) (d : Document), (db c)[id]? = some d → d ∈ documents :=
  ⟨fun h => h.documents, fun h => ⟨h, fun _ _ => trivial, fun _ _ => trivial, fun _ _ => trivial,
    fun _ _ _ _ _ => trivial, fun _ _ _ _ _ => trivial⟩⟩

variable {α β : Type} {D : Holdings} {W W' : Set Write} {Q Q' : α → Prop}

/-- Completed or trapped, the handler hands over writes in `W` only, and `UserDefaults` holds what
it may if it did before; a result meets `Q`. -/
def Handler.Emits (D : Holdings) (W : Set Write) (h : Handler α) (Q : α → Prop) : Prop :=
  Traps.Emits (fun d : Device => d.temp.Within D) Device.writes W h Q

namespace Handler.Emits

variable {h : Handler α}

theorem pure {a : α} (ha : Q a) : Emits D W (pure a) Q := Traps.Emits.pure ha

/-- Nothing is to be known about the result. -/
theorem done {a : α} : Emits D W (Pure.pure a) fun _ => True := pure trivial

theorem bind {f : α → Handler β} {R : β → Prop} (hx : Emits D W h Q)
    (hf : ∀ a, Q a → Emits D W (f a) R) : Emits D W (h >>= f) R := Traps.Emits.bind hx hf

/-- A sequence whose second part does not depend on what the first one results in. -/
theorem next {f : α → Handler β} {R : β → Prop} (hx : Emits D W h Q)
    (hf : ∀ a, Emits D W (f a) R) : Emits D W (h >>= f) R := hx.bind fun a _ => hf a

theorem weaken (hx : Emits D W h Q) (hQ : ∀ a, Q a → Q' a) : Emits D W h Q' :=
  Traps.Emits.weaken hx hQ

theorem mono (hx : Emits D W h Q) (hW : W ⊆ W') : Emits D W' h Q := Traps.Emits.mono hx hW

theorem any (hx : Emits D W h Q) : Emits D W h fun _ => True := hx.weaken fun _ _ => trivial

/-! ## Operations -/

theorem set {key : String} {v : Option Value} (hv : ∀ w, v = some w → w.Within D key) :
    Emits D W (set key v) fun _ => True where
  inv d hd := by
    cases v with
    | some v =>
      exact Std.ExtTreeMap.forall_getElem?_insert (hv v rfl) fun a w _ hw => hd a w hw
    | none =>
      intro a w hw
      have herase : (d.temp.erase key)[a]? = some w := hw
      rw [Std.ExtTreeMap.getElem?_erase] at herase
      split at herase
      · cases herase
      · exact hd a w herase
  log d _ := ⟨[], by simp, (List.append_nil _).symm⟩
  result _ _ _ _ _ := trivial

theorem setPlain {key : String} {v : Value} (hv : v.Within D key) :
    Emits D W (Handler.set key (some v)) fun _ => True :=
  set fun w hw => by
    obtain rfl := Option.some.inj hw
    exact hv

/-- A forced entry is a value of `UserDefaults`. -/
theorem forced {key : String} {as? : Value → Option α} :
    Emits D W (forced key as?) fun a => ∃ v : Value, v.Within D key ∧ as? v = some a := by
  refine Traps.Emits.of_read (fun d => ?_) fun d d' a hd h => ?_
  · rw [Traps.final, forced_apply]
    cases d.temp[key]?.bind as? <;> rfl
  · obtain ⟨v, hv, ha⟩ := Option.bind_eq_some_iff.1 (forced_eq_ok.1 h).1
    exact ⟨v, hd key v hv, ha⟩

theorem unwrap {o : Option α} : Emits D W (Traps.unwrap o) fun a => o = some a := Traps.Emits.unwrap

theorem cast {o : Option α} : Emits D W (Traps.cast o) fun a => o = some a := Traps.Emits.cast

theorem checked {o : Option α} : Emits D W (Traps.checked o) fun a => o = some a :=
  Traps.Emits.checked

theorem index {xs : List α} {i : ℕ} : Emits D W (Traps.index xs i) fun a => xs[i]? = some a :=
  Traps.Emits.index

theorem foldlM {f : β → α → Handler β} {xs : List α} {R : β → Prop}
    (h : ∀ b, ∀ a ∈ xs, R b → Emits D W (f b a) R) {b : β} (hb : R b) :
    Emits D W (xs.foldlM f b) R :=
  Traps.Emits.foldlM h hb

theorem mapM {f : α → Handler β} {xs : List α} {R : β → Prop} (h : ∀ a ∈ xs, Emits D W (f a) R) :
    Emits D W (xs.mapM f) fun bs => ∀ b ∈ bs, R b := Traps.Emits.mapM h

theorem document {path : String} :
    Emits D W (document path) fun id => IsDocumentPath path ∧ path = id := by
  refine Traps.Emits.of_read (fun d => ?_) fun d d' a _ h => ?_
  · rw [Traps.final, document_apply]
    by_cases hpath : IsDocumentPath path <;> simp only [hpath, if_true, if_false]
  · exact ⟨(document_eq_ok.1 h).1, (document_eq_ok.1 h).2.1⟩

theorem write {w : Write} (hw : w ∈ W) : Emits D W (write w) fun _ => True where
  inv _ hd := hd
  log d _ := ⟨[w], by simpa using hw, rfl⟩
  result _ _ _ _ _ := trivial

theorem setData {c : CollectionName} {path : String} {data : List (String × FieldValue)}
    (hw : IsDocumentPath path → .setAt c path data ∈ W) :
    Emits D W (setData c path data) fun _ => True := by
  refine document.bind fun id hid => ?_
  obtain ⟨hpath, rfl⟩ := hid
  exact write (hw hpath)

theorem updateData {c : CollectionName} {path : String} {data : List (String × FieldValue)}
    (hw : .updateAt c path data ∈ W) :
    Emits D W (updateData c path data) fun _ => True := by
  refine document.bind fun id hid => ?_
  obtain ⟨-, rfl⟩ := hid
  exact write hw

theorem ite {p : Prop} [Decidable p] {h' : Handler α} (ht : p → Emits D W h Q)
    (he : ¬ p → Emits D W h' Q) : Emits D W (if p then h else h') Q := by
  split
  · next hp => exact ht hp
  · next hp => exact he hp

end Handler.Emits

end LibraryManagement
