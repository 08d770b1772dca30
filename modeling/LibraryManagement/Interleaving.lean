import LibraryManagement.Lib.ReadWrite
import LibraryManagement.Lib.Transition
import LibraryManagement.Interruption

/-!
# Several clients on one book

Each client has its own `UserDefaults`. A visit that borrows, returns or edits the book is
two steps: a read copies the book's lent count into `UserDefaults`, and a write stores the
copy plus one, less one, or as it is. The steps of different clients interleave freely.

The count of the book follows the shared value of `ReadWrite`, step by step
(`Follows.step`). So what the clients lose is the drift of their steps.
-/

namespace LibraryManagement

open Handler Transition

/-- What a visit to the book is for. -/
inductive Kind
  | borrow | giveBack | edit
deriving DecidableEq

/-- What a visit of this kind adds to the lent count it read. -/
def Kind.change : Kind → ℤ
  | borrow => 1
  | giveBack => -1
  | edit => 0

/-- A visit to the book, with what the screen shows. -/
inductive BookVisit
  | borrow (s : AddNewBorrowingCardViewController.Screen) (autoID : String)
  | giveBack (cardID : String) (s : EditBorrowCardViewController.Screen)
  | edit (form : BookForm)

namespace BookVisit

/-- The read of the book `id`, and the visit that waits for its confirm. There is none if no
copy is available or the row of the book is hidden. -/
def read (id : String) (document : Option Document) : BookVisit → Handler (Option BookVisit)
  | borrow s autoID => do
    let s ← AddNewBorrowingCardViewController.bookAnswer { s with id := id } document
    return if s.confirmEnabled then some (borrow s autoID) else none
  | giveBack cardID s => do
    set "ID_current_bc" (some (.string cardID))
    EditBorrowCardViewController.bookAnswer document
    return some (giveBack cardID { s with bookID := id, statusIsOn := false })
  | edit form => do
    let shown ← ManageBooksViewController.cellDelivery id document
    set "ID_current_book" (some (.string id))
    return if shown then some (edit form) else none

/-- The confirm. -/
def write (uppercased : String → String) : BookVisit → Handler Unit
  | borrow s autoID => (Operation.borrow s autoID).confirm
  | giveBack _ s => (Operation.giveBack s).confirm
  | edit form => EditInfoBookViewController.confirmButton uppercased form

/-- What the visit is for. -/
def kind : BookVisit → Kind
  | borrow _ _ => .borrow
  | giveBack _ _ => .giveBack
  | edit _ => .edit

/-- The count the visit copied into `UserDefaults`. -/
def copied (id : String) (temp : UserDefaults) : BookVisit → Option ℤ
  | borrow _ _ => temp["check"]?.bind Value.int?
  | giveBack _ _ => temp["check"]?.bind Value.int?
  | edit _ => (temp[id]?.bind Value.dictionary?).bind (Document.int? · "check")

/-- The visit is about the book `id`. -/
def Addresses (id : String) (temp : UserDefaults) : BookVisit → Prop
  | borrow s _ => s.id = id
  | giveBack _ s => s.bookID = id
  | edit _ => temp["ID_current_book"]?.bind Value.string? = some id

end BookVisit

/-- The clients `κ`: the database they share, and for each client its `UserDefaults` and the
visit that waits for its confirm. -/
structure Clients (κ : Type) where
  db : Database
  temp : κ → UserDefaults
  visit : κ → Option BookVisit

/-- A client reads the book for a visit, or confirms its visit. -/
inductive ClientStep (κ : Type)
  | read (k : κ) (visit : BookVisit)
  | write (k : κ) (kind : Kind)

variable {κ : Type}

namespace ClientStep

/-- The step on the lent count. -/
def label : ClientStep κ → ReadWrite.Label κ ℤ
  | read k _ => .read k
  | write k kind => .write k kind.change

/-- A confirm of a visit of this kind. -/
def Confirms (kind : Kind) : ClientStep κ → Bool
  | read _ _ => false
  | write _ kind' => kind' = kind

/-- No confirm stands between a visit's read and its confirm. -/
def Undisturbed (es : List (ClientStep κ)) : Prop := ReadWrite.Serial (es.map label)

end ClientStep

/-- The increments add up to the borrows less the returns. -/
theorem sum_increments (es : List (ClientStep κ)) :
    ((es.map ClientStep.label).map ReadWrite.Label.increment).sum
      = (es.countP (ClientStep.Confirms .borrow) : ℤ)
        - es.countP (ClientStep.Confirms .giveBack) := by
  induction es with
  | nil => rfl
  | cons e es ih =>
    rw [List.map_cons, List.map_cons, List.sum_cons, ih, List.countP_cons, List.countP_cons]
    cases e with
    | read k visit => simp [ClientStep.label, ReadWrite.Label.increment, ClientStep.Confirms]
    | write k kind =>
      cases kind <;>
        simp [ClientStep.label, ReadWrite.Label.increment, ClientStep.Confirms, Kind.change] <;>
        omega

variable [DecidableEq κ]

/-- How far the lent count, initially `n`, had moved between reads and confirms, in total. -/
def ClientStep.drift (n : ℤ) (es : List (ClientStep κ)) : ℤ :=
  (ReadWrite.exec (ReadWrite.State.start n) (es.map label)).drift

namespace Clients

/-- A step on the book `id`. A client without a waiting visit may read, one with a waiting
visit may confirm it. -/
def step (uppercased : String → String) (id : String) (c : Clients κ) :
    ClientStep κ → Option (Clients κ)
  | .read k visit =>
    if (c.visit k).isSome then none
    else match visit.read id (c.db.read .books id) ⟨c.temp k, []⟩ with
      | .ok waiting d => some { c with
          temp := Function.update c.temp k d.temp
          visit := Function.update c.visit k waiting }
      | .error _ _ => none
  | .write k kind => (c.visit k).bind fun visit =>
    if visit.kind = kind then
      match visit.write uppercased ⟨c.temp k, []⟩ with
      | .ok _ d => some {
          db := Write.applyAll c.db d.writes
          temp := Function.update c.temp k d.temp
          visit := Function.update c.visit k none }
      | .error _ _ => none
    else none

/-- The lent count of the book. -/
def check (c : Clients κ) (id : String) : Option ℤ :=
  (c.db.read .books id).bind (Document.int? · "check")

end Clients

/-! ## One step -/

section

variable {uppercased : String → String} {id : String} {d d' : Device} {visit : BookVisit}

/-- A visit that waits after a read copied the lent count of the book. -/
theorem BookVisit.read_ok {book : Document} {n : ℤ} {waiting : Option BookVisit}
    (h : visit.read id (some book) d = .ok waiting d') (hn : book.int? "check" = some n) :
    ∀ v ∈ waiting, v.Addresses id d'.temp ∧ ∀ m ∈ v.copied id d'.temp, m = n := by
  intro v hv
  cases visit with
  | borrow s autoID =>
    simp only [read, Traps.bind_eq_ok, Traps.pure_eq_ok] at h
    obtain ⟨s', _, hanswer, rfl, rfl⟩ := h
    obtain ⟨quantity, check, -, hcheck, ⟨-, rfl, rfl⟩ | ⟨-, rfl, rfl⟩⟩ :=
      AddNewBorrowingCardViewController.bookAnswer_some_eq_ok.1 hanswer
    · obtain rfl := Option.some.inj (hcheck.symm.trans hn)
      obtain rfl := Option.some.inj hv
      refine ⟨rfl, fun m hm => ?_⟩
      simpa [copied, UserDefaults.getElem?_insert, eq_comm] using hm
    · -- A button without a copy waits for nothing.
      cases hv
  | giveBack cardID s =>
    simp only [read, Traps.bind_eq_ok, set_eq_ok, Traps.pure_eq_ok] at h
    obtain ⟨_, _, rfl, _, _, hanswer, rfl, rfl⟩ := h
    obtain ⟨-, -, -, hcount⟩ := EditBorrowCardViewController.bookAnswer_ok hanswer
    obtain rfl := Option.some.inj hv
    refine ⟨rfl, fun m hm => ?_⟩
    rw [copied, hcount book rfl, Document.int?_ofField] at hm
    exact Option.some.inj (hm.symm.trans hn)
  | edit form =>
    simp only [read, Traps.bind_eq_ok, set_eq_ok, Traps.pure_eq_ok] at h
    obtain ⟨shown, _, hcell, _, _, rfl, rfl, rfl⟩ := h
    obtain ⟨data, name, hdata, -, ⟨-, rfl, rfl⟩ | ⟨-, rfl, rfl⟩⟩ :=
      ManageBooksViewController.cellDelivery_ok hcell
    · obtain rfl := Option.some.inj hdata
      obtain rfl := Option.some.inj hv
      refine ⟨by simp [Addresses], fun m hm => ?_⟩
      obtain ⟨document, hdoc, hm⟩ := Option.bind_eq_some_iff.1 hm
      obtain ⟨-, hdoc⟩ := (UserDefaults.bind_getElem?_insert_of_none rfl).1 hdoc
      simp only [UserDefaults.getElem?_insert, if_true, Option.bind_some,
        Value.dictionary?_dictionary, Option.some.injEq] at hdoc
      subst hdoc
      exact Option.some.inj (hm.symm.trans hn)
    · cases hv

/-- A confirm stores the copied count plus the change. -/
theorem BookVisit.write_ok {u : Unit} {temp : UserDefaults}
    (h : visit.write uppercased ⟨temp, []⟩ = .ok u d) (hid : visit.Addresses id temp) :
    ∃ m ∈ visit.copied id temp, ∀ db : Database,
      ((Write.applyAll db d.writes).read .books id).bind (Document.int? · "check")
        = some (m + visit.kind.change) := by
  cases visit with
  | borrow s autoID =>
    simp only [write, Operation.confirm, Traps.bind_eq_ok,
      AddNewBorrowingCardViewController.confirmAction_eq_ok,
      AddNewBorrowingCardViewController.okAction_eq_ok, exists_const, exists_eq_left'] at h
    obtain ⟨-, check, hcheck, -, rfl⟩ := h
    obtain rfl : s.id = id := hid
    refine ⟨check, hcheck, fun db => ?_⟩
    simp [Write.read_apply_setAt, Document.merge_cons, kind, Kind.change]
  | giveBack cardID s =>
    obtain ⟨ID, -, -, ⟨hon, -⟩ | ⟨-, -, check, hcheck, -, rfl⟩⟩ :=
      EditBorrowCardViewController.confirmButton_eq_ok.1 h
    · cases hon
    · obtain rfl : s.bookID = id := hid
      refine ⟨check, hcheck, fun db => ?_⟩
      simp [Write.read_apply_setAt, Document.merge_cons, kind, Kind.change, sub_eq_add_neg]
  | edit form =>
    obtain ⟨ID, document, avatarURL, check, quantity, hID, hdoc, -, hcheck, -, -, rfl⟩ :=
      EditInfoBookViewController.confirmButton_eq_ok.1 h
    obtain rfl := Option.some.inj (hID.symm.trans hid)
    refine ⟨check, ?_, fun db => ?_⟩
    · rw [Option.mem_def, copied, hdoc]
      exact hcheck
    · simp [Write.read_apply_setAt, Book.detail, Document.merge_cons, kind, Kind.change]

end

/-! ## The clients follow the shared count -/

/-- The lent count of the book is the shared value, and a waiting visit has copied it. -/
structure Follows (id : String) (c : Clients κ) (s : ReadWrite.State κ ℤ) : Prop where
  check : c.check id = some s.shared
  waiting : ∀ k, ∀ v ∈ c.visit k, v.Addresses id (c.temp k) ∧
    ∀ m ∈ v.copied id (c.temp k), m = s.copy k

/-- Every step of the clients is the same step on the shared value. -/
theorem Follows.step {uppercased : String → String} {id : String} {c c' : Clients κ}
    {s : ReadWrite.State κ ℤ} {e : ClientStep κ} (hc : Follows id c s)
    (h : Clients.step uppercased id c e = some c') : Follows id c' (ReadWrite.step s e.label) := by
  obtain ⟨book, hbook, hn⟩ := Option.bind_eq_some_iff.1 hc.check
  cases e with
  | read k visit =>
    simp only [Clients.step, hbook] at h
    split at h
    · cases h
    split at h
    · next waiting d hread =>
      obtain rfl := Option.some.inj h
      refine ⟨hc.check, fun j v hv => ?_⟩
      -- Only the entries of the client that reads change.
      by_cases hj : j = k
      · subst hj
        simp only [Function.update_self] at hv
        simpa [ClientStep.label, ReadWrite.step] using BookVisit.read_ok hread hn v hv
      · simp only [Function.update_of_ne hj] at hv
        simpa [ClientStep.label, ReadWrite.step, hj] using hc.waiting j v hv
    · cases h
  | write k kind =>
    simp only [Clients.step, Option.bind_eq_some_iff] at h
    obtain ⟨visit, hvisit, h⟩ := h
    split at h
    · next hkind =>
      split at h
      · next u d hwrite =>
        obtain rfl := Option.some.inj h
        obtain ⟨haddress, hcopy⟩ := hc.waiting k visit hvisit
        obtain ⟨m, hm, hstored⟩ := BookVisit.write_ok hwrite haddress
        obtain rfl := hcopy m hm
        refine ⟨?_, fun j v hv => ?_⟩
        · rw [Clients.check, hstored, hkind]
          rfl
        · by_cases hj : j = k
          · subst hj
            simp at hv
          · simp only [Function.update_of_ne hj] at hv
            simpa [ClientStep.label, ReadWrite.step, hj] using hc.waiting j v hv
      · cases h
    · cases h

theorem Follows.run {uppercased : String → String} {id : String} {c c' : Clients κ}
    {s : ReadWrite.State κ ℤ} {es : List (ClientStep κ)} (hc : Follows id c s)
    (h : Run (Steps (Clients.step uppercased id)) c es c') :
    Follows id c' (ReadWrite.exec s (es.map ClientStep.label)) := by
  induction h with
  | nil => exact hc
  | snoc _ hstep ih =>
    rw [List.map_append, ReadWrite.exec_append]
    exact ih.step hstep

/-- After any interleaving the lent count is the initial one plus the borrows less the
returns, less the drift: so it is right exactly when the drift is zero, and in particular
when no confirm stands between a visit's read and its confirm. -/
theorem check_of_interleaving {uppercased : String → String} {id : String} {c c' : Clients κ}
    {es : List (ClientStep κ)} {n : ℤ} (hidle : ∀ k, c.visit k = none)
    (hn : c.check id = some n) (h : Run (Steps (Clients.step uppercased id)) c es c') :
    (c'.check id = some (n + es.countP (ClientStep.Confirms .borrow)
        - es.countP (ClientStep.Confirms .giveBack)) ↔ ClientStep.drift n es = 0) ∧
      c'.check id = some (n + es.countP (ClientStep.Confirms .borrow)
        - es.countP (ClientStep.Confirms .giveBack) - ClientStep.drift n es) ∧
      (ClientStep.Undisturbed es → ClientStep.drift n es = 0) := by
  have hstart : Follows id c (ReadWrite.State.start n) :=
    ⟨hn, fun k v hv => by simp [hidle k] at hv⟩
  have hcheck := (hstart.run h).check
  rw [ReadWrite.shared_exec, sum_increments] at hcheck
  have hlaw : c'.check id = some (n + es.countP (ClientStep.Confirms .borrow)
      - es.countP (ClientStep.Confirms .giveBack) - ClientStep.drift n es) := by
    rw [hcheck, ClientStep.drift, ← add_sub_assoc]
  refine ⟨?_, hlaw, ReadWrite.drift_exec_of_serial n⟩
  rw [hlaw, Option.some.injEq]
  omega

namespace Sample

/-- Two clients and a book with two copies, none of them lent. -/
def desks : Clients Bool where
  db := Function.update Database.empty .books ((∅ : Collection).insert "B1"
    (Document.merge ∅ (AddBooksViewController.newBook Swift.asciiUppercased
      (form "B1" "One" "2") 2).newData))
  temp _ := ∅
  visit _ := none

/-- The borrow screen, with the book picked. -/
def borrowScreen : AddNewBorrowingCardViewController.Screen where
  name := "AN"
  idStudent := "1712001"
  idBook := "B1-ONE"
  startedDay := "02/06/2020"
  notice := none
  confirmEnabled := true
  id := "B1"
  bookName := "ONE"

abbrev deskStep : Clients Bool → ClientStep Bool → Option (Clients Bool) :=
  Clients.step Swift.asciiUppercased "B1"

/-- One client lends a copy, then the other takes it back. -/
def oneByOne : Reached (Steps deskStep) desks :=
  let read₁ := Reached.start.take (.read true (.borrow borrowScreen "K1")) (by decide +kernel)
  let lent := read₁.take (.write true .borrow) (by decide +kernel)
  let read₂ := lent.take (.read false (.giveBack "K1" (returned "B1"))) (by decide +kernel)
  read₂.take (.write false .giveBack) (by decide +kernel)

/-- Both clients read before either confirms its borrow. -/
def overlapping : Reached (Steps deskStep) desks :=
  let read₁ := Reached.start.take (.read true (.borrow borrowScreen "K1")) (by decide +kernel)
  let read₂ := read₁.take (.read false (.borrow borrowScreen "K2")) (by decide +kernel)
  let lent := read₂.take (.write true .borrow) (by decide +kernel)
  lent.take (.write false .borrow) (by decide +kernel)

end Sample

theorem check_of_oneByOne : Sample.desks.check "B1" = some 0 ∧
    Sample.oneByOne.state.check "B1" = some (0 + 1 - 1 - 0) :=
  have hn : Sample.desks.check "B1" = some 0 := by decide +kernel
  ⟨hn, (check_of_interleaving (fun _ => rfl) hn Sample.oneByOne.run).2.1⟩

/-- The second of two overlapping borrows stores the same count as the first. -/
theorem check_not_kept : ¬ ∀ (c c' : Clients Bool) (es : List (ClientStep Bool)) (n : ℤ),
    (∀ k, c.visit k = none) → c.check "B1" = some n →
    Run (Steps (Clients.step Swift.asciiUppercased "B1")) c es c' →
    (∀ k, c'.visit k = none) →
      c'.check "B1" = some (n + es.countP (ClientStep.Confirms .borrow)
        - es.countP (ClientStep.Confirms .giveBack)) := by
  intro hall
  have hn : Sample.desks.check "B1" = some 0 := by decide +kernel
  have hkept := hall _ _ _ 0 (fun _ => rfl) hn Sample.overlapping.run
    (fun k => by cases k <;> rfl)
  have hone : Sample.overlapping.state.check "B1" = some 1 := by decide +kernel
  rw [hone] at hkept
  exact absurd hkept (by decide)

end LibraryManagement
