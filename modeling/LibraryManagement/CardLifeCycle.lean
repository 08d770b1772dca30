import LibraryManagement.VisitsTheorems

/-!
# The life cycle of a card

The edit-card screen shows a card with a switch for its status. Its button looks at the switch
alone: whatever the card's status was, it closes the card and takes one off the count of lent
copies if the switch is off, and writes to another collection if it is on.
-/

namespace LibraryManagement

open Handler

/-- The number of copies that are lent by the book's own count. -/
def lentCount (db : Database) (idBook : String) : Option ℤ :=
  (db.read .books idBook).bind (·.int? "check")

/-- The number of copies a card of this status keeps lent. -/
def openness (status : String) : ℤ := if status = "1" then 1 else 0

namespace EditBorrowCardViewController.Screen

/-- The status the switch shows. -/
def status (s : Screen) : String := if s.statusIsOn then "1" else "0"

end EditBorrowCardViewController.Screen

open EditBorrowCardViewController

/-- What a confirm that shows `final` is to make of the card `id`, whose data were `card`. -/
structure FollowsLifeCycle (db : Database) (id : String) (card : Document) (final : Screen)
    (writes : List Write) : Prop where
  stored : ∃ card' ∈ (Write.applyAll db writes .borrowCard)[id]?,
    card'.Carries "status" final.status ∧ card'.Carries "endedDay" final.endedDay
  count : ∀ idBook ∈ card.string? "ID_book", ∀ status ∈ card.string? "status",
    lentCount (Write.applyAll db writes) idBook =
      (lentCount db idBook).map (· + (openness final.status - openness status))
  frame : ∀ w ∈ writes, w.document = (.borrowCard, id) ∨
    ∃ idBook ∈ card.string? "ID_book", w.document = CollectionName.books.document idBook

variable {db : Database} {student : CurrentStudent} {id asked : String} {card : Document}
  {s final : Screen} {d d' : Device}

/-- The confirm completes when the book has a count that can be lowered. -/
theorem editCard_completes {check : ℤ} (hid : IsDocumentID id)
    (h : Visits.openCard db student id d = .ok (s, asked) d') (hoff : final.statusIsOn = false)
    (hvalid : IsDocumentPath final.bookID) (hcount : lentCount db s.bookID = some check)
    (hint : Swift.InInt (check - 1)) :
    ∃ d'', Visits.editCard db student id final d = .ok () d'' := by
  obtain ⟨-, hcurrent, -, rfl, -, -⟩ := Visits.openCard_ok h
  obtain ⟨book, hbook, hcheck⟩ := Option.bind_eq_some_iff.1 hcount
  obtain ⟨field, hfield, hnumber⟩ := Option.bind_eq_some_iff.1 hcheck
  rw [Visits.editCard_eq, Traps.bind_apply, h]
  simp only [hbook]
  refine ⟨_, Traps.bind_eq_ok.2 ⟨(), _, set_eq_ok.2 rfl, confirmButton_eq_ok.2 ⟨id, ?_,
    hid.isDocumentPath, .inr ⟨hoff, hvalid, check, ?_, hint, rfl⟩⟩⟩⟩
  · -- The answer leaves the card that is edited alone.
    simpa [hfield, UserDefaults.getElem?_insert] using hcurrent
  · simpa [hfield] using hnumber

/-- What closing the card `id` hands to Firestore. -/
def closing (id idBook endedDay : String) (check : ℤ) : List Write := [
  .setData .borrowCard id [("endedDay", .string endedDay), ("status", .string "0")],
  .setAt .books idBook [("check", .number check)]]

/-- The card after it was closed. -/
theorem closing_card {idBook endedDay : String} {check : ℤ}
    (hcard : (db .borrowCard)[id]? = some card) :
    (Write.applyAll db (closing id idBook endedDay check) .borrowCard)[id]? =
      some (card.merge [("endedDay", .string endedDay), ("status", .string "0")]) := by
  rw [closing, Write.applyAll_cons, Write.applyAll_cons, Write.applyAll_nil,
    Write.apply_setAt_of_ne (by decide), Write.apply_setData,
    Collection.getElem?_override_self, hcard, Option.getD_some]

/-- The count that is stored with the closed card. -/
theorem closing_count {idBook endedDay : String} {check : ℤ} :
    lentCount (Write.applyAll db (closing id idBook endedDay check)) idBook = some check := by
  rw [closing, lentCount, Write.applyAll_cons, Write.applyAll_cons, Write.applyAll_nil,
    Write.read_apply_setAt, Option.bind_some, Document.merge_cons, Document.merge_nil,
    Document.int?_insert, if_pos rfl]
  rfl

theorem lentCount_congr {text text' : String}
    (h : CollectionName.books.document text = CollectionName.books.document text')
    (db : Database) : lentCount db text = lentCount db text' := by
  rw [lentCount, db.read_congr h, lentCount]

/-- The status of a card that is closed. -/
theorem status_of_off (hoff : final.statusIsOn = false) : final.status = "0" := by
  rw [Screen.status, hoff]
  rfl

/-- An open card that is given back with its own book follows the life cycle. -/
theorem follows_closing {check : ℤ} (hcard : (db .borrowCard)[id]? = some card)
    (hopen : card.Carries "status" "1") (hnames : IsBookOf card final.bookID)
    (hcount : lentCount db final.bookID = some check) (hoff : final.statusIsOn = false) :
    FollowsLifeCycle db id card final (closing id final.bookID final.endedDay (check - 1)) := by
  obtain ⟨-, own, hown, hsame⟩ := hnames
  refine ⟨⟨_, closing_card hcard, ?_, ?_⟩, ?_, ?_⟩
  · rw [status_of_off hoff]
    simp [Document.Carries, Document.merge_cons]
  · simp [Document.Carries, Document.merge_cons]
  · intro idBook hcarried status hstatus
    obtain rfl : own = idBook := Option.some.inj (hown.symm.trans hcarried)
    obtain rfl : "1" = status := Option.some.inj (hopen.symm.trans hstatus)
    have hchange : openness final.status - openness "1" = -1 := by
      rw [status_of_off hoff]
      decide
    rw [← lentCount_congr hsame, closing_count, ← lentCount_congr hsame, hcount, hchange]
    rfl
  · intro w hw
    rcases List.mem_cons.1 hw with rfl | hw
    · exact .inl rfl
    · obtain rfl := List.mem_singleton.1 hw
      exact .inr ⟨own, hown, hsame⟩

/-- A closing that follows the life cycle is that of an open card, with its own book, which is
stored. -/
theorem open_of_follows {temp : UserDefaults} {idBook status : String} {check : ℤ}
    (hidBook : card.Carries "ID_book" idBook) (hstatus : card.Carries "status" status)
    (hcheck : Visits.countRead temp db idBook = some check) (hoff : final.statusIsOn = false)
    (h : FollowsLifeCycle db id card final (closing id final.bookID final.endedDay (check - 1))) :
    status = "1" ∧
      CollectionName.books.document final.bookID = CollectionName.books.document idBook ∧
        lentCount db idBook = some check := by
  -- The count is written to the book that the form names.
  have hbook : CollectionName.books.document final.bookID =
      CollectionName.books.document idBook := by
    rcases h.frame _ (List.mem_cons_of_mem _ (List.mem_singleton_self _)) with
      hother | ⟨idBook', hcarried, hsame⟩
    · exact absurd (congrArg Prod.fst hother)
        (CollectionName.document_fst_ne (by rintro ⟨⟩) final.bookID)
    · obtain rfl : idBook = idBook' := Option.some.inj (hidBook.symm.trans hcarried)
      exact hsame
  have hcount := h.count _ hidBook _ hstatus
  rw [← lentCount_congr hbook, closing_count, status_of_off hoff] at hcount
  obtain ⟨count, hstored, hsum⟩ := Option.map_eq_some_iff.1 hcount.symm
  obtain ⟨book, hread, hint⟩ := Option.bind_eq_some_iff.1 hstored
  have hsame : count = check := by
    rw [Visits.countRead_of_stored _ hread] at hcheck
    exact Option.some.inj (hint.symm.trans hcheck)
  refine ⟨?_, hbook, hsame ▸ hstored⟩
  -- The count fell by one, so the card must have kept a copy lent.
  by_contra hclosed
  have hzero : openness status = 0 := if_neg hclosed
  have hzero' : openness "0" = 0 := by decide
  omega

/-- The confirm of an open screen completes and follows the life cycle exactly when the card was
open and is given back with its own book, whose count can be lowered: a card that stays open is
not written, one that is opened again neither, and one that was given back already gives its
copy back once more. -/
theorem lifeCycle_iff {d₁ : Device} (hcard : (db .borrowCard)[id]? = some card)
    (hid : IsDocumentID id) (hwrites : d.writes = [])
    (hopens : Visits.openCard db student id d = .ok (s, asked) d₁) :
    (∃ d', Visits.editCard db student id final d = .ok () d' ∧
        FollowsLifeCycle db id card final d'.writes) ↔
      final.statusIsOn = false ∧ card.Carries "status" "1" ∧ IsBookOf card final.bookID ∧
        ∃ check, lentCount db final.bookID = some check ∧ Swift.InInt (check - 1) := by
  obtain ⟨-, -, -, -, -, stored, status, hstored, hidBook, hstatus⟩ := Visits.openCard_ok hopens
  obtain rfl : card = stored := Option.some.inj (hcard.symm.trans hstored)
  constructor
  · rintro ⟨d', h, hcycle⟩
    rcases Visits.editCard_cases h with ⟨hon, -, hcities⟩ |
      ⟨hoff, card', idBook, check, hcard', hidBook', hvalid, hint, hcheck, hclosing⟩
    · -- The only write is to another collection.
      rw [hcities, hwrites, List.nil_append] at hcycle
      have hcities := CollectionName.document_of_isDocumentID .cities hid
      rcases hcycle.frame _ (List.mem_singleton_self _) with hother | ⟨idBook, -, hother⟩
      · cases hcities.symm.trans hother
      · exact absurd (congrArg Prod.fst (hother.symm.trans hcities))
          (CollectionName.document_fst_ne (by rintro ⟨⟩) idBook)
    · obtain rfl : card = card' := Option.some.inj (hcard.symm.trans hcard')
      rw [hclosing, hwrites, List.nil_append, Write.setAt_of_isDocumentID hid] at hcycle
      obtain ⟨rfl, hsame, hcount⟩ := open_of_follows hidBook' hstatus hcheck hoff hcycle
      exact ⟨hoff, hstatus, ⟨hvalid, idBook, hidBook', hsame⟩, check,
        (lentCount_congr hsame db).trans hcount, hint⟩
  · rintro ⟨hoff, hopen, hnames, check, hcount, hint⟩
    -- The screen shows the book of the card, whose count the visit has read.
    obtain ⟨hvalid, own, hown, hsame⟩ := hnames
    obtain rfl : s.bookID = own := Option.some.inj (hidBook.symm.trans hown)
    have hshown : lentCount db s.bookID = some check := (lentCount_congr hsame db).symm.trans hcount
    obtain ⟨d', h⟩ := editCard_completes hid hopens hoff hvalid hshown hint
    refine ⟨d', h, ?_⟩
    rcases Visits.editCard_cases h with ⟨hon, -⟩ |
      ⟨-, card', idBook, check', hcard', hidBook', -, -, hcheck', hclosing⟩
    · rw [hoff] at hon
      cases hon
    · obtain rfl : card = card' := Option.some.inj (hcard.symm.trans hcard')
      obtain rfl : s.bookID = idBook := Option.some.inj (hown.symm.trans hidBook')
      obtain ⟨book, hbook, hcheck⟩ := Option.bind_eq_some_iff.1 hshown
      rw [Visits.countRead_of_stored _ hbook] at hcheck'
      obtain rfl : check = check' := Option.some.inj (hcheck.symm.trans hcheck')
      rw [hclosing, hwrites, List.nil_append, Write.setAt_of_isDocumentID hid]
      exact follows_closing hcard hopen ⟨hvalid, _, hown, hsame⟩ hcount hoff

namespace Sample

def storedCard (status : ℤ) : Document :=
  Document.merge ∅ (BorrowCard.data { idStudent := "1712001", idBook := "B1", status := status })

/-- A card of this status, and its book with one copy lent. -/
def cardDatabase (status : ℤ) : Database :=
  Function.update (Function.update Database.empty .borrowCard ((∅ : Collection).insert "K1" (storedCard status)))
    .books ((∅ : Collection).insert "B1" (Document.merge ∅
      [("ID", .string "B1"), ("name", .string "ONE"), ("quantity", .string "2"), ("check", .number 1)]))

/-- What the edit of this card hands to Firestore when the switch is off. -/
def closing : List Write := LibraryManagement.closing "K1" "B1" "03/06/2020" 0

/-- The screen of the card opens, whether it was given back or not. -/
theorem opens_openCard : ∀ status ∈ [0, 1], ∃ opened d,
    Visits.openCard (cardDatabase status) Sample.student "K1" ⟨∅, []⟩ = .ok opened d := by
  intro status hstatus
  have hopened : ∀ status ∈ [(0 : ℤ), 1], (Traps.result? (Visits.openCard (cardDatabase status)
      Sample.student "K1") ⟨∅, []⟩).isSome := by decide +kernel
  obtain ⟨⟨opened, d⟩, hsome⟩ := Option.isSome_iff_exists.1 (hopened status hstatus)
  exact ⟨opened, d, Traps.result?_eq_some.1 hsome⟩

end Sample

theorem lifeCycle_open : ∃ d', Visits.editCard (Sample.cardDatabase 1) Sample.student "K1"
    (Sample.returned "B1") ⟨∅, []⟩ = .ok () d' ∧
      FollowsLifeCycle (Sample.cardDatabase 1) "K1" (Sample.storedCard 1) (Sample.returned "B1")
        d'.writes := by
  obtain ⟨⟨s, asked⟩, d, hopens⟩ := Sample.opens_openCard 1 (by decide)
  exact (lifeCycle_iff (by decide +kernel) (by decide) rfl hopens).2
    ⟨rfl, by decide +kernel, ⟨by decide +kernel, "B1", by decide +kernel, rfl⟩, 1,
      by decide +kernel, by decide⟩

/-- A card that was given back takes one more copy off the count when it is confirmed again. -/
theorem lifeCycle_fails : ¬ ∀ (db : Database) (student : CurrentStudent) (id asked status : String)
    (card : Document) (s final : Screen) (d d₁ : Device),
    (db .borrowCard)[id]? = some card → IsDocumentID id → card.Carries "status" status →
      (status = "1" ∨ status = "0") → card.Carries "ID_book" final.bookID → d.writes = [] →
        Visits.openCard db student id d = .ok (s, asked) d₁ →
          ∃ d', Visits.editCard db student id final d = .ok () d' ∧
            FollowsLifeCycle db id card final d'.writes := by
  intro hall
  obtain ⟨⟨s, asked⟩, d, hopens⟩ := Sample.opens_openCard 0 (by decide)
  obtain ⟨d', h, hcycle⟩ := hall (Sample.cardDatabase 0) Sample.student "K1" asked "0"
    (Sample.storedCard 0) s (Sample.returned "B1") ⟨∅, []⟩ d (by decide +kernel) (by decide)
    (by decide +kernel) (.inr rfl) (by decide +kernel) rfl hopens
  have hclosing : (Traps.result? (Visits.editCard (Sample.cardDatabase 0) Sample.student "K1"
      (Sample.returned "B1")) ⟨∅, []⟩).map (·.2.writes) = some Sample.closing := by decide +kernel
  rw [Traps.result?_eq_some.2 h] at hclosing
  have hcount := hcycle.count "B1" (by decide +kernel) "0" (by decide +kernel)
  rw [show d'.writes = Sample.closing from Option.some.inj hclosing] at hcount
  revert hcount
  decide +kernel

end LibraryManagement
