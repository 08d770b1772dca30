import LibraryManagement.Lib.Lists
import LibraryManagement.Screens.StudentsTheorems

/-!
# What the listener of a student's screen publishes

The listener filters a snapshot of the cards in one loop with three accumulators, and publishes
them under three keys; the borrowing list indexes two of them in parallel, up to the third. Its
delivery completes on every snapshot whose cards name their students, and the three values are
one list: the student's cards with their ids, in the order of the snapshot.
-/

namespace LibraryManagement

open Handler EditInfoStudentViewController

/-- Every card names its student. -/
def NamesStudents (cards : Collection) : Prop :=
  ∀ (id : String) (card : Document), cards[id]? = some card →
    ∃ studentID, card.Carries "ID_student" studentID

/-- The cards under `"data"`, with their ids under `"listID"`. -/
def published (temp : UserDefaults) : List (String × Document) :=
  ((temp["listID"]?.bind Value.strings?).getD []).zip
    ((temp["data"]?.bind Value.dictionaries?).getD [])

/-- The three published values agree: they are the cards of the student, and their number. -/
structure PublishesOwn (studentID : String) (cards : Collection) (temp : UserDefaults) : Prop where
  agrees : ∃ (count : ℤ) (data : List Document) (listID : List String),
    temp["count"]?.bind Value.int? = some count ∧
    temp["data"]?.bind Value.dictionaries? = some data ∧
    temp["listID"]?.bind Value.strings? = some listID ∧
    count = data.length ∧ count = listID.length ∧
    ∀ i : ℕ, i < count → ∃ id card, listID[i]? = some id ∧ data[i]? = some card ∧
      cards[id]? = some card
  own : published temp = cards.toList.filter fun card => card.2.Carries "ID_student" studentID

variable {studentID : String} {cards : Collection} {d : Device}

/-! ## The loop completes -/

/-- The counter stays in `Int` if it would with every card counted. -/
theorem addCard_foldlM_completes {entries : List (String × Document)} {found : Cards}
    (hnames : ∀ card ∈ entries, ∃ owner, card.2.Carries "ID_student" owner)
    (hlow : -2 ^ 63 ≤ found.count) (hhigh : found.count + entries.length < 2 ^ 63) :
    ∃ found', entries.foldlM (addCard studentID) found d = .ok found' d := by
  induction entries generalizing found with
  | nil => exact ⟨found, rfl⟩
  | cons card entries ih =>
    obtain ⟨owner, howner⟩ := hnames card List.mem_cons_self
    rw [List.length_cons, Nat.cast_add, Nat.cast_one] at hhigh
    -- One card raises the count by one at most, so the rest of the cards still fit.
    have hfirst : ∃ found₁, addCard studentID found card d = .ok found₁ d ∧
        found.count ≤ found₁.count ∧ found₁.count ≤ found.count + 1 := by
      by_cases hown : owner = studentID
      · have hint : Swift.InInt (found.count + 1) := ⟨by omega, by omega⟩
        refine ⟨⟨found.count + 1, found.data ++ [card.2], found.ID ++ [card.1]⟩, ?_, by simp, le_rfl⟩
        simp only [addCard, Traps.bind_eq_ok, Traps.cast_eq_ok, and_assoc, exists_and_left,
          exists_eq_left']
        refine ⟨owner, howner, ?_⟩
        rw [if_pos hown]
        exact Traps.bind_eq_ok.2 ⟨found.count + 1, d,
          Traps.checked_eq_ok.2 ⟨Swift.inRange?_eq_some.2 ⟨rfl, hint⟩, rfl⟩, rfl⟩
      · refine ⟨found, ?_, le_rfl, by omega⟩
        simp only [addCard, Traps.bind_eq_ok, Traps.cast_eq_ok, and_assoc, exists_and_left,
          exists_eq_left']
        refine ⟨owner, howner, ?_⟩
        rw [if_neg hown]
        rfl
    obtain ⟨found₁, hcard, hge, hle⟩ := hfirst
    obtain ⟨found', hrest⟩ := ih (fun card hcard => hnames card (List.mem_cons_of_mem _ hcard))
      (hlow.trans hge) (by omega)
    refine ⟨found', ?_⟩
    rw [List.foldlM_cons]
    exact Traps.bind_eq_ok.2 ⟨found₁, d, hcard, hrest⟩

/-- The number of documents is that of an array. -/
theorem cardsDelivery_completes (hnames : NamesStudents cards)
    (hcount : Swift.InInt cards.toList.length) :
    ∃ d', cardsDelivery studentID cards d = .ok () d' := by
  have hcards : ∀ card ∈ cards.toList, ∃ owner, card.2.Carries "ID_student" owner := by
    intro card hcard
    exact hnames card.1 card.2 (Std.ExtTreeMap.mem_toList_iff_getElem?_eq_some.1 hcard)
  have hfolded : ∃ found, cards.toList.foldlM (addCard studentID) ⟨0, [], []⟩ d = .ok found d :=
    addCard_foldlM_completes hcards (by decide) (by simpa using hcount.2)
  obtain ⟨found, hfound⟩ := hfolded
  simp only [cardsDelivery, Traps.bind_eq_ok, set_eq_ok, exists_const]
  exact ⟨_, found, d, hfound, _, rfl, _, rfl, rfl⟩

/-! ## What it published -/

theorem listing_count (own : List (String × Document)) (temp : UserDefaults) :
    (listing own temp)["count"]?.bind Value.int? = some (own.length : ℤ) := by
  simp only [listing, UserDefaults.getElem?_insert, String.reduceEq, if_true, if_false,
    Option.bind_some, Value.int?_int]

theorem listing_listID (own : List (String × Document)) (temp : UserDefaults) :
    (listing own temp)["listID"]?.bind Value.strings? = some (own.map Prod.fst) := by
  simp only [listing, UserDefaults.getElem?_insert, if_true, Option.bind_some,
    Value.strings?_strings]

theorem published_listing (own : List (String × Document)) (temp : UserDefaults) :
    published (listing own temp) = own := by
  rw [published, listing_listID, listing_data]
  exact (List.zip_of_prod rfl rfl).symm

/-- The two lists hold at every index the id and the content of one of the student's cards. -/
theorem publishesOwn_listing (temp : UserDefaults) :
    PublishesOwn studentID cards (listing (ownCards studentID cards.toList) temp) := by
  refine ⟨⟨_, _, _, listing_count _ _, listing_data _ _, listing_listID _ _, ?_, ?_, ?_⟩,
    published_listing _ _⟩
  · rw [List.length_map]
  · rw [List.length_map]
  · intro i hi
    have hlt : i < (ownCards studentID cards.toList).length := by exact_mod_cast hi
    obtain ⟨⟨id, card⟩, hentry⟩ : ∃ entry, (ownCards studentID cards.toList)[i]? = some entry :=
      ⟨_, List.getElem?_eq_getElem hlt⟩
    have hmem : (id, card) ∈ cards.toList :=
      (List.mem_filter.1 (List.mem_of_getElem? hentry)).1
    exact ⟨id, card, by rw [List.getElem?_map, hentry]; rfl, by rw [List.getElem?_map, hentry]; rfl,
      Std.ExtTreeMap.mem_toList_iff_getElem?_eq_some.1 hmem⟩

theorem cardsDelivery_publishes {d' : Device} (h : cardsDelivery studentID cards d = .ok () d') :
    PublishesOwn studentID cards d'.temp := by
  rw [cardsDelivery_ok h]
  exact publishesOwn_listing d.temp

/-! ## Every snapshot -/

/-- A delivery publishes exactly the student's cards. It completes if every card of the snapshot
names its student, and taken over all students of the snapshot, once each, what is published is
then the whole snapshot. -/
theorem cardFilter_publishes (hcount : Swift.InInt cards.toList.length) :
    (∀ studentID d d', cardsDelivery studentID cards d = .ok () d' →
        PublishesOwn studentID cards d'.temp) ∧
      (NamesStudents cards →
        (∀ studentID d, ∃ d', cardsDelivery studentID cards d = .ok () d') ∧
          ∀ students : List String, students.Nodup →
            (∀ ID, ID ∈ students ↔ ∃ (id : String) (card : Document), cards[id]? = some card ∧
                card.Carries "ID_student" ID) →
              ∀ before after : String → Device,
                (∀ ID ∈ students, cardsDelivery ID cards (before ID) = .ok () (after ID)) →
                  (students.flatMap fun ID => published (after ID).temp).Perm cards.toList) := by
  refine ⟨fun _ _ _ => cardsDelivery_publishes, fun hnames => ⟨?_, ?_⟩⟩
  · intro studentID d
    exact cardsDelivery_completes hnames hcount
  · intro students hnodup hstudents before after hdelivered
    -- Each screen has published its class of the cards, and the classes are all of them.
    have hclasses : (students.flatMap fun ID => published (after ID).temp) =
        students.flatMap fun ID => cards.toList.filter fun card =>
          card.2.string? "ID_student" = some ID := by
      refine List.flatMap_congr fun ID hID => ?_
      exact (cardsDelivery_publishes (hdelivered ID hID)).own
    rw [hclasses]
    refine List.flatMap_filter_perm hnodup fun card hcard => ?_
    have hstored := Std.ExtTreeMap.mem_toList_iff_getElem?_eq_some.1 hcard
    obtain ⟨ID, hID⟩ := hnames card.1 card.2 hstored
    exact ⟨ID, (hstudents ID).2 ⟨card.1, card.2, hstored, hID⟩, hID⟩

namespace Sample

/-- One card of each of two students. -/
def filteredCards : Collection :=
  ((∅ : Collection).insert "K1" (Document.merge ∅
      (BorrowCard.data { idStudent := "1712001", idBook := "B1" }))).insert "K2" (Document.merge ∅
    (BorrowCard.data { idStudent := "1712002", idBook := "B2" }))

end Sample

theorem cardFilter_twoCards : ∃ d', cardsDelivery "1712001" Sample.filteredCards ⟨∅, []⟩ = .ok () d' ∧
    PublishesOwn "1712001" Sample.filteredCards d'.temp := by
  have hlisted : ∀ card ∈ Sample.filteredCards.toList,
      (card.2.string? "ID_student").isSome := by decide +kernel
  have hnames : NamesStudents Sample.filteredCards := by
    intro id card hcard
    exact Option.isSome_iff_exists.1
      (hlisted (id, card) (Std.ExtTreeMap.mem_toList_iff_getElem?_eq_some.2 hcard))
  have hcount : Swift.InInt Sample.filteredCards.toList.length := by decide +kernel
  obtain ⟨hpublishes, hcompletes⟩ := cardFilter_publishes hcount
  obtain ⟨d', h⟩ := (hcompletes hnames).1 "1712001" ⟨∅, []⟩
  exact ⟨d', h, hpublishes "1712001" ⟨∅, []⟩ d' h⟩

end LibraryManagement
