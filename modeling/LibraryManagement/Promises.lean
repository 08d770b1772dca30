import LibraryManagement.EntriesTheorems
import LibraryManagement.Navigation
import Mathlib.Data.List.Perm.Basic

/-!
# What the screens of a path rely on

Which screen sets an entry and which one forces it is decided by the path between them. The
invariant of a path (`Path.Sound`) says which keys are set: those that the screens on the
stacks need, and for the rest of what they wait for, that it is set or promised by a load
that is still pending (`Path.Promised`). An answer keeps the promise of its load
(`Load.answer_spec`), so that the promises are kept when every load is answered.
-/

namespace LibraryManagement

open Handler

/-! ## Answers -/

namespace Load

/-- The answer finds what it is about, and caches no document under a key of the app. -/
def Plain (db : Database) : Load → Prop
  | account email => (db.read .accounts email).isSome
  | studentRow id => Named (db .students)[id]? → kind id = none
  | bookRow id => Named (db .books)[id]? → kind id = none
  | cardBook id => ((db.read .books id).bind (·.int? "check")).isSome
  | picked _ id => (db.read .books id).isSome
  | _ => True

instance (db : Database) : DecidablePred (Plain db)
  | account _ => inferInstanceAs (Decidable (_ = true))
  | studentRow _ => inferInstanceAs (Decidable (_ → _ = none))
  | bookRow _ => inferInstanceAs (Decidable (_ → _ = none))
  | cardBook _ => inferInstanceAs (Decidable (_ = true))
  | picked _ _ => inferInstanceAs (Decidable (_ = true))
  | students => .isTrue trivial
  | rules => .isTrue trivial
  | books => .isTrue trivial
  | listBook => .isTrue trivial
  | cards _ => .isTrue trivial
  | ruleRow _ => .isTrue trivial
  | bookTest _ _ => .isTrue trivial
  | studentTest _ _ => .isTrue trivial
  | bookStatistics => .isTrue trivial
  | studentStatistics => .isTrue trivial

end Load

/-! ## The invariant -/

/-- The entries a load sets. -/
def Load.fills : Load → List String
  | account _ => ["current_user"]
  | listBook => ["listBook"]
  | cards _ => ["count", "data", "listID"]
  | cardBook _ => ["check"]
  | _ => []

/-- The screen a load belongs to, if its answer uses the key `"check"` for a count. -/
def Load.place : Load → Option Place
  | cardBook _ => some .editBorrowCard
  | picked _ _ => some .addNewBorrowingCard
  | _ => none

namespace Place

/-- The entries that are set when the screen opens. -/
def assigned : Place → List String
  | editInfoStudent => ["ID_current_student"]
  | listBorrowingCard => ["ID_current_student", "count", "data", "listID", "ID_cards"]
  | addNewBorrowingCard => ["ID_current_student", "listBook"]
  | editBorrowCard => ["ID_current_student", "ID_current_bc"]
  | editInfoBook => ["ID_current_book"]
  | editInfoRule => ["current_rule"]
  | account => ["current_user"]
  | editAccount => ["current_user"]
  | _ => []

/-- The entries that the loads of the screen set. -/
def awaited : Place → List String
  | editInfoStudent => ["count", "data", "listID"]
  | editBorrowCard => ["check"]
  | _ => []

end Place

namespace Path

/-- The lists that the student menu sets when it appears after a login. -/
def base : List String := ["ID_students", "ID_rules", "ID_books"]

/-- The entries that the loads of a login set. -/
def session : List String := ["listBook", "current_user"]

/-- The flag of a duplicate test is still to be read. -/
def testing (p : Path) : Bool := p.adding.any fun a => decide a.Testing

/-- What is known about the entries when the keys of `K` are set. -/
def entries (p : Path) (K : Set String) : Entries := ⟨p.shown, p.testing, K⟩

/-- A key is set, or a pending load will set it. -/
def Promised (p : Path) (K : Set String) (key : String) : Prop :=
  key ∈ K ∨ ∃ l ∈ p.pending, key ∈ l.fills

/-- The keys of `K` are enough for the screens that are open. -/
structure Keys (p : Path) (K : Set String) : Prop where
  plain : (p.entries K).Plain
  base : p.tab ≠ none → ∀ key ∈ base, key ∈ K
  session : p.tab ≠ none → ∀ key ∈ session, p.Promised K key
  read : p.read = true → "current_rule" ∈ K
  assigned : ∀ tab, ∀ place ∈ p.stack tab, ∀ key ∈ place.assigned, key ∈ K
  awaited : ∀ tab, ∀ place ∈ p.stack tab, ∀ key ∈ place.awaited, p.Promised K key
  belongs : ∀ l ∈ p.pending, ∀ place ∈ l.place, p.here = some place
  adding : p.adding ≠ [] → p.here = some .addBooks
  testing : p.testing = true → "check" ∈ K
  lent : p.lending.id ≠ "" → p.lending.confirmEnabled = true →
    "check" ∈ K ∨ ∃ id, .picked p.borrows id ∈ p.pending
  alert : p.alert = true → p.lending.id ≠ "" → "check" ∈ K
  listeners : ∀ l ∈ p.listeners, l.listens = true

/-- The invariant: the entries are those of a set of keys that is enough. -/
def Sound (p : Path) (d : Device) : Prop := ∃ K, (p.entries K).Holds d ∧ p.Keys K

variable {p : Path} {K K' : Set String} {l : Load} {loads : List Load} {key : String}

theorem Promised.mono (h : p.Promised K key) (hK : K ⊆ K') : p.Promised K' key :=
  h.imp_left fun hkey => hK hkey

/-- When every load is answered the promises are kept. -/
theorem Promised.kept (h : p.Promised K key) (hsettled : p.Settled) : key ∈ K := by
  refine h.resolve_right ?_
  rintro ⟨l, hl, -⟩
  rw [hsettled.1] at hl
  cases hl

/-- A load that was pending is answered, and what it promised is set. -/
theorem Promised.answered (h : (p.load [l]).Promised K key) (hK : K ⊆ K')
    (hfills : ∀ key ∈ l.fills, key ∈ K') : p.Promised K' key := by
  rcases h with hkey | ⟨l', hl', hkey⟩
  · exact .inl (hK hkey)
  · rcases List.mem_append.1 hl' with hl' | hl'
    · exact .inr ⟨l', hl', hkey⟩
    · obtain rfl := List.mem_singleton.1 hl'
      exact .inl (hfills key hkey)

/-! ### Within a screen -/

theorem Keys.mono (h : p.Keys K) (hK : K ⊆ K') : p.Keys K' where
  plain := fun id hid => ⟨(h.plain id hid).1, hK (h.plain id hid).2⟩
  base := fun htab key hkey => hK (h.base htab key hkey)
  session := fun htab key hkey => (h.session htab key hkey).mono hK
  read := fun hread => hK (h.read hread)
  assigned := fun tab place hplace key hkey => hK (h.assigned tab place hplace key hkey)
  awaited := fun tab place hplace key hkey => (h.awaited tab place hplace key hkey).mono hK
  belongs := h.belongs
  adding := h.adding
  testing := fun htesting => hK (h.testing htesting)
  lent := fun hid henabled => (h.lent hid henabled).imp_left fun hkey => hK hkey
  alert := fun halert hid => hK (h.alert halert hid)
  listeners := h.listeners

/-- Loads that belong to no screen, or to the one in front, may be started at any time. -/
theorem Keys.load (h : p.Keys K) (hloads : ∀ l ∈ loads, ∀ place ∈ l.place, p.here = some place) :
    (p.load loads).Keys K where
  plain := h.plain
  base := h.base
  session := fun htab key hkey => (h.session htab key hkey).imp_right
    fun ⟨l, hl, hfills⟩ => ⟨l, List.mem_append_left _ hl, hfills⟩
  read := h.read
  assigned := h.assigned
  awaited := fun tab place hplace key hkey => (h.awaited tab place hplace key hkey).imp_right
    fun ⟨l, hl, hfills⟩ => ⟨l, List.mem_append_left _ hl, hfills⟩
  belongs := fun l hl place hplace => by
    rcases List.mem_append.1 hl with hl | hl
    · exact h.belongs l hl place hplace
    · exact hloads l hl place hplace
  adding := h.adding
  testing := h.testing
  lent := fun hid henabled => (h.lent hid henabled).imp_right
    fun ⟨id, hl⟩ => ⟨id, List.mem_append_left _ hl⟩
  alert := h.alert
  listeners := h.listeners

/-- The answer to a load has set what the load promised. -/
theorem Keys.answered (h : (p.load [l]).Keys K) (hK : K ⊆ K') (hfills : ∀ key ∈ l.fills, key ∈ K')
    (hpicked : ∀ id, l = .picked p.borrows id → p.lending.confirmEnabled = true → "check" ∈ K') :
    p.Keys K' where
  plain := (h.mono hK).plain
  base := (h.mono hK).base
  session := fun htab key hkey => (h.session htab key hkey).answered hK hfills
  read := (h.mono hK).read
  assigned := (h.mono hK).assigned
  awaited := fun tab place hplace key hkey => (h.awaited tab place hplace key hkey).answered hK hfills
  belongs := fun l hl place hplace => h.belongs l (List.mem_append_left _ hl) place hplace
  adding := h.adding
  testing := (h.mono hK).testing
  lent := fun hid henabled => by
    rcases h.lent hid henabled with hkey | ⟨id, hl⟩
    · exact .inl (hK hkey)
    · rcases List.mem_append.1 hl with hl | hl
      · exact .inr ⟨id, hl⟩
      · exact .inl (hpicked id (List.mem_singleton.1 hl).symm henabled)
  alert := (h.mono hK).alert
  listeners := h.listeners

/-- A load that promises nothing and belongs to no screen. -/
theorem Keys.quiet (h : (p.load [l]).Keys K) (hfills : l.fills = []) (hplace : l.place = none) :
    p.Keys K := by
  refine h.answered subset_rfl (by simp [hfills]) ?_
  rintro id rfl
  cases hplace

/-- One more document is cached. -/
theorem Keys.cache (h : p.Keys K) {id : String} (hid : kind id = none) :
    Path.Keys { p with shown := id :: p.shown } (insert id K) :=
  { h.mono (Set.subset_insert id K) with plain := h.plain.cache hid }

/-- The row of a document with a name caches it, and any other row caches nothing. -/
theorem Keys.sound_row (h : p.Keys K) {document : Option Document} {id : String} {d : Device}
    (hplain : Named document → kind id = none)
    (hd : (if Named document then (p.entries K).cache id else p.entries K).Holds d) :
    (if Named document then { p with shown := id :: p.shown } else p).Sound d := by
  split at hd
  · next hnamed =>
    rw [if_pos hnamed]
    exact ⟨_, hd, h.cache (hplain hnamed)⟩
  · next hnamed =>
    rw [if_neg hnamed]
    exact ⟨K, hd, h⟩

/-- The order of the pending loads does not matter. -/
theorem Keys.perm {pending listeners : List Load} (h : p.Keys K)
    (hpending : pending.Perm p.pending) (hlisteners : ∀ l ∈ listeners, l.listens = true) :
    Path.Keys { p with pending := pending, listeners := listeners } K :=
  have hmem {key : String} (hkey : p.Promised K key) :
      Path.Promised { p with pending := pending, listeners := listeners } K key :=
    hkey.imp_right fun ⟨l, hl, hfills⟩ => ⟨l, hpending.mem_iff.2 hl, hfills⟩
  { h with
    session := fun htab key hkey => hmem (h.session htab key hkey)
    awaited := fun tab place hplace key hkey => hmem (h.awaited tab place hplace key hkey)
    belongs := fun l hl => h.belongs l (hpending.mem_iff.1 hl)
    lent := fun hid henabled => (h.lent hid henabled).imp_right
      fun ⟨id, hl⟩ => ⟨id, hpending.mem_iff.2 hl⟩
    listeners := hlisteners }

theorem Keys.delivered (h : p.Keys K) {i : ℕ} (hl : p.pending[i]? = some l) :
    ((p.delivered i l).load [l]).Keys K := by
  obtain ⟨hlt, rfl⟩ := List.getElem?_eq_some_iff.1 hl
  refine h.perm (List.perm_append_singleton _ _ |>.trans (List.getElem_cons_eraseIdx_perm hlt)) ?_
  intro l hl
  simp only [Path.delivered] at hl
  split at hl
  · next hlistens =>
    rcases List.mem_append.1 hl with hl | hl
    · exact h.listeners l hl
    · exact List.mem_singleton.1 hl ▸ hlistens
  · exact h.listeners l hl

/-- A listener belongs to no screen. -/
theorem Keys.again (h : p.Keys K) (hl : l ∈ p.listeners) : (p.load [l]).Keys K := by
  refine h.load fun l' hl' place hplace => ?_
  obtain rfl := List.mem_singleton.1 hl'
  have hlistens := h.listeners l' hl
  cases l' <;> simp_all [Load.listens, Load.place]

/-- No test is under way while an answer that writes a count is pending. -/
theorem Keys.testing_eq_false (h : p.Keys K) (hl : l ∈ p.pending) {place : Place}
    (hplace : place ∈ l.place) (hne : place ≠ .addBooks) : p.testing = false := by
  have hadding : p.adding = [] := by
    by_contra hadding
    exact hne (Option.some.inj ((h.belongs l hl place hplace).symm.trans (h.adding hadding)))
  rw [Path.testing, hadding]
  rfl

end Path

/-- The answer to a load keeps the promise of the load. -/
theorem Load.answer_spec {p : Path} {K : Set String} {db : Database} {l : Load}
    (h : (p.load [l]).Keys K) (hplain : l.Plain db) :
    Spec (p.entries K).Holds (l.answer db p) fun p' d => p'.Sound d := by
  have hmem : l ∈ (p.load [l]).pending := List.mem_append_right _ List.mem_cons_self
  cases l with
  | account email =>
    obtain ⟨document, hdocument⟩ := Option.isSome_iff_exists.1 hplain
    simp only [answer, hdocument]
    exact LoginViewController.accountAnswer_spec.bind fun _ => .pure fun d hd =>
      ⟨_, hd, h.answered Set.subset_union_left (fun _ hkey => .inr hkey) (by simp)⟩
  | students =>
    exact loadStudentData_spec.bind fun _ => .pure fun d hd =>
      ⟨K, hd.of_assign, h.quiet rfl rfl⟩
  | rules =>
    exact loadRuleData_spec.bind fun _ => .pure fun d hd =>
      ⟨K, hd.of_assign, h.quiet rfl rfl⟩
  | books =>
    exact loadBookData_spec.bind fun _ => .pure fun d hd =>
      ⟨K, hd.of_assign, h.quiet rfl rfl⟩
  | listBook =>
    exact loadBook_spec.bind fun _ => .pure fun d hd =>
      ⟨_, hd, h.answered Set.subset_union_left (fun _ hkey => .inr hkey) (by simp)⟩
  | cards studentID =>
    refine EditInfoStudentViewController.cardsDelivery_spec.bind fun _ => .pure fun d hd =>
      ⟨_, hd, h.answered (fun _ hkey => .inl (.inl (.inl hkey))) (fun key hkey => ?_) (by simp)⟩
    simp only [fills, List.mem_cons, List.not_mem_nil, or_false] at hkey
    rcases hkey with rfl | rfl | rfl
    · exact .inl (.inl (.inr List.mem_cons_self))
    · exact .inl (.inr List.mem_cons_self)
    · exact .inr List.mem_cons_self
  | studentRow id =>
    exact (ManageStudentsViewController.cellDelivery_spec hplain).bind fun _ =>
      .pure fun d hd => (h.quiet rfl rfl).sound_row hplain hd
  | bookRow id =>
    exact (ManageBooksViewController.cellDelivery_spec hplain).bind fun _ =>
      .pure fun d hd => (h.quiet rfl rfl).sound_row hplain hd
  | ruleRow row =>
    exact RuleViewController.cellDelivery_spec.bind fun _ => .pure fun d hd =>
      ⟨K, hd, h.quiet rfl rfl⟩
  | cardBook id =>
    have htesting : p.testing = false := h.testing_eq_false hmem rfl (by decide)
    have hcount := Option.isSome_iff_exists.1 hplain
    exact (EditBorrowCardViewController.bookAnswer_spec htesting hcount).bind fun _ =>
      .pure fun d hd =>
        ⟨_, hd, h.answered Set.subset_union_left (fun _ hkey => .inr hkey) (by simp)⟩
  | picked screen id =>
    have htesting : p.testing = false := h.testing_eq_false hmem rfl (by decide)
    obtain ⟨document, hdocument⟩ := Option.isSome_iff_exists.1 hplain
    simp only [answer, hdocument]
    refine (AddNewBorrowingCardViewController.bookAnswer_spec htesting).bind fun s =>
      .pure fun d hd => ?_
    obtain ⟨hid, hd⟩ := hd
    split
    · next hscreen =>
      subst hscreen
      have hs : (Path.load { p with lending := s } [.picked p.borrows id]).Keys K :=
        { h with
          lent := fun _ _ => .inr ⟨id, hmem⟩
          alert := fun halert hne => h.alert halert fun hempty => hne (hid.trans hempty) }
      -- Either the button is disabled now, or the count is set.
      rcases hd with ⟨hdisabled, hd⟩ | hd
      · exact ⟨K, hd, hs.answered subset_rfl (by simp [fills]) fun _ _ henabled => by
          rw [hdisabled] at henabled; cases henabled⟩
      · exact ⟨_, hd, hs.answered Set.subset_union_left (by simp [fills])
          fun _ _ _ => .inr List.mem_cons_self⟩
    · next hscreen =>
      have hother (id' : String) (heq : Load.picked screen id = .picked p.borrows id') : False :=
        hscreen (Load.picked.inj heq).1
      rcases hd with ⟨-, hd⟩ | hd
      · exact ⟨K, hd, h.answered subset_rfl (by simp [fills]) fun id' heq => (hother id' heq).elim⟩
      · exact ⟨_, hd, h.answered Set.subset_union_left (by simp [fills])
          fun id' heq => (hother id' heq).elim⟩
  | bookTest book id =>
    exact AddBooksViewController.checkNewBookAnswer_spec.bind fun _ => .pure fun d hd =>
      ⟨K, hd, h.quiet rfl rfl⟩
  | studentTest student id =>
    exact AddStudentsViewController.checkStudentAnswer_spec.bind fun _ => .pure fun d hd =>
      ⟨K, hd, h.quiet rfl rfl⟩
  | bookStatistics =>
    exact StatisticBooksViewController.viewDidLoad_spec.bind fun _ => .pure fun d hd =>
      ⟨K, hd, h.quiet rfl rfl⟩
  | studentStatistics =>
    exact StatisticStudentsViewController.viewDidLoad_spec.bind fun _ => .pure fun d hd =>
      ⟨K, hd, h.quiet rfl rfl⟩

end LibraryManagement
