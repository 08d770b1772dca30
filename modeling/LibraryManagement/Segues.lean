import LibraryManagement.Promises

/-!
# From screen to screen

A segue, a row, the back button and an unwind bring a screen to the front. They come when
every load is answered, so that a screen may wait for an entry that the screen behind it
needs; two entries have no such screen, and what is said about them here is a hypothesis:
nothing ever writes `"ID_cards"`, and tapping a rule does not write `"current_rule"`.
-/

namespace LibraryManagement

open Handler

/-! ## Screens that open, appear and go away -/

namespace Place

/-- The key of the list whose ids the rows of a screen stand for. -/
def list : Place → Option String
  | manageStudents => some "ID_students"
  | manageBooks => some "ID_books"
  | listBorrowingCard => some "listID"
  | _ => none

variable {E : Entries} {place : Place}

/-- A screen that loads starts loads for the entries it waits for. -/
structure Prepares (place : Place) (loaded : Loaded) : Prop where
  awaited : ∀ key ∈ place.awaited, ∃ l ∈ loaded.loads, key ∈ l.fills
  belongs : ∀ l ∈ loaded.loads, ∀ q ∈ l.place, q = place
  lending : ∀ s ∈ loaded.lending, s.id = ""

/-- A screen without loads of its own. -/
theorem prepares_nil (hawaited : place.awaited = []) : place.Prepares {} where
  awaited := by simp [hawaited]
  belongs := by simp
  lending := by simp

theorem viewDidLoad_spec (hE : E.Plain) (hbase : ∀ key ∈ Path.base, key ∈ E.assigned)
    (hassigned : ∀ key ∈ place.assigned, key ∈ E.assigned) :
    Spec E.Holds place.viewDidLoad fun loaded d => place.Prepares loaded ∧ E.Holds d := by
  cases place with
  | manageStudents =>
    exact (ManageStudentsViewController.viewDidLoad_spec (hbase _ (by simp [Path.base]))).bind
      fun _ => .pure fun _ hd => ⟨prepares_nil rfl, hd⟩
  | editInfoStudent =>
    exact (EditInfoStudentViewController.viewDidLoad_spec hE (hassigned _ (by simp [assigned]))).bind
      fun _ => .pure fun _ hd => ⟨⟨by simp [awaited, Load.fills], by simp [Load.place], by simp⟩, hd⟩
  | listBorrowingCard =>
    exact (ListBorrowingCardStudentViewController.viewDidLoad_spec hE
      (hassigned _ (by simp [assigned])) (hassigned _ (by simp [assigned]))).bind
      fun _ => .pure fun _ hd => ⟨prepares_nil rfl, hd⟩
  | addNewBorrowingCard =>
    exact (AddNewBorrowingCardViewController.viewDidLoad_spec hE
      (hassigned _ (by simp [assigned]))).read
      fun s hs => .pure fun _ hd => ⟨⟨by simp [awaited], by simp, by simp [hs]⟩, hd⟩
  | editBorrowCard =>
    exact (EditBorrowCardViewController.viewDidLoad_spec hE (hassigned _ (by simp [assigned]))
      (hassigned _ (by simp [assigned]))).bind
      fun _ => .pure fun _ hd => ⟨⟨by simp [awaited, Load.fills], by simp [Load.place], by simp⟩, hd⟩
  | manageBooks =>
    exact (ManageBooksViewController.numberOfRowsInSection_spec (hbase _ (by simp [Path.base]))).bind
      fun _ => .pure fun _ hd => ⟨prepares_nil rfl, hd⟩
  | editInfoBook =>
    exact (EditInfoBookViewController.viewDidLoad_spec hE (hassigned _ (by simp [assigned]))).bind
      fun _ => .pure fun _ hd => ⟨prepares_nil rfl, hd⟩
  | rules =>
    exact (RuleViewController.numberOfRowsInSection_spec (hbase _ (by simp [Path.base]))).bind
      fun _ => .pure fun _ hd => ⟨prepares_nil rfl, hd⟩
  | editInfoRule =>
    exact (EditInfoRuleViewController.viewDidLoad_spec (hassigned _ (by simp [assigned]))).bind
      fun _ => .pure fun _ hd => ⟨prepares_nil rfl, hd⟩
  | account =>
    exact (AccountViewController.viewDidLoad_spec (hassigned _ (by simp [assigned]))).bind
      fun _ => .pure fun _ hd => ⟨prepares_nil rfl, hd⟩
  | editAccount =>
    exact (EditAccountViewController.viewDidLoad_spec (hassigned _ (by simp [assigned]))).bind
      fun _ => .pure fun _ hd => ⟨prepares_nil rfl, hd⟩
  | statisticStudents =>
    exact .pure fun _ hd => ⟨⟨by simp [awaited], by simp [Load.place], by simp⟩, hd⟩
  | statisticBooks =>
    exact .pure fun _ hd => ⟨⟨by simp [awaited], by simp [Load.place], by simp⟩, hd⟩
  | _ => exact .pure fun _ hd => ⟨prepares_nil rfl, hd⟩

theorem viewWillAppear_spec (hassigned : ∀ key ∈ place.assigned, key ∈ E.assigned) :
    Spec E.Holds place.viewWillAppear fun loads d => (∀ l ∈ loads, l.place = none) ∧ E.Holds d := by
  cases place with
  | studentMenu =>
    exact StudentMenuViewController.viewWillAppear_spec.bind fun _ =>
      .pure fun _ hd => ⟨by simp [Load.place], hd.of_assign.of_assign.of_assign⟩
  | listBorrowingCard =>
    exact (ListBorrowingCardStudentViewController.viewWillAppear_spec
      (hassigned _ (by simp [assigned])) (hassigned _ (by simp [assigned]))).bind fun _ =>
        .pure fun _ hd => ⟨by simp, hd⟩
  | _ => exact .pure fun _ hd => ⟨by simp [Load.place], hd⟩

theorem viewWillDisappear_spec (hbase : ∀ key ∈ Path.base, key ∈ E.assigned) :
    Spec E.Holds place.viewWillDisappear
      fun loads d => (∀ l ∈ loads, l.place = none) ∧ E.Holds d := by
  cases place with
  | addRules =>
    exact (AddRulesViewController.viewWillDisappear_spec (hbase _ (by simp [Path.base]))).bind
      fun _ => .pure fun _ hd => ⟨by simp [Load.place], hd⟩
  | _ => exact .pure fun _ hd => ⟨by simp, hd⟩

end Place

namespace Path

variable {p : Path} {K : Set String} {loads : List Load} {key : String} {tab : Tab} {place : Place}
  {below : List Place}

theorem front_eq_some :
    p.front = some (tab, place, below) ↔ p.tab = some tab ∧ p.stack tab = place :: below := by
  unfold front
  cases htab : p.tab with
  | none => simp
  | some now =>
    rw [Option.bind_some]
    constructor
    · intro h
      split at h
      · next hstack =>
        obtain ⟨rfl, rfl, rfl⟩ : now = tab ∧ _ = place ∧ _ = below := by simpa using h
        exact ⟨rfl, hstack⟩
      · cases h
    · rintro ⟨hnow, hstack⟩
      obtain rfl := Option.some.inj hnow
      rw [hstack]

theorem here_of_front (h : p.front = some (tab, place, below)) : p.here = some place := by
  rw [here, h, Option.map_some]

theorem Promised.load (h : p.Promised K key) : (p.load loads).Promised K key :=
  h.imp_right fun ⟨l, hl, hfills⟩ => ⟨l, List.mem_append_left _ hl, hfills⟩

/-- A screen on a stack that changed is the new one in front or was on a stack before. -/
theorem mem_stack_update {tab' : Tab} {q : Place} (hbelow : ∀ q ∈ below, q ∈ p.stack tab)
    (hq : q ∈ Function.update p.stack tab (place :: below) tab') :
    q = place ∨ ∃ tab'', q ∈ p.stack tab'' := by
  rw [Function.update_apply] at hq
  split at hq
  · exact (List.mem_cons.1 hq).imp_right fun hq => ⟨tab, hbelow q hq⟩
  · exact .inr ⟨tab', hq⟩

/-- No load that belongs to a screen is pending, and no confirm of a book is in progress. -/
def Quiet (p : Path) : Prop := (∀ l ∈ p.pending, l.place = none) ∧ p.adding = []

theorem Settled.quiet (h : p.Settled) : p.Quiet := ⟨by simp [h.1], h.2⟩

/-- A screen comes in front of screens that were open. -/
theorem Keys.enter (h : p.Keys K) (hquiet : p.Quiet) (hbase : ∀ key ∈ Path.base, key ∈ K)
    (hsession : ∀ key ∈ Path.session, (p.load loads).Promised K key)
    (hbelow : ∀ q ∈ below, q ∈ p.stack tab) (hassigned : ∀ key ∈ place.assigned, key ∈ K)
    (hawaited : ∀ key ∈ place.awaited, (p.load loads).Promised K key)
    (hloads : ∀ l ∈ loads, ∀ q ∈ l.place, q = place)
    {borrows : ℕ} {lending : AddNewBorrowingCardViewController.Screen}
    (hlending : lending.id ≠ "" → borrows = p.borrows ∧ lending = p.lending) :
    Path.Keys { p.load loads with
      tab := some tab
      stack := Function.update p.stack tab (place :: below)
      borrows := borrows
      lending := lending } K where
  plain := h.plain
  base := fun _ => hbase
  session := fun _ => hsession
  read := h.read
  assigned := fun tab' q hq => by
    -- A screen is the new one, or was on some stack before.
    rcases mem_stack_update hbelow hq with rfl | ⟨tab'', hq⟩
    · exact hassigned
    · exact h.assigned tab'' q hq
  awaited := fun tab' q hq key hkey => by
    rcases mem_stack_update hbelow hq with rfl | ⟨tab'', hq⟩
    · exact hawaited key hkey
    · exact (h.awaited tab'' q hq key hkey).load
  belongs := fun l hl q hq => by
    rcases List.mem_append.1 hl with hl | hl
    · rw [hquiet.1 l hl] at hq
      cases hq
    · obtain rfl := hloads l hl q hq
      exact here_of_front (front_eq_some.2 ⟨rfl, Function.update_self ..⟩)
  adding := fun hadding => absurd hquiet.2 hadding
  testing := h.testing
  lent := fun hid henabled => by
    obtain ⟨rfl, rfl⟩ := hlending hid
    exact (h.lent hid henabled).imp_right fun ⟨id, hl⟩ => ⟨id, List.mem_append_left _ hl⟩
  alert := fun halert hid => by
    obtain ⟨-, rfl⟩ := hlending hid
    exact h.alert halert hid
  listeners := h.listeners

theorem leave_spec {E : Entries} (hbase : ∀ key ∈ base, key ∈ E.assigned) :
    Spec E.Holds p.leave fun loads d => (∀ l ∈ loads, l.place = none) ∧ E.Holds d := by
  unfold leave
  split
  · exact Place.viewWillDisappear_spec hbase
  · exact .pure fun _ hd => ⟨by simp, hd⟩

/-- A screen may open when the entries it needs are set. -/
theorem push_spec (h : p.Keys K) (hquiet : p.Quiet) (hbase : ∀ key ∈ base, key ∈ K)
    (hsession : ∀ key ∈ session, p.Promised K key)
    (hassigned : ∀ key ∈ place.assigned, key ∈ K) :
    Spec (p.entries K).Holds (p.push tab place) fun p' d => p'.Sound d := by
  refine (Place.viewDidLoad_spec h.plain hbase hassigned).read fun loaded hloaded => ?_
  refine (leave_spec hbase).read fun left hleft => ?_
  refine (Place.viewWillAppear_spec hassigned).read fun appeared happeared => ?_
  refine .pure fun d hd => ⟨K, hd, h.enter hquiet hbase (fun key hkey => (hsession key hkey).load)
    (fun q hq => hq) hassigned (fun key hkey => ?_) (fun l hl q hq => ?_) fun hid => ?_⟩
  · obtain ⟨l, hl, hfills⟩ := hloaded.awaited key hkey
    exact .inr ⟨l, by simp [load, hl], hfills⟩
  · rcases List.mem_append.1 hl with hl | hl
    · rcases List.mem_append.1 hl with hl | hl
      · exact hloaded.belongs l hl q hq
      · rw [hleft l hl] at hq
        cases hq
    · rw [happeared l hl] at hq
      cases hq
  · cases hlending : loaded.lending with
    | none => exact ⟨rfl, rfl⟩
    | some s => exact absurd (hloaded.lending s hlending) (by simpa [hlending] using hid)

/-- A screen that was open may appear again. -/
theorem reveal_spec (h : p.Keys K) (hquiet : p.Quiet) (hbase : ∀ key ∈ base, key ∈ K)
    (hsession : ∀ key ∈ session, p.Promised K key)
    (hplace : ∀ q ∈ place :: below, q ∈ p.stack tab) :
    Spec (p.entries K).Holds (p.reveal tab place below) fun p' d => p'.Sound d := by
  have hmem := hplace place List.mem_cons_self
  have hassigned := h.assigned tab place hmem
  refine (leave_spec hbase).read fun left hleft => ?_
  refine (Place.viewWillAppear_spec hassigned).read fun appeared happeared => ?_
  refine .pure fun d hd => ⟨K, hd, h.enter hquiet hbase (fun key hkey => (hsession key hkey).load)
    (fun q hq => hplace q (List.mem_cons_of_mem _ hq)) hassigned
    (fun key hkey => (h.awaited tab place hmem key hkey).load) (fun l hl q hq => ?_)
    fun _ => ⟨rfl, rfl⟩⟩
  rcases List.mem_append.1 hl with hl | hl
  · rw [hleft l hl] at hq
    cases hq
  · rw [happeared l hl] at hq
    cases hq

theorem unwind_spec (h : p.Keys K) (hquiet : p.Quiet) (hbase : ∀ key ∈ base, key ∈ K)
    (hsession : ∀ key ∈ session, p.Promised K key) (hbelow : ∀ q ∈ below, q ∈ p.stack tab)
    {target : Place} {handler : Handler Path} (hunwind : p.unwind tab below target = some handler) :
    Spec (p.entries K).Holds handler fun p' d => p'.Sound d := by
  unfold unwind at hunwind
  split at hunwind
  · next hdrop =>
    obtain rfl := Option.some.inj hunwind
    refine reveal_spec h hquiet hbase hsession fun q hq => hbelow q ?_
    exact List.dropWhile_subset _ (hdrop ▸ hq)
  · cases hunwind

/-! ## What the next screen needs -/

theorem Keys.base_of_front (h : p.Keys K) (hfront : p.front = some (tab, place, below)) :
    ∀ key ∈ Path.base, key ∈ K :=
  h.base (by rw [(front_eq_some.1 hfront).1]; exact Option.some_ne_none tab)

theorem Keys.session_of_front (h : p.Keys K) (hfront : p.front = some (tab, place, below)) :
    ∀ key ∈ Path.session, p.Promised K key :=
  h.session (by rw [(front_eq_some.1 hfront).1]; exact Option.some_ne_none tab)

theorem mem_stack_of_front (hfront : p.front = some (tab, place, below)) :
    ∀ q ∈ below, q ∈ p.stack tab := by
  intro q hq
  rw [(front_eq_some.1 hfront).2]
  exact List.mem_cons_of_mem _ hq

/-- The screen in front is on a stack. -/
theorem Keys.assigned_of_front (h : p.Keys K) (hfront : p.front = some (tab, place, below)) :
    ∀ key ∈ place.assigned, key ∈ K := by
  refine h.assigned tab place ?_
  rw [(front_eq_some.1 hfront).2]
  exact List.mem_cons_self

theorem Keys.awaited_of_front (h : p.Keys K) (hfront : p.front = some (tab, place, below)) :
    ∀ key ∈ place.awaited, p.Promised K key := by
  refine h.awaited tab place ?_
  rw [(front_eq_some.1 hfront).2]
  exact List.mem_cons_self

/-- What the screen behind a button needs is set, except that nothing sets `"ID_cards"`. -/
theorem Keys.assigned_of_segue (h : p.Keys K) (hsettled : p.Settled)
    (hfront : p.front = some (tab, place, below)) {next : Place} (hnext : next ∈ place.segues)
    (hcards : next = .listBorrowingCard → "ID_cards" ∈ p.shown) :
    ∀ key ∈ next.assigned, key ∈ K := by
  have hassigned := h.assigned_of_front hfront
  cases place with
  | editInfoStudent =>
    obtain rfl := List.mem_singleton.1 hnext
    have hawaited (key : String) (hkey : key ∈ Place.editInfoStudent.awaited) : key ∈ K :=
      (h.awaited_of_front hfront key hkey).kept hsettled
    simp only [Place.assigned, Place.awaited, List.mem_cons, List.not_mem_nil, or_false,
      forall_eq_or_imp, forall_eq] at hassigned hawaited ⊢
    exact ⟨hassigned, hawaited.1, hawaited.2.1, hawaited.2.2, (h.plain _ (hcards rfl)).2⟩
  | listBorrowingCard =>
    obtain rfl := List.mem_singleton.1 hnext
    have hlist : "listBook" ∈ K := (h.session_of_front hfront _ (by simp [Path.session])).kept hsettled
    simp only [Place.assigned, List.mem_cons, List.not_mem_nil, or_false, forall_eq_or_imp,
      forall_eq] at hassigned ⊢
    exact ⟨hassigned.1, hlist⟩
  | account =>
    simp only [Place.segues, List.mem_cons, List.not_mem_nil, or_false] at hnext
    rcases hnext with rfl | rfl
    · exact hassigned
    · simp [Place.assigned]
  | studentMenu =>
    have hnil : ∀ q ∈ Place.studentMenu.segues, q.assigned = [] := by decide
    simp [hnil next hnext]
  | bookMenu =>
    have hnil : ∀ q ∈ Place.bookMenu.segues, q.assigned = [] := by decide
    simp [hnil next hnext]
  | _ => simp_all [Place.segues, Place.assigned]

/-- What the first screen of a tab needs. -/
theorem Keys.assigned_of_root (h : p.Keys K) (hsettled : p.Settled)
    (hfront : p.front = some (tab, place, below)) (next : Tab) :
    ∀ key ∈ next.root.assigned, key ∈ K := by
  cases next with
  | account =>
    intro key hkey
    obtain rfl := List.mem_singleton.1 hkey
    exact (h.session_of_front hfront _ (by simp [Path.session])).kept hsettled
  | _ => simp [Tab.root, Place.assigned]

/-- Tapping a row opens the screen behind it, which finds what the row has cached. -/
theorem tap_spec (h : p.Keys K) (hsettled : p.Settled) {temp : UserDefaults} {row : ℕ}
    {next : Place} (hfront : p.front = some (tab, place, below))
    (hnext : place.rowSegue = some next) (hread : p.here = some .rules → p.read = true)
    (hrow : ∀ list ∈ place.list, ∀ id ∈ listedID list row temp, id ∈ p.shown) :
    Spec (fun d => (p.entries K).Holds d ∧ d.temp = temp)
      (do
        place.didSelectRowAt row
        p.push tab next)
      fun p' d => p'.Sound d := by
  have hbase := h.base_of_front hfront
  have hassigned := h.assigned_of_front hfront
  have hpush {K' : Set String} (hK : K ⊆ K') (hnew : ∀ key ∈ next.assigned, key ∈ K') :
      Spec (p.entries K').Holds (p.push tab next) fun p' d => p'.Sound d :=
    push_spec (h.mono hK) hsettled.quiet (fun key hkey => hK (hbase key hkey))
      (fun key hkey => (h.session_of_front hfront key hkey).mono hK) hnew
  have hcached {list : String} (hlist : place.list = some list) (d : Device)
      (hd : (p.entries K).Holds d ∧ d.temp = temp) :
      (p.entries K).Holds d ∧ ∀ id, listedID list row d.temp = some id → id ∈ (p.entries K).ids :=
    ⟨hd.1, fun id hid => hrow list hlist id (hd.2 ▸ hid)⟩
  cases place with
  | manageStudents =>
    obtain rfl := Option.some.inj hnext
    have hids : "ID_students" ∈ (p.entries K).assigned := hbase _ (by simp [Path.base])
    refine ((ManageStudentsViewController.didSelectRowAt_spec hids).weaken
      (hcached rfl) fun _ _ hd => hd).bind
      fun _ => hpush Set.subset_union_left fun key hkey => .inr hkey
  | manageBooks =>
    obtain rfl := Option.some.inj hnext
    have hids : "ID_books" ∈ (p.entries K).assigned := hbase _ (by simp [Path.base])
    refine ((ManageBooksViewController.didSelectRowAt_spec hids).weaken
      (hcached rfl) fun _ _ hd => hd).bind
      fun _ => hpush Set.subset_union_left fun key hkey => .inr hkey
  | listBorrowingCard =>
    obtain rfl := Option.some.inj hnext
    have hids : "listID" ∈ (p.entries K).assigned := hassigned _ (by simp [Place.assigned])
    refine ((ListBorrowingCardStudentViewController.didSelectRowAt_spec hids).weaken
      (hcached rfl) fun _ _ hd => hd).bind
      fun _ => hpush Set.subset_union_left fun key hkey => ?_
    rcases List.mem_cons.1 hkey with rfl | hkey
    · exact .inl (hassigned _ (by simp [Place.assigned]))
    · exact .inr hkey
  | rules =>
    obtain rfl := Option.some.inj hnext
    refine Spec.bind (Spec.pure fun d hd => hd.1) fun _ => hpush subset_rfl fun key hkey => ?_
    obtain rfl := List.mem_singleton.1 hkey
    exact h.read (hread (here_of_front hfront))
  | _ => cases hnext

/-- The student menu comes up with empty lists and the loads of the session. -/
theorem login_spec (h : p.Keys K) (hsettled : p.Settled) (htab : p.tab = none) {email : String} :
    Spec (p.entries K).Holds
      (do (p.load [.account (← LoginViewController.signedIn email)]).push .students .studentMenu)
      fun p' d => p'.Sound d := by
  refine Spec.document.read fun id _ => ?_
  have hquiet : (p.load [.account id]).Quiet := ⟨by simp [load, hsettled.1, Load.place], hsettled.2⟩
  have hleave : (p.load [.account id]).leave = pure [] := by
    simp [leave, here, front, load, htab]
  simp only [push, hleave, Place.viewDidLoad, Place.viewWillAppear, pure_bind, bind_assoc]
  refine StudentMenuViewController.viewWillAppear_spec.bind fun _ => .pure fun d hd => ?_
  refine ⟨_, hd, ((h.load (by simp [Load.place])).mono fun key hkey => .inl (.inl (.inl hkey))).enter
    hquiet (fun key hkey => ?_) (fun key hkey => ?_) (fun q hq => hq) (by simp [Place.assigned])
    (by simp [Place.awaited]) (by simp [Load.place]) fun _ => ⟨rfl, rfl⟩⟩
  · simp only [base, List.mem_cons, List.not_mem_nil, or_false] at hkey
    rcases hkey with rfl | rfl | rfl
    · exact .inl (.inl (.inr List.mem_cons_self))
    · exact .inl (.inr List.mem_cons_self)
    · exact .inr List.mem_cons_self
  · simp only [session, List.mem_cons, List.not_mem_nil, or_false] at hkey
    rcases hkey with rfl | rfl
    · exact .inr ⟨.listBook, by simp [load], List.mem_cons_self⟩
    · exact .inr ⟨.account id, by simp [load], List.mem_cons_self⟩

end Path

end LibraryManagement
