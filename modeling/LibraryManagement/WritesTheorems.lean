import LibraryManagement.Writes

/-!
# What each handler writes

One lemma for each handler, from the loads to the confirms, and one for the events of a path. A
new book that waits to be saved has a quantity that is an `Int` (`Path.Fits`), which is the
one fact about an earlier handler that a write depends on.
-/

namespace LibraryManagement

open Handler

variable {D : Holdings} {W : Set Write} {uppercased : String → String}

/-! ## Loads and rows -/

theorem StudentMenuViewController.viewWillAppear_emits :
    Emits D W viewWillAppear fun _ => True :=
  .next (.setPlain (by rintro x ⟨⟩)) fun _ => .next (.setPlain (by rintro x ⟨⟩)) fun _ =>
    .setPlain (by rintro x ⟨⟩)

theorem loadStudentData_emits {db : Database} (hdb : db.Within D) :
    Emits D W (loadStudentData (db .students)) fun _ => True :=
  .setPlain fun id hid => hdb.students id (Std.ExtTreeMap.mem_keys.1 hid)

theorem loadRuleData_emits {db : Database} (hdb : db.Within D) :
    Emits D W (loadRuleData (db .rules)) fun _ => True := by
  refine .bind (.mapM (R := (· ∈ D.listed "ID_rules")) fun document hdocument => ?_)
    fun titles htitles => .setPlain htitles
  exact .weaken .cast fun title htitle =>
    hdb.rules _ _ title (Std.ExtTreeMap.mem_toList_iff_getElem?_eq_some.1 hdocument) htitle

theorem loadBookData_emits {db : Database} (hdb : db.Within D) :
    Emits D W (loadBookData (db .books)) fun _ => True :=
  .setPlain fun id hid => hdb.books id (Std.ExtTreeMap.mem_keys.1 hid)

theorem loadBook_emits {db : Database} (hdb : db.Within D) :
    Emits D W (loadBook (db .books)) fun _ => True := by
  refine .bind (.mapM (R := (· ∈ D.listed "listBook")) fun document hdocument => ?_)
    fun entries hentries => .setPlain hentries
  exact .weaken .unwrap fun entry hentry =>
    hdb.entries _ _ entry (Std.ExtTreeMap.mem_toList_iff_getElem?_eq_some.1 hdocument) hentry

/-- Tapping a row keeps the id that is listed there. -/
theorem selectRow_emits {list current : String} {row : ℕ} :
    Emits D W (do
      let ids ← forced list Value.strings?
      set current (some (.string (← Traps.index ids row)))) fun _ => True :=
  .next .forced fun _ => .next .index fun _ => .setPlain trivial

/-- A row listens to the document that is listed there. -/
theorem listenRow_emits {list : String} {row : ℕ} :
    Emits D W (do
      let ids ← forced list Value.strings?
      document (← Traps.index ids row)) fun _ => True :=
  .next .forced fun _ => .next .index fun _ => .any .document

theorem ManageBooksViewController.cellDelivery_emits {id : String} {document : Option Document}
    (hdocument : ∀ d, document = some d → d ∈ D.documents) :
    Emits D W (cellDelivery id document) fun _ => True := by
  refine .bind .unwrap fun data hdata => .next .unwrap fun name => .ite (fun _ => ?_)
    fun _ => .done
  exact .next .unwrap fun _ => .next (.setPlain (hdocument data hdata)) fun _ => .done

theorem ManageStudentsViewController.cellDelivery_emits {id : String}
    {document : Option Document} (hdocument : ∀ d, document = some d → d ∈ D.documents) :
    Emits D W (cellDelivery id document) fun _ => True := by
  refine .bind .unwrap fun data hdata => .next .cast fun name => .ite (fun _ => ?_)
    fun _ => .done
  exact .next .unwrap fun _ => .setPlain (hdocument data hdata)

theorem ManageStudentsViewController.viewDidLoad_emits :
    Emits D W viewDidLoad fun _ => True :=
  .next .forced fun _ => .next (.next .forced fun _ => .done) fun _ => .done

namespace ListBorrowingCardStudentViewController

/-- The card of a row is one of the listed ones. -/
theorem cellForRowAt_emits {row : ℕ} : Emits D W (cellForRowAt row) fun _ => True := by
  refine .bind .forced fun data hdata => .next .forced fun listID => .bind .index
    fun card hcard => .next .cast fun _ => .next .cast fun _ =>
      .next .cast fun _ => .next .cast fun _ => .next .index fun id => ?_
  obtain ⟨v, hv, hdata⟩ := hdata
  have hmem : card ∈ D.documents :=
    Value.mem_of_dictionaries? hv hdata card (List.mem_of_getElem? hcard)
  exact .next (.setPlain hmem) fun _ => .done

theorem viewDidLoad_emits : Emits D W viewDidLoad fun _ => True :=
  .next .forced fun _ => .next .forced fun _ => .next .forced fun _ => .next .cast fun _ =>
    .done

theorem viewWillAppear_emits : Emits D W viewWillAppear fun _ => True :=
  .next .forced fun _ => .any .forced

end ListBorrowingCardStudentViewController

theorem RuleViewController.cellDelivery_emits {row : ℕ} {rules : Collection} :
    Emits D W (cellDelivery row rules) fun _ => True :=
  .next .index fun _ => .next .cast fun _ => .next .cast fun _ => .done

theorem StatisticBooksViewController.viewDidLoad_emits {books : Collection} :
    Emits D W (viewDidLoad books) fun _ => True := by
  refine .next (.foldlM (R := fun _ => True) (fun sums document _ _ => ?_) trivial) fun sums =>
    .next .checked fun _ => .done
  exact .next .cast fun _ => .next .cast fun _ => .next .unwrap fun _ =>
    .next .checked fun _ => .next .checked fun _ => .done

theorem StatisticStudentsViewController.viewDidLoad_emits {students : Collection} :
    Emits D W (viewDidLoad students) fun _ => True := by
  refine .next (.foldlM (R := fun _ => True) (fun count document _ _ => ?_) trivial) fun count =>
    .next .checked fun _ => .done
  exact .next .cast fun _ => .ite (fun _ => .any .checked) fun _ => .done

/-! ## Books -/

namespace AddBooksViewController

theorem confirmButton_emits {form : BookForm} : Emits D W (confirmButton uppercased form)
    fun book => ∀ b ∈ book, Swift.InInt b.quantity := by
  refine .ite (fun _ => .pure (by simp)) fun _ => .bind .unwrap fun quantity hquantity =>
    .next (.setPlain trivial) fun _ => .pure fun b hb => ?_
  obtain rfl := Option.some.inj hb
  exact Swift.inInt_of_int? hquantity

theorem checkNewBook_emits : Emits D W checkNewBook fun _ => True :=
  .next .forced fun _ => .any (.mapM (R := fun _ => True) fun _ _ => .any .document)

theorem checkNewBookAnswer_emits {book : Book} : ∀ {answer : Option Document},
    Emits D W (checkNewBookAnswer book answer) fun _ => True
  | some _ => .next .cast fun _ => .ite (fun _ => .setPlain trivial) fun _ => .done
  | none => .done

/-- A block saves the book that the confirm was for, and keeps it. -/
theorem Adding.block_emits {a : Adding} {shown : BookForm} (ha : Swift.InInt a.book.quantity) :
    Emits D (AppWrite.Below [.books]) (a.block shown) fun a' => a'.book = a.book := by
  unfold block
  split
  · exact .next checkNewBook_emits fun _ => .pure rfl
  · exact .next .forced fun _ => .pure rfl
  · exact .next (.setData fun hid => (AppWrite.newBook a.book hid ha).setAt_below (by decide))
      fun _ => .pure rfl
  · exact .next (.updateData ((AppWrite.cover _).updateAt_below (by decide))) fun _ => .pure rfl
  · exact .pure rfl

end AddBooksViewController

namespace EditInfoBookViewController

theorem currentDocument_emits : Emits D W currentDocument fun _ => True :=
  .next .forced fun _ => .any .forced

theorem viewDidLoad_emits : Emits D W viewDidLoad fun _ => True :=
  .next currentDocument_emits fun _ => .done

theorem confirmButton_emits {form : BookForm} :
    Emits D (AppWrite.Below [.books]) (confirmButton uppercased form) fun _ => True := by
  refine .next currentDocument_emits fun t => .next .cast fun avatarURL =>
    .next .cast fun check => .bind .unwrap fun quantity hquantity => .next .forced fun ID =>
      .setData fun hID => (AppWrite.editedBook _ ID hID ?_ ?_).setAt_below (by decide)
  · unfold currentBook
    split <;> rfl
  · unfold currentBook
    split
    · exact (by decide : Swift.InInt 0)
    · exact Swift.inInt_of_int? hquantity

end EditInfoBookViewController

/-! ## Cards -/

namespace AddNewBorrowingCardViewController

variable {s : Screen}

theorem viewDidLoad_emits : Emits D W viewDidLoad fun _ => True :=
  .next (.next .forced fun _ => .any .forced) fun _ => .done

theorem bookAction_emits : Emits D W (bookAction s) fun _ => True :=
  .next .forced fun _ => .next .index fun _ => .done

theorem didSelectRow_emits {row : ℕ} : Emits D W (didSelectRow row s) fun _ => True :=
  .next .forced fun _ => .next .index fun _ => .done

theorem titleForRow_emits {row : ℕ} : Emits D W (titleForRow row) fun _ => True :=
  .next .forced fun _ => .any .index

theorem bookIDAction_emits : Emits D W (bookIDAction s) fun _ => True :=
  .ite (fun _ => .next .index fun _ => .next .index fun _ =>
    .next .document fun _ => .done) fun _ => .done

theorem bookAnswer_emits : ∀ {answer : Option Document},
    Emits D W (bookAnswer s answer) fun _ => True
  | some _ => .next .cast fun _ => .next .unwrap fun _ => .next .cast fun _ =>
    .ite (fun _ => .next (.setPlain trivial) fun _ => .done) fun _ => .done
  | none => .done

theorem confirmAction_emits {autoID : String} :
    Emits D (AppWrite.Below [.borrowCard]) (confirmAction s autoID) fun _ => True :=
  .write ⟨.newCard _ autoID rfl rfl, List.mem_cons_self⟩

theorem okAction_emits : Emits D (AppWrite.Below [.books]) (okAction s) fun _ => True := by
  refine .bind .document fun id hid => .next .forced fun check => .bind .checked fun sum hsum => ?_
  obtain ⟨hpath, rfl⟩ := hid
  have hcount := AppWrite.lentCount s.id sum hpath (Swift.inRange?_eq_some.1 hsum).2
  exact .write (hcount.setAt_below (by decide))

end AddNewBorrowingCardViewController

namespace EditBorrowCardViewController

theorem viewDidLoad_emits : Emits D W viewDidLoad fun _ => True :=
  .next .forced fun _ => .next .forced fun _ => .next .forced fun _ => .next .forced fun _ =>
    .next .cast fun _ => .next .cast fun _ => .next .cast fun _ =>
      .next .cast fun _ => .next .cast fun _ => .next .cast fun _ =>
        .next .cast fun _ => .next .document fun _ => .done

theorem bookAnswer_emits : ∀ {answer : Option Document},
    Emits D W (bookAnswer answer) fun _ => True
  | some document => by
    refine (.set fun v hv => ?_ : Emits D W (set "check" (document["check"]?.map Value.ofField)) _)
    obtain ⟨field, -, rfl⟩ := Option.map_eq_some_iff.1 hv
    cases field <;> trivial
  | none => .done

/-- The card is closed before the count is read, so a trap there leaves the card's write. -/
theorem confirmButton_emits {s : Screen} :
    Emits D (AppWrite.Below [.borrowCard, .books, .cities]) (confirmButton s) fun _ => True := by
  refine .next .forced fun ID => .ite (fun _ => ?_) fun _ => .setData fun hid =>
    (AppWrite.endedDay ID _ hid).setAt_below (by decide)
  refine .next (.setData fun hid => (AppWrite.closedCard ID _ hid).setAt_below (by decide))
    fun _ => .bind .document fun id hid => .next .forced fun check =>
      .bind .checked fun difference hdifference => ?_
  obtain ⟨hpath, rfl⟩ := hid
  have hcount := AppWrite.lentCount s.bookID difference hpath
    (Swift.inRange?_eq_some.1 hdifference).2
  exact .write (hcount.setAt_below (by decide))

end EditBorrowCardViewController

/-! ## Students -/

namespace AddStudentsViewController

theorem checkStudent_emits : Emits D W checkStudent fun _ => True :=
  .next .forced fun _ => .any (.mapM (R := fun _ => True) fun _ _ => .any .document)

theorem checkStudentAnswer_emits {student : Student} : ∀ {answer : Option Document},
    Emits D W (checkStudentAnswer student answer) fun _ => True
  | some _ => .next .cast fun _ => .ite (fun _ => .setPlain trivial) fun _ => .done
  | none => .done

theorem confirmButton_emits {form : StudentForm} {autoID : String} :
    Emits D (AppWrite.Below [.students]) (confirmButton uppercased form autoID)
      fun _ => True := by
  refine .next .forced fun ids => .ite (fun _ => ?_) fun _ => ?_
  · exact .next .index fun _ => .next .document fun _ => .done
  · refine .next (.setPlain trivial) fun _ => .next checkStudent_emits fun reads =>
      .next .forced fun flag => .ite (fun _ => .done) fun _ => ?_
    exact .next (.write ⟨.newStudent _ autoID, List.mem_cons_self⟩) fun _ => .done

/-- A placeholder is filled in, or a student is inserted. -/
theorem listenerDelivery_emits {form : StudentForm} {id autoID : String} :
    ∀ {snapshot : Option Document},
      Emits D (AppWrite.Below [.students])
        (listenerDelivery (newStudent uppercased form) id autoID snapshot) fun _ => True
  | some _ => .next .cast fun _ => .ite
    (fun _ => .setData fun hid => (AppWrite.student _ id hid (.inl rfl)).setAt_below (by decide))
    fun _ => .next .cast fun _ => .ite (fun _ => .done) fun _ =>
      .write ⟨.newStudent _ autoID, List.mem_cons_self⟩
  | none => .done

end AddStudentsViewController

namespace EditInfoStudentViewController

theorem viewDidLoad_emits : Emits D W viewDidLoad fun _ => True :=
  .next .forced fun _ => .next .forced fun _ => .next .cast fun _ => .done

theorem cardsDelivery_emits {studentID : String} {db : Database} (hdb : db.Within D) :
    Emits D W (cardsDelivery studentID (db .borrowCard)) fun _ => True := by
  -- The cards that are kept are cards of the delivery.
  refine .bind (.foldlM (R := fun found : Cards => (∀ d ∈ found.data, d ∈ D.documents) ∧
    ∀ id ∈ found.ID, id ∈ D.listed "listID")
    (fun found card hcard hfound => ?_) (by simp)) fun found hfound =>
      .next (.setPlain trivial) fun _ => .next (.setPlain hfound.1) fun _ => .setPlain hfound.2
  have hstored := Std.ExtTreeMap.mem_toList_iff_getElem?_eq_some.1 hcard
  refine .next .cast fun _ => .ite (fun _ => .next .checked fun _ =>
    .pure ⟨fun d hd => ?_, fun id hid => ?_⟩) fun _ => .pure hfound
  · rcases List.mem_append.1 hd with hold | hnew
    · exact hfound.1 d hold
    · obtain rfl := List.mem_singleton.1 hnew
      exact hdb.documents .borrowCard card.1 _ hstored
  · rcases List.mem_append.1 hid with hold | hnew
    · exact hfound.2 id hold
    · obtain rfl := List.mem_singleton.1 hnew
      exact hdb.cards _ (Std.ExtTreeMap.mem_of_getElem? hstored)

theorem confirmAction_emits {form : StudentForm} {statusIsOn : Bool} :
    Emits D (AppWrite.Below [.students]) (confirmAction form statusIsOn) fun _ => True := by
  refine .next .forced fun ID => .setData fun hID =>
    (AppWrite.student _ ID hID ?_).setAt_below (by decide)
  cases statusIsOn
  · exact .inr rfl
  · exact .inl rfl

end EditInfoStudentViewController

/-! ## Rules and accounts -/

theorem Rule.saveOrUpdateRules_emits {r : Rule} (hcontent : r.content ≠ "") :
    Emits D (AppWrite.Below [.rules]) r.saveOrUpdateRules fun _ => True :=
  .setData fun hid => (AppWrite.rule r hid hcontent).setAt_below (by decide)

theorem EditInfoRuleViewController.confirmButton_emits {title content : String} :
    Emits D (AppWrite.Below [.rules]) (confirmButton title content) fun _ => True :=
  .ite (fun hcontent => Rule.saveOrUpdateRules_emits hcontent) fun _ => .done

theorem AddRulesViewController.okAction_emits {title content : String} (hcontent : content ≠ "") :
    Emits D (AppWrite.Below [.rules]) (okAction title content) fun _ => True :=
  .next (Rule.saveOrUpdateRules_emits hcontent) fun _ => .next .forced fun _ => .done

theorem LoginViewController.accountAnswer_emits : ∀ {answer : Option Document},
    (∀ d, answer = some d → d ∈ D.documents) → Emits D W (accountAnswer answer) fun _ => True
  | some _, hanswer => .setPlain (v := .dictionary _) (hanswer _ rfl)
  | none, _ => .done

theorem AccountViewController.viewDidLoad_emits : Emits D W viewDidLoad fun _ => True :=
  .next .forced fun _ => .next .cast fun _ => .next .cast fun _ =>
    .next .cast fun _ => .next .cast fun _ => .next .cast fun _ =>
      .next .cast fun _ => .done

namespace EditAccountViewController

theorem viewDidLoad_emits : Emits D W viewDidLoad fun _ => True :=
  .next .forced fun _ => .next .cast fun _ => .next .cast fun _ =>
    .next .cast fun _ => .next .cast fun _ => .done

theorem confirmButton_emits {form : AccountForm} {password₁ password₂ : String} :
    Emits D (AppWrite.Below [.accounts]) (confirmButton form password₁ password₂)
      fun _ => True := by
  refine .ite (fun _ => .done) fun hcomplete => .ite (fun _ => .done) fun _ =>
    .ite (fun _ => ?_) fun _ => ?_
  all_goals
    exact .next (.setData fun hid =>
      (AppWrite.profile form hid hcomplete).setAt_below (by decide)) fun _ => .done

end EditAccountViewController

/-! ## Screens that open, appear and go away -/

namespace Place

theorem viewDidLoad_emits (place : Place) : Emits D W place.viewDidLoad fun _ => True := by
  cases place with
  | manageStudents =>
    exact .next ManageStudentsViewController.viewDidLoad_emits fun _ => .done
  | editInfoStudent => exact .next EditInfoStudentViewController.viewDidLoad_emits fun _ => .done
  | listBorrowingCard =>
    exact .next ListBorrowingCardStudentViewController.viewDidLoad_emits fun _ => .done
  | addNewBorrowingCard =>
    exact .next AddNewBorrowingCardViewController.viewDidLoad_emits fun _ => .done
  | editBorrowCard => exact .next EditBorrowCardViewController.viewDidLoad_emits fun _ => .done
  | manageBooks => exact .next (.next .forced fun _ => .done) fun _ => .done
  | editInfoBook => exact .next EditInfoBookViewController.viewDidLoad_emits fun _ => .done
  | rules => exact .next (.next .forced fun _ => .done) fun _ => .done
  | editInfoRule => exact .next (.next .forced fun _ => .done) fun _ => .done
  | account => exact .next AccountViewController.viewDidLoad_emits fun _ => .done
  | editAccount => exact .next EditAccountViewController.viewDidLoad_emits fun _ => .done
  | _ => exact .done

theorem viewWillAppear_emits (place : Place) :
    Emits D W place.viewWillAppear fun _ => True := by
  cases place with
  | studentMenu => exact .next StudentMenuViewController.viewWillAppear_emits fun _ => .done
  | listBorrowingCard =>
    exact .next ListBorrowingCardStudentViewController.viewWillAppear_emits fun _ => .done
  | _ => exact .done

theorem viewWillDisappear_emits (place : Place) :
    Emits D W place.viewWillDisappear fun _ => True := by
  cases place with
  | addRules => exact .next (.next .forced fun _ => .done) fun _ => .done
  | _ => exact .done

theorem cellForRowAt_emits {place : Place} {row : ℕ} {h : Handler Rendered}
    (hh : place.cellForRowAt row = some h) : Emits D W h fun _ => True := by
  cases place with
  | manageStudents =>
    obtain rfl := Option.some.inj hh
    exact .next listenRow_emits fun _ => .done
  | manageBooks =>
    obtain rfl := Option.some.inj hh
    exact .next listenRow_emits fun _ => .done
  | listBorrowingCard =>
    obtain rfl := Option.some.inj hh
    exact .next ListBorrowingCardStudentViewController.cellForRowAt_emits fun _ => .done
  | rules =>
    obtain rfl := Option.some.inj hh
    exact .next (.next .forced fun _ => .done) fun _ => .done
  | _ => cases hh

theorem didSelectRowAt_emits (place : Place) (row : ℕ) :
    Emits D W (place.didSelectRowAt row) fun _ => True := by
  cases place with
  | manageStudents => exact selectRow_emits
  | manageBooks => exact selectRow_emits
  | listBorrowingCard => exact selectRow_emits
  | _ => exact .done

end Place

/-! ## Events -/

namespace Path

/-- The books that wait to be saved have a quantity that is an `Int`, and the open screens are
in `P`. -/
def Fits (P : Set Place) (p : Path) : Prop :=
  (∀ a ∈ p.adding, Swift.InInt a.book.quantity) ∧ ∀ tab, ∀ place ∈ p.stack tab, place ∈ P

theorem fits_launch {P : Set Place} : launch.Fits P := ⟨by rintro a ⟨⟩, by rintro tab place ⟨⟩⟩

variable {P : Set Place} {p : Path} {tab : Tab} {place : Place} {below : List Place} {db : Database}

theorem leave_emits : Emits D W p.leave fun _ => True := by
  unfold leave
  split
  · next place hhere => exact place.viewWillDisappear_emits
  · exact .done

/-- The stack of a tab is another one. -/
theorem Fits.update {places : List Place} (hp : p.Fits P) (hplaces : ∀ place ∈ places, place ∈ P)
    (t : Tab) : ∀ place ∈ Function.update p.stack tab places t, place ∈ P := by
  rw [Function.update_apply]
  split
  · exact hplaces
  · exact hp.2 t

theorem push_emits (hp : p.Fits P) (hplace : place ∈ P) : Emits D W (p.push tab place) (Fits P) :=
  .next place.viewDidLoad_emits fun _ => .next leave_emits fun _ =>
    .next place.viewWillAppear_emits fun _ =>
      .pure ⟨hp.1, hp.update (List.forall_mem_cons.2 ⟨hplace, hp.2 tab⟩)⟩

theorem reveal_emits (hp : p.Fits P) (hplaces : ∀ q ∈ place :: below, q ∈ P) :
    Emits D W (p.reveal tab place below) (Fits P) :=
  .next leave_emits fun _ => .next place.viewWillAppear_emits fun _ =>
    .pure ⟨hp.1, hp.update hplaces⟩

theorem unwind_emits {target : Place} {h : Handler Path} (hp : p.Fits P)
    (hbelow : ∀ q ∈ below, q ∈ P) (hh : p.unwind tab below target = some h) :
    Emits D W h (Fits P) := by
  unfold unwind at hh
  split at hh
  · next place rest hdrop =>
    obtain rfl := Option.some.inj hh
    exact reveal_emits hp fun q hq =>
      hbelow q ((List.dropWhile_sublist _).subset (hdrop ▸ hq))
  · cases hh

/-- The screen in front and those below it are open. -/
theorem Fits.front (hp : p.Fits P) (hfront : p.front = some (tab, place, below)) :
    ∀ q ∈ place :: below, q ∈ P := by
  intro q hq
  obtain ⟨t, -, hstack⟩ := Option.bind_eq_some_iff.1 hfront
  split at hstack
  · next top rest heq =>
    obtain ⟨rfl, rfl, rfl⟩ : t = tab ∧ top = place ∧ rest = below := by simpa using hstack
    exact hp.2 t q (heq ▸ hq)
  · cases hstack

/-- A handler that leaves the path as it is. -/
theorem stay_emits {α : Type} {x : Handler α} {p' : Path} (hx : Emits D W x fun _ => True)
    (hp : p'.Fits P) : Emits D W (do
      let _ ← x
      return p') (Fits P) := .next hx fun _ => .pure hp

theorem answer_emits (l : Load) (hdb : db.Within D) (hp : p.Fits P) :
    Emits D W (l.answer db p) (Fits P) := by
  cases l with
  | account email =>
    exact .next (LoginViewController.accountAnswer_emits (hdb.documents _ _)) fun _ =>
      .pure hp
  | students => exact .next (loadStudentData_emits hdb) fun _ => .pure hp
  | rules => exact .next (loadRuleData_emits hdb) fun _ => .pure hp
  | books => exact .next (loadBookData_emits hdb) fun _ => .pure hp
  | listBook => exact .next (loadBook_emits hdb) fun _ => .pure hp
  | cards studentID =>
    exact .next (EditInfoStudentViewController.cardsDelivery_emits hdb) fun _ => .pure hp
  | studentRow id =>
    refine .next (ManageStudentsViewController.cellDelivery_emits (hdb.documents .students id))
      fun _ => .pure ?_
    split <;> exact hp
  | bookRow id =>
    refine .next (ManageBooksViewController.cellDelivery_emits (hdb.documents .books id))
      fun _ => .pure ?_
    split <;> exact hp
  | ruleRow row => exact .next RuleViewController.cellDelivery_emits fun _ => .pure hp
  | cardBook id => exact .next EditBorrowCardViewController.bookAnswer_emits fun _ => .pure hp
  | picked screen id =>
    refine .next AddNewBorrowingCardViewController.bookAnswer_emits fun s => .pure ?_
    split <;> exact hp
  | bookTest book id =>
    exact .next AddBooksViewController.checkNewBookAnswer_emits fun _ => .pure hp
  | studentTest student id =>
    exact .next AddStudentsViewController.checkStudentAnswer_emits fun _ => .pure hp
  | bookStatistics => exact .next StatisticBooksViewController.viewDidLoad_emits fun _ => .pure hp
  | studentStatistics =>
    exact .next StatisticStudentsViewController.viewDidLoad_emits fun _ => .pure hp

theorem render_emits {row : ℕ} {x : Handler Place.Rendered} (hp : p.Fits P)
    (hx : place.cellForRowAt row = some x) : Emits D W (do
      let rendered ← x
      return { p.load rendered.loads with shown := rendered.shown ++ p.shown }) (Fits P) :=
  .next (Place.cellForRowAt_emits hx) fun _ => .pure hp

theorem addStudent_emits {form : StudentForm} {autoID : String} (hp : p.Fits P) :
    Emits D (AppWrite.Below [.students]) (do
      match ← AddStudentsViewController.confirmButton uppercased form autoID with
      | .listener _ => return p
      | .answers ids =>
        return p.load (ids.map
          (.studentTest (AddStudentsViewController.newStudent uppercased form)))) (Fits P) := by
  refine .next (AddStudentsViewController.confirmButton_emits) fun waiting => ?_
  cases waiting with
  | listener id => exact .pure hp
  | answers ids => exact .pure hp

/-- The book of a new confirm has the quantity of its form. -/
theorem addBook_emits {form : BookForm} (hp : p.Fits P) : Emits D W (do
      match ← AddBooksViewController.confirmButton uppercased form with
      | none => return p
      | some book => return { p with adding := p.adding ++ [⟨book, .check, []⟩] }) (Fits P) := by
  refine .bind AddBooksViewController.confirmButton_emits fun book hbook => ?_
  cases book with
  | none => exact .pure hp
  | some book =>
    refine .pure ⟨fun a ha => ?_, hp.2⟩
    rcases List.mem_append.1 ha with hold | hnew
    · exact hp.1 a hold
    · obtain rfl := List.mem_singleton.1 hnew
      exact hbook book rfl

theorem block_emits {i : ℕ} {a : AddBooksViewController.Adding} {shown : BookForm}
    (hp : p.Fits P) (ha : p.adding[i]? = some a) :
    Emits D (AppWrite.Below [.books]) (do return p.advance i (← a.block shown)) (Fits P) := by
  have hquantity := hp.1 a (List.mem_of_getElem? ha)
  refine .bind (AddBooksViewController.Adding.block_emits hquantity) fun a' hbook =>
    .pure ⟨fun b hb => ?_, hp.2⟩
  simp only [advance] at hb
  split at hb
  · exact hp.1 b (List.mem_of_mem_eraseIdx hb)
  · rcases List.mem_or_eq_of_mem_set hb with hb | rfl
    · exact hp.1 b hb
    · rwa [hbook]

end Path

/-- A rule as its row shows it, which the button of the row caches. -/
def ruleText (title content : String) : Document :=
  Document.merge ∅ [("title", .string title), ("content", .string content)]

/-- The collections that an event may write to: presses and a block write. -/
def Event.collections : Event → List CollectionName
  | .addStudent _ _ => [.students]
  | .editStudent _ _ => [.students]
  | .block _ _ => [.books]
  | .editBook _ => [.books]
  | .lend _ => [.borrowCard]
  | .ok => [.books]
  | .giveBack _ => [.borrowCard, .books, .cities]
  | .addRule _ _ => [.rules]
  | .editRule _ _ => [.rules]
  | .editAccount _ _ _ => [.accounts]
  | _ => []

/-- Only these events write, and only there. The register screen opens only as a segue. -/
theorem Path.handler_emits {P : Set Place} {p : Path} {db : Database} {e : Event}
    {x : Handler Path} (hW : AppWrite.Below e.collections ⊆ W) (hdb : db.Within D)
    (hrules : ∀ title content, e = .readMore title content → ruleText title content ∈ D.documents)
    (hP : ∀ place, place ∈ P ∨ place = .register ∧ e ≠ .segue .register) (hp : p.Fits P)
    (hx : p.handler uppercased db e = some x) : Emits D W x (Fits P) := by
  have hmem {place : Place} (hne : place ≠ .register) : place ∈ P :=
    (hP place).resolve_right fun h => hne h.1
  cases e with
  | login email =>
    obtain ⟨-, hx⟩ := Option.ite_none_right_eq_some.1 hx
    obtain rfl := Option.some.inj hx
    exact .next .document fun _ => push_emits (p := p.load _) hp (hmem (by decide))
  | logout =>
    obtain ⟨-, hx⟩ := Option.ite_none_right_eq_some.1 hx
    obtain rfl := Option.some.inj hx
    exact .pure ⟨hp.1, by rintro tab place ⟨⟩⟩
  | select next =>
    obtain ⟨⟨tab, place, below⟩, -, hx⟩ := Option.bind_eq_some_iff.1 hx
    obtain ⟨-, hx⟩ := Option.ite_none_right_eq_some.1 hx
    split at hx
    · obtain rfl := Option.some.inj hx
      exact push_emits hp (hmem (by cases next <;> decide))
    · next top rest hstack =>
      obtain rfl := Option.some.inj hx
      exact reveal_emits hp (hstack ▸ hp.2 next)
  | segue next =>
    obtain ⟨⟨tab, place, below⟩, -, hx⟩ := Option.bind_eq_some_iff.1 hx
    obtain ⟨-, hx⟩ := Option.ite_none_right_eq_some.1 hx
    obtain rfl := Option.some.inj hx
    refine push_emits hp ((hP next).resolve_right ?_)
    rintro ⟨rfl, hne⟩
    exact hne rfl
  | tap row =>
    obtain ⟨⟨tab, place, below⟩, -, hx⟩ := Option.bind_eq_some_iff.1 hx
    obtain ⟨next, hnext, rfl⟩ := Option.map_eq_some_iff.1 hx
    have hne : next ≠ .register := by
      rintro rfl
      cases place <;> cases hnext
    exact .next (place.didSelectRowAt_emits row) fun _ => push_emits hp (hmem hne)
  | readMore title content =>
    obtain ⟨⟨tab, place, below⟩, -, hx⟩ := Option.bind_eq_some_iff.1 hx
    obtain ⟨-, hx⟩ := Option.ite_none_right_eq_some.1 hx
    obtain rfl := Option.some.inj hx
    exact .next (.setPlain (hrules title content rfl)) fun _ =>
      push_emits (p := { p with read := true }) hp (hmem (by decide))
  | back =>
    obtain ⟨⟨tab, place, below⟩, hfront, hx⟩ := Option.bind_eq_some_iff.1 hx
    cases below with
    | nil => cases hx
    | cons top rest =>
      obtain ⟨-, hx⟩ := Option.ite_none_right_eq_some.1 hx
      obtain rfl := Option.some.inj hx
      exact reveal_emits hp (List.forall_mem_cons.1 (hp.front hfront)).2
  | root =>
    simp only [handler] at hx
    obtain ⟨⟨tab, place, below⟩, hfront, hx⟩ := Option.bind_eq_some_iff.1 hx
    split at hx
    · next last hlast =>
      obtain ⟨-, hx⟩ := Option.ite_none_right_eq_some.1 hx
      obtain rfl := Option.some.inj hx
      refine reveal_emits hp fun q hq => ?_
      obtain rfl := List.mem_singleton.1 hq
      exact hp.front hfront q (List.mem_cons_of_mem _ (List.mem_of_getLast? hlast))
    · cases hx
  | unwind =>
    obtain ⟨⟨tab, place, below⟩, hfront, hx⟩ := Option.bind_eq_some_iff.1 hx
    obtain ⟨target, -, hx⟩ := Option.bind_eq_some_iff.1 hx
    obtain ⟨-, hx⟩ := Option.ite_none_right_eq_some.1 hx
    exact unwind_emits hp (List.forall_mem_cons.1 (hp.front hfront)).2 hx
  | deliver i =>
    obtain ⟨l, -, rfl⟩ := Option.map_eq_some_iff.1 hx
    exact answer_emits l hdb hp
  | again i =>
    obtain ⟨l, -, rfl⟩ := Option.map_eq_some_iff.1 hx
    exact answer_emits l hdb hp
  | render row =>
    obtain ⟨⟨tab, place, below⟩, -, hx⟩ := Option.bind_eq_some_iff.1 hx
    obtain ⟨y, hy, rfl⟩ := Option.map_eq_some_iff.1 hx
    exact render_emits hp hy
  | addStudent form autoID =>
    obtain ⟨-, hx⟩ := Option.ite_none_right_eq_some.1 hx
    obtain rfl := Option.some.inj hx
    exact (addStudent_emits hp).mono hW
  | editStudent form statusIsOn =>
    obtain ⟨-, hx⟩ := Option.ite_none_right_eq_some.1 hx
    obtain rfl := Option.some.inj hx
    exact stay_emits (EditInfoStudentViewController.confirmAction_emits.mono hW) hp
  | addBook form =>
    obtain ⟨-, hx⟩ := Option.ite_none_right_eq_some.1 hx
    obtain rfl := Option.some.inj hx
    exact addBook_emits hp
  | block i shown =>
    obtain ⟨a, ha, rfl⟩ := Option.map_eq_some_iff.1 hx
    exact (block_emits hp ha).mono hW
  | editBook form =>
    obtain ⟨-, hx⟩ := Option.ite_none_right_eq_some.1 hx
    obtain rfl := Option.some.inj hx
    exact stay_emits (EditInfoBookViewController.confirmButton_emits.mono hW) hp
  | bookAction =>
    obtain ⟨-, hx⟩ := Option.ite_none_right_eq_some.1 hx
    obtain rfl := Option.some.inj hx
    exact .next AddNewBorrowingCardViewController.bookAction_emits fun _ => .pure hp
  | pickerRow row =>
    obtain ⟨-, hx⟩ := Option.ite_none_right_eq_some.1 hx
    obtain rfl := Option.some.inj hx
    exact .next (.next .forced fun _ => .done) fun _ =>
      stay_emits AddNewBorrowingCardViewController.titleForRow_emits hp
  | didSelectRow row =>
    obtain ⟨-, hx⟩ := Option.ite_none_right_eq_some.1 hx
    obtain rfl := Option.some.inj hx
    exact .next AddNewBorrowingCardViewController.didSelectRow_emits fun _ => .pure hp
  | bookText text =>
    obtain ⟨-, hx⟩ := Option.ite_none_right_eq_some.1 hx
    obtain rfl := Option.some.inj hx
    exact .pure hp
  | bookIDAction =>
    obtain ⟨-, hx⟩ := Option.ite_none_right_eq_some.1 hx
    obtain rfl := Option.some.inj hx
    exact .next AddNewBorrowingCardViewController.bookIDAction_emits fun _ => .pure hp
  | lend autoID =>
    obtain ⟨-, hx⟩ := Option.ite_none_right_eq_some.1 hx
    obtain rfl := Option.some.inj hx
    exact .next (AddNewBorrowingCardViewController.confirmAction_emits.mono hW) fun _ =>
      .pure hp
  | ok =>
    obtain ⟨⟨tab, place, below⟩, hfront, hx⟩ := Option.bind_eq_some_iff.1 hx
    obtain ⟨-, hx⟩ := Option.ite_none_right_eq_some.1 hx
    obtain ⟨y, hy, rfl⟩ := Option.map_eq_some_iff.1 hx
    exact .next (AddNewBorrowingCardViewController.okAction_emits.mono hW) fun _ =>
      unwind_emits (p := { p with alert := false }) hp
        (List.forall_mem_cons.1 (hp.front hfront)).2 hy
  | giveBack final =>
    obtain ⟨-, hx⟩ := Option.ite_none_right_eq_some.1 hx
    obtain rfl := Option.some.inj hx
    exact stay_emits (EditBorrowCardViewController.confirmButton_emits.mono hW) hp
  | addRule title content =>
    obtain ⟨⟨tab, place, below⟩, hfront, hx⟩ := Option.bind_eq_some_iff.1 hx
    obtain ⟨⟨-, hconfirm⟩, hx⟩ := Option.ite_none_right_eq_some.1 hx
    obtain ⟨y, hy, rfl⟩ := Option.map_eq_some_iff.1 hx
    have hcontent : content ≠ "" := (of_decide_eq_true hconfirm).2
    exact .next ((AddRulesViewController.okAction_emits hcontent).mono hW) fun _ =>
      unwind_emits (p := p.load [.rules]) hp (List.forall_mem_cons.1 (hp.front hfront)).2 hy
  | editRule title content =>
    obtain ⟨-, hx⟩ := Option.ite_none_right_eq_some.1 hx
    obtain rfl := Option.some.inj hx
    exact stay_emits (EditInfoRuleViewController.confirmButton_emits.mono hW) hp
  | editAccount form password₁ password₂ =>
    obtain ⟨-, hx⟩ := Option.ite_none_right_eq_some.1 hx
    obtain rfl := Option.some.inj hx
    exact stay_emits (EditAccountViewController.confirmButton_emits.mono hW) hp
  | change db' => cases hx

end LibraryManagement
