import LibraryManagement.Screens.Accounts
import LibraryManagement.Screens.Rules
import LibraryManagement.Screens.Statistics
import LibraryManagement.Screens.Students
import LibraryManagement.Visits

/-!
# Paths through the storyboard

A login opens four tabs, each a stack of screens. A segue pushes a screen, the back button
and an unwind segue take screens off, and a tab keeps its stack while another one is shown.
A screen that opens, appears or goes away runs its handlers and starts loads.

A load is answered later, from the database as it is then, and a listener again whenever
Firestore likes. The answers come in any order, and the next screen may open before they do.
-/

namespace LibraryManagement

open Handler

/-! ## The storyboard -/

inductive Tab
  | students | books | rules | account
deriving Repr, DecidableEq

/-- The screens behind the login. -/
inductive Place
  | studentMenu | addStudents | manageStudents | statisticStudents | editInfoStudent
  | listBorrowingCard | addNewBorrowingCard | editBorrowCard
  | bookMenu | addBooks | manageBooks | statisticBooks | editInfoBook
  | rules | addRules | editInfoRule
  | account | editAccount | register
deriving Repr, DecidableEq

def Tab.root : Tab → Place
  | students => .studentMenu
  | books => .bookMenu
  | rules => .rules
  | account => .account

namespace Place

/-- Where the buttons of a screen and its swipe lead. -/
def segues : Place → List Place
  | studentMenu => [addStudents, manageStudents, statisticStudents]
  | manageStudents => [addStudents]
  | editInfoStudent => [listBorrowingCard]
  | listBorrowingCard => [addNewBorrowingCard]
  | bookMenu => [addBooks, manageBooks, statisticBooks]
  | manageBooks => [addBooks]
  | rules => [addRules]
  | account => [editAccount, register]
  | _ => []

/-- Where the rows of a screen lead. -/
def rowSegue : Place → Option Place
  | manageStudents => some editInfoStudent
  | listBorrowingCard => some editBorrowCard
  | manageBooks => some editInfoBook
  | rules => some editInfoRule
  | _ => none

/-- Where the confirm and cancel buttons of a screen unwind to. -/
def unwindTarget : Place → Option Place
  | addStudents => some studentMenu
  | editInfoStudent => some manageStudents
  | addNewBorrowingCard => some listBorrowingCard
  | editBorrowCard => some listBorrowingCard
  | addBooks => some bookMenu
  | editInfoBook => some manageBooks
  | addRules => some rules
  | editInfoRule => some rules
  | editAccount => some account
  | register => some account
  | _ => none

end Place

/-! ## Loads -/

/-- A load that was started and is to be answered. -/
inductive Load
  | account (email : String)
  | students | rules | books
  /-- The entries of the picker. -/
  | listBook
  /-- The cards of the student with this ID. -/
  | cards (studentID : String)
  | studentRow (id : String)
  | bookRow (id : String)
  | ruleRow (row : ℕ)
  /-- The book of the card on the edit-card screen. -/
  | cardBook (id : String)
  /-- The book that was picked on a borrow screen; the screens are counted. -/
  | picked (screen : ℕ) (id : String)
  | bookTest (book : Book) (id : String)
  | studentTest (student : Student) (id : String)
  | bookStatistics | studentStatistics
deriving DecidableEq

/-- Snapshot listeners stay and are answered again. -/
def Load.listens : Load → Bool
  | rules => true
  | listBook => true
  | cards _ => true
  | studentRow _ => true
  | bookRow _ => true
  | ruleRow _ => true
  | _ => false

/-! ## Screens that open, appear and go away -/

namespace Place

/-- What a screen leaves behind when it has loaded. -/
structure Loaded where
  loads : List Load := []
  lending : Option AddNewBorrowingCardViewController.Screen := none

def viewDidLoad : Place → Handler Loaded
  | studentMenu => return {}
  | addStudents => return {}
  | manageStudents => do
    let _ ← ManageStudentsViewController.viewDidLoad
    return {}
  | statisticStudents => return { loads := [.studentStatistics] }
  | editInfoStudent => do
    let (form, _) ← EditInfoStudentViewController.viewDidLoad
    return { loads := [.cards form.ID] }
  | listBorrowingCard => do
    let _ ← ListBorrowingCardStudentViewController.viewDidLoad
    return {}
  | addNewBorrowingCard => do
    return { lending := some (← AddNewBorrowingCardViewController.viewDidLoad) }
  | editBorrowCard => do
    let (_, asked) ← EditBorrowCardViewController.viewDidLoad
    return { loads := [.cardBook asked] }
  | bookMenu => return {}
  | addBooks => return {}
  | manageBooks => do
    let _ ← ManageBooksViewController.numberOfRowsInSection
    return {}
  | statisticBooks => return { loads := [.bookStatistics] }
  | editInfoBook => do
    let _ ← EditInfoBookViewController.viewDidLoad
    return {}
  | rules => do
    let _ ← RuleViewController.numberOfRowsInSection
    return {}
  | addRules => return {}
  | editInfoRule => do
    let _ ← EditInfoRuleViewController.viewDidLoad
    return {}
  | account => do
    let _ ← AccountViewController.viewDidLoad
    return {}
  | editAccount => do
    let _ ← EditAccountViewController.viewDidLoad
    return {}
  | register => return {}

/-- The loads that are started when a screen appears. -/
def viewWillAppear : Place → Handler (List Load)
  | studentMenu => do
    StudentMenuViewController.viewWillAppear
    return [.students, .rules, .books, .listBook]
  | bookMenu => return [.books]
  | listBorrowingCard => do
    let _ ← ListBorrowingCardStudentViewController.viewWillAppear
    return []
  | _ => return []

/-- The loads that are started when a screen goes away. -/
def viewWillDisappear : Place → Handler (List Load)
  | addRules => do
    AddRulesViewController.viewWillDisappear
    return [.rules]
  | _ => return []

/-- What rendering a row leaves behind. -/
structure Rendered where
  loads : List Load := []
  /-- The card that was cached. -/
  shown : List String := []

def cellForRowAt (row : ℕ) : Place → Option (Handler Rendered)
  | manageStudents => some do
    return { loads := [.studentRow (← ManageStudentsViewController.cellForRowAt row)] }
  | manageBooks => some do
    return { loads := [.bookRow (← ManageBooksViewController.cellForRowAt row)] }
  | listBorrowingCard => some do
    let (id, _, _) ← ListBorrowingCardStudentViewController.cellForRowAt row
    return { shown := [id] }
  | rules => some do
    RuleViewController.cellForRowAt
    return { loads := [.ruleRow row] }
  | _ => none

def didSelectRowAt (row : ℕ) : Place → Handler Unit
  | manageStudents => ManageStudentsViewController.didSelectRowAt row
  | manageBooks => ManageBooksViewController.didSelectRowAt row
  | listBorrowingCard => ListBorrowingCardStudentViewController.didSelectRowAt row
  | _ => return ()

end Place

/-! ## Paths -/

/-- Where a path has come. -/
structure Path where
  /-- The selected tab, once there was a login. -/
  tab : Option Tab
  /-- The screens of a tab, the one in front first; none before the tab was selected. -/
  stack : Tab → List Place
  pending : List Load
  listeners : List Load
  /-- The confirms of new books that are in progress. -/
  adding : List AddBooksViewController.Adding
  /-- How many borrow screens were opened, the last of them, and whether its alert is shown. -/
  borrows : ℕ
  lending : AddNewBorrowingCardViewController.Screen
  alert : Bool
  /-- The documents whose rows were shown, and that were cached for it. -/
  shown : List String
  /-- The button of a rule was pressed. -/
  read : Bool

namespace Path

/-- Before the login. -/
def launch : Path where
  tab := none
  stack _ := []
  pending := []
  listeners := []
  adding := []
  borrows := 0
  lending := ⟨"", "", "", "", none, true, "", ""⟩
  alert := false
  shown := []
  read := false

/-- Every load that was started is answered. -/
def Settled (p : Path) : Prop := p.pending = [] ∧ p.adding = []

instance (p : Path) : Decidable p.Settled := inferInstanceAs (Decidable (_ ∧ _))

/-- The selected tab, its screen in front, and the screens below. -/
def front (p : Path) : Option (Tab × Place × List Place) :=
  p.tab.bind fun tab => match p.stack tab with
    | place :: below => some (tab, place, below)
    | [] => none

/-- The screen in front. -/
def here (p : Path) : Option Place := p.front.map fun f => f.2.1

/-- Loads are started. -/
def load (p : Path) (loads : List Load) : Path := { p with pending := p.pending ++ loads }

/-- The screen in front goes away. -/
def leave (p : Path) : Handler (List Load) :=
  match p.here with
  | some place => place.viewWillDisappear
  | none => return []

/-- A screen opens on the stack of a tab. -/
def push (p : Path) (tab : Tab) (place : Place) : Handler Path := do
  let loaded ← place.viewDidLoad
  let left ← p.leave
  let appeared ← place.viewWillAppear
  return { p.load (loaded.loads ++ left ++ appeared) with
    tab := some tab
    stack := Function.update p.stack tab (place :: p.stack tab)
    borrows := if loaded.lending.isSome then p.borrows + 1 else p.borrows
    lending := loaded.lending.getD p.lending }

/-- A screen of a tab appears again, with the screens below it. -/
def reveal (p : Path) (tab : Tab) (place : Place) (below : List Place) : Handler Path := do
  let left ← p.leave
  let appeared ← place.viewWillAppear
  return { p.load (left ++ appeared) with
    tab := some tab
    stack := Function.update p.stack tab (place :: below) }

/-- Taking screens off until `target` is in front, if it is below. -/
def unwind (p : Path) (tab : Tab) (below : List Place) (target : Place) : Option (Handler Path) :=
  match below.dropWhile (· ≠ target) with
  | place :: rest => some (p.reveal tab place rest)
  | [] => none

end Path

/-- The answer to a load, from the database as it is. -/
def Load.answer (db : Database) (p : Path) : Load → Handler Path
  | account email => do
    LoginViewController.accountAnswer (db.read .accounts email)
    return p
  | students => do
    loadStudentData (db .students)
    return p
  | rules => do
    loadRuleData (db .rules)
    return p
  | books => do
    loadBookData (db .books)
    return p
  | listBook => do
    loadBook (db .books)
    return p
  | cards studentID => do
    EditInfoStudentViewController.cardsDelivery studentID (db .borrowCard)
    return p
  | studentRow id => do
    ManageStudentsViewController.cellDelivery id (db .students)[id]?
    return if Named (db .students)[id]? then { p with shown := id :: p.shown } else p
  | bookRow id => do
    let _ ← ManageBooksViewController.cellDelivery id (db .books)[id]?
    return if Named (db .books)[id]? then { p with shown := id :: p.shown } else p
  | ruleRow row => do
    let _ ← RuleViewController.cellDelivery row (db .rules)
    return p
  | cardBook id => do
    EditBorrowCardViewController.bookAnswer (db.read .books id)
    return p
  | picked screen id => do
    let s ← AddNewBorrowingCardViewController.bookAnswer p.lending (db.read .books id)
    -- An answer to an earlier borrow screen does not change the last one.
    return if screen = p.borrows then { p with lending := s } else p
  | bookTest book id => do
    AddBooksViewController.checkNewBookAnswer book (db .books)[id]?
    return p
  | studentTest student id => do
    AddStudentsViewController.checkStudentAnswer student (db .students)[id]?
    return p
  | bookStatistics => do
    let _ ← StatisticBooksViewController.viewDidLoad (db .books)
    return p
  | studentStatistics => do
    let _ ← StatisticStudentsViewController.viewDidLoad (db .students)
    return p

/-! ## Events -/

/-- What the user does, what Firestore delivers, and what other clients do. -/
inductive Event
  | login (email : String)
  | logout
  | select (tab : Tab)
  | segue (place : Place)
  | tap (row : ℕ)
  | readMore (title content : String)
  /-- The back button; the button of the selected tab; the confirm or cancel of a screen. -/
  | back
  | root
  | unwind
  /-- The answer to a pending load; one more delivery of a listener. -/
  | deliver (i : ℕ)
  | again (i : ℕ)
  | render (row : ℕ)
  | addStudent (form : StudentForm) (autoID : String)
  | editStudent (form : StudentForm) (statusIsOn : Bool)
  /-- The confirm of a new book, and its next block when the form shows `shown`. -/
  | addBook (form : BookForm)
  | block (i : ℕ) (shown : BookForm)
  | editBook (form : BookForm)
  /-- The picker of the borrow screen: it opens, a row of it is shown, one is selected, the
  text is edited, and editing ends. -/
  | bookAction
  | pickerRow (row : ℕ)
  | didSelectRow (row : ℕ)
  | bookText (text : String)
  | bookIDAction
  /-- The confirm of a borrow, and OK on its alert. -/
  | lend (autoID : String)
  | ok
  | giveBack (final : EditBorrowCardViewController.Screen)
  | addRule (title content : String)
  | editRule (title content : String)
  | editAccount (form : AccountForm) (password₁ password₂ : String)
  | change (db : Database)

namespace Path

variable (uppercased : String → String) (db : Database) (p : Path)

/-- A pending load is no longer pending; a listener stays. -/
def delivered (i : ℕ) (l : Load) : Path :=
  { p with
    pending := p.pending.eraseIdx i
    listeners := if l.listens then p.listeners ++ [l] else p.listeners }

/-- A confirm of a new book has run a block, and started the reads of its test. -/
def advance (i : ℕ) (a : AddBooksViewController.Adding) : Path :=
  { p.load (if a.next = .readFlag then a.reads.map (.bookTest a.book) else []) with
    adding := if a.next = .finished then p.adding.eraseIdx i else p.adding.set i a }

/-- The handler that an event runs, if it is possible. -/
def handler : Event → Option (Handler Path)
  | .login email =>
    if p.tab = none then some do
      (p.load [.account (← LoginViewController.signedIn email)]).push .students .studentMenu
    else none
  | .logout =>
    if p.here = some .account then
      some (return { p with tab := none, stack := fun _ => [] })
    else none
  | .select tab => p.front.bind fun (now, _, _) =>
    if p.alert = false ∧ tab ≠ now then
      match p.stack tab with
      | [] => some (p.push tab tab.root)
      | place :: below => some (p.reveal tab place below)
    else none
  | .segue place => p.front.bind fun (tab, now, _) =>
    if p.alert = false ∧ place ∈ now.segues then some (p.push tab place) else none
  | .tap row => p.front.bind fun (tab, now, _) => now.rowSegue.map fun place => do
    now.didSelectRowAt row
    p.push tab place
  | .readMore title content => p.front.bind fun (tab, now, _) =>
    if now = .rules then some do
      ListRulesTableViewCell.readMoreButton title content
      { p with read := true }.push tab .editInfoRule
    else none
  | .back => p.front.bind fun (tab, _, below) =>
    match below with
    | place :: rest =>
      if p.alert = false then some (p.reveal tab place rest) else none
    | [] => none
  | .root => p.front.bind fun (tab, _, below) =>
    match below.getLast? with
    | some place =>
      if p.alert = false then some (p.reveal tab place []) else none
    | none => none
  | .unwind => p.front.bind fun (tab, now, below) => now.unwindTarget.bind fun target =>
    if p.alert = false then p.unwind tab below target else none
  | .deliver i => p.pending[i]?.map fun l => l.answer db (p.delivered i l)
  | .again i => p.listeners[i]?.map fun l => l.answer db p
  | .render row => p.front.bind fun (_, now, _) => (now.cellForRowAt row).map fun h => do
    let rendered ← h
    return { p.load rendered.loads with shown := rendered.shown ++ p.shown }
  | .addStudent form autoID =>
    if p.here = some .addStudents then some do
      match ← AddStudentsViewController.confirmButton uppercased form autoID with
      -- The listener to the only student never touches `UserDefaults`.
      | .listener _ => return p
      | .answers ids =>
        return p.load (ids.map (.studentTest (AddStudentsViewController.newStudent uppercased form)))
    else none
  | .editStudent form statusIsOn =>
    if p.here = some .editInfoStudent then some do
      EditInfoStudentViewController.confirmAction form statusIsOn
      return p
    else none
  | .addBook form =>
    if p.here = some .addBooks then some do
      match ← AddBooksViewController.confirmButton uppercased form with
      | none => return p
      | some book => return { p with adding := p.adding ++ [⟨book, .check, []⟩] }
    else none
  | .block i shown => p.adding[i]?.map fun a => do return p.advance i (← a.block shown)
  | .editBook form =>
    if p.here = some .editInfoBook then some do
      EditInfoBookViewController.confirmButton uppercased form
      return p
    else none
  | .bookAction =>
    if p.here = some .addNewBorrowingCard ∧ p.alert = false then some do
      return { p with lending := ← AddNewBorrowingCardViewController.bookAction p.lending }
    else none
  | .pickerRow row =>
    if p.here = some .addNewBorrowingCard ∧ p.alert = false then some do
      let _ ← AddNewBorrowingCardViewController.numberOfRowsInComponent
      let _ ← AddNewBorrowingCardViewController.titleForRow row
      return p
    else none
  | .didSelectRow row =>
    if p.here = some .addNewBorrowingCard ∧ p.alert = false then some do
      return { p with lending := ← AddNewBorrowingCardViewController.didSelectRow row p.lending }
    else none
  | .bookText text =>
    if p.here = some .addNewBorrowingCard ∧ p.alert = false then
      some (return { p with lending := { p.lending with idBook := text } })
    else none
  | .bookIDAction =>
    if p.here = some .addNewBorrowingCard ∧ p.alert = false then some do
      let (s, asked) ← AddNewBorrowingCardViewController.bookIDAction p.lending
      return { p.load (asked.toList.map (.picked p.borrows)) with lending := s }
    else none
  | .lend autoID =>
    if p.here = some .addNewBorrowingCard ∧ p.alert = false ∧ p.lending.confirmEnabled = true then
      some do
        AddNewBorrowingCardViewController.confirmAction p.lending autoID
        return { p with alert := true }
    else none
  | .ok => p.front.bind fun (tab, _, below) =>
    if p.alert = true then
      ({ p with alert := false }.unwind tab below .listBorrowingCard).map fun h => do
        AddNewBorrowingCardViewController.okAction p.lending
        h
    else none
  | .giveBack final =>
    if p.here = some .editBorrowCard then some do
      EditBorrowCardViewController.confirmButton final
      return p
    else none
  | .addRule title content => p.front.bind fun (tab, now, below) =>
    if now = .addRules ∧ AddRulesViewController.confirmButton title content = true then
      ((p.load [.rules]).unwind tab below .rules).map fun h => do
        AddRulesViewController.okAction title content
        h
    else none
  | .editRule title content =>
    if p.here = some .editInfoRule then some do
      EditInfoRuleViewController.confirmButton title content
      return p
    else none
  | .editAccount form password₁ password₂ =>
    if p.here = some .editAccount then some do
      let _ ← EditAccountViewController.confirmButton form password₁ password₂
      return p
    else none
  | .change _ => none

end Path

/-- The client on a path. -/
structure App where
  client : Client
  path : Path

namespace App

/-- The app is started with an empty `UserDefaults`. -/
def start (db : Database) : App := ⟨⟨∅, db⟩, Path.launch⟩

def step (uppercased : String → String) (r : App) : Event → Option App
  | .change db => some { r with client := { r.client with db := db } }
  | e => (r.path.handler uppercased r.client.db e).bind fun h =>
    (r.client.run h).map fun (p, c) => ⟨c, p⟩

end App

end LibraryManagement
