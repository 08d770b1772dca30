import LibraryManagement.Lib.Transition
import LibraryManagement.Screens.AccountsTheorems
import LibraryManagement.VisitsTheorems

/-!
# Sessions on one device

Users log in and out one after the other. Firebase Auth decides whose login it accepts, and
may accept a spelling of an e-mail that does not name the user's account document. A user is
named by the id of that document.

The answers to the reads that the logins start arrive in any order. `UserDefaults` is what
earlier sessions, or earlier runs of the app, have left.
-/

namespace LibraryManagement

open Handler Transition

/-- The device between two steps. -/
structure Session where
  client : Client
  /-- The user Auth has signed in. -/
  user : Option String
  /-- The reads of account documents that are not answered yet. -/
  reads : List String
  /-- What the account screen and the edit-account screen show, once they are loaded. -/
  account : Option AccountViewController.Screen
  edit : Option AccountForm
  /-- The passwords Auth was asked to set, with their users. -/
  passwords : List (String × String)
  /-- The history of the session: the user's own document, once an answer has brought it. -/
  own : Option Document

/-- Nobody is logged in. -/
def Session.start (c : Client) : Session := ⟨c, none, [], none, none, [], none⟩

inductive SessionStep
  /-- Auth accepts the login of the user, with the e-mail as it is typed. -/
  | login (email user : String)
  /-- Auth refuses a login. -/
  | refused
  /-- The answer to one of the unanswered reads. -/
  | answer (i : ℕ)
  | logout
  /-- The account screen, the edit-account screen loads. -/
  | openAccount
  | openEdit
  /-- The confirm of the edit-account screen. -/
  | confirm (form : AccountForm) (password₁ password₂ : String)

namespace Session

abbrev accounts (r : Session) : Collection := r.client.db .accounts

/-- The history after the answer to the read of `id`. -/
def learn (r : Session) (id : String) : Option Document :=
  if ∃ user ∈ r.user, CollectionName.accounts.id? id = some user then
    (r.client.db.read .accounts id).or r.own
  else r.own

/-- The e-mail field of the edit-account screen cannot be edited. -/
def step (r : Session) : SessionStep → Option Session
  | .login email user => (r.client.run (LoginViewController.signedIn email)).map fun (id, c) =>
    { r with client := c, user := some user, reads := r.reads ++ [id], own := none }
  | .refused => some r
  | .answer i => r.reads[i]?.bind fun id =>
    (r.client.run (LoginViewController.accountAnswer (r.client.db.read .accounts id))).map
      fun (_, c) => { r with client := c, reads := r.reads.eraseIdx i, own := r.learn id }
  | .logout => some { r with user := none, account := none, edit := none, own := none }
  | .openAccount =>
    if r.user = none then none
    else (r.client.run AccountViewController.viewDidLoad).map fun (s, c) =>
      { r with client := c, account := some s }
  | .openEdit =>
    if r.user = none then none
    else (r.client.run EditAccountViewController.viewDidLoad).map fun (form, c) =>
      { r with client := c, edit := some form }
  | .confirm form password₁ password₂ => r.edit.bind fun opened =>
    (r.client.run (EditAccountViewController.confirmButton { form with email := opened.email }
      password₁ password₂)).map fun (password, c) =>
        { r with client := c, passwords := r.passwords ++
          (password.bind fun p => r.user.map (·, p)).toList }

/-! ## What is to hold -/

/-- A screen that loads shows what the user's own document says, and a confirm changes no
document but that. -/
def Isolated (r t : Session) : SessionStep → Prop
  | .openAccount => t.account = r.own.bind AccountViewController.shows
  | .openEdit => t.edit = r.own.bind EditAccountViewController.shows
  | .confirm _ _ _ => ∀ c id, ¬ (c = .accounts ∧ r.user = some id) →
    (t.client.db c)[id]? = (r.client.db c)[id]?
  | _ => True

/-- The account document of the user exists and carries the user's e-mail. -/
def HasAccount (r : Session) (user : String) : Prop :=
  ∃ account ∈ r.accounts[user]?, account.Carries "email" user

instance (r : Session) (user : String) : Decidable (r.HasAccount user) :=
  inferInstanceAs (Decidable (∃ account ∈ r.accounts[user]?, _))

/-- The condition on a step. A login types what names the user's own account document, which
exists; the answers still to come are for that document, and no other user's edit screen is
open. A screen loads when an answer has come in this session. -/
def KeepsSession (r : Session) : SessionStep → Prop
  | .login email user => CollectionName.accounts.id? email = some user ∧ r.HasAccount user ∧
    (∀ id ∈ r.reads, CollectionName.accounts.id? id = some user) ∧
    (r.edit = none ∨ r.user = some user)
  | .openAccount => r.own.isSome
  | .openEdit => r.own.isSome
  | _ => True

instance (r : Session) : DecidablePred r.KeepsSession
  | .login email user => inferInstanceAs (Decidable (CollectionName.accounts.id? email = some user ∧
      r.HasAccount user ∧ (∀ id ∈ r.reads, CollectionName.accounts.id? id = some user) ∧
      (r.edit = none ∨ r.user = some user)))
  | .openAccount => inferInstanceAs (Decidable (r.own.isSome = true))
  | .openEdit => inferInstanceAs (Decidable (r.own.isSome = true))
  | .refused => inferInstanceAs (Decidable True)
  | .answer _ => inferInstanceAs (Decidable True)
  | .logout => inferInstanceAs (Decidable True)
  | .confirm _ _ _ => inferInstanceAs (Decidable True)

end Session

/-! ## One step -/

namespace Session

variable {r t : Session}

/-- What holds while the users keep to the condition: the entry `"current_user"` is the own
document of the signed-in user once that was delivered, and the edit screen is about it. -/
structure Inv (r : Session) : Prop where
  loggedOut : r.user = none → r.edit = none
  account : ∀ u, r.user = some u → IsDocumentID u ∧ r.HasAccount u
  reads : ∀ u, r.user = some u → ∀ id ∈ r.reads, CollectionName.accounts.id? id = some u
  own : ∀ u, r.user = some u → ∀ document ∈ r.own,
    r.client.temp["current_user"]? = some (.dictionary document) ∧ document.Carries "email" u
  edit : ∀ u, r.user = some u → ∀ form ∈ r.edit, form.email = u

/-- Nothing is to hold while nobody is signed in, but that no edit screen is open. -/
theorem inv_of_loggedOut (huser : r.user = none) (hedit : r.edit = none) : r.Inv where
  loggedOut := fun _ => hedit
  account := fun u hu => by simp [huser] at hu
  reads := fun u hu => by simp [huser] at hu
  own := fun u hu => by simp [huser] at hu
  edit := fun u hu => by simp [huser] at hu

theorem inv_login {email user : String} (hr : r.Inv) (hkeeps : r.KeepsSession (.login email user))
    (h : r.step (.login email user) = some t) : t.Inv := by
  obtain ⟨id, d, hsignedIn, rfl⟩ := Client.map_run_eq_some.1 h
  obtain ⟨hemail, rfl, rfl⟩ := LoginViewController.signedIn_eq_ok.1 hsignedIn
  obtain ⟨hnames, haccount, hreads, hedit⟩ := hkeeps
  have huser := hemail.isDocumentID .accounts
  rw [CollectionName.id?_eq_some.1 hnames] at huser
  exact {
    loggedOut := fun hnone => by cases hnone
    account := fun u hu => by
      obtain rfl := Option.some.inj hu
      exact ⟨huser, haccount⟩
    reads := fun u hu id hid => by
      obtain rfl := Option.some.inj hu
      rcases List.mem_append.1 hid with hold | hnew
      · exact hreads id hold
      · obtain rfl := List.mem_singleton.1 hnew
        exact hnames
    own := fun u hu document hdocument => by cases hdocument
    edit := fun u hu form hform => by
      obtain rfl := Option.some.inj hu
      rcases hedit with hclosed | hsame
      · rw [Option.mem_def, hclosed] at hform
        cases hform
      · exact hr.edit _ hsame form hform }

theorem inv_answer {i : ℕ} (hr : r.Inv) (h : r.step (.answer i) = some t) : t.Inv := by
  obtain ⟨id, hid, h⟩ := Option.bind_eq_some_iff.1 h
  obtain ⟨_, d, hanswer, rfl⟩ := Client.map_run_eq_some.1 h
  have hdb : Write.applyAll r.client.db d.writes = r.client.db := by
    cases haccount : r.client.db.read .accounts id with
    | none =>
      rw [haccount, LoginViewController.accountAnswer_none_eq_ok] at hanswer
      rw [← hanswer, Write.applyAll_nil]
    | some account =>
      rw [haccount, LoginViewController.accountAnswer_some_eq_ok] at hanswer
      rw [← hanswer, Write.applyAll_nil]
  rw [hdb]
  exact {
    loggedOut := hr.loggedOut
    account := hr.account
    reads := fun u hu id' hid' => hr.reads u hu id' (List.mem_of_mem_eraseIdx hid')
    own := fun u hu document hdocument => by
      -- Every read still unanswered is of the user's own document, which exists.
      have hnames := hr.reads u hu id (List.mem_of_getElem? hid)
      obtain ⟨-, account, haccount, hemail⟩ := hr.account u hu
      have hread : r.client.db.read .accounts id = some account :=
        (Database.read_of_id? hnames _).trans haccount
      rw [hread, LoginViewController.accountAnswer_some_eq_ok] at hanswer
      have hlearn : r.learn id = some account := by
        rw [learn, if_pos ⟨u, hu, hnames⟩, hread]
        rfl
      obtain rfl := Option.some.inj (hlearn.symm.trans hdocument)
      rw [← hanswer]
      exact ⟨by simp, hemail⟩
    edit := hr.edit }

theorem inv_openAccount (hr : r.Inv) (hkeeps : r.KeepsSession .openAccount)
    (h : r.step .openAccount = some t) : t.Inv ∧ r.Isolated t .openAccount := by
  simp only [step] at h
  split at h
  · cases h
  next hsession =>
  obtain ⟨s, d, hload, rfl⟩ := Client.map_run_eq_some.1 h
  obtain ⟨hshows, rfl⟩ := AccountViewController.viewDidLoad_ok hload
  obtain ⟨u, hu⟩ := Option.ne_none_iff_exists'.1 hsession
  obtain ⟨own, hown⟩ := Option.isSome_iff_exists.1 hkeeps
  obtain ⟨hcurrent, -⟩ := hr.own u hu own hown
  refine ⟨⟨hr.loggedOut, hr.account, hr.reads, hr.own, hr.edit⟩, ?_⟩
  rw [hcurrent] at hshows
  show some s = r.own.bind AccountViewController.shows
  rw [hown]
  exact hshows.symm

theorem inv_openEdit (hr : r.Inv) (hkeeps : r.KeepsSession .openEdit)
    (h : r.step .openEdit = some t) : t.Inv ∧ r.Isolated t .openEdit := by
  simp only [step] at h
  split at h
  · cases h
  next hsession =>
  obtain ⟨form, d, hload, rfl⟩ := Client.map_run_eq_some.1 h
  obtain ⟨hshows, rfl⟩ := EditAccountViewController.viewDidLoad_ok hload
  obtain ⟨u, hu⟩ := Option.ne_none_iff_exists'.1 hsession
  obtain ⟨own, hown⟩ := Option.isSome_iff_exists.1 hkeeps
  obtain ⟨hcurrent, hemail⟩ := hr.own u hu own hown
  rw [hcurrent] at hshows
  refine ⟨⟨fun hnone => absurd hnone hsession, hr.account, hr.reads, hr.own, ?_⟩, ?_⟩
  · intro u' hu' form' hform'
    obtain rfl := Option.some.inj hform'
    obtain rfl := Option.some.inj (hu.symm.trans hu')
    have hform := EditAccountViewController.email_of_shows hshows
    exact Option.some.inj (hform.symm.trans hemail)
  · show some form = r.own.bind EditAccountViewController.shows
    rw [hown]
    exact hshows.symm

theorem inv_confirm {form : AccountForm} {password₁ password₂ : String} (hr : r.Inv)
    (h : r.step (.confirm form password₁ password₂) = some t) :
    t.Inv ∧ r.Isolated t (.confirm form password₁ password₂) := by
  obtain ⟨opened, hopened, h⟩ := Option.bind_eq_some_iff.1 h
  obtain ⟨password, d, hconfirm, rfl⟩ := Client.map_run_eq_some.1 h
  obtain ⟨u, hu⟩ : ∃ u, r.user = some u := by
    refine Option.ne_none_iff_exists'.1 fun hnone => ?_
    rw [hr.loggedOut hnone] at hopened
    cases hopened
  obtain rfl := hr.edit u hu opened hopened
  obtain ⟨htemp, ⟨-, hwrites⟩ | hwrites⟩ := EditAccountViewController.confirmButton_ok hconfirm
  · rw [htemp, hwrites]
    exact ⟨⟨hr.loggedOut, hr.account, hr.reads, hr.own, hr.edit⟩, fun c id _ => rfl⟩
  · rw [htemp, hwrites]
    obtain ⟨hvalid, -⟩ := hr.account _ hu
    rw [Write.setAt_of_isDocumentID hvalid]
    refine ⟨⟨hr.loggedOut, fun u' hu' => ?_, hr.reads, hr.own, hr.edit⟩, fun c id hother => ?_⟩
    · obtain rfl := Option.some.inj (hu.symm.trans hu')
      exact ⟨hvalid, _, Collection.getElem?_override_self .., by
        simp [Document.Carries, EditAccountViewController.profile, Document.merge_cons]⟩
    · show (Write.apply r.client.db _ c)[id]? = _
      rw [Write.apply_apply]
      split
      · next hc =>
        obtain rfl : c = .accounts := hc
        refine (Collection.getElem?_override ..).trans (if_neg fun heq => ?_)
        exact hother ⟨rfl, heq ▸ hu⟩
      · rfl

theorem inv_step {e : SessionStep} (hr : r.Inv) (hkeeps : r.KeepsSession e)
    (h : r.step e = some t) : t.Inv ∧ r.Isolated t e := by
  cases e with
  | login email user => exact ⟨inv_login hr hkeeps h, trivial⟩
  | refused =>
    obtain rfl := Option.some.inj h
    exact ⟨hr, trivial⟩
  | answer i => exact ⟨inv_answer hr h, trivial⟩
  | logout =>
    obtain rfl := Option.some.inj h
    exact ⟨inv_of_loggedOut rfl rfl, trivial⟩
  | openAccount => exact inv_openAccount hr hkeeps h
  | openEdit => exact inv_openEdit hr hkeeps h
  | confirm form password₁ password₂ => exact inv_confirm hr h

end Session

/-! ## Every run -/

/-- In a run whose steps meet the condition a screen shows what the user's own document says
and a confirm changes no other document. So the screens of two runs, with whatever sessions
before, are the same if the users' own documents are. -/
theorem session_of_run {c : Client} {es : List SessionStep} {r t : Session} {e : SessionStep}
    (h : Run (Guarded Session.KeepsSession (Steps Session.step)) (Session.start c) es r)
    (hkeeps : r.KeepsSession e) (hstep : Steps Session.step r e t) :
    r.Isolated t e ∧ ∀ (c' : Client) (es' : List SessionStep) (r' t' : Session),
      Run (Guarded Session.KeepsSession (Steps Session.step)) (Session.start c') es' r' →
        r'.KeepsSession e → Steps Session.step r' e t' → r'.own = r.own →
          (e = .openAccount → t'.account = t.account) ∧ (e = .openEdit → t'.edit = t.edit) := by
  have hinv : ∀ {c : Client} {es : List SessionStep} {r : Session},
      Run (Guarded Session.KeepsSession (Steps Session.step)) (Session.start c) es r → r.Inv :=
    fun h => h.invariant Session.Inv (Session.inv_of_loggedOut rfl rfl)
      fun _ _ _ hr hstep => (Session.inv_step hr hstep.1 hstep.2).1
  have hisolated := (Session.inv_step (hinv h) hkeeps hstep).2
  refine ⟨hisolated, fun c' es' r' t' h' hkeeps' hstep' hown => ?_⟩
  have hisolated' := (Session.inv_step (hinv h') hkeeps' hstep').2
  constructor
  · rintro rfl
    calc t'.account = r'.own.bind AccountViewController.shows := hisolated'
      _ = r.own.bind AccountViewController.shows := by rw [hown]
      _ = t.account := Eq.symm hisolated
  · rintro rfl
    calc t'.edit = r'.own.bind EditAccountViewController.shows := hisolated'
      _ = r.own.bind EditAccountViewController.shows := by rw [hown]
      _ = t.edit := Eq.symm hisolated

namespace Sample

/-- The account of a user, as registering stores it. -/
def account (email name status : String) : Document :=
  Document.merge ∅ [("name", .string name), ("birthday", .string "01-01-1990"),
    ("gender", .string "Other"), ("email", .string email), ("status", .string status)]

/-- A librarian and a chief librarian. -/
def twoUsers : Client where
  temp := ∅
  db := Function.update Database.empty .accounts
    (((∅ : Collection).insert "an@hd.vn" (account "an@hd.vn" "An" "2")).insert "binh@hd.vn"
      (account "binh@hd.vn" "Binh" "1"))

/-- One user logs in and out, and the other one logs in. -/
def secondUser :
    Reached (Guarded Session.KeepsSession (Steps Session.step)) (Session.start twoUsers) :=
  let loggedIn := Reached.start.takeGuarded (.login "an@hd.vn" "an@hd.vn") (by decide +kernel)
    (by decide +kernel)
  let answered := loggedIn.takeGuarded (.answer 0) trivial (by decide +kernel)
  let loggedOut := answered.takeGuarded .logout trivial (by decide +kernel)
  let loggedIn := loggedOut.takeGuarded (.login "binh@hd.vn" "binh@hd.vn") (by decide +kernel)
    (by decide +kernel)
  loggedIn.takeGuarded (.answer 0) trivial (by decide +kernel)

/-- The second user types another spelling of the e-mail. -/
def otherSpelling : Reached (Steps Session.step) (Session.start twoUsers) :=
  let loggedIn := Reached.start.take (.login "an@hd.vn" "an@hd.vn") (by decide +kernel)
  let answered := loggedIn.take (.answer 0) (by decide +kernel)
  let loggedOut := answered.take .logout (by decide +kernel)
  let loggedIn := loggedOut.take (.login "Binh@hd.vn" "binh@hd.vn") (by decide +kernel)
  loggedIn.take (.answer 0) (by decide +kernel)

end Sample

theorem session_secondUser : Sample.secondUser.state.Isolated
    (after Session.step Sample.secondUser.state .openAccount) .openAccount :=
  (session_of_run Sample.secondUser.run (by decide +kernel) (steps_after (by decide +kernel))).1

/-- The second user sees the profile of the first, and may create accounts. -/
theorem session_fails : ¬ ∀ (c : Client) (es : List SessionStep) (r t : Session)
    (e : SessionStep), Run (Steps Session.step) (Session.start c) es r →
      Steps Session.step r e t → r.Isolated t e := by
  intro hall
  have hshows : (after Session.step Sample.otherSpelling.state .openAccount).account
      = Sample.otherSpelling.state.own.bind AccountViewController.shows :=
    hall _ _ _ _ .openAccount Sample.otherSpelling.run (steps_after (by decide +kernel))
  revert hshows
  decide +kernel

end LibraryManagement
