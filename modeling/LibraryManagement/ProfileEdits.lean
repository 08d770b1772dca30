import LibraryManagement.EditScreens
import LibraryManagement.Sessions

/-!
# Successive edits of a profile

Every visit of the edit-account screen fills its form from the profile that was read at the
login, and stores all of the form again. No visit changes that copy.
-/

namespace LibraryManagement

open Handler Transition

/-- The fields of a profile that can be edited. -/
inductive ProfileField
  | name | birthday | gender
deriving Repr, DecidableEq

namespace ProfileField

/-- Its name in the document. -/
def key : ProfileField → String
  | name => "name"
  | birthday => "birthday"
  | gender => "gender"

end ProfileField

/-- A visit of the edit-account screen: the values of the fields that the user changes, and the
two passwords. -/
structure ProfileVisit where
  entered : ProfileField → Option String
  password₁ : String
  password₂ : String

namespace ProfileVisit

/-- The form that is confirmed. -/
def form (v : ProfileVisit) (opened : AccountForm) : AccountForm where
  fullname := (v.entered .name).getD opened.fullname
  birthday := (v.entered .birthday).getD opened.birthday
  gender := (v.entered .gender).getD opened.gender
  email := opened.email

/-- The confirm raises no alert about the form. -/
def Accepted (v : ProfileVisit) (opened : AccountForm) : Prop :=
  ¬ EditAccountViewController.Incomplete (v.form opened) ∧ v.password₁ = v.password₂

instance (v : ProfileVisit) (opened : AccountForm) : Decidable (v.Accepted opened) :=
  inferInstanceAs (Decidable (_ ∧ _))

end ProfileVisit

/-- A completed login: Auth accepts it, and the read that it starts is answered. -/
def Session.logIn (r : Session) (email user : String) : Option Session :=
  (r.step (.login email user)).bind fun s => s.step (.answer r.reads.length)

/-- A session, with the visits so far whose form was accepted. -/
structure ProfileEdits where
  session : Session
  accepted : List ProfileVisit

namespace Session

variable {r s : Session}

/-- The edit-account screen opens with the profile of the copy. -/
theorem openEdit_of_step (h : r.step .openEdit = some s) :
    ∃ form, (r.client.temp["current_user"]?.bind Value.dictionary?).bind
      EditAccountViewController.shows = some form ∧ s = { r with edit := some form } := by
  obtain ⟨-, hmap⟩ := Option.ite_none_left_eq_some.1 h
  obtain ⟨form, d, hload, rfl⟩ := Client.map_run_eq_some.1 hmap
  obtain ⟨hshows, rfl⟩ := EditAccountViewController.viewDidLoad_eq_ok.1 hload
  exact ⟨form, hshows, rfl⟩

theorem confirm_of_step {form : AccountForm} {password₁ password₂ : String}
    (h : r.step (.confirm form password₁ password₂) = some s) :
    ∃ opened ∈ r.edit, ∃ password d, EditAccountViewController.confirmButton
        { form with email := opened.email } password₁ password₂ ⟨r.client.temp, []⟩ = .ok password d ∧
      s.user = r.user ∧ s.client = ⟨d.temp, Write.applyAll r.client.db d.writes⟩ := by
  obtain ⟨opened, hopened, hmap⟩ := Option.bind_eq_some_iff.1 h
  obtain ⟨password, d, hconfirm, rfl⟩ := Client.map_run_eq_some.1 hmap
  exact ⟨opened, hopened, password, d, hconfirm, rfl, rfl⟩

end Session

namespace ProfileEdits

/-- The screen opens and the form is confirmed. -/
def step (r : ProfileEdits) (v : ProfileVisit) : Option ProfileEdits :=
  (r.session.step .openEdit).bind fun s => s.edit.bind fun opened =>
    (s.step (.confirm (v.form opened) v.password₁ v.password₂)).map fun s =>
      ⟨s, if v.Accepted opened then r.accepted ++ [v] else r.accepted⟩

/-! ## What is to hold -/

/-- The value that was entered last for a field. -/
def lastEntered (r : ProfileEdits) (f : ProfileField) : Option String :=
  (r.accepted.filterMap (·.entered f)).getLast?

/-- The account holds for each field what was entered last, or what it held at the login. -/
def Accumulates (r : ProfileEdits) (email : String) (account : Document) : Prop :=
  ∃ stored ∈ r.session.client.db.read .accounts email, ∀ f : ProfileField,
    stored.string? f.key = (r.lastEntered f).or (account.string? f.key)

/-- The condition: a field that some visit changed was changed by the last visit too, or its last
change was back to the value at the login. -/
def ChangesLast (r : ProfileEdits) (account : Document) : Prop :=
  ∀ f : ProfileField, ∀ value ∈ r.lastEntered f,
    (∃ v ∈ r.accepted.getLast?, (v.entered f).isSome) ∨ account.Carries f.key value

/-! ## One visit -/

variable {r t : ProfileEdits} {email : String} {account : Document} {v : ProfileVisit}

/-- What the last visit entered for a field. -/
def fromLast (r : ProfileEdits) (f : ProfileField) : Option String :=
  r.accepted.getLast?.bind (·.entered f)

/-- The copy is that of the login, and the account holds what the last visit entered. -/
structure Sound (email : String) (account : Document) (r : ProfileEdits) : Prop where
  user : r.session.user ≠ none
  current : r.session.client.temp["current_user"]?.bind Value.dictionary? = some account
  stored : ∃ stored ∈ r.session.client.db.read .accounts email, ∀ f : ProfileField,
    stored.string? f.key = (r.fromLast f).or (account.string? f.key)

theorem sound_logIn {r₀ r : Session} {user : String} (hlogIn : r₀.logIn email user = some r)
    (haccount : r₀.client.db.read .accounts email = some account) :
    Sound email account ⟨r, []⟩ := by
  obtain ⟨s, hlogin, hanswer⟩ := Option.bind_eq_some_iff.1 hlogIn
  obtain ⟨id, d, hsignedIn, rfl⟩ := Client.map_run_eq_some.1 hlogin
  obtain ⟨-, rfl, rfl⟩ := LoginViewController.signedIn_eq_ok.1 hsignedIn
  obtain ⟨id, hread, hanswer⟩ := Option.bind_eq_some_iff.1 hanswer
  obtain rfl : email = id := by
    rw [List.getElem?_concat_length] at hread
    exact Option.some.inj hread
  obtain ⟨_, d, hset, rfl⟩ := Client.map_run_eq_some.1 hanswer
  have hset' : LoginViewController.accountAnswer (some account) ⟨r₀.client.temp, []⟩ = .ok () d := by
    rw [← haccount]
    exact hset
  rw [LoginViewController.accountAnswer_some_eq_ok] at hset'
  subst hset'
  refine ⟨nofun, ?_, account, haccount, fun f => ?_⟩
  · simp
  · simp [fromLast]

/-- A visit opens the form of the copy. Its confirm changes nothing, or stores all of the form. -/
theorem step_cases (haccount : StoredAccount (CollectionName.accounts.document email) account)
    (hr : r.Sound email account) (h : r.step v = some t) :
    ∃ opened, EditAccountViewController.shows account = some opened ∧
      t.session.user = r.session.user ∧ t.session.client.temp = r.session.client.temp ∧
      (t.accepted = r.accepted ∧ t.session.client.db = r.session.client.db ∨
        t.accepted = r.accepted ++ [v] ∧
          CollectionName.accounts.document opened.email = CollectionName.accounts.document email ∧
            t.session.client.db = Write.apply r.session.client.db (.setAt .accounts opened.email
              (EditAccountViewController.profile (v.form opened)))) := by
  obtain ⟨s, hopen, hrest⟩ := Option.bind_eq_some_iff.1 h
  obtain ⟨opened, hshows, rfl⟩ := Session.openEdit_of_step hopen
  rw [hr.current, Option.bind_some] at hshows
  have hemail : IsEmailOf (CollectionName.accounts.document email) opened.email := by
    obtain ⟨form, hform, hnames, -⟩ := haccount.shows
    rwa [Option.some.inj (hshows.symm.trans hform)]
  obtain ⟨opened', hedit, hrest⟩ := Option.bind_eq_some_iff.1 hrest
  obtain rfl : opened = opened' := Option.some.inj hedit
  obtain ⟨s, hconfirm, rfl⟩ := Option.map_eq_some_iff.1 hrest
  obtain ⟨opened', hedit', password, d, hd, huser, hclient⟩ := Session.confirm_of_step hconfirm
  obtain rfl : opened = opened' := Option.some.inj hedit'
  have hrun : EditAccountViewController.confirmButton (v.form opened) v.password₁ v.password₂
      ⟨r.session.client.temp, []⟩ = .ok password d := hd
  refine ⟨opened, hshows, huser, ?_⟩
  -- The confirm stores exactly the forms that raise no alert.
  by_cases haccepted : v.Accepted opened
  · obtain ⟨newPassword, hstores⟩ := EditAccountViewController.confirmButton_stores
      (d := ⟨r.session.client.temp, []⟩) v.password₁ haccepted.1 hemail.1
    rw [← haccepted.2, hstores] at hrun
    obtain ⟨-, rfl⟩ := EStateM.Result.ok.inj hrun
    dsimp only
    rw [hclient, if_pos haccepted]
    exact ⟨rfl, .inr ⟨rfl, hemail.2, rfl⟩⟩
  · rw [EditAccountViewController.confirmButton_refuses haccepted] at hrun
    obtain ⟨-, rfl⟩ := EStateM.Result.ok.inj hrun
    dsimp only
    rw [hclient, if_neg haccepted]
    exact ⟨rfl, .inl ⟨rfl, rfl⟩⟩

/-- A stored form has for each field what was entered, or what the screen opened with. -/
theorem string?_merge_profile {opened : AccountForm} {stored : Document} (f : ProfileField)
    (hshows : EditAccountViewController.shows account = some opened) :
    (stored.merge (EditAccountViewController.profile (v.form opened))).string? f.key =
      (v.entered f).or (account.string? f.key) := by
  simp only [EditAccountViewController.shows, Option.bind_eq_bind, Option.bind_eq_some_iff,
    Option.pure_def, Option.some.injEq] at hshows
  obtain ⟨name, hname, birthday, hbirthday, gender, hgender, email, -, rfl⟩ := hshows
  have hmerge : ∀ text : String, (v.entered f).or (some text) = some ((v.entered f).getD text) := by
    intro text
    cases v.entered f <;> rfl
  cases f <;>
    simp [EditAccountViewController.profile, ProfileVisit.form, ProfileField.key,
      Document.merge_cons, hname, hbirthday, hgender, hmerge]

theorem sound_step (haccount : StoredAccount (CollectionName.accounts.document email) account)
    (hr : r.Sound email account) (h : r.step v = some t) : t.Sound email account := by
  obtain ⟨opened, hshows, huser, htemp, ⟨haccepted, hdb⟩ | ⟨haccepted, hnamed, hdb⟩⟩ :=
    step_cases haccount hr h
  · refine ⟨huser ▸ hr.user, htemp ▸ hr.current, ?_⟩
    rw [hdb]
    simpa only [fromLast, haccepted] using hr.stored
  · refine ⟨huser ▸ hr.user, htemp ▸ hr.current, ?_⟩
    -- The form is filled from the copy, whatever the account holds by now.
    rw [hdb, ← Database.read_congr hnamed, Write.read_apply_setAt]
    refine ⟨_, rfl, fun f => ?_⟩
    rw [string?_merge_profile f hshows, fromLast, haccepted, List.getLast?_concat]
    rfl

/-! ## Exactly when -/

theorem isSome_fromLast {f : ProfileField} :
    (r.fromLast f).isSome ↔ ∃ v ∈ r.accepted.getLast?, (v.entered f).isSome := by
  rw [fromLast]
  cases r.accepted.getLast? <;> simp

/-- What the last visit entered for a field was entered last for it. -/
theorem lastEntered_of_fromLast {f : ProfileField} {value : String}
    (h : r.fromLast f = some value) : r.lastEntered f = some value := by
  obtain ⟨v, hlast, hvalue⟩ := Option.bind_eq_some_iff.1 h
  obtain ⟨visits, hvisits⟩ := List.getLast?_eq_some_iff.1 hlast
  rw [lastEntered, hvisits, List.filterMap_append]
  simp [hvalue]

theorem accumulates_iff (haccount : StoredAccount (CollectionName.accounts.document email) account)
    (hr : r.Sound email account) :
    r.Accumulates email account ↔ r.ChangesLast account := by
  obtain ⟨stored, hstored, hfields⟩ := hr.stored
  have hone : r.Accumulates email account ↔ ∀ f : ProfileField,
      (r.fromLast f).or (account.string? f.key) = (r.lastEntered f).or (account.string? f.key) := by
    constructor
    · rintro ⟨stored', hstored', hfields'⟩ f
      obtain rfl := Option.some.inj (hstored.symm.trans hstored')
      exact (hfields f).symm.trans (hfields' f)
    · exact fun hsame => ⟨stored, hstored, fun f => (hfields f).trans (hsame f)⟩
  rw [hone]
  refine forall_congr' fun f => ?_
  obtain ⟨text, htext⟩ := haccount.texts f.key (by cases f <;> simp [ProfileField.key])
  simp only [Document.Carries] at htext
  simp only [← isSome_fromLast, Document.Carries, htext]
  cases hlast : r.fromLast f with
  | some value =>
    rw [lastEntered_of_fromLast hlast]
    exact iff_of_true rfl fun _ _ => .inl rfl
  | none =>
    -- The last visit stored what the screen opened with.
    cases r.lastEntered f with
    | none => simp
    | some value => simp

end ProfileEdits

/-- After any visits of a session the account holds what was entered last for each field, exactly
if the last visit changed every field again that any visit had changed, or it was changed back. -/
theorem accumulates_of_run {r₀ r : Session} {email user : String} {account : Document}
    {visits : List ProfileVisit} {t : ProfileEdits} (hlogIn : r₀.logIn email user = some r)
    (hstored : r₀.client.db.read .accounts email = some account)
    (hwritten : WrittenAccount (CollectionName.accounts.document email) account)
    (h : Run (Steps ProfileEdits.step) ⟨r, []⟩ visits t) :
    t.Accumulates email account ↔ t.ChangesLast account := by
  have haccount := hwritten.stored
  exact ProfileEdits.accumulates_iff haccount (h.invariant _
    (ProfileEdits.sound_logIn hlogIn hstored)
    fun _ _ _ hr hstep => ProfileEdits.sound_step haccount hr hstep)

namespace Sample

/-- A visit that enters these values. -/
def profileVisit (name gender : Option String) : ProfileVisit where
  entered
    | .name => name
    | .birthday => none
    | .gender => gender
  password₁ := ""
  password₂ := ""

def registerForm : RegisterForm where
  name := "An"
  birthday := "01-01-1990"
  gender := "Other"
  email := "an@hd.vn"
  password_1 := "secret"
  password_2 := "secret"

/-- The account of a user who has registered. -/
def registered : Document := Document.merge ∅ (RegisterViewController.account registerForm)

theorem written_registered :
    WrittenAccount (CollectionName.accounts.document "an@hd.vn") registered :=
  .register ⟨by decide +kernel, rfl⟩

def oneUser : Session := Session.start
  ⟨∅, Function.update Database.empty .accounts ((∅ : Collection).insert "an@hd.vn" registered)⟩

def ownSession : Session := (oneUser.logIn "an@hd.vn" "an@hd.vn").getD oneUser

theorem logIn_oneUser : oneUser.logIn "an@hd.vn" "an@hd.vn" = some ownSession := by
  have hsome : (oneUser.logIn "an@hd.vn" "an@hd.vn").isSome := by decide +kernel
  obtain ⟨s, hs⟩ := Option.isSome_iff_exists.1 hsome
  rw [ownSession, hs, Option.getD_some]

/-- The name is changed twice. -/
def namesTwice : Reached (Steps ProfileEdits.step) ⟨ownSession, []⟩ :=
  let first := Reached.start.take (profileVisit (some "Anh") none) (by decide +kernel)
  first.take (profileVisit (some "Binh") none) (by decide +kernel)

/-- The name is changed, and then the gender. -/
def nameThenGender : Reached (Steps ProfileEdits.step) ⟨ownSession, []⟩ :=
  let first := Reached.start.take (profileVisit (some "Anh") none) (by decide +kernel)
  first.take (profileVisit none (some "Male")) (by decide +kernel)

end Sample

theorem accumulates_namesTwice :
    Sample.namesTwice.state.Accumulates "an@hd.vn" Sample.registered := by
  refine (accumulates_of_run Sample.logIn_oneUser (by decide +kernel) Sample.written_registered
    Sample.namesTwice.run).2 fun f value hvalue => ?_
  have hbirthday : Sample.namesTwice.state.lastEntered .birthday = none := by decide +kernel
  have hgender : Sample.namesTwice.state.lastEntered .gender = none := by decide +kernel
  cases f with
  | name => exact .inl (ProfileEdits.isSome_fromLast.1 (by decide +kernel))
  | birthday => cases hbirthday.symm.trans hvalue
  | gender => cases hgender.symm.trans hvalue

/-- The second visit takes the new name back. -/
theorem accumulates_fails : ¬ ∀ (r₀ r : Session) (email user : String) (account : Document)
    (visits : List ProfileVisit) (t : ProfileEdits), r₀.logIn email user = some r →
      r₀.client.db.read .accounts email = some account →
        WrittenAccount (CollectionName.accounts.document email) account →
        Run (Steps ProfileEdits.step) ⟨r, []⟩ visits t → t.Accumulates email account := by
  intro hall
  obtain ⟨stored, hstored, hfields⟩ := hall _ _ _ _ _ _ _ Sample.logIn_oneUser
    (by decide +kernel) Sample.written_registered Sample.nameThenGender.run
  have hname : (Sample.nameThenGender.state.session.client.db.read .accounts "an@hd.vn").bind
      (·.string? "name") = some "Anh" := by
    rw [hstored]
    exact (hfields .name).trans (by decide +kernel)
  revert hname
  decide +kernel

end LibraryManagement
