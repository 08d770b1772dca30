import LibraryManagement.NormalNames
import LibraryManagement.Passwords
import LibraryManagement.Screens.AccountsTheorems

/-!
# Who can register users

The account screen shows its create button to a user whose profile has the status `"2"`, and that
button is the only way to the register screen. The app itself never stores that status. So the
administrators of a library are those it started with (`administrators_of_run`), and with none of
them no device ever shows the button and no user is ever registered (`noNewUsers_of_run`),
whatever a device keeps in `UserDefaults` from earlier sessions.
-/

namespace LibraryManagement

open Handler Transition

/-- The documents that do not give the right to register users. -/
def unprivileged : Set Document := {d | ¬ d.Carries "status" "2"}

/-- No document gives that right. -/
def Database.Unprivileged (db : Database) : Prop :=
  ∀ (c : CollectionName) (id : String) (d : Document), (db c)[id]? = some d → d ∈ unprivileged

/-- The users whose accounts give that right. -/
def administrators (db : Database) : Set String :=
  {email | ∃ account ∈ (db .accounts)[email]?, account.Carries "status" "2"}

theorem ruleText_unprivileged (title content : String) :
    ruleText title content ∈ unprivileged := by
  simp [ruleText, unprivileged, Document.Carries, Document.merge_cons, Document.string?]

/-! ## Writes -/

variable {db : Database}

/-- No write of the app stores the status of an administrator. -/
theorem AppWrite.unprivileged {w : Write} (hw : AppWrite w) :
    ("status", .string "2") ∉ w.data := by
  have hzero : Swift.description 0 = "0" := rfl
  have hone : Swift.description 1 = "1" := rfl
  cases hw with
  | editedBook b id hid hstatus => simp [Write.setAt, Write.data, Book.detail, hstatus, hone]
  | newCard card id hstatus => simp [Write.data, BorrowCard.data, hstatus, hone]
  | student s id hid hstatus =>
    rcases hstatus with hstatus | hstatus <;>
      simp [Write.setAt, Write.data, Student.data, hstatus, hzero, hone]
  | _ =>
    simp [Write.setAt, Write.updateAt, Write.replaceAt, Write.data, Book.newData, Student.data,
      RegisterViewController.account, EditAccountViewController.profile]

/-- A document that a write makes gives no right that the document before did not give. -/
theorem AppWrite.carries {w : Write} (hw : AppWrite w) {document : Option Document} {d : Document}
    (hd : w.applyToDocument document = some d) (hstatus : d.Carries "status" "2") :
    ∃ d₀ ∈ document, d₀.Carries "status" "2" := by
  have hnew {d₀ : Document} (h : (d₀.merge w.data).Carries "status" "2") :
      d₀.Carries "status" "2" := by
    have hfield := Document.string?_eq_some.1 h
    exact Document.string?_eq_some.2
      ((Document.getElem?_merge_cases hfield).resolve_left hw.unprivileged)
  have hempty : ¬ (∅ : Document).Carries "status" "2" := by
    simp [Document.Carries, Document.string?]
  cases w with
  | setData c a data =>
    obtain rfl := Option.some.inj hd
    cases document with
    | none => exact absurd (hnew hstatus) hempty
    | some d₀ => exact ⟨d₀, rfl, hnew hstatus⟩
  | addDocument c a data =>
    obtain rfl := Option.some.inj hd
    exact absurd (hnew hstatus) hempty
  | updateData c a data =>
    obtain ⟨d₀, hd₀, rfl⟩ := Option.map_eq_some_iff.1 hd
    exact ⟨d₀, hd₀, hnew hstatus⟩

/-- So a document that gives the right after a write gave it before. -/
theorem AppWrite.carries_apply {w : Write} (hw : AppWrite w) {c : CollectionName} {id : String}
    {d : Document} (hd : (Write.apply db w c)[id]? = some d) (hstatus : d.Carries "status" "2") :
    ∃ d₀ ∈ (db c)[id]?, d₀.Carries "status" "2" := by
  rw [Write.getElem?_apply] at hd
  split at hd
  · exact hw.carries hd hstatus
  · exact ⟨d, hd, hstatus⟩

theorem AppWrite.within {w : Write} (hw : AppWrite w) (hdb : db.Unprivileged) :
    (Write.apply db w).Unprivileged := by
  intro c id d hd hstatus
  obtain ⟨d₀, hd₀, hstatus₀⟩ := hw.carries_apply hd hstatus
  exact hdb c id d₀ hd₀ hstatus₀

theorem AppWrite.administrators {w : Write} (hw : AppWrite w) :
    administrators (Write.apply db w) ⊆ administrators db := by
  rintro email ⟨account, haccount, hstatus⟩
  exact hw.carries_apply haccount hstatus

/-! ## Devices -/

namespace Fleet

variable {κ : Type} {uppercased : String → String} {r t : Fleet κ} {k : κ} {e : FleetEvent}
  {auth : Auth}

/-- The screens that are open without the right to register users. -/
def ordinary : Set Place := {place | place ≠ .register}

/-- No device gives the right to register users. -/
structure Unprivileged (auth : Auth) (r : Fleet κ) : Prop where
  sound : r.Sound (.caching unprivileged) ordinary
  sent : r.system.Within {w | AppWrite w}
  db : r.db.Unprivileged
  hidden : ∀ k, (r.station k).createNewAccountIsHidden = true
  asked : ∀ k, (r.station k).asked = []
  user : ∀ k, ∀ u ∈ (r.station k).user, u ∈ auth
  auth : ∀ u, u ∈ r.auth ↔ u ∈ auth

theorem unprivileged_start {db : Database} (hdb : db.Unprivileged) :
    (start db auth : Fleet κ).Unprivileged auth where
  sound := sound_start
  sent := by simp [Outbox.System.Within, system, start, Station.start]
  db := hdb
  hidden _ := rfl
  asked _ := rfl
  user _ u hu := by simp [start, Station.start] at hu
  auth _ := Iff.rfl

theorem Unprivileged.view (hr : r.Unprivileged auth) (k : κ) :
    (r.view k).Unprivileged :=
  List.foldlRecOn (r.station k).sent Write.apply hr.db fun _ hdb w hw => (hr.sent k w hw).within hdb

theorem Unprivileged.not_register (hr : r.Unprivileged auth) (k : κ) :
    (r.station k).path.here ≠ some .register := by
  intro hhere
  obtain ⟨⟨tab, place, below⟩, hfront, rfl⟩ := Option.map_eq_some_iff.1 hhere
  exact (hr.sound.path k).front hfront .register List.mem_cons_self rfl

/-- No registration is waiting for an answer. -/
theorem Unprivileged.registering (hr : r.Unprivileged auth) (k : κ) (i : ℕ) (accepted : Bool)
    (shown : RegisterForm) (confirmed : Bool) :
    r.registering k i accepted shown confirmed = none := by
  rw [Fleet.registering, hr.asked k]
  rfl

/-- The account screen hides its button from a profile without the right. -/
theorem hidden_of_viewDidLoad {temp : UserDefaults} {screen : AccountViewController.Screen}
    {d : Device} (htemp : temp.Within (.caching LibraryManagement.unprivileged))
    (h : AccountViewController.viewDidLoad ⟨temp, []⟩ = .ok screen d) :
    screen.createNewAccountIsHidden = true := by
  obtain ⟨hshows, -⟩ := AccountViewController.viewDidLoad_ok h
  obtain ⟨account, haccount, hshows⟩ := Option.bind_eq_some_iff.1 hshows
  obtain ⟨v, hv, hdictionary⟩ := Option.bind_eq_some_iff.1 haccount
  have hmem : account ∈ LibraryManagement.unprivileged :=
    Value.mem_of_dictionary? (htemp _ v hv) hdictionary
  simp only [AccountViewController.shows, Option.bind_eq_bind, Option.bind_eq_some_iff,
    Option.pure_def, Option.some.injEq] at hshows
  obtain ⟨name, -, birthday, -, gender, -, email, -, status, hstatus, rfl⟩ := hshows
  simp only [decide_eq_true_eq]
  rintro rfl
  exact hmem hstatus

/-- What an event leaves on a device beside its handler. -/
theorem Unprivileged.note (hr : r.Unprivileged auth) {x : Handler Path}
    (hx : r.handler uppercased k e = some x) :
    (r.note uppercased k e).createNewAccountIsHidden = true ∧
      (r.note uppercased k e).asked = [] ∧ ∀ u ∈ (r.note uppercased k e).user, u ∈ auth := by
  have hsame : (r.station k).createNewAccountIsHidden = true ∧ (r.station k).asked = [] ∧
      ∀ u ∈ (r.station k).user, u ∈ auth := ⟨hr.hidden k, hr.asked k, hr.user k⟩
  cases e with
  | login email password =>
    -- Auth has accepted the password, so the user is one of its users.
    refine ⟨hr.hidden k, hr.asked k, fun u hu => ?_⟩
    obtain rfl : email = u := Option.some.inj hu
    obtain ⟨e', he', -⟩ := Option.bind_eq_some_iff.1 hx
    obtain ⟨⟨hpassword, -⟩, -⟩ := Option.ite_none_right_eq_some.1 he'
    exact (hr.auth email).1 (Std.ExtTreeMap.mem_of_getElem? hpassword)
  | logout => exact ⟨hr.hidden k, hr.asked k, by simp [Fleet.note]⟩
  | toLogin => exact ⟨hr.hidden k, hr.asked k, by simp [Fleet.note]⟩
  | event e =>
    cases e with
    | select tab =>
      cases tab with
      | account =>
        simp only [Fleet.note]
        split
        · next screen d _ hloaded =>
          exact ⟨hidden_of_viewDidLoad (hr.sound.temp k) hloaded, hr.asked k, hr.user k⟩
        · exact hsame
      | _ => exact hsame
    | addStudent form autoID =>
      simp only [Fleet.note]
      split <;> exact hsame
    | _ => exact hsame
  | register form =>
    obtain ⟨⟨hhere, -⟩, -⟩ := Option.ite_none_right_eq_some.1 hx
    exact absurd hhere (hr.not_register k)
  | registered i accepted shown confirmed =>
    simp only [Fleet.note, hr.registering, hr.asked k, List.eraseIdx_nil]
    exact ⟨hr.hidden k, trivial, hr.user k⟩
  | _ => exact hsame

/-- Setting a password makes no user. -/
theorem Unprivileged.authAfter (hr : r.Unprivileged auth) (k : κ) (e : FleetEvent) (u : String) :
    u ∈ r.authAfter k e ↔ u ∈ auth := by
  unfold Fleet.authAfter
  split
  · split
    · next password user _ huser =>
      rw [Std.ExtTreeMap.mem_insert, Std.LawfulEqCmp.compare_eq_iff_eq, hr.auth]
      constructor
      · rintro (rfl | hu)
        · exact hr.user k user huser
        · exact hu
      · exact .inr
    · exact hr.auth u
  · rw [hr.registering]
    exact hr.auth u
  · exact hr.auth u

variable [DecidableEq κ]

theorem unprivileged_step (hr : r.Unprivileged auth) (h : step uppercased r (k, e) = some t) :
    t.Unprivileged auth := by
  have hplaces (place : Place) : place ∈ ordinary ∨
      place = .register ∧ (r.station k).createNewAccountIsHidden = true := by
    by_cases hplace : place = .register
    · exact .inr ⟨hplace, hr.hidden k⟩
    · exact .inl hplace
  have hadmits : Admits (fun _ _ => True) r (k, e) := admits_all r _
  obtain ⟨hsound, l, hl, -⟩ :=
    step_sound (fun title content _ => ruleText_unprivileged title content)
      (Database.within_caching.2 (hr.view k)) hplaces hadmits hr.sound h
  have hdb : t.db.Unprivileged := by
    rcases Outbox.store_step hr.sent hl with hsame | ⟨w, hw, -, htaken⟩
    · have hsame' : t.db = r.db := hsame
      rw [hsame']
      exact hr.db
    · have htaken' : t.db = Write.apply r.db w := htaken
      rw [htaken']
      exact AppWrite.within hw hr.db
  -- The device that changes, and the users of Auth.
  have hrest : ∃ s auth', t = ⟨t.db, auth', Function.update r.station k s⟩ ∧
      (∀ u, u ∈ auth' ↔ u ∈ auth) ∧ s.createNewAccountIsHidden = true ∧ s.asked = [] ∧
        ∀ u ∈ s.user, u ∈ auth := by
    rcases step_cases h with ⟨taken, w, ws, rfl, hsent, rfl⟩ | ⟨rfl, rfl⟩ | ⟨x, hx, rfl⟩
    · exact ⟨_, _, rfl, hr.auth, hr.hidden k, hr.asked k, hr.user k⟩
    · exact ⟨_, _, rfl, hr.auth, hr.hidden k, rfl, by simp [Station.restart]⟩
    · obtain ⟨hhidden, hasked, huser⟩ := hr.note hx
      obtain ⟨hhidden', hasked', huser'⟩ := Station.run_rest (r.note uppercased k e) x
      refine ⟨_, _, rfl, hr.authAfter k e, hhidden'.trans hhidden, ?_,
        fun u hu => huser u (huser' u hu)⟩
      exact hasked'.elim (·.trans hasked) id
  obtain ⟨s, auth', ht, hauth, hhidden, hasked, huser⟩ := hrest
  rw [ht] at hsound hl hdb ⊢
  refine ⟨hsound, Outbox.within_step hr.sent hl, hdb, ?_, ?_, ?_, hauth⟩ <;> intro a <;>
    simp only [Function.update_apply] <;> split
  · exact hhidden
  · exact hr.hidden a
  · exact hasked
  · exact hr.asked a
  · exact huser
  · exact hr.user a

end Fleet

/-! ## Every run -/

section

variable {κ : Type} [DecidableEq κ] {uppercased : String → String} {db : Database} {auth : Auth}
  {es : List (κ × FleetEvent)} {r : Fleet κ}

/-- The administrators of a library are those that it started with. -/
theorem administrators_of_run (h : Run (Steps (Fleet.step uppercased)) (Fleet.start db auth) es r) :
    administrators r.db ⊆ administrators db ∧ ∀ k, administrators (r.view k) ⊆ administrators db :=
  Fleet.run_invariant (fun db' => administrators db' ⊆ administrators db)
    (fun _ _ hw hdb => hw.administrators.trans hdb) subset_rfl h

namespace Sample

/-- The account of an administrator beside the one of another user. -/
def administered : Database := Write.apply secondAccount (.addDocument .accounts "a@b"
  [("name", .string "An"), ("birthday", .string "01-01-2000"), ("gender", .string "Other"),
    ("email", .string "a@b"), ("status", .string "2")])

def newUser : RegisterForm := ⟨"Chi", "01-01-1995", "Other", "e@f", "closed", "closed"⟩

/-- The user logs in, and opens the account screen when its account is loaded. -/
def openAccount (k : Bool) (email password : String) : List (Bool × FleetEvent) :=
  [.login email password, .event (.deliver 0), .event (.select .account)].map (k, ·)

/-- The administrator registers a user, while the other user edits its own profile. -/
def newUserRegistered : Reached (Guarded (fun _ _ => True) (Steps fleetStep))
    (Fleet.start administered registeredUsers) :=
  Reached.start.takeAll (openAccount true "a@b" "secret" ++ openAccount false "c@d" "secure" ++
    [(false, .event (.segue .editAccount)),
      (false, .editAccount ⟨"Binh", "01-01-1991", "Other", "c@d"⟩ "" "" false),
      (true, .event (.segue .register)), (true, .register newUser),
      (true, .registered 0 true newUser false), (false, .arrive true), (true, .arrive true)])
    (by decide +kernel)

/-- The user with the other account edits its profile on one device. The user on the second
device has no account. -/
def ordinaryUsers : Reached (Guarded (fun _ _ => True) (Steps fleetStep))
    (Fleet.start secondAccount registeredUsers) :=
  Reached.start.takeAll (openAccount true "c@d" "secure" ++
    [(true, .event (.segue .editAccount)),
      (true, .editAccount ⟨"Binh", "01-01-1991", "Other", "c@d"⟩ "" "" false),
      (true, .arrive true), (true, .event .unwind), (false, .login "a@b" "secret"),
      (false, .event (.deliver 0))]) (by decide +kernel)

end Sample

theorem administrators_newUserRegistered : "e@f" ∈ Sample.newUserRegistered.state.db .accounts ∧
    administrators Sample.newUserRegistered.state.db ⊆ administrators Sample.administered ∧
      ∀ k, administrators (Sample.newUserRegistered.state.view k) ⊆
        administrators Sample.administered :=
  ⟨by decide +kernel, administrators_of_run Sample.newUserRegistered.run.of_guarded⟩

/-- Without an administrator no device opens the register screen, and the users of Auth stay
the same. -/
theorem noNewUsers_of_run (hdb : db.Unprivileged)
    (h : Run (Steps (Fleet.step uppercased)) (Fleet.start db auth) es r) :
    (∀ email, email ∈ r.auth ↔ email ∈ auth) ∧
      ∀ k, (r.station k).path.here ≠ some .register := by
  have hr : r.Unprivileged auth := h.invariant (Fleet.Unprivileged auth)
    (Fleet.unprivileged_start hdb) fun _ _ _ hr hstep => Fleet.unprivileged_step hr hstep
  exact ⟨hr.auth, hr.not_register⟩

theorem noNewUsers_ordinaryUsers :
    (Sample.ordinaryUsers.state.station true).path.here = some .account ∧
      (∀ email, email ∈ Sample.ordinaryUsers.state.auth ↔ email ∈ Sample.registeredUsers) ∧
        ∀ k, (Sample.ordinaryUsers.state.station k).path.here ≠ some .register := by
  refine ⟨by decide +kernel, noNewUsers_of_run (fun c id d hd hstatus => ?_)
    Sample.ordinaryUsers.run.of_guarded⟩
  have hempty : Database.empty.Unprivileged := fun c id d hd => by simp [Database.empty] at hd
  exact (AppWrite.account Sample.otherUser (by decide +kernel)).within hempty c id d hd hstatus

end

end LibraryManagement
