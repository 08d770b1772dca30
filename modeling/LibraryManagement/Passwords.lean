import LibraryManagement.Fleet

/-!
# Whose password can change

Auth sets a password for the user that is signed in on a device, whatever e-mail the form of
edit-account shows. A device signs a user in when somebody logs in with the password, or when it
registers a new user. So without its password nobody becomes a registered user or changes that
password (`passwords_of_run`). The app only asks for a reset mail; the reset itself is between the
owner of the e-mail and Auth.
-/

namespace LibraryManagement

open Transition

/-- Somebody logs in as this user, with this password. -/
def FleetEvent.presents (email password : String) : FleetEvent → Bool
  | .login email' password' => email' = email ∧ password' = password
  | _ => false

namespace Fleet

variable {κ : Type} {uppercased : String → String} {r t : Fleet κ} {k : κ} {e : FleetEvent}
  {email password : String}

/-- Whom an event signs in: a user whose password was presented, or a new one. -/
theorem note_user {x : Handler Path} (hx : r.handler uppercased k e = some x)
    (hu : (r.note uppercased k e).user = some email) :
    (r.station k).user = some email ∨ email ∉ r.auth ∨
      ∃ password, r.auth[email]? = some password ∧ e.presents email password = true := by
  cases e with
  | login email' password =>
    obtain rfl : email' = email := Option.some.inj hu
    obtain ⟨e', he', -⟩ := Option.bind_eq_some_iff.1 hx
    have hpassword := (Option.ite_none_right_eq_some.1 he').1.1
    exact .inr (.inr ⟨password, hpassword, by simp [FleetEvent.presents]⟩)
  | logout => cases hu
  | toLogin => cases hu
  | event e =>
    refine .inl ?_
    cases e with
    | select tab =>
      cases tab with
      | account =>
        simp only [Fleet.note] at hu
        split at hu <;> exact hu
      | _ => exact hu
    | addStudent form autoID =>
      simp only [Fleet.note] at hu
      split at hu <;> exact hu
    | _ => exact hu
  | registered i accepted shown confirmed =>
    simp only [note] at hu
    split at hu
    · next answered hanswered =>
      split at hu
      · next hcreated =>
        obtain rfl := Option.some.inj hu
        obtain ⟨auth, hauth⟩ := Option.isSome_iff_exists.1 hcreated
        exact .inr (.inl ((Registering.mem_of_created (s := ⟨r.auth, r.db⟩) hauth).2 rfl).2)
      · exact .inl hu
    · exact .inl hu
  | _ => exact .inl hu

/-- Only the user that is signed in gets another password. -/
theorem authAfter_getElem? (hpassword : r.auth[email]? = some password)
    (huser : (r.station k).user ≠ some email) : (r.authAfter k e)[email]? = some password := by
  unfold authAfter
  split
  · split
    · next password' user _ hsigned =>
      have hne : user ≠ email := by
        rintro rfl
        exact huser hsigned
      rw [Std.ExtTreeMap.getElem?_insert, if_neg (by simpa using hne)]
      exact hpassword
    · exact hpassword
  · next i accepted shown confirmed =>
    cases hcreated : (r.registering k i accepted shown confirmed).bind (·.createUser r.auth) with
    | none => exact hpassword
    | some auth =>
      obtain ⟨answered, -, hauth⟩ := Option.bind_eq_some_iff.1 hcreated
      rw [Registering.createUser_eq] at hauth
      obtain ⟨-, hnew, rfl⟩ := Auth.createUser_eq_some.1 (Option.ite_none_left_eq_some.1 hauth).2
      have hne : answered.form.email ≠ email := by
        rintro rfl
        exact hnew (Std.ExtTreeMap.mem_of_getElem? hpassword)
      rw [Option.getD_some, Std.ExtTreeMap.getElem?_insert, if_neg (by simpa using hne)]
      exact hpassword
  · exact hpassword

variable [DecidableEq κ]

/-- The user keeps the password and is signed in nowhere, as long as nobody presents it. -/
theorem passwords_step (hpassword : r.auth[email]? = some password)
    (huser : ∀ k, (r.station k).user ≠ some email) (he : e.presents email password = false)
    (h : step uppercased r (k, e) = some t) :
    t.auth[email]? = some password ∧ ∀ k, (t.station k).user ≠ some email := by
  have hupdate {s : Station} (hs : s.user ≠ some email) (a : κ) :
      (Function.update r.station k s a).user ≠ some email := by
    rw [Function.update_apply]
    split
    · exact hs
    · exact huser a
  rcases step_cases h with ⟨taken, w, ws, rfl, hsent, rfl⟩ | ⟨rfl, rfl⟩ | ⟨x, hx, rfl⟩
  · exact ⟨hpassword, hupdate (huser k)⟩
  · exact ⟨hpassword, hupdate (by rintro ⟨⟩)⟩
  · refine ⟨authAfter_getElem? hpassword (huser k), hupdate fun hs => ?_⟩
    have hnote := (Station.run_rest (r.note uppercased k e) x).2.2 email hs
    rcases note_user hx hnote with hold | hnew | ⟨password', hpassword', hpresents⟩
    · exact huser k hold
    · exact hnew (Std.ExtTreeMap.mem_of_getElem? hpassword)
    · obtain rfl := Option.some.inj (hpassword.symm.trans hpassword')
      rw [he] at hpresents
      cases hpresents

end Fleet

/-! ## Every run -/

/-- As long as nobody logs in with a user's password, the user keeps it and is signed in on no
device. -/
theorem passwords_of_run {κ : Type} [DecidableEq κ] {uppercased : String → String} {db : Database}
    {auth : Auth} {es : List (κ × FleetEvent)} {r : Fleet κ} {email password : String}
    (hpassword : auth[email]? = some password)
    (h : Run (Guarded (fun _ e => e.2.presents email password = false)
      (Steps (Fleet.step uppercased))) (Fleet.start db auth) es r) :
    r.auth[email]? = some password ∧ ∀ k, (r.station k).user ≠ some email := by
  refine h.invariant (fun r : Fleet κ => r.auth[email]? = some password ∧
    ∀ k, (r.station k).user ≠ some email) ⟨hpassword, fun _ => by rintro ⟨⟩⟩ ?_
  rintro r ⟨k, e⟩ t ⟨hpassword, huser⟩ ⟨he, hstep⟩
  exact Fleet.passwords_step hpassword huser he hstep

namespace Sample

/-- Two registered users, and the account of the second one. -/
def registeredUsers : Auth := users.insert "c@d" "secure"

def otherUser : RegisterForm := ⟨"Binh", "01-01-1990", "Other", "c@d", "secure", "secure"⟩

def secondAccount : Database := Write.apply Database.empty
  (.replaceAt .accounts otherUser.email (RegisterViewController.account otherUser))

/-- The second user logs in and sets another password. -/
def otherPassword :
    Reached (Guarded (fun _ e => e.2.presents "a@b" "secret" = false) (Steps fleetStep))
      (Fleet.start secondAccount registeredUsers) :=
  Reached.start.takeAll ([.login "c@d" "secure", .event (.deliver 0), .event (.deliver 0),
    .event (.deliver 0), .event (.deliver 0), .event (.deliver 0), .event (.select .account),
    .event (.segue .editAccount),
    .editAccount ⟨"Binh", "01-01-1990", "Other", "c@d"⟩ "safer" "safer" true].map (true, ·))
    (by decide +kernel)

end Sample

theorem passwords_otherPassword :
    Sample.otherPassword.state.auth["a@b"]? = some "secret" ∧
      ∀ k, (Sample.otherPassword.state.station k).user ≠ some "a@b" :=
  passwords_of_run (by decide +kernel) Sample.otherPassword.run

end LibraryManagement
