import LibraryManagement.Screens.Accounts

/-!
# What the handlers of the account screens do

One lemma for each handler that completed. What a screen shows is a function of the document
under `"current_user"` (`shows`).
-/

namespace LibraryManagement

open Handler

variable {d d' : Device}

namespace LoginViewController

@[simp] theorem signedIn_eq_ok {email id : String} :
    signedIn email d = .ok id d' ↔ IsDocumentPath email ∧ email = id ∧ d = d' := document_eq_ok

@[simp] theorem accountAnswer_some_eq_ok {account : Document} {u : Unit} :
    accountAnswer (some account) d = .ok u d' ↔
      { d with temp := d.temp.insert "current_user" (.dictionary account) } = d' := by
  rw [accountAnswer, set_eq_ok]

@[simp] theorem accountAnswer_none_eq_ok {u : Unit} :
    accountAnswer none d = .ok u d' ↔ d = d' := by
  rw [accountAnswer, Traps.pure_eq_ok]
  simp

end LoginViewController

namespace AccountViewController

/-- The screen for an account. -/
def shows (account : Document) : Option Screen := do
  let name ← account.string? "name"
  let birthday ← account.string? "birthday"
  let gender ← account.string? "gender"
  let email ← account.string? "email"
  let status ← account.string? "status"
  return {
    name := name
    fullname := name
    birthday := birthday
    gender := gender
    email := email
    createNewAccountIsHidden := decide (status ≠ "2") }

theorem viewDidLoad_ok {s : Screen} (h : viewDidLoad d = .ok s d') :
    (d.temp["current_user"]?.bind Value.dictionary?).bind shows = some s ∧ d' = d := by
  simp only [viewDidLoad, Traps.bind_eq_ok, forced_eq_ok, Traps.cast_eq_ok, Traps.pure_eq_ok,
    and_assoc, exists_and_left, exists_eq_left'] at h
  obtain ⟨t, ht, name, hname, name', hname', birthday, hbirthday, gender, hgender, email, hemail,
    status, hstatus, rfl, rfl⟩ := h
  obtain rfl := Option.some.inj (hname.symm.trans hname')
  refine ⟨?_, rfl⟩
  simp [ht, shows, hname, hbirthday, hgender, hemail, hstatus]

end AccountViewController

namespace EditAccountViewController

/-- The profile of an account. -/
def shows (account : Document) : Option AccountForm := do
  let name ← account.string? "name"
  let birthday ← account.string? "birthday"
  let gender ← account.string? "gender"
  let email ← account.string? "email"
  return { fullname := name, birthday := birthday, gender := gender, email := email }

theorem viewDidLoad_eq_ok {form : AccountForm} :
    viewDidLoad d = .ok form d' ↔
      (d.temp["current_user"]?.bind Value.dictionary?).bind shows = some form ∧ d = d' := by
  simp only [viewDidLoad, Traps.bind_eq_ok, forced_eq_ok, Traps.cast_eq_ok, Traps.pure_eq_ok,
    and_assoc, exists_and_left, exists_eq_left', shows, Option.bind_eq_bind,
    Option.bind_eq_some_iff, Option.pure_def, Option.some.injEq]
  simp only [← exists_and_left, ← exists_and_right, and_assoc]

theorem viewDidLoad_ok {form : AccountForm} (h : viewDidLoad d = .ok form d') :
    (d.temp["current_user"]?.bind Value.dictionary?).bind shows = some form ∧ d' = d := by
  obtain ⟨hshows, rfl⟩ := viewDidLoad_eq_ok.1 h
  exact ⟨hshows, rfl⟩

/-- The e-mail of the profile is that of the account. -/
theorem email_of_shows {account : Document} {form : AccountForm} (h : shows account = some form) :
    account.string? "email" = some form.email := by
  simp only [shows, Option.bind_eq_bind, Option.bind_eq_some_iff, Option.pure_def,
    Option.some.injEq] at h
  obtain ⟨name, -, birthday, -, gender, -, email, hemail, rfl⟩ := h
  exact hemail

/-- A confirm writes nothing, or the profile to the account its e-mail names. -/
theorem confirmButton_ok {form : AccountForm} {password₁ password₂ : String}
    {password : Option String} (h : confirmButton form password₁ password₂ d = .ok password d') :
    d'.temp = d.temp ∧ (password = none ∧ d'.writes = d.writes ∨
      d'.writes = d.writes ++ [.setAt .accounts form.email (profile form)]) := by
  unfold confirmButton at h
  split at h
  · obtain ⟨rfl, rfl⟩ := Traps.pure_eq_ok.1 h
    exact ⟨rfl, .inl ⟨rfl, rfl⟩⟩
  split at h
  · obtain ⟨rfl, rfl⟩ := Traps.pure_eq_ok.1 h
    exact ⟨rfl, .inl ⟨rfl, rfl⟩⟩
  split at h <;>
  · simp only [setData, Traps.bind_eq_ok, document_eq_ok, write_eq_ok, Traps.pure_eq_ok, and_assoc,
      exists_and_left, exists_eq_left', exists_const] at h
    obtain ⟨-, rfl, rfl⟩ := h
    exact ⟨rfl, .inr rfl⟩

/-- An incomplete form, or one with two passwords, is refused. -/
theorem confirmButton_refuses {form : AccountForm} {password₁ password₂ : String}
    (h : ¬ (¬ Incomplete form ∧ password₁ = password₂)) :
    confirmButton form password₁ password₂ d = .ok none d := by
  unfold confirmButton
  split
  · rfl
  · next hcomplete =>
    rw [if_pos fun hsame => h ⟨hcomplete, hsame⟩]
    rfl

/-- A complete form with one password twice is stored. -/
theorem confirmButton_stores {form : AccountForm} (password : String) (hcomplete : ¬ Incomplete form)
    (hid : IsDocumentPath form.email) : ∃ newPassword, confirmButton form password password d =
      .ok newPassword { d with writes :=
        d.writes ++ [.setAt .accounts form.email (profile form)] } := by
  have hsetData : setData .accounts form.email (profile form) d =
      .ok () { d with writes := d.writes ++ [.setAt .accounts form.email (profile form)] } := by
    simp only [setData, Traps.bind_eq_ok, document_eq_ok, write_eq_ok, and_assoc, exists_and_left,
      exists_eq_left', hid, true_and]
  unfold confirmButton
  rw [if_neg hcomplete, if_neg (not_not.2 rfl)]
  split
  · exact ⟨some password, Traps.bind_eq_ok.2 ⟨(), _, hsetData, rfl⟩⟩
  · exact ⟨none, Traps.bind_eq_ok.2 ⟨(), _, hsetData, rfl⟩⟩

end EditAccountViewController

end LibraryManagement
