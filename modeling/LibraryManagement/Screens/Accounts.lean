import LibraryManagement.UserDefaults

/-!
# The account screens

`LoginViewController` starts a read of the account document once Firebase Auth has accepted a
login; its answer fills the entry `"current_user"` of `UserDefaults`, from which
`AccountViewController` and `EditAccountViewController` take the profile. A button of the login
screen opens `ResetPasswordViewController`, which asks Auth for a mail.
-/

namespace LibraryManagement

open Handler

namespace LoginViewController

/-- After Auth has accepted the login: the id of the document whose read is started. -/
def signedIn (email : String) : Handler String := document email

/-- The answer to the read. -/
def accountAnswer : Option Document → Handler Unit
  | some document => set "current_user" (some (.dictionary document))
  | none => return ()

end LoginViewController

namespace ResetPasswordViewController

/-- What the button's action leaves behind: the message of an alert, and the e-mail that Auth is
to send a mail to. -/
structure Press where
  alert : Option String
  sendPasswordReset : Option String
deriving Repr, DecidableEq

def resetPasswordButton (email : String) : Press :=
  if email = "" then
    ⟨some "Please enter an email for password reset!", none⟩
  else
    ⟨none, some email⟩

end ResetPasswordViewController

namespace AccountViewController

structure Screen where
  name : String
  fullname : String
  birthday : String
  gender : String
  email : String
  createNewAccountIsHidden : Bool
deriving Repr, DecidableEq

def viewDidLoad : Handler Screen := do
  let t ← forced "current_user" Value.dictionary?
  return {
    name := ← Traps.cast (t.string? "name")
    fullname := ← Traps.cast (t.string? "name")
    birthday := ← Traps.cast (t.string? "birthday")
    gender := ← Traps.cast (t.string? "gender")
    email := ← Traps.cast (t.string? "email")
    createNewAccountIsHidden := decide ((← Traps.cast (t.string? "status")) ≠ "2") }

end AccountViewController

/-- The profile on the edit-account screen. -/
structure AccountForm where
  fullname : String
  birthday : String
  gender : String
  email : String
deriving Repr, DecidableEq

namespace EditAccountViewController

def viewDidLoad : Handler AccountForm := do
  let t ← forced "current_user" Value.dictionary?
  return {
    fullname := ← Traps.cast (t.string? "name")
    birthday := ← Traps.cast (t.string? "birthday")
    gender := ← Traps.cast (t.string? "gender")
    email := ← Traps.cast (t.string? "email") }

/-- Some field is empty. -/
def Incomplete (form : AccountForm) : Prop :=
  form.fullname = "" ∨ form.birthday = "" ∨ form.email = "" ∨ form.gender = ""

instance (form : AccountForm) : Decidable (Incomplete form) :=
  inferInstanceAs (Decidable (_ ∨ _ ∨ _ ∨ _))

/-- The profile of a form. -/
def profile (form : AccountForm) : List (String × FieldValue) :=
  [("name", .string form.fullname), ("birthday", .string form.birthday),
    ("gender", .string form.gender), ("email", .string form.email)]

/-- The button's action: the new password of Auth's current user, if there is to be one. -/
def confirmButton (form : AccountForm) (password₁ password₂ : String) :
    Handler (Option String) := do
  if Incomplete form then
    return none
  else if password₁ ≠ password₂ then
    return none
  else if password₁ = password₂ ∧ password₁ ≠ "" then
    setData .accounts form.email (profile form)
    return some password₁
  else
    setData .accounts form.email (profile form)
    return none

end EditAccountViewController

end LibraryManagement
