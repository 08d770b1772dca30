import LibraryManagement.UserDefaults

/-!
# The register screen

`RegisterViewController` asks Firebase Auth for a new user; when Auth has answered, a
completion callback stores the user's account document. The callback reads the text fields
again, as they are by then. OK on its alert starts the upload of the avatar and stores where.
-/

namespace LibraryManagement

open Handler

/-- The text fields of the register screen. -/
structure RegisterForm where
  name : String
  birthday : String
  gender : String
  email : String
  password_1 : String
  password_2 : String
deriving Repr, DecidableEq

namespace RegisterViewController

/-- Some field is empty. -/
def Incomplete (form : RegisterForm) : Prop :=
  form.name = "" ∨ form.birthday = "" ∨ form.gender = "" ∨ form.email = "" ∨
    form.password_1 = "" ∨ form.password_2 = ""

instance (form : RegisterForm) : Decidable (Incomplete form) :=
  inferInstanceAs (Decidable (_ ∨ _ ∨ _ ∨ _ ∨ _ ∨ _))

/-- What the button's action leaves behind: the message of an alert, and the e-mail and the
password of the user that Auth is asked for. -/
structure Press where
  alert : Option String
  createUser : Option (String × String)
deriving Repr, DecidableEq

def registerButton (form : RegisterForm) : Press :=
  if Incomplete form then
    ⟨some "Please fill all information", none⟩
  else
    -- The alert about the passwords does not leave the action.
    ⟨if form.password_1 ≠ form.password_2 then
        some "Password confirm must be the same as password"
      else none,
      some (form.email, form.password_1)⟩

/-- The account of a new user. -/
def account (form : RegisterForm) : List (String × FieldValue) :=
  [("name", .string form.name), ("birthday", .string form.birthday),
    ("gender", .string form.gender), ("email", .string form.email),
    ("avatar", .string "gs://librarymanagement-bd9ab.appspot.com/images/avatar.png"),
    ("status", .string "1")]

/-- The completion callback, when the form shows `shown`. Its `setData` does not merge. -/
def createUserCompletion (created : Bool) (shown : RegisterForm) : Handler Unit := do
  if created then
    write (.replaceAt .accounts (← document shown.email) (account shown))

/-- Where the avatar of the user with this e-mail is uploaded to. -/
def avatarURL (email : String) : String :=
  "gs://librarymanagement-bd9ab.appspot.com/images/" ++ email

/-- The write after the avatar's upload was started. -/
def updateData (shown : RegisterForm) : Handler Unit :=
  Handler.updateData .accounts shown.email [("avatar", .string (avatarURL shown.email))]

end RegisterViewController

end LibraryManagement
