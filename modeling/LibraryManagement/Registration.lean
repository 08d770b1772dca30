import LibraryManagement.Interruption
import LibraryManagement.Screens.Register

/-!
# Registrations

A registered user has an entry in Firebase Auth and a document in Accounts. The register screen
makes the two one after the other, from text fields that can be edited in between.

`createUser` either fails without effect or creates the user; it refuses an e-mail that is in
use, and `accepted` stands for its other reasons to refuse.
-/

namespace LibraryManagement

open Handler RegisterViewController

/-- The passwords of the users, by their e-mails. -/
abbrev Auth := Std.ExtTreeMap String String

def Auth.createUser (auth : Auth) (accepted : Bool) (email password : String) : Option Auth :=
  if accepted ∧ email ∉ auth then some (auth.insert email password) else none

structure UserStores where
  auth : Auth
  db : Database

/-- One use of the register screen. -/
structure Registering where
  /-- The form when the button is pressed. -/
  form : RegisterForm
  accepted : Bool
  /-- The form when Auth has answered. -/
  shown : RegisterForm
  /-- OK is tapped on the alert that reports the success. -/
  confirmed : Bool

namespace Registering

/-- What runs when Auth has answered. -/
def completion (r : Registering) (created : Bool) : Handler Unit := do
  createUserCompletion created r.shown
  if created ∧ r.confirmed then
    RegisterViewController.updateData r.shown

/-- The user the button asks Auth for. -/
def createUser (r : Registering) (auth : Auth) : Option Auth := do
  let (email, password) ← (registerButton r.form).createUser
  auth.createUser r.accepted email password

/-- The stores after a registration. The writes before a trap take effect. -/
def register (r : Registering) (s : UserStores) : UserStores :=
  match r.createUser s.auth with
  | none => ⟨s.auth, Write.applyAll s.db (issued (r.completion false) ∅)⟩
  | some auth => ⟨auth, Write.applyAll s.db (issued (r.completion true) ∅)⟩

/-! ## What is to hold -/

/-- A form that is incomplete, or whose passwords differ, changes neither store. -/
def Rejects (r : Registering) (s : UserStores) : Prop :=
  Incomplete r.form ∨ r.form.password_1 ≠ r.form.password_2 →
    (r.register s).auth = s.auth ∧ (r.register s).db .accounts = s.db .accounts

/-- The document of this e-mail has it as its e-mail. -/
def HasAccount (accounts : Collection) (email : String) : Prop :=
  ∃ account ∈ accounts[email]?, account.Carries "email" email

instance (accounts : Collection) (email : String) : Decidable (HasAccount accounts email) :=
  inferInstanceAs (Decidable (∃ account ∈ accounts[email]?, _))

/-- With a new user of Auth, Accounts gains the document of the user's e-mail, and no other
document is changed. -/
def InStep (r : Registering) (s : UserStores) : Prop :=
  ∀ email ∈ (r.register s).auth, email ∉ s.auth →
    HasAccount ((r.register s).db .accounts) email ∧
      ∀ id ≠ email, ((r.register s).db .accounts)[id]? = (s.db .accounts)[id]?

/-- The document that the callback writes, with the avatar once OK is tapped. -/
def account (r : Registering) : Document :=
  if r.confirmed then
    (Document.merge ∅ (RegisterViewController.account r.shown)).merge
      [("avatar", .string (avatarURL r.shown.email))]
  else Document.merge ∅ (RegisterViewController.account r.shown)

/-- The document of Accounts that the callback writes. There is none if the e-mail field does
not name a document by then, or names one further down. -/
def written (r : Registering) : Option String :=
  if IsDocumentPath r.shown.email then CollectionName.accounts.id? r.shown.email else none

/-- The account of the form's e-mail is there already, and what the callback writes too. -/
def Stored (r : Registering) (s : UserStores) : Prop :=
  HasAccount (s.db .accounts) r.form.email ∧
    ∀ id ∈ r.written, (s.db .accounts)[id]? = some r.account

/-- The condition on a registration: some field is empty, Auth refuses the user, or the passwords
agree and the callback finds the e-mail of the new user, which is a document's id. -/
def Keeps (r : Registering) (s : UserStores) : Prop :=
  Incomplete r.form ∨
    s.auth.createUser r.accepted r.form.email r.form.password_1 = none ∨
    r.form.password_1 = r.form.password_2 ∧
      (r.shown.email = r.form.email ∧ IsDocumentID r.form.email ∨ r.Stored s)

end Registering

/-! ## Users -/

namespace Auth

variable {auth auth' : Auth} {accepted : Bool} {email password : String}

/-- A created user is a new one. -/
theorem createUser_eq_some :
    auth.createUser accepted email password = some auth' ↔
      accepted = true ∧ email ∉ auth ∧ auth.insert email password = auth' := by
  unfold createUser
  split
  · next h => simp [h]
  · next h =>
    simp only [reduceCtorEq, false_iff]
    rintro ⟨haccepted, hnew, -⟩
    exact h ⟨haccepted, hnew⟩

theorem mem_of_createUser (h : auth.createUser accepted email password = some auth') {e : String} :
    e ∈ auth' ∧ e ∉ auth ↔ e = email := by
  obtain ⟨-, hnew, rfl⟩ := createUser_eq_some.1 h
  rw [Std.ExtTreeMap.mem_insert, Std.LawfulEqCmp.compare_eq_iff_eq]
  constructor
  · rintro ⟨heq | hold, hnot⟩
    · exact heq.symm
    · exact absurd hold hnot
  · rintro rfl
    exact ⟨.inl rfl, hnew⟩

end Auth

namespace Registering

variable {r : Registering} {s : UserStores} {auth : Auth}

/-- An incomplete form asks for no user, and any other form for its own. -/
theorem createUser_eq (r : Registering) (auth : Auth) :
    r.createUser auth = if Incomplete r.form then none
      else auth.createUser r.accepted r.form.email r.form.password_1 := by
  unfold createUser registerButton
  split <;> rfl

/-! ## Accounts -/

theorem issued_refused : issued (r.completion false) ∅ = [] := rfl

/-- The callback writes to the document that the e-mail field names by then. -/
theorem issued_created :
    issued (r.completion true) ∅ = if IsDocumentPath r.shown.email then
        .replaceAt .accounts r.shown.email (RegisterViewController.account r.shown) ::
          if r.confirmed then [.updateAt .accounts r.shown.email
            [("avatar", .string (avatarURL r.shown.email))]] else []
      else [] := by
  simp only [issued, completion, createUserCompletion, RegisterViewController.updateData,
    Handler.updateData, if_true, Traps.bind_apply, document_apply, write_apply, true_and]
  by_cases hid : IsDocumentPath r.shown.email
  · cases r.confirmed with
    | true => simp [hid, Traps.bind_apply, document_apply, write_apply]
    | false =>
      simp only [hid, if_true, Bool.false_eq_true, if_false]
      rfl
  · simp [hid]

/-- Overriding fields of a document that was just written. -/
theorem override_insert (docs : Collection) (id : String) (document : Document)
    (data : List (String × FieldValue)) :
    Collection.override (docs.insert id document) id data = docs.insert id (document.merge data) := by
  refine Std.ExtTreeMap.ext_getElem? fun a => ?_
  rw [Collection.getElem?_override, Collection.getElem?_insert, Collection.getElem?_insert,
    if_pos rfl, Option.getD_some, Collection.getElem?_insert]
  split <;> rfl

/-- One account is replaced, whatever it was, unless the callback traps or writes elsewhere. -/
theorem applyAll_created (db : Database) :
    Write.applyAll db (issued (r.completion true) ∅) .accounts =
      match r.written with
      | some id => (db .accounts).insert id r.account
      | none => db .accounts := by
  rw [issued_created, written]
  by_cases hvalid : IsDocumentPath r.shown.email
  · rw [if_pos hvalid, if_pos hvalid]
    cases hid : CollectionName.accounts.id? r.shown.email with
    | some id =>
      rw [Write.replaceAt, Write.updateAt, CollectionName.id?_eq_some.1 hid, account]
      cases r.confirmed with
      | true =>
        simp only [if_true, Write.applyAll_cons, Write.applyAll_nil, Write.apply_apply,
          Write.collection, Write.applyTo, Std.ExtTreeMap.mem_insert_self, override_insert]
      | false =>
        simp only [Bool.false_eq_true, if_false, Write.applyAll_cons, Write.applyAll_nil,
          Write.apply_apply, Write.collection, Write.applyTo, if_true]
    | none =>
      have hne := (CollectionName.id?_eq_none.1 hid).symm
      cases r.confirmed with
      | true =>
        simp only [if_true, Write.applyAll_cons, Write.applyAll_nil]
        rw [Write.apply_of_ne _ hne, Write.apply_of_ne _ hne]
      | false =>
        simp only [Bool.false_eq_true, if_false, Write.applyAll_cons, Write.applyAll_nil]
        rw [Write.apply_of_ne _ hne]
  · rw [if_neg hvalid, if_neg hvalid]
    rfl

/-- The account that is written carries the e-mail that the callback found. -/
theorem account_carries {r : Registering} {email : String} :
    r.account.Carries "email" email ↔ r.shown.email = email := by
  unfold account
  split <;> simp [Document.Carries, RegisterViewController.account, Document.merge_cons]

/-- An e-mail that is a document's id is written under that id. -/
theorem written_of_isDocumentID (h : IsDocumentID r.shown.email) :
    r.written = some r.shown.email := by
  rw [written, if_pos h.isDocumentPath, CollectionName.id?_of_isDocumentID _ h]

/-- What is written has the id of a document. -/
theorem isDocumentID_of_written {id : String} (h : r.written = some id) : IsDocumentID id := by
  obtain ⟨hvalid, hid⟩ := Option.ite_none_right_eq_some.1 h
  have hdocument := hvalid.isDocumentID .accounts
  rwa [CollectionName.id?_eq_some.1 hid] at hdocument

/-! ## One registration -/

theorem register_refused (h : r.createUser s.auth = none) : r.register s = s := by
  rw [register, h, issued_refused]
  rfl

theorem register_created (h : r.createUser s.auth = some auth) : (r.register s).auth = auth ∧
    (r.register s).db .accounts =
      match r.written with
      | some id => (s.db .accounts).insert id r.account
      | none => s.db .accounts := by
  rw [register, h]
  exact ⟨rfl, applyAll_created s.db⟩

/-- A created user is the one that the button asked for. -/
theorem mem_of_created (h : r.createUser s.auth = some auth) {email : String} :
    email ∈ auth ∧ email ∉ s.auth ↔ email = r.form.email := by
  rw [createUser_eq] at h
  exact Auth.mem_of_createUser (Option.ite_none_left_eq_some.1 h).2

theorem complete_of_created (h : r.createUser s.auth = some auth) : ¬ Incomplete r.form := by
  rw [createUser_eq] at h
  exact (Option.ite_none_left_eq_some.1 h).1

/-- Auth has changed, so the passwords have to agree. -/
theorem rejects_of_created (h : r.createUser s.auth = some auth) :
    r.Rejects s ↔ r.form.password_1 = r.form.password_2 := by
  have hnew : r.form.email ∈ auth ∧ r.form.email ∉ s.auth := (mem_of_created h).2 rfl
  constructor
  · intro hrejects
    by_contra hdiffer
    have hsame := (hrejects (.inr hdiffer)).1
    rw [(register_created h).1] at hsame
    exact hnew.2 (hsame ▸ hnew.1)
  · rintro hagree (hincomplete | hdiffer)
    · exact absurd hincomplete (complete_of_created h)
    · exact absurd hagree hdiffer

theorem inStep_of_created (h : r.createUser s.auth = some auth) :
    r.InStep s ↔ HasAccount ((r.register s).db .accounts) r.form.email ∧
      ∀ id ≠ r.form.email, ((r.register s).db .accounts)[id]? = (s.db .accounts)[id]? := by
  unfold InStep
  rw [(register_created h).1]
  constructor
  · intro hall
    have hnew := (mem_of_created h).2 rfl
    exact hall _ hnew.1 hnew.2
  · intro hgains email hmem hfresh
    obtain rfl := (mem_of_created h).1 ⟨hmem, hfresh⟩
    exact hgains

/-- What is to hold of Accounts, by where the callback has written. -/
theorem gains_of_created (h : r.createUser s.auth = some auth) :
    (HasAccount ((r.register s).db .accounts) r.form.email ∧
        ∀ id ≠ r.form.email, ((r.register s).db .accounts)[id]? = (s.db .accounts)[id]?) ↔
      r.shown.email = r.form.email ∧ IsDocumentID r.form.email ∨ r.Stored s := by
  rw [(register_created h).2, Stored]
  cases hid : r.written with
  | none =>
    -- No account is written, so the e-mail field shows no document's id.
    constructor
    · rintro ⟨haccount, -⟩
      exact .inr ⟨haccount, nofun⟩
    · rintro (⟨hsame, hvalid⟩ | ⟨haccount, -⟩)
      · rw [written_of_isDocumentID (hsame ▸ hvalid)] at hid
        cases hid
      · exact ⟨haccount, fun _ _ => rfl⟩
  | some id =>
    simp only [Option.mem_some, forall_eq']
    by_cases hform : id = r.form.email
    · -- The account is written under the e-mail of the new user.
      subst hform
      have hvalid : IsDocumentID r.form.email := isDocumentID_of_written hid
      rw [HasAccount, HasAccount, Std.ExtTreeMap.getElem?_insert_self]
      constructor
      · rintro ⟨⟨account, ⟨⟩, hcarries⟩, -⟩
        exact .inl ⟨account_carries.1 hcarries, hvalid⟩
      · intro hkeeps
        have hsame : r.shown.email = r.form.email := by
          rcases hkeeps with ⟨hsame, -⟩ | ⟨⟨account, haccount, hcarries⟩, hstored⟩
          · exact hsame
          · obtain rfl : account = r.account := Option.some.inj (haccount.symm.trans hstored)
            exact account_carries.1 hcarries
        refine ⟨⟨r.account, rfl, account_carries.2 hsame⟩, fun id hne => ?_⟩
        rw [Collection.getElem?_insert, if_neg hne.symm]
    · -- The account is written under another id, and stored there.
      rw [HasAccount, HasAccount, Collection.getElem?_insert, if_neg hform]
      constructor
      · rintro ⟨haccount, hothers⟩
        have hwritten := hothers id hform
        rw [Std.ExtTreeMap.getElem?_insert_self] at hwritten
        exact .inr ⟨haccount, hwritten.symm⟩
      · rintro (⟨hsame, hvalid⟩ | ⟨haccount, hstored⟩)
        · rw [written_of_isDocumentID (hsame ▸ hvalid)] at hid
          exact absurd ((Option.some.inj hid).symm.trans hsame) hform
        · refine ⟨haccount, fun id' _ => ?_⟩
          rw [Collection.getElem?_insert]
          split
          · next heq => rw [← heq, hstored]
          · rfl

end Registering

/-! ## Every registration -/

/-- A registration that is rejected changes nothing, and one that creates a user adds the user's
account alone, exactly under the condition. -/
theorem registration_iff (r : Registering) (s : UserStores) :
    r.Rejects s ∧ r.InStep s ↔ r.Keeps s := by
  cases hcreate : r.createUser s.auth with
  | none =>
    have hkeeps : r.Keeps s := by
      rw [Registering.createUser_eq] at hcreate
      by_cases hincomplete : Incomplete r.form
      · exact .inl hincomplete
      · exact .inr (.inl (by rwa [if_neg hincomplete] at hcreate))
    refine iff_of_true ?_ hkeeps
    rw [Registering.Rejects, Registering.InStep, Registering.register_refused hcreate]
    exact ⟨fun _ => ⟨rfl, rfl⟩, fun email hmem hfresh => absurd hmem hfresh⟩
  | some auth =>
    rw [Registering.rejects_of_created hcreate, Registering.inStep_of_created hcreate,
      Registering.gains_of_created hcreate, Registering.Keeps]
    rw [Registering.createUser_eq] at hcreate
    obtain ⟨hcomplete, hcreated⟩ := Option.ite_none_left_eq_some.1 hcreate
    simp only [hcomplete, hcreated, reduceCtorEq, false_or]

namespace Sample

/-- A registration whose fields are not edited before Auth answers. -/
def registering (password_2 : String) : Registering :=
  let form : RegisterForm := ⟨"An", "01-01-1990", "Other", "a@b", "secret", password_2⟩
  ⟨form, true, form, true⟩

end Sample

/-- Two passwords that differ do not keep the user from being created. -/
theorem registration_fails : ¬ ∀ (r : Registering) (s : UserStores), r.Rejects s ∧ r.InStep s := by
  intro hall
  have hrejects := (hall (Sample.registering "Secret") ⟨∅, Database.empty⟩).1
  have hauth : ((Sample.registering "Secret").register ⟨∅, Database.empty⟩).auth = ∅ :=
    (hrejects (.inr (by decide))).1
  have hmem : "a@b" ∈ ((Sample.registering "Secret").register ⟨∅, Database.empty⟩).auth := by
    decide +kernel
  rw [hauth] at hmem
  exact Std.ExtTreeMap.not_mem_empty hmem

end LibraryManagement
