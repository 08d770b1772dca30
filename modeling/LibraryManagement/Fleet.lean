import LibraryManagement.Lib.Outbox
import LibraryManagement.Registration
import LibraryManagement.WritesTheorems

/-!
# Any number of devices

The devices `κ` share the database and Firebase Auth. A device runs the handlers of its path and
reads the database with its own writes on it. A write arrives at the database later, in the order
of the device, and is taken or refused. The app may trap or be closed at any time, and starts
again with the `UserDefaults` it left.

Seen from the database the devices are writers in front of a store (`Fleet.simulation`): what the
writes of the app keep, every run of the devices keeps.
-/

namespace LibraryManagement

open Handler Transition

/-- The password that a confirm asks Auth to set, before it stores the profile. -/
def EditAccountViewController.updatePassword (form : AccountForm) (password₁ password₂ : String) :
    Option String :=
  if ¬ Incomplete form ∧ password₁ = password₂ ∧ password₁ ≠ "" then some password₁ else none

/-! ## Devices -/

structure Station where
  temp : UserDefaults
  path : Path
  /-- The writes that have not arrived. -/
  sent : List Write
  /-- The current user of Auth. -/
  user : Option String
  /-- The account screen hides the button that leads to the register screen. -/
  createNewAccountIsHidden : Bool
  /-- The new students whose confirms listen to a listed student, with its document's id. -/
  waiting : List (StudentForm × String)
  /-- The forms whose users Auth was asked for. -/
  asked : List RegisterForm
  /-- The reset-password screen is in front of the login screen. -/
  resetting : Bool
  /-- The e-mails to which Auth was asked to send a reset mail. -/
  mails : List String

namespace Station

/-- The app is started for the first time. -/
def start : Station := ⟨∅, Path.launch, [], none, true, [], [], false, []⟩

/-- The app is started again. The login screen signs the user of Auth out. -/
def restart (s : Station) : Station :=
  { s with path := Path.launch, user := none, waiting := [], asked := [], resetting := false }

/-- A handler runs. It has done everything before it traps, and a trap closes the app. -/
def run (s : Station) (h : Handler Path) : Station :=
  let d := h.final ⟨s.temp, []⟩
  let s' := { s with temp := d.temp, sent := s.sent ++ d.writes }
  match h ⟨s.temp, []⟩ with
  | .ok p _ => { s' with path := p }
  | .error _ _ => s'.restart

theorem run_of_ok {s : Station} {h : Handler Path} {p : Path} {d : Device}
    (hok : h ⟨s.temp, []⟩ = .ok p d) :
    s.run h = { s with temp := d.temp, sent := s.sent ++ d.writes, path := p } := by
  rw [run, Traps.final_of_ok hok, hok]

theorem run_sent (s : Station) (h : Handler Path) :
    (s.run h).sent = s.sent ++ (h.final ⟨s.temp, []⟩).writes := by
  unfold run
  split <;> rfl

/-- What a handler leaves of the rest: a trap signs out. -/
theorem run_rest (s : Station) (h : Handler Path) :
    (s.run h).createNewAccountIsHidden = s.createNewAccountIsHidden ∧
      ((s.run h).asked = s.asked ∨ (s.run h).asked = []) ∧ ∀ u ∈ (s.run h).user, u ∈ s.user := by
  unfold run
  split
  · exact ⟨rfl, .inl rfl, fun _ hu => hu⟩
  · exact ⟨rfl, .inr rfl, by simp [restart]⟩

end Station

structure Fleet (κ : Type) where
  db : Database
  auth : Auth
  station : κ → Station

/-- What happens on a device. -/
inductive FleetEvent
  | login (email password : String)
  | logout
  /-- The button of the login screen that opens the reset-password screen, the button there, and
  the one that opens a login screen again. -/
  | forget
  | resetPassword (email : String)
  | toLogin
  /-- The confirm of edit-account, and whether Auth accepts the new password. -/
  | editAccount (form : AccountForm) (password₁ password₂ : String) (accepted : Bool)
  /-- Another event of the path. -/
  | event (e : Event)
  /-- A delivery to a confirm of a new student that waits for the only listed one. -/
  | delivery (i : ℕ) (autoID : String)
  /-- The button of the register screen, and Auth's answer, when the form shows `shown`. -/
  | register (form : RegisterForm)
  | registered (i : ℕ) (accepted : Bool) (shown : RegisterForm) (confirmed : Bool)
  /-- The device's oldest write arrives at the database. -/
  | arrive (taken : Bool)
  | quit

/-- The event of its path that an event of a device is. -/
def FleetEvent.onPath : FleetEvent → Option Event
  | .login email _ => some (.login email)
  | .logout => some .logout
  | .editAccount form password₁ password₂ _ => some (.editAccount form password₁ password₂)
  | .event e => some e
  | _ => none

namespace Fleet

variable {κ : Type}

def start (db : Database) (auth : Auth) : Fleet κ := ⟨db, auth, fun _ => Station.start⟩

/-- What a device reads: the database with the device's own writes on it. -/
def view (r : Fleet κ) (k : κ) : Database := Write.applyAll r.db (r.station k).sent

/-- The event of the path. -/
def pathEvent (r : Fleet κ) (k : κ) : FleetEvent → Option Event
  | .login email password =>
    if r.auth[email]? = some password ∧ (r.station k).resetting = false then some (.login email)
    else none
  | .logout => some .logout
  | .editAccount form password₁ password₂ _ => some (.editAccount form password₁ password₂)
  | .event e => match e with
    | .login _ => none
    | .logout => none
    | .editAccount _ _ _ => none
    | .segue .register =>
      if (r.station k).createNewAccountIsHidden then none else some (.segue .register)
    | e => some e
  | _ => none

/-- The registration that Auth answers. -/
def registering (r : Fleet κ) (k : κ) (i : ℕ) (accepted : Bool) (shown : RegisterForm)
    (confirmed : Bool) : Option Registering :=
  (r.station k).asked[i]?.map fun form => ⟨form, accepted, shown, confirmed⟩

variable (uppercased : String → String) (r : Fleet κ) (k : κ)

/-- The handler that an event runs, if it is possible. -/
def handler : FleetEvent → Option (Handler Path)
  | .forget =>
    if (r.station k).path.tab = none ∧ (r.station k).resetting = false then
      some (return (r.station k).path)
    else none
  | .resetPassword _ =>
    if (r.station k).resetting = true then some (return (r.station k).path) else none
  | .toLogin => if (r.station k).resetting = true then some (return (r.station k).path) else none
  | .delivery i autoID => (r.station k).waiting[i]?.map fun (form, id) => do
    AddStudentsViewController.listenerDelivery
      (AddStudentsViewController.newStudent uppercased form) id autoID
      ((r.view k).read .students id)
    return (r.station k).path
  | .register form =>
    if (r.station k).path.here = some .register ∧
        (RegisterViewController.registerButton form).createUser.isSome then
      some (return (r.station k).path)
    else none
  | .registered i accepted shown confirmed =>
    (r.registering k i accepted shown confirmed).map fun answered => do
      answered.completion (answered.createUser r.auth).isSome
      return (r.station k).path
  | e => (r.pathEvent k e).bind ((r.station k).path.handler uppercased (r.view k))

/-- The users of Auth after an event. -/
def authAfter : FleetEvent → Auth
  | .editAccount form password₁ password₂ true =>
    match EditAccountViewController.updatePassword form password₁ password₂, (r.station k).user with
    | some password, some user => r.auth.insert user password
    | _, _ => r.auth
  | .registered i accepted shown confirmed =>
    ((r.registering k i accepted shown confirmed).bind (·.createUser r.auth)).getD r.auth
  | _ => r.auth

/-- What an event leaves on the device beside the effects of its handler. A user that was created
is signed in, and a login screen that opens signs the user out. -/
def note : FleetEvent → Station
  | .login email _ => { r.station k with user := some email }
  | .logout => { r.station k with user := none }
  | .forget => { r.station k with resetting := true }
  | .resetPassword email => { r.station k with
      mails := (r.station k).mails ++
        (ResetPasswordViewController.resetPasswordButton email).sendPasswordReset.toList }
  | .toLogin => { r.station k with resetting := false, user := none }
  | .event (.select .account) =>
    match (r.station k).path.stack .account,
        AccountViewController.viewDidLoad ⟨(r.station k).temp, []⟩ with
    | [], .ok screen _ =>
      { r.station k with createNewAccountIsHidden := screen.createNewAccountIsHidden }
    | _, _ => r.station k
  | .event (.addStudent form autoID) =>
    match AddStudentsViewController.confirmButton uppercased form autoID
        ⟨(r.station k).temp, []⟩ with
    | .ok (.listener id) _ =>
      { r.station k with waiting := (r.station k).waiting ++ [(form, id)] }
    | _ => r.station k
  | .register form => { r.station k with asked := (r.station k).asked ++ [form] }
  | .registered i accepted shown confirmed =>
    { r.station k with
      asked := (r.station k).asked.eraseIdx i
      user := match r.registering k i accepted shown confirmed with
        | some answered =>
          if (answered.createUser r.auth).isSome then some answered.form.email
          else (r.station k).user
        | none => (r.station k).user }
  | _ => r.station k

variable [DecidableEq κ]

def step (r : Fleet κ) : κ × FleetEvent → Option (Fleet κ)
  | (k, .arrive taken) => match (r.station k).sent with
    | w :: ws => some { r with
        db := if taken then w.apply r.db else r.db
        station := Function.update r.station k { r.station k with sent := ws } }
    | [] => none
  | (k, .quit) =>
    some { r with station := Function.update r.station k (r.station k).restart }
  | (k, e) => (r.handler uppercased k e).map fun h => { r with
      auth := r.authAfter k e
      station := Function.update r.station k ((r.note uppercased k e).run h) }

variable {uppercased r k} {t : Fleet κ} {e : FleetEvent}

/-- What a step does: a write arrives, the app is closed, or a handler runs. -/
theorem step_cases (h : step uppercased r (k, e) = some t) :
    (∃ taken w ws, e = .arrive taken ∧ (r.station k).sent = w :: ws ∧ t = { r with
      db := if taken then w.apply r.db else r.db
      station := Function.update r.station k { r.station k with sent := ws } }) ∨
    (e = .quit ∧
      t = { r with station := Function.update r.station k (r.station k).restart }) ∨
    ∃ x, r.handler uppercased k e = some x ∧ t = { r with
      auth := r.authAfter k e
      station := Function.update r.station k ((r.note uppercased k e).run x) } := by
  unfold step at h
  split at h
  · next k' taken heq =>
    obtain ⟨rfl, rfl⟩ := Prod.mk.inj heq
    split at h
    · next w ws hsent => exact .inl ⟨taken, w, ws, rfl, hsent, (Option.some.inj h).symm⟩
    · cases h
  · next k' heq =>
    obtain ⟨rfl, rfl⟩ := Prod.mk.inj heq
    exact .inr (.inl ⟨rfl, (Option.some.inj h).symm⟩)
  · next k' e' _ _ heq =>
    obtain ⟨rfl, rfl⟩ := Prod.mk.inj heq
    obtain ⟨x, hx, rfl⟩ := Option.map_eq_some_iff.1 h
    exact .inr (.inr ⟨x, hx, rfl⟩)

/-- An event changes one device. -/
theorem station_of_ne {a : κ} (hne : a ≠ k) (h : step uppercased r (a, e) = some t) :
    t.station k = r.station k := by
  rcases step_cases h with ⟨taken, w, ws, rfl, hsent, rfl⟩ | ⟨rfl, rfl⟩ | ⟨x, hx, rfl⟩
  all_goals exact Function.update_of_ne hne.symm _ _

theorem station_update {db : Database} {auth : Auth} {s : Station} :
    (⟨db, auth, Function.update r.station k s⟩ : Fleet κ).station k = s :=
  Function.update_self k s r.station

omit [DecidableEq κ] in
theorem note_eq (uppercased : String → String) (r : Fleet κ) (k : κ) (e : FleetEvent) :
    (r.note uppercased k e).temp = (r.station k).temp ∧
      (r.note uppercased k e).path = (r.station k).path ∧
        (r.note uppercased k e).sent = (r.station k).sent := by
  unfold note
  split
  all_goals first | split | skip
  all_goals exact ⟨rfl, rfl, rfl⟩

end Fleet

/-- A registration writes the account of its form by then. -/
theorem Registering.completion_emits {D : Holdings} (a : Registering) (created : Bool) :
    Emits D (AppWrite.Below [.accounts]) (a.completion created) fun _ => True := by
  refine .next (.ite (fun _ => .bind .document fun id hid => ?_) fun _ => .done)
    fun _ => .ite (fun _ => .updateData ((AppWrite.avatar _).updateAt_below (by decide)))
      fun _ => .done
  obtain ⟨hpath, rfl⟩ := hid
  exact .write ((AppWrite.account _ hpath).replaceAt_below (by decide))

/-- The collections that an event may write to: presses, blocks, and deliveries that a confirm
waits for. -/
def FleetEvent.collections : FleetEvent → List CollectionName
  | .editAccount _ _ _ _ => [.accounts]
  | .event e => e.collections
  | .delivery _ _ => [.students]
  | .registered _ _ _ _ => [.accounts]
  | _ => []

/-- The events that may write. -/
def FleetEvent.writes (e : FleetEvent) : Bool := e.collections ≠ []

/-! ## Writers in front of a store -/

namespace Fleet

variable {κ : Type} {D : Holdings} {W : Set Write} {P : Set Place}

/-- The devices seen from the database. -/
def system (r : Fleet κ) : Outbox.System κ Database Write := ⟨r.db, fun k => (r.station k).sent⟩

/-- What the handlers rely on. -/
structure Sound (D : Holdings) (P : Set Place) (r : Fleet κ) : Prop where
  path : ∀ k, (r.station k).path.Fits P
  temp : ∀ k, (r.station k).temp.Within D

theorem sound_start {db : Database} {auth : Auth} :
    (start db auth : Fleet κ).Sound D P :=
  ⟨fun _ => Path.fits_launch, fun _ key v hv => by simp [start, Station.start] at hv⟩

variable {uppercased : String → String} {r t : Fleet κ} {k : κ} {e : FleetEvent}

/-- An event of the path is the device's. -/
theorem onPath_of_pathEvent {e' : Event} (h : r.pathEvent k e = some e') : e.onPath = some e' := by
  unfold pathEvent at h
  split at h
  · obtain ⟨-, h⟩ := Option.ite_none_right_eq_some.1 h
    exact h
  · exact h
  · exact h
  · split at h
    · cases h
    · cases h
    · cases h
    · obtain ⟨-, h⟩ := Option.ite_none_left_eq_some.1 h
      exact h
    · exact h
  · cases h

/-- The register screen is opened from an account screen that shows the button. -/
theorem pathEvent_register (h : r.pathEvent k e = some (.segue .register)) :
    (r.station k).createNewAccountIsHidden = false := by
  unfold pathEvent at h
  split at h
  · split at h <;> cases h
  · cases h
  · cases h
  · split at h
    · cases h
    · cases h
    · cases h
    · split at h
      · cases h
      · next hhidden => simpa using hhidden
    · next hne => exact absurd (Option.some.inj h) hne
  · cases h

/-- An event of the path writes where the device's event does. -/
theorem pathEvent_collections {e' : Event} (h : r.pathEvent k e = some e') :
    e'.collections = e.collections := by
  have honPath := onPath_of_pathEvent h
  cases e with
  | login | logout | event | editAccount =>
    obtain rfl := Option.some.inj honPath
    rfl
  | _ => cases honPath

theorem pathEvent_readMore {title content : String}
    (h : r.pathEvent k e = some (.readMore title content)) :
    e = .event (.readMore title content) := by
  have honPath := onPath_of_pathEvent h
  cases e with
  | event => exact congrArg FleetEvent.event (Option.some.inj honPath)
  | _ => cases honPath

/-- What a handler does: nothing before the login and for the button of the register screen; it
decides for a confirm that waits, finishes a registration, or is one of the path. -/
theorem handler_cases {x : Handler Path} (hx : r.handler uppercased k e = some x) :
    (x = return (r.station k).path) ∧
      (e = .forget ∨ (∃ email, e = .resetPassword email) ∨ e = .toLogin) ∨
    (x = return (r.station k).path) ∧ (r.station k).path.here = some .register ∧
      (∃ form, e = .register form) ∨
    (∃ i autoID form id, e = .delivery i autoID ∧ (r.station k).waiting[i]? = some (form, id) ∧
      x = do
        AddStudentsViewController.listenerDelivery
          (AddStudentsViewController.newStudent uppercased form) id autoID
          ((r.view k).read .students id)
        return (r.station k).path) ∨
    (∃ i accepted shown confirmed answered, e = .registered i accepted shown confirmed ∧
      r.registering k i accepted shown confirmed = some answered ∧ x = do
        answered.completion (answered.createUser r.auth).isSome
        return (r.station k).path) ∨
    ∃ e', r.pathEvent k e = some e' ∧
      (r.station k).path.handler uppercased (r.view k) e' = some x := by
  unfold handler at hx
  split at hx
  · exact .inl ⟨(Option.some.inj (Option.ite_none_right_eq_some.1 hx).2).symm, .inl rfl⟩
  · next email =>
    exact .inl ⟨(Option.some.inj (Option.ite_none_right_eq_some.1 hx).2).symm, .inr (.inl ⟨email, rfl⟩)⟩
  · exact .inl ⟨(Option.some.inj (Option.ite_none_right_eq_some.1 hx).2).symm, .inr (.inr rfl)⟩
  · next i autoID =>
    obtain ⟨⟨form, id⟩, hwaiting, rfl⟩ := Option.map_eq_some_iff.1 hx
    exact .inr (.inr (.inl ⟨i, autoID, form, id, rfl, hwaiting, rfl⟩))
  · next form =>
    obtain ⟨⟨hhere, -⟩, hx⟩ := Option.ite_none_right_eq_some.1 hx
    exact .inr (.inl ⟨(Option.some.inj hx).symm, hhere, form, rfl⟩)
  · next i accepted shown confirmed =>
    obtain ⟨answered, hanswered, rfl⟩ := Option.map_eq_some_iff.1 hx
    exact .inr (.inr (.inr (.inl ⟨i, accepted, shown, confirmed, answered, rfl, hanswered, rfl⟩)))
  · exact .inr (.inr (.inr (.inr (Option.bind_eq_some_iff.1 hx))))

/-- Only some events of a device write, and only there. -/
theorem handler_emits {x : Handler Path} (hW : AppWrite.Below e.collections ⊆ W)
    (hrules : ∀ title content, e = .event (.readMore title content) →
      ruleText title content ∈ D.documents) (hview : (r.view k).Within D)
    (hP : ∀ place, place ∈ P ∨
      place = .register ∧ (r.station k).createNewAccountIsHidden = true)
    (hpath : (r.station k).path.Fits P) (hx : r.handler uppercased k e = some x) :
    Emits D W x (Path.Fits P) := by
  rcases handler_cases hx with ⟨rfl, -⟩ | ⟨rfl, -⟩ | ⟨i, autoID, form, id, rfl, -, rfl⟩ |
    ⟨i, accepted, shown, confirmed, answered, rfl, -, rfl⟩ | ⟨e', he', hx⟩
  · exact .pure hpath
  · exact .pure hpath
  · exact .next (AddStudentsViewController.listenerDelivery_emits.mono hW) fun _ => .pure hpath
  · exact .next ((answered.completion_emits _).mono hW) fun _ => .pure hpath
  · refine Path.handler_emits (pathEvent_collections he' ▸ hW) hview
      (fun title content heq => hrules title content (pathEvent_readMore (heq ▸ he')))
      (fun place => (hP place).imp_right ?_) hpath hx
    rintro ⟨hplace, hhidden⟩
    refine ⟨hplace, ?_⟩
    rintro rfl
    rw [pathEvent_register he'] at hhidden
    cases hhidden

/-- A handler that runs on a device: what is handed over, and what the handlers rely on later. -/
theorem run_emits {s : Station} {x : Handler Path}
    (hx : Emits D W x (Path.Fits P)) (htemp : s.temp.Within D) :
    (s.run x).path.Fits P ∧ (s.run x).temp.Within D ∧
      ∃ ws, (∀ w ∈ ws, w ∈ W) ∧ (s.run x).sent = s.sent ++ ws := by
  have hinv := hx.inv ⟨s.temp, []⟩ htemp
  obtain ⟨ws, hws, hlog⟩ := hx.log ⟨s.temp, []⟩ htemp
  rw [List.nil_append] at hlog
  have hsent : (s.run x).sent = s.sent ++ ws := by rw [Station.run_sent, hlog]
  refine ⟨?_, ?_, ws, hws, hsent⟩
  · unfold Station.run
    split
    · next p d hok => exact hx.result _ _ _ htemp hok
    · exact Path.fits_launch
  · unfold Station.run
    split <;> exact hinv

/-- The database admits the write that arrives. -/
def Admits (admits : Database → Write → Prop) (r : Fleet κ) : κ × FleetEvent → Prop
  | (k, .arrive true) => ∀ w ∈ (r.station k).sent.head?, admits r.db w
  | _ => True

instance (admits : Database → Write → Prop) [∀ db w, Decidable (admits db w)] (r : Fleet κ) :
    DecidablePred (Admits admits r)
  | (k, .arrive true) => inferInstanceAs (Decidable (∀ w ∈ (r.station k).sent.head?, _))
  | (_, .arrive false) => isTrue trivial
  | (_, .login _ _) => isTrue trivial
  | (_, .logout) => isTrue trivial
  | (_, .forget) => isTrue trivial
  | (_, .resetPassword _) => isTrue trivial
  | (_, .toLogin) => isTrue trivial
  | (_, .editAccount _ _ _ _) => isTrue trivial
  | (_, .event _) => isTrue trivial
  | (_, .delivery _ _) => isTrue trivial
  | (_, .register _) => isTrue trivial
  | (_, .registered _ _ _ _) => isTrue trivial
  | (_, .quit) => isTrue trivial

theorem admits_all (r : Fleet κ) (e : κ × FleetEvent) : Admits (fun _ _ => True) r e := by
  unfold Admits
  split
  · exact fun _ _ => trivial
  · trivial

variable [DecidableEq κ]

theorem system_update {db : Database} {auth : Auth} {s : Station} :
    (⟨db, auth, Function.update r.station k s⟩ : Fleet κ).system =
      ⟨db, Function.update r.system.sent k s.sent⟩ := by
  unfold system
  congr 1
  ext1 a
  simp only [Function.update_apply]
  split <;> rfl

/-- One device changes. -/
theorem Sound.update {db : Database} {auth : Auth} {s : Station} (hr : r.Sound D P)
    (hpath : s.path.Fits P) (htemp : s.temp.Within D) :
    (⟨db, auth, Function.update r.station k s⟩ : Fleet κ).Sound D P := by
  constructor <;> intro a <;> simp only [Function.update_apply] <;> split
  · exact hpath
  · exact hr.path a
  · exact htemp
  · exact hr.temp a

/-- A step of the devices is one of the writers, and keeps what the handlers rely on. A write
arrives by an event of its own. -/
theorem step_sound {admits : Database → Write → Prop}
    (hrules : ∀ title content, e = .event (.readMore title content) →
      ruleText title content ∈ D.documents)
    (hview : (r.view k).Within D)
    (hP : ∀ place, place ∈ P ∨ place = .register ∧ (r.station k).createNewAccountIsHidden = true)
    (hadmits : Admits admits r (k, e))
    (hr : r.Sound D P) (h : step uppercased r (k, e) = some t) :
    t.Sound D P ∧ ∃ l, Outbox.Step Write.apply {w | AppWrite w} admits r.system l t.system ∧
      ∀ a taken, l = .arrive a taken → (k, e) = (a, .arrive taken) := by
  rcases step_cases h with ⟨taken, w, ws, rfl, hsent, rfl⟩ | ⟨rfl, rfl⟩ | ⟨x, hx, rfl⟩
  · refine ⟨hr.update (hr.path k) (hr.temp k), .arrive k taken, ?_, by rintro a b ⟨⟩; rfl⟩
    rw [system_update]
    cases taken with
    | true => exact .take k w ws hsent (hadmits w (by rw [hsent, List.head?_cons]; rfl))
    | false => exact .refuse k w ws hsent
  · -- The app is closed, and what it handed over stays handed over.
    refine ⟨hr.update Path.fits_launch (hr.temp k), .send k [], ?_, by rintro a b ⟨⟩⟩
    have hsame : Outbox.Step Write.apply {w | AppWrite w} admits r.system (.send k [])
        ⟨r.db, Function.update r.system.sent k (r.system.sent k ++ [])⟩ := .send k [] (by simp)
    rw [List.append_nil] at hsame
    rwa [system_update]
  · obtain ⟨htemp, hpath, hsent⟩ := note_eq uppercased r k e
    have hemits := handler_emits (fun _ hw => hw.1) hrules hview hP (hr.path k) hx
    obtain ⟨hpath', htemp', ws, hws, hsent'⟩ :=
      run_emits (s := r.note uppercased k e) hemits (htemp ▸ hr.temp k)
    refine ⟨hr.update hpath' htemp', .send k ws, ?_, by rintro a b ⟨⟩⟩
    rw [system_update, hsent', hsent]
    exact .send k ws hws

/-- Nothing has to be known about `UserDefaults` and the open screens. -/
theorem sound_step {admits : Database → Write → Prop} (hadmits : Admits admits r (k, e))
    (hr : r.Sound (.caching Set.univ) Set.univ) (h : step uppercased r (k, e) = some t) :
    t.Sound (.caching Set.univ) Set.univ ∧
      ∃ l, Outbox.Step Write.apply {w | AppWrite w} admits r.system l t.system ∧
        ∀ a taken, l = .arrive a taken → (k, e) = (a, .arrive taken) := by
  have hview : (r.view k).Within (.caching Set.univ) :=
    Database.within_caching.2 fun _ _ _ _ => trivial
  exact step_sound (fun _ _ _ => trivial) hview (fun _ => .inl trivial) hadmits hr h

/-- A device keeps what it reads, whatever the other devices do. -/
theorem temp_step {a : κ}
    (hrules : ∀ title content, (a, e) = (k, .event (.readMore title content)) →
      ruleText title content ∈ D.documents) (hview : (r.view k).Within D)
    (hpath : (r.station k).path.Fits Set.univ) (htemp : (r.station k).temp.Within D)
    (h : step uppercased r (a, e) = some t) : (t.station k).temp.Within D := by
  have hother {db : Database} {auth : Auth} {s : Station}
      (hs : a = k → s.temp.Within D) :
      ((⟨db, auth, Function.update r.station a s⟩ : Fleet κ).station k).temp.Within D := by
    simp only [Function.update_apply]
    split
    · next heq => exact hs heq.symm
    · exact htemp
  rcases step_cases h with ⟨taken, w, ws, rfl, hsent, rfl⟩ | ⟨rfl, rfl⟩ | ⟨x, hx, rfl⟩
  · exact hother fun heq => heq ▸ htemp
  · exact hother fun heq => heq ▸ htemp
  · refine hother ?_
    rintro rfl
    obtain ⟨hnote, -, -⟩ := note_eq uppercased r a e
    have hemits := handler_emits (fun _ hw => hw.1)
      (fun title content heq => hrules title content (congrArg (a, ·) heq)) hview
      (fun _ => .inl trivial) hpath hx
    exact (run_emits (s := r.note uppercased a e) hemits (hnote ▸ htemp)).2.1

/-! ## Runs -/

variable {admits : Database → Write → Prop} {db : Database} {auth : Auth}
  {es es' : List (κ × FleetEvent)}

/-- The devices are writers in front of the database, whatever `UserDefaults` and the paths hold. -/
theorem simulation (uppercased : String → String) (admits : Database → Write → Prop) :
    Simulation (Guarded (Admits admits) (Steps (step (κ := κ) uppercased)))
      (Outbox.Step Write.apply {w | AppWrite w} admits)
      fun r s => r.Sound (.caching Set.univ) Set.univ ∧ s = r.system := by
  rintro r ⟨k, e⟩ t s ⟨hr, rfl⟩ ⟨hadmits, hstep⟩
  obtain ⟨ht, l, hl, -⟩ := sound_step hadmits hr hstep
  exact ⟨[l], t.system, Run.single hl, ht, rfl⟩

theorem system_run
    (h : Run (Guarded (Admits admits) (Steps (step uppercased))) (start db auth) es r) :
    r.Sound (.caching Set.univ) Set.univ ∧ ∃ ls,
      Run (Outbox.Step Write.apply {w | AppWrite w} admits) ⟨db, fun _ => []⟩ ls r.system := by
  obtain ⟨ls, s, hs, hr, rfl⟩ := (simulation uppercased admits).run ⟨sound_start, rfl⟩ h
  exact ⟨hr, ls, hs⟩

/-- The database need not admit anything. -/
theorem admitted_run (h : Run (Steps (step uppercased)) r es t) :
    Run (Guarded (Admits fun _ _ => True) (Steps (step uppercased))) r es t :=
  h.mono fun _ _ _ hstep => ⟨admits_all _ _, hstep⟩

theorem sound_of_run (h : Run (Steps (step uppercased)) (start db auth) es r) :
    r.Sound (.caching Set.univ) Set.univ := (system_run (admitted_run h)).1

/-- What waits on the devices is written by the app. -/
theorem sent_of_run (h : Run (Steps (step uppercased)) (start db auth) es r) :
    r.system.Within {w | AppWrite w} := by
  obtain ⟨-, ls, hls⟩ := system_run (admitted_run h)
  exact Outbox.within_run (by simp [Outbox.System.Within]) hls

/-- An invariant that the writes of the app keep holds of the database in every run, and of what
the devices read. -/
theorem run_invariant (Inv : Database → Prop)
    (hwrite : ∀ db w, AppWrite w → Inv db → Inv (Write.apply db w)) (hdb : Inv db)
    (h : Run (Steps (step uppercased)) (start db auth) es r) : Inv r.db ∧ ∀ k, Inv (r.view k) := by
  obtain ⟨-, ls, hls⟩ := system_run (admitted_run h)
  have hwithin : Outbox.System.Within {w | AppWrite w}
      (⟨db, fun _ => []⟩ : Outbox.System κ Database Write) := by simp [Outbox.System.Within]
  exact Outbox.run_invariant (fun db w hw => hwrite db w hw) hwithin hdb hls

/-- A preorder that the writes of the app respect relates the database to itself later on. -/
theorem run_related {R : Database → Database → Prop} (hrefl : ∀ db, R db db)
    (htrans : ∀ db db' db'', R db db' → R db' db'' → R db db'')
    (hwrite : ∀ db w, AppWrite w → admits db w → R db (Write.apply db w))
    (h : Run (Guarded (Admits admits) (Steps (step uppercased))) (start db auth) es r)
    (h' : Run (Guarded (Admits admits) (Steps (step uppercased))) r es' t) : R r.db t.db := by
  obtain ⟨hr, ls, hls⟩ := system_run h
  obtain ⟨ls', s, hs, -, rfl⟩ := (simulation uppercased admits).run ⟨hr, rfl⟩ h'
  have hwithin := Outbox.within_run (by simp [Outbox.System.Within]) hls
  exact Outbox.run_related hrefl htrans (fun db w hw => hwrite db w hw) hwithin hs

end Fleet

namespace Sample

abbrev fleetStep : Fleet Bool → Bool × FleetEvent → Option (Fleet Bool) :=
  Fleet.step Swift.asciiUppercased

def users : Auth := (∅ : Auth).insert "a@b" "secret"

def newcomer (ID : String) : StudentForm where
  name := "An"
  birthday := "01-01-2000"
  gender := "Other"
  ID := ID
  address := "An address"
  email := "An e-mail"
  startedDay := "01-09-2017"

/-- A login whose loads are all answered, and the confirm of a new student. -/
def enrolment (k : Bool) (ID autoID : String) : List (Bool × FleetEvent) :=
  [.login "a@b" "secret", .event (.deliver 0), .event (.deliver 0), .event (.deliver 0),
    .event (.deliver 0), .event (.deliver 0), .event (.segue .addStudents),
    .event (.addStudent (newcomer ID) autoID)].map (k, ·)

/-- Two devices add a student each, and one of them is closed before its write arrives. -/
def twoDevices : Reached (Guarded (fun _ _ => True) (Steps fleetStep))
    (Fleet.start Database.empty users) :=
  Reached.start.takeAll (enrolment true "1712001" "S1" ++ enrolment false "1712002" "S2" ++
    [(true, .quit), (false, .arrive true), (true, .arrive true)]) (by decide +kernel)

end Sample

end LibraryManagement
