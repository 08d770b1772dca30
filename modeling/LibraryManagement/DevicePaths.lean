import LibraryManagement.Fleet
import LibraryManagement.Lib.Simulation
import LibraryManagement.Paths

/-!
# A device is one client on a path

On its own a device is the client of `App`, whose database changes at any time: an event of its
path is an event of the client, and the writes of the other devices, the arrival and the refusal
of an own write and the answers outside the path are changes (`client_of_run`). What holds along
every path of one client then holds on each device of a fleet until its app is closed
(`entries_of_device`).
-/

namespace LibraryManagement

open Handler Transition

/-! ## Handlers outside the path -/

section

variable {temp : UserDefaults}

/-- A write leaves `UserDefaults` as it is. -/
theorem Handler.Spec.write_temp {w : Write} :
    Spec (fun d => d.temp = temp) (Handler.write w) fun _ d => d.temp = temp := fun _ hd => hd

theorem AddStudentsViewController.listenerDelivery_temp {student : Student} {id autoID : String} :
    ∀ {snapshot : Option Document}, Spec (fun d => d.temp = temp)
      (listenerDelivery student id autoID snapshot) fun _ d => d.temp = temp
  | none => .pure fun _ hd => hd
  | some data => by
    refine Spec.cast.read fun name _ => ?_
    split
    · exact Spec.document.read fun _ _ => .write_temp
    · refine Spec.cast.read fun ID _ => ?_
      split
      · exact .pure fun _ hd => hd
      · exact .write_temp

theorem Registering.completion_temp {a : Registering} {created : Bool} :
    Spec (fun d => d.temp = temp) (a.completion created) fun _ d => d.temp = temp := by
  have hcreated : Spec (fun d => d.temp = temp)
      (RegisterViewController.createUserCompletion created a.shown) fun _ d => d.temp = temp := by
    unfold RegisterViewController.createUserCompletion
    split
    · exact Spec.document.read fun _ _ => .write_temp
    · exact .pure fun _ hd => hd
  refine hcreated.bind fun _ => ?_
  split
  · exact Spec.document.read fun _ _ => .write_temp
  · exact .pure fun _ hd => hd

end

/-! ## The client of a device -/

namespace Fleet

variable {κ : Type} (uppercased : String → String) (r : Fleet κ) (k : κ)

/-- The client on a path that a device is. -/
def client : App := ⟨⟨(r.station k).temp, r.view k⟩, (r.station k).path⟩

/-- The trap an event of the device ends in. -/
def trap (e : FleetEvent) : Option Trap :=
  (r.handler uppercased k e).bind fun h => match h ⟨(r.station k).temp, []⟩ with
    | .ok _ _ => none
    | .error e _ => some e

/-- The events of the path meet a condition of one client, and the app is not closed. -/
def Given (given : App → Event → Prop) (r : Fleet κ) : κ × FleetEvent → Prop
  | (a, e) => a = k → e ≠ .quit ∧ r.trap uppercased k e = none ∧
    ∀ e' ∈ r.pathEvent k e, given (r.client k) e'

/-- What an event of the devices is for the client that one of them is: an event of its path, or
a change of the database. -/
def Shows : κ × FleetEvent → Event → Prop
  | (a, e), e' => a = k ∧ e.onPath = some e' ∨ (a = k → e.onPath = none) ∧ ∃ db, e' = .change db

variable {uppercased r k} {t : Fleet κ} {e : FleetEvent} {x : Handler Path}
  {given : App → Event → Prop}

/-- A handler is that of an event of the path, or leaves the path and `UserDefaults` alone. -/
theorem handler_onPath (hx : r.handler uppercased k e = some x) :
    (∃ e', r.pathEvent k e = some e' ∧
      (r.client k).path.handler uppercased (r.client k).client.db e' = some x) ∨
    e.onPath = none ∧ Spec (fun d => d.temp = (r.station k).temp) x fun p d =>
      p = (r.station k).path ∧ d.temp = (r.station k).temp := by
  rcases handler_cases hx with ⟨rfl, rfl | ⟨email, rfl⟩ | rfl⟩ | ⟨rfl, -, form, rfl⟩ |
    ⟨i, autoID, form, id, rfl, -, rfl⟩ |
    ⟨i, accepted, shown, confirmed, answered, rfl, -, rfl⟩ | hpath
  · exact .inr ⟨rfl, .pure fun _ hd => ⟨rfl, hd⟩⟩
  · exact .inr ⟨rfl, .pure fun _ hd => ⟨rfl, hd⟩⟩
  · exact .inr ⟨rfl, .pure fun _ hd => ⟨rfl, hd⟩⟩
  · exact .inr ⟨rfl, .pure fun _ hd => ⟨rfl, hd⟩⟩
  · exact .inr ⟨rfl, AddStudentsViewController.listenerDelivery_temp.bind fun _ =>
      .pure fun _ hd => ⟨rfl, hd⟩⟩
  · exact .inr ⟨rfl, Registering.completion_temp.bind fun _ => .pure fun _ hd => ⟨rfl, hd⟩⟩
  · exact .inl hpath

/-- A client whose database is another one has seen a change. -/
theorem client_change {s : App} (htemp : s.client.temp = (r.client k).client.temp)
    (hpath : s.path = (r.client k).path) :
    App.step uppercased (r.client k) (.change s.client.db) = some s := by
  obtain ⟨⟨temp, db⟩, path⟩ := s
  obtain rfl := htemp
  obtain rfl := hpath
  rfl

/-- An event whose handler completes. -/
theorem exists_ok_of_trap (hx : r.handler uppercased k e = some x)
    (htrap : r.trap uppercased k e = none) : ∃ p d, x ⟨(r.station k).temp, []⟩ = .ok p d := by
  rw [trap, hx, Option.bind_some] at htrap
  split at htrap
  · next p d hok => exact ⟨p, d, hok⟩
  · cases htrap

/-- An event of the path is a step of the client. -/
theorem client_event {e' : Event} {p : Path} {d : Device} {s : App}
    (hx : (r.client k).path.handler uppercased (r.client k).client.db e' = some x)
    (hok : x ⟨(r.station k).temp, []⟩ = .ok p d)
    (hs : s = ⟨⟨d.temp, Write.applyAll (r.view k) d.writes⟩, p⟩) :
    App.step uppercased (r.client k) e' = some s := by
  unfold App.step
  split
  · cases hx
  · rw [hx, Option.bind_some]
    exact Client.map_run_eq_some.2 ⟨p, d, hok, hs.symm⟩

variable [DecidableEq κ]

/-- A step of the devices is one of the client, or a change for it. -/
theorem client_step {a : κ} (hchange : ∀ s db, given s (.change db))
    (hgiven : Given uppercased k given r (a, e)) (h : step uppercased r (a, e) = some t) :
    ∃ e', Shows k (a, e) e' ∧
      Guarded given (Steps (App.step uppercased)) (r.client k) e' (t.client k) := by
  have hother (honPath : a = k → e.onPath = none) (htemp : (t.station k).temp = (r.station k).temp)
      (hpath : (t.station k).path = (r.station k).path) :
      ∃ e', Shows k (a, e) e' ∧
        Guarded given (Steps (App.step uppercased)) (r.client k) e' (t.client k) :=
    ⟨_, .inr ⟨honPath, _, rfl⟩, hchange _ _, client_change htemp hpath⟩
  by_cases ha : a = k
  · obtain rfl := ha
    obtain ⟨hquit, htrap, hgiven⟩ := hgiven rfl
    rcases step_cases h with ⟨taken, w, ws, rfl, hsent, rfl⟩ | ⟨rfl, -⟩ | ⟨x, hx, rfl⟩
    · refine hother (fun _ => rfl) ?_ ?_ <;> rw [station_update]
    · exact absurd rfl hquit
    · obtain ⟨p, d, hok⟩ := exists_ok_of_trap hx htrap
      obtain ⟨htemp, -, hsent⟩ := note_eq uppercased r a e
      have hrun : (r.note uppercased a e).run x = { r.note uppercased a e with
          temp := d.temp, sent := (r.station a).sent ++ d.writes, path := p } := by
        rw [← hsent]
        exact Station.run_of_ok (htemp.symm ▸ hok)
      rw [hrun] at hother ⊢
      rcases handler_onPath hx with ⟨e', he', hx'⟩ | ⟨honPath, hspec⟩
      · refine ⟨e', .inl ⟨rfl, onPath_of_pathEvent he'⟩, hgiven e' he', client_event hx' hok ?_⟩
        simp only [client, view, Function.update_self, Write.applyAll, List.foldl_append]
      · obtain ⟨rfl, hsame⟩ := hspec.ok rfl hok
        refine hother (fun _ => honPath) ?_ ?_ <;> rw [station_update]
        exact hsame
  · have hsame := station_of_ne ha h
    refine hother (fun heq => absurd heq ha) ?_ ?_ <;> rw [hsame]

/-- A device whose app is not closed runs as one client. -/
theorem lockstep_client (uppercased : String → String) (k : κ)
    (hchange : ∀ s db, given s (.change db)) :
    Lockstep (Guarded (Given uppercased k given) (Steps (step uppercased)))
      (Guarded given (Steps (App.step uppercased))) (Shows k) fun r s => s = r.client k := by
  rintro r ⟨a, e⟩ t s rfl ⟨hgiven, hstep⟩
  obtain ⟨e', hshows, hclient⟩ := client_step hchange hgiven hstep
  exact ⟨e', _, hshows, hclient, rfl⟩

end Fleet

/-! ## Every run -/

section

variable {κ : Type} [DecidableEq κ] {uppercased : String → String} {db : Database} {auth : Auth}
  {es : List (κ × FleetEvent)} {r : Fleet κ} {k : κ} {e : FleetEvent}

/-- Until its app is closed, each device is on a path of one client whose database changes: the
events of its path are those of the client, and all other events of the devices are changes. -/
theorem client_of_run {given : App → Event → Prop} (hchange : ∀ s db, given s (.change db))
    (h : Run (Guarded (Fleet.Given uppercased k given) (Steps (Fleet.step uppercased)))
      (Fleet.start db auth) es r) :
    ∃ es', List.Forall₂ (Fleet.Shows k) es es' ∧
      Run (Guarded given (Steps (App.step uppercased))) (App.start db) es' (r.client k) := by
  obtain ⟨es', s, hshows, hs, rfl⟩ := (Fleet.lockstep_client uppercased k hchange).run rfl h
  exact ⟨es', hshows, hs⟩

/-- No event of a device forces an entry that is missing or of another type, whatever the other
devices do, as long as the events of its path meet the condition. -/
theorem entries_of_device
    (h : Run (Guarded (Fleet.Given uppercased k App.Given) (Steps (Fleet.step uppercased)))
      (Fleet.start db auth) es r) (hgiven : ∀ e' ∈ r.pathEvent k e, (r.client k).Given e') :
    r.trap uppercased k e ≠ some .missingEntry := by
  obtain ⟨es', s, -, hs, rfl⟩ :=
    (Fleet.lockstep_client uppercased k fun _ _ => ⟨nofun, trivial⟩).run rfl h
  have hsound := hs.invariant (fun r : App => r.path.Sound ⟨r.client.temp, []⟩)
    (App.sound_start db) fun _ _ _ hsound hstep => App.sound_step hsound hstep.1 hstep.2
  intro htrap
  obtain ⟨x, hx, hres⟩ := Option.bind_eq_some_iff.1 htrap
  rcases Fleet.handler_onPath hx with ⟨e', he', hx'⟩ | ⟨-, hspec⟩
  · have hnone : (r.client k).NoMissing uppercased e' :=
      App.noMissing_of_sound hsound (hgiven e' he')
    refine hnone ?_
    rw [App.trap, hx', Option.bind_some]
    exact hres
  · split at hres
    · cases hres
    · next e' d herror =>
      obtain rfl := Option.some.inj hres
      exact hspec.error rfl herror rfl

end

namespace Sample

abbrev OneOfTwo : Type :=
  Reached (Guarded (Fleet.Given Swift.asciiUppercased true App.Given) (Steps fleetStep))
    (Fleet.start oneStudent users)

/-- An event of the path of the first device. -/
def event (r : OneOfTwo) (e : Event) (he : r.state.pathEvent true (.event e) = some e)
    (htrap : r.state.trap Swift.asciiUppercased true (.event e) = none)
    (hgiven : (r.state.client true).Given e)
    (h : (fleetStep r.state (true, .event e)).isSome) : OneOfTwo :=
  r.takeGuarded (true, .event e) (fun _ => ⟨by rintro ⟨⟩, htrap, fun e' he' => by
    obtain rfl := Option.some.inj (he.symm.trans he')
    exact hgiven⟩) h

/-- The load that waits longest is answered. -/
def delivery (r : OneOfTwo) (he : r.state.pathEvent true (.event (.deliver 0)) = some (.deliver 0))
    (htrap : r.state.trap Swift.asciiUppercased true (.event (.deliver 0)) = none)
    (hplain : ∀ l ∈ (r.state.station true).path.pending[0]?, l.Plain (r.state.view true))
    (h : (fleetStep r.state (true, .event (.deliver 0))).isSome) : OneOfTwo :=
  event r (.deliver 0) he htrap ⟨nofun, hplain⟩ h

/-- Both devices log in, and the second one is closed. -/
def bothLogIn : OneOfTwo :=
  let first : OneOfTwo := Reached.start.takeGuarded (true, .login "a@b" "secret")
    (fun _ => ⟨by rintro ⟨⟩, by decide +kernel, fun e' he' => by
      obtain rfl := Option.some.inj he'
      exact ⟨by decide +kernel, trivial⟩⟩) (by decide +kernel)
  let second : OneOfTwo := first.takeGuarded (false, .login "a@b" "secret") (by rintro ⟨⟩)
    (by decide +kernel)
  second.takeGuarded (false, .quit) (by rintro ⟨⟩) (by decide +kernel)

/-- Every load of the first device is answered. -/
def bothAnswered : OneOfTwo :=
  let r := delivery bothLogIn rfl (by decide +kernel) (by decide +kernel) (by decide +kernel)
  let r := delivery r rfl (by decide +kernel) (by decide +kernel) (by decide +kernel)
  let r := delivery r rfl (by decide +kernel) (by decide +kernel) (by decide +kernel)
  let r := delivery r rfl (by decide +kernel) (by decide +kernel) (by decide +kernel)
  delivery r rfl (by decide +kernel) (by decide +kernel) (by decide +kernel)

/-- The list of the students is opened on the first device. -/
def listOpened : OneOfTwo :=
  event bothAnswered (.segue .manageStudents) rfl (by decide +kernel)
    ⟨by decide +kernel, by rintro ⟨⟩⟩ (by decide +kernel)

/-- The row of the student is shown there. -/
def rowShown : OneOfTwo :=
  let row := event listOpened (.render 0) rfl (by decide +kernel)
    ⟨by rintro ⟨⟩, show _ = _ → _ by decide +kernel⟩ (by decide +kernel)
  delivery row rfl (by decide +kernel) (by decide +kernel) (by decide +kernel)

end Sample

theorem client_rowShown : ∃ es', List.Forall₂ (Fleet.Shows true) Sample.rowShown.labels es' ∧
    Run (Guarded App.Given (Steps (App.step Swift.asciiUppercased))) (App.start Sample.oneStudent)
      es' (Sample.rowShown.state.client true) :=
  client_of_run (fun _ _ => ⟨nofun, trivial⟩) Sample.rowShown.run

theorem entries_rowShown : (Sample.rowShown.state.client true).path.shown = ["S1"] ∧
    Sample.rowShown.state.trap Swift.asciiUppercased true (.event (.tap 0))
      ≠ some .missingEntry := by
  refine ⟨by decide +kernel, entries_of_device Sample.rowShown.run fun e' he' => ?_⟩
  obtain rfl : .tap 0 = e' := Option.some.inj he'
  exact ⟨by decide +kernel, by decide +kernel, by decide +kernel⟩

end LibraryManagement
