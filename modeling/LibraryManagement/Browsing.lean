import LibraryManagement.Fleet

/-!
# Devices that write nothing

Lists, rows, forms, statistics and the navigation between them only read: a device writes on the
few events of `FleetEvent.writes`, and without one of them it hands nothing over
(`silent_of_run`). Each of these events writes to the collections that it is about, so a collection
is changed by its own confirms only (`untouched_of_run`). A device that was started and on which
nobody logs in can only ask Auth for reset mails (`signedOut_of_run`).
-/

namespace LibraryManagement

open Handler Transition

/-- Somebody logs in. -/
def FleetEvent.logsIn : FleetEvent → Bool
  | .login _ _ => true
  | _ => false

/-- What a device can do before a login: its reset-password screen opens, Auth is asked for a mail
there, and a login screen opens again. -/
def FleetEvent.beforeLogin : FleetEvent → Bool
  | .forget => true
  | .resetPassword _ => true
  | .toLogin => true
  | .arrive _ => true
  | .quit => true
  | _ => false

/-- Nobody has logged in since the device was started. -/
structure Station.SignedOut (s : Station) : Prop where
  path : s.path = Path.launch
  user : s.user = none
  waiting : s.waiting = []
  asked : s.asked = []

theorem Station.signedOut_restart (s : Station) : s.restart.SignedOut := ⟨rfl, rfl, rfl, rfl⟩

/-- On the login screen of a path there is nothing but the login. -/
theorem Path.handler_launch {uppercased : String → String} {db : Database} {e : Event}
    (he : ∀ email, e ≠ .login email) : launch.handler uppercased db e = none := by
  cases e with
  | login email => exact absurd rfl (he email)
  | logout => simp [handler, here, front, launch]
  | _ => rfl

namespace Fleet

variable {κ : Type} [DecidableEq κ] {uppercased : String → String} {r t : Fleet κ} {k : κ}
  {e : FleetEvent}

/-- What waits on the device after an event: what waited before, without what has arrived, and
what the event has handed over. -/
theorem sent_step (hr : r.Sound (.caching Set.univ) Set.univ)
    (h : step uppercased r (k, e) = some t) :
    (t.station k).sent <:+ (r.station k).sent ∨ ∃ ws, (∀ w ∈ ws, w ∈ AppWrite.Below e.collections) ∧
      (t.station k).sent = (r.station k).sent ++ ws := by
  rcases step_cases h with ⟨taken, w, ws, rfl, hsent, rfl⟩ | ⟨rfl, rfl⟩ | ⟨x, hx, rfl⟩
  · rw [station_update, hsent]
    exact .inl (List.suffix_cons w ws)
  · rw [station_update]
    exact .inl List.suffix_rfl
  · have hemits : Emits (.caching Set.univ) (AppWrite.Below e.collections) x (Path.Fits Set.univ) :=
      handler_emits subset_rfl (fun _ _ _ => trivial)
        (Database.within_caching.2 fun _ _ _ _ => trivial) (fun _ => .inl trivial) (hr.path k) hx
    obtain ⟨hnote, -, hsent⟩ := note_eq uppercased r k e
    obtain ⟨-, -, ws, hws, hsent'⟩ :=
      run_emits (s := r.note uppercased k e) hemits (hnote ▸ hr.temp k)
    rw [station_update]
    exact .inr ⟨ws, hws, hsent' ▸ hsent ▸ rfl⟩

/-- A device hands writes over on a writing event only. -/
theorem silent_step (hr : r.Sound (.caching Set.univ) Set.univ) (he : e.writes = false)
    (h : step uppercased r (k, e) = some t) : (t.station k).sent <:+ (r.station k).sent := by
  rcases sent_step hr h with hsuffix | ⟨ws, hws, hsent⟩
  · exact hsuffix
  · have hnone : e.collections = [] := by simpa [FleetEvent.writes] using he
    obtain rfl : ws = [] := by
      refine List.eq_nil_iff_forall_not_mem.2 fun w hw => ?_
      have hroot := (hws w hw).2
      rw [hnone] at hroot
      cases hroot
    rw [hsent, List.append_nil]

/-- No write to the collection, or below it, waits on a device. -/
def Clear (c : CollectionName) (r : Fleet κ) : Prop :=
  ∀ k, ∀ w ∈ (r.station k).sent, w.document.1.root ≠ c

/-- An event that does not write to a collection leaves it alone. -/
theorem untouched_step {c : CollectionName} (hr : r.Sound (.caching Set.univ) Set.univ)
    (hclear : r.Clear c) (he : c ∉ e.collections) (h : step uppercased r (k, e) = some t) :
    t.Clear c ∧ ∀ c', c'.root = c → t.db c' = r.db c' := by
  constructor
  · intro a w hw
    by_cases ha : k = a
    · subst ha
      rcases sent_step hr h with hsuffix | ⟨ws, hws, hsent⟩
      · exact hclear k w (hsuffix.subset hw)
      · rw [hsent] at hw
        rcases List.mem_append.1 hw with hold | hnew
        · exact hclear k w hold
        · rintro rfl
          exact he (hws w hnew).2
    · rw [station_of_ne ha h] at hw
      exact hclear a w hw
  · intro c' hc'
    rcases step_cases h with ⟨taken, w, ws, rfl, hsent, rfl⟩ | ⟨rfl, rfl⟩ | ⟨x, hx, rfl⟩
    · cases taken with
      | false => rfl
      | true =>
        have hw := hclear k w (hsent ▸ List.mem_cons_self)
        refine Write.apply_of_ne r.db fun heq => hw ?_
        rw [Write.document_fst, ← heq, hc']
    · rfl
    · rfl

omit [DecidableEq κ] in
/-- Before a login no handler touches the device. -/
theorem handler_signedOut {x : Handler Path} (hk : (r.station k).SignedOut) (he : e.logsIn = false)
    (hx : r.handler uppercased k e = some x) :
    e.beforeLogin = true ∧ x = pure (r.station k).path := by
  have hlaunch (e' : Event) (he' : ∀ email, e' ≠ .login email) :
      (r.station k).path.handler uppercased (r.view k) e' = none := by
    rw [hk.path]
    exact Path.handler_launch he'
  rcases handler_cases hx with ⟨rfl, rfl | ⟨email, rfl⟩ | rfl⟩ | ⟨-, hhere, -⟩ |
    ⟨i, autoID, form, id, -, hwaiting, -⟩ |
    ⟨i, accepted, shown, confirmed, answered, -, hanswered, -⟩ | ⟨e', he', hx⟩
  · exact ⟨rfl, rfl⟩
  · exact ⟨rfl, rfl⟩
  · exact ⟨rfl, rfl⟩
  · rw [hk.path] at hhere
    cases hhere
  · rw [hk.waiting] at hwaiting
    cases hwaiting
  · rw [registering, hk.asked] at hanswered
    cases hanswered
  · rw [hlaunch e' ?_] at hx
    · cases hx
    rintro email rfl
    unfold pathEvent at he'
    split at he'
    · cases he
    · cases he'
    · cases he'
    · split at he'
      · cases he'
      · cases he'
      · cases he'
      · split at he' <;> cases he'
      · next hne _ _ _ => exact hne _ (Option.some.inj he')
    · cases he'

omit [DecidableEq κ] in
theorem note_signedOut (hk : (r.station k).SignedOut) (he : e.beforeLogin = true) :
    (r.note uppercased k e).SignedOut := by
  cases e with
  | toLogin => exact { hk with user := rfl }
  | forget => exact ⟨hk.path, hk.user, hk.waiting, hk.asked⟩
  | resetPassword email => exact ⟨hk.path, hk.user, hk.waiting, hk.asked⟩
  | arrive taken => exact hk
  | quit => exact hk
  | _ => cases he

/-- A device that was started stays before the login until somebody logs in. -/
theorem signedOut_step (hk : (r.station k).SignedOut) (he : e.logsIn = false)
    (h : step uppercased r (k, e) = some t) :
    e.beforeLogin = true ∧ (t.station k).SignedOut ∧ (t.station k).temp = (r.station k).temp ∧
      (t.station k).sent <:+ (r.station k).sent := by
  rcases step_cases h with ⟨taken, w, ws, rfl, hsent, rfl⟩ | ⟨rfl, rfl⟩ | ⟨x, hx, rfl⟩
  · rw [station_update, hsent]
    exact ⟨rfl, ⟨hk.path, hk.user, hk.waiting, hk.asked⟩, rfl, List.suffix_cons w ws⟩
  · rw [station_update]
    exact ⟨rfl, Station.signedOut_restart _, rfl, List.suffix_rfl⟩
  · obtain ⟨hbefore, rfl⟩ := handler_signedOut hk he hx
    obtain ⟨htemp, hpath, hsent⟩ := note_eq uppercased r k e
    have hnote : (r.note uppercased k e).SignedOut := note_signedOut hk hbefore
    have hok : (pure (r.station k).path : Handler Path) ⟨(r.note uppercased k e).temp, []⟩ =
        .ok (r.station k).path ⟨(r.note uppercased k e).temp, []⟩ := rfl
    rw [station_update, Station.run_of_ok hok]
    refine ⟨hbefore, ⟨hk.path, hnote.user, hnote.waiting, hnote.asked⟩, htemp, ?_⟩
    rw [List.append_nil, hsent]

end Fleet

/-! ## Every run -/

section

variable {κ : Type} [DecidableEq κ] {uppercased : String → String} {db : Database} {auth : Auth}
  {es es' : List (κ × FleetEvent)} {r t : Fleet κ} {k : κ}

/-- As long as a device only browses it hands no write over: what still waits there was handed
over before. -/
theorem silent_of_run (h : Run (Steps (Fleet.step uppercased)) (Fleet.start db auth) es r)
    (h' : Run (Guarded (fun _ e => e.1 = k → e.2.writes = false) (Steps (Fleet.step uppercased)))
      r es' t) : (t.station k).sent <:+ (r.station k).sent := by
  have hr := Fleet.sound_of_run h
  have hboth : t.Sound (.caching Set.univ) Set.univ ∧
      (t.station k).sent <:+ (r.station k).sent := by
    refine h'.invariant (fun t : Fleet κ => t.Sound (.caching Set.univ) Set.univ ∧
      (t.station k).sent <:+ (r.station k).sent) ⟨hr, List.suffix_rfl⟩ ?_
    rintro t ⟨a, e⟩ u ⟨ht, hsent⟩ ⟨he, hstep⟩
    refine ⟨(Fleet.sound_step (Fleet.admits_all t _) ht hstep).1, ?_⟩
    by_cases ha : a = k
    · obtain rfl := ha
      exact (Fleet.silent_step ht (he rfl) hstep).trans hsent
    · rwa [Fleet.station_of_ne ha hstep]
  exact hboth.2

namespace Sample

/-- The device of the new student looks at the list, and its write arrives. -/
def looking : Reached (Guarded (fun _ e => e.1 = false → e.2.writes = false) (Steps fleetStep))
    twoDevices.state :=
  Reached.start.takeAll [(false, .event .back), (false, .event (.deliver 0)),
    (false, .event (.deliver 0)), (false, .event (.deliver 0)), (false, .event (.deliver 0)),
    (false, .event (.segue .manageStudents)), (false, .event (.render 0)), (true, .quit)]
    (by decide +kernel)

/-- One device adds a student. On the other one somebody asks for a reset mail. -/
def mailAsked : Reached (Guarded (fun _ e => e.1 = true → e.2.logsIn = false) (Steps fleetStep))
    (Fleet.start Database.empty users) :=
  Reached.start.takeAll (enrolment false "1712002" "S2" ++ [(true, .quit), (true, .forget),
    (true, .resetPassword "a@b"), (false, .arrive true)]) (by decide +kernel)

/-- A student, and nothing else. -/
def studentListed : Database := Write.apply Database.empty
  (.addDocument .students "S1" (Student.data { name := "AN", ID := "1712001" } "1"))

/-- A rule is added on one device. -/
def ruleAdded : Reached (Guarded (fun _ e => CollectionName.students ∉ e.2.collections)
    (Steps fleetStep)) (Fleet.start studentListed users) :=
  Reached.start.takeAll ([.login "a@b" "secret", .event (.deliver 0), .event (.deliver 0),
    .event (.deliver 0), .event (.select .rules), .event (.segue .addRules),
    .event (.addRule "Fees" "None"), .arrive true].map (true, ·)) (by decide +kernel)

end Sample

theorem silent_looking :
    (Sample.looking.state.station false).sent <:+ (Sample.twoDevices.state.station false).sent :=
  silent_of_run Sample.twoDevices.run.of_guarded Sample.looking.run

/-- As long as no device has an event that writes to a collection, and no write to it waits, the
collection and what is below it stay as they are, in the database and for every device. -/
theorem untouched_of_run {c : CollectionName}
    (h : Run (Steps (Fleet.step uppercased)) (Fleet.start db auth) es r) (hclear : r.Clear c)
    (h' : Run (Guarded (fun _ e => c ∉ e.2.collections) (Steps (Fleet.step uppercased))) r es' t)
    {c' : CollectionName} (hc' : c'.root = c) :
    t.db c' = r.db c' ∧ ∀ k, t.view k c' = r.db c' := by
  have hinv : t.Sound (.caching Set.univ) Set.univ ∧ t.Clear c ∧ t.db c' = r.db c' := by
    refine h'.invariant (fun t : Fleet κ => t.Sound (.caching Set.univ) Set.univ ∧ t.Clear c ∧
      t.db c' = r.db c') ⟨Fleet.sound_of_run h, hclear, rfl⟩ ?_
    rintro t ⟨k, e⟩ u ⟨ht, hclear, hsame⟩ ⟨he, hstep⟩
    obtain ⟨hclear', hsame'⟩ := Fleet.untouched_step ht hclear he hstep
    exact ⟨(Fleet.sound_step (Fleet.admits_all t _) ht hstep).1, hclear',
      (hsame' c' hc').trans hsame⟩
  obtain ⟨-, hclear, hsame⟩ := hinv
  refine ⟨hsame, fun k => ?_⟩
  -- A device's own writes go elsewhere.
  refine List.foldlRecOn (motive := fun db => db c' = r.db c') (t.station k).sent Write.apply hsame
    fun db hdb w hw => ?_
  refine (Write.apply_of_ne db fun heq => hclear k w hw ?_).trans hdb
  rw [Write.document_fst, ← heq, hc']

theorem untouched_ruleAdded : "S1" ∈ Sample.studentListed .students ∧
    "Fees" ∈ Sample.ruleAdded.state.db .rules ∧
      Sample.ruleAdded.state.db .students = Sample.studentListed .students ∧
        ∀ k, Sample.ruleAdded.state.view k .students = Sample.studentListed .students :=
  ⟨by decide +kernel, by decide +kernel,
    untouched_of_run (r := Fleet.start Sample.studentListed Sample.users) .nil
      (fun _ _ hw => by simp [Fleet.start, Station.start] at hw) Sample.ruleAdded.run rfl⟩

/-- As long as nobody logs in on a device that was started, the reset-password screen and its
mails are all there is: nobody is signed in, no screen of a tab opens, nothing is cached and no
write is handed over. -/
theorem signedOut_of_run (hk : (r.station k).SignedOut)
    (h : Run (Guarded (fun _ e => e.1 = k → e.2.logsIn = false) (Steps (Fleet.step uppercased)))
      r es t) :
    (∀ e ∈ es, e.1 = k → e.2.beforeLogin = true) ∧ (t.station k).SignedOut ∧
      (t.station k).temp = (r.station k).temp ∧
        (t.station k).sent <:+ (r.station k).sent := by
  induction h with
  | nil => exact ⟨by simp, hk, rfl, List.suffix_rfl⟩
  | @snoc es t e u _ hstep ih =>
    obtain ⟨hbefore, ht, htemp, hsent⟩ := ih
    obtain ⟨a, e⟩ := e
    obtain ⟨he, hstep⟩ := hstep
    by_cases ha : a = k
    · obtain rfl := ha
      obtain ⟨hbefore', hu, htemp', hsent'⟩ := Fleet.signedOut_step ht (he rfl) hstep
      refine ⟨fun e he => ?_, hu, htemp'.trans htemp, hsent'.trans hsent⟩
      rcases List.mem_append.1 he with hold | hlast
      · exact hbefore e hold
      · rw [List.mem_singleton.1 hlast]
        exact fun _ => hbefore'
    · rw [Fleet.station_of_ne ha hstep]
      refine ⟨fun e he => ?_, ht, htemp, hsent⟩
      rcases List.mem_append.1 he with hold | hlast
      · exact hbefore e hold
      · rw [List.mem_singleton.1 hlast]
        exact fun heq => absurd heq ha

theorem signedOut_mailAsked : (Sample.mailAsked.state.station true).mails = ["a@b"] ∧
    (Sample.mailAsked.state.station true).SignedOut ∧
      (Sample.mailAsked.state.station true).temp = ∅ :=
  have h := signedOut_of_run (k := true) (r := Fleet.start Database.empty Sample.users)
    ⟨rfl, rfl, rfl, rfl⟩ Sample.mailAsked.run
  ⟨by decide +kernel, h.2.1, h.2.2.1⟩

end

end LibraryManagement
