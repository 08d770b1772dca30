import LibraryManagement.TypedDatabase

/-!
# Lists that are kept in `UserDefaults`

A device keeps the ids of the students, the books and a student's cards and the titles of the rules
in lists, from one screen to the next and from one session to the next. They may be as old as the
installation. But the app deletes nothing, so what they name is still there (`listed_of_run`), as
long as none of the device's own writes is refused: only such a write takes back what the device has
already seen.
-/

namespace LibraryManagement

open Handler Transition

/-- What a list is a list of. -/
def listCollection : String → Option CollectionName
  | "ID_students" => some .students
  | "ID_books" => some .books
  | "ID_rules" => some .rules
  | "listID" => some .borrowCard
  | _ => none

/-- A listed text names a document that is there: a rule by a title, all others by their id. -/
def Database.Names (db : Database) : CollectionName → String → Prop
  | .rules, title => ∃ id ∈ db .rules, CollectionName.rules.id? title = some id
  | c, id => id ∈ db c

/-- The lists name documents of the database. -/
def Holdings.stored (db : Database) : Holdings where
  documents := Set.univ
  listed key := {text | ∀ c ∈ listCollection key, db.Names c text}

/-! ## Ids -/

/-- Every id is still there. -/
def Retains (db db' : Database) : Prop := ∀ (c : CollectionName), ∀ id ∈ db c, id ∈ db' c

/-- The write stores a document under this id, if there is none. -/
def Write.Creates (c : CollectionName) (id : String) : Write → Prop
  | .setData c' id' _ => c' = c ∧ id' = id
  | .addDocument c' id' _ => c' = c ∧ id' = id
  | .updateData _ _ _ => False

variable {db db' : Database} {c : CollectionName} {id : String} {w : Write}

theorem mem_applyTo {docs : Collection} :
    id ∈ w.applyTo docs ↔ id ∈ docs ∨ w.Creates w.collection id := by
  cases w with
  | setData c a data =>
    simp [Write.applyTo, Write.Creates, Write.collection, Collection.override, or_comm]
  | addDocument c a data => simp [Write.applyTo, Write.Creates, Write.collection, or_comm]
  | updateData c a data =>
    simp only [Write.applyTo, Write.Creates, or_false]
    split
    · next hmem =>
      rw [Collection.override, Std.ExtTreeMap.mem_insert, Std.LawfulEqCmp.compare_eq_iff_eq]
      refine ⟨?_, .inr⟩
      rintro (rfl | hid)
      · exact hmem
      · exact hid
    · exact Iff.rfl

theorem mem_apply : id ∈ Write.apply db w c ↔ id ∈ db c ∨ w.Creates c id := by
  rw [Write.apply_apply]
  by_cases hc : c = w.collection
  · rw [if_pos hc, mem_applyTo, hc]
  · have hnot : ¬ w.Creates c id := by
      cases w <;> simp_all [Write.Creates, Write.collection, eq_comm]
    simp [hc, hnot]

theorem retains_apply (db : Database) (w : Write) : Retains db (Write.apply db w) :=
  fun _ _ hid => mem_apply.2 (.inl hid)

theorem Retains.apply (h : Retains db db') (w : Write) :
    Retains (Write.apply db w) (Write.apply db' w) :=
  fun c id hid => mem_apply.2 ((mem_apply.1 hid).imp_left (h c id))

/-! ## Devices -/

/-- The loads list what is stored. -/
theorem within_stored (hdb : Typed db) : db.Within (.stored db) where
  documents _ _ _ _ := trivial
  students id hid c hc := Option.some.inj hc ▸ hid
  books id hid c hc := Option.some.inj hc ▸ hid
  cards id hid c hc := Option.some.inj hc ▸ hid
  rules id d title hd htitle c hc := by
    obtain ⟨⟨title', htitle', -, hid⟩, -⟩ := hdb.rule hd
    obtain rfl := Option.some.inj (htitle.symm.trans htitle')
    exact Option.some.inj hc ▸ ⟨id, Std.ExtTreeMap.mem_of_getElem? hd, hid⟩
  entries _ _ _ _ _ c hc := by cases hc

theorem Retains.names (h : Retains db db') {text : String} (hname : db.Names c text) :
    db'.Names c text := by
  unfold Database.Names at hname ⊢
  split at hname
  · obtain ⟨id, hid, htitle⟩ := hname
    exact ⟨id, h _ id hid, htitle⟩
  · exact h _ _ hname

theorem Retains.within (h : Retains db db') {temp : UserDefaults}
    (htemp : temp.Within (.stored db)) : temp.Within (.stored db') := by
  intro key v hv
  have hvalue := htemp key v hv
  cases v with
  | strings xs => exact fun x hx c hc => h.names (hvalue x hx c hc)
  | dictionary d => trivial
  | dictionaries ds => exact fun _ _ => trivial
  | _ => trivial

namespace Fleet

variable {κ : Type} [DecidableEq κ] {uppercased : String → String} {auth : Auth} {k a : κ}
  {r t : Fleet κ} {e : FleetEvent} {es : List (κ × FleetEvent)}

/-- None of the device's writes is refused. -/
def Accepts (k : κ) (_ : Fleet κ) (e : κ × FleetEvent) : Prop := e ≠ (k, .arrive false)

instance (k : κ) (r : Fleet κ) : DecidablePred (Accepts k r) := fun e => match e with
  | (a, .arrive false) => decidable_of_iff (a ≠ k) (by simp [Accepts])
  | (_, .arrive true) => isTrue (by simp [Accepts])
  | (_, .login _ _) => isTrue (by simp [Accepts])
  | (_, .logout) => isTrue (by simp [Accepts])
  | (_, .forget) => isTrue (by simp [Accepts])
  | (_, .resetPassword _) => isTrue (by simp [Accepts])
  | (_, .toLogin) => isTrue (by simp [Accepts])
  | (_, .editAccount _ _ _ _) => isTrue (by simp [Accepts])
  | (_, .event _) => isTrue (by simp [Accepts])
  | (_, .delivery _ _) => isTrue (by simp [Accepts])
  | (_, .register _) => isTrue (by simp [Accepts])
  | (_, .registered _ _ _ _) => isTrue (by simp [Accepts])
  | (_, .quit) => isTrue (by simp [Accepts])

/-- What the device sees stays. -/
theorem retains_step (haccepts : Accepts k r (a, e))
    (hr : r.Sound (.caching Set.univ) Set.univ) (h : step uppercased r (a, e) = some t) :
    t.Sound (.caching Set.univ) Set.univ ∧ Retains (r.view k) (t.view k) := by
  obtain ⟨ht, l, hl, harrive⟩ := sound_step (admits_all r (a, e)) hr h
  refine ⟨ht, Outbox.view_step (R := Retains) (fun _ _ _ hid => hid) (fun _ _ w hab => hab.apply w)
    hl ?_ ?_ ?_⟩
  · rintro rfl
    exact haccepts (harrive k false rfl)
  · rintro ws -
    exact List.foldlRecOn ws Write.apply (fun _ _ hid => hid) fun b hb w _ c id hid =>
      retains_apply b w c id (hb c id hid)
  · exact fun _ _ _ w _ => retains_apply r.db w

end Fleet

/-! ## Every run -/

section

variable {κ : Type} [DecidableEq κ] {uppercased : String → String} {db : Database} {auth : Auth}
  {k : κ} {es : List (κ × FleetEvent)} {r : Fleet κ}

/-- Whatever lists a device keeps, and however old they are, what they list names a document that
is there, and no row of the student list traps on its document. -/
theorem listed_of_run (hdb : Typed db)
    (h : Run (Guarded (Fleet.Accepts k) (Steps (Fleet.step uppercased))) (Fleet.start db auth)
      es r) :
    (∀ (key : String) (c : CollectionName) (ids : List String), listCollection key = some c →
      (r.station k).temp[key]?.bind Value.strings? = some ids →
        ∀ id ∈ ids, (r.view k).Names c id) ∧
    ∀ (row : ℕ) (id : String) (d d' : Device), d.temp = (r.station k).temp →
      ManageStudentsViewController.cellForRowAt row d = .ok id d' → ∃ d'',
        ManageStudentsViewController.cellDelivery id (r.view k .students)[id]? d' = .ok () d'' := by
  have hinv : r.Sound (.caching Set.univ) Set.univ ∧
      (r.station k).temp.Within (.stored (r.view k)) := by
    induction h with
    | nil => exact ⟨Fleet.sound_start, fun key v hv => by simp [Fleet.start, Station.start] at hv⟩
    | snoc hrun hstep ih =>
      obtain ⟨hr, htemp⟩ := ih
      have htyped := (Fleet.run_invariant Typed (fun _ _ hw => hw.typed) hdb hrun.of_guarded).2 k
      obtain ⟨ht, hretains⟩ := Fleet.retains_step hstep.1 hr hstep.2
      exact ⟨ht, hretains.within (Fleet.temp_step (fun _ _ _ => trivial) (within_stored htyped)
        (hr.path k) htemp hstep.2)⟩
  have hlisted (key : String) (c : CollectionName) (ids : List String)
      (hkey : listCollection key = some c)
      (hids : (r.station k).temp[key]?.bind Value.strings? = some ids) :
      ∀ id ∈ ids, (r.view k).Names c id := by
    obtain ⟨v, hv, hstrings⟩ := Option.bind_eq_some_iff.1 hids
    exact fun id hid => Value.mem_of_strings? (hinv.2 key v hv) hstrings id hid c hkey
  refine ⟨hlisted, fun row id d d' hd hrow => ?_⟩
  unfold ManageStudentsViewController.cellForRowAt at hrow
  obtain ⟨ids, d₁, hforced, hrow⟩ := Traps.bind_eq_ok.1 hrow
  obtain ⟨a, d₂, hindex, hpath⟩ := Traps.bind_eq_ok.1 hrow
  obtain ⟨hids, rfl⟩ := forced_eq_ok.1 hforced
  obtain ⟨ha, rfl⟩ := Traps.index_eq_ok.1 hindex
  obtain ⟨-, rfl, rfl⟩ := document_eq_ok.1 hpath
  rw [hd] at hids
  -- The list may be old, but its student is still there.
  have hstored : a ∈ r.view k .students :=
    hlisted "ID_students" .students ids rfl hids a (List.mem_of_getElem? ha)
  obtain ⟨document, hdocument⟩ := Std.ExtTreeMap.mem_iff_exists_getElem?.1 hstored
  have htyped : Typed (r.view k) :=
    (Fleet.run_invariant Typed (fun _ _ hw => hw.typed) hdb h.of_guarded).2 k
  exact htyped.studentReaders.row a document hdocument d

namespace Sample

/-- The second device lists the student that the first one has added, and is closed with another
one on the way. -/
def oldList : Reached (Guarded (Fleet.Accepts false) (Steps fleetStep))
    (Fleet.start Database.empty users) :=
  Reached.start.takeAll (enrolment true "1712001" "S1" ++ [(true, .arrive true)] ++
    enrolment false "1712002" "S2" ++ [(true, .quit)]) (by decide +kernel)

end Sample

theorem listed_oldList :
    (Sample.oldList.state.station false).temp["ID_students"]? = some (.strings ["S1"]) ∧
      ∀ id ∈ ["S1"], id ∈ Sample.oldList.state.view false .students :=
  ⟨by decide +kernel, (listed_of_run typed_empty Sample.oldList.run).1 "ID_students" .students
    ["S1"] rfl (by decide +kernel)⟩

end

end LibraryManagement
