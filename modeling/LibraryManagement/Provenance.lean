import LibraryManagement.Listings
import LibraryManagement.NormalNames
import LibraryManagement.Paths

/-!
# Where documents come from

The screens show and edit what is cached in `UserDefaults`. A device caches only documents that it
has read from the database at some point (`cached_of_run`), and the rule of a row as the row shows
it; nothing is made up or put together.

Every write stores with merge, so a document might end up with some fields of one librarian's edit
and some of another's. The confirms of a student and of a rule write all the fields, so a student
or a rule is always one confirm's as a whole (`whole_of_run`).
-/

namespace LibraryManagement

open Handler Transition

section

variable {κ : Type} [DecidableEq κ] {uppercased : String → String} {db : Database} {auth : Auth}
  {k a : κ} {r t : Fleet κ} {e : FleetEvent} {es es' : List (κ × FleetEvent)}

/-! ## Caches -/

namespace Fleet

/-- What the device has read in the run, and the rules whose buttons were pressed on it. -/
def seen (uppercased : String → String) (s : Fleet κ) (es : List (κ × FleetEvent)) (k : κ) :
    Set Document :=
  {d | (∃ title content, (k, .event (.readMore title content)) ∈ es ∧ d = ruleText title content) ∨
    Once (Steps (step uppercased)) s es fun t =>
      ∃ (c : CollectionName) (id : String), (t.view k c)[id]? = some d}

theorem seen_append (s : Fleet κ) : seen uppercased s es k ⊆ seen uppercased s (es ++ es') k :=
  fun _ hd => by
    rcases hd with ⟨title, content, hmem, rfl⟩ | honce
    · exact .inl ⟨title, content, List.mem_append_left _ hmem, rfl⟩
    · exact .inr (honce.later es')

end Fleet

theorem UserDefaults.Within.mono {D D' : Set Document} (hD : D ⊆ D') {temp : UserDefaults}
    (h : temp.Within (.caching D)) : temp.Within (.caching D') := by
  intro key v hv
  have hvalue := h key v hv
  cases v with
  | dictionary d => exact hD hvalue
  | dictionaries ds => exact fun d hd => hD (hvalue d hd)
  | strings xs => exact fun _ _ => trivial
  | _ => trivial

/-- Every document that a device keeps, alone or in a list, was read there before, or is a rule of
a row whose button was pressed there. -/
theorem cached_of_run (h : Run (Steps (Fleet.step uppercased)) (Fleet.start db auth) es r)
    {key : String} {v : Value} {d : Document} (hv : (r.station k).temp[key]? = some v)
    (hd : v.dictionary? = some d ∨ ∃ ds, v.dictionaries? = some ds ∧ d ∈ ds) :
    d ∈ Fleet.seen uppercased (Fleet.start db auth) es k := by
  have hinv : r.Sound (.caching Set.univ) Set.univ ∧
      (r.station k).temp.Within (.caching (Fleet.seen uppercased (Fleet.start db auth) es k)) := by
    clear hv hd
    induction h with
    | nil => exact ⟨Fleet.sound_start, fun key v hv => by simp [Fleet.start, Station.start] at hv⟩
    | @snoc es t e u hrun hstep ih =>
      obtain ⟨ht, htemp⟩ := ih
      refine ⟨(Fleet.sound_step (Fleet.admits_all t e) ht hstep).1, ?_⟩
      have hview (c : CollectionName) (id : String) (d : Document)
          (hd : (t.view k c)[id]? = some d) :
          d ∈ Fleet.seen uppercased (Fleet.start db auth) (es ++ [e]) k :=
        Fleet.seen_append _ (.inr (.now hrun ⟨c, id, hd⟩))
      have hrules (title content : String) (he : e = (k, .event (.readMore title content))) :
          ruleText title content ∈ Fleet.seen uppercased (Fleet.start db auth) (es ++ [e]) k :=
        Or.inl ⟨title, content, by simp [he], rfl⟩
      exact Fleet.temp_step hrules (Database.within_caching.2 hview) (ht.path k)
        (htemp.mono (Fleet.seen_append _)) hstep
  rcases hd with hd | ⟨ds, hds, hd⟩
  · exact Value.mem_of_dictionary? (hinv.2 key v hv) hd
  · exact Value.mem_of_dictionaries? (hinv.2 key v hv) hds d hd

/-! ## Documents that are stored as a whole -/

/-- Data with every field that the document may have replaces the document. -/
theorem Typed.merge_whole (hdb : Typed db) {c : CollectionName} {id : String}
    {data : List (String × FieldValue)}
    (hfields : ∀ field, ∀ v ∈ (c.shape id).allows field, field ∈ data.map Prod.fst) :
    Document.merge (((db c)[id]?).getD ∅) data = Document.merge ∅ data := by
  cases hold : (db c)[id]? with
  | none => rfl
  | some old =>
    refine Std.ExtTreeMap.insertMany_congr fun field hfield => ?_
    rw [Option.getD_some, Std.ExtTreeMap.getElem?_empty]
    cases hv : old[field]? with
    | none => rfl
    | some v => exact absurd (hfields field v ((hdb c id old hold).1 field v hv)) hfield

/-- The confirms of a student write every field. -/
theorem student_fields (s : Student) (status id field : String) :
    ∀ v ∈ (CollectionName.students.shape id).allows field,
      field ∈ (s.data status).map Prod.fst := by
  intro v hv
  by_contra hnot
  simp only [Student.data, List.map_cons, List.map_nil, List.mem_cons, not_or] at hnot
  simp [CollectionName.shape, CollectionName.shapeOf, hnot] at hv

/-- So do those of a rule. -/
theorem rule_fields (title content id field : String) :
    ∀ v ∈ (CollectionName.rules.shape id).allows field,
      field ∈ [("title", FieldValue.string title), ("content", .string content)].map Prod.fst := by
  intro v hv
  by_contra hnot
  simp only [List.map_cons, List.map_nil, List.mem_cons, not_or] at hnot
  simp [CollectionName.shape, CollectionName.shapeOf, hnot] at hv

/-- A write to the students or the rules leaves the other documents, and makes one of its data
alone. -/
theorem AppWrite.whole {w : Write} (hw : AppWrite w) (hdb : Typed db) {c : CollectionName}
    (hc : c = .students ∨ c = .rules) {id : String} {d : Document}
    (hd : (Write.apply db w c)[id]? = some d) :
    w.Creates c id ∧ d = Document.merge ∅ w.data ∨ (db c)[id]? = some d := by
  rw [Write.getElem?_apply] at hd
  split at hd
  · next hdocument =>
    refine .inl ?_
    have hroot : w.document.1.root = c := by
      rw [hdocument]
      rcases hc with rfl | rfl <;> rfl
    cases hw with
    | newStudent s a => exact ⟨Prod.mk.inj hdocument, (Option.some.inj hd).symm⟩
    | student s path hpath hstatus =>
      obtain rfl : .students = c := (CollectionName.root_document _ path).symm.trans hroot
      have hwhole := hdb.merge_whole (student_fields s (Swift.description s.status) id)
      exact ⟨Prod.mk.inj hdocument, (Option.some.inj hd).symm.trans hwhole⟩
    | rule r htitle hcontent =>
      obtain rfl : .rules = c := (CollectionName.root_document _ r.title).symm.trans hroot
      have hwhole := hdb.merge_whole (rule_fields r.title r.content id)
      exact ⟨Prod.mk.inj hdocument, (Option.some.inj hd).symm.trans hwhole⟩
    | newCard => rcases hc with rfl | rfl <;> cases hroot
    | _ =>
      -- The other writes stay below another collection.
      have hother := (CollectionName.root_document _ _).symm.trans hroot
      rcases hc with rfl | rfl <;> cases hother
  · exact .inr hd

/-- A write that arrived in the run made the document, of its data alone. -/
def Fleet.Written (uppercased : String → String) (s : Fleet κ) (es : List (κ × FleetEvent))
    (c : CollectionName) (id : String) (d : Document) : Prop :=
  ∃ es₁ es₂ k t w ws, es = es₁ ++ (k, .arrive true) :: es₂ ∧
    Run (Steps (Fleet.step uppercased)) s es₁ t ∧ (t.station k).sent = w :: ws ∧ AppWrite w ∧
      w.Creates c id ∧ d = Document.merge ∅ w.data

theorem Fleet.Written.later {s : Fleet κ} {c : CollectionName} {id : String} {d : Document}
    (h : Written uppercased s es c id d) (es' : List (κ × FleetEvent)) :
    Written uppercased s (es ++ es') c id d := by
  obtain ⟨es₁, es₂, k, t, w, ws, rfl, hrest⟩ := h
  exact ⟨es₁, es₂ ++ es', k, t, w, ws, by rw [List.append_assoc, List.cons_append], hrest⟩

/-- A stored student or rule was there from the start, or is what a single confirm has sent. -/
theorem whole_of_run (hdb : Typed db)
    (h : Run (Steps (Fleet.step uppercased)) (Fleet.start db auth) es r) {c : CollectionName}
    (hc : c = .students ∨ c = .rules) {id : String} {d : Document} (hd : (r.db c)[id]? = some d) :
    (db c)[id]? = some d ∨ Fleet.Written uppercased (Fleet.start db auth) es c id d := by
  induction h with
  | nil => exact .inl hd
  | @snoc es t e u hrun hstep ih =>
    -- Either the document was there before the step, or the step is the write's arrival.
    have hcases : (t.db c)[id]? = some d ∨
        Fleet.Written uppercased (Fleet.start db auth) (es ++ [e]) c id d := by
      rcases Fleet.step_cases hstep with ⟨taken, w, ws, he, hsent, rfl⟩ | ⟨-, rfl⟩ | ⟨x, -, rfl⟩
      · cases taken with
        | false => exact .inl hd
        | true =>
          have htyped := (Fleet.run_invariant Typed (fun _ _ hw => hw.typed) hdb hrun).1
          have hmem : w ∈ (t.station e.1).sent := hsent ▸ List.mem_cons_self
          have hw : AppWrite w := Fleet.sent_of_run hrun e.1 w hmem
          rcases hw.whole htyped hc hd with ⟨hcreates, hwhole⟩ | hold
          · exact .inr ⟨es, [], e.1, t, w, ws, by rw [← he], hrun, hsent, hw, hcreates, hwhole⟩
          · exact .inl hold
      · exact .inl hd
      · exact .inl hd
    rcases hcases with hold | hwritten
    · exact (ih hold).imp_right fun hwritten => hwritten.later [e]
    · exact .inr hwritten

end

namespace Sample

/-- A login, and the answer with the account. -/
def signedIn : Reached (Guarded (fun _ _ => True) (Steps fleetStep))
    (Fleet.start oneStudent users) :=
  Reached.start.takeAll [(true, .login "a@b" "secret"), (true, .event (.deliver 0))]
    (by decide +kernel)

end Sample

theorem cached_signedIn : ((Sample.oneStudent .accounts)["a@b"]?).getD ∅ ∈
    Fleet.seen Swift.asciiUppercased (Fleet.start Sample.oneStudent Sample.users)
      Sample.signedIn.labels true :=
  cached_of_run Sample.signedIn.run.of_guarded
    (show (Sample.signedIn.state.station true).temp["current_user"]? =
      some (.dictionary (((Sample.oneStudent .accounts)["a@b"]?).getD ∅)) by decide +kernel)
    (.inl rfl)

theorem whole_twoDevices : ∃ d, (Sample.twoDevices.state.db .students)["S1"]? = some d ∧
    ((Database.empty .students)["S1"]? = some d ∨ Fleet.Written Swift.asciiUppercased
      (Fleet.start Database.empty Sample.users) Sample.twoDevices.labels .students "S1" d) := by
  obtain ⟨d, hd⟩ := Option.isSome_iff_exists.1
    (show (Sample.twoDevices.state.db .students)["S1"]?.isSome by decide +kernel)
  exact ⟨d, hd, whole_of_run typed_empty Sample.twoDevices.run.of_guarded (.inl rfl) hd⟩

end LibraryManagement
