import LibraryManagement.Screens.Statistics

/-!
# What the statistics of the students show

The loop of the screen and its helper count the students with status `"1"`, and the screen
takes every other student for disabled (`withStatus`).
-/

namespace LibraryManagement

/-- The number of students with this status. -/
def withStatus (status : String) (students : Collection) : ℕ :=
  students.countValues fun document => document.Carries "status" status

namespace StatisticStudentsViewController

variable {students : Collection} {d : Device}

/-- A student is counted if the status is `"1"`. -/
theorem add_eq {document : Document} {count : ℤ} (hstatus : ∃ status, document.Carries "status" status)
    (hint : Swift.InInt (count + 1)) :
    add count document d = .ok (count + if document.Carries "status" "1" then 1 else 0) d := by
  obtain ⟨status, hstatus⟩ := hstatus
  have hcast : document.string? "status" = some status := hstatus
  unfold add
  rw [hcast, Traps.cast_some, pure_bind]
  by_cases hactive : status = "1"
  · rw [if_pos hactive, if_pos (hactive ▸ hstatus)]
    exact Traps.checked_eq_ok.2 ⟨Swift.inRange?_eq_some.2 ⟨rfl, hint⟩, rfl⟩
  · have hcarries : ¬ document.Carries "status" "1" := by
      intro hother
      exact hactive (Option.some.inj (hcast.symm.trans hother))
    rw [if_neg hactive, if_neg hcarries, add_zero]
    rfl

/-- The helper's loop is the screen's. -/
theorem availableStudents_eq (data : List Document) :
    availableStudents data = data.foldlM add 0 := rfl

/-- The count of the active students among these documents. -/
theorem foldlM_add {data : List Document}
    (hstatus : ∀ document ∈ data, ∃ status, document.Carries "status" status)
    (hlength : Swift.InInt data.length) :
    data.foldlM add 0 d = .ok (data.countP fun document : Document => document.Carries "status" "1") d := by
  let active (document : Document) : Bool := document.Carries "status" "1"
  have hcount : data.foldlM add 0 d = .ok (0 + data.countP active) d := by
    refine Swift.foldlM_count ?_ (by decide) (by simpa using hlength.2)
    intro n document hdocument hint
    simpa [active] using add_eq (d := d) (hstatus document hdocument) hint
  simpa [active] using hcount

theorem countP_data (status : String) (students : Collection) :
    ((students.toList.map Prod.snd).countP fun document : Document => document.Carries "status" status)
      = withStatus status students := by
  rw [List.countP_map]
  rfl

/-- The helper returns the number of students with status `"1"`. -/
theorem availableStudents_eq_count
    (hstatus : ∀ (id : String) (document : Document), students[id]? = some document →
      ∃ status, document.Carries "status" status) (hsize : Swift.InInt students.size) :
    availableStudents (students.toList.map Prod.snd) d = .ok (withStatus "1" students) d := by
  have hdata : ∀ document ∈ students.toList.map Prod.snd,
      ∃ status, document.Carries "status" status := by
    intro document hdocument
    obtain ⟨⟨id, document⟩, hentry, rfl⟩ := List.mem_map.1 hdocument
    exact hstatus id document (Std.ExtTreeMap.mem_toList_iff_getElem?_eq_some.1 hentry)
  rw [availableStudents_eq, foldlM_add hdata, countP_data]
  rwa [List.length_map, Std.ExtTreeMap.length_toList]

theorem withStatus_le_size (status : String) (students : Collection) :
    withStatus status students ≤ students.size := by
  rw [← Std.ExtTreeMap.length_toList]
  exact List.countP_le_length

/-- The labels show the number of students, of those with status `"1"`, and of the others. -/
theorem viewDidLoad_eq
    (hstatus : ∀ (id : String) (document : Document), students[id]? = some document →
      ∃ status, document.Carries "status" status) (hsize : Swift.InInt students.size) :
    viewDidLoad students d = .ok (Swift.description students.size,
      Swift.description (withStatus "1" students),
      Swift.description (students.size - withStatus "1" students)) d := by
  -- Both loops make the same steps.
  have hloop := availableStudents_eq_count (d := d) hstatus hsize
  rw [availableStudents_eq, List.foldlM_map] at hloop
  have hint : Swift.InInt (students.size - withStatus "1" students : ℤ) := by
    have hle := withStatus_le_size "1" students
    have hhigh := hsize.2
    exact ⟨by omega, by omega⟩
  simp only [viewDidLoad, Std.ExtTreeMap.length_toList]
  rw [Traps.bind_apply, hloop]
  exact Traps.bind_eq_ok.2 ⟨_, d, Traps.checked_eq_ok.2 ⟨Swift.inRange?_eq_some.2 ⟨rfl, hint⟩, rfl⟩, rfl⟩

end StatisticStudentsViewController

end LibraryManagement
