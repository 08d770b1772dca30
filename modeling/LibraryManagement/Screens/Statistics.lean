import LibraryManagement.UserDefaults

/-!
# The statistics of the books and of the students

The one screen sums the quantities and the lent counts of all books when its query is
answered, the other counts the students with status `"1"`.
-/

namespace LibraryManagement

namespace StatisticBooksViewController

/-- The sums with one more book. -/
def add (sums : ℤ × ℤ) (document : Document) : Handler (ℤ × ℤ) := do
  let quantity := Swift.int? (← Traps.cast (document.string? "quantity"))
  let t ← Traps.cast (document.int? "check")
  let total ← Traps.checked (Swift.add? sums.1 (← Traps.unwrap quantity))
  let check ← Traps.checked (Swift.add? sums.2 t)
  return (total, check)

/-- The texts of the three labels. -/
def viewDidLoad (books : Collection) : Handler (String × String × String) := do
  let (total, check) ← books.toList.foldlM (fun sums document => add sums document.2) (0, 0)
  return (Swift.description total, Swift.description check,
    Swift.description (← Traps.checked (Swift.sub? total check)))

end StatisticBooksViewController

namespace StatisticStudentsViewController

/-- The number of active students with one more student. -/
def add (count : ℤ) (document : Document) : Handler ℤ := do
  if (← Traps.cast (document.string? "status")) = "1" then
    Traps.checked (Swift.add? count 1)
  else
    return count

/-- The texts of the three labels. -/
def viewDidLoad (students : Collection) : Handler (String × String × String) := do
  let total : ℤ := students.toList.length
  let count ← students.toList.foldlM (fun count document => add count document.2) 0
  return (Swift.description total, Swift.description count,
    Swift.description (← Traps.checked (Swift.sub? total count)))

/-- The same count, of the contents of the documents. -/
def availableStudents (data : List Document) : Handler ℤ :=
  data.foldlM (fun count i => do
    if (← Traps.cast (i.string? "status")) = "1" then
      Traps.checked (Swift.add? count 1)
    else
      return count) 0

end StatisticStudentsViewController

end LibraryManagement
