import LibraryManagement.BookForms
import LibraryManagement.BookNames
import LibraryManagement.BookPicker
import LibraryManagement.BookStatistics
import LibraryManagement.Browsing
import LibraryManagement.Caching
import LibraryManagement.CardFilter
import LibraryManagement.CardLifeCycle
import LibraryManagement.CheckSlot
import LibraryManagement.DevicePaths
import LibraryManagement.EditScreens
import LibraryManagement.Growth
import LibraryManagement.Homecoming
import LibraryManagement.Integrity
import LibraryManagement.Interleaving
import LibraryManagement.Interruption
import LibraryManagement.Lending
import LibraryManagement.LentTotals
import LibraryManagement.NormalNames
import LibraryManagement.Passwords
import LibraryManagement.PickerEntries
import LibraryManagement.PlusButton
import LibraryManagement.Privileges
import LibraryManagement.ProfileEdits
import LibraryManagement.Provenance
import LibraryManagement.Refinement
import LibraryManagement.Registration
import LibraryManagement.ReusedCells
import LibraryManagement.RuleEdits
import LibraryManagement.Sessions
import LibraryManagement.Stock
import LibraryManagement.StudentCards
import LibraryManagement.StudentIDs
import LibraryManagement.StudentPress
import LibraryManagement.StudentStatistics
import LibraryManagement.TableRows
import LibraryManagement.TypedDatabase
