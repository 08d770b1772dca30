import LibraryManagement.CheckSlot

/-!
# What the borrow screen lends

A visit of the borrow screen selects books, one after the other; each selection starts a read
of the book, and the answers come in any order. The button is enabled from the start, by an
answer about a book that has a copy left, and disabled by an answer about one that has not.
It does not know which book an answer is about, and an answer without a book leaves it alone.

The state keeps what was answered since the last selection: the last answer about the
selected book (`Lending.latest`), and the last answer that brought a book (`Lending.found`).
-/

namespace LibraryManagement

open Handler Transition AddNewBorrowingCardViewController

/-- The client in a visit of the borrow screen. -/
structure Lending where
  client : Client
  screen : Screen
  /-- The ids of the reads that are not answered yet. -/
  reads : List String
  /-- The ID of the book that was selected last. -/
  selected : Option String
  latest : Option (Option Document)
  found : Option (String × Document)

/-- What the librarian does, what Firestore delivers, and what other clients do. -/
inductive LendingStep
  /-- The end of editing the book field. -/
  | pick (entry : String)
  /-- The answer to one of the unanswered reads. -/
  | answer (i : ℕ)
  | confirm (autoID : String)
  | change (db : Database)

namespace Lending

/-- The screen has opened. -/
def start (c : Client) (s : Screen) : Lending := ⟨c, s, [], none, none, none⟩

/-- The book `id` is selected, and nothing was answered since. -/
def select (r : Lending) (id : String) : Lending :=
  { r with reads := r.reads ++ [id], selected := some id, latest := none, found := none }

/-- What the answer about `id` is kept as. -/
def keep (r : Lending) (id : String) (document : Option Document) : Lending :=
  { r with
    latest := if r.selected = some id then some document else r.latest
    found := match document with
      | some document => some (id, document)
      | none => r.found }

/-- A generated id is one the collection does not have yet. No screen deletes a book. -/
def step (r : Lending) : LendingStep → Option Lending
  | .pick entry => (r.client.run (bookIDAction { r.screen with idBook := entry })).map
    fun ((s, asked), c) => match asked with
      | some id => { r with client := c, screen := s }.select id
      | none => { r with client := c, screen := s }
  | .answer i => r.reads[i]?.bind fun id =>
    (r.client.run (bookAnswer r.screen (r.client.db .books)[id]?)).map fun (s, c) =>
      { r with client := c, screen := s, reads := r.reads.eraseIdx i }.keep id
        (r.client.db .books)[id]?
  | .confirm autoID =>
    if r.screen.confirmEnabled = true ∧ autoID ∉ r.client.db .borrowCard then
      (r.client.run (confirmAction r.screen autoID)).map fun (_, c) => { r with client := c }
    else none
  | .change db =>
    if ∀ id ∈ (r.client.db .books).keys, id ∈ db .books then
      some { r with client := { r.client with db := db } }
    else none

/-! ## What is to hold -/

variable {r t : Lending} {s s' : Screen} {d d' : Device}

end Lending

/-! ## Every run -/

namespace Sample

/-- A book is selected, and nothing was answered yet. -/
def unanswered : Reached (Steps Lending.step) (Lending.start twoBooks openedScreen) :=
  Reached.start.take (.pick "B1-ONE") (by decide +kernel)

end Sample

end LibraryManagement
