import LibraryManagement.Screens.Lists

/-!
# The rule screens

The rule tab lists the rules, each row with its own listener to the whole collection. The
button of a row keeps the texts the row shows under `"current_rule"`, from where
`EditInfoRuleViewController` takes the rule it edits; tapping the row itself keeps nothing.
-/

namespace LibraryManagement

open Handler

namespace RuleViewController

def numberOfRowsInSection : Handler ℕ := do return (← forced "ID_rules" Value.strings?).length

/-- A row is made before its listener is started. -/
def cellForRowAt : Handler Unit := do
  let _ ← forced "ID_rules" Value.strings?

/-- A delivery of the listener of a row: its title and content. -/
def cellDelivery (row : ℕ) (rules : Collection) : Handler (String × String) := do
  let document ← Traps.index rules.values row
  return (← Traps.cast (document.string? "title"), ← Traps.cast (document.string? "content"))

end RuleViewController

namespace ListRulesTableViewCell

/-- The button of a row that shows this title and this content. -/
def readMoreButton (title content : String) : Handler Unit :=
  set "current_rule" (some (.dictionary
    (Document.merge ∅ [("title", .string title), ("content", .string content)])))

end ListRulesTableViewCell

namespace EditInfoRuleViewController

/-- The two fields as they open. A text field set to `nil` is empty. -/
def viewDidLoad : Handler (String × String) := do
  let t ← forced "current_rule" Value.dictionary?
  return ((t.string? "title").getD "", (t.string? "content").getD "")

/-- The title cannot be edited. -/
def confirmButton (title content : String) : Handler Unit := do
  if content ≠ "" then
    Rule.saveOrUpdateRules { title := title, content := content }

end EditInfoRuleViewController

namespace AddRulesViewController

/-- The button's action: whether the alert that adds the rule is shown. -/
def confirmButton (title content : String) : Bool := title ≠ "" ∧ content ≠ ""

/-- OK on that alert stores the rule and, once the rules are loaded anew, reads their list. -/
def okAction (title content : String) : Handler Unit := do
  Rule.saveOrUpdateRules { title := title, content := content }
  let _ ← forced "ID_rules" Value.strings?

/-- The screen starts to load the rules when it goes away, and reads their list. -/
def viewWillDisappear : Handler Unit := do
  let _ ← forced "ID_rules" Value.strings?

end AddRulesViewController

end LibraryManagement
