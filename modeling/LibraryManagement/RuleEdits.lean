import LibraryManagement.Lib.Cells
import LibraryManagement.Lib.Transition
import LibraryManagement.Screens.Rules
import LibraryManagement.VisitsTheorems

/-!
# From a row of the rules to the edit screen

Both ways from a rule's row lead to the same screen, which edits whatever `"current_rule"`
holds. Only the button of the row sets that entry, to the texts that the row's cell shows. These
are the storyboard's until the row's listener is delivered a collection.

A rule is saved in the document that its title names, and none is ever deleted.
-/

namespace LibraryManagement

open Handler Transition

/-- The texts of the rule in a row of the collection. -/
def ruleTexts (rules : Collection) (row : ℕ) : Option (String × String) := do
  let document ← rules.values[row]?
  let title ← document.string? "title"
  let content ← document.string? "content"
  return (title, content)

/-- The edit-rule screen, with the history of the row that it was opened from. -/
structure RuleEdit where
  title : String
  content : String
  row : ℕ
  /-- What the row's listener had been delivered last. -/
  delivered : Option Collection

/-- The client, with the table of the rules and the edit screen over it. -/
structure RuleTab where
  client : Client
  table : Cells.Table (String × String) ℕ Collection
  edit : Option RuleEdit

inductive RuleEvent
  /-- A row comes on the screen in a cell, a row leaves the screen. -/
  | render (row cell : ℕ)
  | hide (row : ℕ)
  /-- The listener of a rendering is delivered its next snapshot, of which some may be left out. -/
  | deliver (n skipped : ℕ)
  /-- Some client saves a rule. -/
  | save (rule : Rule)
  /-- A tap on a row, or on its button. -/
  | tap (row : ℕ)
  | readMore (row : ℕ)
  /-- The confirm of the edit screen, when its content reads so. -/
  | confirm (content : String)
  | cancel

namespace RuleTab

/-- A cell as the storyboard has it. -/
def prototype : String × String :=
  ("Title", "Lorem ipsum dolor sit er elit lamet, consectetaur cillium adipisicing pecu, sed do " ++
    "eiusmod tempor incididunt ut labore et dolore magna aliqua. Ut enim ad minim veniam, quis " ++
    "nostrud exercitation ullamco laboris nisi ut aliquip ex ea commodo consequat. Duis aute " ++
    "irure dolor in reprehenderit in voluptate velit esse cillum dolore eu fugiat nulla " ++
    "pariatur. Excepteur sint occaecat cupidatat non proident, sunt in culpa qui officia " ++
    "deserunt mollit anim id est laborum. Nam liber te conscient to factor tum poen legum " ++
    "odioque civiuda.")

/-- No rule was saved, and no row is on the screen. -/
def start (c : Client) : RuleTab :=
  ⟨⟨c.temp, Function.update c.db .rules ∅⟩, .blank fun _ => prototype, none⟩

abbrev rules (r : RuleTab) : Collection := r.client.db .rules

/-- The client moves on, and the listeners are notified if the rules changed. -/
def move (r : RuleTab) (c : Client) : RuleTab :=
  { r with client := c, table := r.table.change (fun _ => r.rules) fun _ => c.db .rules }

/-- The edit screen opens from a row, after `before`. -/
def openEdit (r : RuleTab) (row : ℕ) (l : Cells.Rendering ℕ Collection) (before : Handler Unit) :
    Option RuleTab :=
  if r.edit.isSome then none
  else (r.client.run do
      before
      EditInfoRuleViewController.viewDidLoad).map fun ((title, content), c) =>
    { r with client := c, edit := some ⟨title, content, row, l.delivered⟩ }

def step (r : RuleTab) : RuleEvent → Option RuleTab
  | .render row cell =>
    if r.table.Free row cell then
      (r.client.run RuleViewController.cellForRowAt).map fun (_, c) =>
        { r with client := c, table := r.table.render row cell row r.rules }
    else none
  | .hide row => some { r with table := r.table.hide row }
  | .deliver n skipped => r.table.renderings[n]?.bind fun l => match l.pending.drop skipped with
    | [] => none
    | x :: pending => (r.client.run (RuleViewController.cellDelivery l.source x)).map
      fun (texts, c) => { r with client := c, table := r.table.receive n l x pending texts }
  | .save rule => (r.client.perform rule.saveOrUpdateRules).map r.move
  | .tap row => (r.table.lookup row).bind fun l => r.openEdit row l (return ())
  | .readMore row => (r.table.lookup row).bind fun l =>
    let (title, content) := r.table.shows l.cell
    r.openEdit row l (ListRulesTableViewCell.readMoreButton title content)
  | .confirm content => r.edit.bind fun e =>
    (r.client.perform (EditInfoRuleViewController.confirmButton e.title content)).map r.move
  | .cancel => some { r with edit := none }

/-! ## What is to hold -/

/-- The screen was opened from the row of a rule that was delivered, and shows its texts. -/
def Fits (e : RuleEdit) : Prop :=
  ∃ rules ∈ e.delivered, ruleTexts rules e.row = some (e.title, e.content)

instance (e : RuleEdit) : Decidable (Fits e) := inferInstanceAs (Decidable (∃ rules ∈ e.delivered, _))

/-- The stored rule of this title gets another content, and nothing else changes. -/
def ChangesContent (db db' : Database) (title content : String) : Prop :=
  (∃ document ∈ (db .rules)[title]?, document.Carries "title" title ∧
    (db' .rules)[title]? = some (document.insert "content" (.string content))) ∧
  ∀ c id, ¬ (c = .rules ∧ id = title) → (db' c)[id]? = (db c)[id]?

/-- A screen that opens shows the rule of the row as it was delivered to the row. A confirm changes
the content of that rule, and nothing else. -/
def Follows (r t : RuleTab) : RuleEvent → Prop
  | .tap row => ∃ e ∈ t.edit, e.row = row ∧ Fits e
  | .readMore row => ∃ e ∈ t.edit, e.row = row ∧ Fits e
  | .confirm content => ∃ e ∈ r.edit, Fits e ∧
    (content = "" ∧ t.client.db = r.client.db ∨
      content ≠ "" ∧ ChangesContent r.client.db t.client.db e.title content)
  | _ => True

/-- The condition on an event. A listener whose row has left the cell changes nothing in it, once
the row that has the cell now was delivered something. A rule that is saved has its document's id
as its title. A screen opens when the listener of its row was delivered something; without the
button, the entry holds the rule of the row by then. -/
def KeepsRules (r : RuleTab) : RuleEvent → Prop
  | .deliver n skipped => ∀ l ∈ r.table.renderings[n]?, ∀ rules ∈ (l.pending.drop skipped).head?,
    ∀ texts ∈ ruleTexts rules l.source, r.table.Steady n l texts
  | .save rule => ∀ id ∈ CollectionName.rules.id? rule.title, id = rule.title
  | .tap row => ∀ l ∈ r.table.lookup row, ∃ rules ∈ l.delivered,
    ∃ rule ∈ r.client.temp["current_rule"]?.bind Value.dictionary?,
      ruleTexts rules row = some ((rule.string? "title").getD "", (rule.string? "content").getD "")
  | .readMore row => ∀ l ∈ r.table.lookup row, l.delivered.isSome
  | _ => True

instance (r : RuleTab) : DecidablePred r.KeepsRules
  | .deliver n _ => inferInstanceAs (Decidable (∀ l ∈ r.table.renderings[n]?, _))
  | .tap row => inferInstanceAs (Decidable (∀ l ∈ r.table.lookup row, _))
  | .readMore row => inferInstanceAs (Decidable (∀ l ∈ r.table.lookup row, _))
  | .render _ _ => inferInstanceAs (Decidable True)
  | .hide _ => inferInstanceAs (Decidable True)
  | .save rule => inferInstanceAs (Decidable (∀ id ∈ CollectionName.rules.id? rule.title, _))
  | .confirm _ => inferInstanceAs (Decidable True)
  | .cancel => inferInstanceAs (Decidable True)

end RuleTab

/-! ## Saved rules -/

/-- A rule as it is stored. -/
def Rule.document (title content : String) : Document :=
  Document.merge ∅ [("title", .string title), ("content", .string content)]

/-- Every rule is stored under its title. -/
def Titled (rules : Collection) : Prop :=
  ∀ id document, rules[id]? = some document →
    IsDocumentID id ∧ ∃ content, document = Rule.document id content

variable {rules : Collection} {title content content' : String} {document : Document} {row : ℕ}
  {d d' : Device}

theorem Rule.carries_document (title content : String) :
    (Rule.document title content).Carries "title" title ∧
      (Rule.document title content).Carries "content" content := by
  simp [Rule.document, Document.Carries, Document.merge_cons]

/-- Saving a rule again replaces its content. -/
theorem Rule.merge_document :
    (Rule.document title content).merge [("title", .string title), ("content", .string content')] =
      Rule.document title content' := by
  refine Std.ExtTreeMap.ext_getElem? fun a => ?_
  simp only [Rule.document, Document.merge_cons, Document.merge_nil, Document.getElem?_insert]
  split
  · rfl
  · split <;> rfl

theorem Rule.insert_document :
    (Rule.document title content).insert "content" (.string content') =
      Rule.document title content' := by
  refine Std.ExtTreeMap.ext_getElem? fun a => ?_
  simp only [Rule.document, Document.merge_cons, Document.merge_nil, Document.getElem?_insert]
  split <;> rfl

theorem titled_empty : Titled ∅ := by
  intro id document hdocument
  simp at hdocument

/-- What a saved rule makes of its document. -/
theorem Titled.getElem?_override (h : Titled rules) :
    (rules.override title [("title", .string title), ("content", .string content)])[title]? =
      some (Rule.document title content) := by
  rw [Collection.getElem?_override_self]
  cases hold : rules[title]? with
  | none => rfl
  | some document =>
    obtain ⟨-, content₀, rfl⟩ := h title document hold
    rw [Option.getD_some, Rule.merge_document]

theorem Titled.override (h : Titled rules) (htitle : IsDocumentID title) :
    Titled (rules.override title [("title", .string title), ("content", .string content)]) := by
  have hself : (rules.override title [("title", .string title), ("content", .string content)])[title]?
      = some (Rule.document title content) := h.getElem?_override
  rw [Collection.getElem?_override_self] at hself
  exact Std.ExtTreeMap.forall_getElem?_insert ⟨htitle, content, Option.some.inj hself⟩
    fun id document _ hdocument => h id document hdocument

/-- A row of the collection is the rule that is stored under the row's title. -/
theorem Titled.of_ruleTexts (h : Titled rules) (htexts : ruleTexts rules row = some (title, content)) :
    rules[title]? = some (Rule.document title content) := by
  simp only [ruleTexts, Option.bind_eq_bind, Option.bind_eq_some_iff, Option.pure_def,
    Option.some.injEq, Prod.mk.injEq] at htexts
  obtain ⟨document, hrow, title', htitle, content', hcontent, rfl, rfl⟩ := htexts
  obtain ⟨id, hid⟩ := Std.ExtTreeMap.exists_getElem?_of_mem_values (List.mem_of_getElem? hrow)
  obtain ⟨-, content₀, rfl⟩ := h id document hid
  have hsame := Rule.carries_document id content₀
  obtain rfl := Option.some.inj (htitle.symm.trans hsame.1)
  obtain rfl := Option.some.inj (hcontent.symm.trans hsame.2)
  exact hid

/-! ## What the handlers do -/

@[simp] theorem Rule.saveOrUpdateRules_eq_ok {rule : Rule} {u : Unit} :
    rule.saveOrUpdateRules d = .ok u d' ↔ IsDocumentPath rule.title ∧
      { d with writes := d.writes ++ [.setAt .rules rule.title
        [("title", .string rule.title), ("content", .string rule.content)]] } = d' := by
  simp only [saveOrUpdateRules, setData, Traps.bind_eq_ok, document_eq_ok, write_eq_ok, and_assoc,
    exists_and_left, exists_eq_left']

/-- A row shows the texts at its index. -/
@[simp] theorem RuleViewController.cellDelivery_eq_ok {texts : String × String} :
    RuleViewController.cellDelivery row rules d = .ok texts d' ↔
      ruleTexts rules row = some texts ∧ d = d' := by
  simp only [cellDelivery, ruleTexts, Traps.bind_eq_ok, Traps.index_eq_ok, Traps.cast_eq_ok,
    Traps.pure_eq_ok, Option.bind_eq_bind, Option.bind_eq_some_iff, Option.pure_def,
    Option.some.injEq, and_assoc, exists_and_left, exists_eq_left']
  simp only [← exists_and_right, and_assoc]

@[simp] theorem EditInfoRuleViewController.viewDidLoad_eq_ok {texts : String × String} :
    EditInfoRuleViewController.viewDidLoad d = .ok texts d' ↔
      ∃ rule, d.temp["current_rule"]?.bind Value.dictionary? = some rule ∧
        ((rule.string? "title").getD "", (rule.string? "content").getD "") = texts ∧ d = d' := by
  simp only [viewDidLoad, Traps.bind_eq_ok, forced_eq_ok, Traps.pure_eq_ok, and_assoc,
    exists_and_left, exists_eq_left']

/-- A confirm without a content changes nothing. -/
theorem EditInfoRuleViewController.confirmButton_ok {u : Unit}
    (h : EditInfoRuleViewController.confirmButton title content d = .ok u d') :
    content = "" ∧ d' = d ∨ content ≠ "" ∧ IsDocumentPath title ∧
      d' = { d with writes := d.writes ++ [.setAt .rules title
        [("title", .string title), ("content", .string content)]] } := by
  unfold confirmButton at h
  split at h
  · next hne =>
    obtain ⟨hvalid, rfl⟩ := Rule.saveOrUpdateRules_eq_ok.1 h
    exact .inr ⟨hne, hvalid, rfl⟩
  · next hempty =>
    obtain ⟨-, rfl⟩ := Traps.pure_eq_ok.1 h
    exact .inl ⟨not_not.1 hempty, rfl⟩

/-! ## One event -/

namespace RuleTab

variable {r t : RuleTab} {e : RuleEvent}

/-- The cell of a row shows the rule. -/
def Displays (row : ℕ) (rules : Collection) (texts : String × String) : Prop :=
  ruleTexts rules row = some texts

/-- What the listeners have left is some of the rules, under their titles. -/
def Older (rules older : Collection) : Prop := Titled older ∧ ∀ id ∈ older, id ∈ rules

/-- What holds while the events keep to the condition. -/
structure Sound (r : RuleTab) : Prop where
  table : r.table.Sound (fun _ => r.rules) (fun row source => source = row) Displays
  titled : Titled r.rules
  older : r.table.Every (Older r.rules)
  edit : ∀ e ∈ r.edit, Fits e ∧ ∃ content, r.rules[e.title]? = some (Rule.document e.title content)

theorem sound_start (c : Client) : (start c).Sound where
  table := Cells.Table.sound_blank _
  titled := by
    rw [rules, start]
    simpa using titled_empty
  older := Cells.Table.every_blank _
  edit := by rintro e ⟨⟩

theorem sound_render {row cell : ℕ} (hr : r.Sound) (h : r.step (.render row cell) = some t) :
    t.Sound := by
  simp only [step] at h
  obtain ⟨hfree, hmap⟩ := Option.ite_none_right_eq_some.1 h
  obtain ⟨u, d, hcell, rfl⟩ := Client.map_run_eq_some.1 hmap
  simp only [RuleViewController.cellForRowAt, Traps.bind_eq_ok, forced_eq_ok, Traps.pure_eq_ok]
    at hcell
  obtain ⟨_, _, ⟨-, rfl⟩, -, rfl⟩ := hcell
  exact ⟨hr.table.render hfree rfl, hr.titled,
    hr.older.render ⟨hr.titled, fun _ hid => hid⟩, hr.edit⟩

theorem sound_hide {row : ℕ} (hr : r.Sound) (h : r.step (.hide row) = some t) : t.Sound := by
  obtain rfl := Option.some.inj h
  exact ⟨hr.table.hide row, hr.titled, hr.older, hr.edit⟩

theorem sound_deliver {n skipped : ℕ} (hr : r.Sound) (hkeeps : r.KeepsRules (.deliver n skipped))
    (h : r.step (.deliver n skipped) = some t) : t.Sound := by
  obtain ⟨l, hl, hstep⟩ := Option.bind_eq_some_iff.1 h
  split at hstep
  · cases hstep
  · next x pending hdrop =>
    obtain ⟨texts, d, hcell, rfl⟩ := Client.map_run_eq_some.1 hstep
    obtain ⟨htexts, rfl⟩ := RuleViewController.cellDelivery_eq_ok.1 hcell
    have hsteady : r.table.Steady n l texts := hkeeps l hl x (by rw [hdrop]; rfl) texts htexts
    exact ⟨hr.table.receive hl hdrop (fun _ _ _ => htexts) hsteady, hr.titled,
      hr.older.receive hl hdrop, hr.edit⟩

/-- A saved rule joins the others, or replaces the one of its title. -/
theorem sound_save {c : Client} {title content : String} (hr : r.Sound)
    (htitle : IsDocumentID title) (hrules : c.db .rules =
      r.rules.override title [("title", .string title), ("content", .string content)]) :
    (r.move c).Sound := by
  -- No save deletes a rule, so what a listener has left stays a part of the rules.
  have hgrown : ∀ id ∈ r.rules, id ∈ c.db .rules := by
    intro id hid
    rw [hrules]
    exact Std.ExtTreeMap.mem_insert.2 (.inr hid)
  have htitled : Titled (c.db .rules) := hrules ▸ hr.titled.override htitle
  constructor
  · exact hr.table.change
  · exact htitled
  · refine hr.older.change ?_ fun _ => ⟨htitled, fun _ hid => hid⟩
    rintro older ⟨holder, hsub⟩
    exact ⟨holder, fun id hid => hgrown id (hsub id hid)⟩
  · intro e he
    obtain ⟨hfits, content₀, hstored⟩ := hr.edit e he
    refine ⟨hfits, ?_⟩
    obtain ⟨document, hdocument⟩ := Std.ExtTreeMap.mem_iff_exists_getElem?.1
      (hgrown e.title (Std.ExtTreeMap.mem_of_getElem? hstored))
    obtain ⟨-, content₁, rfl⟩ := htitled e.title document hdocument
    exact ⟨content₁, hdocument⟩

/-- Nothing was written to the rules. -/
theorem sound_same {c : Client} (hr : r.Sound) (hc : c.db .rules = r.rules) :
    (r.move c).Sound := by
  have htitled : Titled (c.db .rules) := by
    rw [hc]
    exact hr.titled
  refine ⟨hr.table.change, htitled, hr.older.change ?_ fun _ => ⟨htitled, fun _ hid => hid⟩, ?_⟩
  · rintro older ⟨holder, hsub⟩
    exact ⟨holder, fun id hid => by rw [rules, move, hc]; exact hsub id hid⟩
  · intro e he
    rw [rules, move, hc]
    exact hr.edit e he

/-- A screen opens with what `"current_rule"` holds by then. -/
theorem openEdit_eq_some {row : ℕ} {l : Cells.Rendering ℕ Collection} {before : Handler Unit}
    (h : r.openEdit row l before = some t) :
    ∃ d rule title content, before ⟨r.client.temp, []⟩ = .ok () d ∧
      d.temp["current_rule"]?.bind Value.dictionary? = some rule ∧
      (rule.string? "title").getD "" = title ∧ (rule.string? "content").getD "" = content ∧
      t = { r with
        client := ⟨d.temp, Write.applyAll r.client.db d.writes⟩
        edit := some ⟨title, content, row, l.delivered⟩ } := by
  obtain ⟨-, hmap⟩ := Option.ite_none_left_eq_some.1 h
  obtain ⟨⟨title, content⟩, d, hrun, rfl⟩ := Client.map_run_eq_some.1 hmap
  obtain ⟨u, d₁, hbefore, hload⟩ := Traps.bind_eq_ok.1 hrun
  obtain ⟨rule, hrule, htexts, rfl⟩ := EditInfoRuleViewController.viewDidLoad_eq_ok.1 hload
  obtain ⟨htitle, hcontent⟩ := Prod.mk.inj htexts
  exact ⟨_, rule, title, content, hbefore, hrule, htitle, hcontent, rfl⟩

/-- A screen that shows the rule of its row edits a stored rule. -/
theorem sound_open {row : ℕ} {l : Cells.Rendering ℕ Collection} {title content : String}
    {d : Device} (hr : r.Sound) (hl : r.table.lookup row = some l) (hwrites : d.writes = [])
    (hfits : Fits ⟨title, content, row, l.delivered⟩) :
    RuleTab.Sound { r with
      client := ⟨d.temp, Write.applyAll r.client.db d.writes⟩
      edit := some ⟨title, content, row, l.delivered⟩ } := by
  rw [hwrites]
  refine ⟨hr.table, hr.titled, hr.older, ?_⟩
  intro e he
  obtain rfl := Option.some.inj he
  refine ⟨hfits, ?_⟩
  obtain ⟨rules, hrules, htexts⟩ := hfits
  obtain ⟨n, -, hn⟩ := Cells.Table.inSight_of_lookup hl
  obtain ⟨htitled, hsub⟩ := (hr.older l (List.mem_of_getElem? hn)).2 rules hrules
  have hold := htitled.of_ruleTexts htexts
  obtain ⟨document, hdocument⟩ := Std.ExtTreeMap.mem_iff_exists_getElem?.1
    (hsub title (Std.ExtTreeMap.mem_of_getElem? hold))
  obtain ⟨-, content₁, rfl⟩ := hr.titled title document hdocument
  exact ⟨content₁, hdocument⟩

/-- Without the button the screen shows the rule of the row if the entry holds it. -/
theorem tap_fits {row : ℕ} (hr : r.Sound) (hkeeps : r.KeepsRules (.tap row))
    (h : r.step (.tap row) = some t) : t.Sound ∧ ∃ e ∈ t.edit, e.row = row ∧ Fits e := by
  obtain ⟨l, hl, hopen⟩ := Option.bind_eq_some_iff.1 h
  obtain ⟨d, rule, title, content, hbefore, hrule, rfl, rfl, rfl⟩ := openEdit_eq_some hopen
  obtain ⟨-, rfl⟩ := Traps.pure_eq_ok.1 hbefore
  obtain ⟨rules, hrules, rule', hrule', htexts⟩ := hkeeps l hl
  obtain rfl := Option.some.inj (hrule.symm.trans hrule')
  exact ⟨sound_open hr hl rfl ⟨rules, hrules, htexts⟩, _, rfl, rfl, rules, hrules, htexts⟩

/-- The button sets the entry to what the cell shows: the rule of the row. -/
theorem readMore_fits {row : ℕ} (hr : r.Sound) (hkeeps : r.KeepsRules (.readMore row))
    (h : r.step (.readMore row) = some t) : t.Sound ∧ ∃ e ∈ t.edit, e.row = row ∧ Fits e := by
  obtain ⟨l, hl, hopen⟩ := Option.bind_eq_some_iff.1 h
  obtain ⟨d, rule, title, content, hbefore, hrule, htitle, hcontent, rfl⟩ :=
    openEdit_eq_some hopen
  obtain ⟨rules, hrules⟩ := Option.isSome_iff_exists.1 (hkeeps l hl)
  have hsight := Cells.Table.inSight_of_lookup hl
  have hsource : l.source = row := hr.table.bound_inSight hsight
  obtain rfl := set_eq_ok.1 hbefore
  rw [UserDefaults.getElem?_insert, if_pos rfl] at hrule
  obtain rfl : Rule.document _ _ = rule := Option.some.inj hrule
  have hshown := Rule.carries_document (r.table.shows l.cell).1 (r.table.shows l.cell).2
  have htexts : ruleTexts rules row = some (title, content) := by
    rw [← htitle, ← hcontent, hshown.1, hshown.2]
    exact hsource ▸ hr.table.displays hsight hrules
  exact ⟨sound_open hr hl rfl ⟨rules, hrules, htexts⟩, _, rfl, rfl, rules, hrules, htexts⟩

/-- Saving a stored rule again changes its content only. -/
theorem changesContent_apply {db : Database} {title content content₀ : String}
    (htitled : Titled (db .rules)) (hstored : (db .rules)[title]? = some (Rule.document title content₀)) :
    ChangesContent db (Write.apply db
      (.setAt .rules title [("title", .string title), ("content", .string content)]))
      title content := by
  rw [Write.setAt_of_isDocumentID (htitled title _ hstored).1]
  refine ⟨⟨_, hstored, (Rule.carries_document title content₀).1, ?_⟩, ?_⟩
  · rw [Write.apply_setData, htitled.getElem?_override, Rule.insert_document]
  · intro c id hne
    rw [Write.apply_apply]
    split
    · next hc =>
      rw [Write.applyTo, Collection.getElem?_override, if_neg fun heq => hne ⟨hc, heq.symm⟩]
    · rfl

/-- A confirm saves the rule that the screen shows. -/
theorem confirm_follows {content : String} (hr : r.Sound) (h : r.step (.confirm content) = some t) :
    t.Sound ∧ r.Follows t (.confirm content) := by
  obtain ⟨e, he, hmap⟩ := Option.bind_eq_some_iff.1 h
  obtain ⟨c, hperform, rfl⟩ := Option.map_eq_some_iff.1 hmap
  obtain ⟨d, hd, rfl⟩ := Client.perform_eq_some.1 hperform
  obtain ⟨hfits, content₀, hstored⟩ := hr.edit e he
  rcases EditInfoRuleViewController.confirmButton_ok hd with ⟨hempty, rfl⟩ | ⟨hne, -, rfl⟩
  · exact ⟨sound_same hr rfl, e, he, hfits, .inl ⟨hempty, rfl⟩⟩
  · have htitle : IsDocumentID e.title := (hr.titled e.title _ hstored).1
    have hrules := (Write.apply_setAt r.client.db .rules e.title
      [("title", .string e.title), ("content", .string content)]).trans
        (Database.overrideAt_of_isDocumentID htitle)
    exact ⟨sound_save hr htitle hrules, e, he, hfits,
      .inr ⟨hne, changesContent_apply hr.titled hstored⟩⟩

theorem sound_step (hr : r.Sound) (hkeeps : r.KeepsRules e) (h : r.step e = some t) :
    t.Sound ∧ r.Follows t e := by
  cases e with
  | render row cell => exact ⟨sound_render hr h, trivial⟩
  | hide row => exact ⟨sound_hide hr h, trivial⟩
  | deliver n skipped => exact ⟨sound_deliver hr hkeeps h, trivial⟩
  | save rule =>
    obtain ⟨c, hperform, rfl⟩ := Option.map_eq_some_iff.1 h
    obtain ⟨d, hd, rfl⟩ := Client.perform_eq_some.1 hperform
    obtain ⟨hvalid, rfl⟩ := Rule.saveOrUpdateRules_eq_ok.1 hd
    refine ⟨?_, trivial⟩
    -- The title is the id of its document, or names one further down.
    have hrules := Write.apply_setAt r.client.db .rules rule.title
      [("title", .string rule.title), ("content", .string rule.content)]
    rcases Database.overrideAt_cases hvalid _ with ⟨id, hid, hnamed, hset⟩ | ⟨-, hsame⟩
    · obtain rfl := hkeeps id hnamed
      exact sound_save hr hid (hrules.trans hset)
    · exact sound_same hr (hrules.trans hsame)
  | tap row => exact tap_fits hr hkeeps h
  | readMore row => exact readMore_fits hr hkeeps h
  | confirm content => exact confirm_follows hr h
  | cancel =>
    obtain rfl := Option.some.inj h
    exact ⟨⟨hr.table, hr.titled, hr.older, by rintro e ⟨⟩⟩, trivial⟩

end RuleTab

/-! ## Every run -/

/-- In every run whose events meet the condition the edit screen shows the rule of the row it was
opened from, and its confirm changes the content of that rule alone. -/
theorem ruleEdits_of_run {c : Client} {es : List RuleEvent} {r t : RuleTab} {e : RuleEvent}
    (h : Run (Guarded RuleTab.KeepsRules (Steps RuleTab.step)) (RuleTab.start c) es r)
    (hkeeps : r.KeepsRules e) (hstep : r.step e = some t) : r.Follows t e :=
  (RuleTab.sound_step (h.invariant RuleTab.Sound (RuleTab.sound_start c)
    fun _ _ _ hr hstep => (RuleTab.sound_step hr hstep.1 hstep.2).1) hkeeps hstep).2

namespace Sample

/-- A client whose rules are listed. -/
def ruleClient : Client where
  temp := (∅ : UserDefaults).insert "ID_rules" (.strings ["Fees", "Loans"])
  db := Database.empty

/-- Two rules are saved, and shown in two rows. -/
def twoRules : Reached (Guarded RuleTab.KeepsRules (Steps RuleTab.step)) (RuleTab.start ruleClient) :=
  let fees := Reached.start.takeGuarded (.save ⟨"Fees", "One a day"⟩) (by decide +kernel)
    (by decide +kernel)
  let loans := fees.takeGuarded (.save ⟨"Loans", "Ten days"⟩) (by decide +kernel)
    (by decide +kernel)
  let first := loans.takeGuarded (.render 0 0) trivial (by decide +kernel)
  let second := first.takeGuarded (.render 1 1) trivial (by decide +kernel)
  let delivered := second.takeGuarded (.deliver 0 0) (by decide +kernel) (by decide +kernel)
  delivered.takeGuarded (.deliver 1 0) (by decide +kernel) (by decide +kernel)

/-- The first rule was opened by its button, and the screen is closed again. -/
def readOnce : Reached (Steps RuleTab.step) (RuleTab.start ruleClient) :=
  let twoRules : Reached (Steps RuleTab.step) (RuleTab.start ruleClient) :=
    ⟨twoRules.labels, twoRules.state, twoRules.run.of_guarded⟩
  let opened := twoRules.take (.readMore 0) (by decide +kernel)
  opened.take .cancel (by decide +kernel)

end Sample

theorem ruleEdits_readMore : Sample.twoRules.state.Follows
    (after RuleTab.step Sample.twoRules.state (.readMore 1)) (.readMore 1) :=
  ruleEdits_of_run Sample.twoRules.run (show Sample.twoRules.state.KeepsRules (.readMore 1) by
    decide +kernel) (steps_after (by decide +kernel))

/-- A tap on the second row opens the rule of the first one. -/
theorem ruleEdits_fail : ¬ ∀ (c : Client) (es : List RuleEvent) (r t : RuleTab) (e : RuleEvent),
    Run (Steps RuleTab.step) (RuleTab.start c) es r → r.step e = some t → r.Follows t e := by
  intro hall
  have hfollows : ∃ e ∈ (after RuleTab.step Sample.readOnce.state (.tap 1)).edit,
      e.row = 1 ∧ RuleTab.Fits e :=
    hall _ _ _ _ (.tap 1) Sample.readOnce.run (steps_after (by decide +kernel))
  revert hfollows
  decide +kernel

end LibraryManagement
