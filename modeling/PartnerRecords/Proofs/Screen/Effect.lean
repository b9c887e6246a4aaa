import PartnerRecords.Proofs.Screen.Answer

/-!
# Effects of calls

A call that succeeds has one effect on the screen, and a refused call has none, except that a
check box which then shows another value than expected has been clicked all the same. This needs
a screen whose parts fit together, and every effect leaves such a screen: an address editor is
open only over a form, a form only on a tab, a tab and rows are shown only of a record.
-/

namespace PartnerRecords

structure Turn where
  call : Call
  answer : Except ScreenError call.Answer

inductive Effect
  | visited (window : Nat) (record : RecordId)
  | selected (tab : DetailTab)
  | added
  | put (scope : Scope) (field value : String)
  | clicked (scope : Scope) (field : String)
  | opened (field : String)
  | closed
  | saved
deriving DecidableEq, Repr

/-- The effect of a call, as far as its answer tells. -/
def Turn.effect? : Turn → Option Effect
  | ⟨.visitWindow window record, .ok _⟩ => some (.visited window record)
  | ⟨.selectTab tab, .ok _⟩ => some (.selected tab)
  | ⟨.pressAddNew, .ok _⟩ => some .added
  | ⟨.writeText field value scope, .ok _⟩ => some (.put scope field value)
  | ⟨.pickOption field _ expected scope, .ok _⟩ => some (.put scope field expected)
  | ⟨.clickCheckbox field _ scope, .ok _⟩ => some (.clicked scope field)
  | ⟨.clickCheckbox field _ scope, .error (.unexpectedValue _ _ _)⟩ => some (.clicked scope field)
  | ⟨.openAddressEditor field, .ok _⟩ => some (.opened field)
  | ⟨.closeAddressEditor, .ok _⟩ => some .closed
  | ⟨.pressDone, .ok _⟩ => some .saved
  | _ => none

theorem ne_none_of_eq {α : Type} {part : Option α} {value : α} (there : part = some value) :
    part ≠ none :=
  Option.ne_none_iff_exists'.mpr ⟨value, there⟩

namespace Screen

structure Coherent (s : Screen) : Prop where
  form_of_editor : s.editor ≠ none → s.form ≠ none
  tab_of_form : s.form ≠ none → s.tab ≠ none
  visited_of_tab : s.tab ≠ none → s.visited ≠ none
  visited_of_rows : ∀ tab, s.grids.rows tab ≠ [] → s.visited ≠ none

/-- When a screen undergoes an effect, and which screen that leaves. -/
inductive Moves (s : Screen) : Option Effect → Screen → Prop
  | still : Moves s none s
  | visited (window : Nat) (record : RecordId) :
      Moves s (some (.visited window record)) (s.visit window record)
  | selected {tab : DetailTab} (shown : s.visited ≠ none) (free : s.form = none) :
      Moves s (some (.selected tab)) { s with tab := some tab }
  | added (onTab : s.tab ≠ none) (free : s.form = none) :
      Moves s (some .added) { s with form := some [] }
  | put {scope : Scope} {field value : String} {values : GridRow}
      (found : s.scopeValues scope = .ok values) :
      Moves s (some (.put scope field value)) (s.setScopeValues (values.insert field value) scope)
  | clicked {scope : Scope} {field : String} {values : GridRow}
      (found : s.scopeValues scope = .ok values) :
      Moves s (some (.clicked scope field)) (s.setScopeValues
        (values.insert field (checkText (values.get? field != some "true"))) scope)
  | opened {field : String} (free : s.editor = none) (form : s.form ≠ none) :
      Moves s (some (.opened field)) { s with editor := some { field } }
  | closed {editor : AddressEditor} {form : GridRow} (opened : s.editor = some editor)
      (below : s.form = some form) :
      Moves s (some .closed)
        { s with editor := none, form := some (form.insert editor.field editor.summary) }
  | saved {tab : DetailTab} {row : GridRow} (free : s.editor = none) (onTab : s.tab = some tab)
      (form : s.form = some row) :
      Moves s (some .saved) { s with form := none, grids := s.grids.push tab row }

variable {s after : Screen}

theorem tab_of_requireTab {tab : DetailTab} (required : s.requireTab = .ok tab) :
    s.tab = some tab := by
  unfold requireTab at required
  split at required
  · cases required
  · cases required
  · next onTab =>
      cases required
      exact onTab

/-- A box that is not there has not been clicked. -/
theorem effect?_of_scopeValues {field : String} {expected : Bool} {scope : Scope}
    {cause : ScreenError} (missing : s.scopeValues scope = .error cause) :
    Turn.effect? ⟨.clickCheckbox field expected scope, .error cause⟩ = none := by
  cases scope with
  | modal =>
      unfold scopeValues at missing
      dsimp only at missing
      split at missing
      · cases missing
        rfl
      · cases form : s.form with
        | none =>
            rw [form] at missing
            cases missing
            rfl
        | some values =>
            rw [form] at missing
            cases missing
  | address =>
      unfold scopeValues at missing
      cases opened : s.editor with
      | none =>
          rw [opened] at missing
          cases missing
          rfl
      | some editor =>
          rw [opened] at missing
          cases missing

/-- A call has the effect that its answer tells. -/
theorem Coherent.moves_perform (coherent : s.Coherent) (c : Call) :
    s.Moves (Turn.effect? ⟨c, (s.perform c).1⟩) (s.perform c).2 := by
  cases c with
  | visitWindow window record => exact .visited window record
  | selectTab tab =>
      simp only [perform]
      split
      · exact .still
      · next shown =>
          split
          · exact .still
          · next free => exact .selected (by simpa using shown) (by simpa using free)
  | pressAddNew =>
      simp only [perform]
      split
      · exact .still
      · next onTab =>
          split
          · exact .still
          · next free =>
              exact .added (ne_none_of_eq (tab_of_requireTab onTab)) (by simpa using free)
  | writeText field text scope =>
      simp only [perform, write]
      split
      · exact .still
      · next found => exact .put found
  | pickOption field query expected scope =>
      simp only [perform, write]
      split
      · split
        · exact .still
        · next found => exact .put found
      · exact .still
  | clickFormTitle =>
      simp only [perform]
      repeat' split
      all_goals exact .still
  | clickCheckbox field expected scope =>
      simp only [perform]
      split
      · next missing =>
          rw [effect?_of_scopeValues missing]
          exact .still
      · next found => split <;> exact .clicked found
  | openAddressEditor field =>
      simp only [perform]
      split
      · exact .still
      · next free =>
          split
          · exact .still
          · next form => exact .opened (by simpa using free) (by simpa using form)
  | closeAddressEditor =>
      simp only [perform]
      split
      · exact .still
      · next opened formless =>
          exact absurd formless (coherent.form_of_editor (ne_none_of_eq opened))
      · next opened below => exact .closed opened below
  | addressSummary field =>
      simp only [perform]
      split <;> exact .still
  | pressDone =>
      simp only [perform]
      split
      · exact .still
      · next free =>
          split
          · exact .still
          · exact .still
          · next onTab form =>
              exact .saved (by simpa using free) (tab_of_requireTab onTab) form
  | countRows =>
      simp only [perform]
      split <;> exact .still

/-! ## Effects and coherence -/

theorem scopeValues_modal_eq_ok {values : GridRow} :
    s.scopeValues .modal = .ok values ↔ s.editor = none ∧ s.form = some values := by
  unfold scopeValues
  cases s.editor <;> cases s.form <;> simp

theorem scopeValues_address_eq_ok {values : GridRow} :
    s.scopeValues .address = .ok values ↔
      ∃ editor, s.editor = some editor ∧ editor.values = values := by
  unfold scopeValues
  cases s.editor <;> simp

theorem Coherent.setScopeValues (coherent : s.Coherent) {scope : Scope} {values : GridRow}
    (found : s.scopeValues scope = .ok values) (later : GridRow) :
    (s.setScopeValues later scope).Coherent := by
  cases scope with
  | modal =>
      obtain ⟨free, form⟩ := scopeValues_modal_eq_ok.mp found
      have onTab : s.tab ≠ none := coherent.tab_of_form (ne_none_of_eq form)
      exact ⟨fun opened => absurd free opened, fun _ => onTab, coherent.visited_of_tab,
        coherent.visited_of_rows⟩
  | address =>
      obtain ⟨editor, opened, -⟩ := scopeValues_address_eq_ok.mp found
      have form : s.form ≠ none := coherent.form_of_editor (ne_none_of_eq opened)
      exact ⟨fun _ => form, coherent.tab_of_form, coherent.visited_of_tab,
        coherent.visited_of_rows⟩

/-- Every effect leaves a screen whose parts fit together. -/
theorem Coherent.moved (coherent : s.Coherent) {effect : Option Effect}
    (moves : s.Moves effect after) : after.Coherent := by
  cases moves with
  | still => exact coherent
  | visited window record =>
      exact ⟨fun opened => absurd rfl opened, fun form => absurd rfl form,
        fun tab => absurd rfl tab, fun _ _ => Option.some_ne_none _⟩
  | selected shown free =>
      exact ⟨coherent.form_of_editor, fun form => absurd free form, fun _ => shown,
        coherent.visited_of_rows⟩
  | added onTab free =>
      exact ⟨fun _ => Option.some_ne_none _, fun _ => onTab, coherent.visited_of_tab,
        coherent.visited_of_rows⟩
  | put found => exact coherent.setScopeValues found _
  | clicked found => exact coherent.setScopeValues found _
  | opened free form =>
      exact ⟨fun _ => form, coherent.tab_of_form, coherent.visited_of_tab, coherent.visited_of_rows⟩
  | closed opened below =>
      have onTab : s.tab ≠ none := coherent.tab_of_form (ne_none_of_eq below)
      exact ⟨fun opened => absurd rfl opened, fun _ => onTab, coherent.visited_of_tab,
        coherent.visited_of_rows⟩
  | saved free onTab form =>
      have shown : s.visited ≠ none := coherent.visited_of_tab (ne_none_of_eq onTab)
      exact ⟨fun opened => absurd free opened, fun form => absurd rfl form, coherent.visited_of_tab,
        fun _ _ => shown⟩

theorem Coherent.logged (coherent : s.Coherent) (c : Call) : (s.logged c).Coherent :=
  ⟨coherent.form_of_editor, coherent.tab_of_form, coherent.visited_of_tab,
    coherent.visited_of_rows⟩

theorem Coherent.moves_call (coherent : s.Coherent) (c : Call) :
    (s.logged c).Moves (Turn.effect? ⟨c, (s.call c).1⟩) (s.call c).2 :=
  (coherent.logged c).moves_perform c

theorem Coherent.call (coherent : s.Coherent) (c : Call) : (s.call c).2.Coherent :=
  (coherent.logged c).moved (coherent.moves_call c)

/-! ## Calls in any order -/

def callAll (s : Screen) (calls : List Call) : Screen :=
  calls.foldl (fun s c => (s.call c).2) s

/-- A screen that has shown nothing yet. -/
theorem coherent_new (options : Dict (List String)) : Coherent { options } where
  form_of_editor opened := absurd rfl opened
  tab_of_form form := absurd rfl form
  visited_of_tab tab := absurd rfl tab
  visited_of_rows tab rows := absurd (by cases tab <;> rfl) rows

theorem Coherent.callAll (coherent : s.Coherent) (calls : List Call) :
    (s.callAll calls).Coherent := by
  induction calls generalizing s with
  | nil => exact coherent
  | cons c rest ih => exact ih (coherent.call c)

/-- After any calls on a new screen, whichever were refused, its parts fit together. So an editor
that is open can be closed, and a form with no editor over it can be saved. -/
theorem coherent_callAll (options : Dict (List String)) (calls : List Call) :
    let s := callAll { options } calls
    s.Coherent ∧
      (∀ editor, s.editor = some editor → ∃ form, s.form = some form ∧
        s.call .closeAddressEditor = (.ok (), { s.logged .closeAddressEditor with
          editor := none, form := some (form.insert editor.field editor.summary) })) ∧
      (s.call .closeAddressEditor).1 ≠ .error .noOpenForm ∧
      ∀ row, s.form = some row → s.editor = none → ∃ tab, s.tab = some tab ∧
        s.call .pressDone = (.ok (), { s.logged .pressDone with
          form := none, grids := s.grids.push tab row }) := by
  intro s
  have coherent : s.Coherent := (coherent_new options).callAll calls
  have closes : ∀ editor, s.editor = some editor → ∃ form, s.form = some form ∧
      s.call .closeAddressEditor = (.ok (), { s.logged .closeAddressEditor with
        editor := none, form := some (form.insert editor.field editor.summary) }) := by
    intro editor opened
    obtain ⟨form, below⟩ :=
      Option.ne_none_iff_exists'.mp (coherent.form_of_editor (ne_none_of_eq opened))
    exact ⟨form, below, call_closeAddressEditor_eq_ok.mpr ⟨editor, form, opened, below, rfl⟩⟩
  refine ⟨coherent, closes, ?_, fun row form free => ?_⟩
  · cases opened : s.editor with
    | none =>
        rw [call_eq]
        simp [perform, logged, opened]
    | some editor =>
        obtain ⟨form, -, closed⟩ := closes editor opened
        rw [closed]
        intro refused
        cases refused
  · obtain ⟨tab, onTab⟩ :=
      Option.ne_none_iff_exists'.mp (coherent.tab_of_form (ne_none_of_eq form))
    have shown : s.visited ≠ none := coherent.visited_of_tab (ne_none_of_eq onTab)
    exact ⟨tab, onTab, call_pressDone_eq_ok.mpr ⟨free, tab, row, shown, onTab, form, rfl⟩⟩

end Screen

end PartnerRecords
