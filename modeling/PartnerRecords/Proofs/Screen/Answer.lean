import PartnerRecords.Screen.Basic

/-!
# What calls do to the screen

For each call, when it is not refused and which screen it leaves then; and what no call
changes. Later proofs look at the rules of the screen only through these statements.
-/

namespace PartnerRecords

def Call.isQuiet : Call → Bool
  | .visitWindow _ _ => false
  | .pressDone => false
  | _ => true

namespace Screen

variable {s after : Screen}

def logged (s : Screen) (c : Call) : Screen :=
  { s with calls := s.calls ++ [c] }

theorem call_eq (s : Screen) (c : Call) : s.call c = (s.logged c).perform c := rfl

theorem call_pickOption (s : Screen) (field query expected : String) (scope : Scope) :
    s.call (.pickOption field query expected scope) =
      if s.offers field query expected then
        (s.logged (.pickOption field query expected scope)).write field expected scope
      else (.error (.unknownOption field expected),
        s.logged (.pickOption field query expected scope)) := rfl

theorem write_modal_eq_ok {field text : String} {value : Unit} :
    s.write field text .modal = (.ok value, after) ↔
      s.editor = none ∧ ∃ values, s.form = some values ∧
        after = { s with form := some (values.insert field text) } := by
  unfold write scopeValues setScopeValues
  cases s.editor <;> cases s.form <;> simp [eq_comm]

theorem write_address_eq_ok {field text : String} {value : Unit} :
    s.write field text .address = (.ok value, after) ↔
      ∃ editor, s.editor = some editor ∧
        after = { s with
          editor := some { editor with values := editor.values.insert field text } } := by
  unfold write scopeValues setScopeValues
  cases s.editor <;> simp [eq_comm]

/-! ## Navigation -/

theorem call_selectTab_eq_ok {tab : DetailTab} {value : Unit} :
    s.call (.selectTab tab) = (.ok value, after) ↔
      s.visited ≠ none ∧ s.form = none ∧
        after = { s.logged (.selectTab tab) with tab := some tab } := by
  rw [call_eq]
  unfold perform logged
  cases s.visited <;> cases s.form <;> simp [eq_comm]

theorem call_countRows_eq_ok {rows : Nat} :
    s.call .countRows = (.ok rows, after) ↔
      ∃ tab, s.visited ≠ none ∧ s.tab = some tab ∧ rows = (s.grids.rows tab).length ∧
        after = s.logged .countRows := by
  rw [call_eq]
  unfold perform requireTab logged
  cases s.visited <;> cases s.tab <;> simp [eq_comm]

theorem tab_call_countRows (s : Screen) : (s.call .countRows).2.tab = s.tab := by
  rw [call_eq]
  simp only [perform]
  split <;> rfl

/-! ## The form of a new row -/

theorem call_pressAddNew_eq_ok {value : Unit} :
    s.call .pressAddNew = (.ok value, after) ↔
      s.visited ≠ none ∧ s.tab ≠ none ∧ s.form = none ∧
        after = { s.logged .pressAddNew with form := some [] } := by
  rw [call_eq]
  unfold perform requireTab logged
  cases s.visited <;> cases s.tab <;> cases s.form <;> simp [eq_comm]

theorem call_writeText_modal_eq_ok {field text : String} {value : Unit} :
    s.call (.writeText field text .modal) = (.ok value, after) ↔
      s.editor = none ∧ ∃ values, s.form = some values ∧
        after = { s.logged (.writeText field text .modal) with
          form := some (values.insert field text) } := by
  rw [call_eq]
  exact write_modal_eq_ok

theorem call_pickOption_modal_eq_ok {field query expected : String} {value : Unit} :
    s.call (.pickOption field query expected .modal) = (.ok value, after) ↔
      s.offers field query expected = true ∧ s.editor = none ∧ ∃ values, s.form = some values ∧
        after = { s.logged (.pickOption field query expected .modal) with
          form := some (values.insert field expected) } := by
  rw [call_pickOption]
  split
  · next offered =>
      rw [write_modal_eq_ok]
      simp only [offered, true_and]
      rfl
  · next refused => simp [refused]

theorem call_clickCheckbox_modal_eq_ok {field : String} {expected : Bool} {value : Unit} :
    s.call (.clickCheckbox field expected .modal) = (.ok value, after) ↔
      s.editor = none ∧ ∃ values, s.form = some values ∧
        (values.get? field != some "true") = expected ∧
        after = { s.logged (.clickCheckbox field expected .modal) with
          form := some (values.insert field (checkText expected)) } := by
  rw [call_eq]
  unfold perform scopeValues setScopeValues logged
  cases s.editor <;> cases s.form <;> simp [eq_comm]
  split <;> simp_all [eq_comm]

theorem call_clickFormTitle_eq_ok {value : Unit} :
    s.call .clickFormTitle = (.ok value, after) ↔
      s.editor = none ∧ s.form ≠ none ∧ after = s.logged .clickFormTitle := by
  rw [call_eq]
  unfold perform logged
  cases s.editor <;> cases s.form <;> simp [eq_comm]

theorem call_pressDone_eq_ok {value : Unit} :
    s.call .pressDone = (.ok value, after) ↔
      s.editor = none ∧ ∃ tab row, s.visited ≠ none ∧ s.tab = some tab ∧ s.form = some row ∧
        after = { s.logged .pressDone with form := none, grids := s.grids.push tab row } := by
  rw [call_eq]
  unfold perform requireTab logged
  cases s.editor <;> cases s.visited <;> cases s.tab <;> cases s.form <;> simp [eq_comm]

/-! ## The address editor -/

theorem call_openAddressEditor_eq_ok {field : String} {value : Unit} :
    s.call (.openAddressEditor field) = (.ok value, after) ↔
      s.editor = none ∧ s.form ≠ none ∧
        after = { s.logged (.openAddressEditor field) with editor := some { field } } := by
  rw [call_eq]
  unfold perform logged
  cases s.editor <;> cases s.form <;> simp [eq_comm]

theorem call_writeText_address_eq_ok {field text : String} {value : Unit} :
    s.call (.writeText field text .address) = (.ok value, after) ↔
      ∃ editor, s.editor = some editor ∧
        after = { s.logged (.writeText field text .address) with
          editor := some { editor with values := editor.values.insert field text } } := by
  rw [call_eq]
  exact write_address_eq_ok

theorem call_pickOption_address_eq_ok {field query expected : String} {value : Unit} :
    s.call (.pickOption field query expected .address) = (.ok value, after) ↔
      s.offers field query expected = true ∧ ∃ editor, s.editor = some editor ∧
        after = { s.logged (.pickOption field query expected .address) with
          editor := some { editor with values := editor.values.insert field expected } } := by
  rw [call_pickOption]
  split
  · next offered =>
      rw [write_address_eq_ok]
      simp only [offered, true_and]
      rfl
  · next refused => simp [refused]

theorem call_closeAddressEditor_eq_ok {value : Unit} :
    s.call .closeAddressEditor = (.ok value, after) ↔
      ∃ editor form, s.editor = some editor ∧ s.form = some form ∧
        after = { s.logged .closeAddressEditor with
          editor := none, form := some (form.insert editor.field editor.summary) } := by
  rw [call_eq]
  unfold perform logged
  cases s.editor <;> cases s.form <;> simp [eq_comm]

theorem call_addressSummary_eq_ok {field summary : String} :
    s.call (.addressSummary field) = (.ok summary, after) ↔
      ∃ form, s.form = some form ∧ summary = (form.get? field).getD "" ∧
        after = s.logged (.addressSummary field) := by
  rw [call_eq]
  unfold perform logged
  cases s.form <;> simp [eq_comm]

/-! ## Records and rows -/

def SameRows (s after : Screen) : Prop :=
  after.grids = s.grids ∧ after.visited = s.visited

theorem SameRows.refl (s : Screen) : s.SameRows s := ⟨rfl, rfl⟩

theorem SameRows.trans {s middle after : Screen} (first : s.SameRows middle)
    (last : middle.SameRows after) : s.SameRows after :=
  ⟨last.1.trans first.1, last.2.trans first.2⟩

theorem sameRows_setScopeValues (s : Screen) (values : GridRow) (scope : Scope) :
    s.SameRows (s.setScopeValues values scope) := by
  cases scope <;> exact ⟨rfl, rfl⟩

theorem sameRows_write (s : Screen) (field text : String) (scope : Scope) :
    s.SameRows (s.write field text scope).2 := by
  unfold write
  split
  · exact .refl s
  · exact sameRows_setScopeValues s _ scope

/-- A quiet call keeps the record and its rows, refused or not. -/
theorem sameRows_call (s : Screen) {c : Call} (quiet : c.isQuiet = true) :
    s.SameRows (s.call c).2 := by
  have opened : s.SameRows (s.logged c) := ⟨rfl, rfl⟩
  refine opened.trans ?_
  rw [call_eq]
  generalize s.logged c = s
  cases c with
  | visitWindow window record => cases quiet
  | pressDone => cases quiet
  | selectTab tab =>
      simp only [perform]
      repeat' split
      all_goals exact ⟨rfl, rfl⟩
  | pressAddNew =>
      simp only [perform]
      repeat' split
      all_goals exact ⟨rfl, rfl⟩
  | writeText field text scope => exact sameRows_write s field text scope
  | pickOption field query expected scope =>
      simp only [perform]
      split
      · exact sameRows_write s field expected scope
      · exact .refl s
  | clickFormTitle =>
      simp only [perform]
      repeat' split
      all_goals exact ⟨rfl, rfl⟩
  | clickCheckbox field expected scope =>
      simp only [perform]
      split
      · exact .refl s
      · split <;> exact sameRows_setScopeValues s _ scope
  | openAddressEditor field =>
      simp only [perform]
      repeat' split
      all_goals exact ⟨rfl, rfl⟩
  | closeAddressEditor =>
      simp only [perform]
      split <;> exact ⟨rfl, rfl⟩
  | addressSummary field =>
      simp only [perform]
      split <;> exact ⟨rfl, rfl⟩
  | countRows =>
      simp only [perform]
      split <;> exact ⟨rfl, rfl⟩

/-- A row that is refused is not saved. -/
theorem sameRows_refused (s : Screen) {c : Call}
    (notVisit : ∀ window record, c ≠ .visitWindow window record) {cause : ScreenError}
    (refused : (s.call c).1 = .error cause) : s.SameRows (s.call c).2 := by
  cases quiet : c.isQuiet with
  | true => exact sameRows_call s quiet
  | false =>
      cases c with
      | pressDone =>
          rw [call_eq] at refused ⊢
          simp only [perform] at refused ⊢
          split at refused
          · next opened => rw [if_pos opened]; exact ⟨rfl, rfl⟩
          · next closed =>
              rw [if_neg closed]
              split at refused
              · exact ⟨rfl, rfl⟩
              · exact ⟨rfl, rfl⟩
              · cases refused
      | visitWindow window record => exact absurd rfl (notVisit window record)
      | _ => cases quiet

end Screen

end PartnerRecords
