import PartnerRecords.Proofs.Screen.Effect

/-!
# Refused calls

A call that is refused leaves the screen as it was, apart from its being logged. Only the click on
a check box finds out too late: a box that showed what was expected shows the opposite afterwards,
and the call fails for it. That the address editor is not lost on the way needs a screen whose
parts fit together, as on every screen that is reached by calls.
-/

namespace PartnerRecords

namespace Screen

/-- Screens that can be reached, whichever calls were refused on the way. The options of a field may
be listed at any time. -/
inductive Reachable : Screen → Prop
  | new : Reachable {}
  | listed {s : Screen} (before : Reachable s) (field : String) (options : List String) :
      Reachable { s with options := s.options.insert field options }
  | called {s : Screen} (before : Reachable s) (c : Call) : Reachable (s.call c).2

theorem Coherent.listed {s : Screen} (coherent : s.Coherent) (options : Dict (List String)) :
    { s with options }.Coherent :=
  ⟨coherent.form_of_editor, coherent.tab_of_form, coherent.visited_of_tab,
    coherent.visited_of_rows⟩

theorem Reachable.coherent {s : Screen} (reached : Reachable s) : s.Coherent := by
  induction reached with
  | new => exact coherent_new []
  | listed before field options ih => exact ih.listed _
  | called before c ih => exact ih.call c

structure Toggled (scope : Scope) (field : String) (s after : Screen) : Prop where
  box : ∃ values, s.scopeValues scope = .ok values ∧ after.scopeValues scope =
    .ok (values.insert field (checkText (values.get? field != some "true")))
  form : scope ≠ .modal → after.form = s.form
  editor : scope ≠ .address → after.editor = s.editor
  host : after.editor.map AddressEditor.field = s.editor.map AddressEditor.field
  visited : after.visited = s.visited
  tab : after.tab = s.tab
  grids : after.grids = s.grids
  options : after.options = s.options
  calls : after.calls = s.calls

inductive Refused (s : Screen) : Call → ScreenError → Screen → Prop
  | kept {c : Call} {cause : ScreenError}
      (other : ∀ field expected actual, cause ≠ .unexpectedValue field expected actual) :
      Refused s c cause (s.logged c)
  /-- The box was as expected before it was clicked. -/
  | clicked {field : String} {expected : Bool} {scope : Scope} {values : GridRow} {after : Screen}
      (found : s.scopeValues scope = .ok values)
      (before : (values.get? field = some "true") ↔ expected = true)
      (toggled : Toggled scope field (s.logged (.clickCheckbox field expected scope)) after) :
      Refused s (.clickCheckbox field expected scope)
        (.unexpectedValue field (checkText expected) (checkText !expected)) after

variable {s : Screen} {c : Call}

theorem scopeValues_logged (s : Screen) (c : Call) (scope : Scope) :
    (s.logged c).scopeValues scope = s.scopeValues scope := by
  cases scope <;> rfl

/-! ## Causes -/

section Causes

variable {field expected actual : String}

theorem requireTab_ne : s.requireTab ≠ .error (.unexpectedValue field expected actual) := by
  unfold requireTab
  split <;> nofun

theorem scopeValues_ne {scope : Scope} :
    s.scopeValues scope ≠ .error (.unexpectedValue field expected actual) := by
  cases scope with
  | modal =>
      unfold scopeValues
      cases s.editor <;> cases s.form <;> nofun
  | address =>
      unfold scopeValues
      cases s.editor <;> nofun

theorem write_ne {name text : String} {scope : Scope} :
    (s.write name text scope).1 ≠ .error (.unexpectedValue field expected actual) := by
  unfold write
  split
  · next missing =>
      rintro ⟨⟩
      exact scopeValues_ne missing
  · nofun

/-- Only a click finds an unexpected value. -/
theorem isClick_of_unexpectedValue
    (refused : (s.perform c).1 = .error (.unexpectedValue field expected actual)) :
    ∃ name wanted scope, c = .clickCheckbox name wanted scope := by
  cases c with
  | clickCheckbox name wanted scope => exact ⟨name, wanted, scope, rfl⟩
  | visitWindow window record => cases refused
  | writeText name text scope => exact absurd refused write_ne
  | pickOption name query wanted scope =>
      simp only [perform] at refused
      split at refused
      · exact absurd refused write_ne
      · cases refused
  | pressAddNew =>
      simp only [perform] at refused
      split at refused
      · next missing =>
          cases refused
          exact absurd missing requireTab_ne
      · split at refused <;> cases refused
  | pressDone =>
      simp only [perform] at refused
      split at refused
      · cases refused
      · split at refused
        · next missing =>
            cases refused
            exact absurd missing requireTab_ne
        · cases refused
        · cases refused
  | countRows =>
      simp only [perform] at refused
      split at refused
      · next missing =>
          cases refused
          exact absurd missing requireTab_ne
      · cases refused
  | _ =>
      simp only [perform] at refused
      repeat' split at refused
      all_goals cases refused

end Causes

theorem effect?_of_error {cause : ScreenError}
    (other : ∀ field expected actual, cause ≠ .unexpectedValue field expected actual) :
    Turn.effect? ⟨c, .error cause⟩ = none := by
  cases c with
  | clickCheckbox field wanted scope =>
      cases cause with
      | unexpectedValue field expected actual => exact absurd rfl (other field expected actual)
      | _ => rfl
  | _ => rfl

/-! ## Boxes -/

theorem scopeValues_setScopeValues {scope : Scope} {values : GridRow}
    (found : s.scopeValues scope = .ok values) (later : GridRow) :
    (s.setScopeValues later scope).scopeValues scope = .ok later := by
  cases scope with
  | modal =>
      obtain ⟨free, -⟩ := scopeValues_modal_eq_ok.mp found
      exact scopeValues_modal_eq_ok.mpr ⟨free, rfl⟩
  | address =>
      obtain ⟨editor, opened, -⟩ := scopeValues_address_eq_ok.mp found
      refine scopeValues_address_eq_ok.mpr ⟨{ editor with values := later }, ?_, rfl⟩
      rw [setScopeValues, opened]
      rfl

/-- A click that reaches a box toggles it. -/
theorem toggled_setScopeValues {scope : Scope} {values : GridRow} (field : String)
    (found : s.scopeValues scope = .ok values) :
    Toggled scope field s (s.setScopeValues
      (values.insert field (checkText (values.get? field != some "true"))) scope) := by
  have box := scopeValues_setScopeValues found
    (values.insert field (checkText (values.get? field != some "true")))
  cases scope with
  | modal =>
      exact ⟨⟨values, found, box⟩, fun other => absurd rfl other, fun _ => rfl, rfl, rfl, rfl, rfl,
        rfl, rfl⟩
  | address =>
      refine ⟨⟨values, found, box⟩, fun _ => rfl, fun other => absurd rfl other, ?_, rfl, rfl, rfl,
        rfl, rfl⟩
      rw [setScopeValues, Option.map_map]
      rfl

/-- A click is refused for what the box shows if it showed what was expected. -/
theorem refused_click {name field expected actual : String} {wanted : Bool} {scope : Scope}
    (refused : (s.call (.clickCheckbox name wanted scope)).1 =
      .error (.unexpectedValue field expected actual)) :
    Refused s (.clickCheckbox name wanted scope) (.unexpectedValue field expected actual)
      (s.call (.clickCheckbox name wanted scope)).2 := by
  rw [call_eq] at refused ⊢
  simp only [perform, scopeValues_logged] at refused ⊢
  cases found : s.scopeValues scope with
  | error cause =>
      rw [found] at refused
      cases refused
      exact absurd found scopeValues_ne
  | ok values =>
      rw [found] at refused
      dsimp only at refused ⊢
      by_cases asExpected : (values.get? name != some "true") = wanted
      · rw [if_pos asExpected] at refused
        cases refused
      · rw [if_neg asExpected] at refused ⊢
        have toggled := toggled_setScopeValues name
          ((scopeValues_logged s (.clickCheckbox name wanted scope) scope).trans found)
        have shown : (values.get? name != some "true") = !wanted :=
          Bool.eq_not.mpr asExpected
        have before : values.get? name = some "true" ↔ wanted = true := by
          cases wanted <;> simpa using shown
        have clicked := Refused.clicked found before toggled
        cases refused
        rwa [← shown] at clicked

/-! ## Refusals -/

/-- What a call leaves when it is refused, on a screen whose parts fit together. -/
theorem Coherent.refused (coherent : s.Coherent) {cause : ScreenError}
    (refused : (s.call c).1 = .error cause) : Refused s c cause (s.call c).2 := by
  by_cases other : ∀ field expected actual, cause ≠ .unexpectedValue field expected actual
  · have moves := coherent.moves_call c
    rw [refused, effect?_of_error other] at moves
    generalize (s.call c).2 = after at moves
    cases moves
    exact .kept other
  · obtain ⟨field, expected, actual, rfl⟩ : ∃ field expected actual,
        cause = .unexpectedValue field expected actual := by
      simpa using other
    obtain ⟨name, wanted, scope, rfl⟩ := isClick_of_unexpectedValue refused
    exact refused_click refused

/-- On every screen that can be reached, a refused call changes nothing but the log; only a click on
a box that was as expected toggles this box and nothing else. -/
theorem refused_of_error (reached : s.Reachable) {cause : ScreenError}
    (refused : (s.call c).1 = .error cause) : Refused s c cause (s.call c).2 :=
  reached.coherent.refused refused

def marked : Screen :=
  callAll {} [.visitWindow 123 ⟨"1"⟩, .selectTab .contacts, .pressAddNew,
    .clickCheckbox Field.contactDefault true .modal]

/-- A second click takes the mark away and fails for it. -/
theorem refused_second_click :
    marked.form = some [(Field.contactDefault, "true")] ∧
      Refused marked (.clickCheckbox Field.contactDefault true .modal)
        (.unexpectedValue Field.contactDefault "true" "false")
        (marked.call (.clickCheckbox Field.contactDefault true .modal)).2 ∧
      (marked.call (.clickCheckbox Field.contactDefault true .modal)).2.form =
        some [(Field.contactDefault, "false")] := by
  have reached : marked.Reachable :=
    .called (.called (.called (.called .new _) _) _) _
  exact ⟨by decide, refused_of_error reached rfl, by decide⟩

end Screen

end PartnerRecords
