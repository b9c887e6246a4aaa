import PartnerRecords.Proofs.Screen.Item

/-!
# Filled forms

On a screen that refuses none of the calls of a form, the form ends up holding the row of its
item, on the tab of the item, and nothing has been saved.
-/

namespace PartnerRecords

namespace Screen

variable {s after : Screen}

def follow : Screen → List Call → Option Screen
  | s, [] => some s
  | s, c :: rest =>
      match s.call c with
      | (.ok _, after) => after.follow rest
      | (.error _, _) => none

theorem follow_cons_eq_some {c : Call} {rest : List Call} :
    s.follow (c :: rest) = some after ↔
      ∃ value middle, s.call c = (.ok value, middle) ∧ middle.follow rest = some after := by
  simp only [follow]
  rcases s.call c with ⟨_ | value, middle⟩
  · simp
  · constructor
    · intro followed
      exact ⟨value, middle, rfl, followed⟩
    · rintro ⟨_, _, answered, followed⟩
      cases answered
      exact followed

/-- Quiet calls save no row and leave the record open. -/
theorem sameRows_follow {calls : List Call}
    (quiet : ∀ c ∈ calls, c.isQuiet = true) (followed : s.follow calls = some after) :
    s.SameRows after := by
  induction calls generalizing s with
  | nil =>
      cases followed
      exact .refl _
  | cons c rest ih =>
      obtain ⟨value, middle, answered, followed⟩ := follow_cons_eq_some.mp followed
      have first := sameRows_call s (quiet c List.mem_cons_self)
      rw [answered] at first
      exact first.trans (ih (fun c member => quiet c (List.mem_cons_of_mem _ member)) followed)

end Screen

namespace Item

theorem form_quiet (item : Item) : ∀ c ∈ item.form, c.isQuiet = true := by
  cases item with
  | location l => simp [form, Call.isQuiet]
  | contact c => cases h : c.isDefault <;> simp [form, Call.isQuiet, h]
  | bank name => simp [form, Call.isQuiet]

theorem looks_quiet (item : Item) : ∀ c ∈ item.looks, c.isQuiet = true := by
  cases item with
  | location l => simp [looks, Call.isQuiet]
  | contact c => exact fun _ member => absurd member List.not_mem_nil
  | bank name => exact fun _ member => absurd member List.not_mem_nil

end Item

theorem AddressEditor.summary_typed (field : String) (l : Location) :
    AddressEditor.summary
      { field
        values := ((Dict.insert [] Field.addressLine Entry.blankLine).insert
          Field.addressCity l.city).insert Field.addressCountry l.country } = l.summary := by
  have blank : Text.trim Entry.blankLine = "" := by decide
  simp [AddressEditor.summary, Location.summary, Dict.get?_insert, Field.addressLine,
    Field.addressCity, Field.addressCountry, blank]

namespace Item

structure Filled (item : Item) (s after : Screen) : Prop where
  tab : after.tab = some item.tab
  form : after.form = some item.row
  sameRows : s.SameRows after

section Filling

variable {s after : Screen}

open Screen

theorem filled_location {l : Location} (followed : s.follow (location l).form = some after) :
    (location l).Filled s after := by
  have sameRows := sameRows_follow (location l).form_quiet followed
  obtain ⟨_, s₁, selected, followed⟩ := follow_cons_eq_some.mp followed
  obtain ⟨-, -, rfl⟩ := call_selectTab_eq_ok.mp selected
  obtain ⟨_, s₂, added, followed⟩ := follow_cons_eq_some.mp followed
  obtain ⟨-, -, -, rfl⟩ := call_pressAddNew_eq_ok.mp added
  obtain ⟨_, s₃, named, followed⟩ := follow_cons_eq_some.mp followed
  obtain ⟨-, _, ⟨⟩, rfl⟩ := call_writeText_modal_eq_ok.mp named
  obtain ⟨_, s₄, clicked, followed⟩ := follow_cons_eq_some.mp followed
  obtain ⟨-, -, rfl⟩ := call_clickFormTitle_eq_ok.mp clicked
  obtain ⟨_, s₅, opened, followed⟩ := follow_cons_eq_some.mp followed
  obtain ⟨-, -, rfl⟩ := call_openAddressEditor_eq_ok.mp opened
  obtain ⟨_, s₆, lined, followed⟩ := follow_cons_eq_some.mp followed
  obtain ⟨_, ⟨⟩, rfl⟩ := call_writeText_address_eq_ok.mp lined
  obtain ⟨_, s₇, placed, followed⟩ := follow_cons_eq_some.mp followed
  obtain ⟨_, ⟨⟩, rfl⟩ := call_writeText_address_eq_ok.mp placed
  obtain ⟨_, s₈, picked, followed⟩ := follow_cons_eq_some.mp followed
  obtain ⟨-, _, ⟨⟩, rfl⟩ := call_pickOption_address_eq_ok.mp picked
  obtain ⟨_, s₉, closed, followed⟩ := follow_cons_eq_some.mp followed
  obtain ⟨_, _, ⟨⟩, ⟨⟩, rfl⟩ := call_closeAddressEditor_eq_ok.mp closed
  cases followed
  refine ⟨rfl, ?_, sameRows⟩
  simp only [AddressEditor.summary_typed, row, Dict.ofList, List.foldl]

theorem filled_bank {name : String} (followed : s.follow (bank name).form = some after) :
    (bank name).Filled s after := by
  have sameRows := sameRows_follow (bank name).form_quiet followed
  obtain ⟨_, s₁, selected, followed⟩ := follow_cons_eq_some.mp followed
  obtain ⟨-, -, rfl⟩ := call_selectTab_eq_ok.mp selected
  obtain ⟨_, s₂, added, followed⟩ := follow_cons_eq_some.mp followed
  obtain ⟨-, -, -, rfl⟩ := call_pressAddNew_eq_ok.mp added
  obtain ⟨_, s₃, picked, followed⟩ := follow_cons_eq_some.mp followed
  obtain ⟨-, -, _, ⟨⟩, rfl⟩ := call_pickOption_modal_eq_ok.mp picked
  obtain ⟨_, s₄, named, followed⟩ := follow_cons_eq_some.mp followed
  obtain ⟨-, _, ⟨⟩, rfl⟩ := call_writeText_modal_eq_ok.mp named
  cases followed
  exact ⟨rfl, by simp only [row, Dict.ofList, List.foldl], sameRows⟩

theorem filled_contact {c : Contact} (followed : s.follow (contact c).form = some after) :
    (contact c).Filled s after := by
  have sameRows := sameRows_follow (contact c).form_quiet followed
  obtain ⟨_, s₁, selected, followed⟩ := follow_cons_eq_some.mp followed
  obtain ⟨-, -, rfl⟩ := call_selectTab_eq_ok.mp selected
  obtain ⟨_, s₂, added, followed⟩ := follow_cons_eq_some.mp followed
  obtain ⟨-, -, -, rfl⟩ := call_pressAddNew_eq_ok.mp added
  obtain ⟨_, s₃, first, followed⟩ := follow_cons_eq_some.mp followed
  obtain ⟨-, _, ⟨⟩, rfl⟩ := call_writeText_modal_eq_ok.mp first
  obtain ⟨_, s₄, last, followed⟩ := follow_cons_eq_some.mp followed
  obtain ⟨-, _, ⟨⟩, rfl⟩ := call_writeText_modal_eq_ok.mp last
  cases isDefault : c.isDefault with
  | false =>
      simp only [isDefault] at followed
      cases followed
      refine ⟨rfl, ?_, sameRows⟩
      simp [row, isDefault, Dict.ofList]
  | true =>
      simp only [isDefault] at followed
      obtain ⟨_, s₅, clicked, followed⟩ := follow_cons_eq_some.mp followed
      obtain ⟨-, _, ⟨⟩, -, rfl⟩ := call_clickCheckbox_modal_eq_ok.mp clicked
      cases followed
      refine ⟨rfl, ?_, sameRows⟩
      simp [row, isDefault, Dict.ofList, Screen.checkText]

/-- A form that was filled without a refusal shows the row of its item on the item's tab. -/
theorem filled_of_follow {item : Item} (followed : s.follow item.form = some after) :
    item.Filled s after := by
  cases item with
  | location l => exact filled_location followed
  | contact c => exact filled_contact followed
  | bank name => exact filled_bank followed

end Filling

end Item

end PartnerRecords
