import PartnerRecords.Proofs.Screen.Effect
import PartnerRecords.Proofs.Screen.Twins

/-!
# Ready screens

A screen is ready for a new row if it shows a record with nothing open over it. An entry on a ready
screen fails only where an option is not on offer or an address does not show the city, and leaves
a ready screen if it succeeds. So entries can follow one another without a further look at the
order of gestures that the screen demands.
-/

namespace PartnerRecords

open Act

variable {σ : Type}

namespace Screen

structure Ready (s : Screen) : Prop where
  visited : s.visited ≠ none
  form : s.form = none
  editor : s.editor = none

/-- A visit clears away whatever was open. -/
theorem ready_visit (s : Screen) (window : Nat) (record : RecordId) :
    (s.visit window record).Ready :=
  ⟨nofun, rfl, rfl⟩

theorem Coherent.ready {s : Screen} (coherent : s.Coherent) (visited : s.visited ≠ none)
    (form : s.form = none) : s.Ready := by
  refine ⟨visited, form, ?_⟩
  by_contra opened
  exact coherent.form_of_editor opened form

end Screen

namespace Text

theorem contains_iff_isInfix {whole part : String} :
    contains whole part = true ↔ part.toList <:+: whole.toList := by
  unfold contains
  rw [occursIn_iff]
  exact exists₂_congr fun _ _ => eq_comm

theorem contains_self (s : String) : contains s s = true :=
  contains_iff_isInfix.mpr (List.infix_refl _)

end Text

/-- A field that is asked for an option by its full text refuses it exactly if its options are
listed without it. -/
theorem Screen.offers_eq_false_iff {s : Screen} {field value : String} :
    s.offers field value value = false ↔
      ∃ options, s.options.get? field = some options ∧ value ∉ options := by
  unfold offers
  cases s.options.get? field with
  | none => simp
  | some options =>
      have whole : ∀ option, (option == value && Text.contains option value) = true ↔
          option = value := by
        intro option
        rw [Bool.and_eq_true, beq_iff_eq, and_iff_left_iff_imp]
        rintro rfl
        exact Text.contains_self option
      rw [← Bool.not_eq_true, List.any_eq_true]
      simp [whole]

theorem Screen.call_pickOption_refused {s : Screen} {field query expected : String}
    {scope : Scope} (refused : s.offers field query expected = false) :
    s.call (.pickOption field query expected scope) =
      (.error (.unknownOption field expected),
        s.logged (.pickOption field query expected scope)) := by
  rw [call_pickOption, refused]
  rfl

namespace Item

/-- The field for which an item picks an option, with the option. -/
def pick? : Item → Option (String × String)
  | .location l => some (Field.addressCountry, l.country)
  | .contact _ => none
  | .bank name => some (Field.bank, name)

def IsOffered (item : Item) (s : Screen) : Prop :=
  ∀ field value, item.pick? = some (field, value) → s.offers field value value = true

def IsShown : Item → Prop
  | .location l => Text.contains l.summary l.city = true
  | _ => True

inductive Hindered (s : Screen) : Item → Failure → Prop
  | option {item : Item} {field value : String} (picks : item.pick? = some (field, value))
      (refused : s.offers field value value = false) :
      Hindered s item (.screen (.unknownOption field value))
  | address {l : Location} (hidden : Text.contains l.summary l.city = false) :
      Hindered s (.location l) (.addressNotRendered l.summary l.city)

theorem Hindered.congr {s after : Screen} {item : Item} {cause : Failure}
    (hindered : item.Hindered after cause) (same : after.options = s.options) :
    item.Hindered s cause := by
  cases hindered with
  | option picks refused =>
      refine .option picks ?_
      rw [← refused]
      unfold Screen.offers
      rw [same]
  | address hidden => exact .address hidden

variable {server : Server σ} {s after : Screen} {rest : σ} {item : Item}

/-! ## Forms on ready screens -/

section Following

variable {c : Call} {calls : List Call} {good : Unit → Screen × σ → Prop}
  {bad : Failure → Screen × σ → Prop}

/-- A call that is answered leads to the next. -/
theorem follow_answered (value : c.Answer) (answered : s.call c = (.ok value, after))
    (ends : (follow server.desk calls).Ends (after, rest) good bad) :
    (follow server.desk (c :: calls)).Ends (s, rest) good bad := by
  rw [follow_cons, ends_bind, ends_of_eq (server.gesture_ok answered rest)]
  exact ⟨fun _ _ => ends, fun _ failed => by cases failed⟩

/-- A call that is refused is the last. -/
theorem follow_refused {cause : ScreenError} (refused : s.call c = (.error cause, after))
    (ends : bad (.screen cause) (after, rest)) :
    (follow server.desk (c :: calls)).Ends (s, rest) good bad := by
  have called : server.desk.call c (s, rest) = (.error cause, after, rest) := by
    change ((s.call c).1, (s.call c).2, rest) = _
    rw [refused]
  rw [follow_cons, ends_bind, Desk.ends_gesture, ends_of_eq called]
  refine ⟨nofun, ?_⟩
  rintro _ ⟨⟩
  exact ends

end Following

/-- How filling a form ends: with every call answered and no editor open, or at the option. -/
abbrev FormEnds (server : Server σ) (item : Item) (s : Screen) (rest : σ) : Prop :=
  (follow server.desk item.form).Ends (s, rest)
    (fun _ after => item.IsOffered s ∧ after.1.editor = none)
    fun cause _ => item.Hindered s cause

theorem form_location (ready : s.Ready) (l : Location) :
    FormEnds server (location l) s rest := by
  obtain ⟨visited, form, editor⟩ := ready
  refine follow_answered () (Screen.call_selectTab_eq_ok.mpr ⟨visited, form, rfl⟩) ?_
  refine follow_answered ()
    (Screen.call_pressAddNew_eq_ok.mpr ⟨visited, Option.some_ne_none _, form, rfl⟩) ?_
  refine follow_answered () (Screen.call_writeText_modal_eq_ok.mpr ⟨editor, _, rfl, rfl⟩) ?_
  refine follow_answered ()
    (Screen.call_clickFormTitle_eq_ok.mpr ⟨editor, Option.some_ne_none _, rfl⟩) ?_
  refine follow_answered ()
    (Screen.call_openAddressEditor_eq_ok.mpr ⟨editor, Option.some_ne_none _, rfl⟩) ?_
  refine follow_answered () (Screen.call_writeText_address_eq_ok.mpr ⟨_, rfl, rfl⟩) ?_
  refine follow_answered () (Screen.call_writeText_address_eq_ok.mpr ⟨_, rfl, rfl⟩) ?_
  cases offered : s.offers Field.addressCountry l.country l.country with
  | false =>
      exact follow_refused (Screen.call_pickOption_refused offered) (.option rfl offered)
  | true =>
      refine follow_answered ()
        (Screen.call_pickOption_address_eq_ok.mpr ⟨offered, _, rfl, rfl⟩) ?_
      refine follow_answered () (Screen.call_closeAddressEditor_eq_ok.mpr ⟨_, _, rfl, rfl, rfl⟩) ?_
      refine ⟨?_, rfl⟩
      rintro _ _ ⟨⟩
      exact offered

/-- The box of a new contact has not been clicked before. -/
theorem form_contact (ready : s.Ready) (c : Contact) : FormEnds server (contact c) s rest := by
  obtain ⟨visited, form, editor⟩ := ready
  have offered : (contact c).IsOffered s := nofun
  refine follow_answered () (Screen.call_selectTab_eq_ok.mpr ⟨visited, form, rfl⟩) ?_
  refine follow_answered ()
    (Screen.call_pressAddNew_eq_ok.mpr ⟨visited, Option.some_ne_none _, form, rfl⟩) ?_
  refine follow_answered () (Screen.call_writeText_modal_eq_ok.mpr ⟨editor, _, rfl, rfl⟩) ?_
  refine follow_answered () (Screen.call_writeText_modal_eq_ok.mpr ⟨editor, _, rfl, rfl⟩) ?_
  cases c.isDefault with
  | false => exact ⟨offered, editor⟩
  | true =>
      refine follow_answered ()
        (Screen.call_clickCheckbox_modal_eq_ok.mpr ⟨editor, _, rfl, ?_, rfl⟩) ⟨offered, editor⟩
      simp [Dict.get?_insert, Dict.get?, Field.contactDefault, Field.contactFirstName,
        Field.contactLastName]

theorem form_bank (ready : s.Ready) (name : String) : FormEnds server (bank name) s rest := by
  obtain ⟨visited, form, editor⟩ := ready
  refine follow_answered () (Screen.call_selectTab_eq_ok.mpr ⟨visited, form, rfl⟩) ?_
  refine follow_answered ()
    (Screen.call_pressAddNew_eq_ok.mpr ⟨visited, Option.some_ne_none _, form, rfl⟩) ?_
  cases offered : s.offers Field.bank name name with
  | false =>
      exact follow_refused (Screen.call_pickOption_refused offered) (.option rfl offered)
  | true =>
      refine follow_answered ()
        (Screen.call_pickOption_modal_eq_ok.mpr ⟨offered, editor, _, rfl, rfl⟩) ?_
      refine follow_answered () (Screen.call_writeText_modal_eq_ok.mpr ⟨editor, _, rfl, rfl⟩) ?_
      refine ⟨?_, editor⟩
      rintro _ _ ⟨⟩
      exact offered

theorem form_ready (ready : s.Ready) (item : Item) : FormEnds server item s rest := by
  cases item with
  | location l => exact form_location ready l
  | contact c => exact form_contact ready c
  | bank name => exact form_bank ready name

/-- A form whose calls are all answered shows the row of its item, and no row is saved yet. -/
theorem form_filled (item : Item) :
    (follow server.desk item.form).Ends (s, rest) (fun _ after => item.Filled s after.1)
      fun _ after => s.SameRows after.1 := by
  have plain : (follow server.around.desk.recorded item.form).Mirrors
      (follow server.desk item.form) fun world image => world.2 = image :=
    follow_mirrors server.around.desk.recorded_mirrors fun _ _ => trivial
  have ends : (follow server.around.desk.recorded item.form).Ends ([], s, rest) _ _ :=
    follow_ends item.form_quiet
  refine plain.unrecorded (ends.mono ?_ fun _ _ kept => kept.1)
  exact fun _ _ followed => filled_of_follow followed.1

/-! ## Entries on ready screens -/

/-- A filled form is checked by looking at it. -/
theorem check_filled {s after : Screen} {rest : σ} {item : Item} (filled : item.Filled s after) :
    (item.check server.desk).Ends (after, rest)
      (fun _ last => item.IsShown ∧ item.Filled s last.1 ∧ last.1.editor = after.editor)
      fun cause last => s.SameRows last.1 ∧ item.Hindered s cause := by
  cases item with
  | contact c => exact ⟨trivial, filled, rfl⟩
  | bank name => exact ⟨trivial, filled, rfl⟩
  | location l =>
      have address : (Item.row (.location l)).get? Field.locationAddress = some l.summary := by
        simp [row, Dict.ofList, Dict.get?_insert, Field.locationName, Field.locationAddress]
      have seen : after.call (.addressSummary Field.locationAddress) =
          (.ok l.summary, after.logged (.addressSummary Field.locationAddress)) := by
        refine Screen.call_addressSummary_eq_ok.mpr ⟨_, filled.form, ?_, rfl⟩
        rw [address, Option.getD_some]
      unfold check
      rw [ends_bind, ends_of_eq (server.gesture_ok seen rest)]
      refine ⟨fun summary same => ?_, fun _ failed => by cases failed⟩
      obtain rfl : l.summary = summary := Except.ok.inj same
      cases shown : Text.contains l.summary l.city with
      | true =>
          rw [if_pos rfl]
          exact ⟨shown, ⟨filled.tab, filled.form, filled.sameRows⟩, rfl⟩
      | false =>
          rw [if_neg Bool.false_ne_true]
          exact ⟨filled.sameRows, .address shown⟩

theorem save_filled (filled : item.Filled s after) (ready : s.Ready) (free : after.editor = none) :
    ∃ last, after.call .pressDone = (.ok (), last) ∧ item.Entered s last ∧ last.Ready := by
  have opened : after.visited ≠ none := filled.sameRows.2 ▸ ready.visited
  obtain ⟨grids, visited⟩ := filled.sameRows
  refine ⟨_, Screen.call_pressDone_eq_ok.mpr
    ⟨free, item.tab, item.row, opened, filled.tab, filled.form, rfl⟩, ?_, opened, rfl, free⟩
  exact ⟨filled.tab, visited, congrArg (Grids.push · item.tab item.row) grids⟩

/-- On a ready screen an item is entered if it is offered and shown. Otherwise nothing is
saved. -/
theorem enter_ready (ready : s.Ready) (item : Item) :
    (item.enter server.desk).Ends (s, rest)
      (fun _ after => item.IsOffered s ∧ item.IsShown ∧ item.Entered s after.1 ∧ after.1.Ready)
      fun cause after => s.SameRows after.1 ∧ item.Hindered s cause := by
  rw [enter_eq, ends_bind, Desk.ends_report, ends_bind]
  refine ((form_ready ready item).and item.form_filled).mono ?_ ?_
  · rintro _ ⟨s₁, rest₁⟩ ⟨⟨offered, free⟩, filled⟩
    rw [ends_bind]
    refine (check_filled filled).mono ?_ fun _ _ failed => failed
    rintro _ ⟨s₂, rest₂⟩ ⟨shown, filled, same⟩
    obtain ⟨last, saved, entered, again⟩ := save_filled filled ready (same.trans free)
    rw [ends_of_eq (server.gesture_ok saved rest₂)]
    exact ⟨fun _ _ => ⟨offered, shown, entered, again⟩, fun _ failed => by cases failed⟩
  · rintro cause ⟨s₁, rest₁⟩ ⟨hindered, kept⟩
    exact ⟨kept, hindered⟩

end Item

end PartnerRecords
