import Mathlib.Data.List.Forall2
import PartnerRecords.Proofs.Screen.Effect

/-!
# Histories

What a screen shows can be told from the calls made so far and their answers. A past is the list
of the effects of these calls, the last one first. The rows of a tab are those that were saved on
it since another record was opened; the value of a field is what the last effect on it has left.
-/

namespace PartnerRecords

/-- Effects, the last one first. -/
abbrev Past := List Effect

namespace Past

def of (turns : List Turn) : Past :=
  (turns.filterMap Turn.effect?).reverse

def visited? : Effect → Option (Nat × RecordId)
  | .visited window record => some (window, record)
  | _ => none

def shown (past : Past) : Option (Nat × RecordId) :=
  past.findSome? visited?

def entries (past : Past) : Past :=
  past.takeWhile (· ≠ .added)

def host : Past → Option String
  | [] => none
  | .added :: _ => none
  | .opened field :: _ => some field
  | _ :: past => host past

/-- The tab that was selected last, unless a record has been opened since. -/
def onTab : Past → Option DetailTab
  | [] => none
  | .visited _ _ :: _ => none
  | .selected tab :: _ => some tab
  | _ :: past => onTab past

def addressLine (value? : String → Option String) : String :=
  let parts := [Field.addressLine, Field.addressCity, Field.addressCountry].filterMap value?
  ", ".intercalate ((parts.map Text.trim).filter (· ≠ ""))

/-- What the last effect on a field has left in it since the form, or the address editor, was
opened. -/
def value? (scope : Scope) (field : String) : Past → Option String
  | [] => none
  | .added :: _ => none
  | .opened _ :: past => if scope = .address then none else value? scope field past
  | .put other name value :: past =>
      if other = scope ∧ name = field then some value else value? scope field past
  | .clicked other name :: past =>
      if other = scope ∧ name = field then
        some (if value? scope field past = some "true" then "false" else "true")
      else value? scope field past
  | .closed :: past =>
      if scope = .modal ∧ host past = some field then
        some (addressLine fun name => value? .address name past)
      else value? scope field past
  | _ :: past => value? scope field past

/-- For each row that was saved on a tab since another record was opened, what came before. -/
def saves (tab : DetailTab) : Past → List Past
  | [] => []
  | .visited window record :: past =>
      if shown past = some (window, record) then saves tab past else []
  | .saved :: past => if onTab past = some tab then saves tab past ++ [past] else saves tab past
  | _ :: past => saves tab past

def IsOn (field : String) : Effect → Past → Prop
  | .put .modal name _, _ => name = field
  | .clicked .modal name, _ => name = field
  | .closed, before => host before = some field
  | _, _ => False

def Touched (field : String) (past : Past) : Prop :=
  ∃ later effect before, entries past = later ++ effect :: before ∧ IsOn field effect before

def inEditor : Effect → Bool
  | .put .address _ _ => true
  | .clicked .address _ => true
  | _ => false

/-- Without what was entered into the address editor. -/
def besidesEditor (past : Past) : Past :=
  past.filter fun effect => !inEditor effect

/-! ## Fields -/

structure Reads (scope : Scope) (past : Past) (values : GridRow) : Prop where
  ordered : values.Ordered
  get?_eq : ∀ field, values.get? field = value? scope field past

variable {past : Past} {scope : Scope} {values : GridRow}

inductive Enters (values : GridRow) (scope : Scope) (field : String) : String → Effect → Prop
  | put (value : String) : Enters values scope field value (.put scope field value)
  | clicked : Enters values scope field
      (Screen.checkText (values.get? field != some "true")) (.clicked scope field)

theorem Reads.entered (reads : Reads scope past values) {field value : String} {effect : Effect}
    (enters : Enters values scope field value effect) :
    Reads scope (effect :: past) (values.insert field value) where
  ordered := reads.ordered.insert field value
  get?_eq name := by
    rw [Dict.get?_insert, reads.get?_eq]
    cases enters with
    | put => simp only [value?, true_and]
    | clicked =>
        simp only [value?, true_and, Screen.checkText, bne_iff_ne, ne_eq, ite_not, reads.get?_eq]
        split
        · next same => rw [same]
        · rfl

theorem Reads.entered_elsewhere (reads : Reads scope past values) {other : Scope}
    (elsewhere : other ≠ scope) {others : GridRow} {field value : String} {effect : Effect}
    (enters : Enters others other field value effect) : Reads scope (effect :: past) values where
  ordered := reads.ordered
  get?_eq name := by
    rw [reads.get?_eq]
    cases enters <;> simp only [value?, elsewhere, false_and, if_false]

theorem reads_added (past : Past) : Reads .modal (.added :: past) [] :=
  ⟨.nil, fun _ => rfl⟩

theorem reads_opened (field : String) (past : Past) : Reads .address (.opened field :: past) [] :=
  ⟨.nil, fun _ => rfl⟩

theorem Reads.opened (reads : Reads .modal past values) (field : String) :
    Reads .modal (.opened field :: past) values :=
  ⟨reads.ordered, reads.get?_eq⟩

theorem summary_eq {editor : AddressEditor} (reads : Reads .address past editor.values) :
    editor.summary = addressLine fun name => value? .address name past := by
  rw [← funext reads.get?_eq]
  rfl

theorem Reads.closed (reads : Reads .modal past values) {editor : AddressEditor}
    (hosted : host past = some editor.field) (entered : Reads .address past editor.values) :
    Reads .modal (.closed :: past) (values.insert editor.field editor.summary) where
  ordered := reads.ordered.insert editor.field _
  get?_eq name := by
    rw [Dict.get?_insert, reads.get?_eq, summary_eq entered]
    simp only [value?, hosted, true_and, Option.some.injEq]

/-! ## Which fields a form has -/

theorem host_entries (past : Past) : host (entries past) = host past := by
  induction past with
  | nil => rfl
  | cons effect past ih =>
      cases effect with
      | added => rfl
      | opened field => rfl
      | _ => exact ih

theorem touched_cons {field : String} {effect : Effect} (within : effect ≠ .added) :
    Touched field (effect :: past) ↔ IsOn field effect (entries past) ∨ Touched field past := by
  have kept : entries (effect :: past) = effect :: entries past :=
    List.takeWhile_cons_of_pos (by simpa using within)
  constructor
  · rintro ⟨later, other, before, split, isOn⟩
    rw [kept] at split
    cases later with
    | nil =>
        cases split
        exact .inl isOn
    | cons first later =>
        obtain ⟨-, rest⟩ := List.cons.inj split
        exact .inr ⟨later, other, before, rest, isOn⟩
  · rintro (isOn | ⟨later, other, before, split, isOn⟩)
    · exact ⟨[], effect, entries past, kept, isOn⟩
    · exact ⟨effect :: later, other, before, by rw [kept, split]; rfl, isOn⟩

/-- The fields of a form are those that an effect was on. -/
theorem isSome_value?_iff {field : String} :
    (value? .modal field past).isSome = true ↔ Touched field past := by
  induction past with
  | nil =>
      refine iff_of_false nofun ?_
      rintro ⟨later, effect, before, split, -⟩
      cases later <;> cases split
  | cons effect past ih =>
      by_cases added : effect = .added
      · subst added
        refine iff_of_false nofun ?_
        rintro ⟨later, effect, before, split, -⟩
        cases later <;> cases split
      · rw [touched_cons added, ← ih]
        cases effect with
        | added => exact absurd rfl added
        | put scope name value =>
            cases scope <;> simp only [value?, IsOn] <;> split <;> simp_all
        | clicked scope name =>
            cases scope <;> simp only [value?, IsOn] <;> split <;> simp_all
        | closed =>
            simp only [value?, IsOn, host_entries]
            split <;> simp_all
        | _ => exact (or_iff_right id).symm

/-! ## What stays in the address editor -/

theorem host_besidesEditor (past : Past) : host (besidesEditor past) = host past := by
  induction past with
  | nil => rfl
  | cons effect past ih =>
      cases effect with
      | put scope field value => cases scope <;> exact ih
      | clicked scope field => cases scope <;> exact ih
      | added => rfl
      | opened field => rfl
      | _ => exact ih

theorem host_ne {field : String} (apart : Effect.opened field ∉ entries past) :
    host past ≠ some field := by
  induction past with
  | nil => nofun
  | cons effect past ih =>
      cases effect with
      | added => nofun
      | opened name =>
          rintro ⟨⟩
          exact apart (List.mem_cons_self ..)
      | _ => exact ih (mt (List.mem_cons_of_mem _) apart)

/-- What was entered into the address editor reaches the form through the line of an address that
was closed, and in no other way. -/
theorem value?_besidesEditor {field : String} (apart : Effect.opened field ∉ entries past) :
    value? .modal field (besidesEditor past) = value? .modal field past := by
  induction past with
  | nil => rfl
  | cons effect past ih =>
      cases effect with
      | put scope name value =>
          have same := ih (mt (List.mem_cons_of_mem _) apart)
          cases scope with
          | modal =>
              change value? .modal field (.put .modal name value :: besidesEditor past) = _
              simp only [value?, same]
          | address => exact same
      | clicked scope name =>
          have same := ih (mt (List.mem_cons_of_mem _) apart)
          cases scope with
          | modal =>
              change value? .modal field (.clicked .modal name :: besidesEditor past) = _
              simp only [value?, same]
          | address => exact same
      | closed =>
          have before : Effect.opened field ∉ entries past := mt (List.mem_cons_of_mem _) apart
          change value? .modal field (.closed :: besidesEditor past) = _
          simp only [value?, host_besidesEditor, host_ne before, ih before, and_false, if_false]
      | added => rfl
      | _ => exact ih (mt (List.mem_cons_of_mem _) apart)

end Past

/-! ## Screens -/

open Past

namespace Screen

def turns (s : Screen) : List Call → List Turn
  | [] => []
  | c :: rest => ⟨c, (s.call c).1⟩ :: (s.call c).2.turns rest

structure Recalls (s : Screen) (past : Past) : Prop where
  coherent : s.Coherent
  visited : s.visited = shown past
  tab : s.tab = onTab past
  form : ∀ values, s.form = some values → Reads .modal past values
  editor : ∀ editor, s.editor = some editor →
    host past = some editor.field ∧ Reads .address past editor.values
  rows : ∀ tab, List.Forall₂ (fun row before => Reads .modal before row) (s.grids.rows tab)
    (saves tab past)

variable {s after : Screen} {past : Past}

theorem Recalls.logged (recalls : s.Recalls past) (c : Call) : (s.logged c).Recalls past :=
  ⟨recalls.coherent.logged c, recalls.visited, recalls.tab, recalls.form, recalls.editor,
    recalls.rows⟩

theorem Recalls.visit (recalls : s.Recalls past) (window : Nat) (record : RecordId) :
    (s.visit window record).Recalls (.visited window record :: past) where
  coherent := recalls.coherent.moved (.visited window record)
  visited := rfl
  tab := rfl
  form _ form := nomatch form
  editor _ opened := nomatch opened
  rows tab := by
    simp only [Screen.visit, saves, ← recalls.visited]
    split
    · exact recalls.rows tab
    · cases tab <;> exact .nil

theorem Recalls.entered (recalls : s.Recalls past) {scope : Scope} {values : GridRow}
    (found : s.scopeValues scope = .ok values) {field value : String} {effect : Effect}
    (enters : Enters values scope field value effect) :
    (s.setScopeValues (values.insert field value) scope).Recalls (effect :: past) := by
  have coherent := recalls.coherent.setScopeValues found (values.insert field value)
  have shown_eq : shown (effect :: past) = shown past := by cases enters <;> rfl
  have onTab_eq : onTab (effect :: past) = onTab past := by cases enters <;> rfl
  have host_eq : host (effect :: past) = host past := by cases enters <;> rfl
  have saves_eq (tab) : saves tab (effect :: past) = saves tab past := by cases enters <;> rfl
  cases scope with
  | modal =>
      obtain ⟨free, form⟩ := scopeValues_modal_eq_ok.mp found
      refine ⟨coherent, recalls.visited.trans shown_eq.symm, recalls.tab.trans onTab_eq.symm,
        ?_, ?_, fun tab => saves_eq tab ▸ recalls.rows tab⟩
      · rintro _ ⟨⟩
        exact (recalls.form _ form).entered enters
      · intro editor opened
        exact nomatch free.symm.trans opened
  | address =>
      obtain ⟨editor, opened, rfl⟩ := scopeValues_address_eq_ok.mp found
      obtain ⟨hosted, entered⟩ := recalls.editor editor opened
      refine ⟨coherent, recalls.visited.trans shown_eq.symm, recalls.tab.trans onTab_eq.symm,
        fun row form => ?_, ?_, fun tab => saves_eq tab ▸ recalls.rows tab⟩
      · exact (recalls.form row form).entered_elsewhere (by decide) enters
      · simp only [setScopeValues, opened, Option.map_some, Option.some.injEq]
        rintro _ rfl
        exact ⟨host_eq.trans hosted, entered.entered enters⟩

/-- Every effect adds to the past that a screen recalls. -/
theorem Recalls.moved (recalls : s.Recalls past) {effect : Option Effect}
    (moves : s.Moves effect after) : after.Recalls (effect.toList ++ past) := by
  have coherent := recalls.coherent.moved moves
  cases moves with
  | still => exact recalls
  | visited window record => exact recalls.visit window record
  | selected shown free =>
      refine ⟨coherent, recalls.visited, rfl, fun values form => ?_, fun editor opened => ?_,
        recalls.rows⟩
      · exact nomatch free.symm.trans form
      · exact absurd free (recalls.coherent.form_of_editor (ne_none_of_eq opened))
  | added onTab free =>
      refine ⟨coherent, recalls.visited, recalls.tab, ?_, fun editor opened => ?_, recalls.rows⟩
      · rintro _ ⟨⟩
        exact reads_added past
      · exact absurd free (recalls.coherent.form_of_editor (ne_none_of_eq opened))
  | put found => exact recalls.entered found (.put _)
  | clicked found => exact recalls.entered found .clicked
  | opened free form =>
      refine ⟨coherent, recalls.visited, recalls.tab, fun values form => ?_, ?_, recalls.rows⟩
      · exact (recalls.form values form).opened _
      · rintro _ ⟨⟩
        exact ⟨rfl, reads_opened _ past⟩
  | closed opened below =>
      obtain ⟨hosted, entered⟩ := recalls.editor _ opened
      refine ⟨coherent, recalls.visited, recalls.tab, ?_, nofun, recalls.rows⟩
      rintro _ ⟨⟩
      exact (recalls.form _ below).closed hosted entered
  | @saved tab row free onTab form =>
      refine ⟨coherent, recalls.visited, recalls.tab, nofun, fun editor opened => ?_,
        fun other => ?_⟩
      · exact nomatch free.symm.trans opened
      · have selected := recalls.tab.symm.trans onTab
        rw [Grids.rows_push]
        simp only [Option.toList_some, List.singleton_append, saves, selected, Option.some.injEq]
        by_cases same : other = tab
        · rw [if_pos same, if_pos same.symm]
          exact List.rel_append (recalls.rows other) (.cons (recalls.form _ form) .nil)
        · rw [if_neg same, if_neg (Ne.symm same)]
          exact recalls.rows other

theorem Recalls.call (recalls : s.Recalls past) (c : Call) :
    (s.call c).2.Recalls ((Turn.effect? ⟨c, (s.call c).1⟩).toList ++ past) :=
  (recalls.logged c).moved (recalls.coherent.moves_call c)

theorem Recalls.callAll (recalls : s.Recalls past) (calls : List Call) :
    (s.callAll calls).Recalls (Past.of (s.turns calls) ++ past) := by
  induction calls generalizing s past with
  | nil => exact recalls
  | cons c rest ih =>
      have later := ih (recalls.call c)
      have split : Past.of (s.turns (c :: rest)) =
          Past.of ((s.call c).2.turns rest) ++ (Turn.effect? ⟨c, (s.call c).1⟩).toList := by
        simp only [Past.of, turns, List.filterMap_cons]
        cases Turn.effect? ⟨c, (s.call c).1⟩ with
        | none => simp
        | some effect => simp
      rw [split, List.append_assoc]
      exact later

theorem recalls_new (options : Dict (List String)) : Recalls { options } [] where
  coherent := coherent_new options
  visited := rfl
  tab := rfl
  form _ form := nomatch form
  editor _ opened := nomatch opened
  rows tab := by cases tab <;> exact .nil

/-- After any calls on a new screen, whichever were refused, the rows of a tab are those that
were saved on it since another record was opened, in this order. Each has the fields that were
entered into its form, or whose address was closed, with what the last effect has left in them;
what was entered into an address editor reaches a row in no other way. -/
theorem rows_of_turns (options : Dict (List String)) (calls : List Call) (tab : DetailTab) :
    let s : Screen := { options }
    List.Forall₂ (fun row before => row.Ordered ∧
        (∀ field, (row.get? field).isSome = true ↔ Touched field before) ∧
        (∀ field, row.get? field = value? .modal field before) ∧
        ∀ field, Effect.opened field ∉ entries before →
          row.get? field = value? .modal field (besidesEditor before))
      ((s.callAll calls).grids.rows tab) (saves tab (Past.of (s.turns calls))) := by
  intro s
  have recalls := (recalls_new options).callAll calls
  rw [List.append_nil] at recalls
  refine (recalls.rows tab).imp fun row before reads =>
    ⟨reads.ordered, fun field => ?_, reads.get?_eq, fun field apart => ?_⟩
  · rw [reads.get?_eq]
    exact isSome_value?_iff
  · rw [reads.get?_eq, value?_besidesEditor apart]

end Screen

end PartnerRecords
