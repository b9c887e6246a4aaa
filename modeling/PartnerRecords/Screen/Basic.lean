import PartnerRecords.Dict
import PartnerRecords.Text.Blank
import PartnerRecords.Text.Occurs
import PartnerRecords.Screen.Call

/-!
# The record screen

A screen is its grids, the form of a new row and the address editor. It demands the
order of gestures that a browser would: a record before a tab, a form before typing, the
editor closed before the form is saved. Grids last while the same record stays open. Every
call is logged, refused or not.
-/

namespace PartnerRecords

open Text (contains)

abbrev GridRow := Dict String

namespace Field

def locationName : String := "Name"
def locationAddress : String := "C_Location_ID"
def addressLine : String := "Address1"
def addressCity : String := "City"
def addressCountry : String := "C_Country_ID"
def contactFirstName : String := "Firstname"
def contactLastName : String := "Lastname"
def contactDefault : String := "IsDefaultContact"
def bank : String := "C_Bank_ID"
def bankAccountName : String := "A_Name"

end Field

structure Grids where
  locations : List GridRow := []
  contacts : List GridRow := []
  bankAccounts : List GridRow := []
deriving DecidableEq, Repr

def Grids.rows (g : Grids) : DetailTab → List GridRow
  | .locations => g.locations
  | .contacts => g.contacts
  | .bankAccounts => g.bankAccounts

def Grids.push (g : Grids) (tab : DetailTab) (row : GridRow) : Grids :=
  match tab with
  | .locations => { g with locations := g.locations ++ [row] }
  | .contacts => { g with contacts := g.contacts ++ [row] }
  | .bankAccounts => { g with bankAccounts := g.bankAccounts ++ [row] }

theorem Grids.rows_push (g : Grids) (tab other : DetailTab) (row : GridRow) :
    (g.push tab row).rows other =
      if other = tab then g.rows other ++ [row] else g.rows other := by
  cases tab <;> cases other <;> rfl

structure AddressEditor where
  field : String
  values : GridRow := []
deriving DecidableEq, Repr

/-- The line shown for an address: line, city and country without blanks at their ends, as far
as there is something to show. -/
def AddressEditor.summary (e : AddressEditor) : String :=
  let shown := [Field.addressLine, Field.addressCity, Field.addressCountry].filterMap e.values.get?
  ", ".intercalate ((shown.map Text.trim).filter (· ≠ ""))

structure Screen where
  visited : Option (Nat × RecordId) := none
  tab : Option DetailTab := none
  grids : Grids := {}
  form : Option GridRow := none
  editor : Option AddressEditor := none
  options : Dict (List String) := []
  calls : List Call := []
deriving DecidableEq, Repr

namespace Screen

/-- The text of a checked or unchecked box. -/
def checkText (checked : Bool) : String :=
  if checked then "true" else "false"

/-- The selected tab of an open record. -/
def requireTab (s : Screen) : Except ScreenError DetailTab :=
  match s.visited, s.tab with
  | none, _ => .error .notNavigated
  | some _, none => .error .noTabSelected
  | some _, some tab => .ok tab

/-- The values that a field of a scope is written into. -/
def scopeValues (s : Screen) : Scope → Except ScreenError GridRow
  | .modal =>
      if s.editor.isSome then .error .editorOpen
      else s.form.elim (.error .noOpenForm) .ok
  | .address => s.editor.elim (.error .editorClosed) fun e => .ok e.values

def setScopeValues (s : Screen) (values : GridRow) : Scope → Screen
  | .modal => { s with form := some values }
  | .address => { s with editor := s.editor.map fun e => { e with values } }

/-- Writes a value, or refuses and changes nothing. -/
def write (s : Screen) (field value : String) (scope : Scope) : Except ScreenError Unit × Screen :=
  match s.scopeValues scope with
  | .error cause => (.error cause, s)
  | .ok values => (.ok (), s.setScopeValues (values.insert field value) scope)

/-- Whether a field takes an option: any, unless its options are listed; then a listed one that
holds the query. -/
def offers (s : Screen) (field query expected : String) : Bool :=
  match s.options.get? field with
  | none => true
  | some options => options.any fun option => option == expected && contains option query

/-- Shows a record. Its rows are kept only if it was shown before. -/
def visit (s : Screen) (window : Nat) (record : RecordId) : Screen :=
  { s with
    visited := some (window, record)
    grids := if s.visited = some (window, record) then s.grids else {}
    tab := none
    form := none
    editor := none }

/-- What a call does to the screen, apart from its being logged. -/
def perform (s : Screen) : (c : Call) → Except ScreenError c.Answer × Screen
  | .visitWindow window record => (.ok (), s.visit window record)
  | .selectTab tab =>
      if s.visited.isNone then (.error .notNavigated, s)
      else if s.form.isSome then (.error .formOpen, s)
      else (.ok (), { s with tab := some tab })
  | .pressAddNew =>
      match s.requireTab with
      | .error cause => (.error cause, s)
      | .ok _ =>
          if s.form.isSome then (.error .formOpen, s)
          else (.ok (), { s with form := some [] })
  | .writeText field value scope => s.write field value scope
  | .pickOption field query expected scope =>
      if s.offers field query expected then s.write field expected scope
      else (.error (.unknownOption field expected), s)
  | .clickFormTitle =>
      if s.editor.isSome then (.error .editorOpen, s)
      else if s.form.isNone then (.error .noOpenForm, s)
      else (.ok (), s)
  | .clickCheckbox field expected scope =>
      match s.scopeValues scope with
      | .error cause => (.error cause, s)
      | .ok values =>
          let checked := values.get? field != some "true"
          let clicked := s.setScopeValues (values.insert field (checkText checked)) scope
          if checked = expected then (.ok (), clicked)
          else (.error (.unexpectedValue field (checkText expected) (checkText checked)), clicked)
  | .openAddressEditor field =>
      if s.editor.isSome then (.error .editorOpen, s)
      else if s.form.isNone then (.error .noOpenForm, s)
      else (.ok (), { s with editor := some { field } })
  | .closeAddressEditor =>
      match s.editor, s.form with
      | none, _ => (.error .editorClosed, s)
      | some _, none => (.error .noOpenForm, { s with editor := none })
      | some editor, some form =>
          let form := form.insert editor.field editor.summary
          (.ok (), { s with editor := none, form := some form })
  | .addressSummary field =>
      match s.form with
      | none => (.error .noOpenForm, s)
      | some form => (.ok ((form.get? field).getD ""), s)
  | .pressDone =>
      if s.editor.isSome then (.error .editorOpen, s)
      else match s.requireTab, s.form with
        | .error cause, _ => (.error cause, s)
        | .ok _, none => (.error .noOpenForm, s)
        | .ok tab, some row => (.ok (), { s with form := none, grids := s.grids.push tab row })
  | .countRows =>
      match s.requireTab with
      | .error cause => (.error cause, s)
      | .ok tab => (.ok (s.grids.rows tab).length, s)

/-- Logs a call and performs it. -/
def call (c : Call) (s : Screen) : Except ScreenError c.Answer × Screen :=
  { s with calls := s.calls ++ [c] }.perform c

end Screen

end PartnerRecords
