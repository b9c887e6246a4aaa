/-!
# Calls on the record screen

The gestures a person makes on the screen of a record, what each answers, and why one may be
refused.
-/

namespace PartnerRecords

/-- The identifier of a document, as the server spells it. -/
structure RecordId where
  text : String
deriving DecidableEq, Repr

inductive DetailTab
  | locations
  | contacts
  | bankAccounts
deriving DecidableEq, Repr

def DetailTab.id : DetailTab → String
  | .locations => "C_BPartner_Location"
  | .contacts => "AD_User"
  | .bankAccounts => "C_BP_BankAccount"

/-- Where a field is: in the form of a new row, or in the address editor opened from it. -/
inductive Scope
  | modal
  | address
deriving DecidableEq, Repr

inductive Call
  | visitWindow (window : Nat) (record : RecordId)
  | selectTab (tab : DetailTab)
  | pressAddNew
  | writeText (field value : String) (scope : Scope)
  | pickOption (field query expected : String) (scope : Scope)
  | clickFormTitle
  | clickCheckbox (field : String) (expected : Bool) (scope : Scope)
  | openAddressEditor (field : String)
  | closeAddressEditor
  | addressSummary (field : String)
  | pressDone
  | countRows
deriving DecidableEq, Repr

/-- What a call answers when it is not refused. -/
abbrev Call.Answer : Call → Type
  | .addressSummary _ => String
  | .countRows => Nat
  | _ => Unit

inductive ScreenError
  | notNavigated
  | noTabSelected
  | formOpen
  | noOpenForm
  | editorOpen
  | editorClosed
  | unknownOption (field value : String)
  | unexpectedValue (field expected actual : String)
  | driver (text : String)
deriving DecidableEq, Repr

def ScreenError.message : ScreenError → String
  | .notNavigated => "no record screen is open"
  | .noTabSelected => "no detail tab is selected"
  | .formOpen => "a modal form is already open"
  | .noOpenForm => "no modal form is open"
  | .editorOpen => "the address editor is still open"
  | .editorClosed => "the address editor is not open"
  | .unknownOption field value => "field " ++ field ++ " offers no option '" ++ value ++ "'"
  | .unexpectedValue field expected actual =>
      "field " ++ field ++ " shows '" ++ actual ++ "', expected '" ++ expected ++ "'"
  | .driver text => "ui driver failure: " ++ text

end PartnerRecords
