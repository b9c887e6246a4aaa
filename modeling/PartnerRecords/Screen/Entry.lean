import PartnerRecords.Partner.Progress
import PartnerRecords.Rest.Desk
import PartnerRecords.Screen.Basic

/-!
# Entering detail rows

Locations, contacts and bank accounts are typed into the screen of a record, in this order,
each from its own tab. A row counts as entered once its form is saved. After every batch the
grid has to show the rows entered so far, and no more.
-/

namespace PartnerRecords

namespace Entry

variable {ω : Type} (desk : Desk ω)

/-- The line of an address that is not known. -/
def blankLine : String := " "

def accountName : String := "Test Account"

/-- Enters one location and checks that its address shows the city. -/
def location (l : Location) : Act ω Failure Unit := do
  desk.report (.enteringLocation l)
  desk.gesture (.selectTab .locations)
  desk.gesture .pressAddNew
  desk.gesture (.writeText Field.locationName l.name .modal)
  desk.gesture .clickFormTitle
  desk.gesture (.openAddressEditor Field.locationAddress)
  desk.gesture (.writeText Field.addressLine blankLine .address)
  desk.gesture (.writeText Field.addressCity l.city .address)
  desk.gesture (.pickOption Field.addressCountry l.country l.country .address)
  desk.gesture .closeAddressEditor
  let summary ← desk.gesture (.addressSummary Field.locationAddress)
  if Text.contains summary l.city then desk.gesture .pressDone
  else Act.fail (.addressNotRendered summary l.city)

/-- Enters one contact. -/
def contact (c : Contact) : Act ω Failure Unit := do
  desk.report (.enteringContact c)
  desk.gesture (.selectTab .contacts)
  desk.gesture .pressAddNew
  desk.gesture (.writeText Field.contactFirstName c.firstName .modal)
  desk.gesture (.writeText Field.contactLastName c.lastName .modal)
  if c.isDefault then desk.gesture (.clickCheckbox Field.contactDefault true .modal)
  desk.gesture .pressDone

/-- Enters one bank account. -/
def bank (name : String) : Act ω Failure Unit := do
  desk.report (.enteringBank name)
  desk.gesture (.selectTab .bankAccounts)
  desk.gesture .pressAddNew
  desk.gesture (.pickOption Field.bank name name .modal)
  desk.gesture (.writeText Field.bankAccountName accountName .modal)
  desk.gesture .pressDone

/-- Checks the number of rows in the grid of the tab that is shown. -/
def expectRows (tab : DetailTab) (expected : Nat) : Act ω Failure Unit := do
  let actual ← desk.gesture .countRows
  if actual = expected then Act.done () else Act.fail (.gridMismatch tab actual expected)

/-- Enters items one by one, counting each, and checks the grid at the end. Without items
nothing is done. -/
def batch {α : Type} (tab : DetailTab) (enter : α → Act ω Failure Unit)
    (count : Progress → Progress) (rows : Progress → Nat) (items : List α) :
    Act (Progress × ω) Failure Unit :=
  if items.isEmpty then Act.done ()
  else do
    Act.each (fun item => do
      Act.inside (enter item)
      Act.updateFirst count) items
    let (progress, _) ← Act.get
    Act.inside (expectRows desk tab (rows progress))

def pendingLocations (d : Draft) : Act (Progress × ω) Failure Unit := do
  let (progress, _) ← Act.get
  batch desk .locations (location desk) Progress.countLocation Progress.locationRows
    (d.locations.drop progress.locations)

def pendingContacts (d : Draft) : Act (Progress × ω) Failure Unit := do
  let (progress, _) ← Act.get
  batch desk .contacts (contact desk) Progress.countContact Progress.contactRows
    (d.contacts.drop progress.contacts)

def pendingBank (d : Draft) : Act (Progress × ω) Failure Unit := do
  let (progress, _) ← Act.get
  match d.bank with
  | none => Act.done ()
  | some name =>
      if progress.bank = some name then Act.done ()
      else do
        Act.inside (bank desk name)
        Act.updateFirst (·.recordBank name)

/-- Enters what of a draft has not been entered yet. -/
def replay (d : Draft) : Act (Progress × ω) Failure Unit := do
  pendingLocations desk d
  pendingContacts desk d
  pendingBank desk d

end Entry

end PartnerRecords
