import PartnerRecords.Rest.Snapshot
import PartnerRecords.Screen.Entry

/-!
# Builders

A builder holds a draft, the identifier of its record once there is one, and how much of the
draft has been entered. A record is created at most once, and its identifier is kept whatever
fails afterwards.
-/

namespace PartnerRecords

structure Builder where
  draft : Draft
  record : Option RecordId := none
  progress : Progress := {}
deriving DecidableEq, Repr

namespace Edit

/-- The draft after an edit. -/
def draft : Edit → Draft → Draft
  | .setName name, d => { d with name }
  | .setVendor flag, d => { d with isVendor := flag }
  | .setVendorPricingSystem name, d => { d with vendorPricingSystem := some name }
  | .setVendorDiscountSchema name, d => { d with vendorDiscountSchema := some name }
  | .setCustomerDunning name, d => { d with customerDunning := some name }
  | .setCustomer flag, d => { d with isCustomer := flag }
  | .setPaymentTerm name, d => { d with paymentTerm := some name }
  | .setCustomerPricingSystem name, d => { d with customerPricingSystem := some name }
  | .setCustomerDiscountSchema name, d => { d with customerDiscountSchema := some name }
  | .setBank name, d => { d with bank := some name }
  | .addLocation location, d => { d with locations := d.locations ++ [location] }
  | .clearLocations, d => { d with locations := [] }
  | .addContact contact, d => { d with contacts := d.contacts ++ [contact] }
  | .clearContacts, d => { d with contacts := [] }

/-- The progress after an edit: a cleared queue begins anew. -/
def progress : Edit → Progress → Progress
  | .clearLocations, p => p.resetLocations
  | .clearContacts, p => p.resetContacts
  | _, p => p

end Edit

namespace Builder

def named (name : String) : Builder :=
  { draft := { name } }

def edit (b : Builder) (e : Edit) : Builder :=
  { b with draft := e.draft b.draft, progress := e.progress b.progress }

variable {ω : Type} (window : PartnerWindow) (desk : Desk ω)

/-- Sends the changes that the draft asks for beyond its name. -/
def sendTerms (d : Draft) (record : RecordId) : Act ω Failure Unit := do
  let snapshot ← window.snapshot desk record
  match termChanges d snapshot with
  | .error missing => Act.fail (.notFound missing.name)
  | .ok [] => Act.done ()
  | .ok changes => do
      let _ ← window.client.patchRecordAdvanced desk record changes

/-- Creates the record and sends what the draft says of it. The identifier is kept as soon as
it is known. -/
def persist : Act (Builder × ω) Failure RecordId := do
  let (builder, _) ← Act.get
  let record ← Act.inside (window.client.createRecord desk)
  Act.updateFirst fun b => { b with record := some record }
  let _ ← Act.inside (window.client.patchRecord desk record (basicChanges builder.draft.name))
  if builder.draft.needsReferences then
    Act.inside (sendTerms window desk builder.draft record)
  return record

/-- Enters the rows of a draft with the progress of the builder. -/
def enterRows (d : Draft) : Act (Builder × ω) Failure Unit :=
  fun (builder, world) =>
    match Entry.replay desk d (builder.progress, world) with
    | (result, (progress, world)) => (result, ({ builder with progress }, world))

/-- Enters what is pending on the screen of the record. Without anything pending the screen is
not touched. -/
def replay : Act (Builder × ω) Failure Unit := do
  let (builder, _) ← Act.get
  match builder.record with
  | none => Act.fail .notPersisted
  | some record =>
      if builder.progress.hasPending builder.draft then do
        Act.inside (desk.report (.replayStarted record builder.draft.locations.length
          builder.draft.contacts.length builder.draft.bank.isSome))
        Act.inside (desk.gesture (.visitWindow window.layout.windowId record))
        enterRows desk builder.draft
      else Act.done ()

/-- Creates the record of a partner, once, and enters its rows. -/
def apply : Act (Builder × ω) Failure RecordId := do
  let (builder, _) ← Act.get
  match builder.record with
  | some record => Act.fail (.alreadyApplied record)
  | none => do
      Act.inside (desk.report (.applyStarted builder.draft.name))
      let record ← persist window desk
      Act.inside (desk.report (.applyEnded builder.draft.name record))
      replay window desk
      return record

end Builder

end PartnerRecords
