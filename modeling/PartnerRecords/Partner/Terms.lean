import PartnerRecords.Partner.Draft
import PartnerRecords.Partner.Reference
import PartnerRecords.Partner.Change

/-!
# Terms

Whether a partner is a vendor or a customer, and on what terms: the changes that a draft asks
for, given what the server holds. Flags are only ever set. Three names are looked up among the
options of the server, in a fixed order, and the first that is not found stops the
computation.
-/

namespace PartnerRecords

namespace Field

def isVendor : String := "IsVendor"
def isCustomer : String := "IsCustomer"
def vendorPricingSystem : String := "PO_PricingSystem_ID"
def vendorDiscountSchema : String := "PO_DiscountSchema_ID"
def dunning : String := "C_Dunning_ID"
def discountSchema : String := "M_DiscountSchema_ID"
def pricingSystem : String := "M_PricingSystem_ID"
def paymentTerm : String := "C_PaymentTerm_ID"

end Field

/-- A name that no option has as its caption. -/
structure NoSuchReference where
  name : String
deriving DecidableEq, Repr

def flagChange (field : String) (wanted present : Bool) : List Change :=
  if wanted && !present then [⟨field, .boolean true⟩] else []

def nameChange (field : String) (name : Option String) : List Change :=
  name.elim [] fun name => [⟨field, .text name⟩]

def resolvedChange (field : String) (options : List Reference) :
    Option String → Except NoSuchReference (List Change)
  | none => .ok []
  | some name =>
      match Reference.find? options name with
      | none => .error ⟨name⟩
      | some reference => .ok [⟨field, reference.value⟩]

/-- The changes that the terms of a draft make necessary. -/
def termChanges (d : Draft) (s : ReferenceSnapshot) :
    Except NoSuchReference (List Change) := do
  let direct :=
    flagChange Field.isVendor d.isVendor s.vendorFlag ++
      nameChange Field.vendorPricingSystem d.vendorPricingSystem ++
      nameChange Field.vendorDiscountSchema d.vendorDiscountSchema ++
      flagChange Field.isCustomer d.isCustomer s.customerFlag ++
      nameChange Field.dunning d.customerDunning
  let discount ← resolvedChange Field.discountSchema s.discountSchemas d.customerDiscountSchema
  let pricing ← resolvedChange Field.pricingSystem s.pricingSystems d.customerPricingSystem
  let payment ← resolvedChange Field.paymentTerm s.paymentTerms d.paymentTerm
  return direct ++ discount ++ pricing ++ payment

end PartnerRecords
