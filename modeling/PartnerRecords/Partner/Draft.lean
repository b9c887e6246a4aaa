import PartnerRecords.Json.Record

/-!
# Drafts

What is wanted of a business partner before there is a record of it: its name and flags, names
of reference data, and the detail rows that are entered on the screen.
-/

namespace PartnerRecords

open Json (Tree Value)

structure Location where
  name : String
  city : String
  country : String
deriving DecidableEq, Repr

structure Contact where
  firstName : String
  lastName : String
  isDefault : Bool := false
deriving DecidableEq, Repr

structure Draft where
  name : String
  isVendor : Bool := false
  isCustomer : Bool := false
  vendorPricingSystem : Option String := none
  vendorDiscountSchema : Option String := none
  customerPricingSystem : Option String := none
  customerDiscountSchema : Option String := none
  customerDunning : Option String := none
  paymentTerm : Option String := none
  bank : Option String := none
  locations : List Location := []
  contacts : List Contact := []
deriving DecidableEq, Repr

namespace Location

def fieldNames : List String := ["name", "city", "country"]

def ofTree? (t : Tree) : Option Location := do
  match ← t.fields? fieldNames false with
  | [name, city, country] =>
      return {
        name := ← Tree.required Tree.text? name
        city := ← Tree.required Tree.text? city
        country := ← Tree.required Tree.text? country }
  | _ => none

def value (l : Location) : Value :=
  .ofMembers [("name", .text l.name), ("city", .text l.city), ("country", .text l.country)]

end Location

namespace Contact

def fieldNames : List String := ["firstName", "lastName", "isDefaultContact"]

def ofTree? (t : Tree) : Option Contact := do
  match ← t.fields? fieldNames false with
  | [firstName, lastName, isDefault] =>
      return {
        firstName := ← Tree.required Tree.text? firstName
        lastName := ← Tree.required Tree.text? lastName
        isDefault := ← Tree.orDefault false Tree.boolean? isDefault }
  | _ => none

def value (c : Contact) : Value :=
  .ofMembers [("firstName", .text c.firstName), ("lastName", .text c.lastName),
    ("isDefaultContact", .boolean c.isDefault)]

end Contact

namespace Draft

def fieldNames : List String :=
  ["name", "isVendor", "isCustomer", "vendorPricingSystem", "vendorDiscountSchema",
    "customerPricingSystem", "customerDiscountSchema", "customerDunning", "paymentTerm", "bank",
    "bPartnerLocations", "contacts"]

/-- A name of reference data, which may be null or left out. -/
def referenceName? (field : Option Tree) : Option (Option String) :=
  Tree.orDefault none (Tree.nullOr? Tree.text?) field

def ofTree? (t : Tree) : Option Draft := do
  match ← t.fields? fieldNames false with
  | [name, isVendor, isCustomer, vendorPricingSystem, vendorDiscountSchema,
      customerPricingSystem, customerDiscountSchema, customerDunning, paymentTerm, bank,
      locations, contacts] =>
      return {
        name := ← Tree.required Tree.text? name
        isVendor := ← Tree.orDefault false Tree.boolean? isVendor
        isCustomer := ← Tree.orDefault false Tree.boolean? isCustomer
        vendorPricingSystem := ← referenceName? vendorPricingSystem
        vendorDiscountSchema := ← referenceName? vendorDiscountSchema
        customerPricingSystem := ← referenceName? customerPricingSystem
        customerDiscountSchema := ← referenceName? customerDiscountSchema
        customerDunning := ← referenceName? customerDunning
        paymentTerm := ← referenceName? paymentTerm
        bank := ← referenceName? bank
        locations := ← Tree.orDefault [] (Tree.items? Location.ofTree?) locations
        contacts := ← Tree.orDefault [] (Tree.items? Contact.ofTree?) contacts }
  | _ => none

/-- The written form, with every field. -/
def value (d : Draft) : Value :=
  .ofMembers [("name", .text d.name), ("isVendor", .boolean d.isVendor),
    ("isCustomer", .boolean d.isCustomer),
    ("vendorPricingSystem", .ofOption d.vendorPricingSystem),
    ("vendorDiscountSchema", .ofOption d.vendorDiscountSchema),
    ("customerPricingSystem", .ofOption d.customerPricingSystem),
    ("customerDiscountSchema", .ofOption d.customerDiscountSchema),
    ("customerDunning", .ofOption d.customerDunning), ("paymentTerm", .ofOption d.paymentTerm),
    ("bank", .ofOption d.bank), ("bPartnerLocations", .list (d.locations.map Location.value)),
    ("contacts", .list (d.contacts.map Contact.value))]

/-- Whether there is anything to enter on the screen. -/
def hasManualEntries (d : Draft) : Bool :=
  !d.locations.isEmpty || !d.contacts.isEmpty || d.bank.isSome

/-- Whether reference data has to be read. Locations alone are reason enough. -/
def needsReferences (d : Draft) : Bool :=
  d.isVendor || d.isCustomer || d.vendorPricingSystem.isSome || d.vendorDiscountSchema.isSome ||
    d.customerPricingSystem.isSome || d.customerDiscountSchema.isSome ||
    d.customerDunning.isSome || d.paymentTerm.isSome || !d.locations.isEmpty

end Draft

end PartnerRecords
