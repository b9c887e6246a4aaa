import PartnerRecords.Json.Value
import PartnerRecords.Partner.Change
import PartnerRecords.Partner.Draft
import PartnerRecords.Screen.Call
import PartnerRecords.Url.Basic

/-!
# Events

What the library reports while it works: a level, a message and named texts.
-/

namespace PartnerRecords

/-- A request to the server. Changes make it a patch. -/
structure Request where
  url : Url
  changes : Option (List Change) := none
deriving BEq, Repr

def Request.method (r : Request) : String :=
  if r.changes.isSome then "PATCH" else "GET"

/-- An edit of what is wanted of a partner. -/
inductive Edit
  | setName (name : String)
  | setVendor (flag : Bool)
  | setVendorPricingSystem (name : String)
  | setVendorDiscountSchema (name : String)
  | setCustomerDunning (name : String)
  | setCustomer (flag : Bool)
  | setPaymentTerm (name : String)
  | setCustomerPricingSystem (name : String)
  | setCustomerDiscountSchema (name : String)
  | setBank (name : String)
  | addLocation (location : Location)
  | clearLocations
  | addContact (contact : Contact)
  | clearContacts
deriving DecidableEq, Repr

inductive Event
  | edited (edit : Edit)
  | applyStarted (name : String)
  | applyEnded (name : String) (record : RecordId)
  | replayStarted (record : RecordId) (locations contacts : Nat) (bank : Bool)
  | requested (request : Request)
  | enteringLocation (location : Location)
  | enteringContact (contact : Contact)
  | enteringBank (bank : String)
deriving BEq, Repr

inductive Level
  | debug
  | info
deriving DecidableEq, Repr

def boolText (b : Bool) : String :=
  if b then "true" else "false"

namespace Edit

def message : Edit → String
  | .setName _ => "bpartner set name"
  | .setVendor _ => "bpartner set vendor"
  | .setVendorPricingSystem _ => "bpartner set vendor pricing system"
  | .setVendorDiscountSchema _ => "bpartner set vendor discount schema"
  | .setCustomerDunning _ => "bpartner set customer dunning"
  | .setCustomer _ => "bpartner set customer"
  | .setPaymentTerm _ => "bpartner set payment term"
  | .setCustomerPricingSystem _ => "bpartner set customer pricing system"
  | .setCustomerDiscountSchema _ => "bpartner set customer discount schema"
  | .setBank _ => "bpartner set bank"
  | .addLocation _ => "bpartner add location"
  | .clearLocations => "bpartner clear locations"
  | .addContact _ => "bpartner add contact"
  | .clearContacts => "bpartner clear contacts"

def fields : Edit → List (String × String)
  | .setName name => [("name", name)]
  | .setVendor flag => [("is_vendor", boolText flag)]
  | .setVendorPricingSystem name => [("vendor_pricing_system", name)]
  | .setVendorDiscountSchema name => [("vendor_discount_schema", name)]
  | .setCustomerDunning name => [("customer_dunning", name)]
  | .setCustomer flag => [("is_customer", boolText flag)]
  | .setPaymentTerm name => [("payment_term", name)]
  | .setCustomerPricingSystem name => [("customer_pricing_system", name)]
  | .setCustomerDiscountSchema name => [("customer_discount_schema", name)]
  | .setBank name => [("bank", name)]
  | .addLocation l => [("name", l.name), ("city", l.city)]
  | .clearLocations => []
  | .addContact c => [("first_name", c.firstName), ("last_name", c.lastName)]
  | .clearContacts => []

end Edit

namespace Event

def level : Event → Level
  | .applyStarted _ => .info
  | .applyEnded _ _ => .info
  | .replayStarted _ _ _ _ => .info
  | _ => .debug

def message : Event → String
  | .edited edit => edit.message
  | .applyStarted _ => "bpartner apply start"
  | .applyEnded _ _ => "bpartner apply end"
  | .replayStarted _ _ _ _ => "bpartner manual entry replay"
  | .requested _ => "window request"
  | .enteringLocation _ => "entering location"
  | .enteringContact _ => "entering contact"
  | .enteringBank _ => "entering bank account"

def fields : Event → List (String × String)
  | .edited edit => edit.fields
  | .applyStarted name => [("name", name)]
  | .applyEnded name record => [("name", name), ("id", record.text)]
  | .replayStarted record locations contacts bank =>
      [("id", record.text), ("locations", toString locations), ("contacts", toString contacts),
        ("bank", boolText bank)]
  | .requested request =>
      [("method", request.method), ("url", request.url.text)] ++
        request.changes.elim [] fun changes => [("ops", toString changes.length)]
  | .enteringLocation l => [("name", l.name), ("city", l.city)]
  | .enteringContact c => [("first_name", c.firstName), ("last_name", c.lastName)]
  | .enteringBank bank => [("bank", bank)]

end Event

end PartnerRecords
