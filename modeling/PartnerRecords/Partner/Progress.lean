import PartnerRecords.Partner.Draft
import PartnerRecords.Json.Value

/-!
# Progress

How much of a draft has been entered on the screen. Clearing the queue of a tab forgets which
of its items were entered, never how many rows they made.
-/

namespace PartnerRecords

structure Progress where
  locations : Nat := 0
  locationRows : Nat := 0
  contacts : Nat := 0
  contactRows : Nat := 0
  bank : Option String := none
deriving DecidableEq, Repr

namespace Progress

def hasPending (p : Progress) (d : Draft) : Bool :=
  p.locations < d.locations.length || p.contacts < d.contacts.length ||
    (d.bank.isSome && d.bank != p.bank)

def resetLocations (p : Progress) : Progress :=
  { p with locations := 0 }

def resetContacts (p : Progress) : Progress :=
  { p with contacts := 0 }

/-- One more location was entered. -/
def countLocation (p : Progress) : Progress :=
  { p with locations := p.locations + 1, locationRows := p.locationRows + 1 }

/-- One more contact was entered. -/
def countContact (p : Progress) : Progress :=
  { p with contacts := p.contacts + 1, contactRows := p.contactRows + 1 }

def recordBank (p : Progress) (bank : String) : Progress :=
  { p with bank := some bank }

end Progress

end PartnerRecords
