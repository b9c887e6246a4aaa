import PartnerRecords.Dict
import PartnerRecords.Json.Number

/-!
# Values of the data format

A value is what a document says once repeated names are settled and every number and text
is known to be readable. Members of an object stand in the order of their names.
-/

namespace PartnerRecords.Json

inductive Value
  | null
  | boolean (value : Bool)
  | number (value : Number)
  | text (value : String)
  | list (items : List Value)
  | object (members : List (String × Value))
deriving BEq, Repr, Inhabited

namespace Value

def ofNat (n : Nat) : Value :=
  .number (.whole n)

def ofInt (n : Int) : Value :=
  .number (.whole n)

def ofOption (text : Option String) : Value :=
  text.elim .null .text

/-- An object with the given members, the last of one name winning. -/
def ofMembers (members : List (String × Value)) : Value :=
  .object (Dict.ofList members)

/-- The member of an object with a name. -/
def member? : Value → String → Option Value
  | .object members, name => Dict.get? members name
  | _, _ => none

def text? : Value → Option String
  | .text value => some value
  | _ => none

end Value

end PartnerRecords.Json
