import PartnerRecords.Json.Record

/-!
# Reference data

An option of a dropdown has a key and a caption. It is found by its exact caption and nothing
else, and the first of several is taken.
-/

namespace PartnerRecords

open Json (Tree Value)

inductive ReferenceKey
  | number (value : Int)
  | text (value : String)
deriving DecidableEq, Repr

structure Reference where
  key : ReferenceKey
  caption : String
deriving DecidableEq, Repr

namespace ReferenceKey

/-- A signed 64-bit number or a text. -/
def ofTree? : Tree → Option ReferenceKey
  | .text (some value) => some (.text value)
  | t => t.whole?.bind fun value =>
      if -(Text.signedLimit : Int) ≤ value ∧ value < Text.signedLimit then some (.number value)
      else none

def value : ReferenceKey → Value
  | .number n => .ofInt n
  | .text s => .text s

def display : ReferenceKey → String
  | .number n => toString n
  | .text s => s

end ReferenceKey

namespace Reference

def fieldNames : List String := ["key", "caption"]

def ofTree? (t : Tree) : Option Reference := do
  match ← t.fields? fieldNames true with
  | [key, caption] =>
      return {
        key := ← Tree.required ReferenceKey.ofTree? key
        caption := ← Tree.required Tree.text? caption }
  | _ => none

/-- The option as it is sent in a change. -/
def value (r : Reference) : Value :=
  .ofMembers [("key", r.key.value), ("caption", .text r.caption)]

/-- The first option with a caption. -/
def find? (options : List Reference) (name : String) : Option Reference :=
  options.find? fun option => option.caption == name

end Reference

/-- What the server holds of a record: its flags, and the options it offers. -/
structure ReferenceSnapshot where
  vendorFlag : Bool := false
  customerFlag : Bool := false
  discountSchemas : List Reference := []
  pricingSystems : List Reference := []
  paymentTerms : List Reference := []
deriving DecidableEq, Repr

end PartnerRecords
