import PartnerRecords.Json.Tree

/-!
# Records

A record is written as an object with its fields by name, or as a list with its fields in
declared order. Fields at the end of such a list may be left out, and a field that is left
out has to have a default.
-/

namespace PartnerRecords.Json.Tree

/-- The one member with a name, if there is any; a repeated name is refused. -/
def only? (members : List (Option String × Tree)) (name : String) : Option (Option Tree) :=
  match members.filter fun member => member.1 == some name with
  | [] => some none
  | [member] => some (some member.2)
  | _ => none

/-- The fields of a record in declared order. Unless the record is open, an object has no
members but these. -/
def fields? (names : List String) (isOpen : Bool) : Tree → Option (List (Option Tree))
  | .list items =>
      if items.length ≤ names.length then
        some (items.map some ++ List.replicate (names.length - items.length) none)
      else none
  | .object members =>
      if members.all fun member => member.1.any fun name => isOpen || names.contains name then
        names.mapM (only? members)
      else none
  | _ => none

def text? : Tree → Option String
  | .text value => value
  | _ => none

def boolean? : Tree → Option Bool
  | .boolean value => some value
  | _ => none

def whole? : Tree → Option Int
  | .number (some (.whole value)) => some value
  | _ => none

/-- A whole number from zero to below a limit. -/
def natural? (limit : Nat) (t : Tree) : Option Nat :=
  t.whole?.bind fun value => if 0 ≤ value ∧ value < limit then some value.toNat else none

/-- Null, or what a reader finds. -/
def nullOr? {α : Type} (read : Tree → Option α) : Tree → Option (Option α)
  | .null => some none
  | t => (read t).map some

def items? {α : Type} (read : Tree → Option α) : Tree → Option (List α)
  | .list items => items.mapM read
  | _ => none

/-- A field with a default. -/
def orDefault {α : Type} (default : α) (read : Tree → Option α) : Option Tree → Option α
  | none => some default
  | some t => read t

/-- A field that has to be there. -/
def required {α : Type} (read : Tree → Option α) (field : Option Tree) : Option α :=
  field.bind read

end PartnerRecords.Json.Tree
