import PartnerRecords.Toml.Scalar

/-!
# Tables of settings files

A table is built from headers and keys. A header opens a table once; a dotted key opens tables
that only dotted keys extend; a table between braces and a list are closed. Nothing is defined
twice.
-/

namespace PartnerRecords.Toml

inductive Value
  | scalar (value : Scalar)
  | text (value : String)
  | list (items : List Value)
  | table (members : List (String × Value))
deriving Repr, Inhabited

/-- How a table came to be: on the way to another one, by its own header, or by a dotted key. -/
inductive Origin
  | passed
  | header
  | dotted
deriving DecidableEq, Repr

inductive Node
  | leaf (value : Value)
  | table (origin : Origin) (members : List (String × Node))
  | tables (items : List (List (String × Node)))
deriving Repr, Inhabited

abbrev Members := List (String × Node)

namespace Members

def find? (members : Members) (key : String) : Option Node :=
  members.lookup key

/-- Puts a node in the place of the one with its key, or at the end. -/
def set (members : Members) (key : String) (node : Node) : Members :=
  if (members.find? key).isSome then
    members.map fun entry => if entry.1 == key then (key, node) else entry
  else members ++ [(key, node)]

/-- Defines a value under a dotted key. -/
def define (value : Value) : List String → Members → Option Members
  | [], _ => none
  | [key], members =>
      if (members.find? key).isSome then none else some (members.set key (.leaf value))
  | key :: rest, members =>
      match members.find? key with
      | none => (define value rest []).map fun inner => members.set key (.table .dotted inner)
      | some (.table .dotted inner) =>
          (define value rest inner).map fun inner => members.set key (.table .dotted inner)
      | _ => none

/-- Changes the table at the end of a path of tables; of many tables the last one. -/
def within (change : Members → Option Members) : List String → Members → Option Members
  | [], members => change members
  | key :: rest, members =>
      match members.find? key with
      | none => (within change rest []).map fun inner => members.set key (.table .passed inner)
      | some (.table origin inner) =>
          (within change rest inner).map fun inner => members.set key (.table origin inner)
      | some (.tables (last :: before)) =>
          (within change rest last).map fun last => members.set key (.tables (last :: before))
      | _ => none

/-- Opens a table by its header. -/
def openTable (key : String) (members : Members) : Option Members :=
  match members.find? key with
  | none => some (members.set key (.table .header []))
  | some (.table .passed inner) => some (members.set key (.table .header inner))
  | _ => none

/-- Opens one more of many tables of one name. -/
def openTables (key : String) (members : Members) : Option Members :=
  match members.find? key with
  | none => some (members.set key (.tables [[]]))
  | some (.tables items) => some (members.set key (.tables ([] :: items)))
  | _ => none

end Members

namespace Node

mutual

/-- The finished value of a node. -/
def finish : Node → Value
  | .leaf value => value
  | .table _ members => .table (finishMembersAfter [] members)
  | .tables items => .list (finishTablesBefore [] items)

/-- The finished members of a table, after others whose last comes first. -/
def finishMembersAfter (done : List (String × Value)) :
    List (String × Node) → List (String × Value)
  | [] => done.reverse
  | (key, node) :: rest => finishMembersAfter ((key, finish node) :: done) rest

/-- The finished tables of a list that has its last first, before others. -/
def finishTablesBefore (done : List Value) : List (List (String × Node)) → List Value
  | [] => done
  | members :: rest => finishTablesBefore (.table (finishMembersAfter [] members) :: done) rest

end

end Node

def Members.finish (members : Members) : Value :=
  (Node.table .header members).finish

end PartnerRecords.Toml
