import PartnerRecords.Json.Record

/-!
# Changes

A change replaces the value of one field of a document.
-/

namespace PartnerRecords

open Json (Tree Value)

structure Change where
  path : String
  value : Value
deriving BEq, Repr

namespace Change

def fieldNames : List String := ["op", "path", "value"]

/-- The only operation, as a word or as an object that gives the word nothing. -/
def isReplace : Tree → Bool
  | .text (some word) => word == "replace"
  | .object [(some word, .null)] => word == "replace"
  | _ => false

def ofTree? (t : Tree) : Option Change := do
  match ← t.fields? fieldNames true with
  | [operation, path, value] =>
      if !(operation.any isReplace) then none
      return {
        path := ← Tree.required Tree.text? path
        value := ← Tree.required (Tree.value? (Json.depthLimit - 1)) value }
  | _ => none

def written (c : Change) : Value :=
  .ofMembers [("op", .text "replace"), ("path", .text c.path), ("value", c.value)]

end Change

/-- Both names of a partner are its display name. -/
def basicChanges (name : String) : List Change :=
  [⟨"CompanyName", .text name⟩, ⟨"Name2", .text name⟩]

end PartnerRecords
