import PartnerRecords.Config.Settings
import PartnerRecords.Toml.Document

/-!
# Settings files

A settings file holds the fields of the settings by name. The window may be written as a list
of its fields in order; what stands in the list beyond them is passed over.
-/

namespace PartnerRecords

open Json (Tree)

namespace Toml.Value

mutual

/-- The value in the terms of the data format. Real numbers, points in time and numerals whose
characters are not all digits are no values of any field. -/
def tree : Toml.Value → Tree
  | .scalar (.boolean value) => .boolean value
  | .scalar (.integer numeral) => .number (numeral.value?.map .whole)
  | .scalar _ => .number none
  | .text value => .text (some value)
  | .list items => .list (treesAfter [] items)
  | .table members => .object (memberTreesAfter [] members)

/-- The trees of items, after others whose last comes first. -/
def treesAfter (done : List Tree) : List Toml.Value → List Tree
  | [] => done.reverse
  | item :: rest => treesAfter (tree item :: done) rest

def memberTreesAfter (done : List (Option String × Tree)) :
    List (String × Toml.Value) → List (Option String × Tree)
  | [] => done.reverse
  | (name, value) :: rest => memberTreesAfter ((some name, tree value) :: done) rest

end

end Toml.Value

namespace Settings

/-- Cuts a list to the length of the fields of a window. -/
def cutLayout : Tree → Tree
  | .list items => .list (items.take Layout.fieldNames.length)
  | t => t

def cutMember (member : Option String × Tree) : Option String × Tree :=
  if member.1 == some "bpartner_window" then (member.1, cutLayout member.2) else member

def ofToml? (document : Toml.Value) : Option Settings :=
  match document.tree with
  | .object members => ofTree? (.object (members.map cutMember))
  | _ => none

/-- The settings that a text describes, as they stand. -/
def read (text : String) : Except ConfigError Settings :=
  match (Toml.Document.parse? text).bind ofToml? with
  | some settings => .ok settings
  | none => .error .document

/-- The valid settings that a text describes. -/
def parse (text : String) : Except ConfigError Settings := do
  let settings ← read text
  settings.validated.mapError .invalid

def sizeLimit : Nat := 1024 * 1024

/-- The settings in the bytes of a file: not too many, and UTF-8. -/
def ofBytes (bytes : ByteArray) : Except ConfigError Settings :=
  if sizeLimit < bytes.size then .error (.invalid .fileTooLarge)
  else match String.fromUTF8? bytes with
    | none => .error (.invalid .fileNotUtf8)
    | some text => read text

end Settings

end PartnerRecords
