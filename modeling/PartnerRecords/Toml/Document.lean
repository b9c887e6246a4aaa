import PartnerRecords.Toml.Table
import PartnerRecords.Toml.Token

/-!
# Documents of settings files

Tokens are read one by one into tables. Lists and tables between braces may go over several
lines; headers and keys may not. The stack of what is open is explicit and has a limit, and so
has the length of a dotted key.
-/

namespace PartnerRecords.Toml

/-- Something that waits for a value: the key of a line, a list, the key of a closed table. -/
inductive Frame
  | line (path : List String)
  | list (items : List Value)
  | table (members : Members) (path : List String)

inductive Expect
  | lineStart
  | lineEnd
  | headerStart
  | headerKey (many : Bool) (path : List String)
  | headerMore (many : Bool) (path : List String)
  | headerEnd (path : List String)
  | key (path : List String) (outer : List Frame)
  | keyMore (path : List String) (outer : List Frame)
  | keyEnd (path : List String) (outer : List Frame)
  | value (outer : List Frame)
  | listItem (outer : List Frame)
  | listMore (outer : List Frame)
  | tableKey (outer : List Frame)
  | tableMore (outer : List Frame)
  | scalar (seen : List Char) (gap : Bool) (outer : List Frame)

/-- A document as far as it has been read. Paths of keys being read have their last part first,
and so have scalars their last character. -/
structure Document where
  members : Members := []
  current : List String := []
  expect : Expect := .lineStart

def isKeyChar (c : Char) : Bool :=
  c.isAlphanum || c == '_' || c == '-'

/-- The key that a token is: a run of simple characters, or quoted text on one line. -/
def Token.key? : Token → Option String
  | .run text => if text.all isKeyChar then some (String.ofList text) else none
  | .quoted text false => some text
  | _ => none

/-- How many lists and closed tables may be open within each other, and how many parts a dotted
key may have. -/
def nestingLimit : Nat := 80

/-- Opens a list or a closed table, if there are not too many. -/
def push? (frame : Frame) (outer : List Frame) : Option (List Frame) :=
  if nestingLimit < outer.length then none else some (frame :: outer)

/-- Adds a part to a dotted key, if there are not too many. -/
def extendKey? (part : String) (path : List String) : Option (List String) :=
  if nestingLimit ≤ path.length then none else some (part :: path)

namespace Document

def expecting (d : Document) (expect : Expect) : Option Document :=
  some { d with expect }

/-- Takes a finished value to where it belongs. -/
def complete (d : Document) (value : Value) : List Frame → Option Document
  | [] => none
  | .line path :: _ =>
      (Members.within (Members.define value path.reverse) d.current d.members).map fun members =>
        { d with members, expect := .lineEnd }
  | .list items :: outer => d.expecting (.listMore (.list (value :: items) :: outer))
  | .table members path :: outer =>
      (Members.define value path.reverse members).bind fun members =>
        d.expecting (.tableMore (.table members [] :: outer))

def closeList (d : Document) : List Frame → Option Document
  | .list items :: outer => d.complete (.list items.reverse) outer
  | _ => none

def closeTable (d : Document) : List Frame → Option Document
  | .table members _ :: outer => d.complete (Members.finish members) outer
  | _ => none

/-- Begins a section under a header whose path has its last part first. -/
def openSection (d : Document) (many : Bool) : List String → Option Document
  | [] => none
  | key :: before =>
      let change := if many then Members.openTables key else Members.openTable key
      (Members.within change before.reverse d.members).map fun members =>
        { members, current := (key :: before).reverse, expect := .lineEnd }

/-- Reads a token that begins a value. -/
def begin (d : Document) (outer : List Frame) : Token → Option Document
  | .run text => d.expecting (.scalar text.reverse false outer)
  | .quoted text _ => d.complete (.text text) outer
  | .openBracket => (push? (.list []) outer).bind fun outer => d.expecting (.listItem outer)
  | .openBrace => (push? (.table [] []) outer).bind fun outer => d.expecting (.tableKey outer)
  | _ => none

/-- The path of keys that a frame waits with. -/
def withPath (path : List String) : List Frame → List Frame
  | .table members _ :: outer => .table members path :: outer
  | outer => .line path :: outer

/-- Reads a token anywhere but within a scalar. -/
def read (d : Document) (token : Token) : Option Document :=
  match d.expect, token with
  | .headerStart, .blank _ => d.expecting (.headerKey false [])
  | .headerEnd path, .closeBracket => d.openSection true path
  | .headerEnd _, _ => none
  | _, .blank _ => some d
  | .lineStart, .newline => some d
  | .lineEnd, .newline => d.expecting .lineStart
  | .listItem _, .newline => some d
  | .listMore _, .newline => some d
  | .tableKey _, .newline => some d
  | .keyMore path (frame :: outer), .newline => d.expecting (.keyEnd path (frame :: outer))
  | .keyEnd _ _, .newline => some d
  | .value (.table _ _ :: _), .newline => some d
  | .tableMore _, .newline => some d
  | .lineStart, .openBracket => d.expecting .headerStart
  | .lineStart, token => token.key?.bind fun key => d.expecting (.keyMore [key] [])
  | .headerStart, .openBracket => d.expecting (.headerKey true [])
  | .headerStart, token => token.key?.bind fun key => d.expecting (.headerMore false [key])
  | .headerKey many path, token =>
      (token.key?.bind (extendKey? · path)).bind fun path => d.expecting (.headerMore many path)
  | .headerMore many path, .dot => d.expecting (.headerKey many path)
  | .headerMore true path, .closeBracket => d.expecting (.headerEnd path)
  | .headerMore false path, .closeBracket => d.openSection false path
  | .key path outer, token =>
      (token.key?.bind (extendKey? · path)).bind fun path => d.expecting (.keyMore path outer)
  | .keyMore path outer, .dot => d.expecting (.key path outer)
  | .keyMore path outer, .equals => d.expecting (.value (withPath path outer))
  | .keyEnd path outer, .equals => d.expecting (.value (withPath path outer))
  | .value outer, token => d.begin outer token
  | .listItem outer, .closeBracket => d.closeList outer
  | .listItem outer, token => d.begin outer token
  | .listMore outer, .comma => d.expecting (.listItem outer)
  | .listMore outer, .closeBracket => d.closeList outer
  | .tableKey outer, .closeBrace => d.closeTable outer
  | .tableKey outer, token => token.key?.bind fun key => d.expecting (.keyMore [key] outer)
  | .tableMore outer, .comma => d.expecting (.tableKey outer)
  | .tableMore outer, .closeBrace => d.closeTable outer
  | _, _ => none

/-- Takes an unquoted run for the scalar that it is. -/
def closeScalar (d : Document) (seen : List Char) (outer : List Frame) : Option Document :=
  (Scalar.ofRun? seen.reverse).bind fun scalar => d.complete (.scalar scalar) outer

/-- Reads a token. A scalar goes on over dots, and over a single space between a date and a
time. -/
def step (d : Document) (token : Token) : Option Document :=
  match d.expect, token with
  | .scalar seen false outer, .dot => d.expecting (.scalar ('.' :: seen) false outer)
  | .scalar seen false outer, .run text =>
      d.expecting (.scalar (text.reverse ++ seen) false outer)
  | .scalar seen true outer, .run text =>
      d.expecting (.scalar (text.reverse ++ ' ' :: seen) false outer)
  | .scalar seen false outer, .blank true => d.expecting (.scalar seen true outer)
  | .scalar seen _ outer, token => (d.closeScalar seen outer).bind (read · token)
  | _, token => d.read token

/-- The document's table, if nothing is left open. -/
def result? (d : Document) : Option Value :=
  match d.expect with
  | .lineStart => some d.members.finish
  | .lineEnd => some d.members.finish
  | .scalar seen _ outer =>
      (d.closeScalar seen outer).bind fun d =>
        match d.expect with
        | .lineEnd => some d.members.finish
        | _ => none
  | _ => none

/-- The table that a text describes. -/
def parse? (text : String) : Option Value :=
  (tokens? text).bind fun tokens => (tokens.foldlM step {}).bind result?

end Document

end PartnerRecords.Toml
