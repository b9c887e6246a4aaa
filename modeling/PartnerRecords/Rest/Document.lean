import PartnerRecords.Failure
import PartnerRecords.Json.Tree

/-!
# Documents of a window

A reply holds a document or a list of documents, of which the first counts. Its fields are
listed by name or one after another, each with a value and further particulars.
-/

namespace PartnerRecords

open Json (Value)

structure FieldView where
  value : Value := .null
  metadata : Dict Value := []
deriving BEq, Repr

/-- Takes the value out of the description of a field. -/
def FieldView.ofValue : Value → FieldView
  | .object members => ⟨(Dict.get? members "value").getD .null, Dict.erase members "value"⟩
  | other => ⟨other, []⟩

structure WindowReply where
  body : Value := .null
  fields : Dict FieldView := []
deriving BEq, Repr

namespace WindowReply

def firstDocument? : Value → Option Value
  | .list documents => documents.head?
  | .object members => some (.object members)
  | _ => none

/-- A field that stands in a list carries its own name. -/
def namedField? (entry : Value) : Option (String × FieldView) :=
  ((entry.member? "field").bind Value.text?).map fun name => (name, .ofValue entry)

/-- The fields of a document by name, the last of one name winning. -/
def documentFields (document : Value) : Dict FieldView :=
  match document.member? "fieldsByName", document.member? "fields" with
  | some (.object byName), _ => Dict.map FieldView.ofValue byName
  | _, some (.list fields) => Dict.ofList (fields.filterMap namedField?)
  | _, _ => []

def ofBody (body : Value) : WindowReply where
  body := body
  fields := (firstDocument? body).elim [] documentFields

def field (r : WindowReply) (name : String) : Except Failure FieldView :=
  (r.fields.get? name).elim (.error (.missingField name)) .ok

/-- Whether the value of a field is `true`; any other value counts as not set. -/
def flag (r : WindowReply) (name : String) : Except Failure Bool :=
  (r.field name).map fun view => match view.value with
    | .boolean set => set
    | _ => false

/-- The identifier of the first document: a text that is not empty, or a number as it is
written. -/
def documentId (r : WindowReply) : Except Failure RecordId :=
  match (firstDocument? r.body).bind (·.member? "id") with
  | some (.text id) => if id = "" then .error (.missingField "id") else .ok ⟨id⟩
  | some (.number id) => .ok ⟨id.text⟩
  | _ => .error (.missingField "id")

end WindowReply

/-- What a server answers: the URL it was asked under, a status, and a body unless that is cut
short. -/
structure Response where
  url : Url
  status : Nat
  body : Option ByteArray

namespace Response

def isSpace (byte : UInt8) : Bool :=
  byte == 0x20 || byte == 0x09 || byte == 0x0A || byte == 0x0C || byte == 0x0D

/-- Reads a body. One of white space only says nothing. -/
def readBody (body : ByteArray) : Except Failure WindowReply :=
  if body.data.all isSpace then .ok {}
  else match (String.fromUTF8? body).bind Value.parse? with
    | some value => .ok (.ofBody value)
    | none => .error (.decode .notJson)

/-- Reads an answer: its status first, then its body. -/
def read (r : Response) : Except Failure WindowReply :=
  if r.status < 200 ∨ 300 ≤ r.status then .error (.status r.status r.url)
  else r.body.elim (.error (.http (.brokenOff r.url))) readBody

end Response

/-- What becomes of a request: it does not leave, it is not answered, or it is answered with a
status and a body that may be cut short. -/
inductive Reply
  | unsent
  | dropped
  | answered (status : Nat) (body : Option ByteArray)

/-- Reads the reply to a request. The server never sees the fragment of its URL. -/
def Reply.read (url : Url) : Reply → Except Failure WindowReply
  | .unsent => .error (.http (.unsent url))
  | .dropped => .error (.http (.unanswered url))
  | .answered status body => Response.read { url := url.sent, status, body }

end PartnerRecords
