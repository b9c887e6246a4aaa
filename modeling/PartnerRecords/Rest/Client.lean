import PartnerRecords.Partner.Reference
import PartnerRecords.Rest.Desk
import PartnerRecords.Url.Extend

/-!
# The client of a window

Documents, tabs and dropdowns of one window have addresses under the address of the window.
Every part of such an address is a segment of its own.
-/

namespace PartnerRecords

open Json (Tree Value)

structure WindowClient where
  windowUrl : Url
deriving DecidableEq, Repr

namespace WindowClient

/-- The address of something under an address. -/
def extend (base : Url) (segments : List String) : Except Failure Url :=
  (base.extend? segments).elim (.error (.http (.cannotBeBase base))) .ok

def connect (apiUrl : String) (windowId : Nat) : Except Failure WindowClient :=
  match Url.parse apiUrl with
  | .error cause => .error (.http (.badUrl cause))
  | .ok base => (extend base ["window", toString windowId]).map WindowClient.mk

variable {ω : Type} (client : WindowClient) (desk : Desk ω)

/-- The request to an address under that of the window, or why none can be sent. -/
def request (segments : List String) (adjust : Url → Url) (changes : Option (List Change)) :
    Except Failure Request := do
  let url ← extend client.windowUrl segments
  let url := adjust url
  if url.withoutCredentials.isSendable then .ok { url, changes }
  else .error (.http (.unsendable url.withoutCredentials))

def sendTo (segments : List String) (adjust : Url → Url) (changes : Option (List Change)) :
    Act ω Failure WindowReply := do
  let url ← Act.ofExcept (extend client.windowUrl segments)
  desk.send { url := adjust url, changes }

/-- Creates an empty document and tells its identifier. -/
def createRecord : Act ω Failure RecordId := do
  let reply ← client.sendTo desk ["NEW"] id (some [])
  Act.ofExcept reply.documentId

def patchRecord (record : RecordId) (changes : List Change) : Act ω Failure WindowReply :=
  client.sendTo desk [record.text] id (some changes)

/-- Patches a document with advanced editing. -/
def patchRecordAdvanced (record : RecordId) (changes : List Change) : Act ω Failure WindowReply :=
  client.sendTo desk [record.text] (·.appendQuery "advanced=true") (some changes)

def tabSegments (record : RecordId) (tab : String) : List String :=
  [record.text, tab]

def tabFields (record : RecordId) (tab : String) : Act ω Failure WindowReply :=
  client.sendTo desk (tabSegments record tab) id none

/-- The options in the body of a dropdown: a record with the list of them as its field. -/
def dropdownOptions? (body : Value) : Option (List Reference) := do
  match ← body.tree.fields? ["values"] true with
  | [values] => Tree.required (Tree.items? Reference.ofTree?) values
  | _ => none

def dropdownSegments (record : RecordId) (tab field : String) : List String :=
  [record.text, tab, record.text, "field", field, "dropdown"]

def readOptions (field : String) (reply : WindowReply) : Except Failure (List Reference) :=
  (dropdownOptions? reply.body).elim (.error (.decode (.dropdown field))) .ok

def dropdown (record : RecordId) (tab field : String) : Act ω Failure (List Reference) := do
  let reply ← client.sendTo desk (dropdownSegments record tab field) id none
  Act.ofExcept (readOptions field reply)

end WindowClient

end PartnerRecords
