import PartnerRecords.Act
import PartnerRecords.Partner.Event
import PartnerRecords.Rest.Document

/-!
# Desks

A desk is where the library works: a server that answers requests, a screen that answers
calls, and a place for reports. Nothing is assumed of them. The reads of a snapshot are under way
side by side, and the desk says in which order what happens to them.
-/

namespace PartnerRecords

/-- The five reads of a snapshot of reference data. -/
inductive SnapshotRead
  | vendorTab
  | customerTab
  | discountSchemas
  | pricingSystems
  | paymentTerms
deriving DecidableEq, Repr

def SnapshotRead.all : List SnapshotRead :=
  [.vendorTab, .customerTab, .discountSchemas, .pricingSystems, .paymentTerms]

/-- What happens to a read: it is begun, its request reaches the server, and its reply is back. -/
inductive ReadStep
  | begins (read : SnapshotRead)
  | arrives (read : SnapshotRead)
  | returns (read : SnapshotRead)
deriving DecidableEq, Repr

namespace ReadStep

def read : ReadStep → SnapshotRead
  | .begins read => read
  | .arrives read => read
  | .returns read => read

def isBeginning : ReadStep → Bool
  | .begins _ => true
  | _ => false

end ReadStep

/-- An order of what happens to the five reads. They are begun as they are listed. Each has a way
of its own from there, and may overtake the others. -/
structure ReadOrder where
  steps : List ReadStep
  listed : steps.filter ReadStep.isBeginning = SnapshotRead.all.map .begins
  own (read : SnapshotRead) :
    steps.filter (·.read = read) = [.begins read, .arrives read, .returns read]

/-- All requests arrive one right after the other, and then the replies come back. -/
def ReadOrder.inTurn : ReadOrder where
  steps := (SnapshotRead.all.flatMap fun read => [.begins read, .arrives read]) ++
    SnapshotRead.all.map .returns
  listed := rfl
  own read := by cases read <;> rfl

structure Desk (ω : Type) where
  exchange : Request → ω → Reply × ω
  call : (c : Call) → ω → Except ScreenError c.Answer × ω
  note : Event → ω → ω
  readOrder : ω → ReadOrder

namespace Desk

variable {ω : Type} (desk : Desk ω)

/-- A gesture on the screen; a refusal is a failure. -/
def gesture (c : Call) : Act ω Failure c.Answer :=
  Act.orFail (desk.call c) .screen

def report (event : Event) : Act ω Failure Unit :=
  Act.update (desk.note event)

/-- Reports a request, and finds out whether it can be sent. Failures name the URL without its
credentials. -/
def announce (request : Request) : Act ω Failure Unit := do
  desk.report (.requested request)
  let url := request.url.withoutCredentials
  if url.isSendable then return () else Act.fail (.http (.unsendable url))

/-- Lets the server answer a request, and reads the reply. -/
def deliver (request : Request) : Act ω Failure WindowReply :=
  fun world =>
    let (reply, world) := desk.exchange request world
    (reply.read request.url.withoutCredentials, world)

def send (request : Request) : Act ω Failure WindowReply := do
  desk.announce request
  desk.deliver request

end Desk

end PartnerRecords
