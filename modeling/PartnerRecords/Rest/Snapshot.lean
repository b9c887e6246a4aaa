import PartnerRecords.Config.Environment
import PartnerRecords.Partner.Terms
import PartnerRecords.Rest.Client

/-!
# Snapshots of reference data

The flags and options of a record are five reads that are begun one right after the other, without
waiting for replies. The first one to be back with a failure is the end of all, also of those that
have not arrived at the server; flags are looked at once every read has succeeded.
-/

namespace PartnerRecords

/-- The window of business partners: its client and the names of its tabs. -/
structure PartnerWindow where
  client : WindowClient
  layout : Layout
deriving DecidableEq, Repr

def PartnerWindow.connect (s : Settings) : Except Failure PartnerWindow :=
  (WindowClient.connect s.apiUrl s.layout.windowId).map fun client => ⟨client, s.layout⟩

/-- The window of the settings that are loaded from a file or the environment. -/
def PartnerWindow.load (files : FileSystem) (env : Environment) (path : Option String) :
    Except Failure PartnerWindow := do
  PartnerWindow.connect (← (Settings.load files env path).mapError .config)

/-- What a read has found: fields of a tab or options of a dropdown. -/
inductive ReadResult
  | tab (reply : WindowReply)
  | options (list : List Reference)

namespace ReadResult

def fields : ReadResult → WindowReply
  | .tab reply => reply
  | .options _ => {}

def list : ReadResult → List Reference
  | .tab _ => []
  | .options list => list

end ReadResult

/-- What is read of the reply to a read. -/
def ReadResult.ofReply : SnapshotRead → WindowReply → Except Failure ReadResult
  | .vendorTab, reply => .ok (.tab reply)
  | .customerTab, reply => .ok (.tab reply)
  | .discountSchemas, reply =>
      (WindowClient.readOptions Field.discountSchema reply).map .options
  | .pricingSystems, reply => (WindowClient.readOptions Field.pricingSystem reply).map .options
  | .paymentTerms, reply => (WindowClient.readOptions Field.paymentTerm reply).map .options

/-- What has come of the reads whose requests have arrived, the last one first. -/
abbrev Outcomes := List (SnapshotRead × Except Failure ReadResult)

namespace Outcomes

/-- A request that has arrived goes on, unless it has failed without anything to wait for. -/
def arrived (outcomes : Outcomes) (read : SnapshotRead) (outcome : Except Failure ReadResult) :
    Except Failure Outcomes :=
  match outcome with
  | .ok _ => .ok ((read, outcome) :: outcomes)
  | .error cause => if cause.isImmediate then .error cause else .ok ((read, outcome) :: outcomes)

/-- A read that is back and has failed is the end of all. -/
def returned (outcomes : Outcomes) (read : SnapshotRead) : Except Failure Outcomes :=
  match outcomes.lookup read with
  | some (.error cause) => .error cause
  | _ => .ok outcomes

def result (outcomes : Outcomes) (read : SnapshotRead) : ReadResult :=
  match outcomes.lookup read with
  | some (.ok found) => found
  | _ => .options []

/-- Puts together what was read. -/
def join (outcomes : Outcomes) : Except Failure ReferenceSnapshot := do
  let vendorFlag ← (outcomes.result .vendorTab).fields.flag Field.isVendor
  let customerFlag ← (outcomes.result .customerTab).fields.flag Field.isCustomer
  return {
    vendorFlag
    customerFlag
    discountSchemas := (outcomes.result .discountSchemas).list
    pricingSystems := (outcomes.result .pricingSystems).list
    paymentTerms := (outcomes.result .paymentTerms).list }

end Outcomes

namespace PartnerWindow

variable {ω : Type} (window : PartnerWindow) (desk : Desk ω) (record : RecordId)

def segments : SnapshotRead → List String
  | .vendorTab => WindowClient.tabSegments record window.layout.vendorTab
  | .customerTab => WindowClient.tabSegments record window.layout.customerTab
  | .discountSchemas =>
      WindowClient.dropdownSegments record window.layout.customerTab Field.discountSchema
  | .pricingSystems =>
      WindowClient.dropdownSegments record window.layout.customerTab Field.pricingSystem
  | .paymentTerms =>
      WindowClient.dropdownSegments record window.layout.customerTab Field.paymentTerm

/-- Takes the next step of a read. -/
def takeStep (outcomes : Outcomes) : ReadStep → Act ω Failure Outcomes
  | .begins read => do
      let url ← Act.ofExcept
        (WindowClient.extend window.client.windowUrl (window.segments record read))
      desk.announce { url }
      return outcomes
  | .arrives read => do
      let request ← Act.ofExcept (window.client.request (window.segments record read) id none)
      let reply ← Act.attempt (desk.deliver request)
      Act.ofExcept (outcomes.arrived read (reply.bind (ReadResult.ofReply read)))
  | .returns read => Act.ofExcept (outcomes.returned read)

/-- The flags and options of a record. The reads are under way until all are back, or one fails:
what has not arrived by then never does. -/
def snapshot : Act ω Failure ReferenceSnapshot := do
  let order := desk.readOrder (← Act.get)
  let outcomes ← order.steps.foldlM (window.takeStep desk record) []
  Act.ofExcept outcomes.join

end PartnerWindow

end PartnerRecords
