import PartnerRecords.Partner.Builder
import PartnerRecords.Session.Bench

/-!
# Sessions

A session is one builder, one progress of its own, one window and one bench. Operations are
done one after another, and none of them ends the session.
-/

namespace PartnerRecords

inductive Operation
  | begin (name : String)
  | beginFrom (draft : Draft)
  | edit (edit : Edit)
  | apply
  | replay
  | createRecord
  | patchRecord (record : RecordId) (changes : List Change)
  | patchRecordAdvanced (record : RecordId) (changes : List Change)
  | tabFields (record : RecordId) (tab : String)
  | dropdown (record : RecordId) (tab field : String)
  | snapshot (record : RecordId)
  | enterLocation (location : Location)
  | enterContact (contact : Contact)
  | enterBank (bank : String)
  | replayEntries (draft : Draft)
  | hasPending (draft : Draft)
  | setProgress (progress : Progress)
  | resetLocations
  | resetContacts
  | gesture (call : Call)

/-- What an operation answers when it succeeds. -/
inductive Finding
  | nothing
  | draft (draft : Draft)
  | record (record : RecordId)
  | reply (reply : WindowReply)
  | references (list : List Reference)
  | snapshot (snapshot : ReferenceSnapshot)
  | flag (flag : Bool)
  | text (text : String)
  | count (rows : Nat)

def Call.finding : (c : Call) → c.Answer → Finding
  | .addressSummary _, summary => .text summary
  | .countRows, rows => .count rows
  | _, _ => .nothing

structure Session where
  window : PartnerWindow
  builder : Builder
  progress : Progress := {}
  bench : Bench

namespace Session

/-- A session whose builder begins with a name. -/
def start (window : PartnerWindow) (name : String) (bench : Bench) : Session where
  window := window
  builder := Builder.named name
  bench := bench.note (.edited (.setName name))

/-- Runs an act on the bench. -/
def onBench {α : Type} (finding : α → Finding) (act : Act Bench Failure α) (s : Session) :
    Except Failure Finding × Session :=
  let (result, bench) := act s.bench
  (result.map finding, { s with bench })

/-- Runs an act on the builder and the bench. -/
def onBuilder {α : Type} (finding : α → Finding) (act : Act (Builder × Bench) Failure α)
    (s : Session) : Except Failure Finding × Session :=
  let (result, (builder, bench)) := act (s.builder, s.bench)
  (result.map finding, { s with builder, bench })

/-- Runs an act on the session's own progress and the bench. -/
def onProgress (act : Act (Progress × Bench) Failure Unit) (s : Session) :
    Except Failure Finding × Session :=
  let (result, (progress, bench)) := act (s.progress, s.bench)
  (result.map fun _ => .nothing, { s with progress, bench })

def withBuilder (s : Session) (builder : Builder) : Except Failure Finding × Session :=
  (.ok (.draft builder.draft), { s with builder })

def withProgress (s : Session) (progress : Progress) : Except Failure Finding × Session :=
  (.ok .nothing, { s with progress })

def perform (s : Session) : Operation → Except Failure Finding × Session
  | .begin name =>
      { s with bench := s.bench.note (.edited (.setName name)) }.withBuilder (Builder.named name)
  | .beginFrom draft => s.withBuilder { draft }
  | .edit edit => { s with bench := s.bench.note (.edited edit) }.withBuilder (s.builder.edit edit)
  | .apply => s.onBuilder .record (Builder.apply s.window Bench.desk)
  | .replay => s.onBuilder (fun _ => .nothing) (Builder.replay s.window Bench.desk)
  | .createRecord => s.onBench .record (s.window.client.createRecord Bench.desk)
  | .patchRecord record changes =>
      s.onBench .reply (s.window.client.patchRecord Bench.desk record changes)
  | .patchRecordAdvanced record changes =>
      s.onBench .reply (s.window.client.patchRecordAdvanced Bench.desk record changes)
  | .tabFields record tab => s.onBench .reply (s.window.client.tabFields Bench.desk record tab)
  | .dropdown record tab field =>
      s.onBench .references (s.window.client.dropdown Bench.desk record tab field)
  | .snapshot record => s.onBench .snapshot (s.window.snapshot Bench.desk record)
  | .enterLocation location => s.onBench (fun _ => .nothing) (Entry.location Bench.desk location)
  | .enterContact contact => s.onBench (fun _ => .nothing) (Entry.contact Bench.desk contact)
  | .enterBank bank => s.onBench (fun _ => .nothing) (Entry.bank Bench.desk bank)
  | .replayEntries draft => s.onProgress (Entry.replay Bench.desk draft)
  | .hasPending draft => (.ok (.flag (s.progress.hasPending draft)), s)
  | .setProgress progress => s.withProgress progress
  | .resetLocations => s.withProgress s.progress.resetLocations
  | .resetContacts => s.withProgress s.progress.resetContacts
  | .gesture call => s.onBench call.finding (Bench.desk.gesture call)

/-- What is seen of an operation: its result and what was logged since the one before. -/
structure Step where
  result : Except Failure Finding
  received : List Request
  calls : List Call
  reported : List Event

/-- Forgets what has been logged of requests and events. -/
def clearLogs (s : Session) : Session :=
  { s with bench := { s.bench with received := [], reported := [] } }

/-- Performs an operation and takes its step out of the logs. -/
def step (s : Session) (operation : Operation) : Step × Session :=
  let before := s.bench.screen.calls.length
  let (result, after) := s.perform operation
  ({ result
     received := after.bench.received
     calls := after.bench.screen.calls.drop before
     reported := after.bench.reported },
    after.clearLogs)

end Session

end PartnerRecords
