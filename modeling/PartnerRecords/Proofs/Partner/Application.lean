import PartnerRecords.Proofs.Partner.Lifecycle
import PartnerRecords.Proofs.Rest.Address
import PartnerRecords.Proofs.Rest.Identifier
import PartnerRecords.Proofs.Rest.References

/-!
# Applications

What an application of a draft sends, and when it stops. A document is created; it is given its
names; if the draft asks for terms, the reference data of the document are read and the changes
they make necessary are sent. The first failure is the end, and the screen comes after all of
this.
-/

namespace PartnerRecords

open Act Course

variable {ω : Type}

namespace PartnerWindow

variable (window : PartnerWindow) (record : RecordId)

def creation : Except Failure Request :=
  window.client.request ["NEW"] id (some [])

def naming (name : String) : Except Failure Request :=
  window.client.request [record.text] id
    (some [⟨"CompanyName", .text name⟩, ⟨"Name2", .text name⟩])

def advancedQuery : Option String → String
  | none => "advanced=true"
  | some "" => "advanced=true"
  | some query => query ++ "&advanced=true"

def advancing (changes : List Change) : Except Failure Request :=
  window.client.request [record.text]
    (fun url => { url with query := some (advancedQuery url.query) }) (some changes)

inductive SendsTerms (window : PartnerWindow) (d : Draft) (record : RecordId) : Course Unit
  | unread {trace : Exchanges} {cause : Failure}
      (references : window.References record trace (.error cause)) :
      SendsTerms window d record trace (.error cause)
  | unresolved {trace : Exchanges} {snapshot : ReferenceSnapshot} {missing : NoSuchReference}
      (references : window.References record trace (.ok snapshot))
      (terms : termChanges d snapshot = .error missing) :
      SendsTerms window d record trace (.error (.notFound missing.name))
  | unchanged {trace : Exchanges} {snapshot : ReferenceSnapshot}
      (references : window.References record trace (.ok snapshot))
      (terms : termChanges d snapshot = .ok []) :
      SendsTerms window d record trace (.ok ())
  | changed {trace later : Exchanges} {snapshot : ReferenceSnapshot} {changes : List Change}
      {outcome : Except Failure WindowReply}
      (references : window.References record trace (.ok snapshot))
      (terms : termChanges d snapshot = .ok changes) (nonempty : changes ≠ [])
      (advances : Asks (window.advancing record changes) later outcome) :
      SendsTerms window d record (trace ++ later) (outcome.map fun _ => ())

inductive Describes (window : PartnerWindow) (d : Draft) (record : RecordId) : Course Unit
  | unnamed {trace : Exchanges} {cause : Failure}
      (names : Asks (window.naming record d.name) trace (.error cause)) :
      Describes window d record trace (.error cause)
  | named {trace : Exchanges} {reply : WindowReply}
      (names : Asks (window.naming record d.name) trace (.ok reply))
      (plain : d.needsReferences = false) :
      Describes window d record trace (.ok ())
  | termed {trace later : Exchanges} {reply : WindowReply} {outcome : Except Failure Unit}
      (names : Asks (window.naming record d.name) trace (.ok reply))
      (needed : d.needsReferences = true)
      (terms : window.SendsTerms d record later outcome) :
      Describes window d record (trace ++ later) outcome

/-- All that an application sends, the identifier it learns, and its outcome. -/
inductive Application (window : PartnerWindow) (d : Draft) :
    Exchanges → Option RecordId → Except Failure RecordId → Prop
  | uncreated {trace : Exchanges} {cause : Failure}
      (creates : (Asks window.creation).Reading WindowReply.documentId trace (.error cause)) :
      Application window d trace none (.error cause)
  | created {trace later : Exchanges} {record : RecordId} {outcome : Except Failure Unit}
      (creates : (Asks window.creation).Reading WindowReply.documentId trace (.ok record))
      (describes : window.Describes d record later outcome) :
      Application window d (trace ++ later) (some record) (outcome.map fun _ => record)

/-! ## Wording -/

/-- What a request says that goes below an address: on the web, the path goes on with texts, if
these can be segments, and nothing else of the address changes but the query. -/
structure Says (base : Url) (texts : List String) (query : Option String)
    (changes : Option (List Change)) (request : Request) : Prop where
  method : request.method = if changes.isSome then "PATCH" else "GET"
  changes : request.changes = changes
  url : request.url = { base with path := request.url.path, query }
  path : Url.IsWeb base.scheme → (∀ text ∈ texts, Url.IsProper text) →
    base.path.LeadsOn texts request.url.path

/-- A request is made as it is worded, unless nothing can be sent to its address. -/
def Wording (base : Url) (texts : List String) (query : Option String)
    (changes : Option (List Change)) (made : Except Failure Request) : Prop :=
  ∃ request, Says base texts query changes request ∧
    made = if request.url.withoutCredentials.isSendable then .ok request
      else .error (.http (.unsendable request.url.withoutCredentials))

structure Worded (window : PartnerWindow) : Prop where
  creation :
    Wording window.client.windowUrl ["NEW"] window.client.windowUrl.query (some [])
      window.creation
  naming (record : RecordId) (name : String) :
    Wording window.client.windowUrl [record.text] window.client.windowUrl.query
      (some [⟨"CompanyName", .text name⟩, ⟨"Name2", .text name⟩]) (window.naming record name)
  reading (record : RecordId) (read : SnapshotRead) :
    Wording window.client.windowUrl (window.readTexts record read) window.client.windowUrl.query
      none (window.readRequest record read)
  advancing (record : RecordId) (changes : List Change) :
    Wording window.client.windowUrl [record.text]
      (some (advancedQuery window.client.windowUrl.query)) (some changes)
      (window.advancing record changes)

section Wording

variable {client : WindowClient} {texts : List String} {changes : Option (List Change)}
variable {request : Request} {adjust : Url → Url} {front : List String}

theorem web_of_request (asked : client.request texts adjust changes = .ok request)
    (kept : ∀ url, (adjust url).scheme = url.scheme) : Url.IsWeb client.windowUrl.scheme := by
  obtain ⟨url, extended, sendable, -⟩ := WindowClient.exists_url_of_request asked
  simp only [Url.isSendable, Bool.and_eq_true, Bool.or_eq_true, beq_iff_eq] at sendable
  have web : Url.IsWeb (adjust url).scheme := sendable.1.1
  rw [kept] at web
  unfold WindowClient.extend Url.extend? at extended
  cases path : client.windowUrl.path with
  | plain text =>
      rw [path] at extended
      cases extended
  | segments list =>
      rw [path] at extended
      cases extended
      exact web

theorem eq_of_request (ends : client.windowUrl.EndsNamed front)
    (asked : client.request texts adjust changes = .ok request) :
    request = { url := adjust (client.windowUrl.below texts), changes } := by
  obtain ⟨url, extended, -, rfl⟩ := WindowClient.exists_url_of_request asked
  rw [WindowClient.extend, (ends.extend?_eq texts).1] at extended
  cases extended
  rfl

/-- Requests of a window say where they go below it. -/
theorem wording_of_connect {apiUrl : String} {windowId : Nat}
    (connected : WindowClient.connect apiUrl windowId = .ok client)
    (query : Option String → Option String) :
    Wording client.windowUrl texts (query client.windowUrl.query) changes
      (client.request texts (fun url => { url with query := query url.query }) changes) := by
  obtain ⟨base, list, windowUrl⟩ := WindowClient.exists_base_of_connect connected
  obtain ⟨extended, below⟩ :=
    Url.extend?_of_segments (congrArg Url.path windowUrl) texts
  refine ⟨{ url := { client.windowUrl.below texts with query := query client.windowUrl.query },
            changes }, ?_, ?_⟩
  · exact
      { method := rfl
        changes := rfl
        url := by rw [below]
        path := fun web => by
          obtain ⟨front, ends⟩ := WindowClient.endsNamed_of_connect connected web
          exact (ends.leadsOn_iff web texts).mpr }
  · unfold WindowClient.request WindowClient.extend
    rw [extended, below]
    rfl

theorem worded_of_connect {window : PartnerWindow} {apiUrl : String} {windowId : Nat}
    (connected : WindowClient.connect apiUrl windowId = .ok window.client) : window.Worded where
  creation := wording_of_connect connected id
  naming _ _ := wording_of_connect connected id
  reading _ _ := wording_of_connect connected id
  advancing _ _ := wording_of_connect connected fun query => some (advancedQuery query)

end Wording

/-! ## Courses -/

variable {window record} {d : Draft}

theorem request_advanced (changes : List Change) :
    window.client.request [record.text] (·.appendQuery "advanced=true") (some changes) =
      window.advancing record changes := by
  have advanced (url : Url) : url.appendQuery "advanced=true" =
      { url with query := some (advancedQuery url.query) } := by
    unfold Url.appendQuery
    split
    · next absent => rw [absent, advancedQuery]
    · next empty => rw [empty, advancedQuery]
    · next query shown same => simp [same, advancedQuery, String.append_assoc]
  exact congrArg (window.client.request _ · _) (funext advanced)

theorem takes_sendTerms (desk : Desk ω) :
    desk.Takes (Builder.sendTerms window desk.recorded d record) (window.SendsTerms d record) := by
  rw [Desk.takes_iff]
  intro state
  obtain ⟨trace, dialogue, references⟩ :=
    Desk.takes_iff.mp (takes_snapshot desk) state
  unfold Builder.sendTerms
  rw [bind_apply]
  generalize window.snapshot desk.recorded record state = answer at dialogue references ⊢
  obtain ⟨outcome, middle⟩ := answer
  cases outcome with
  | error cause => exact ⟨trace, dialogue, .unread references⟩
  | ok snapshot =>
      dsimp only
      cases terms : termChanges d snapshot with
      | error missing => exact ⟨trace, dialogue, .unresolved references terms⟩
      | ok changes =>
          cases changes with
          | nil => exact ⟨trace, dialogue, .unchanged references terms⟩
          | cons first rest =>
              obtain ⟨later, following, advances⟩ := Desk.takes_iff.mp (Desk.takes_sendTo desk
                window.client [record.text] (·.appendQuery "advanced=true")
                (some (first :: rest))) middle
              dsimp only
              rw [request_advanced] at advances
              rw [bind_pure_apply]
              exact ⟨trace ++ later, dialogue.trans following,
                .changed references terms (List.cons_ne_nil _ _) advances⟩

theorem takes_describe (desk : Desk ω) :
    desk.Takes (Builder.describe window desk.recorded d record) (window.Describes d record) := by
  rw [Desk.takes_iff]
  intro state
  obtain ⟨trace, dialogue, names⟩ := Desk.takes_iff.mp (Desk.takes_sendTo desk
    window.client [record.text] id (some (basicChanges d.name))) state
  unfold Builder.describe WindowClient.patchRecord
  rw [bind_apply]
  generalize window.client.sendTo desk.recorded [record.text] id _ state = answer at *
  obtain ⟨outcome, middle⟩ := answer
  cases outcome with
  | error cause => exact ⟨trace, dialogue, .unnamed names⟩
  | ok reply =>
      dsimp only
      cases needed : d.needsReferences with
      | false => exact ⟨trace, dialogue, .named names needed⟩
      | true =>
          obtain ⟨later, following, terms⟩ := Desk.takes_iff.mp
            (takes_sendTerms desk) middle
          exact ⟨trace ++ later, dialogue.trans following, .termed names needed terms⟩

theorem takes_createRecord (desk : Desk ω) : desk.Takes (window.client.createRecord desk.recorded)
    ((Asks window.creation).Reading WindowReply.documentId) := by
  have asked := Desk.takes_sendTo desk window.client ["NEW"] id (some [])
  exact asked.reading WindowReply.documentId

/-! ## Failures -/

variable {trace : Exchanges} {cause : Failure}

theorem SendsTerms.isOfServer (sends : window.SendsTerms d record trace (.error cause)) :
    cause.isOfServer = true := by
  generalize ended : (Except.error cause : Except Failure Unit) = outcome at sends
  cases sends with
  | unread references =>
      cases ended
      exact references.isOfServer
  | unresolved references terms =>
      cases ended
      rfl
  | unchanged references terms => cases ended
  | @changed _ _ _ _ outcome references terms nonempty advances =>
      cases outcome with
      | ok reply => cases ended
      | error reason =>
          cases ended
          exact isOfServer_of_asks advances

theorem Describes.isOfServer (describes : window.Describes d record trace (.error cause)) :
    cause.isOfServer = true := by
  cases describes with
  | unnamed names => exact isOfServer_of_asks names
  | termed names needed terms => exact terms.isOfServer

/-- Before the screen is asked for, an application fails of the server's part alone. -/
theorem Application.isOfServer {known : Option RecordId}
    (application : window.Application d trace known (.error cause)) :
    cause.isOfServer = true := by
  generalize ended : (Except.error cause : Except Failure RecordId) = outcome at application
  cases application with
  | uncreated creates =>
      cases ended
      generalize ended : (Except.error cause : Except Failure RecordId) = outcome at creates
      cases creates with
      | broken asks =>
          cases ended
          exact isOfServer_of_asks asks
      | read asks => exact WindowReply.isOfServer_of_documentId ended.symm
  | @created _ _ _ outcome creates describes =>
      cases outcome with
      | ok done => cases ended
      | error reason =>
          cases ended
          exact describes.isOfServer

end PartnerWindow

/-- An application that succeeds knows the identifier that it returns. -/
theorem PartnerWindow.Application.record_eq {window : PartnerWindow} {d : Draft}
    {trace : Exchanges} {known : Option RecordId} {record : RecordId}
    (application : window.Application d trace known (.ok record)) : known = some record := by
  generalize ended : (Except.ok record : Except Failure RecordId) = outcome at application
  cases application with
  | uncreated creates => cases ended
  | @created _ _ learned described creates describes =>
      cases described with
      | error cause => cases ended
      | ok done =>
          cases ended
          rfl

namespace Builder

variable {window : PartnerWindow} {desk : Desk ω} {b : Builder}

def Persisted (window : PartnerWindow) (desk : Desk ω) (b : Builder) (start : List Deed × ω)
    (result : Except Failure RecordId) (state : Builder × List Deed × ω) : Prop :=
  ∃ trace record, desk.Dialogue start trace state.2 ∧
    window.Application b.draft trace record result ∧ state.1 = { b with record }

theorem persist_persisted (unrecorded : b.record = none) (start : List Deed × ω) :
    (persist window desk.recorded).Ends (b, start)
      (fun record => Persisted window desk b start (.ok record))
      fun cause => Persisted window desk b start (.error cause) := by
  rw [persist_ends]
  refine (PartnerWindow.takes_createRecord desk start).mono ?_ ?_
  · rintro record middle ⟨trace, dialogue, creates⟩
    refine (PartnerWindow.takes_describe desk middle).mono ?_ ?_
    · rintro _ last ⟨later, following, describes⟩
      exact ⟨trace ++ later, some record, dialogue.trans following,
        .created creates describes, rfl⟩
    · rintro cause last ⟨later, following, describes⟩
      exact ⟨trace ++ later, some record, dialogue.trans following,
        .created creates describes, rfl⟩
  · rintro cause after ⟨trace, dialogue, creates⟩
    refine ⟨trace, none, dialogue, .uncreated creates, ?_⟩
    rw [← unrecorded]

/-- The deeds of an application, up to where the screen is first asked for, and those after. A
failure of the server's part is the outcome of the whole, and the screen is then left alone;
else the rest is a replay. -/
def Applied (window : PartnerWindow) (desk : Desk ω) (b : Builder)
    (result : Except Failure RecordId) (state : Builder × List Deed × ω) : Prop :=
  ∃ deeds screen outcome,
    state.2.1 = deeds ++ screen ∧
    window.Application b.draft (Deed.exchanges deeds) state.1.record outcome ∧
    Deed.calls deeds = [] ∧ Deed.exchanges screen = [] ∧
    match outcome with
    | .error cause => result = .error cause ∧ screen = []
    | .ok record => ∃ world entered,
        replay window desk.recorded ({ b with record := some record }, deeds, world) =
          (entered, state) ∧
        result = entered.map fun _ => record

/-- A replay right after the dialogue with the server. -/
theorem replay_applied {d : Draft} {p : Progress} {record : RecordId} {log : List Deed} {world : ω}
    (application : window.Application d (Deed.exchanges log) (some record) (.ok record))
    (calls : Deed.calls log = []) :
    (replay window desk.recorded).Ends
      ({ draft := d, record := some record, progress := p }, log, world)
      (fun _ => Applied window desk { draft := d, progress := p } (.ok record))
      fun cause => Applied window desk { draft := d, progress := p } (.error cause) := by
  refine ((ends_self (replay window desk.recorded) _).and
    (replay_unasked rfl Desk.grown_refl)).mono ?_ ?_
  · rintro value state ⟨run, recorded, screen, grown, unasked⟩
    refine ⟨log, screen, .ok record, grown, ?_, calls, List.filterMap_eq_nil_iff.mpr unasked,
      world, .ok value, run, rfl⟩
    rw [recorded]
    exact application
  · rintro cause state ⟨run, recorded, screen, grown, unasked⟩
    refine ⟨log, screen, .ok record, grown, ?_, calls, List.filterMap_eq_nil_iff.mpr unasked,
      world, .error cause, run, rfl⟩
    rw [recorded]
    exact application

theorem apply_applied (window : PartnerWindow) (desk : Desk ω) (d : Draft) (p : Progress)
    (world : ω) :
    (apply window desk.recorded).Ends ({ draft := d, progress := p }, [], world)
      (fun record => Applied window desk { draft := d, progress := p } (.ok record))
      fun cause => Applied window desk { draft := d, progress := p } (.error cause) := by
  refine apply_ends (fun _ known => by cases known) fun unrecorded => ?_
  refine (persist_persisted unrecorded _).mono ?_ ?_
  · rintro record ⟨b, log, world⟩ ⟨trace, known, dialogue, application, same⟩
    obtain ⟨deeds, grown, calls, exchanged⟩ := dialogue.deeds
    obtain rfl : b = { draft := d, record := known, progress := p } := same
    obtain rfl : known = some record := application.record_eq
    obtain rfl : log = [.noted (.applyStarted d.name)] ++ deeds := grown
    refine replay_applied ?_ ?_
    · simp only [Deed.exchanges_append, Deed.exchanges_noted, Deed.exchanges_nil, exchanged,
        List.nil_append, List.append_nil]
      exact application
    · rw [Deed.calls_append, Deed.calls_append, calls]
      rfl
  · rintro cause ⟨b, log, world⟩ ⟨trace, known, dialogue, application, same⟩
    obtain ⟨deeds, rfl, calls, rfl⟩ := dialogue.deeds
    obtain rfl : b = { draft := d, record := known, progress := p } := same
    refine ⟨_, [], .error cause, (List.append_nil _).symm, application, calls, rfl, rfl, rfl⟩

/-- For every draft, window, server and screen: what an application of a builder without a
record sends, how it ends, and when the screen is asked; how its requests are worded, and which
replies succeed and identify a record. -/
theorem applied_of_apply (window : PartnerWindow) (desk : Desk ω) (d : Draft) (p : Progress)
    (world : ω) :
    Applied window desk { draft := d, progress := p }
        (apply window desk.recorded ({ draft := d, progress := p }, [], world)).1
        (apply window desk.recorded ({ draft := d, progress := p }, [], world)).2 ∧
      (∀ apiUrl windowId,
        WindowClient.connect apiUrl windowId = .ok window.client → window.Worded) ∧
      (∀ url (reply : Reply) found, reply.read url = .ok found ↔ reply.Shows found) ∧
      ∀ (found : WindowReply) record, found.documentId = .ok record ↔ found.Identifies record :=
  ⟨(ends_iff (Applied window desk { draft := d, progress := p })).mp
      (apply_applied window desk d p world),
    fun _ _ connected => PartnerWindow.worded_of_connect connected,
    fun url _ _ => Reply.read_eq_ok_iff url, fun _ _ => WindowReply.documentId_eq_ok_iff⟩

open WindowClient (answering loopback)

/-- A server that shows the same document and the same empty list to everyone. -/
def obliging : Desk Unit :=
  answering ("\x7b\"id\": 7, \"fieldsByName\": \x7b\"IsVendor\": false, \"IsCustomer\": null\x7d, "
    ++ "\"values\": []\x7d")

def queried : PartnerWindow where
  client := ⟨{ loopback.windowUrl with query := some "lang=de" }⟩
  layout := {}

def acme : Draft where
  name := "Acme"
  isVendor := true

/-- A vendor is created, named, looked up and changed before the screen is asked. -/
theorem applied_to_vendor :
    WindowClient.connect "http://[::1]/rest/api?lang=de" 123 = .ok queried.client ∧
      queried.Worded ∧
      Applied queried obliging { draft := acme }
        (apply queried obliging.recorded ({ draft := acme }, [], ())).1
        (apply queried obliging.recorded ({ draft := acme }, [], ())).2 ∧
      (Deed.exchanges (apply queried obliging.recorded ({ draft := acme }, [], ())).2.2.1).map
          (fun exchange => (exchange.1.method, exchange.1.url.text,
            (exchange.1.changes.getD []).map Change.path)) =
        [("PATCH", "http://[::1]/rest/api/window/123/NEW?lang=de", []),
          ("PATCH", "http://[::1]/rest/api/window/123/7?lang=de", ["CompanyName", "Name2"]),
          ("GET", "http://[::1]/rest/api/window/123/7/AD_Tab-224?lang=de", []),
          ("GET", "http://[::1]/rest/api/window/123/7/AD_Tab-223?lang=de", []),
          ("GET", "http://[::1]/rest/api/window/123/7/AD_Tab-223/7/field/" ++
            "M_DiscountSchema_ID/dropdown?lang=de", []),
          ("GET", "http://[::1]/rest/api/window/123/7/AD_Tab-223/7/field/" ++
            "M_PricingSystem_ID/dropdown?lang=de", []),
          ("GET", "http://[::1]/rest/api/window/123/7/AD_Tab-223/7/field/" ++
            "C_PaymentTerm_ID/dropdown?lang=de", []),
          ("PATCH", "http://[::1]/rest/api/window/123/7?lang=de&advanced=true", ["IsVendor"])] := by
  have connected : WindowClient.connect "http://[::1]/rest/api?lang=de" 123 =
      .ok queried.client := by
    decide +kernel
  obtain ⟨applied, worded, -⟩ := applied_of_apply queried obliging acme {} ()
  exact ⟨connected, worded _ _ connected, applied, by decide +kernel⟩

end Builder

end PartnerRecords
