import PartnerRecords.Proofs.Partner.Application
import PartnerRecords.Proofs.Rest.Address
import PartnerRecords.Proofs.Rest.Identifier
import PartnerRecords.Proofs.Url.Pieces

/-!
# Documents with a number

A server that answers the creation of a document with its number decides where all that follows
goes. Every later request of an application is about the document with the identifier that was read
of the number, and the address of the document ends in the number, as long as the number fits
64 bits.
-/

namespace PartnerRecords

open Act Course Json Url

/-! ## Addresses of numbered documents -/

namespace Url

theorem IsProper.not_isDisguised {text : String} (proper : IsProper text) : ¬ IsDisguised text := by
  rintro ⟨other, dots⟩
  rw [stripped, proper.visible, String.ofList_toList, other] at dots
  cases dots

/-- The address of a numbered document ends in its number, and what is below goes on after it. -/
theorem EndsNamed.path_below_toString {u : Url} {front : List String} (ends : EndsNamed u front)
    (web : IsWeb u.scheme) (n : Nat) {more : List String}
    (plain : ∀ text ∈ more, ¬ IsDisguised text) :
    (u.below (toString n :: more)).path =
      .segments (front ++ toString n :: (more.filter (!isDotText ·)).map written) := by
  have proper := isProper_toString n
  have undotted : isDotText (toString n) = false := by
    simpa [isDotText] using And.intro proper.notDot proper.notDots
  have root : opened front = front := if_neg ends.ne_empty
  have shown : opened front = [] → ∀ text ∈ toString n :: more, stripped text ≠ "" := by
    rw [root]
    exact fun empty => absurd empty ends.ne_nil
  have goes := opened_foldl_pushSegment web
    (List.forall_mem_cons.mpr ⟨proper.not_isDisguised, plain⟩) shown
  rw [root, List.filter_cons_of_pos (by rw [undotted]; rfl), List.map_cons,
    written_toString] at goes
  rw [ends.path_below, ← goes, opened]
  split
  · next single =>
      -- The path would be the root, but the number stands in it.
      rw [opened, if_pos single] at goes
      exact absurd goes.symm (List.append_ne_nil_of_right_ne_nil _ (List.cons_ne_nil _ _))
  · rfl

end Url

/-- A request goes to the address of a numbered document, or, if it makes no changes, to one below.
Of the address of the window only the path goes on, and the query. -/
structure Request.GoesTo (base : Url) (n : Nat) (request : Request) : Prop where
  kept : request.url = { base with path := request.url.path, query := request.url.query }
  path : ∃ front more, base.path = .segments front ∧
    request.url.path = .segments (front ++ toString n :: more) ∧
    (request.changes.isSome = true → more = [])

namespace Request

theorem goesTo_below {u : Url} {front : List String} (ends : u.EndsNamed front)
    (web : IsWeb u.scheme) (n : Nat) {more : List String} {changes : Option (List Change)}
    (plain : ∀ text ∈ more, ¬ IsDisguised text) (alone : changes.isSome = true → more = []) :
    GoesTo u n { url := u.below (toString n :: more), changes } where
  kept := by rw [(ends.extend?_eq _).2]
  path := ⟨front, _, ends.path, ends.path_below_toString web n plain, fun patches => by
    rw [alone patches]
    rfl⟩

theorem GoesTo.appendQuery {base : Url} {n : Nat} {request : Request}
    (goes : request.GoesTo base n) (pair : String) :
    GoesTo base n { request with url := request.url.appendQuery pair } where
  kept := congrArg (·.appendQuery pair) goes.kept
  path := goes.path

end Request

namespace PartnerWindow

variable {window : PartnerWindow} {record : RecordId} {d : Draft} {trace : Exchanges}

/-- A request about a record: changes go to its address, and reads to addresses below. -/
inductive IsAbout (window : PartnerWindow) (record : RecordId) : Request → Prop
  | plain (changes : List Change) :
      IsAbout window record
        { url := window.client.windowUrl.below [record.text], changes := some changes }
  | advanced (changes : List Change) :
      IsAbout window record
        { url := (window.client.windowUrl.below [record.text]).appendQuery "advanced=true",
          changes := some changes }
  | tab {name : String}
      (known : name = window.layout.vendorTab ∨ name = window.layout.customerTab) :
      IsAbout window record { url := window.client.windowUrl.below [record.text, name] }
  | dropdown {field : String}
      (known : field ∈ [Field.discountSchema, Field.pricingSystem, Field.paymentTerm]) :
      IsAbout window record
        { url := window.client.windowUrl.below
            [record.text, window.layout.customerTab, record.text, "field", field, "dropdown"] }

/-! ## Requests of an application -/

theorem request_of_mem {request : Except Failure Request} {outcome : Except Failure WindowReply}
    (asks : Asks request trace outcome) {exchange : Request × Reply} (member : exchange ∈ trace) :
    request = .ok exchange.1 := by
  cases asks with
  | unsent _ => cases member
  | replied reply formed =>
      cases List.mem_singleton.mp member
      exact formed

/-- A request is sent and its reply read, or neither. -/
theorem exchanged_of_reading {request : Except Failure Request}
    {read : WindowReply → Except Failure RecordId} {outcome : Except Failure RecordId}
    (reading : (Asks request).Reading read trace outcome) :
    (trace = [] ∧ ∃ cause, outcome = .error cause) ∨
      ∃ sent reply, request = .ok sent ∧ trace = [(sent, reply)] ∧
        outcome = (reply.read sent.url.withoutCredentials).bind read := by
  obtain ⟨answer, asks, rfl⟩ :
      ∃ answer, Asks request trace answer ∧ outcome = answer.bind read := by
    cases reading with
    | broken asks => exact ⟨_, asks, rfl⟩
    | read asks => exact ⟨_, asks, rfl⟩
  cases asks with
  | unsent failed => exact .inl ⟨rfl, _, rfl⟩
  | replied reply formed => exact .inr ⟨_, reply, formed, rfl, rfl⟩

/-- What an application learns from the reply to its first request, and what follows. -/
theorem Application.learns {known : Option RecordId} {outcome : Except Failure RecordId}
    {request : Request} {reply : Reply} {later : Exchanges} {learned : Except Failure RecordId}
    (application : window.Application d ((request, reply) :: later) known outcome)
    (read : (reply.read request.url.withoutCredentials).bind WindowReply.documentId = learned) :
    window.creation = .ok request ∧ known = learned.toOption ∧
      (∀ cause, learned = .error cause → outcome = .error cause ∧ later = []) ∧
      ∀ record, learned = .ok record → ∃ described, window.Describes d record later described := by
  generalize whole : (request, reply) :: later = trace at application
  cases application with
  | uncreated creates =>
      obtain ⟨rfl, -⟩ | ⟨sent, answer, formed, rfl, ended⟩ := exchanged_of_reading creates
      · cases whole
      · cases whole
        rw [read] at ended
        subst ended
        exact ⟨formed, rfl, fun _ failed => ⟨failed, rfl⟩, fun _ answered => by cases answered⟩
  | @created first rest record described creates describes =>
      obtain ⟨-, cause, ended⟩ | ⟨sent, answer, formed, rfl, ended⟩ := exchanged_of_reading creates
      · cases ended
      · cases whole
        rw [read] at ended
        subst ended
        refine ⟨formed, rfl, fun _ failed => (by cases failed), ?_⟩
        rintro _ ⟨⟩
        exact ⟨described, describes⟩

section About

variable {front : List String} (ends : window.client.windowUrl.EndsNamed front)

include ends

theorem IsAbout.of_readRequest {read : SnapshotRead} {request : Request}
    (asked : window.readRequest record read = .ok request) : window.IsAbout record request := by
  rw [eq_of_request ends asked]
  cases read
  case vendorTab => exact .tab (.inl rfl)
  case customerTab => exact .tab (.inr rfl)
  case discountSchemas => exact .dropdown (by decide)
  case pricingSystems => exact .dropdown (by decide)
  case paymentTerms => exact .dropdown (by decide)

theorem References.isAbout {outcome : Except Failure ReferenceSnapshot}
    (references : window.References record trace outcome) {exchange : Request × Reply}
    (member : exchange ∈ trace) : window.IsAbout record exchange.1 := by
  have asked : .ok exchange.1 ∈ asked trace := List.mem_map_of_mem member
  obtain ⟨read, -, formed⟩ := List.mem_map.mp (references.asked_subperm.subset asked)
  exact .of_readRequest ends formed

theorem SendsTerms.isAbout {outcome : Except Failure Unit}
    (sends : window.SendsTerms d record trace outcome) {exchange : Request × Reply}
    (member : exchange ∈ trace) : window.IsAbout record exchange.1 := by
  cases sends with
  | unread references => exact references.isAbout ends member
  | unresolved references _ => exact references.isAbout ends member
  | unchanged references _ => exact references.isAbout ends member
  | changed references _ _ advances =>
      rcases List.mem_append.mp member with first | later
      · exact references.isAbout ends first
      · rw [← request_advanced] at advances
        rw [eq_of_request ends (request_of_mem advances later)]
        exact .advanced _

/-- Whatever is sent to describe a record is about it. -/
theorem Describes.isAbout {outcome : Except Failure Unit}
    (describes : window.Describes d record trace outcome) {exchange : Request × Reply}
    (member : exchange ∈ trace) : window.IsAbout record exchange.1 := by
  have named : ∀ {trace outcome}, Asks (window.naming record d.name) trace outcome →
      exchange ∈ trace → window.IsAbout record exchange.1 := by
    intro trace outcome names member
    rw [eq_of_request ends (request_of_mem names member)]
    exact .plain _
  cases describes with
  | unnamed names => exact named names member
  | named names _ => exact named names member
  | termed names _ terms =>
      rcases List.mem_append.mp member with first | later
      · exact named names first
      · exact terms.isAbout ends later

/-- Requests about a document whose identifier is a number go to the address of that number. -/
theorem IsAbout.goesTo (web : IsWeb window.client.windowUrl.scheme) {n : Nat} {request : Request}
    (about : window.IsAbout ⟨toString n⟩ request)
    (vendor : ¬ IsDisguised window.layout.vendorTab)
    (customer : ¬ IsDisguised window.layout.customerTab) :
    request.GoesTo window.client.windowUrl n := by
  have itself (changes : List Change) : Request.GoesTo window.client.windowUrl n
      { url := window.client.windowUrl.below [toString n], changes := some changes } :=
    Request.goesTo_below ends web n (fun _ member => absurd member List.not_mem_nil) fun _ => rfl
  have constant : ∀ name ∈ ["field", "dropdown", Field.discountSchema, Field.pricingSystem,
      Field.paymentTerm], ¬ IsDisguised name := by
    unfold IsDisguised
    decide
  cases about with
  | plain changes => exact itself changes
  | advanced changes => exact (itself changes).appendQuery "advanced=true"
  | @tab name known =>
      refine Request.goesTo_below ends web n (List.forall_mem_singleton.mpr ?_) (by rintro ⟨⟩)
      rcases known with rfl | rfl
      · exact vendor
      · exact customer
  | @dropdown field known =>
      refine Request.goesTo_below ends web n (fun text member => ?_) (by rintro ⟨⟩)
      simp only [List.mem_cons, List.not_mem_nil, or_false] at member known
      rcases member with rfl | rfl | rfl | rfl | rfl
      · exact customer
      · exact (isProper_toString n).not_isDisguised
      · exact constant _ (by simp)
      · exact constant _ (by simp [known])
      · exact constant _ (by simp)

end About

end PartnerWindow

/-! ## Numbers in replies -/

/-- What becomes of a number that a server replies with when it creates a document. -/
structure Numbered (window : PartnerWindow) (n : Nat) (reply : Reply) : Prop where
  created {ω : Type} (desk : Desk ω) (world : ω) (request : Request) :
    window.creation = .ok request →
    (desk.exchange request (desk.note (.requested request) world)).1 = reply →
    (window.client.createRecord desk world).1 =
      (RecordId.ofDigits? n).elim (.error (.decode .notJson)) .ok
  exact_iff : RecordId.ofDigits? n = some ⟨toString n⟩ ↔ n < Text.wordLimit
  distinct (m : Nat) : m < Text.wordLimit → n < Text.wordLimit →
    RecordId.ofDigits? m = RecordId.ofDigits? n → m = n
  applied {ω : Type} (desk : Desk ω) (d : Draft) (p : Progress) (world : ω)
      {result : Except Failure RecordId} {b : Builder} {log : List Deed} {after : ω}
      {request : Request} {later : Exchanges} :
    Builder.apply window desk.recorded ({ draft := d, progress := p }, [], world) =
      (result, b, log, after) →
    Deed.exchanges log = (request, reply) :: later →
    b.record = RecordId.ofDigits? n ∧
      (RecordId.ofDigits? n = none → result = .error (.decode .notJson)) ∧
      ∀ exchange ∈ later,
        (∃ record, RecordId.ofDigits? n = some record ∧ window.IsAbout record exchange.1) ∧
        (n < Text.wordLimit → ¬ IsDisguised window.layout.vendorTab →
          ¬ IsDisguised window.layout.customerTab →
          exchange.1.GoesTo window.client.windowUrl n)

/-- The identifiers of numbers that fit 64 bits can be told apart. -/
theorem RecordId.eq_of_ofDigits?_eq {m n : Nat} (fits : m < Text.wordLimit)
    (fitsToo : n < Text.wordLimit) (same : ofDigits? m = ofDigits? n) : m = n := by
  rw [(ofDigits?_eq_toString_iff m).mpr fits, (ofDigits?_eq_toString_iff n).mpr fitsToo,
    Option.some.injEq, RecordId.mk.injEq] at same
  have digits : Nat.toDigits 10 m = Nat.toDigits 10 n := by
    rw [Nat.toString_eq_ofList_toDigits, Nat.toString_eq_ofList_toDigits] at same
    exact String.ofList_injective same
  calc
    m = Text.valueIn 10 (Nat.toDigits 10 m) := (Text.valueIn_toDigits m).symm
    _ = Text.valueIn 10 (Nat.toDigits 10 n) := congrArg _ digits
    _ = n := Text.valueIn_toDigits n

/-- A number in a reply is the identifier of the document, digit by digit, exactly if it fits
64 bits, and all that follows then goes to the address of this number. -/
theorem numbered_of_digits {apiUrl : String} {windowId : Nat} {window : PartnerWindow}
    (connected : WindowClient.connect apiUrl windowId = .ok window.client) {n status : Nat}
    {cs : List Char} (reply : WritesReply n cs) (success : 200 ≤ status ∧ status < 300) :
    Numbered window n (.answered status (some (String.ofList cs).toUTF8)) where
  created desk world request asked answered :=
    WindowClient.createRecord_eq reply success asked answered
  exact_iff := RecordId.ofDigits?_eq_toString_iff n
  distinct _ := RecordId.eq_of_ofDigits?_eq
  applied desk d p world result b log after request later run exchanged := by
    have applied := (ends_iff _).mp (Builder.apply_applied window desk d p world)
    rw [run] at applied
    obtain ⟨deeds, screen, outcome, grown, application, -, unasked, ended⟩ := applied
    dsimp only at grown application
    have trace : Deed.exchanges log = Deed.exchanges deeds := by
      rw [grown, Deed.exchanges_append, unasked, List.append_nil]
    rw [← trace, exchanged] at application
    obtain ⟨created, known, fails, describes⟩ := application.learns (reply.documentId_eq success _)
    -- A request was made, so the window is on the web: its URL has a path that goes on.
    have web : IsWeb window.client.windowUrl.scheme :=
      PartnerWindow.web_of_request created fun _ => rfl
    obtain ⟨front, ends⟩ := WindowClient.endsNamed_of_connect connected web
    cases learned : RecordId.ofDigits? n with
    | none =>
        rw [learned] at known fails
        obtain ⟨failed, rfl⟩ := fails _ rfl
        subst failed
        exact ⟨known, fun _ => ended.1, fun _ member => by cases member⟩
    | some record =>
        rw [learned] at known describes
        obtain ⟨described, describes⟩ := describes record rfl
        refine ⟨known, fun nothing => (by cases nothing), fun exchange member => ?_⟩
        have about := describes.isAbout ends member
        refine ⟨⟨record, rfl, about⟩, fun fits vendor customer => ?_⟩
        rw [(RecordId.ofDigits?_eq_toString_iff n).mpr fits] at learned
        cases learned
        exact about.goesTo ends web vendor customer

def bareText (n : Nat) : List Char :=
  '\x7b' :: ((quote "id").toList ++ ':' :: ' ' :: Nat.toDigits 10 n) ++ ['\x7d']

theorem writesReply_bareText (n : Nat) : WritesReply n (bareText n) := by
  have nothing : ∀ c ∈ ([] : List Char), isSpace c = true := fun _ member => by cases member
  have digits : IsSpaced (Nat.toDigits 10 n) (' ' :: Nat.toDigits 10 n) :=
    ⟨[' '], [], List.forall_mem_singleton.mpr rfl, nothing, (List.append_nil _).symm⟩
  refine .document (.document .nil .nil (fun _ member => ?_) (fun _ member => ?_)
    (fun _ member => ?_) (lexes_quote "id").tokens?_eq digits ⟨[], [], nothing, nothing, ?_⟩)
  · cases member
  · cases member
  · cases member
  · simp [bareText]

open WindowClient (loopback ofLocalhost answering)

/-- The greatest number of 64 bits. -/
theorem numbered_of_greatest_word :
    WindowClient.connect "http://[::1]/rest/api" 123 = .ok loopback ∧
      WritesReply 18446744073709551615 (bareText 18446744073709551615) ∧
      (200 ≤ 201 ∧ 201 < 300) ∧
      Numbered ⟨loopback, {}⟩ 18446744073709551615
        (.answered 201 (some (String.ofList (bareText 18446744073709551615)).toUTF8)) := by
  have connected : WindowClient.connect "http://[::1]/rest/api" 123 = .ok loopback := by
    decide +kernel
  have reply := writesReply_bareText 18446744073709551615
  have success : 200 ≤ 201 ∧ 201 < 300 := by decide
  exact ⟨connected, reply, success,
    @numbered_of_digits _ _ ⟨loopback, {}⟩ connected _ _ _ reply success⟩

theorem createRecord_bareText {n : Nat} {record : RecordId}
    (read : RecordId.ofDigits? n = some record) :
    (ofLocalhost.createRecord (answering (String.ofList (bareText n))) ()).1 = .ok record := by
  have sendable : (ofLocalhost.windowUrl.below ["NEW"]).withoutCredentials.isSendable = true := by
    decide +kernel
  have asked : ofLocalhost.request ["NEW"] id (some []) =
      .ok { url := ofLocalhost.windowUrl.below ["NEW"], changes := some [] } := if_pos sendable
  have success : 200 ≤ 200 ∧ 200 < 300 := by decide
  rw [WindowClient.createRecord_eq (writesReply_bareText n) success asked rfl, read]
  rfl

/-- The first two numbers of more than 64 bits make one identifier, the digits of neither. -/
theorem greater_numbers_collide :
    (ofLocalhost.createRecord
        (answering (String.ofList (bareText 18446744073709551616))) ()).1 =
      .ok ⟨"1.8446744073709552e+19"⟩ ∧
    (ofLocalhost.createRecord
        (answering (String.ofList (bareText 18446744073709551617))) ()).1 =
      .ok ⟨"1.8446744073709552e+19"⟩ := by
  constructor
  · exact createRecord_bareText (by decide +kernel)
  · exact createRecord_bareText (by decide +kernel)

end PartnerRecords
