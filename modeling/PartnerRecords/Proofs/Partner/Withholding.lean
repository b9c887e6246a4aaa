import PartnerRecords.Proofs.Partner.Application
import PartnerRecords.Proofs.Rest.Joining

/-!
# Reference data that cannot be read

An application that needs reference data reads them after it has named its record. If they cannot
be had, for whatever reason and in whatever order the reads come back, the application ends with
this failure: it sends no terms, leaves the screen alone, and the builder keeps its record.
-/

namespace PartnerRecords

open Act Course PartnerWindow

variable {ω : Type} {window : PartnerWindow} {answers : Answers} {record : RecordId}

def PartnerWindow.creationFate (window : PartnerWindow) (answers : Answers) :
    Except Failure RecordId :=
  answers.fate window.creation >>= WindowReply.documentId

/-- An application that has created and named its record and needs reference data comes to
nothing if these cannot be had. -/
def Withheld (window : PartnerWindow) (answers : Answers) (d : Draft) (record : RecordId)
    (result : Except Failure RecordId) (state : Builder × List Deed × ω) : Prop :=
  ∃ order outcome, Joined (window.fate answers record) order outcome ∧
    ∀ cause, outcome = .error cause →
      result = .error cause ∧ state.1.record = some record ∧ Deed.calls state.2.1 = [] ∧
        ∃ reads, reads.Subperm (SnapshotRead.all.map (window.readRequest record)) ∧
          asked (Deed.exchanges state.2.1) =
            window.creation :: window.naming record d.name :: reads

namespace PartnerWindow

variable {d : Draft} {trace : Exchanges}

theorem asked_of_ok {request : Except Failure Request} {reply : WindowReply}
    (asks : Asks request trace (.ok reply)) : asked trace = [request] := by
  obtain sent | ⟨-, cause, -, ended⟩ := asked_of_asks asks
  · exact sent
  · cases ended

/-- Terms are sent only after reference data that could be had. -/
theorem SendsTerms.exists_joined {outcome : Except Failure Unit}
    (sends : window.SendsTerms d record trace outcome) (gives : answers.Gives trace) :
    ∃ order snapshot, Joined (window.fate answers record) order snapshot ∧
      ∀ cause, snapshot = .error cause → outcome = .error cause ∧
        (asked trace).Subperm (SnapshotRead.all.map (window.readRequest record)) := by
  cases sends with
  | unread references =>
      obtain ⟨order, joined⟩ := references.exists_joined gives
      refine ⟨order, _, joined, ?_⟩
      rintro _ ⟨⟩
      exact ⟨rfl, references.asked_subperm⟩
  | unresolved references _ =>
      obtain ⟨order, joined⟩ := references.exists_joined gives
      exact ⟨order, _, joined, fun _ failed => by cases failed⟩
  | unchanged references _ =>
      obtain ⟨order, joined⟩ := references.exists_joined gives
      exact ⟨order, _, joined, fun _ failed => by cases failed⟩
  | changed references _ _ _ =>
      obtain ⟨order, joined⟩ := references.exists_joined (Answers.gives_append.mp gives).1
      exact ⟨order, _, joined, fun _ failed => by cases failed⟩

/-- An application goes on to the reference data once it has created and named its record. -/
theorem Application.exists_joined {known : Option RecordId} {outcome : Except Failure RecordId}
    {reply : WindowReply} (application : window.Application d trace known outcome)
    (gives : answers.Gives trace) (created : window.creationFate answers = .ok record)
    (named : answers.fate (window.naming record d.name) = .ok reply)
    (needed : d.needsReferences = true) :
    ∃ order snapshot, Joined (window.fate answers record) order snapshot ∧
      ∀ cause, snapshot = .error cause → outcome = .error cause ∧ known = some record ∧
        ∃ reads, reads.Subperm (SnapshotRead.all.map (window.readRequest record)) ∧
          asked trace = window.creation :: window.naming record d.name :: reads := by
  cases application with
  | uncreated creates =>
      have met := creates.eq_bind fun _ => Answers.eq_fate_of_asks gives
      cases met.trans created
  | @created first later learned described creates describes =>
      obtain ⟨givesFirst, givesLater⟩ := Answers.gives_append.mp gives
      have met := creates.eq_bind fun _ => Answers.eq_fate_of_asks givesFirst
      cases met.trans created
      have askedFirst : asked first = [window.creation] := by
        generalize known : (Except.ok record : Except Failure RecordId) = answer at creates
        cases creates with
        | broken _ => cases known
        | read asks => exact asked_of_ok asks
      cases describes with
      | unnamed names =>
          have met := Answers.eq_fate_of_asks givesLater names
          cases met.trans named
      | named _ plain => cases plain.symm.trans needed
      | @termed naming terming _ _ names _ terms =>
          obtain ⟨order, snapshot, joined, fails⟩ :=
            terms.exists_joined (Answers.gives_append.mp givesLater).2
          refine ⟨order, snapshot, joined, fun cause failed => ?_⟩
          obtain ⟨rfl, reads⟩ := fails cause failed
          refine ⟨rfl, rfl, _, reads, ?_⟩
          rw [asked_append, asked_append, askedFirst, asked_of_ok names]
          rfl

end PartnerWindow

namespace Builder

theorem withheld_of_apply {desk : Desk ω} (serves : desk.Serves answers) {d : Draft}
    {reply : WindowReply} (p : Progress) (world : ω)
    (created : window.creationFate answers = .ok record)
    (named : answers.fate (window.naming record d.name) = .ok reply)
    (needed : d.needsReferences = true) :
    (apply window desk.recorded).Ends ({ draft := d, progress := p }, [], world)
      (fun value => Withheld window answers d record (.ok value))
      fun cause => Withheld window answers d record (.error cause) := by
  refine apply_ends (fun _ known => by cases known) fun unrecorded => ?_
  refine (persist_persisted unrecorded _).mono ?_ ?_
  · rintro learned state ⟨trace, known, dialogue, application, -⟩
    obtain ⟨order, snapshot, joined, fails⟩ := application.exists_joined
      (Answers.gives_of_dialogue serves dialogue) created named needed
    have had : ∀ cause, snapshot ≠ .error cause := fun cause failed => by
      cases (fails cause failed).1
    exact ends_of_forall
      (fun _ _ => ⟨order, snapshot, joined, fun cause failed => absurd failed (had cause)⟩)
      fun _ _ => ⟨order, snapshot, joined, fun cause failed => absurd failed (had cause)⟩
  · rintro cause ⟨b, log, world⟩ ⟨trace, known, dialogue, application, same⟩
    obtain ⟨order, snapshot, joined, fails⟩ := application.exists_joined
      (Answers.gives_of_dialogue serves dialogue) created named needed
    obtain ⟨deeds, rfl, calls, rfl⟩ := dialogue.deeds
    refine ⟨order, snapshot, joined, fun reason failed => ?_⟩
    obtain ⟨ended, learned, reads, known, sent⟩ := fails reason failed
    refine ⟨ended, ?_, calls, reads, known, sent⟩
    rw [same, learned]

/-- At a server whose answers depend on nothing but method and URL, and in whatever order the
reads of a snapshot come back: what becomes of the snapshot, and of an application that needs
it. -/
theorem references_of_server {desk : Desk ω} (serves : desk.Serves answers)
    (window : PartnerWindow) :
    (∀ record log world, Joined (window.fate answers record) (desk.readOrder world)
      (window.snapshot desk.recorded record (log, world)).1) ∧
    ∀ d p world record reply, window.creationFate answers = .ok record →
      answers.fate (window.naming record d.name) = .ok reply → d.needsReferences = true →
        Withheld window answers d record
          (apply window desk.recorded ({ draft := d, progress := p }, [], world)).1
          (apply window desk.recorded ({ draft := d, progress := p }, [], world)).2 := by
  refine ⟨fun record log world => snapshot_joined serves log world, ?_⟩
  intro d p world record reply created named needed
  exact (ends_iff (Withheld window answers d record)).mp
    (withheld_of_apply serves p world created named needed)

/-- A server that has trouble with the reference data of the record it has created: it knows
payment terms and a tab without flags, and nothing else. -/
def troubled : Answers := fun _ url =>
  match url.path with
  | .segments ["window", "123", "NEW"] => .answered 200 (some "\x7b\"id\": 7\x7d".toUTF8)
  | .segments ["window", "123", "7"] => .answered 200 (some "".toUTF8)
  | .segments ["window", "123", "7", "AD_Tab-224"] => .answered 200 (some "[]".toUTF8)
  | .segments ["window", "123", "7", _] => .dropped
  | .segments ["window", "123", "7", _, "7", "field", "C_PaymentTerm_ID", "dropdown"] =>
      .answered 200 (some "\x7b\"values\": []\x7d".toUTF8)
  | _ => .answered 500 none

/-- An order in which the reads overtake each other. The customer tab and the discount schemas
have arrived nowhere when the pricing systems are back. -/
def disorder : ReadOrder where
  steps := [.begins .vendorTab, .begins .customerTab, .begins .discountSchemas,
    .begins .pricingSystems, .arrives .pricingSystems, .begins .paymentTerms, .arrives .vendorTab,
    .arrives .paymentTerms, .returns .paymentTerms, .returns .vendorTab, .returns .pricingSystems,
    .arrives .customerTab, .arrives .discountSchemas, .returns .discountSchemas,
    .returns .customerTab]
  listed := rfl
  own read := by cases read <;> rfl

def troubledDesk : Desk Unit where
  exchange request world := (troubled request.method request.url, world)
  call _ world := (.error .notNavigated, world)
  note _ world := world
  readOrder _ := disorder

/-- Why the snapshot of this record fails: the read of pricing systems comes back before the others
that would fail. -/
def trouble : Failure :=
  .status 500 { PartnerWindow.sample.client.windowUrl with
    path := .segments
      ["window", "123", "7", "AD_Tab-223", "7", "field", "M_PricingSystem_ID", "dropdown"] }

theorem references_of_troubled_server :
    troubledDesk.Serves troubled ∧
      PartnerWindow.sample.creationFate troubled = .ok ⟨"7"⟩ ∧
      (PartnerWindow.sample.snapshot troubledDesk.recorded ⟨"7"⟩ ([], ())).1 = .error trouble ∧
      Withheld PartnerWindow.sample troubled { name := "Acme", isVendor := true } ⟨"7"⟩
        (apply PartnerWindow.sample troubledDesk.recorded
          ({ draft := { name := "Acme", isVendor := true } }, [], ())).1
        (apply PartnerWindow.sample troubledDesk.recorded
          ({ draft := { name := "Acme", isVendor := true } }, [], ())).2 := by
  have serves : troubledDesk.Serves troubled := fun _ _ => rfl
  have created : PartnerWindow.sample.creationFate troubled = .ok ⟨"7"⟩ := by
    have known : (PartnerWindow.sample.creationFate troubled).toOption = some ⟨"7"⟩ := by
      decide +kernel
    generalize PartnerWindow.sample.creationFate troubled = fate at known
    cases fate with
    | error cause => cases known
    | ok record => exact congrArg Except.ok (Option.some.inj known)
  obtain ⟨reply, named⟩ :
      ∃ reply, troubled.fate (PartnerWindow.sample.naming ⟨"7"⟩ "Acme") = .ok reply :=
    failure?_eq_none_iff.mp (by decide +kernel)
  obtain ⟨read, first⟩ : ∃ read, FailsFirst (PartnerWindow.sample.fate troubled ⟨"7"⟩)
      (troubledDesk.readOrder ()) read trouble :=
    failsFirst_iff.mpr (by decide +kernel)
  obtain ⟨joined, withheld⟩ := references_of_server serves PartnerWindow.sample
  exact ⟨serves, created, ((joined ⟨"7"⟩ [] ()).failed read trouble first).1,
    withheld _ {} () ⟨"7"⟩ reply created named rfl⟩

end Builder

end PartnerRecords
