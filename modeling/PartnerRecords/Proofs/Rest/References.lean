import Mathlib.Data.List.Perm.Subperm
import PartnerRecords.Proofs.Rest.Dialogue
import PartnerRecords.Rest.Snapshot

/-!
# Reads of reference data

A snapshot takes five reads of a record, which are under way side by side. The first one that is
over with a failure is the end of all, and what has not been sent by then never is; a snapshot is
joined once all of them are back.
-/

namespace PartnerRecords

open Act Course

variable {ω : Type}

/-! ## Steps -/

def ReadStep.arrival? : ReadStep → Option SnapshotRead
  | .arrives read => some read
  | _ => none

theorem ReadStep.filter_arrival? (step : ReadStep) (read : SnapshotRead) :
    step.arrival?.filter (· == read) = if step.read = read then step.arrival? else none := by
  cases step with
  | arrives other =>
      by_cases same : other = read
      · simp [arrival?, ReadStep.read, same]
      · simp [arrival?, ReadStep.read, same]
  | _ => simp [arrival?]

/-- Every request is to arrive once. -/
theorem ReadOrder.arrivals_perm (order : ReadOrder) :
    (order.steps.filterMap ReadStep.arrival?).Perm SnapshotRead.all := by
  refine List.perm_iff_count.mpr fun read => ?_
  have once : (order.steps.filterMap ReadStep.arrival?).filter (· == read) = [read] := by
    have own := congrArg (List.filterMap ReadStep.arrival?) (order.own read)
    rw [List.filterMap_filter] at own
    rw [List.filter_filterMap]
    simp only [ReadStep.filter_arrival?]
    simp only [decide_eq_true_eq] at own
    exact own
  rw [List.count_eq_length_filter, once]
  cases read <;> rfl

/-! ## Outcomes -/

def failure? {α : Type} : Except Failure α → Option Failure
  | .error cause => some cause
  | .ok _ => none

/-- Whether a failure comes before there is anything to wait for. -/
def endsAtOnce {α : Type} (outcome : Except Failure α) : Bool :=
  (failure? outcome).any Failure.isImmediate

theorem failure?_eq_some_iff {α : Type} {outcome : Except Failure α} {cause : Failure} :
    failure? outcome = some cause ↔ outcome = .error cause := by
  cases outcome <;> simp [failure?]

theorem failure?_eq_none_iff {α : Type} {outcome : Except Failure α} :
    failure? outcome = none ↔ ∃ value, outcome = .ok value := by
  cases outcome <;> simp [failure?]

/-- Whether a flag is set. Any value but `true` counts as not set. -/
def FieldView.isSet (view : FieldView) : Bool :=
  match view.value with
  | .boolean set => set
  | _ => false

theorem WindowReply.flag_eq (reply : WindowReply) (name : String) :
    reply.flag name =
      (reply.fields.get? name).elim (.error (.missingField name)) fun view => .ok view.isSet := by
  unfold flag field
  cases reply.fields.get? name <;> rfl

/-- What is told of a record whose tabs and options were all read: each tab must show its flag,
and the one of vendors is looked for first. -/
def gathered (found : SnapshotRead → ReadResult) : Except Failure ReferenceSnapshot :=
  match (found .vendorTab).fields.fields.get? Field.isVendor,
    (found .customerTab).fields.fields.get? Field.isCustomer with
  | none, _ => .error (.missingField Field.isVendor)
  | some _, none => .error (.missingField Field.isCustomer)
  | some vendor, some customer => .ok {
      vendorFlag := vendor.isSet
      customerFlag := customer.isSet
      discountSchemas := (found .discountSchemas).list
      pricingSystems := (found .pricingSystems).list
      paymentTerms := (found .paymentTerms).list }

/-! ## Reads under way -/

namespace PartnerWindow

variable (window : PartnerWindow) (record : RecordId)

def readTexts : SnapshotRead → List String
  | .vendorTab => [record.text, window.layout.vendorTab]
  | .customerTab => [record.text, window.layout.customerTab]
  | .discountSchemas => optionTexts "M_DiscountSchema_ID"
  | .pricingSystems => optionTexts "M_PricingSystem_ID"
  | .paymentTerms => optionTexts "C_PaymentTerm_ID"
where
  optionTexts (field : String) : List String :=
    [record.text, window.layout.customerTab, record.text, "field", field, "dropdown"]

def readRequest (read : SnapshotRead) : Except Failure Request :=
  window.client.request (window.readTexts record read) id none

def foundOptions (field : String) (reply : WindowReply) : Except Failure ReadResult :=
  match WindowClient.dropdownOptions? reply.body with
  | none => .error (.decode (.dropdown field))
  | some list => .ok (.options list)

def found : SnapshotRead → WindowReply → Except Failure ReadResult
  | .vendorTab, reply => .ok (.tab reply)
  | .customerTab, reply => .ok (.tab reply)
  | .discountSchemas, reply => foundOptions Field.discountSchema reply
  | .pricingSystems, reply => foundOptions Field.pricingSystem reply
  | .paymentTerms, reply => foundOptions Field.paymentTerm reply

abbrev Finds (read : SnapshotRead) : Course ReadResult :=
  (Asks (window.readRequest record read)).Reading (found read)

/-- What the next step of a read may exchange and bring. A failure ends all reads: at once if there
is nothing to wait for, and else when the reply is back. -/
inductive Steps (window : PartnerWindow) (record : RecordId) (outcomes : Outcomes) :
    ReadStep → Course Outcomes
  | refused {read : SnapshotRead} {cause : Failure}
      (unformed : window.readRequest record read = .error cause) :
      Steps window record outcomes (.begins read) [] (.error cause)
  | begun {read : SnapshotRead} {request : Request}
      (formed : window.readRequest record read = .ok request) :
      Steps window record outcomes (.begins read) [] (.ok outcomes)
  | cut {read : SnapshotRead} {trace : Exchanges} {cause : Failure}
      (finds : window.Finds record read trace (.error cause))
      (atOnce : cause.isImmediate = true) :
      Steps window record outcomes (.arrives read) trace (.error cause)
  | arrived {read : SnapshotRead} {trace : Exchanges} {outcome : Except Failure ReadResult}
      (finds : window.Finds record read trace outcome) (inTime : endsAtOnce outcome = false) :
      Steps window record outcomes (.arrives read) trace (.ok ((read, outcome) :: outcomes))
  | failed {read : SnapshotRead} {cause : Failure}
      (known : outcomes.lookup read = some (.error cause)) :
      Steps window record outcomes (.returns read) [] (.error cause)
  | returned {read : SnapshotRead} (passed : ∀ cause, outcomes.lookup read ≠ some (.error cause)) :
      Steps window record outcomes (.returns read) [] (.ok outcomes)

inductive Finding (window : PartnerWindow) (record : RecordId) :
    Outcomes → List ReadStep → Course Outcomes
  | finished {outcomes : Outcomes} : Finding window record outcomes [] [] (.ok outcomes)
  | ended {outcomes : Outcomes} {step : ReadStep} {rest : List ReadStep} {trace : Exchanges}
      {cause : Failure} (taken : window.Steps record outcomes step trace (.error cause)) :
      Finding window record outcomes (step :: rest) trace (.error cause)
  | goesOn {outcomes next : Outcomes} {step : ReadStep} {rest : List ReadStep}
      {trace later : Exchanges} {result : Except Failure Outcomes}
      (taken : window.Steps record outcomes step trace (.ok next))
      (following : Finding window record next rest later result) :
      Finding window record outcomes (step :: rest) (trace ++ later) result

def asked (trace : Exchanges) : List (Except Failure Request) :=
  trace.map fun exchange => .ok exchange.1

/-- The five reads of a snapshot, in some order. Each is sent at most once. If all of them are back,
each was sent once, and what they have found is joined. -/
inductive References (window : PartnerWindow) (record : RecordId) : Course ReferenceSnapshot
  | failed {trace : Exchanges} {cause : Failure} (order : ReadOrder)
      (finding : window.Finding record [] order.steps trace (.error cause))
      (sent : (asked trace).Subperm (SnapshotRead.all.map (window.readRequest record))) :
      References window record trace (.error cause)
  | joined {trace : Exchanges} {outcomes : Outcomes} (order : ReadOrder)
      (finding : window.Finding record [] order.steps trace (.ok outcomes))
      (found : SnapshotRead → ReadResult)
      (back : ∀ read, outcomes.lookup read = some (.ok (found read)))
      (all : (asked trace).Perm (SnapshotRead.all.map (window.readRequest record))) :
      References window record trace (gathered found)

theorem asked_append (trace later : Exchanges) :
    asked (trace ++ later) = asked trace ++ asked later :=
  List.map_append

variable {window record}

theorem asked_of_asks {request : Except Failure Request} {trace : Exchanges}
    {outcome : Except Failure WindowReply} (asks : Asks request trace outcome) :
    asked trace = [request] ∨ asked trace = [] ∧ ∃ cause, request = .error cause ∧
      outcome = .error cause := by
  cases asks with
  | unsent failed => exact .inr ⟨rfl, _, failed, rfl⟩
  | replied reply formed =>
      rw [formed]
      exact .inl rfl

/-! ## What is sent -/

section Sent

variable {outcomes : Outcomes} {trace : Exchanges} {result : Except Failure Outcomes}

/-- A read sends its request, or it fails at once. -/
theorem asked_of_finds {read : SnapshotRead} {outcome : Except Failure ReadResult}
    (finds : window.Finds record read trace outcome) :
    asked trace = [window.readRequest record read] ∨
      asked trace = [] ∧ endsAtOnce outcome = true := by
  cases finds with
  | broken asks =>
      obtain sent | ⟨nothing, cause, failed, ended⟩ := asked_of_asks asks
      · exact .inl sent
      · cases ended
        exact .inr ⟨nothing, WindowClient.isImmediate_of_request failed⟩
  | read asks =>
      obtain sent | ⟨-, cause, -, ended⟩ := asked_of_asks asks
      · exact .inl sent
      · cases ended

/-- A step sends the request that is to arrive, if any is and it does not end all. -/
theorem Steps.asked_eq {step : ReadStep} (taken : window.Steps record outcomes step trace result) :
    (asked trace).Sublist (step.arrival?.toList.map (window.readRequest record)) ∧
      ∀ next, result = .ok next →
        asked trace = step.arrival?.toList.map (window.readRequest record) := by
  cases taken with
  | refused unformed => exact ⟨List.nil_sublist _, fun _ _ => rfl⟩
  | begun formed => exact ⟨List.nil_sublist _, fun _ _ => rfl⟩
  | cut finds atOnce =>
      refine ⟨?_, fun _ ended => by cases ended⟩
      obtain sent | ⟨nothing, -⟩ := asked_of_finds finds
      · rw [sent]
        exact List.Sublist.refl _
      · rw [nothing]
        exact List.nil_sublist _
  | arrived finds inTime =>
      obtain sent | ⟨-, atOnce⟩ := asked_of_finds finds
      · exact ⟨by rw [sent]; exact List.Sublist.refl _, fun _ _ => sent⟩
      · rw [inTime] at atOnce
        cases atOnce
  | failed known => exact ⟨List.nil_sublist _, fun _ _ => rfl⟩
  | returned passed => exact ⟨List.nil_sublist _, fun _ _ => rfl⟩

/-- Requests are sent in the order in which they are to arrive, and all of them unless the reads
end before. -/
theorem Finding.asked_eq {steps : List ReadStep}
    (finding : window.Finding record outcomes steps trace result) :
    (asked trace).Sublist ((steps.filterMap ReadStep.arrival?).map (window.readRequest record)) ∧
      ∀ last, result = .ok last →
        asked trace = (steps.filterMap ReadStep.arrival?).map (window.readRequest record) := by
  have split : ∀ (step : ReadStep) (rest : List ReadStep),
      (step :: rest).filterMap ReadStep.arrival? =
        step.arrival?.toList ++ rest.filterMap ReadStep.arrival? := by
    intro step rest
    cases step <;> rfl
  induction finding with
  | finished => exact ⟨List.nil_sublist _, fun _ _ => rfl⟩
  | ended taken =>
      rw [split, List.map_append]
      exact ⟨taken.asked_eq.1.trans (List.sublist_append_left _ _), fun _ ended => by cases ended⟩
  | goesOn taken following ih =>
      rw [split, List.map_append, asked_append, taken.asked_eq.2 _ rfl]
      refine ⟨(List.Sublist.refl _).append ih.1, fun last ended => ?_⟩
      rw [ih.2 last ended]

end Sent

/-! ## Reads that are back -/

section Back

variable {outcomes next last : Outcomes} {trace : Exchanges}

/-- How far a read is, by the steps that it has before it. -/
inductive Stands (window : PartnerWindow) (record : RecordId) (outcomes : Outcomes)
    (steps : List ReadStep) (read : SnapshotRead) : Prop
  | ahead (own : steps.filter (·.read = read) = [.begins read, .arrives read, .returns read])
  | begun {request : Request} (own : steps.filter (·.read = read) = [.arrives read, .returns read])
      (formed : window.readRequest record read = .ok request)
  | arrived {outcome : Except Failure ReadResult}
      (own : steps.filter (·.read = read) = [.returns read])
      (known : outcomes.lookup read = some outcome) (inTime : endsAtOnce outcome = false)
  | back {found : ReadResult} (own : steps.filter (·.read = read) = [])
      (known : outcomes.lookup read = some (.ok found))

/-- What is known of a read when one of its steps is next, and which ones it has before it then. -/
inductive Due (window : PartnerWindow) (record : RecordId) (outcomes : Outcomes)
    (rest : List ReadStep) : ReadStep → Prop
  | begins {read : SnapshotRead}
      (later : rest.filter (·.read = read) = [.arrives read, .returns read]) :
      Due window record outcomes rest (.begins read)
  | arrives {read : SnapshotRead} {request : Request}
      (later : rest.filter (·.read = read) = [.returns read])
      (formed : window.readRequest record read = .ok request) :
      Due window record outcomes rest (.arrives read)
  | returns {read : SnapshotRead} {outcome : Except Failure ReadResult}
      (later : rest.filter (·.read = read) = []) (known : outcomes.lookup read = some outcome)
      (inTime : endsAtOnce outcome = false) : Due window record outcomes rest (.returns read)

theorem Stands.due {step : ReadStep} {rest : List ReadStep}
    (stands : window.Stands record outcomes (step :: rest) step.read) :
    window.Due record outcomes rest step := by
  have first : (step :: rest).filter (·.read = step.read) =
      step :: rest.filter (·.read = step.read) := List.filter_cons_of_pos (by simp)
  cases stands with
  | ahead own =>
      obtain ⟨same, later⟩ := List.cons.inj (first.symm.trans own)
      rw [same]
      exact .begins later
  | begun own formed =>
      obtain ⟨same, later⟩ := List.cons.inj (first.symm.trans own)
      rw [same]
      exact .arrives later formed
  | arrived own known inTime =>
      obtain ⟨same, later⟩ := List.cons.inj (first.symm.trans own)
      rw [same]
      exact .returns later known inTime
  | back own _ => cases first.symm.trans own

/-- The step of a read does not concern the others. -/
theorem Stands.of_other {step : ReadStep} {rest : List ReadStep} {read : SnapshotRead}
    (stands : window.Stands record outcomes (step :: rest) read) (other : step.read ≠ read)
    (same : next.lookup read = outcomes.lookup read) : window.Stands record next rest read := by
  have later : (step :: rest).filter (·.read = read) = rest.filter (·.read = read) :=
    List.filter_cons_of_neg (by simpa using other)
  cases stands with
  | ahead own => exact .ahead (later ▸ own)
  | begun own formed => exact .begun (later ▸ own) formed
  | arrived own known inTime => exact .arrived (later ▸ own) (same.trans known) inTime
  | back own known => exact .back (later ▸ own) (same.trans known)

theorem Steps.lookup_eq {step : ReadStep} {read : SnapshotRead}
    (taken : window.Steps record outcomes step trace (.ok next)) (other : step.read ≠ read) :
    next.lookup read = outcomes.lookup read := by
  cases taken with
  | begun _ => rfl
  | @arrived arrived _ _ _ _ =>
      have apart : (read == arrived) = false := beq_false_of_ne (Ne.symm other)
      rw [List.lookup_cons, apart]
  | returned _ => rfl

/-- A step that does not end all takes its read one further, and leaves the others where they
are. -/
theorem Stands.of_taken {step : ReadStep} {rest : List ReadStep}
    (taken : window.Steps record outcomes step trace (.ok next)) {read : SnapshotRead}
    (stands : window.Stands record outcomes (step :: rest) read) :
    window.Stands record next rest read := by
  by_cases own : step.read = read
  · subst own
    have due := stands.due
    cases due with
    | begins later =>
        cases taken with
        | begun formed => exact .begun later formed
    | arrives later _ =>
        cases taken with
        | arrived finds inTime => exact .arrived later List.lookup_cons_self inTime
    | @returns _ outcome later known _ =>
        cases taken with
        | returned passed =>
            cases outcome with
            | ok found => exact .back later known
            | error cause => exact absurd known (passed cause)
  · exact stands.of_other own (taken.lookup_eq own)

/-- Once all steps are taken, all reads are back. -/
theorem Finding.back {steps : List ReadStep}
    (finding : window.Finding record outcomes steps trace (.ok last))
    (stand : ∀ read, window.Stands record outcomes steps read) (read : SnapshotRead) :
    last.lookup read = some (.ok (last.result read)) := by
  generalize ended : Except.ok last = result at finding
  induction finding with
  | finished =>
      cases ended
      cases stand read with
      | ahead own => cases own
      | begun own _ => cases own
      | arrived own _ _ => cases own
      | back _ known => rw [Outcomes.result, known]
  | ended taken => cases ended
  | goesOn taken following ih => exact ih (fun read => (stand read).of_taken taken) ended

end Back

theorem stands_steps (order : ReadOrder) (read : SnapshotRead) :
    window.Stands record [] order.steps read :=
  .ahead (order.own read)

/-! ## The run -/

theorem readRequest_eq (read : SnapshotRead) :
    window.readRequest record read =
      window.client.request (window.segments record read) id none :=
  congrArg (window.client.request · id none) (by cases read <;> rfl)

theorem ofReply_eq (read : SnapshotRead) : ReadResult.ofReply read = found read := by
  have options (field : String) (reply : WindowReply) :
      (WindowClient.readOptions field reply).map .options = foundOptions field reply := by
    unfold WindowClient.readOptions foundOptions
    cases WindowClient.dropdownOptions? reply.body <;> rfl
  funext reply
  cases read with
  | vendorTab => rfl
  | customerTab => rfl
  | discountSchemas => exact options _ reply
  | pricingSystems => exact options _ reply
  | paymentTerms => exact options _ reply

section Run

variable (desk : Desk ω) (outcomes : Outcomes)

theorem takes_begins (read : SnapshotRead) :
    desk.Takes (window.takeStep desk.recorded record outcomes (.begins read))
      (window.Steps record outcomes (.begins read)) := by
  have request := @readRequest_eq window record read
  unfold WindowClient.request at request
  refine ((Desk.takes_ofExcept _).bind fun url => (Desk.takes_announce { url }).bind fun _ =>
    Desk.takes_ofExcept (.ok outcomes)).mono fun trace outcome goes => ?_
  cases extended : WindowClient.extend window.client.windowUrl (window.segments record read) with
  | error cause =>
      rw [extended] at goes request
      cases goes with
      | broken nothing =>
          cases nothing
          exact .refused request
      | followed nothing _ => cases nothing
  | ok url =>
      rw [extended] at goes request
      cases goes with
      | broken nothing => cases nothing
      | followed nothing announced =>
          cases nothing
          change _ = (if _ then _ else _) at request
          cases sendable : url.withoutCredentials.isSendable with
          | false =>
              rw [id, sendable] at request
              rw [sendable] at announced
              cases announced with
              | broken nothing =>
                  cases nothing
                  exact .refused request
              | followed nothing _ => cases nothing
          | true =>
              rw [id, sendable] at request
              rw [sendable] at announced
              cases announced with
              | broken nothing => cases nothing
              | followed nothing passed =>
                  cases nothing
                  cases passed
                  exact .begun request

theorem Steps.of_arrived {read : SnapshotRead} {trace : Exchanges}
    {outcome : Except Failure ReadResult} (finds : window.Finds record read trace outcome) :
    window.Steps record outcomes (.arrives read) trace (outcomes.arrived read outcome) := by
  unfold Outcomes.arrived
  split
  · exact .arrived finds rfl
  · next cause =>
      split
      · next atOnce => exact .cut finds atOnce
      · next inTime => exact .arrived finds (Bool.eq_false_iff.mpr inTime)

theorem takes_arrives (read : SnapshotRead) :
    desk.Takes (window.takeStep desk.recorded record outcomes (.arrives read))
      (window.Steps record outcomes (.arrives read)) := by
  refine ((Desk.takes_ofExcept _).bind fun request => (Desk.takes_deliver request).attempt.bind
    fun reply => Desk.takes_ofExcept _).mono fun trace outcome goes => ?_
  rw [← readRequest_eq] at goes
  cases goes with
  | broken nothing =>
      generalize formed : window.readRequest record read = request at nothing
      cases nothing
      exact .cut (.broken (.unsent formed)) (WindowClient.isImmediate_of_request formed)
  | followed nothing attempted =>
      generalize formed : window.readRequest record read = request at nothing
      cases nothing
      cases attempted with
      | broken asks => cases asks
      | followed kept ended =>
          obtain ⟨asks⟩ := kept
          cases ended
          rw [List.nil_append, List.append_nil, ofReply_eq]
          have finds := reading_bind asks (found read)
          rw [← formed] at finds
          exact Steps.of_arrived outcomes finds

theorem takes_returns (read : SnapshotRead) :
    desk.Takes (window.takeStep desk.recorded record outcomes (.returns read))
      (window.Steps record outcomes (.returns read)) := by
  refine (Desk.takes_ofExcept _).mono fun trace outcome goes => ?_
  cases goes
  unfold Outcomes.returned
  split
  · next known => exact .failed known
  · next passed => exact .returned passed

/-- Every step takes its course. -/
theorem takes_step (step : ReadStep) :
    desk.Takes (window.takeStep desk.recorded record outcomes step)
      (window.Steps record outcomes step) := by
  cases step with
  | begins read => exact takes_begins desk outcomes read
  | arrives read => exact takes_arrives desk outcomes read
  | returns read => exact takes_returns desk outcomes read

theorem takes_steps (steps : List ReadStep) :
    desk.Takes (steps.foldlM (window.takeStep desk.recorded record) outcomes)
      (window.Finding record outcomes steps) := by
  induction steps generalizing outcomes with
  | nil =>
      refine (Desk.takes_ofExcept (.ok outcomes)).mono fun trace outcome goes => ?_
      cases goes
      exact .finished
  | cons step rest ih =>
      rw [List.foldlM_cons]
      refine ((takes_step desk outcomes step).bind fun next => ih next).mono ?_
      rintro trace outcome (taken | ⟨taken, following⟩)
      · exact .ended taken
      · exact .goesOn taken following

end Run

theorem join_eq (outcomes : Outcomes) : outcomes.join = gathered outcomes.result := by
  unfold Outcomes.join gathered
  rw [WindowReply.flag_eq, WindowReply.flag_eq]
  cases Dict.get? (outcomes.result .vendorTab).fields.fields Field.isVendor with
  | none => rfl
  | some vendor =>
      cases Dict.get? (outcomes.result .customerTab).fields.fields Field.isCustomer <;> rfl

theorem finding_snapshot (desk : Desk ω) (log : List Deed) (world : ω) :
    ∃ trace result,
      desk.Dialogue (log, world) trace (window.snapshot desk.recorded record (log, world)).2 ∧
      window.Finding record [] (desk.readOrder world).steps trace result ∧
      (window.snapshot desk.recorded record (log, world)).1 = result.bind Outcomes.join := by
  obtain ⟨trace, dialogue, finding⟩ := Desk.takes_iff.mp
    (@takes_steps ω window record desk [] (desk.readOrder world).steps) (log, world)
  have run : window.snapshot desk.recorded record (log, world) =
      ((desk.readOrder world).steps.foldlM (window.takeStep desk.recorded record) [] >>=
        fun outcomes => Act.ofExcept outcomes.join) (log, world) := rfl
  rw [run, bind_apply]
  generalize (desk.readOrder world).steps.foldlM (window.takeStep desk.recorded record) []
    (log, world) = answer at dialogue finding ⊢
  obtain ⟨result, after⟩ := answer
  cases result with
  | error cause => exact ⟨trace, _, dialogue, finding, rfl⟩
  | ok outcomes =>
      dsimp only
      rw [ofExcept_apply]
      exact ⟨trace, _, dialogue, finding, rfl⟩

/-- A snapshot takes its five reads. -/
theorem takes_snapshot (desk : Desk ω) : desk.Takes (window.snapshot desk.recorded record)
    (window.References record) := by
  rw [Desk.takes_iff]
  intro (log, world)
  obtain ⟨trace, result, dialogue, finding, ended⟩ :=
    @finding_snapshot ω window record desk log world
  refine ⟨trace, dialogue, ?_⟩
  have sent := (desk.readOrder world).arrivals_perm.map (window.readRequest record)
  rw [ended]
  cases result with
  | error cause => exact .failed _ finding (finding.asked_eq.1.subperm.trans sent.subperm)
  | ok outcomes =>
      have all := finding.asked_eq.2 _ rfl
      rw [Except.bind, join_eq]
      exact .joined _ finding _ (finding.back (stands_steps _)) (all ▸ sent)

variable {trace : Exchanges} {cause : Failure}

theorem References.asked_subperm {outcome : Except Failure ReferenceSnapshot}
    (references : window.References record trace outcome) :
    (asked trace).Subperm (SnapshotRead.all.map (window.readRequest record)) := by
  cases references with
  | failed _ _ sent => exact sent
  | joined _ _ _ _ all => exact all.subperm

/-! ## Failures -/

/-- A reply that has come is of no use to a read only if it shows no options. -/
theorem exists_field_of_found {read : SnapshotRead} {reply : WindowReply}
    (failed : found read reply = .error cause) : ∃ field, cause = .decode (.dropdown field) := by
  have options {field : String} (failed : foundOptions field reply = .error cause) :
      ∃ field, cause = .decode (.dropdown field) := by
    unfold foundOptions at failed
    split at failed
    · cases failed
      exact ⟨field, rfl⟩
    · cases failed
  cases read with
  | vendorTab => cases failed
  | customerTab => cases failed
  | discountSchemas => exact options failed
  | pricingSystems => exact options failed
  | paymentTerms => exact options failed

theorem Finds.isOfExchange {read : SnapshotRead}
    (finds : window.Finds record read trace (.error cause)) : cause.isOfExchange = true := by
  generalize ended : (Except.error cause : Except Failure ReadResult) = outcome at finds
  cases finds with
  | broken asks =>
      cases ended
      exact isOfExchange_of_asks asks
  | read asks =>
      obtain ⟨field, rfl⟩ := exists_field_of_found ended.symm
      rfl

theorem Steps.isOfExchange {outcomes : Outcomes} {step : ReadStep}
    (met : ∀ read cause, outcomes.lookup read = some (.error cause) → cause.isOfExchange = true)
    (taken : window.Steps record outcomes step trace (.error cause)) :
    cause.isOfExchange = true := by
  cases taken with
  | refused unformed =>
      exact Failure.isOfExchange_of_isImmediate (WindowClient.isImmediate_of_request unformed)
  | cut finds _ => exact finds.isOfExchange
  | failed known => exact met _ _ known

theorem Steps.met {outcomes next : Outcomes} {step : ReadStep}
    (met : ∀ read cause, outcomes.lookup read = some (.error cause) → cause.isOfExchange = true)
    (taken : window.Steps record outcomes step trace (.ok next)) :
    ∀ read cause, next.lookup read = some (.error cause) → cause.isOfExchange = true := by
  cases taken with
  | begun _ => exact met
  | @arrived arrived _ outcome finds _ =>
      intro read cause known
      rw [List.lookup_cons] at known
      split at known
      · cases known
        exact finds.isOfExchange
      · exact met read cause known
  | returned _ => exact met

theorem Finding.isOfExchange {outcomes : Outcomes} {steps : List ReadStep}
    (met : ∀ read cause, outcomes.lookup read = some (.error cause) → cause.isOfExchange = true)
    (finding : window.Finding record outcomes steps trace (.error cause)) :
    cause.isOfExchange = true := by
  generalize ended : Except.error cause = result at finding
  induction finding with
  | finished => cases ended
  | ended taken =>
      cases ended
      exact taken.isOfExchange met
  | goesOn taken _ ih => exact ih (taken.met met) ended

theorem isOfServer_of_gathered {found : SnapshotRead → ReadResult}
    (failed : gathered found = .error cause) : cause.isOfServer = true := by
  unfold gathered at failed
  split at failed
  · cases failed
    rfl
  · cases failed
    rfl
  · cases failed

theorem References.isOfServer (references : window.References record trace (.error cause)) :
    cause.isOfServer = true := by
  generalize ended : (Except.error cause : Except Failure ReferenceSnapshot) = outcome
    at references
  cases references with
  | failed _ finding _ =>
      cases ended
      exact Failure.isOfServer_of_isOfExchange
        (finding.isOfExchange fun _ _ known => by cases known)
  | joined _ _ _ _ _ => exact isOfServer_of_gathered ended.symm

end PartnerWindow

end PartnerRecords
