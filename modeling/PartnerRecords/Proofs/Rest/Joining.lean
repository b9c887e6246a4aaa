import PartnerRecords.Proofs.Rest.References

/-!
# Joined reads

At a server that looks at nothing but the method and the URL of a request, every read of a
snapshot has its fate before it goes out. The order in which the reads come back decides which
of several failures is reported, and nothing else.
-/

namespace PartnerRecords

open Act Course

variable {ω α β : Type}

abbrev Answers :=
  String → Url → Reply

/-- The server of a desk answers so, whatever else there is to a request and whenever it comes. -/
def Desk.Serves (desk : Desk ω) (answers : Answers) : Prop :=
  ∀ request world, (desk.exchange request world).1 = answers request.method request.url

namespace Answers

variable {answers : Answers} {trace later : Exchanges}

def Gives (answers : Answers) (trace : Exchanges) : Prop :=
  ∀ exchange ∈ trace, exchange.2 = answers exchange.1.method exchange.1.url

theorem gives_append :
    answers.Gives (trace ++ later) ↔ answers.Gives trace ∧ answers.Gives later :=
  List.forall_mem_append

theorem gives_of_dialogue {desk : Desk ω} (serves : desk.Serves answers)
    {start after : List Deed × ω} (dialogue : desk.Dialogue start trace after) :
    answers.Gives trace := by
  induction dialogue with
  | silence => exact fun _ member => absurd member List.not_mem_nil
  | reported request _ ih => exact ih
  | replied request _ ih =>
      exact gives_append.mpr ⟨ih, List.forall_mem_singleton.mpr (serves request _)⟩

def fate (answers : Answers) (request : Except Failure Request) : Except Failure WindowReply := do
  let request ← request
  (answers request.method request.url).read request.url.withoutCredentials

theorem eq_fate_of_asks (gives : answers.Gives trace) {request : Except Failure Request}
    {outcome : Except Failure WindowReply} (asks : Asks request trace outcome) :
    outcome = answers.fate request := by
  cases asks with
  | unsent failed =>
      rw [failed]
      rfl
  | replied reply formed =>
      have given := gives _ List.mem_cons_self
      dsimp only at given
      rw [formed, given]
      rfl

end Answers

theorem Answers.asks_fate (answers : Answers) (request : Except Failure Request) :
    ∃ trace, Asks request trace (answers.fate request) := by
  cases request with
  | error cause => exact ⟨[], .unsent rfl⟩
  | ok request => exact ⟨_, .replied (answers request.method request.url) rfl⟩

theorem Course.Reading.eq_bind {course : Course α} {read : α → Except Failure β}
    {trace : Exchanges} {outcome : Except Failure β} {fate : Except Failure α}
    (reading : Reading course read trace outcome)
    (fated : ∀ outcome, course trace outcome → outcome = fate) : outcome = fate >>= read := by
  cases reading with
  | broken goes =>
      rw [← fated _ goes]
      rfl
  | read goes =>
      rw [← fated _ goes]
      rfl

/-! ## Fates of reads -/

/-- The step at which a read is over. -/
def overAt {α : Type} (read : SnapshotRead) : Except Failure α → ReadStep
  | .ok _ => .returns read
  | .error cause =>
      if cause.isUnformed then .begins read
      else if cause.isImmediate then .arrives read
      else .returns read

theorem overAt_cases {α : Type} (read : SnapshotRead) (outcome : Except Failure α) :
    overAt read outcome = .begins read ∨ overAt read outcome = .arrives read ∨
      overAt read outcome = .returns read := by
  unfold overAt
  cases outcome with
  | ok _ => exact .inr (.inr rfl)
  | error cause =>
      dsimp only
      split
      · exact .inl rfl
      · split
        · exact .inr (.inl rfl)
        · exact .inr (.inr rfl)

theorem overAt_inTime {α : Type} (read : SnapshotRead) {outcome : Except Failure α}
    (inTime : endsAtOnce outcome = false) : overAt read outcome = .returns read := by
  cases outcome with
  | ok _ => rfl
  | error cause =>
      have later : cause.isImmediate = false := inTime
      rw [overAt, Failure.isUnformed_eq_false later, later]
      rfl

theorem overAt_atOnce {α : Type} (read : SnapshotRead) {cause : Failure}
    (later : overAt read (.error cause : Except Failure α) ≠ .begins read)
    (atOnce : cause.isImmediate = true) :
    overAt read (.error cause : Except Failure α) = .arrives read := by
  rw [overAt] at later ⊢
  by_cases unformed : cause.isUnformed = true
  · exact absurd (if_pos unformed) later
  · rw [if_neg unformed, if_pos atOnce]

namespace PartnerWindow

variable {window : PartnerWindow} {record : RecordId} {answers : Answers}

def fate (window : PartnerWindow) (answers : Answers) (record : RecordId) (read : SnapshotRead) :
    Except Failure ReadResult :=
  answers.fate (window.readRequest record read) >>= found read

theorem Finds.eq_fate {read : SnapshotRead} {trace : Exchanges}
    {outcome : Except Failure ReadResult} (finds : window.Finds record read trace outcome)
    (gives : answers.Gives trace) : outcome = window.fate answers record read :=
  finds.eq_bind fun _ => Answers.eq_fate_of_asks gives

theorem isOfExchange_of_fate {read : SnapshotRead} {cause : Failure}
    (failed : window.fate answers record read = .error cause) : cause.isOfExchange = true := by
  obtain ⟨trace, asks⟩ := answers.asks_fate (window.readRequest record read)
  have finds : window.Finds record read trace (window.fate answers record read) :=
    reading_bind asks (found read)
  rw [failed] at finds
  exact finds.isOfExchange

theorem fate_of_unformed {read : SnapshotRead} {cause : Failure}
    (unformed : window.readRequest record read = .error cause) :
    window.fate answers record read = .error cause ∧ cause.isUnformed = true := by
  constructor
  · rw [fate, unformed]
    rfl
  · exact WindowClient.isUnformed_of_request unformed

theorem isImmediate_of_found {read : SnapshotRead} {reply : WindowReply} {cause : Failure}
    (failed : found read reply = .error cause) : cause.isImmediate = false := by
  obtain ⟨field, rfl⟩ := exists_field_of_found failed
  rfl

/-- Only a read whose request cannot be formed is over when it is begun. -/
theorem overAt_of_formed {read : SnapshotRead} {request : Request}
    (formed : window.readRequest record read = .ok request) :
    overAt read (window.fate answers record read) ≠ .begins read := by
  rw [fate, formed]
  intro here
  cases met : answers.fate (.ok request) >>= found read with
  | ok found =>
      rw [met] at here
      cases here
  | error cause =>
      have late : cause.isUnformed = false := by
        cases replied : answers.fate (.ok request) with
        | error reason =>
            rw [replied] at met
            cases met
            exact (Reply.isOfExchange_of_read replied).2
        | ok reply =>
            rw [replied] at met
            exact Failure.isUnformed_eq_false (isImmediate_of_found met)
      rw [met, overAt, late, if_neg Bool.false_ne_true] at here
      split at here <;> cases here

end PartnerWindow

/-! ## The first failure -/

section Fates

variable (fate : SnapshotRead → Except Failure ReadResult)

def failsAt (step : ReadStep) : Option Failure :=
  if overAt step.read (fate step.read) = step then failure? (fate step.read) else none

variable {fate} in
theorem failsAt_of_over (step : ReadStep) {outcome : Except Failure ReadResult}
    (fated : fate step.read = outcome) (here : overAt step.read outcome = step) :
    failsAt fate step = failure? outcome := by
  rw [failsAt, fated, if_pos here]

/-- The reads in the order in which they are over. -/
def completion (order : ReadOrder) : List SnapshotRead :=
  (order.steps.filter fun step => overAt step.read (fate step.read) = step).map ReadStep.read

def FailsFirst (order : ReadOrder) (read : SnapshotRead) (cause : Failure) : Prop :=
  ∃ before after, completion fate order = before ++ read :: after ∧ fate read = .error cause ∧
    ∀ other ∈ before, ∃ found, fate other = .ok found

/-- What becomes of five reads that go out together. If all of them succeed, the order in which
they are over is of no account; else the first failure is that of all. -/
structure Joined (order : ReadOrder) (outcome : Except Failure ReferenceSnapshot) : Prop where
  succeeded (found : SnapshotRead → ReadResult) :
    (∀ read, fate read = .ok (found read)) → outcome = gathered found
  failed (read : SnapshotRead) (cause : Failure) : FailsFirst fate order read cause →
    outcome = .error cause ∧ cause.isOfExchange = true
  someFirst : (∃ read cause, fate read = .error cause) →
    ∃ read cause, FailsFirst fate order read cause

variable {fate}

theorem failsFirst_iff {order : ReadOrder} {cause : Failure} :
    (∃ read, FailsFirst fate order read cause) ↔
      order.steps.findSome? (failsAt fate) = some cause := by
  have reads : order.steps.findSome? (failsAt fate) =
      (completion fate order).findSome? fun read => failure? (fate read) := by
    unfold completion
    generalize order.steps = steps
    induction steps with
    | nil => rfl
    | cons step rest ih =>
        rw [List.findSome?_cons, ih, failsAt]
        by_cases here : overAt step.read (fate step.read) = step
        · rw [if_pos here, List.filter_cons_of_pos (by simpa using here), List.map_cons,
            List.findSome?_cons]
        · rw [if_neg here, List.filter_cons_of_neg (by simpa using here)]
  rw [reads, List.findSome?_eq_some_iff]
  simp only [failure?_eq_some_iff, failure?_eq_none_iff]
  constructor
  · rintro ⟨read, before, after, split, failed, others⟩
    exact ⟨before, read, after, split, failed, others⟩
  · rintro ⟨before, read, after, split, failed, others⟩
    exact ⟨read, before, after, split, failed, others⟩

theorem mem_steps_overAt (fate : SnapshotRead → Except Failure ReadResult) (order : ReadOrder)
    (read : SnapshotRead) : overAt read (fate read) ∈ order.steps := by
  have own : overAt read (fate read) ∈ order.steps.filter (·.read = read) := by
    rw [order.own read]
    rcases overAt_cases read (fate read) with here | here | here <;> rw [here] <;> simp
  exact List.mem_of_mem_filter own

theorem read_overAt {α : Type} (read : SnapshotRead) (outcome : Except Failure α) :
    (overAt read outcome).read = read := by
  rcases overAt_cases read outcome with here | here | here <;> rw [here] <;> rfl

/-- If any read fails, one of them is the first. -/
theorem exists_failsFirst (order : ReadOrder) {read : SnapshotRead} {cause : Failure}
    (failed : fate read = .error cause) : ∃ read cause, FailsFirst fate order read cause := by
  cases first : order.steps.findSome? (failsAt fate) with
  | some reason =>
      obtain ⟨read, fails⟩ := failsFirst_iff.mpr first
      exact ⟨read, reason, fails⟩
  | none =>
      have silent := List.findSome?_eq_none_iff.mp first _ (mem_steps_overAt fate order read)
      rw [failsAt, read_overAt, if_pos rfl, failed] at silent
      cases silent

end Fates

namespace PartnerWindow

variable {window : PartnerWindow} {record : RecordId} {answers : Answers}
variable {trace : Exchanges} {outcomes : Outcomes}

def Met (window : PartnerWindow) (answers : Answers) (record : RecordId) (outcomes : Outcomes) :
    Prop :=
  ∀ read outcome, outcomes.lookup read = some outcome → outcome = window.fate answers record read

theorem Steps.of_met {step : ReadStep} {next : Outcomes}
    (taken : window.Steps record outcomes step trace (.ok next)) (gives : answers.Gives trace)
    (met : window.Met answers record outcomes) : window.Met answers record next := by
  cases taken with
  | begun _ => exact met
  | arrived finds _ =>
      intro read outcome known
      rw [List.lookup_cons] at known
      split at known
      · next same =>
          cases known
          rw [eq_of_beq same]
          exact finds.eq_fate gives
      · exact met read outcome known
  | returned _ => exact met

/-- A step fails exactly if its read is over with a failure. -/
theorem Steps.failure?_eq {step : ReadStep} {rest : List ReadStep}
    {result : Except Failure Outcomes} (taken : window.Steps record outcomes step trace result)
    (gives : answers.Gives trace) (met : window.Met answers record outcomes)
    (due : window.Due record outcomes rest step) :
    failure? result = failsAt (window.fate answers record) step := by
  cases taken with
  | @refused read cause unformed =>
      obtain ⟨fated, ofRequest⟩ := @fate_of_unformed window record answers read cause unformed
      have here : overAt read (.error cause : Except Failure ReadResult) = .begins read :=
        if_pos ofRequest
      exact (failsAt_of_over (.begins read) fated here).symm
  | @begun read request formed => exact (if_neg (overAt_of_formed formed)).symm
  | @cut read _ cause finds atOnce =>
      have fated : window.fate answers record read = .error cause := (finds.eq_fate gives).symm
      cases due with
      | arrives _ formed =>
          have later : overAt read (window.fate answers record read) ≠ .begins read :=
            overAt_of_formed formed
          rw [fated] at later
          exact (failsAt_of_over (.arrives read) fated (overAt_atOnce read later atOnce)).symm
  | @arrived read _ outcome finds inTime =>
      have back := overAt_inTime read inTime
      rw [finds.eq_fate gives] at back
      exact (if_neg fun here => by cases back.symm.trans here).symm
  | @failed read cause known =>
      cases due with
      | returns _ arrived inTime =>
          cases known.symm.trans arrived
          have here := overAt_inTime read inTime
          exact (failsAt_of_over (.returns read) (met read _ known).symm here).symm
  | @returned read passed =>
      cases due with
      | @returns _ outcome _ known _ =>
          cases outcome with
          | error cause => exact absurd known (passed cause)
          | ok found =>
              have fated : window.fate answers record read = .ok found := (met read _ known).symm
              exact (failsAt_of_over (.returns read) fated rfl).symm

/-- The first step at which a read is over with a failure ends all, and no other step does. -/
theorem Finding.failure?_eq {steps : List ReadStep} {result : Except Failure Outcomes}
    (finding : window.Finding record outcomes steps trace result) (gives : answers.Gives trace)
    (met : window.Met answers record outcomes)
    (stand : ∀ read, window.Stands record outcomes steps read) :
    failure? result = steps.findSome? (failsAt (window.fate answers record)) := by
  induction finding with
  | finished => rfl
  | @ended _ _ _ _ cause taken =>
      rw [List.findSome?_cons, ← taken.failure?_eq gives met (stand _).due]
      rfl
  | goesOn taken following ih =>
      obtain ⟨givesFirst, givesLater⟩ := Answers.gives_append.mp gives
      rw [List.findSome?_cons, ← taken.failure?_eq givesFirst met (stand _).due]
      exact ih givesLater (taken.of_met givesFirst met) fun read => (stand read).of_taken taken

theorem Finding.met {steps : List ReadStep} {last : Outcomes}
    (finding : window.Finding record outcomes steps trace (.ok last))
    (gives : answers.Gives trace) (met : window.Met answers record outcomes) :
    window.Met answers record last := by
  generalize ended : Except.ok last = result at finding
  induction finding with
  | finished =>
      cases ended
      exact met
  | ended _ => cases ended
  | goesOn taken _ ih =>
      obtain ⟨givesFirst, givesLater⟩ := Answers.gives_append.mp gives
      exact ih givesLater (taken.of_met givesFirst met) ended

/-- Steps of all reads, whatever their order, bring what the fates of the reads join to. -/
theorem Finding.joined {order : ReadOrder} {result : Except Failure Outcomes}
    (finding : window.Finding record [] order.steps trace result) (gives : answers.Gives trace) :
    Joined (window.fate answers record) order (result.bind Outcomes.join) := by
  have unmet : window.Met answers record [] := fun _ _ known => by cases known
  have first := finding.failure?_eq gives unmet (stands_steps order)
  refine ⟨fun found met => ?_, fun read cause failed => ⟨?_, ?_⟩, fun ⟨_, _, failed⟩ =>
    exists_failsFirst order failed⟩
  · have silent : order.steps.findSome? (failsAt (window.fate answers record)) = none := by
      refine List.findSome?_eq_none_iff.mpr fun step _ => ?_
      rw [failsAt, met]
      exact ite_self none
    obtain ⟨last, rfl⟩ := failure?_eq_none_iff.mp (first.trans silent)
    have results : last.result = found := by
      funext read
      have back := finding.back (stands_steps order) read
      exact Except.ok.inj ((finding.met gives unmet read _ back).trans (met read))
    rw [Except.bind, join_eq, results]
  · rw [failsFirst_iff.mp ⟨read, failed⟩] at first
    rw [failure?_eq_some_iff.mp first]
    rfl
  · obtain ⟨_, _, _, met, _⟩ := failed
    exact isOfExchange_of_fate met

theorem References.exists_joined {outcome : Except Failure ReferenceSnapshot}
    (references : window.References record trace outcome) (gives : answers.Gives trace) :
    ∃ order, Joined (window.fate answers record) order outcome := by
  cases references with
  | failed order finding _ => exact ⟨order, finding.joined gives⟩
  | @joined _ outcomes order finding found back _ =>
      refine ⟨order, ?_⟩
      have joined := finding.joined gives
      have results : outcomes.result = found := by
        funext read
        rw [Outcomes.result, back]
      rw [Except.bind, join_eq, results] at joined
      exact joined

/-- The reads of a snapshot are joined in the order in which the desk says what happens to
them. -/
theorem snapshot_joined {desk : Desk ω} (serves : desk.Serves answers) (log : List Deed)
    (world : ω) :
    Joined (window.fate answers record) (desk.readOrder world)
      (window.snapshot desk.recorded record (log, world)).1 := by
  obtain ⟨trace, result, dialogue, finding, ended⟩ :=
    @finding_snapshot ω window record desk log world
  rw [ended]
  exact finding.joined (Answers.gives_of_dialogue serves dialogue)

end PartnerWindow

end PartnerRecords
