import PartnerRecords.Proofs.Partner.Queue

/-!
# Agendas

What a replay does on the screen is laid down before it begins: draft and progress determine
every call, and what its answer is held against. A replay goes through this agenda call by
call, up to the end or to the first answer that will not do. An item is counted exactly when its
save is acknowledged.
-/

namespace PartnerRecords

open Act

variable {ω : Type}

def Deed.isCall : Deed → Bool
  | .called _ _ => true
  | _ => false

/-- A call to be made. Unless it is refused, any answer will do, except where a line says what
the answer has to show. -/
inductive Line
  | gesture (call : Call)
  /-- The address that is shown has to contain the city. -/
  | address (city : String)
  | save (item : Item)
  /-- The grid of the tab has to show so many rows. -/
  | rows (tab : DetailTab) (expected : Nat)
deriving DecidableEq, Repr

def Line.call : Line → Call
  | .gesture call => call
  | .address _ => .addressSummary Field.locationAddress
  | .save _ => .pressDone
  | .rows _ _ => .countRows

def Line.objection? : (line : Line) → line.call.Answer → Option Failure
  | .address city => fun (summary : String) =>
      if Text.contains summary city then none else some (.addressNotRendered summary city)
  | .rows tab expected => fun (actual : Nat) =>
      if actual = expected then none else some (.gridMismatch tab actual expected)
  | _ => fun _ => none

structure Answered where
  line : Line
  answer : Except ScreenError line.call.Answer

namespace Answered

def deed (a : Answered) : Deed :=
  .called a.line.call a.answer

/-- Why nothing is called after an answer, if nothing is: it is a refusal, or will not do. -/
def failure? (a : Answered) : Option Failure :=
  match a.answer with
  | .error cause => some (.screen cause)
  | .ok value => a.line.objection? value

def entered? : Answered → Option Item
  | ⟨.save item, .ok _⟩ => some item
  | _ => none

def enteredOn (tab : DetailTab) (answered : List Answered) : List Item :=
  (answered.filterMap entered?).filter (·.tab = tab)

end Answered

/-- Where an agenda ends, and with what. -/
inductive Concluded (agenda : List Line) : List Answered → Except Failure Unit → Prop
  | completed {answered : List Answered} (lines : answered.map Answered.line = agenda)
      (fine : ∀ a ∈ answered, a.failure? = none) : Concluded agenda answered (.ok ())
  | stopped {answered : List Answered} {last : Answered} {left : List Line} {cause : Failure}
      (lines : answered.map Answered.line ++ last.line :: left = agenda)
      (fine : ∀ a ∈ answered, a.failure? = none) (failed : last.failure? = some cause) :
      Concluded agenda (answered ++ [last]) (.error cause)

namespace Item

def reads : Item → List Line
  | .location l => [.address l.city]
  | _ => []

def lines (item : Item) : List Line :=
  item.form.map .gesture ++ item.reads ++ [.save item]

end Item

namespace Batch

/-- What a batch that has begun still asks for: its pending items are entered, then its rows are
counted. -/
def remaining (d : Draft) (p : Progress) (batch : Batch) : List Line :=
  (batch.pending d p).flatMap Item.lines ++
    [.rows batch.tab (batch.rows p + (batch.pending d p).length)]

def agenda (d : Draft) (p : Progress) (batch : Batch) : List Line :=
  if batch.pending d p = [] then [] else batch.remaining d p

variable {d : Draft} {p : Progress} {batch : Batch} {item : Item}

theorem remaining_of_next (next : item.IsNext d p) (tab : item.tab = batch.tab) :
    batch.remaining d p = item.lines ++ batch.remaining d (p.count item) := by
  have total : batch.rows p + ((batch.pending d (p.count item)).length + 1) =
      batch.rows (p.count item) + (batch.pending d (p.count item)).length := by
    rw [rows_count, if_pos tab]
    omega
  simp only [remaining, pending_of_next next tab, List.flatMap_cons, List.length_cons, total,
    List.append_assoc]

theorem agenda_of_next (next : item.IsNext d p) (tab : item.tab = batch.tab) :
    batch.agenda d p = batch.remaining d p := by
  unfold agenda
  rw [if_neg]
  rw [pending_of_next next tab]
  exact List.cons_ne_nil _ _

theorem pending_of_done (finished : batch.IsDone d p) : batch.pending d p = [] :=
  pending_eq_nil_iff.mpr finished

theorem agenda_of_done (finished : batch.IsDone d p) : batch.agenda d p = [] :=
  if_pos (pending_of_done finished)

theorem remaining_of_done (finished : batch.IsDone d p) :
    batch.remaining d p = [.rows batch.tab (batch.rows p)] := by
  rw [remaining, pending_of_done finished]
  rfl

/-- Entering an item of another tab leaves the agenda of a batch as it is. -/
theorem agenda_count (p : Progress) (other : item.tab ≠ batch.tab) :
    batch.agenda d (p.count item) = batch.agenda d p := by
  have pending : batch.pending d (p.count item) = batch.pending d p := by
    unfold Batch.pending
    rw [entered_count, if_neg other]
    rfl
  unfold agenda remaining
  rw [pending, rows_count, if_neg other]
  rfl

end Batch

def Draft.agenda (d : Draft) (p : Progress) : List Line :=
  Batch.locations.agenda d p ++ Batch.contacts.agenda d p ++ (d.pendingBank p).flatMap Item.lines

theorem Draft.pendingBank_count (d : Draft) (p : Progress) {item : Item}
    (other : item.tab ≠ .bankAccounts) : d.pendingBank (p.count item) = d.pendingBank p := by
  cases item with
  | location l => rfl
  | contact c => rfl
  | bank name => exact absurd rfl other

/-! ## The progress of a replay -/

namespace Progress

def hear (p : Progress) (a : Answered) : Progress :=
  a.entered?.elim p p.count

end Progress

/-- So far every answer would do, and this is left. -/
def Underway (agenda : List Line) (start : Progress) (left : List Line) (p : Progress)
    (world : List Deed × ω) : Prop :=
  ∃ answered : List Answered,
    world.1.filter Deed.isCall = answered.map Answered.deed ∧
      answered.map Answered.line ++ left = agenda ∧ (∀ a ∈ answered, a.failure? = none) ∧
      p = answered.foldl Progress.hear start

def Broken (agenda : List Line) (start : Progress) (cause : Failure) (p : Progress)
    (world : List Deed × ω) : Prop :=
  ∃ (answered : List Answered) (last : Answered) (left : List Line),
    world.1.filter Deed.isCall = (answered ++ [last]).map Answered.deed ∧
      answered.map Answered.line ++ last.line :: left = agenda ∧
      (∀ a ∈ answered, a.failure? = none) ∧ last.failure? = some cause ∧
      p = answered.foldl Progress.hear start

section Going

variable {desk : Desk ω} {agenda left : List Line} {start p : Progress} {log : List Deed}
variable {world : ω}

theorem Underway.noted (underway : Underway agenda start left p (log, world)) (event : Event)
    (after : ω) :
    Underway agenda start left p (log ++ [.noted event], after) := by
  obtain ⟨answered, called, rest⟩ := underway
  refine ⟨answered, ?_, rest⟩
  rw [List.filter_append, called]
  exact List.append_nil _

/-- The answer to the first line that is left. -/
theorem Underway.hear {line : Line} (underway : Underway agenda start (line :: left) p (log, world))
    (answer : Except ScreenError line.call.Answer) (after : ω) :
    match (⟨line, answer⟩ : Answered).failure? with
    | none => Underway agenda start left (p.hear ⟨line, answer⟩)
        (log ++ [Deed.called line.call answer], after)
    | some cause =>
        Broken agenda start cause p (log ++ [Deed.called line.call answer], after) := by
  obtain ⟨answered, called, lines, fine, progress⟩ := underway
  have recorded : (log ++ [Deed.called line.call answer]).filter Deed.isCall =
      (answered ++ [Answered.mk line answer]).map Answered.deed := by
    rw [List.filter_append, called, List.map_append]
    rfl
  split
  · next good =>
      refine ⟨answered ++ [⟨line, answer⟩], recorded, ?_, ?_, ?_⟩
      · rw [List.map_append, List.append_assoc]
        exact lines
      · exact List.forall_mem_append.mpr ⟨fine, List.forall_mem_singleton.mpr good⟩
      · rw [List.foldl_concat, progress]
  · next cause bad =>
      exact ⟨answered, ⟨line, answer⟩, left, recorded, lines, fine, bad, progress⟩

/-- A gesture takes the first line that is left. -/
theorem Underway.gesture_ends (line : Line) {state : List Deed × ω}
    (underway : Underway agenda start (line :: left) p state) :
    (desk.recorded.gesture line.call).Ends state
      (fun value after => match line.objection? value with
        | none => Underway agenda start left (p.hear ⟨line, .ok value⟩) after
        | some cause => Broken agenda start cause p after)
      fun cause after => Broken agenda start cause p after := by
  obtain ⟨log, world⟩ := state
  obtain ⟨⟨answer, after⟩, made⟩ : ∃ result, desk.call line.call world = result := ⟨_, rfl⟩
  have heard := underway.hear answer after
  rw [Desk.ends_gesture, ends_of_eq (Desk.recorded_call made)]
  refine ⟨?_, ?_⟩
  · rintro value rfl
    exact heard
  · rintro cause rfl
    exact heard

/-- Calls of which any answer will do are made one after another. -/
theorem Underway.follow_ends {calls : List Call} {state : List Deed × ω}
    (underway : Underway agenda start (calls.map .gesture ++ left) p state) :
    (Item.follow desk.recorded calls).Ends state (fun _ => Underway agenda start left p)
      fun cause => Broken agenda start cause p := by
  induction calls generalizing state with
  | nil => exact underway
  | cons c rest ih =>
      rw [Item.follow_cons, ends_bind]
      exact (underway.gesture_ends (.gesture c)).mono (fun _ _ next => ih next)
        fun _ _ failed => failed

theorem Underway.check_ends {item : Item} {state : List Deed × ω}
    (underway : Underway agenda start (item.reads ++ left) p state) :
    (item.check desk.recorded).Ends state (fun _ => Underway agenda start left p)
      fun cause => Broken agenda start cause p := by
  cases item with
  | location l =>
      unfold Item.check
      rw [ends_bind]
      refine (underway.gesture_ends (.address l.city)).mono (fun summary state heard => ?_)
        fun _ _ failed => failed
      unfold Line.objection? at heard
      dsimp only at heard
      split
      · next shown =>
          rw [if_pos shown] at heard
          exact heard
      · next missing =>
          rw [if_neg missing] at heard
          exact heard
  | contact c => exact underway
  | bank name => exact underway

/-- An entry takes the lines of its item, and counts the item if it succeeds. -/
theorem Underway.enter_ends {item : Item} {state : List Deed × ω}
    (underway : Underway agenda start (item.lines ++ left) p state) :
    (item.enter desk.recorded).Ends state (fun _ => Underway agenda start left (p.count item))
      fun cause => Broken agenda start cause p := by
  obtain ⟨log, world⟩ := state
  rw [Item.lines, List.append_assoc, List.append_assoc] at underway
  rw [Item.enter_eq, ends_bind, Desk.ends_report, ends_bind]
  refine (underway.noted item.event _).follow_ends.mono (fun _ _ filled => ?_)
    fun _ _ failed => failed
  rw [ends_bind]
  refine filled.check_ends.mono (fun _ _ checked => ?_) fun _ _ failed => failed
  exact checked.gesture_ends (.save item)

theorem Underway.expectRows_ends {tab : DetailTab} {expected : Nat} {state : List Deed × ω}
    (underway : Underway agenda start (.rows tab expected :: left) p state) :
    (Entry.expectRows desk.recorded tab expected).Ends state (fun _ => Underway agenda start left p)
      fun cause => Broken agenda start cause p := by
  unfold Entry.expectRows
  rw [ends_bind]
  refine (underway.gesture_ends (.rows tab expected)).mono (fun actual state heard => ?_)
    fun _ _ failed => failed
  unfold Line.objection? at heard
  dsimp only at heard
  split
  · next same =>
      rw [if_pos same] at heard
      exact heard
  · next different =>
      rw [if_neg different] at heard
      exact heard

/-- A batch takes the lines of its agenda. What is left for after it does not depend on how many of
its items have been entered. -/
theorem Underway.run_ends {batch : Batch} {d : Draft} (rest : Progress → List Line)
    (apart : ∀ (item : Item) p, item.tab = batch.tab → rest (p.count item) = rest p)
    {state : List Deed × ω}
    (underway : Underway agenda start (batch.agenda d p ++ rest p) p state) :
    (batch.run desk.recorded d).Ends (p, state)
      (fun _ after => Underway agenda start (rest after.1) after.1 after.2)
      fun cause after => Broken agenda start cause after.1 after.2 := by
  refine Batch.run_ends (fun p => Underway agenda start (batch.agenda d p ++ rest p) p)
    (fun p => Underway agenda start (batch.remaining d p ++ rest p) p)
    (fun p => Underway agenda start (rest p) p) (Broken agenda start) ?_ ?_ ?_ underway
  · intro item p world tab next reached
    rw [Batch.agenda_of_next next tab, or_self, Batch.remaining_of_next next tab,
      List.append_assoc, ← apart item p tab] at reached
    exact reached.enter_ends
  · intro p world finished reached
    rw [Batch.remaining_of_done finished] at reached
    exact reached.expectRows_ends
  · intro finished
    rw [Batch.agenda_of_done finished] at underway
    exact underway

theorem Underway.pendingBank_ends {d : Draft} {state : List Deed × ω}
    (underway : Underway agenda start ((d.pendingBank p).flatMap Item.lines) p state) :
    (Entry.pendingBank desk.recorded d).Ends (p, state)
      (fun _ after => Underway agenda start [] after.1 after.2)
      fun cause after => Broken agenda start cause after.1 after.2 := by
  refine Entry.pendingBank_ends (fun p => Underway agenda start [] p) (Broken agenda start) ?_ ?_
  · rintro name ⟨asked, other⟩
    rw [Draft.pendingBank, asked, Option.filter_some, if_pos (decide_eq_true other)] at underway
    exact underway.enter_ends
  · intro idle
    rw [Draft.pendingBank_eq_nil_iff.mpr idle] at underway
    exact underway

end Going

/-! ## What has been counted -/

namespace Answered

/-- An answer that will not do enters nothing. -/
theorem entered?_of_failure? {a : Answered} {cause : Failure} (failed : a.failure? = some cause) :
    a.entered? = none := by
  obtain ⟨line, answer⟩ := a
  cases line with
  | save item =>
      cases answer with
      | error reason => rfl
      | ok value => cases failed
  | _ => rfl

/-- The calls of a log, from its answers. -/
theorem calls_eq {log : List Deed} {answered : List Answered}
    (called : log.filter Deed.isCall = answered.map deed) :
    Deed.calls log = (answered.map line).map Line.call := by
  have calls : Deed.calls log = Deed.calls (log.filter Deed.isCall) := by
    unfold Deed.calls
    rw [List.filterMap_filter]
    refine List.filterMap_congr fun deed _ => ?_
    cases deed <;> rfl
  rw [calls, called, Deed.calls, List.filterMap_map, List.map_map]
  exact congrFun (List.filterMap_eq_map (f := Line.call ∘ line)) answered

end Answered

/-- An agenda has been gone through to its end, whichever that is. -/
def Pursued (agenda : List Line) (start : Progress) (outcome : Except Failure Unit) (p : Progress)
    (world : List Deed × ω) : Prop :=
  ∃ answered : List Answered,
    world.1.filter Deed.isCall = answered.map Answered.deed ∧
      Concluded agenda answered outcome ∧ p = answered.foldl Progress.hear start

section Ending

variable {agenda : List Line} {start p : Progress} {world : List Deed × ω}

theorem Underway.pursued (underway : Underway agenda start [] p world) :
    Pursued agenda start (.ok ()) p world := by
  obtain ⟨answered, called, lines, fine, progress⟩ := underway
  rw [List.append_nil] at lines
  exact ⟨answered, called, .completed lines fine, progress⟩

theorem Broken.pursued {cause : Failure} (broken : Broken agenda start cause p world) :
    Pursued agenda start (.error cause) p world := by
  obtain ⟨answered, last, left, called, lines, fine, failed, progress⟩ := broken
  refine ⟨answered ++ [last], called, .stopped lines fine failed, ?_⟩
  rw [List.foldl_concat, Progress.hear, Answered.entered?_of_failure? failed]
  exact progress

end Ending

/-- A replay goes through its agenda. -/
theorem Entry.replay_pursued (desk : Desk ω) (d : Draft) (p : Progress) (world : ω) :
    (Entry.replay desk.recorded d).Ends (p, [], world)
      (fun _ after => Pursued (d.agenda p) p (.ok ()) after.1 after.2)
      fun cause after => Pursued (d.agenda p) p (.error cause) after.1 after.2 := by
  have start : Underway (d.agenda p) p
      (Batch.locations.agenda d p ++
        (Batch.contacts.agenda d p ++ (d.pendingBank p).flatMap Item.lines))
      p (([], world) : List Deed × ω) := by
    rw [← List.append_assoc]
    exact ⟨[], rfl, rfl, fun _ member => absurd member List.not_mem_nil, rfl⟩
  rw [replay_eq, ends_bind]
  refine (start.run_ends (fun p =>
    Batch.contacts.agenda d p ++ (d.pendingBank p).flatMap Item.lines) ?_).mono
    (fun _ _ located => ?_) fun _ _ broken => broken.pursued
  · intro item p tab
    rw [Batch.agenda_count p (by rw [tab]; decide), d.pendingBank_count p (by rw [tab]; decide)]
  rw [ends_bind]
  refine (located.run_ends (fun p => (d.pendingBank p).flatMap Item.lines) ?_).mono
    (fun _ _ contacted => contacted.pendingBank_ends.mono (fun _ _ ended => ended.pursued)
      fun _ _ broken => broken.pursued) fun _ _ broken => broken.pursued
  intro item p tab
  rw [d.pendingBank_count p (by rw [tab]; decide)]

example :
    let ada : Contact := { firstName := "Ada", lastName := "Byron", isDefault := true }
    (Draft.agenda { name := "Acme", contacts := [ada] } {}).map Line.call =
      [.selectTab .contacts, .pressAddNew, .writeText "Firstname" "Ada" .modal,
        .writeText "Lastname" "Byron" .modal, .clickCheckbox "IsDefaultContact" true .modal,
        .pressDone, .countRows] := by
  decide

end PartnerRecords
