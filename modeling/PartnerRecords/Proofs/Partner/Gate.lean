import PartnerRecords.Proofs.Partner.Agenda
import PartnerRecords.Proofs.Screen.Mirror

/-!
# The gate of a replay

A builder opens the screen of its record only if something is pending. This is decided from the
lengths of the queues and the counts alone, before anything is done; what is done is found by going
through the queues. Both come to the same: the gate is shut exactly when there would be no call.
-/

namespace PartnerRecords

open Act

variable {ω : Type} {desk : Desk ω} {d : Draft} {p : Progress} {world : ω}

/-! ## Empty agendas -/

theorem Item.lines_ne_nil (item : Item) : item.lines ≠ [] := by
  unfold lines
  exact List.append_ne_nil_of_right_ne_nil _ (List.cons_ne_nil _ _)

theorem Batch.agenda_eq_nil_iff {batch : Batch} :
    batch.agenda d p = [] ↔ batch.pending d p = [] := by
  unfold agenda
  split
  · next finished => exact iff_of_true rfl finished
  · next pending =>
      refine iff_of_false ?_ pending
      unfold remaining
      exact List.append_ne_nil_of_right_ne_nil _ (List.cons_ne_nil _ _)

/-- There is an agenda exactly if something is pending. -/
theorem Draft.agenda_eq_nil_iff : d.agenda p = [] ↔ p.hasPending d = false := by
  have bank : (d.pendingBank p).flatMap Item.lines = [] ↔ d.pendingBank p = [] := by
    rw [List.flatMap_eq_nil_iff]
    constructor
    · intro silent
      exact List.eq_nil_iff_forall_not_mem.mpr fun item member =>
        item.lines_ne_nil (silent item member)
    · intro finished item member
      rw [finished] at member
      cases member
  rw [← pending_eq_nil_iff]
  simp only [agenda, pending, List.append_eq_nil_iff, Batch.agenda_eq_nil_iff, bank]

/-- The first line of an agenda is always taken. -/
theorem Concluded.ne_nil {agenda : List Line} {answered : List Answered}
    {outcome : Except Failure Unit} (concluded : Concluded agenda answered outcome)
    (nonempty : agenda ≠ []) : answered ≠ [] := by
  cases concluded with
  | completed lines _ =>
      rintro rfl
      exact nonempty lines.symm
  | stopped _ _ _ => exact List.append_ne_nil_of_right_ne_nil _ (List.cons_ne_nil _ _)

/-! ## Replays with nothing to do -/

namespace Entry

theorem pendingBank_idle (idle : d.bank = none ∨ d.bank = p.bank) :
    pendingBank desk d (p, world) = (.ok (), p, world) := by
  simp only [pendingBank, bind_apply, Act.get]
  cases asked : d.bank with
  | none => rfl
  | some name =>
      obtain unasked | same := idle
      · rw [unasked] at asked
        cases asked
      · simp only [← same, asked, if_true]
        rfl

/-- With nothing pending, nothing is done. -/
theorem replay_idle (idle : p.hasPending d = false) :
    replay desk d (p, world) = (.ok (), p, world) := by
  obtain ⟨finished, bank⟩ := Batch.hasPending_eq_false.mp idle
  rw [replay_eq, bind_apply, Batch.run_idle (finished .locations)]
  dsimp only
  rw [bind_apply, Batch.run_idle (finished .contacts)]
  exact pendingBank_idle bank

/-- With something pending, there is at least one call. -/
theorem calls_ne_nil (pending : p.hasPending d = true) (desk : Desk ω) (world : ω) :
    Deed.calls (replay desk.recorded d (p, [], world)).2.2.1 ≠ [] := by
  obtain ⟨answered, called, concluded, -⟩ :=
    (ends_iff fun outcome (after : Progress × List Deed × ω) =>
      Pursued (d.agenda p) p outcome after.1 after.2).mp (replay_pursued desk d p world)
  have nonempty : d.agenda p ≠ [] := by
    rw [ne_eq, Draft.agenda_eq_nil_iff, pending]
    decide
  rw [Answered.calls_eq called, ne_eq, List.map_eq_nil_iff, List.map_eq_nil_iff]
  exact concluded.ne_nil nonempty

end Entry

/-! ## Replays with an earlier record of deeds -/

/-- What was recorded before makes no difference to what is done. -/
theorem Desk.recorded_mirrors_later (desk : Desk ω) (before : List Deed) :
    desk.recorded.Mirrors desk.recorded (fun _ => True)
      fun world image => image = (before ++ world.1, world.2) where
  exchange := by
    rintro request ⟨log, world⟩ _ rfl
    simp [recorded]
  call := by
    rintro c - ⟨log, world⟩ _ rfl
    simp [recorded]
  note := by
    rintro event ⟨log, world⟩ _ rfl
    simp [recorded]
  readOrder := by
    rintro ⟨log, world⟩ _ rfl
    rfl

theorem Entry.replay_later (desk : Desk ω) (d : Draft) (p : Progress) (before : List Deed)
    (world : ω) :
    let run := Entry.replay desk.recorded d (p, [], world)
    Entry.replay desk.recorded d (p, before, world) =
      (run.1, run.2.1, before ++ run.2.2.1, run.2.2.2) := by
  have start : (before, world) = (before ++ ([] : List Deed), world) := by rw [List.append_nil]
  obtain ⟨result, progress, after⟩ := Entry.replay_mirrors (desk.recorded_mirrors_later before)
    (fun _ _ => trivial) trivial d (p, [], world) (p, before, world) ⟨rfl, start⟩
  exact Prod.ext result.symm (Prod.ext progress.symm after)

/-- Behind an open gate the record is visited, and then its rows are entered. -/
theorem Builder.replay_visited {window : PartnerWindow} {b : Builder} {record : RecordId}
    (recorded : b.record = some record) (pending : b.progress.hasPending b.draft = true)
    {value : Unit} {after : ω}
    (visited : desk.call (.visitWindow window.layout.windowId record)
      (desk.note (.replayStarted record b.draft.locations.length b.draft.contacts.length
        b.draft.bank.isSome) world) = (.ok value, after)) :
    let entered := Entry.replay desk b.draft (b.progress, after)
    Builder.replay window desk (b, world) =
      (entered.1, { b with progress := entered.2.1 }, entered.2.2) := by
  simp only [Builder.replay, bind_apply, Act.get, recorded, pending, if_true, inside_apply,
    Desk.report, Act.update, Desk.gesture, Act.orFail, visited, Builder.enterRows]

/-- For every draft, every progress and every driver: the gate of a replay is shut exactly when the
replay would succeed without a call and leave the progress as it is. After a replay that succeeds
it is shut, and another replay does nothing. So a builder with a shut gate does what its replay
would have done, and one with an open gate visits its record, to go on with at least one call more
if it can. -/
theorem gate_of_replay (window : PartnerWindow) (desk : Desk ω) (d : Draft) (p : Progress)
    (record : RecordId) (world : ω) :
    let run := Entry.replay desk.recorded d (p, [], world)
    let b : Builder := { draft := d, record := some record, progress := p }
    let gated := Builder.replay window desk.recorded (b, [], world)
    let visit := Call.visitWindow window.layout.windowId record
    let started := desk.note
      (.replayStarted record d.locations.length d.contacts.length d.bank.isSome) world
    (p.hasPending d = false ↔ run.1 = .ok () ∧ Deed.calls run.2.2.1 = [] ∧ run.2.1 = p) ∧
      (run.1 = .ok () → run.2.1.hasPending d = false ∧
        ∀ later : List Deed × ω,
          Entry.replay desk.recorded d (run.2.1, later) = (.ok (), run.2.1, later)) ∧
      (p.hasPending d = false → run = (.ok (), p, [], world) ∧ gated = (.ok (), b, [], world)) ∧
      (p.hasPending d = true → Deed.calls run.2.2.1 ≠ [] ∧
        ∀ after, desk.call visit started = (.ok (), after) →
          let entered := Entry.replay desk.recorded d (p, [], after)
          gated.1 = entered.1 ∧ gated.2.1 = { b with progress := entered.2.1 } ∧
            Deed.calls gated.2.2.1 = visit :: Deed.calls entered.2.2.1 ∧
            Deed.calls entered.2.2.1 ≠ []) := by
  intro run b gated visit started
  have recorded : b.record = some record := rfl
  refine ⟨⟨fun idle => ?_, fun quiet => ?_⟩, fun answered => ?_, fun idle => ?_, fun pending => ?_⟩
  · have nothing : run = (.ok (), p, [], world) := Entry.replay_idle idle
    rw [nothing]
    exact ⟨rfl, rfl, rfl⟩
  · by_contra pending
    exact Entry.calls_ne_nil (eq_true_of_ne_false pending) desk world quiet.2.1
  · have finished : run.2.1.hasPending d = false :=
      Entry.replay_complete.of_ok answered
    exact ⟨finished, fun later => Entry.replay_idle finished⟩
  · exact ⟨Entry.replay_idle idle, Builder.replay_idle recorded idle⟩
  · refine ⟨Entry.calls_ne_nil pending desk world, fun after visited => ?_⟩
    let before : List Deed :=
      [.noted (.replayStarted record d.locations.length d.contacts.length d.bank.isSome),
        .called visit (.ok ())]
    let rows := Entry.replay desk.recorded d (p, before, after)
    have opened : gated = (rows.1, { b with progress := rows.2.1 }, rows.2.2) :=
      Builder.replay_visited recorded pending (Desk.recorded_call visited)
    have same : rows = _ := Entry.replay_later desk d p before after
    rw [opened, same]
    exact ⟨rfl, rfl, Deed.calls_append before _, Entry.calls_ne_nil pending desk after⟩

end PartnerRecords
