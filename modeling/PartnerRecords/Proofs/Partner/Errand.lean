import PartnerRecords.Partner.Builder
import PartnerRecords.Proofs.Screen.Replay

/-!
# Errands

What is asked of a builder is an edit, to apply it, or to replay it. Each errand is run
wherever the one before has left the builder and the world, whether that one failed or not.
-/

namespace PartnerRecords

open Act

def Batch.clearing : Batch → Edit
  | .locations => .clearLocations
  | .contacts => .clearContacts

namespace Edit

theorem rows_progress (e : Edit) (p : Progress) (batch : Batch) :
    batch.rows (e.progress p) = batch.rows p := by
  cases batch <;> cases e <;> rfl

theorem bank_progress (e : Edit) (p : Progress) : (e.progress p).bank = p.bank := by
  cases e <;> rfl

/-- An edit adds to the end of a queue, or empties it and forgets what of it was entered. -/
theorem queue_cases (e : Edit) (d : Draft) (p : Progress) (batch : Batch) :
    e ≠ batch.clearing ∧ batch.entered (e.progress p) = batch.entered p ∧
        batch.queue d <+: batch.queue (e.draft d) ∨
      e = batch.clearing ∧ batch.entered (e.progress p) = 0 ∧ batch.queue (e.draft d) = [] := by
  cases batch with
  | locations =>
      cases e with
      | clearLocations => exact .inr ⟨rfl, rfl, rfl⟩
      | addLocation l =>
          refine .inl ⟨nofun, rfl, ?_⟩
          exact List.IsPrefix.map _ (List.prefix_append d.locations [l])
      | _ => exact .inl ⟨nofun, rfl, List.prefix_refl _⟩
  | contacts =>
      cases e with
      | clearContacts => exact .inr ⟨rfl, rfl, rfl⟩
      | addContact c =>
          refine .inl ⟨nofun, rfl, ?_⟩
          exact List.IsPrefix.map _ (List.prefix_append d.contacts [c])
      | _ => exact .inl ⟨nofun, rfl, List.prefix_refl _⟩

end Edit

variable {ω : Type} {window : PartnerWindow} {desk : Desk ω} {b : Builder} {world : ω}

namespace Builder

section Ending

variable {good : Unit → Builder × ω → Prop} {bad : Failure → Builder × ω → Prop}

theorem enterRows_ends {d : Draft} :
    (enterRows desk d).Ends (b, world) good bad ↔
      (Entry.replay desk d).Ends (b.progress, world)
        (fun _ state => good () ({ b with progress := state.1 }, state.2))
        fun cause state => bad cause ({ b with progress := state.1 }, state.2) := by
  unfold enterRows Ends
  dsimp only
  rcases Entry.replay desk d (b.progress, world) with ⟨_ | _, _, _⟩ <;> exact Iff.rfl

theorem replay_unrecorded (unrecorded : b.record = none) :
    replay window desk (b, world) = (.error .notPersisted, (b, world)) := by
  simp only [replay, bind_apply, Act.get, unrecorded, fail_apply]

theorem replay_idle {record : RecordId} (recorded : b.record = some record)
    (idle : b.progress.hasPending b.draft = false) :
    replay window desk (b, world) = (.ok (), (b, world)) := by
  simp only [replay, bind_apply, Act.get, recorded, idle]
  rfl

/-- A replay is refused without a record, ends at once with nothing pending, or visits the
record and enters rows. -/
theorem replay_ends (refused : b.record = none → bad .notPersisted (b, world))
    (idle : b.progress.hasPending b.draft = false → good () (b, world))
    (enters : ∀ record, b.record = some record →
      (desk.gesture (.visitWindow window.layout.windowId record)).Ends
        (desk.note (.replayStarted record b.draft.locations.length b.draft.contacts.length
          b.draft.bank.isSome) world)
        (fun _ after => (Entry.replay desk b.draft).Ends (b.progress, after)
          (fun _ state => good () ({ b with progress := state.1 }, state.2))
          fun cause state => bad cause ({ b with progress := state.1 }, state.2))
        fun cause after => bad cause (b, after)) :
    (replay window desk).Ends (b, world) good bad := by
  cases recorded : b.record with
  | none =>
      rw [ends_of_eq (replay_unrecorded recorded)]
      refine ⟨fun _ answered => (by cases answered), fun cause failed => ?_⟩
      cases failed
      exact refused recorded
  | some record =>
      cases pending : b.progress.hasPending b.draft with
      | false =>
          rw [ends_of_eq (replay_idle recorded pending)]
          exact ⟨fun _ _ => idle pending, fun _ failed => by cases failed⟩
      | true =>
          unfold replay
          rw [ends_bind, ends_get]
          simp only [recorded, pending, if_true]
          rw [ends_bind, ends_inside, Desk.ends_report, ends_bind, ends_inside]
          simp only [enterRows_ends]
          exact enters record recorded

def describe (window : PartnerWindow) (desk : Desk ω) (d : Draft) (record : RecordId) :
    Act ω Failure Unit := do
  let _ ← window.client.patchRecord desk record (basicChanges d.name)
  if d.needsReferences then sendTerms window desk d record

/-- A builder changes once while it persists: when it learns the identifier. -/
theorem persist_ends {good : RecordId → Builder × ω → Prop} :
    (persist window desk).Ends (b, world) good bad ↔
      (window.client.createRecord desk).Ends world
        (fun record after => (describe window desk b.draft record).Ends after
          (fun _ last => good record ({ b with record := some record }, last))
          fun cause last => bad cause ({ b with record := some record }, last))
        fun cause after => bad cause (b, after) := by
  unfold persist describe
  rw [ends_bind, ends_get]
  simp only [ends_bind, ends_inside, ends_updateFirst]
  cases b.draft.needsReferences with
  | true => simp only [if_true, ends_bind, ends_inside, ends_pure]
  | false => simp only [Bool.false_eq_true, if_false, ends_pure]

theorem apply_recorded {record : RecordId} (recorded : b.record = some record) :
    apply window desk (b, world) = (.error (.alreadyApplied record), (b, world)) := by
  simp only [apply, bind_apply, Act.get, recorded, fail_apply]

/-- An application is refused with a record, or persists the draft and replays it. -/
theorem apply_ends {good : RecordId → Builder × ω → Prop}
    (refused : ∀ record, b.record = some record → bad (.alreadyApplied record) (b, world))
    (persists : b.record = none →
      (persist window desk).Ends (b, desk.note (.applyStarted b.draft.name) world)
        (fun record state => (replay window desk).Ends
          (state.1, desk.note (.applyEnded b.draft.name record) state.2)
          (fun _ => good record) bad)
        bad) :
    (apply window desk).Ends (b, world) good bad := by
  cases recorded : b.record with
  | some record =>
      rw [ends_of_eq (apply_recorded recorded)]
      refine ⟨fun _ answered => (by cases answered), fun cause failed => ?_⟩
      cases failed
      exact refused record recorded
  | none =>
      unfold apply
      rw [ends_bind, ends_get]
      simp only [recorded]
      rw [ends_bind, ends_inside, Desk.ends_report, ends_bind]
      simp only [ends_bind, ends_inside, Desk.ends_report, ends_pure]
      exact persists recorded

end Ending

/-- Nothing is pending after a replay that ends well. -/
theorem replay_complete : (replay window desk).Ends (b, world)
    (fun _ after => after.1.progress.hasPending after.1.draft = false) fun _ _ => True :=
  replay_ends (fun _ => trivial) id fun _ _ =>
    ends_of_forall (fun _ _ => Entry.replay_complete) fun _ _ => trivial

theorem apply_complete : (apply window desk).Ends (b, world)
    (fun _ after => after.1.progress.hasPending after.1.draft = false) fun _ _ => True :=
  apply_ends (fun _ _ => trivial) fun _ =>
    ends_of_forall (fun _ _ => replay_complete) fun _ _ => trivial

end Builder

def PartnerWindow.sample : PartnerWindow where
  client := ⟨{
    scheme := "http"
    authority := some { host := some (.name "localhost") }
    path := .segments ["window", "123"] }⟩
  layout := {}

inductive Errand
  | edit (edit : Edit)
  | apply
  | replay
deriving DecidableEq, Repr

namespace Errand

def isAttempt : Errand → Bool
  | .edit _ => false
  | _ => true

def run (window : PartnerWindow) (desk : Desk ω) : Errand → Act (Builder × ω) Failure Unit
  | .edit e => do
      inside (desk.report (.edited e))
      updateFirst (·.edit e)
  | .apply => do let _ ← Builder.apply window desk
  | .replay => Builder.replay window desk

/-- What is left after errands, each in the window that goes with it, failed or not. -/
def runAll (desk : Desk ω) : List (PartnerWindow × Errand) → Builder × ω → Builder × ω
  | [], state => state
  | (window, errand) :: rest, state => runAll desk rest (errand.run window desk state).2

section Ending

variable {good : Unit → Builder × ω → Prop} {bad : Failure → Builder × ω → Prop}

theorem run_edit_ends {e : Edit} :
    ((edit e).run window desk).Ends (b, world) good bad ↔
      good () (b.edit e, desk.note (.edited e) world) := by
  unfold run
  rw [ends_bind, ends_inside, Desk.ends_report, ends_updateFirst]

theorem run_apply_ends :
    (apply.run window desk).Ends (b, world) good bad ↔
      (Builder.apply window desk).Ends (b, world) (fun _ => good ()) bad := by
  unfold run
  rw [ends_bind]
  rfl

end Ending

/-- Nothing is pending after an attempt that ends well. -/
theorem run_complete {errand : Errand} (attempt : errand.isAttempt = true) :
    (errand.run window desk).Ends (b, world)
      (fun _ after => after.1.progress.hasPending after.1.draft = false) fun _ _ => True := by
  cases errand with
  | edit e => cases attempt
  | apply => exact run_apply_ends.mpr Builder.apply_complete
  | replay => exact Builder.replay_complete

/-- An invariant that every errand keeps, failed or not, is kept by any number of them. -/
theorem runAll_keeps (holds : Builder × ω → Prop) {errands : List (PartnerWindow × Errand)}
    {state : Builder × ω} (step : ∀ task ∈ errands, ∀ state, holds state →
      (task.2.run task.1 desk).Ends state (fun _ => holds) fun _ => holds)
    (start : holds state) : holds (runAll desk errands state) := by
  induction errands generalizing state with
  | nil => exact start
  | cons task rest ih =>
      obtain ⟨window, errand⟩ := task
      have first := step (window, errand) List.mem_cons_self state start
      exact ih (fun task member => step task (List.mem_cons_of_mem _ member)) first.afterwards

end Errand

end PartnerRecords
