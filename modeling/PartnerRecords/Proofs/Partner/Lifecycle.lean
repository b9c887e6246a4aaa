import Mathlib.Logic.Relation
import PartnerRecords.Proofs.Partner.Errand

/-!
# The life of a builder

Work on a builder goes in steps: it learns the identifier of its record, once, and then counts
items. Edits come in between. What steps and edits keep holds at any time, whatever the desk
answers.
-/

namespace PartnerRecords

open Act

namespace Builder

inductive Step : Builder → Builder → Prop
  | record (b : Builder) (record : RecordId) : b.record = none →
      Step b { b with record := some record }
  | count (b : Builder) (item : Item) : b.record ≠ none → item.IsNext b.draft b.progress →
      Step b { b with progress := b.progress.count item }

abbrev Steps : Builder → Builder → Prop :=
  Relation.ReflTransGen Step

theorem Steps.draft_eq {b after : Builder} (steps : Steps b after) : after.draft = b.draft := by
  induction steps with
  | refl => rfl
  | tail _ last ih =>
      cases last with
      | record record unrecorded => exact ih
      | count item recorded next => exact ih

structure Sound (b : Builder) : Prop where
  untouched : b.record = none → b.progress = {}
  queued : ∀ batch : Batch, batch.entered b.progress ≤ (batch.queue b.draft).length
  counted : ∀ batch : Batch, batch.entered b.progress ≤ batch.rows b.progress

theorem sound_draft (draft : Draft) : Sound { draft } where
  untouched _ := rfl
  queued batch := by cases batch <;> exact Nat.zero_le _
  counted batch := by cases batch <;> exact Nat.zero_le _

theorem Sound.step {b after : Builder} (sound : b.Sound) (step : Step b after) :
    after.Sound := by
  cases step with
  | record record unrecorded => exact ⟨nofun, sound.queued, sound.counted⟩
  | count item recorded next =>
      refine ⟨fun unrecorded => absurd unrecorded recorded, fun batch => ?_, fun batch => ?_⟩
      · have queued := sound.queued batch
        rw [Batch.entered_count]
        by_cases tab : item.tab = batch.tab
        · have within := Batch.entered_lt next tab
          rw [if_pos tab]
          exact within
        · rw [if_neg tab]
          exact queued
      · have counted := sound.counted batch
        rw [Batch.entered_count, Batch.rows_count]
        exact Nat.add_le_add_right counted _

theorem Sound.edit {b : Builder} (sound : b.Sound) (e : Edit) : (b.edit e).Sound := by
  refine ⟨fun unrecorded => ?_, fun batch => ?_, fun batch => ?_⟩
  · have fresh : b.progress = {} := sound.untouched unrecorded
    change e.progress b.progress = {}
    rw [fresh]
    cases e <;> rfl
  · change batch.entered (e.progress b.progress) ≤ (batch.queue (e.draft b.draft)).length
    obtain ⟨-, entered, longer⟩ | ⟨-, entered, -⟩ := e.queue_cases b.draft b.progress batch
    · rw [entered]
      exact Nat.le_trans (sound.queued batch) longer.length_le
    · rw [entered]
      exact Nat.zero_le _
  · change batch.entered (e.progress b.progress) ≤ batch.rows (e.progress b.progress)
    rw [e.rows_progress]
    obtain ⟨-, entered, -⟩ | ⟨-, entered, -⟩ := e.queue_cases b.draft b.progress batch
    · rw [entered]
      exact sound.counted batch
    · rw [entered]
      exact Nat.zero_le _

structure Grows (b later : Builder) : Prop where
  rows : ∀ batch : Batch, batch.rows b.progress ≤ batch.rows later.progress
  record : ∀ record, b.record = some record → later.record = some record

theorem Grows.refl (b : Builder) : Grows b b :=
  ⟨fun _ => Nat.le_refl _, fun _ => id⟩

theorem Grows.step {b later after : Builder} (grows : Grows b later) (step : Step later after) :
    Grows b after := by
  cases step with
  | record record unrecorded =>
      refine ⟨grows.rows, fun known recorded => ?_⟩
      rw [grows.record known recorded] at unrecorded
      cases unrecorded
  | count item recorded next =>
      refine ⟨fun batch => ?_, grows.record⟩
      have rows := grows.rows batch
      rw [Batch.rows_count]
      exact Nat.le_add_right_of_le rows

theorem Grows.steps {b later after : Builder} (grows : Grows b later)
    (steps : Steps later after) : Grows b after := by
  induction steps with
  | refl => exact grows
  | tail _ last ih => exact ih.step last

theorem Grows.edit {b later : Builder} (grows : Grows b later) (e : Edit) :
    Grows b (later.edit e) := by
  refine ⟨fun batch => ?_, grows.record⟩
  change batch.rows b.progress ≤ batch.rows (e.progress later.progress)
  rw [e.rows_progress]
  exact grows.rows batch

variable {ω : Type} {window : PartnerWindow} {desk : Desk ω} {b : Builder} {world : ω}

theorem entry_steps (recorded : b.record ≠ none) :
    (Entry.replay desk b.draft).Ends (b.progress, world)
      (fun _ state => Steps b { b with progress := state.1 })
      fun _ state => Steps b { b with progress := state.1 } := by
  refine Entry.replay_ends (fun p _ => Steps b { b with progress := p })
    (fun _ p _ => Steps b { b with progress := p }) ?_ ?_ .refl
  · intro item p world next steps
    have step : Step { b with progress := p } { b with progress := p.count item } :=
      .count { b with progress := p } item recorded next
    exact ends_of_forall (fun _ _ => steps.tail step) fun _ _ => steps
  · intro batch p world _ steps
    exact ends_of_forall (fun _ _ => steps) fun _ _ => steps

theorem replay_steps : (replay window desk).Ends (b, world) (fun _ state => Steps b state.1)
    fun _ state => Steps b state.1 := by
  refine replay_ends (fun _ => .refl) (fun _ => .refl) fun record recorded => ?_
  refine ends_of_forall (fun _ _ => entry_steps ?_) fun _ _ => .refl
  rw [recorded]
  nofun

theorem apply_steps : (apply window desk).Ends (b, world) (fun _ state => Steps b state.1)
    fun _ state => Steps b state.1 := by
  refine apply_ends (fun _ _ => .refl) fun unrecorded => ?_
  have step := fun record => Step.record b record unrecorded
  rw [persist_ends]
  refine ends_of_forall (fun record _ => ends_of_forall (fun _ _ => ?_)
    fun _ _ => .single (step record)) fun _ _ => .refl
  exact replay_steps.mono (fun _ _ steps => .head (step record) steps)
    fun _ _ steps => .head (step record) steps

/-- A replay fails only on the screen, once there is a record, and does nothing that is not
allowed. -/
theorem replay_keeps {holds : ω → Prop} (keeps : desk.Keeps (fun _ => True) holds)
    {record : RecordId} (recorded : b.record = some record) (before : holds world) :
    (replay window desk).Ends (b, world) (fun _ state => holds state.2)
      fun cause state => cause.isManual = true ∧ holds state.2 := by
  refine replay_ends (fun unrecorded => ?_) (fun _ => before) fun record _ => ?_
  · rw [recorded] at unrecorded
    cases unrecorded
  · have visit := (keeps.gesture (c := .visitWindow window.layout.windowId record)
      trivial).weaken Failure.isManual_of_isOfEntry
    refine (visit _ (keeps.note _ _ before)).mono (fun _ after kept => ?_)
      fun _ _ failed => failed
    refine Entry.replay_ends (fun _ => holds)
      (fun cause _ after => cause.isManual = true ∧ holds after) ?_ ?_ kept
    · intro item _ world _ kept
      have entry : (item.enter desk).Keeps (fun cause => cause.isOfEntry = true) holds :=
        Item.enter_keeps keeps fun _ _ => trivial
      exact entry.weaken Failure.isManual_of_isOfEntry world kept
    · intro _ _ world _ kept
      exact Item.expectRows_keeps keeps trivial world kept

/-- A replay keeps the record and asks nothing of the server. -/
theorem replay_unasked {world : List Deed × ω} {log : List Deed} {record : RecordId}
    (recorded : b.record = some record) (unasked : Desk.Unasked log world) :
    (replay window desk.recorded).Ends (b, world)
      (fun _ state => state.1.record = some record ∧ Desk.Unasked log state.2)
      fun _ state => state.1.record = some record ∧ Desk.Unasked log state.2 := by
  have stays : ∀ after, Steps b after → after.record = some record := fun after steps =>
    (Grows.steps (.refl b) steps).record record recorded
  refine (replay_steps.and
    (replay_keeps (desk.recorded_keeps_unasked log) recorded unasked)).mono ?_ ?_
  · exact fun _ state kept => ⟨stays state.1 kept.1, kept.2⟩
  · exact fun _ state kept => ⟨stays state.1 kept.1, kept.2.2⟩

end Builder

namespace Errand

variable {ω : Type} {desk : Desk ω} {state : Builder × ω}
variable {errands : List (PartnerWindow × Errand)}

/-- What edits and steps keep of a builder is kept by any number of errands. -/
theorem runAll_keeps_builder (holds : Builder → Prop)
    (edit : ∀ b e, holds b → holds (b.edit e))
    (step : ∀ b after, Builder.Step b after → holds b → holds after) (start : holds state.1) :
    holds (runAll desk errands state).1 := by
  have steps : ∀ {b after}, Builder.Steps b after → holds b → holds after := by
    intro b after steps kept
    induction steps with
    | refl => exact kept
    | tail _ last ih => exact step _ _ last ih
  refine runAll_keeps (fun state => holds state.1) (fun task _ state kept => ?_) start
  obtain ⟨window, errand⟩ := task
  cases errand with
  | edit e => exact run_edit_ends.mpr (edit state.1 e kept)
  | apply =>
      refine run_apply_ends.mpr (Builder.apply_steps.mono ?_ ?_)
      · exact fun _ _ taken => steps taken kept
      · exact fun _ _ taken => steps taken kept
  | replay =>
      refine Builder.replay_steps.mono ?_ ?_
      · exact fun _ _ taken => steps taken kept
      · exact fun _ _ taken => steps taken kept

/-- What a builder has goes on, whatever is asked of it. -/
theorem runAll_grows : state.1.Grows (runAll desk errands state).1 :=
  runAll_keeps_builder state.1.Grows (fun _ e grows => grows.edit e)
    (fun _ _ step grows => grows.step step) (.refl _)

/-- A builder with a record sends nothing more. -/
theorem runAll_unasked {state : Builder × List Deed × ω} {record : RecordId}
    (recorded : state.1.record = some record) :
    Desk.Unasked state.2.1 (runAll desk.recorded errands state).2 := by
  have kept : (runAll desk.recorded errands state).1.record = some record ∧
      Desk.Unasked state.2.1 (runAll desk.recorded errands state).2 := by
    refine runAll_keeps (fun later => later.1.record = some record ∧
      Desk.Unasked state.2.1 later.2) (fun task _ later kept => ?_)
      ⟨recorded, Desk.grown_refl⟩
    obtain ⟨window, errand⟩ := task
    obtain ⟨recorded, unasked⟩ := kept
    cases errand with
    | edit e =>
        rw [run_edit_ends]
        exact ⟨recorded, (desk.recorded_keeps_unasked state.2.1).note _ later.2 unasked⟩
    | apply =>
        rw [run_apply_ends, ends_of_eq (Builder.apply_recorded recorded)]
        exact ⟨fun _ _ => ⟨recorded, unasked⟩, fun _ _ => ⟨recorded, unasked⟩⟩
    | replay => exact Builder.replay_unasked recorded unasked
  exact kept.2

end Errand

open Errand in
/-- What is true of a builder at any time, of all that may still be asked of it, and of the
desk at which this is done. -/
structure Lifecycle {ω : Type} (desk : Desk ω) (state : Builder × List Deed × ω) : Prop where
  untouched : state.1.record = none → state.1.progress = {}
  queued : ∀ batch : Batch, batch.entered state.1.progress ≤ (batch.queue state.1.draft).length
  counted : ∀ batch : Batch, batch.entered state.1.progress ≤ batch.rows state.1.progress
  rows : ∀ later, ∀ batch : Batch,
    batch.rows state.1.progress ≤ batch.rows (runAll desk.recorded later state).1.progress
  apply_draft : ∀ window,
    (Builder.apply window desk.recorded state).2.1.draft = state.1.draft
  replay_draft : ∀ window,
    (Builder.replay window desk.recorded state).2.1.draft = state.1.draft
  permanent : ∀ record, state.1.record = some record → ∀ later,
    (runAll desk.recorded later state).1.record = some record
  /-- With a record, no request is sent any more. -/
  silent : ∀ record, state.1.record = some record → ∀ later,
    Deed.exchanges (runAll desk.recorded later state).2.1 = Deed.exchanges state.2.1
  applied_once : ∀ record, state.1.record = some record → ∀ window,
    Builder.apply window desk.recorded state = (.error (.alreadyApplied record), state)
  not_persisted : ∀ window,
    (Builder.replay window desk.recorded state).1 = .error .notPersisted ↔ state.1.record = none
  /-- Without a record, a replay touches nothing. -/
  idle : state.1.record = none → ∀ window, (Builder.replay window desk.recorded state).2 = state

namespace Builder

variable {ω : Type} {window : PartnerWindow} {desk : Desk ω} {state : Builder × ω}

theorem apply_draft (window : PartnerWindow) (desk : Desk ω) (state : Builder × ω) :
    (apply window desk state).2.1.draft = state.1.draft := by
  have steps : (apply window desk).Ends state (fun _ after => Steps state.1 after.1)
    fun _ after => Steps state.1 after.1 := apply_steps
  exact Steps.draft_eq steps.afterwards

theorem replay_draft (window : PartnerWindow) (desk : Desk ω) (state : Builder × ω) :
    (replay window desk state).2.1.draft = state.1.draft := by
  have steps : (replay window desk).Ends state (fun _ after => Steps state.1 after.1)
    fun _ after => Steps state.1 after.1 := replay_steps
  exact Steps.draft_eq steps.afterwards

theorem replay_eq_notPersisted :
    (replay window desk state).1 = .error .notPersisted ↔ state.1.record = none := by
  obtain ⟨b, world⟩ := state
  constructor
  · intro refused
    cases recorded : b.record with
    | none => rfl
    | some record =>
        have ends : (replay window desk).Ends (b, world) (fun _ _ => True)
          fun cause _ => cause.isManual = true ∧ True :=
            replay_keeps desk.keeps_trivial recorded trivial
        cases (ends.of_error refused).1
  · intro unrecorded
    rw [replay_unrecorded unrecorded]

end Builder

/-- However a builder starts, whatever is asked of it, in whichever windows, and whatever the
server and the screen answer, its life goes as it should. -/
theorem lifecycle_of_errands {ω : Type} (desk : Desk ω) (draft : Draft)
    (world : List Deed × ω) (past : List (PartnerWindow × Errand)) :
    Lifecycle desk (Errand.runAll desk.recorded past ({ draft }, world)) := by
  have sound : (Errand.runAll desk.recorded past ({ draft }, world)).1.Sound :=
    Errand.runAll_keeps_builder Builder.Sound (fun _ e sound => sound.edit e)
      (fun _ _ step sound => sound.step step) (Builder.sound_draft draft)
  generalize Errand.runAll desk.recorded past ({ draft }, world) = state at sound
  exact {
    untouched := sound.untouched
    queued := sound.queued
    counted := sound.counted
    rows := fun _ => Errand.runAll_grows.rows
    apply_draft := fun window => Builder.apply_draft window desk.recorded state
    replay_draft := fun window => Builder.replay_draft window desk.recorded state
    permanent := fun record recorded _ => Errand.runAll_grows.record record recorded
    silent := fun _ recorded _ => (Errand.runAll_unasked recorded).exchanges_eq
    applied_once := fun _ recorded _ => Builder.apply_recorded recorded
    not_persisted := fun _ => Builder.replay_eq_notPersisted
    idle := fun unrecorded _ => by rw [Builder.replay_unrecorded unrecorded] }

end PartnerRecords
