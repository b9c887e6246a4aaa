import PartnerRecords.Proofs.Partner.Lifecycle
import PartnerRecords.Proofs.Screen.Stage

/-!
# Errands side by side

The same errand is run for a builder at two screens that may show different rows of its record. What
the server is asked is the same in any case. An attempt goes the same way at both screens unless it
completes a batch of a tab of which one screen shows more rows than the other.
-/

namespace PartnerRecords

open Act

/-! ## Records on screens -/

def Screen.Shows (window : PartnerWindow) (b : Builder) (s : Screen) : Prop :=
  ∃ record, b.record = some record ∧ s.visited = some (window.layout.windowId, record)

def Screen.gridsOf (window : PartnerWindow) (b : Builder) (s : Screen) : Grids :=
  match b.record with
  | none => {}
  | some record => if s.visited = some (window.layout.windowId, record) then s.grids else {}

/-- What an errand of a builder leaves of a screen. -/
structure Screen.Left (window : PartnerWindow) (b : Builder) (s after : Screen) : Prop where
  options : after.options = s.options
  shows : after = s ∨ after.Shows window b

/-- Of two screens that offer the same, one shows more rows of the record of a builder. -/
structure Coupled (window : PartnerWindow) (gone : Grids) (b : Builder) (s s' : Screen) :
    Prop where
  options : s'.options = s.options
  rows : s'.gridsOf window b = gone.append (s.gridsOf window b)

structure Builder.Agrees (b b' : Builder) : Prop where
  draft : b.draft = b'.draft
  record : b.record = b'.record

/-- What becomes of the same attempt on coupled screens. Either it completes a batch of a tab of
which rows are gone and the results differ, or nothing tells the two runs apart. -/
inductive Fares {σ α : Type} (window : PartnerWindow) (gone : Grids) (d : Draft)
    (before : Progress) :
    Except Failure α × Builder × Screen × σ → Except Failure α × Builder × Screen × σ → Prop
  | parted {ran ran' : Except Failure α × Builder × Screen × σ} (batch : Batch) :
      batch.Completes d before ran.2.1.progress → gone.rows batch.tab ≠ [] →
      ran.1 ≠ ran'.1 → Fares window gone d before ran ran'
  | alike {ran ran' : Except Failure α × Builder × Screen × σ} :
      (∀ batch : Batch, batch.Completes d before ran.2.1.progress → gone.rows batch.tab = []) →
      ran.1 = ran'.1 → ran.2.1 = ran'.2.1 → Coupled window gone ran.2.1 ran.2.2.1 ran'.2.2.1 →
      Fares window gone d before ran ran'

section Showing

variable {σ : Type} {window : PartnerWindow} {gone : Grids} {b b' : Builder} {s s' : Screen}

theorem Builder.Agrees.trans {b'' : Builder} (first : b.Agrees b') (last : b'.Agrees b'') :
    b.Agrees b'' :=
  ⟨first.draft.trans last.draft, first.record.trans last.record⟩

theorem Builder.Agrees.symm (agrees : b.Agrees b') : b'.Agrees b :=
  ⟨agrees.draft.symm, agrees.record.symm⟩

theorem Screen.gridsOf_of_not_shows (away : ¬ s.Shows window b) : s.gridsOf window b = {} := by
  unfold gridsOf
  split
  · rfl
  · next record recorded => exact if_neg fun visited => away ⟨record, recorded, visited⟩

theorem Screen.gridsOf_of_shows (shows : s.Shows window b) : s.gridsOf window b = s.grids := by
  obtain ⟨record, recorded, visited⟩ := shows
  unfold gridsOf
  simp only [recorded]
  exact if_pos visited

/-- The rows shown of a record are those of a screen that shows the record. -/
theorem Screen.rows_gridsOf_ne_nil (tab : DetailTab) : (s.gridsOf window b).rows tab ≠ [] ↔
    s.Shows window b ∧ s.grids.rows tab ≠ [] := by
  by_cases shows : s.Shows window b
  · rw [gridsOf_of_shows shows]
    exact (and_iff_right shows).symm
  · rw [gridsOf_of_not_shows shows, Grids.rows_empty]
    exact iff_of_false (fun row => row rfl) fun both => shows both.1

/-- A screen shows one record at a time. -/
theorem Screen.Shows.unique (shows : s.Shows window b) (shows' : s.Shows window b') :
    b.record ≠ none ∧ b.record = b'.record := by
  obtain ⟨record, recorded, visited⟩ := shows
  obtain ⟨record', recorded', visited'⟩ := shows'
  rw [visited] at visited'
  cases visited'
  rw [recorded, recorded']
  exact ⟨nofun, rfl⟩

theorem Screen.Shows.agrees (shows : s.Shows window b) (agrees : b.Agrees b') :
    s.Shows window b' := by
  obtain ⟨record, recorded, visited⟩ := shows
  exact ⟨record, agrees.record ▸ recorded, visited⟩

theorem Screen.Left.refl (window : PartnerWindow) (b : Builder) (s : Screen) :
    s.Left window b s :=
  ⟨rfl, .inl rfl⟩

theorem Screen.Left.agrees {after : Screen} (left : s.Left window b after) (agrees : b.Agrees b') :
    s.Left window b' after :=
  ⟨left.options, left.shows.imp_right fun shows => shows.agrees agrees⟩

/-- Coupled screens are twins once the record of the builder is open on both. -/
theorem Coupled.visit (coupled : Coupled window gone b s s') {record : RecordId}
    (recorded : b.record = some record) (rest : σ) :
    Server.Twins gone ((s.call (.visitWindow window.layout.windowId record)).2, rest)
      ((s'.call (.visitWindow window.layout.windowId record)).2, rest) := by
  obtain ⟨options, rows⟩ := coupled
  unfold Screen.gridsOf at rows
  simp only [recorded] at rows
  have opened : (s'.call (.visitWindow window.layout.windowId record)).2 =
      Screen.refilled (s.call (.visitWindow window.layout.windowId record)).2 gone
        (s'.calls ++ [.visitWindow window.layout.windowId record]) := by
    simp only [Screen.call, Screen.perform, Screen.visit, Screen.refilled, rows, options]
  rw [opened]
  exact .twins _ _ rest

/-- Twins that show the record of the builder are coupled. -/
theorem Server.Twins.coupled {world image : Screen × σ} (twins : Server.Twins gone world image)
    (shows : world.1.Shows window b) : Coupled window gone b world.1 image.1 := by
  obtain ⟨s, calls, rest⟩ := twins
  have shows' : (s.refilled gone calls).Shows window b := shows
  refine ⟨rfl, ?_⟩
  rw [Screen.gridsOf_of_shows shows, Screen.gridsOf_of_shows shows']
  rfl

/-- A record that neither screen shows has no rows on either. -/
theorem Coupled.learn (coupled : Coupled window gone b s s') (unrecorded : b.record = none)
    {known : Option RecordId} (unseen : ∀ record, known = some record →
      s.visited ≠ some (window.layout.windowId, record) ∧
        s'.visited ≠ some (window.layout.windowId, record)) :
    Coupled window gone { b with record := known } s s' := by
  have away : ¬ s.Shows window { b with record := known } := by
    rintro ⟨record, recorded, visited⟩
    exact (unseen record recorded).1 visited
  have away' : ¬ s'.Shows window { b with record := known } := by
    rintro ⟨record, recorded, visited⟩
    exact (unseen record recorded).2 visited
  obtain ⟨options, rows⟩ := coupled
  refine ⟨options, ?_⟩
  unfold Screen.gridsOf at rows
  simp only [unrecorded] at rows
  rw [Screen.gridsOf_of_not_shows away, Screen.gridsOf_of_not_shows away', ← rows]

/-- An attempt that ends with another one fares as that one does, if it tells all of its result. -/
theorem Fares.map {α β : Type} {d : Draft} {p : Progress}
    {ran ran' : Except Failure α × Builder × Screen × σ} (fares : Fares window gone d p ran ran')
    {f : α → β} (injective : Function.Injective f) :
    Fares window gone d p (ran.1.map f, ran.2) (ran'.1.map f, ran'.2) := by
  cases fares with
  | alike harmless same builder coupled =>
      exact .alike harmless (congrArg (Except.map f) same) builder coupled
  | parted batch completes missing different =>
      refine .parted batch completes missing fun same => different ?_
      generalize ran.1 = result at same ⊢
      generalize ran'.1 = result' at same ⊢
      cases result with
      | ok value =>
          cases result' with
          | ok value' => rw [injective (Except.ok.inj same)]
          | error cause => cases same
      | error cause =>
          cases result' with
          | ok value' => cases same
          | error cause' => rw [Except.error.inj same]

/-- Nothing is told apart by an attempt that touches neither the builder's progress nor a screen. -/
theorem Fares.still {α : Type} {rest rest' : σ} (b : Builder) (result : Except Failure α)
    (coupled : Coupled window gone b s s') :
    Fares window gone b.draft b.progress (result, b, s, rest) (result, b, s', rest') :=
  .alike (fun _ completes => absurd completes (Batch.not_completes rfl)) rfl rfl coupled

end Showing

/-! ## Attempts -/

namespace Server

variable {σ : Type} (server : Server σ) (window : PartnerWindow) {gone : Grids} {b b' : Builder}

/-- A replay comes to nothing, or opens the record of the builder and enters what is pending. -/
theorem replay_cases (b : Builder) :
    (∃ result, ∀ world, Builder.replay window server.desk (b, world) = (result, b, world)) ∨
      ∃ record, b.record = some record ∧ ∀ s rest,
        Builder.replay window server.desk (b, s, rest) = Builder.enterRows server.desk b.draft
          (b, (s.call (.visitWindow window.layout.windowId record)).2, rest) := by
  cases recorded : b.record with
  | none => exact .inl ⟨_, fun _ => Builder.replay_unrecorded recorded⟩
  | some record =>
      cases pending : b.progress.hasPending b.draft with
      | false => exact .inl ⟨_, fun _ => Builder.replay_idle recorded pending⟩
      | true =>
          refine .inr ⟨record, rfl, fun s rest => ?_⟩
          simp only [Builder.replay, bind_apply, Act.get, recorded, pending, if_true]
          rfl

/-- A replay keeps the record and the draft, and asks nothing of the server. -/
theorem replay_leaves (b : Builder) (s : Screen) (rest : σ) :
    b.Agrees (Builder.replay window server.desk (b, s, rest)).2.1 ∧
      s.Left window b (Builder.replay window server.desk (b, s, rest)).2.2.1 ∧
      (Builder.replay window server.desk (b, s, rest)).2.2.2 = rest := by
  obtain ⟨result, still⟩ | ⟨record, recorded, entering⟩ := server.replay_cases window b
  · rw [still]
    exact ⟨⟨rfl, rfl⟩, .refl window b s, rfl⟩
  · have stage : Stage {} b.draft _ (Entry.replay server.desk b.draft) := Entry.replay_stage server
    have stays := (stage.kept (b.progress,
      (s.call (.visitWindow window.layout.windowId record)).2, rest)).stays
    rw [entering]
    refine ⟨⟨rfl, rfl⟩, ⟨?_, .inr ⟨record, recorded, stays.visited⟩⟩, stays.server⟩
    exact stays.options.trans (s.options_call _)

theorem replay_fares {s s' : Screen} (rest : σ) (coupled : Coupled window gone b s s') :
    Fares window gone b.draft b.progress (Builder.replay window server.desk (b, s, rest))
      (Builder.replay window server.desk (b, s', rest)) := by
  obtain ⟨result, still⟩ | ⟨record, recorded, entering⟩ := server.replay_cases window b
  · rw [still, still]
    exact .still b result coupled
  · have stage : Stage gone b.draft _ (Entry.replay server.desk b.draft) :=
      Entry.replay_stage server
    have stays := (stage.kept (b.progress,
      (s.call (.visitWindow window.layout.windowId record)).2, rest)).stays
    have compared := stage.twins b.progress _ _ (coupled.visit recorded rest) nofun
    rw [entering, entering]
    unfold Builder.enterRows
    dsimp only
    generalize Entry.replay server.desk b.draft (b.progress, _, _) = ran at stays compared ⊢
    generalize Entry.replay server.desk b.draft (b.progress, _, _) = ran' at compared ⊢
    obtain ⟨result, p, world⟩ := ran
    obtain ⟨result', p', image⟩ := ran'
    cases compared with
    | parted batch _ completes missing contested =>
        exact .parted batch completes missing contested.1
    | alike harmless same after =>
        obtain ⟨rfl, twins⟩ := after
        have shows : world.1.Shows window { b with progress := p } :=
          ⟨record, recorded, stays.visited⟩
        exact .alike harmless same rfl (twins.coupled shows)

/-- Builders that agree persist alike, wherever they have got to on their screens. -/
theorem persist_alike (agrees : b.Agrees b') (s s' : Screen) (rest : σ) :
    ∃ result known served,
      Builder.persist window server.desk (b, s, rest) =
          (result, { b with record := known }, s, served) ∧
        Builder.persist window server.desk (b', s', rest) =
          (result, { b' with record := known }, s', served) ∧
        ∀ record, result = .ok record → known = some record := by
  have mirrored := (server.desk_mirrors_untouched s s').persist window
    (fun b₁ b₁' => ∃ known, b₁ = { b with record := known } ∧ b₁' = { b' with record := known })
    (by rintro _ _ ⟨known, rfl, rfl⟩; exact agrees.draft)
    (by rintro _ _ record ⟨known, rfl, rfl⟩; exact ⟨some record, rfl, rfl⟩)
    (b, s, rest) (b', s', rest)
    ⟨⟨b.record, rfl, congrArg (fun record => { b' with record }) agrees.record.symm⟩,
      .untouched rest⟩
  have learns : (Builder.persist window server.desk).Ends (b, s, rest)
      (fun record state => state.1.record = some record) fun _ _ => True := by
    rw [Builder.persist_ends]
    exact ends_of_forall (fun _ _ => ends_of_forall (fun _ _ => rfl) fun _ _ => trivial)
      fun _ _ => trivial
  unfold Ends at learns
  generalize Builder.persist window server.desk (b, s, rest) = ran at mirrored learns ⊢
  generalize Builder.persist window server.desk (b', s', rest) = ran' at mirrored ⊢
  obtain ⟨result, b₁, world⟩ := ran
  obtain ⟨result', b₁', image⟩ := ran'
  obtain ⟨same, ⟨known, rfl, rfl⟩, ⟨served⟩⟩ := mirrored
  cases same
  refine ⟨result, known, served, rfl, rfl, ?_⟩
  rintro record rfl
  exact learns

/-- An application persists the draft and, if that succeeds, replays it. -/
theorem apply_persisting (unrecorded : b.record = none) (s : Screen) (rest : σ) :
    Builder.apply window server.desk (b, s, rest) =
      match Builder.persist window server.desk (b, s, rest) with
      | (.ok record, state) =>
          ((Builder.replay window server.desk state).1.map fun _ => record,
            (Builder.replay window server.desk state).2)
      | (.error cause, state) => (.error cause, state) := by
  have begun : Builder.apply window server.desk (b, s, rest) =
      (Builder.persist window server.desk >>= fun record =>
        inside (server.desk.report (.applyEnded b.draft.name record)) >>= fun _ =>
          Builder.replay window server.desk >>= fun _ => pure record) (b, s, rest) := by
    simp only [Builder.apply, bind_apply, Act.get, unrecorded]
    rfl
  rw [begun, bind_apply]
  rcases Builder.persist window server.desk (b, s, rest) with ⟨cause | record, state⟩
  · rfl
  · exact bind_pure_apply (Builder.replay window server.desk) (fun _ => record) state

theorem apply_leaves (b : Builder) (s : Screen) (rest : σ) :
    s.Left window (Builder.apply window server.desk (b, s, rest)).2.1
      (Builder.apply window server.desk (b, s, rest)).2.2.1 := by
  cases recorded : b.record with
  | some record =>
      rw [Builder.apply_recorded recorded]
      exact .refl window b s
  | none =>
      obtain ⟨result, known, served, persisted, -, -⟩ :=
        server.persist_alike window (⟨rfl, rfl⟩ : b.Agrees b) s s rest
      rw [server.apply_persisting window recorded, persisted]
      cases result with
      | error cause => exact .refl window _ s
      | ok record =>
          obtain ⟨agrees, left, -⟩ :=
            server.replay_leaves window { b with record := known } s served
          exact left.agrees agrees

theorem apply_agrees (agrees : b.Agrees b') (s s' : Screen) (rest : σ) :
    (Builder.apply window server.desk (b, s, rest)).2.1.Agrees
        (Builder.apply window server.desk (b', s', rest)).2.1 ∧
      (Builder.apply window server.desk (b, s, rest)).2.2.2 =
        (Builder.apply window server.desk (b', s', rest)).2.2.2 := by
  cases recorded : b.record with
  | some record =>
      have recorded' : b'.record = some record := agrees.record ▸ recorded
      rw [Builder.apply_recorded recorded, Builder.apply_recorded recorded']
      exact ⟨agrees, rfl⟩
  | none =>
      have recorded' : b'.record = none := agrees.record ▸ recorded
      obtain ⟨result, known, served, persisted, persisted', -⟩ :=
        server.persist_alike window agrees s s' rest
      have learned : { b with record := known }.Agrees { b' with record := known } :=
        ⟨agrees.draft, rfl⟩
      rw [server.apply_persisting window recorded, server.apply_persisting window recorded',
        persisted, persisted']
      cases result with
      | error cause => exact ⟨learned, rfl⟩
      | ok record =>
          obtain ⟨kept, -, same⟩ := server.replay_leaves window { b with record := known } s served
          obtain ⟨kept', -, same'⟩ :=
            server.replay_leaves window { b' with record := known } s' served
          exact ⟨kept.symm.trans (learned.trans kept'), same.trans same'.symm⟩

theorem apply_fares {s s' : Screen} (rest : σ) (coupled : Coupled window gone b s s')
    (unseen : ∀ record, b.record = none →
      (Builder.apply window server.desk (b, s, rest)).2.1.record = some record →
        s.visited ≠ some (window.layout.windowId, record) ∧
          s'.visited ≠ some (window.layout.windowId, record)) :
    Fares window gone b.draft b.progress (Builder.apply window server.desk (b, s, rest))
      (Builder.apply window server.desk (b, s', rest)) := by
  cases recorded : b.record with
  | some record =>
      rw [Builder.apply_recorded recorded, Builder.apply_recorded recorded]
      exact .still b _ coupled
  | none =>
      obtain ⟨result, known, served, persisted, persisted', learns⟩ :=
        server.persist_alike window (⟨rfl, rfl⟩ : b.Agrees b) s s' rest
      have kept : known = (Builder.apply window server.desk (b, s, rest)).2.1.record := by
        rw [server.apply_persisting window recorded, persisted]
        cases result with
        | error cause => rfl
        | ok record =>
            exact (server.replay_leaves window { b with record := known } s served).1.record
      have learned : Coupled window gone { b with record := known } s s' :=
        coupled.learn recorded fun record same => unseen record recorded (kept.symm.trans same)
      rw [server.apply_persisting window recorded, server.apply_persisting window recorded,
        persisted, persisted']
      cases result with
      | error cause =>
          exact .still { b with record := known } (.error cause) learned
      | ok record => exact (server.replay_fares window served learned).map fun _ _ _ => rfl

end Server

/-! ## Errands with their answers -/

def Errand.answer {ω : Type} (window : PartnerWindow) (desk : Desk ω) :
    Errand → Act (Builder × ω) Failure (Option RecordId)
  | .apply => do return some (← Builder.apply window desk)
  | errand => do
      errand.run window desk
      return none

namespace Errand

variable {ω : Type} {window : PartnerWindow} (desk : Desk ω) (state : Builder × ω)

theorem answer_apply : apply.answer window desk state =
    ((Builder.apply window desk state).1.map some, (Builder.apply window desk state).2) :=
  bind_pure_apply (Builder.apply window desk) some state

theorem answer_replay : replay.answer window desk state =
    ((Builder.replay window desk state).1.map fun _ => none,
      (Builder.replay window desk state).2) :=
  bind_pure_apply (Builder.replay window desk) (fun _ => none) state

/-- The answer is all that is added to an errand. -/
theorem answer_world (errand : Errand) :
    (errand.answer window desk state).2 = (errand.run window desk state).2 := by
  cases errand with
  | edit e => rfl
  | apply =>
      have ran : apply.run window desk state = _ :=
        bind_pure_apply (Builder.apply window desk) (fun _ => ()) state
      rw [answer_apply, ran]
  | replay =>
      rw [answer_replay]
      rfl

theorem answer_grows (errand : Errand) :
    state.1.Grows (errand.answer window desk state).2.1 := by
  have grows : state.1.Grows (runAll desk [(window, errand)] state).1 := runAll_grows
  rw [errand.answer_world]
  exact grows

end Errand

namespace Server

variable {σ : Type} (server : Server σ) (window : PartnerWindow) {gone : Grids} {b b' : Builder}

/-- An errand leaves the screen alone, or on the record of its builder. -/
theorem answer_leaves (errand : Errand) (b : Builder) (s : Screen) (rest : σ) :
    s.Left window (errand.answer window server.desk (b, s, rest)).2.1
      (errand.answer window server.desk (b, s, rest)).2.2.1 := by
  cases errand with
  | edit e => exact .refl window (b.edit e) s
  | apply =>
      rw [Errand.answer_apply]
      exact server.apply_leaves window b s rest
  | replay =>
      rw [Errand.answer_replay]
      obtain ⟨agrees, left, -⟩ := server.replay_leaves window b s rest
      exact left.agrees agrees

/-- What a screen shows, and how far a builder has come on it, makes no difference to the server. -/
theorem answer_agrees (errand : Errand) (agrees : b.Agrees b') (s s' : Screen) (rest : σ) :
    (errand.answer window server.desk (b, s, rest)).2.1.Agrees
        (errand.answer window server.desk (b', s', rest)).2.1 ∧
      (errand.answer window server.desk (b, s, rest)).2.2.2 =
        (errand.answer window server.desk (b', s', rest)).2.2.2 := by
  cases errand with
  | edit e => exact ⟨⟨congrArg e.draft agrees.draft, agrees.record⟩, rfl⟩
  | apply =>
      rw [Errand.answer_apply, Errand.answer_apply]
      exact server.apply_agrees window agrees s s' rest
  | replay =>
      rw [Errand.answer_replay, Errand.answer_replay]
      obtain ⟨kept, -, served⟩ := server.replay_leaves window b s rest
      obtain ⟨kept', -, served'⟩ := server.replay_leaves window b' s' rest
      exact ⟨kept.symm.trans (agrees.trans kept'), served.trans served'.symm⟩

theorem answer_fares (errand : Errand) (attempt : errand.isAttempt = true) {s s' : Screen}
    (rest : σ) (coupled : Coupled window gone b s s')
    (unseen : ∀ record, b.record = none →
      (errand.answer window server.desk (b, s, rest)).2.1.record = some record →
        s.visited ≠ some (window.layout.windowId, record) ∧
          s'.visited ≠ some (window.layout.windowId, record)) :
    Fares window gone b.draft b.progress (errand.answer window server.desk (b, s, rest))
      (errand.answer window server.desk (b, s', rest)) := by
  cases errand with
  | edit e => cases attempt
  | apply =>
      rw [Errand.answer_apply] at unseen ⊢
      rw [Errand.answer_apply]
      exact (server.apply_fares window rest coupled unseen).map fun _ _ => Option.some.inj
  | replay =>
      rw [Errand.answer_replay, Errand.answer_replay]
      exact (server.replay_fares window rest coupled).map fun _ _ _ => rfl

end Server

end PartnerRecords
