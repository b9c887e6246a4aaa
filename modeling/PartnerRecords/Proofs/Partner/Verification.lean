import PartnerRecords.Proofs.Partner.Attempts

/-!
# Verified grids

Every grid is verified once, by the attempt that enters the last pending row of its tab, whatever
was on the screen before and wherever the driver fails. A look that has failed fails its attempt,
and is not taken again.
-/

namespace PartnerRecords

open Act

variable {σ : Type} {around : Surroundings σ} {window : PartnerWindow} {d : Draft}

/-! ## No second look -/

def Batch.Avoids (batch : Batch) (deed : Deed) : Prop :=
  deed.call? ≠ some (.selectTab batch.tab)

section Avoiding

variable {ω : Type} {desk : Desk ω} {batch : Batch} {log : List Deed}

theorem Desk.recorded_keeps_avoiding (desk : Desk ω) (batch : Batch) (log : List Deed) :
    desk.recorded.Keeps (· ≠ .selectTab batch.tab) (Desk.Grown log batch.Avoids) :=
  desk.recorded_keeps_grown (fun _ _ other same => other (Option.some.inj same)) fun _ => nofun

/-- What has been entered of a batch is not entered again, and its grid is not looked at. -/
theorem Entry.replay_avoids {p : Progress} {world : List Deed × ω}
    (finished : batch.IsDone d p) (grown : Desk.Grown log batch.Avoids world) :
    (Entry.replay desk.recorded d).Ends (p, world)
      (fun _ state => batch.IsDone d state.1 ∧ Desk.Grown log batch.Avoids state.2)
      fun _ state => batch.IsDone d state.1 ∧ Desk.Grown log batch.Avoids state.2 := by
  have keeps := desk.recorded_keeps_avoiding batch log
  refine Entry.replay_ends (fun p world => batch.IsDone d p ∧ Desk.Grown log batch.Avoids world)
    (fun _ p world => batch.IsDone d p ∧ Desk.Grown log batch.Avoids world) ?_ ?_
    ⟨finished, grown⟩
  · rintro item p world next ⟨finished, grown⟩
    have avoids : ∀ c ∈ item.calls, c ≠ .selectTab batch.tab := by
      rintro c member rfl
      exact finished.tab_ne next (Item.tab_eq_of_mem_calls member).symm
    have entry := Item.enter_keeps keeps avoids
    refine (entry world grown).mono ?_ ?_
    · exact fun _ after grown => ⟨finished.count item, grown⟩
    · exact fun _ after failed => ⟨finished, failed.2⟩
  · rintro other p world - ⟨finished, grown⟩
    refine (Item.expectRows_keeps keeps nofun world grown).mono ?_ ?_
    · exact fun _ after grown => ⟨finished, grown⟩
    · exact fun _ after failed => ⟨finished, failed.2⟩

theorem Builder.replay_avoids {b : Builder} {world : List Deed × ω}
    (finished : batch.IsDone b.draft b.progress) (grown : Desk.Grown log batch.Avoids world) :
    (Builder.replay window desk.recorded).Ends (b, world)
      (fun _ after => batch.IsDone b.draft after.1.progress ∧
        Desk.Grown log batch.Avoids after.2)
      fun _ after => batch.IsDone b.draft after.1.progress ∧
        Desk.Grown log batch.Avoids after.2 := by
  refine replay_ends (fun _ => ⟨finished, grown⟩) (fun _ => ⟨finished, grown⟩) fun record _ => ?_
  have keeps := desk.recorded_keeps_avoiding batch log
  have visit := keeps.gesture (c := .visitWindow window.layout.windowId record) nofun
  refine (visit _ (keeps.note _ _ grown)).mono ?_ ?_
  · exact fun _ after grown => Entry.replay_avoids finished grown
  · exact fun _ after failed => ⟨finished, failed.2⟩

/-- However often the draft is replayed, what has been entered of a batch is not looked at. -/
theorem Errand.runAll_avoids {state : Builder × List Deed × ω}
    (finished : batch.IsDone state.1.draft state.1.progress) (windows : List PartnerWindow) :
    let later := runAll desk.recorded (windows.map (·, .replay)) state
    later.1.draft = state.1.draft ∧ batch.IsDone later.1.draft later.1.progress ∧
      Desk.Grown state.2.1 batch.Avoids later.2 := by
  refine runAll_keeps (fun later => later.1.draft = state.1.draft ∧
    batch.IsDone later.1.draft later.1.progress ∧ Desk.Grown state.2.1 batch.Avoids later.2)
    (fun task member later kept => ?_) ⟨rfl, finished, Desk.grown_refl⟩
  obtain ⟨window, -, rfl⟩ := List.mem_map.mp member
  obtain ⟨same, finished, grown⟩ := kept
  refine (Builder.replay_steps.and (Builder.replay_avoids finished grown)).mono ?_ ?_
  · rintro _ after ⟨steps, finished, grown⟩
    rw [Builder.Steps.draft_eq steps]
    exact ⟨same, finished, grown⟩
  · rintro _ after ⟨steps, finished, grown⟩
    rw [Builder.Steps.draft_eq steps]
    exact ⟨same, finished, grown⟩

end Avoiding

structure Verification (window : PartnerWindow) (around : Surroundings σ)
    (state : Builder × List Deed × Screen × σ) : Prop where
  /-- An attempt that ends well, at once or after others, certifies the grid of each batch of
  which something was pending, unless the look at this grid has failed in one of the others. -/
  certified : ∀ (earlier : List Errand) (last : Errand) (after : Builder × List Deed × Screen × σ),
    (∀ errand ∈ earlier ++ [last], errand.isAttempt = true) →
      last.run window around.desk.recorded
          (Errand.runAll around.desk.recorded (earlier.map (window, ·)) state) = (.ok (), after) →
        ∀ batch : Batch, ¬ batch.IsDone state.1.draft state.1.progress →
          (after.2.2.1.grids.rows batch.tab).length = batch.rows after.1.progress ∨
            batch.MissedAmong window around earlier state
  /-- A mismatch is a true one, and reported by the attempt that has entered the last row. -/
  mismatch : ∀ (errand : Errand) tab actual expected after,
    errand.run window around.desk.recorded state =
        (.error (.gridMismatch tab actual expected), after) →
      ∃ batch : Batch, tab = batch.tab ∧ ¬ batch.IsDone state.1.draft state.1.progress ∧
        batch.IsDone state.1.draft after.1.progress ∧ expected = batch.rows after.1.progress ∧
        actual = (after.2.2.1.grids.rows batch.tab).length ∧ actual ≠ expected
  /-- With nothing pending of a batch, replays never turn to its tab again. -/
  no_second_look : ∀ batch : Batch, batch.IsDone state.1.draft state.1.progress →
    ∀ windows : List PartnerWindow, ∃ deeds,
      (Errand.runAll around.desk.recorded (windows.map (·, .replay)) state).2.1 =
          state.2.1 ++ deeds ∧
        .selectTab batch.tab ∉ Deed.calls deeds
  /-- With nothing pending at all, a replay ends well, whatever the grids show. -/
  nothing_pending : ∀ record, state.1.record = some record →
    state.1.progress.hasPending state.1.draft = false →
      Builder.replay window around.desk.recorded state = (.ok (), state)

theorem Batch.certified_or_missed {state after : Builder × List Deed × Screen × σ}
    {earlier : List Errand} {last : Errand} {batch : Batch}
    (all : ∀ errand ∈ earlier ++ [last], errand.isAttempt = true)
    (ran : last.run window around.desk.recorded
      (Errand.runAll around.desk.recorded (earlier.map (window, ·)) state) = (.ok (), after))
    (pending : ¬ batch.IsDone state.1.draft state.1.progress) :
    batch.Certified after.1.progress after.2 ∨
      batch.MissedAmong window around earlier state := by
  have attempt : last.isAttempt = true := all last (by simp)
  have start : Trusts window (· = batch) state := by
    rintro _ rfl done
    exact absurd done pending
  refine (Batch.trusted_or_missed (fun errand member => all errand (by simp [member]))
    start).imp_left fun trusted => ?_
  have trusts := ((ends_of_eq ran).mp (Errand.run_trusts attempt trusted)).1 () rfl
  have complete := ((ends_of_eq ran).mp (Errand.run_complete attempt)).1 () rfl
  exact (trusts batch rfl ((Batch.hasPending_eq_false.mp complete).1 batch)).1

theorem Errand.mismatch_of_run {state after : Builder × List Deed × Screen × σ} {errand : Errand}
    {tab : DetailTab} {actual expected : Nat}
    (ran : errand.run window around.desk.recorded state =
      (.error (.gridMismatch tab actual expected), after)) :
    ∃ batch : Batch, tab = batch.tab ∧ ¬ batch.IsDone state.1.draft state.1.progress ∧
      batch.IsDone state.1.draft after.1.progress ∧ expected = batch.rows after.1.progress ∧
      actual = (after.2.2.1.grids.rows batch.tab).length ∧ actual ≠ expected := by
  have attempt : errand.isAttempt = true := by
    cases errand with
    | edit e => cases ran
    | _ => rfl
  have nobody : Trusts window (fun _ => False) state := fun _ member => member.elim
  obtain ⟨-, noMismatch⟩ | ⟨batch, unverified, -⟩ :=
    ((ends_of_eq ran).mp (Errand.run_trusts attempt nobody)).2 _ rfl
  · cases noMismatch
  · obtain ⟨_, uncounted, -⟩ | ⟨same, different⟩ := unverified.look
    · cases uncounted
    · cases same
      exact ⟨batch, rfl, unverified.pending, unverified.entered, rfl, rfl, different⟩

/-- Grids are verified so, for every builder, every screen and whatever the driver does. -/
theorem verification_of_attempts (window : PartnerWindow) (around : Surroundings σ)
    (state : Builder × List Deed × Screen × σ) : Verification window around state := by
  refine ⟨fun earlier last after all ran batch pending => ?_,
    fun errand tab actual expected after ran => Errand.mismatch_of_run ran,
    fun batch finished windows => ?_,
    fun record recorded idle => Builder.replay_idle recorded idle⟩
  · exact Batch.certified_or_missed all ran pending
  · obtain ⟨-, -, deeds, grown, avoided⟩ := Errand.runAll_avoids finished windows
    refine ⟨deeds, grown, fun member => ?_⟩
    obtain ⟨deed, done, selects⟩ := List.mem_filterMap.mp member
    exact avoided deed done selects

/-- A builder with one contact to enter, and its record, which shows another one already. -/
def crowded : Builder × List Deed × Screen × Unit :=
  ({ draft := { name := "Partner", contacts := [{ firstName := "First", lastName := "Last" }] }
     record := some ⟨"7"⟩ },
    [], { visited := some (123, ⟨"7"⟩), grids := { contacts := [[]] } }, ())

/-- A mismatch is not found again: the next replay ends well over the same grid. -/
theorem mismatch_found_once :
    let first := Builder.replay .sample Surroundings.calm.desk.recorded crowded
    let second := Builder.replay .sample Surroundings.calm.desk.recorded first.2
    first.1 = .error (.gridMismatch .contacts 2 1) ∧ second.1 = .ok () ∧
      second.2.1.draft = crowded.1.draft ∧
      (second.2.2.2.1.grids.rows .contacts).length ≠ second.2.1.progress.contactRows :=
  ⟨rfl, rfl, rfl, by decide⟩

end PartnerRecords
