import PartnerRecords.Proofs.Partner.Application
import PartnerRecords.Proofs.Partner.Entries

/-!
# Attempts

A draft is applied once and then replayed, until an attempt ends well. The grid of a batch is
looked at by the attempt that enters the last of its rows. If the look goes well, the attempts
after it, which visit the same record and enter rows of other tabs, leave the grid as it was seen.
-/

namespace PartnerRecords

open Act

variable {σ : Type} {around : Surroundings σ} {window : PartnerWindow} {d : Draft}

def Failure.isMismatch : Failure → Bool
  | .gridMismatch _ _ _ => true
  | _ => false

theorem Failure.isMismatch_of_isOfEntry {cause : Failure} (ofEntry : cause.isOfEntry = true) :
    cause.isMismatch = false := by
  cases cause <;> first | rfl | cases ofEntry

theorem Failure.isMismatch_of_isOfServer {cause : Failure} (ofServer : cause.isOfServer = true) :
    cause.isMismatch = false := by
  cases cause <;> first | rfl | cases ofServer

def Batch.Certified (batch : Batch) (p : Progress) (world : List Deed × Screen × σ) : Prop :=
  (world.2.1.grids.rows batch.tab).length = batch.rows p

/-- Rows of other tabs leave a grid as it was. -/
theorem Batch.Certified.count {batch : Batch} {p : Progress} {world after : List Deed × Screen × σ}
    {item : Item} (certified : batch.Certified p world) (other : item.tab ≠ batch.tab)
    (entered : item.Entered world.2.1 after.2.1) : batch.Certified (p.count item) after := by
  unfold Certified at certified ⊢
  rw [entered.grids, Grids.rows_push, if_neg (Ne.symm other), Batch.rows_count, if_neg other]
  exact certified

theorem Batch.Certified.of_sameRows {batch : Batch} {p : Progress}
    {world after : List Deed × Screen × σ} (certified : batch.Certified p world)
    (same : world.2.1.SameRows after.2.1) : batch.Certified p after := by
  unfold Certified at certified ⊢
  rw [same.1]
  exact certified

/-- The look at the grid of a batch has failed: the last pending row was entered, and then the
rows could not be counted, or are not as many as were entered. -/
structure Batch.Unverified (batch : Batch) (d : Draft) (start : Progress) (cause : Failure)
    (p : Progress) (world : List Deed × Screen × σ) : Prop where
  pending : ¬ batch.IsDone d start
  entered : batch.IsDone d p
  tab : world.2.1.tab = some batch.tab
  look : (∃ reason, cause = .screen reason ∧
      world.1.getLast? = some (.called .countRows (.error reason))) ∨
    cause = .gridMismatch batch.tab (world.2.1.grids.rows batch.tab).length (batch.rows p) ∧
      (world.2.1.grids.rows batch.tab).length ≠ batch.rows p

/-- What an attempt keeps of the batches that are watched: the grids of those that are done are
certified. -/
structure Watch (watched : Batch → Prop) (visited : Option (Nat × RecordId)) (d : Draft)
    (start p : Progress) (world : List Deed × Screen × σ) : Prop where
  visited : world.2.1.visited = visited
  onward : ∀ batch : Batch, batch.IsDone d start → batch.IsDone d p
  certified : ∀ batch, watched batch → batch.IsDone d p → batch.Certified p world

/-- Where an attempt may stop: at a failure to enter a row, or after a look that has failed. The
grid of that look is not certified, and those of the others are as they were. -/
def Stopped (watched : Batch → Prop) (visited : Option (Nat × RecordId)) (d : Draft)
    (start : Progress) (cause : Failure) (p : Progress) (world : List Deed × Screen × σ) : Prop :=
  Watch watched visited d start p world ∧ cause.isMismatch = false ∨
    ∃ batch : Batch, batch.Unverified d start cause p world ∧
      Watch (fun other => watched other ∧ other ≠ batch) visited d start p world

namespace Watch

variable {watched others : Batch → Prop} {visited : Option (Nat × RecordId)} {start p : Progress}
variable {world after : List Deed × Screen × σ} {item : Item}

theorem weaken (watch : Watch watched visited d start p world)
    (fewer : ∀ batch, others batch → watched batch) : Watch others visited d start p world :=
  ⟨watch.visited, watch.onward, fun batch other => watch.certified batch (fewer batch other)⟩

/-- One more row, of a tab that is not watched. -/
theorem count (watch : Watch watched visited d start p world)
    (apart : ∀ batch, watched batch → item.tab ≠ batch.tab)
    (entered : item.Entered world.2.1 after.2.1) :
    Watch watched visited d start (p.count item) after := by
  refine ⟨entered.visited.trans watch.visited,
    fun batch finished => (watch.onward batch finished).count item, fun batch member done => ?_⟩
  have other := apart batch member
  have before : batch.IsDone d p := by
    unfold Batch.IsDone at done ⊢
    rw [Batch.entered_count, if_neg other] at done
    exact done
  exact (watch.certified batch member before).count other entered

/-- An entry that fails belongs to a batch that is not done. -/
theorem abandon (watch : Watch others visited d start p world) (next : item.IsNext d p)
    (apart : ∀ batch, watched batch → item.tab ≠ batch.tab → others batch)
    (abandoned : item.Abandoned around world.2.1 after.2.1) :
    Watch watched visited d start p after := by
  refine ⟨?_, watch.onward, fun batch member done => ?_⟩
  · obtain kept | ⟨-, entered⟩ := abandoned
    · exact kept.2.trans watch.visited
    · exact entered.visited.trans watch.visited
  · have other : item.tab ≠ batch.tab := done.tab_ne next
    have certified := watch.certified batch (apart batch member other) done
    unfold Batch.Certified at certified ⊢
    obtain kept | ⟨-, entered⟩ := abandoned
    · rw [kept.1]
      exact certified
    · rw [entered.grids, Grids.rows_push, if_neg (Ne.symm other)]
      exact certified

theorem of_sameRows (watch : Watch watched visited d start p world)
    (same : world.2.1.SameRows after.2.1) : Watch watched visited d start p after :=
  ⟨same.2.trans watch.visited, watch.onward,
    fun batch member done => (watch.certified batch member done).of_sameRows same⟩

end Watch

/-- An entry leaves what was described, and fails of nothing but itself. -/
theorem Item.enter_stops (item : Item) (world : List Deed × Screen × σ) :
    (item.enter around.desk.recorded).Ends world
      (fun _ after => item.Entered world.2.1 after.2.1)
      fun cause after => item.Abandoned around world.2.1 after.2.1 ∧
        cause.isMismatch = false := by
  have keeps : (item.enter around.desk.recorded).Keeps (fun cause => cause.isOfEntry = true)
    fun _ => True := enter_keeps around.desk.recorded.keeps_trivial fun _ _ => trivial
  refine (item.enter_ends.and (keeps world trivial)).mono ?_ ?_
  · exact fun _ _ ends => ends.1.1
  · exact fun _ _ ends => ⟨ends.1.1, Failure.isMismatch_of_isOfEntry ends.2.1⟩

section Attempts

variable {watched : Batch → Prop} {visited : Option (Nat × RecordId)} {start p : Progress}
variable {world : List Deed × Screen × σ}

/-- A batch certifies its grid, or stops. While its rows are entered, the others are watched. -/
theorem Batch.run_watch (batch : Batch) (watch : Watch watched visited d start p world) :
    (batch.run around.desk.recorded d).Ends (p, world)
      (fun _ state => Watch watched visited d start state.1 state.2)
      fun cause state => Stopped watched visited d start cause state.1 state.2 := by
  by_cases finished : batch.IsDone d p
  · rw [ends_of_eq (Batch.run_idle finished)]
    exact ⟨fun _ _ => watch, fun _ failed => by cases failed⟩
  · have pending : ¬ batch.IsDone d start := mt (watch.onward batch) finished
    refine Batch.run_ends (Watch watched visited d start)
      (fun p world => Watch (fun other => watched other ∧ other ≠ batch) visited d start p world ∧
        world.2.1.tab = some batch.tab)
      (Watch watched visited d start) (Stopped watched visited d start) ?_ ?_
      (fun _ => watch) watch
    · intro item p world tab next kept
      have others : Watch (fun other => watched other ∧ other ≠ batch) visited d start p world :=
        kept.elim (fun all => all.weaken fun _ other => other.1) And.left
      refine (item.enter_stops world).mono ?_ ?_
      · intro _ after entered
        refine ⟨others.count (fun other member same => member.2 ?_) entered, ?_⟩
        · exact Batch.tab_injective (same.symm.trans tab)
        · rw [entered.tab, tab]
      · rintro cause after ⟨abandoned, noMismatch⟩
        refine .inl ⟨others.abandon next (fun other member apart => ⟨member, ?_⟩) abandoned,
          noMismatch⟩
        rintro rfl
        exact apart tab
    · rintro p ⟨log, s, rest⟩ done ⟨others, selected⟩
      refine (Item.expectRows_ends batch.tab (batch.rows p)).mono ?_ ?_
      · rintro _ after ⟨same, -, shown, tab, counted⟩
        obtain rfl : batch.tab = shown := Option.some.inj (selected.symm.trans tab)
        have seen := others.of_sameRows same
        refine ⟨seen.visited, seen.onward, fun other member finished => ?_⟩
        by_cases this : other = batch
        · rw [this]
          unfold Batch.Certified
          rw [same.1]
          exact counted
        · exact seen.certified other ⟨member, this⟩ finished
      · rintro cause after ⟨same, -, stays, look⟩
        refine .inr ⟨batch, ⟨pending, done, stays.trans selected, ?_⟩, others.of_sameRows same⟩
        rw [same.1]
        obtain uncounted | ⟨shown, tab, different, mismatch⟩ := look
        · exact .inl uncounted
        · obtain rfl : batch.tab = shown := Option.some.inj (selected.symm.trans tab)
          exact .inr ⟨mismatch, different⟩

theorem Entry.replay_watch (watch : Watch watched visited d start p world) :
    (Entry.replay around.desk.recorded d).Ends (p, world)
      (fun _ state => Watch watched visited d start state.1 state.2)
      fun cause state => Stopped watched visited d start cause state.1 state.2 := by
  rw [replay_eq, ends_bind]
  refine (Batch.locations.run_watch watch).mono (fun _ state watch => ?_) fun _ _ stopped => stopped
  rw [ends_bind]
  refine (Batch.contacts.run_watch watch).mono (fun _ state watch => ?_) fun _ _ stopped => stopped
  refine pendingBank_ends (Watch watched visited d start) (Stopped watched visited d start)
    (fun name next => ?_) fun _ => watch
  have apart : ∀ batch : Batch, (Item.bank name).tab ≠ batch.tab := by
    intro batch
    cases batch <;> nofun
  refine ((Item.bank name).enter_stops state.2).mono ?_ ?_
  · exact fun _ after entered => watch.count (fun batch _ => apart batch) entered
  · rintro cause after ⟨abandoned, noMismatch⟩
    exact .inl ⟨watch.abandon next (fun _ member _ => member) abandoned, noMismatch⟩

end Attempts

/-! ## Attempts -/

def Trusts (window : PartnerWindow) (watched : Batch → Prop)
    (state : Builder × List Deed × Screen × σ) : Prop :=
  ∀ batch, watched batch → batch.IsDone state.1.draft state.1.progress →
    batch.Certified state.1.progress state.2 ∧ ∃ record, state.1.record = some record ∧
      state.2.2.1.visited = some (window.layout.windowId, record)

def Halted (window : PartnerWindow) (watched : Batch → Prop) (b : Builder) (cause : Failure)
    (after : Builder × List Deed × Screen × σ) : Prop :=
  Trusts window watched after ∧ cause.isMismatch = false ∨
    ∃ batch : Batch, batch.Unverified b.draft b.progress cause after.1.progress after.2 ∧
      Trusts window (fun other => watched other ∧ other ≠ batch) after

section Attempts

variable {watched : Batch → Prop} {b : Builder} {world : List Deed × Screen × σ}

theorem Watch.trusts {record : RecordId} {start p : Progress} (recorded : b.record = some record)
    (watch : Watch watched (some (window.layout.windowId, record)) b.draft start p world) :
    Trusts window watched ({ b with progress := p }, world) :=
  fun batch member done => ⟨watch.certified batch member done, record, recorded, watch.visited⟩

theorem Stopped.halted {record : RecordId} {cause : Failure} {p : Progress}
    (recorded : b.record = some record) (stopped : Stopped watched
      (some (window.layout.windowId, record)) b.draft b.progress cause p world) :
    Halted window watched b cause ({ b with progress := p }, world) := by
  obtain ⟨watch, noMismatch⟩ | ⟨batch, unverified, watch⟩ := stopped
  · exact .inl ⟨watch.trusts recorded, noMismatch⟩
  · exact .inr ⟨batch, unverified, watch.trusts recorded⟩

namespace Trusts

variable {after : List Deed × Screen × σ}

/-- Without a record, no batch that is trusted is done. -/
theorem learn (trusts : Trusts window watched (b, world)) (unrecorded : b.record = none)
    (known : Option RecordId) : Trusts window watched ({ b with record := known }, after) := by
  intro batch member done
  obtain ⟨-, record, recorded, -⟩ := trusts batch member done
  rw [unrecorded] at recorded
  cases recorded

theorem of_sameRows (trusts : Trusts window watched (b, world))
    (same : world.2.1.SameRows after.2.1) : Trusts window watched (b, after) := by
  intro batch member done
  obtain ⟨certified, record, recorded, visited⟩ := trusts batch member done
  exact ⟨certified.of_sameRows same, record, recorded, same.2.trans visited⟩

/-- Opening the record of the builder keeps the grids that belong to it. -/
theorem reopen {record : RecordId} (trusts : Trusts window watched (b, world))
    (recorded : b.record = some record)
    (opened : world.2.1.Opened (window.layout.windowId, record) after.2.1) :
    Watch watched (some (window.layout.windowId, record)) b.draft b.progress b.progress after := by
  refine ⟨opened.1, fun _ => id, fun batch member done => ?_⟩
  obtain ⟨certified, known, same, visited⟩ := trusts batch member done
  obtain rfl : record = known := Option.some.inj (recorded.symm.trans same)
  unfold Batch.Certified at certified ⊢
  rw [opened.2, if_pos visited]
  exact certified

end Trusts

theorem Builder.replay_trusts (trusts : Trusts window watched (b, world)) :
    (replay window around.desk.recorded).Ends (b, world) (fun _ => Trusts window watched)
      (Halted window watched b) := by
  refine replay_ends (fun _ => .inl ⟨trusts, rfl⟩) (fun _ => trusts) fun record recorded => ?_
  refine (Surroundings.visit_ends window.layout.windowId record).mono ?_ ?_
  · rintro _ after ⟨opened, -⟩
    refine (Entry.replay_watch (trusts.reopen recorded opened)).mono ?_ ?_
    · exact fun _ _ watch => watch.trusts recorded
    · exact fun _ _ stopped => stopped.halted recorded
  · rintro cause after ⟨ofEntry, -, kept | ⟨-, opened⟩⟩
    · exact .inl ⟨trusts.of_sameRows kept, Failure.isMismatch_of_isOfEntry ofEntry⟩
    · exact .inl ⟨(trusts.reopen recorded opened).trusts recorded,
        Failure.isMismatch_of_isOfEntry ofEntry⟩

theorem Builder.apply_trusts (trusts : Trusts window watched (b, world)) :
    (apply window around.desk.recorded).Ends (b, world) (fun _ => Trusts window watched)
      (Halted window watched b) := by
  refine apply_ends (fun _ _ => .inl ⟨trusts, rfl⟩) fun unrecorded => ?_
  refine (persist_persisted unrecorded _).mono ?_ ?_
  · rintro record ⟨after, world'⟩ ⟨trace, known, -, -, same⟩
    obtain rfl : after = { b with record := known } := same
    exact replay_trusts (trusts.learn unrecorded known)
  · rintro cause ⟨after, world'⟩ ⟨trace, known, -, application, same⟩
    obtain rfl : after = { b with record := known } := same
    exact .inl ⟨trusts.learn unrecorded known,
      Failure.isMismatch_of_isOfServer application.isOfServer⟩

theorem Errand.run_trusts {errand : Errand} {state : Builder × List Deed × Screen × σ}
    (attempt : errand.isAttempt = true) (trusts : Trusts window watched state) :
    (errand.run window around.desk.recorded).Ends state (fun _ => Trusts window watched)
      (Halted window watched state.1) := by
  cases errand with
  | edit e => cases attempt
  | apply => exact run_apply_ends.mpr (Builder.apply_trusts trusts)
  | replay => exact Builder.replay_trusts trusts

end Attempts

def Batch.Missed (window : PartnerWindow) (around : Surroundings σ) (batch : Batch)
    (attempt : Errand) (state : Builder × List Deed × Screen × σ) : Prop :=
  ∃ cause after, attempt.run window around.desk.recorded state = (.error cause, after) ∧
    batch.Unverified state.1.draft state.1.progress cause after.1.progress after.2

def Batch.MissedAmong (window : PartnerWindow) (around : Surroundings σ) (batch : Batch)
    (attempts : List Errand) (state : Builder × List Deed × Screen × σ) : Prop :=
  ∃ before attempt later, attempts = before ++ attempt :: later ∧
    batch.Missed window around attempt
      (Errand.runAll around.desk.recorded (before.map (window, ·)) state)

theorem Batch.MissedAmong.after {batch : Batch} {state : Builder × List Deed × Screen × σ}
    {attempt : Errand} {rest : List Errand}
    (missed : batch.MissedAmong window around rest
      (attempt.run window around.desk.recorded state).2) :
    batch.MissedAmong window around (attempt :: rest) state := by
  obtain ⟨before, failed, later, rfl, missed⟩ := missed
  exact ⟨attempt :: before, failed, later, rfl, missed⟩

/-- A batch stays trusted from one attempt to the next until the look at its grid fails. -/
theorem Batch.trusted_or_missed {batch : Batch} {state : Builder × List Deed × Screen × σ}
    {attempts : List Errand} (all : ∀ errand ∈ attempts, errand.isAttempt = true)
    (trusts : Trusts window (· = batch) state) :
    Trusts window (· = batch)
        (Errand.runAll around.desk.recorded (attempts.map (window, ·)) state) ∨
      batch.MissedAmong window around attempts state := by
  induction attempts generalizing state with
  | nil => exact .inl trusts
  | cons attempt rest ih =>
      have others : ∀ errand ∈ rest, errand.isAttempt = true := fun errand member =>
        all errand (List.mem_cons_of_mem _ member)
      have first : Trusts window (· = batch) (attempt.run window around.desk.recorded state).2 ∨
          batch.Missed window around attempt state := by
        obtain ⟨⟨result, after⟩, ran⟩ :
            ∃ run, attempt.run window around.desk.recorded state = run := ⟨_, rfl⟩
        have ends := (ends_of_eq ran).mp
          (Errand.run_trusts (all attempt List.mem_cons_self) trusts)
        rw [ran]
        cases result with
        | ok value => exact .inl (ends.1 value rfl)
        | error cause =>
            obtain ⟨kept, -⟩ | ⟨other, unverified, kept⟩ := ends.2 cause rfl
            · exact .inl kept
            · by_cases same : other = batch
              · rw [same] at unverified
                exact .inr ⟨cause, after, ran, unverified⟩
              · refine .inl ?_
                rintro _ rfl
                exact kept _ ⟨rfl, Ne.symm same⟩
      obtain kept | missed := first
      · exact (ih others kept).imp_right .after
      · exact .inr ⟨[], attempt, rest, rfl, missed⟩

end PartnerRecords
