import PartnerRecords.Proofs.Partner.Application
import PartnerRecords.Proofs.Partner.Entries

/-!
# Ledgers

A screen that only one builder drives, always in one window, shows what the book of its deeds
says, and the counters of the builder agree with both. This holds after every errand, whatever
the server answers and wherever the driver lets a call lapse, as long as no answer is lost.
-/

namespace PartnerRecords

open Act

variable {σ : Type} {around : Surroundings σ} {window : PartnerWindow}

def Builder.ShownBy (window : PartnerWindow) (b : Builder) (s : Screen) : Prop :=
  (s.visited = none ∧ s.grids = {}) ∨
    ∃ record, b.record = some record ∧ s.visited = some (window.layout.windowId, record)

/-- A builder, its deeds and its screen, in agreement. -/
structure Ledger (window : PartnerWindow) (state : Builder × List Deed × Screen × σ) : Prop where
  tally : Tally state.1.draft state.1.progress (Book.read state.2.1) state.2.2.1.grids
  shown : state.1.ShownBy window state.2.2.1

/-! ## The server's part -/

section Dialogue

variable {start after : List Deed × Screen × σ} {trace : Exchanges}

theorem Desk.Dialogue.read_eq {ω : Type} {desk : Desk ω} {start after : List Deed × ω}
    (dialogue : desk.Dialogue start trace after) : Book.read after.1 = Book.read start.1 := by
  induction dialogue with
  | silence => rfl
  | reported request _ ih =>
      rw [Book.read_append]
      exact ih
  | replied request _ ih =>
      rw [Book.read_append]
      exact ih

theorem Desk.Dialogue.screen_eq (dialogue : around.desk.Dialogue start trace after) :
    after.2.1 = start.2.1 := by
  induction dialogue with
  | silence => rfl
  | reported request _ ih => exact ih
  | replied request _ ih => exact ih

end Dialogue

/-! ## The screen's part -/

/-- Visiting the record of the builder opens it and keeps the rows that are shown. -/
theorem Builder.ShownBy.visit_ends (prompt : around.IsPrompt) {b : Builder} {log : List Deed}
    {s : Screen} {rest : σ} {record : RecordId} (shown : b.ShownBy window s)
    (recorded : b.record = some record) :
    (around.desk.recorded.gesture (.visitWindow window.layout.windowId record)).Ends
      (log, s, rest)
      (fun _ state => state.2.1.grids = s.grids ∧
        state.2.1.visited = some (window.layout.windowId, record) ∧
        Book.read state.1 = Book.read log)
      fun _ state => s.SameRows state.2.1 ∧ Book.read state.1 = Book.read log := by
  refine (Surroundings.visit_ends window.layout.windowId record).mono ?_ ?_
  · rintro _ ⟨log', s', rest'⟩ ⟨⟨visited, grids⟩, read⟩
    refine ⟨?_, visited, read⟩
    rw [grids]
    obtain ⟨nothing, empty⟩ | ⟨known, same, visited⟩ := shown
    · rw [nothing]
      exact empty.symm
    · obtain rfl : record = known := Option.some.inj (recorded.symm.trans same)
      exact if_pos visited
  · rintro cause ⟨log', s', rest'⟩ ⟨-, read, kept | ⟨late, -⟩⟩
    · exact ⟨kept, read⟩
    · exact absurd prompt late

def Agrees (d : Draft) (visited : Option (Nat × RecordId)) (p : Progress)
    (world : List Deed × Screen × σ) : Prop :=
  Tally d p (Book.read world.1) world.2.1.grids ∧ world.2.1.visited = visited

theorem Entry.replay_agrees (prompt : around.IsPrompt) {d : Draft} {p : Progress}
    {visited : Option (Nat × RecordId)} {world : List Deed × Screen × σ}
    (agrees : Agrees d visited p world) :
    (Entry.replay around.desk.recorded d).Ends (p, world)
      (fun _ state => Agrees d visited state.1 state.2)
      fun _ state => Agrees d visited state.1 state.2 := by
  refine Entry.replay_ends (Agrees d visited) (fun _ => Agrees d visited) ?_ ?_ agrees
  · rintro item p ⟨log, s, rest⟩ next ⟨tally, visiting⟩
    refine item.enter_ends.mono ?_ ?_
    · rintro _ state ⟨entered, read⟩
      unfold Agrees
      rw [entered.grids, entered.visited, read]
      exact ⟨tally.count next, visiting⟩
    · rintro _ state ⟨⟨grids, kept⟩ | ⟨late, -⟩, read⟩
      · unfold Agrees
        rw [grids, kept, read]
        exact ⟨tally.about item, visiting⟩
      · exact absurd prompt late
  · rintro batch p ⟨log, s, rest⟩ - ⟨tally, visiting⟩
    refine (Item.expectRows_ends batch.tab (batch.rows p)).mono ?_ ?_
    · rintro _ state ⟨⟨grids, kept⟩, read, -⟩
      unfold Agrees
      rw [grids, kept, read]
      exact ⟨tally, visiting⟩
    · rintro _ state ⟨⟨grids, kept⟩, read, -⟩
      unfold Agrees
      rw [grids, kept, read]
      exact ⟨tally, visiting⟩

namespace Ledger

variable {state : Builder × List Deed × Screen × σ}

theorem replay (prompt : around.IsPrompt) (ledger : Ledger window state) :
    (Builder.replay window around.desk.recorded).Ends state
      (fun _ => Ledger window) fun _ => Ledger window := by
  obtain ⟨b, log, s, rest⟩ := state
  obtain ⟨tally, shown⟩ := ledger
  refine Builder.replay_ends (fun _ => ⟨tally, shown⟩) (fun _ => ⟨tally, shown⟩)
    fun record recorded => ?_
  refine (Builder.ShownBy.visit_ends prompt shown recorded).mono ?_ ?_
  · rintro _ ⟨log', s', rest'⟩ ⟨grids, visited, read⟩
    have agrees : Agrees b.draft (some (window.layout.windowId, record)) b.progress
        (log', s', rest') := by
      refine ⟨?_, visited⟩
      rw [read, grids, Book.read_append]
      exact tally
    refine (Entry.replay_agrees prompt agrees).mono ?_ ?_
    · rintro _ after ⟨tally, visited⟩
      exact ⟨tally, .inr ⟨record, recorded, visited⟩⟩
    · rintro _ after ⟨tally, visited⟩
      exact ⟨tally, .inr ⟨record, recorded, visited⟩⟩
  · rintro _ ⟨log', s', rest'⟩ ⟨⟨grids, visited⟩, read⟩
    refine ⟨?_, ?_⟩
    · dsimp only
      rw [read, grids, Book.read_append]
      exact tally
    · unfold Builder.ShownBy
      rw [visited, grids]
      exact shown

theorem apply (prompt : around.IsPrompt) (ledger : Ledger window state) :
    (Builder.apply window around.desk.recorded).Ends state
      (fun _ => Ledger window) fun _ => Ledger window := by
  obtain ⟨b, log, s, rest⟩ := state
  refine Builder.apply_ends (fun _ _ => ledger) fun unrecorded => ?_
  have persisted : ∀ {result state}, b.Persisted window around.desk
      (around.desk.recorded.note (.applyStarted b.draft.name) (log, s, rest)) result state →
      Ledger window state := by
    rintro result ⟨after, log', s', rest'⟩ ⟨trace, known, dialogue, -, same⟩
    obtain rfl : after = { b with record := known } := same
    have read : Book.read log' = Book.read log := by
      rw [dialogue.read_eq]
      exact Book.read_append log _
    obtain rfl : s' = s := dialogue.screen_eq
    have nothing : s'.visited = none ∧ s'.grids = {} := by
      obtain nothing | ⟨record, known, -⟩ := ledger.shown
      · exact nothing
      · rw [unrecorded] at known
        cases known
    refine ⟨?_, .inl nothing⟩
    dsimp only
    rw [read]
    exact ledger.tally
  refine (Builder.persist_persisted unrecorded _).mono ?_ ?_
  · rintro record ⟨after, log', s', rest'⟩ kept
    have ledger := persisted kept
    refine replay prompt ⟨?_, ledger.shown⟩
    change Tally _ _ (Book.read (log' ++ _)) _
    rw [Book.read_append]
    exact ledger.tally
  · exact fun _ _ kept => persisted kept

theorem edit (ledger : Ledger window state) (e : Edit) :
    ((Errand.edit e).run window around.desk.recorded).Ends state
      (fun _ => Ledger window) fun _ => Ledger window := by
  obtain ⟨b, log, s, rest⟩ := state
  obtain ⟨tally, shown⟩ := ledger
  rw [Errand.run_edit_ends]
  refine ⟨?_, shown⟩
  have read : Book.read (log ++ [.noted (.edited e)]) = (Book.read log).hear (.edited e) :=
    Book.read_append log _
  change Tally (e.draft b.draft) (e.progress b.progress) (Book.read (log ++ _)) s.grids
  rw [read]
  exact tally.edit e

/-- Every errand keeps the ledger. -/
theorem errand (prompt : around.IsPrompt) (ledger : Ledger window state) (errand : Errand) :
    (errand.run window around.desk.recorded).Ends state
      (fun _ => Ledger window) fun _ => Ledger window := by
  cases errand with
  | edit e => exact ledger.edit e
  | apply => exact Errand.run_apply_ends.mpr (ledger.apply prompt)
  | replay => exact ledger.replay prompt

end Ledger

/-- After any errands of a builder that is alone with its screen, failed or not, the grids hold
the rows of the items that were entered, in order, and as many as the builder has counted; no
bank account follows an equal one, and the last one is that of the last bank entered; and the
items entered since a queue was cleared are the first of the queue, as many as are counted as
entered. -/
theorem grids_of_errands (window : PartnerWindow) (around : Surroundings σ)
    (prompt : around.IsPrompt) (draft : Draft) (options : Dict (List String)) (rest : σ)
    (errands : List Errand) :
    let state := Errand.runAll around.desk.recorded (errands.map (window, ·))
      ({ draft }, [], { options }, rest)
    let book := Book.read state.2.1
    Tally state.1.draft state.1.progress book state.2.2.1.grids ∧
      ∀ batch : Batch, (state.2.2.1.grids.rows batch.tab).length = batch.rows state.1.progress ∧
        (book.freshOn batch.tab).length = batch.entered state.1.progress := by
  have ledger : Ledger window (Errand.runAll around.desk.recorded (errands.map (window, ·))
      ({ draft }, [], { options }, rest)) := by
    refine Errand.runAll_keeps (Ledger window) ?_ ⟨Tally.start draft, .inl ⟨rfl, rfl⟩⟩
    intro task member state ledger
    obtain ⟨errand, -, rfl⟩ := List.mem_map.mp member
    exact ledger.errand prompt errand
  have tally := ledger.tally
  exact ⟨tally, fun batch => ⟨tally.length_rows batch, tally.length_fresh batch⟩⟩

/-- Surroundings that answer every request with one document, and in which the fifth call does
not reach the screen. -/
def Surroundings.faltering : Surroundings Nat where
  exchange _ world := (.answered 200 (some "\x7b\"id\":\"7\"\x7d".toUTF8), world.2)
  lapse _ world := (if world.2 = 4 then some (.withheld (.driver "busy")) else none, world.2 + 1)
  note _ world := world.2
  readOrder _ := .inTurn

theorem Surroundings.faltering_isPrompt : faltering.IsPrompt := by
  intro c world cause
  unfold faltering
  dsimp only
  split <;> nofun

/-- The same of a contact whose form is left half filled, and is entered by the next attempt. -/
theorem grids_of_errands_faltering :
    Surroundings.faltering.IsPrompt ∧
      let errands : List Errand :=
        [.edit (.addContact { firstName := "First", lastName := "Last" }), .apply, .replay]
      let state := Errand.runAll Surroundings.faltering.desk.recorded
        (errands.map (.sample, ·)) ({ draft := { name := "Partner" } }, [], {}, 0)
      Tally state.1.draft state.1.progress (Book.read state.2.1) state.2.2.1.grids ∧
        (state.2.2.1.grids.rows .contacts).length = 1 :=
  ⟨Surroundings.faltering_isPrompt,
    (grids_of_errands .sample Surroundings.faltering Surroundings.faltering_isPrompt
      { name := "Partner" } [] 0
      [.edit (.addContact { firstName := "First", lastName := "Last" }), .apply, .replay]).1,
    by decide +kernel⟩

end PartnerRecords
