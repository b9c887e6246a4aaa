import PartnerRecords.Proofs.Partner.Book
import PartnerRecords.Proofs.Screen.Form
import PartnerRecords.Proofs.Screen.Surroundings

/-!
# Entries on a screen

An entry that succeeds has added the row of its item to the grid of its tab, and the book says
so. An entry that fails has added none, unless the answer to the last call was lost.
-/

namespace PartnerRecords

open Act

variable {σ : Type} {around : Surroundings σ} {log : List Deed} {s : Screen} {rest : σ}

structure Item.Entered (item : Item) (s after : Screen) : Prop where
  tab : after.tab = some item.tab
  visited : after.visited = s.visited
  grids : after.grids = s.grids.push item.tab item.row

def Item.Abandoned (around : Surroundings σ) (item : Item) (s after : Screen) : Prop :=
  s.SameRows after ∨ ¬ around.IsPrompt ∧ item.Entered s after

namespace Item

theorem Entered.of_sameRows {item : Item} {middle after : Screen}
    (entered : item.Entered middle after) (same : s.SameRows middle) : item.Entered s after := by
  obtain ⟨grids, visited⟩ := same
  refine ⟨entered.tab, ?_, ?_⟩
  · rw [entered.visited, visited]
  · rw [entered.grids, grids]

theorem Abandoned.of_sameRows {item : Item} {middle after : Screen}
    (abandoned : item.Abandoned around middle after) (same : s.SameRows middle) :
    item.Abandoned around s after := by
  obtain kept | ⟨late, entered⟩ := abandoned
  · exact .inl (same.trans kept)
  · exact .inr ⟨late, entered.of_sameRows same⟩

/-- Calls of which none is refused are performed one after another. -/
theorem follow_ends {calls : List Call} (quiet : ∀ c ∈ calls, c.isQuiet = true) :
    (follow around.desk.recorded calls).Ends (log, s, rest)
      (fun _ state => s.follow calls = some state.2.1 ∧ Book.read state.1 = Book.read log)
      fun _ state => s.SameRows state.2.1 ∧ Book.read state.1 = Book.read log := by
  induction calls generalizing log s rest with
  | nil => exact ⟨rfl, rfl⟩
  | cons c calls ih =>
      have first : c.isQuiet = true := quiet c List.mem_cons_self
      have others : ∀ c ∈ calls, c.isQuiet = true := fun c member =>
        quiet c (List.mem_cons_of_mem _ member)
      rw [follow_cons, ends_bind]
      refine Surroundings.gesture_ends ?_ ?_
      · intro value middle rest performed
        have same : s.SameRows middle := by
          have kept := s.sameRows_call first
          rw [performed] at kept
          exact kept
        have unread : Book.read (log ++ [.called c (.ok value)]) = Book.read log := by
          rw [Book.read_append, Book.add_quiet first]
        refine (ih others).mono ?_ ?_
        · rintro _ state ⟨followed, read⟩
          exact ⟨Screen.follow_cons_eq_some.mpr ⟨value, middle, performed, followed⟩,
            read.trans unread⟩
        · rintro _ state ⟨kept, read⟩
          exact ⟨same.trans kept, read.trans unread⟩
      · intro cause after rest drives
        refine ⟨drives.sameRows first, ?_⟩
        rw [Book.read_append, Book.add_quiet first]

/-- Looking at a form changes nothing on the screen. -/
theorem check_ends (item : Item) :
    (item.check around.desk.recorded).Ends (log, s, rest)
      (fun _ state => state.2.1.tab = s.tab ∧ state.2.1.form = s.form ∧ s.SameRows state.2.1 ∧
        Book.read state.1 = Book.read log)
      fun _ state => s.SameRows state.2.1 ∧ Book.read state.1 = Book.read log := by
  cases item with
  | contact c => exact ⟨rfl, rfl, .refl s, rfl⟩
  | bank name => exact ⟨rfl, rfl, .refl s, rfl⟩
  | location l =>
      unfold check
      rw [ends_bind]
      refine Surroundings.gesture_ends ?_ ?_
      · intro summary after rest performed
        obtain ⟨_, -, -, rfl⟩ := Screen.call_addressSummary_eq_ok.mp performed
        have unread : Book.read (log ++ [.called (.addressSummary Field.locationAddress)
            (.ok summary)]) = Book.read log := by
          rw [Book.read_append, Book.add_quiet rfl]
        split
        · exact ⟨rfl, rfl, ⟨rfl, rfl⟩, unread⟩
        · exact ⟨⟨rfl, rfl⟩, unread⟩
      · intro cause after rest drives
        refine ⟨drives.sameRows rfl, ?_⟩
        rw [Book.read_append, Book.add_quiet rfl]

/-- Saving a filled form adds the row of its item. -/
theorem save_ends {item : Item} (tab : s.tab = some item.tab) (form : s.form = some item.row)
    (subject : (Book.read log).subject = some item) :
    (around.desk.recorded.gesture .pressDone).Ends (log, s, rest)
      (fun _ state => item.Entered s state.2.1 ∧
        Book.read state.1 = (Book.read log).enter item)
      fun _ state => item.Abandoned around s state.2.1 ∧ Book.read state.1 = Book.read log := by
  have entered : ∀ {value after}, s.call .pressDone = (.ok value, after) →
      item.Entered s after := by
    intro value after performed
    obtain ⟨-, shown, row, -, shows, holds, rfl⟩ := Screen.call_pressDone_eq_ok.mp performed
    rw [tab] at shows
    rw [form] at holds
    cases shows
    cases holds
    exact ⟨tab, rfl, rfl⟩
  refine Surroundings.gesture_ends ?_ ?_
  · intro value after rest performed
    refine ⟨entered performed, ?_⟩
    rw [Book.read_append]
    simp only [Book.add, subject, Option.elim]
  · intro cause after rest drives
    refine ⟨?_, ?_⟩
    · cases drives with
      | refused performed =>
          have same := s.sameRows_refused (c := .pressDone) nofun (by rw [performed])
          rw [performed] at same
          exact .inl same
      | withheld => exact .inl (.refl s)
      | lost late performed => exact .inr ⟨late, entered performed⟩
    · rw [Book.read_append, Book.add_refused]

/-- Filling the form of an item, on any screen. Nothing is saved. -/
theorem fill_ends (item : Item) :
    (item.fill around.desk.recorded).Ends (log, s, rest)
      (fun _ state => item.Filled s state.2.1 ∧ Book.read state.1 = (Book.read log).about item)
      fun _ state => s.SameRows state.2.1 ∧
        Book.read state.1 = (Book.read log).about item := by
  have announced : Book.read (log ++ [.noted item.event]) = (Book.read log).about item := by
    rw [Book.read_append, Book.add_noted, Book.hear_event]
  unfold fill
  rw [ends_bind, Desk.ends_report, ends_bind]
  refine (follow_ends item.form_quiet).mono ?_ ?_
  · rintro _ ⟨log₁, s₁, rest₁⟩ ⟨followed, read⟩
    have filled := filled_of_follow followed
    refine item.check_ends.mono ?_ ?_
    · rintro _ ⟨log₂, s₂, rest₂⟩ ⟨tab, form, same, reread⟩
      exact ⟨⟨tab.trans filled.tab, form.trans filled.form, filled.sameRows.trans same⟩,
        reread.trans (read.trans announced)⟩
    · rintro _ ⟨log₂, s₂, rest₂⟩ ⟨same, reread⟩
      exact ⟨filled.sameRows.trans same, reread.trans (read.trans announced)⟩
  · rintro _ ⟨log₁, s₁, rest₁⟩ ⟨same, read⟩
    exact ⟨same, read.trans announced⟩

/-- The entry of an item, on any screen. -/
theorem enter_ends (item : Item) :
    (item.enter around.desk.recorded).Ends (log, s, rest)
      (fun _ state => item.Entered s state.2.1 ∧
        Book.read state.1 = (Book.read log).enter item)
      fun _ state => item.Abandoned around s state.2.1 ∧
        Book.read state.1 = (Book.read log).about item := by
  rw [enter_eq_fill, ends_bind]
  refine item.fill_ends.mono ?_ ?_
  · rintro _ ⟨log₁, s₁, rest₁⟩ ⟨filled, begun⟩
    refine (save_ends filled.tab filled.form ?_).mono ?_ ?_
    · rw [begun]
      rfl
    · rintro _ ⟨log₂, s₂, rest₂⟩ ⟨entered, saved⟩
      refine ⟨entered.of_sameRows filled.sameRows, ?_⟩
      rw [saved, begun]
      rfl
    · rintro _ ⟨log₂, s₂, rest₂⟩ ⟨abandoned, unsaved⟩
      exact ⟨abandoned.of_sameRows filled.sameRows, unsaved.trans begun⟩
  · rintro _ ⟨log₁, s₁, rest₁⟩ ⟨same, read⟩
    exact ⟨.inl same, read⟩

/-- Counting rows changes none of them, and what is counted is the grid of the selected tab. -/
theorem expectRows_ends (tab : DetailTab) (rows : Nat) :
    (Entry.expectRows around.desk.recorded tab rows).Ends (log, s, rest)
      (fun _ state => s.SameRows state.2.1 ∧ Book.read state.1 = Book.read log ∧
        ∃ shown, s.tab = some shown ∧ (s.grids.rows shown).length = rows)
      fun cause state => s.SameRows state.2.1 ∧ Book.read state.1 = Book.read log ∧
        state.2.1.tab = s.tab ∧
          ((∃ reason, cause = .screen reason ∧
              state.1.getLast? = some (.called .countRows (.error reason))) ∨
            ∃ shown, s.tab = some shown ∧ (s.grids.rows shown).length ≠ rows ∧
              cause = .gridMismatch tab (s.grids.rows shown).length rows) := by
  have unread : ∀ answer, Book.read (log ++ [.called .countRows answer]) = Book.read log := by
    intro answer
    rw [Book.read_append, Book.add_quiet rfl]
  unfold Entry.expectRows
  rw [ends_bind]
  refine Surroundings.gesture_ends ?_ ?_
  · intro actual after rest performed
    obtain ⟨shown, -, selected, rfl, rfl⟩ := Screen.call_countRows_eq_ok.mp performed
    split
    · next equal => exact ⟨⟨rfl, rfl⟩, unread _, shown, selected, equal⟩
    · next different =>
        exact ⟨⟨rfl, rfl⟩, unread _, rfl, .inr ⟨shown, selected, different, rfl⟩⟩
  · intro cause after rest drives
    exact ⟨drives.sameRows rfl, unread _, drives.tab_eq,
      .inl ⟨cause, rfl, List.getLast?_concat⟩⟩

end Item

def Screen.Opened (s : Screen) (shown : Nat × RecordId) (after : Screen) : Prop :=
  after.visited = some shown ∧ after.grids = if s.visited = some shown then s.grids else {}

theorem Surroundings.visit_ends (window : Nat) (record : RecordId) :
    (around.desk.recorded.gesture (.visitWindow window record)).Ends (log, s, rest)
      (fun _ state => s.Opened (window, record) state.2.1 ∧ Book.read state.1 = Book.read log)
      fun cause state => cause.isOfEntry = true ∧ Book.read state.1 = Book.read log ∧
        (s.SameRows state.2.1 ∨
          ¬ around.IsPrompt ∧ s.Opened (window, record) state.2.1) := by
  refine Surroundings.gesture_ends ?_ ?_
  · intro value after rest performed
    cases performed
    exact ⟨⟨rfl, rfl⟩, by rw [Book.read_append]; rfl⟩
  · intro cause after rest drives
    refine ⟨rfl, by rw [Book.read_append, Book.add_refused], ?_⟩
    cases drives with
    | refused performed => cases performed
    | withheld => exact .inl (.refl s)
    | lost late performed =>
        cases performed
        exact .inr ⟨late, rfl, rfl⟩

end PartnerRecords
