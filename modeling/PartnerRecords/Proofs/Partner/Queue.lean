import Mathlib.Data.List.Perm.Subperm
import PartnerRecords.Proofs.Partner.Application
import PartnerRecords.Proofs.Partner.Entries
import PartnerRecords.Proofs.Screen.Minutes

/-!
# Queued items

An item counts as entered once the screen has acknowledged that it is saved, and that happens to
it at most as often as it was queued. Its row can be on the screen more often than that only if the
answer to a save was lost: then the item is still pending, and the next attempt enters it again.
-/

namespace PartnerRecords

open Act
open scoped List

/-! ## What is queued and what is pending -/

namespace Batch

def pending (d : Draft) (p : Progress) (batch : Batch) : List Item :=
  (batch.queue d).drop (batch.entered p)

theorem pending_eq_nil_iff {d : Draft} {p : Progress} {batch : Batch} :
    batch.pending d p = [] ↔ batch.IsDone d p :=
  List.drop_eq_nil_iff

end Batch

namespace Draft

def items (d : Draft) : List Item :=
  Batch.locations.queue d ++ Batch.contacts.queue d ++ (d.bank.map Item.bank).toList

def pendingBank (d : Draft) (p : Progress) : List Item :=
  ((d.bank.filter fun name => p.bank ≠ some name).map Item.bank).toList

def pending (d : Draft) (p : Progress) : List Item :=
  Batch.locations.pending d p ++ Batch.contacts.pending d p ++ d.pendingBank p

theorem pendingBank_eq_nil_iff {d : Draft} {p : Progress} :
    d.pendingBank p = [] ↔ d.bank = none ∨ d.bank = p.bank := by
  unfold pendingBank
  cases d.bank with
  | none => simp
  | some name => simpa using eq_comm

/-- Something is pending if and only if there are items that have not been entered. -/
theorem pending_eq_nil_iff {d : Draft} {p : Progress} :
    d.pending p = [] ↔ p.hasPending d = false := by
  have batches : (∀ batch : Batch, batch.IsDone d p) ↔
      Batch.locations.IsDone d p ∧ Batch.contacts.IsDone d p :=
    ⟨fun all => ⟨all .locations, all .contacts⟩, fun both batch => by
      cases batch with
      | locations => exact both.1
      | contacts => exact both.2⟩
  simp only [pending, List.append_eq_nil_iff, Batch.pending_eq_nil_iff, pendingBank_eq_nil_iff,
    Batch.hasPending_eq_false, batches]

theorem pending_sublist_items (d : Draft) (p : Progress) : d.pending p <+ d.items := by
  unfold pending items
  refine List.Sublist.append (.append (List.drop_sublist _ _) (List.drop_sublist _ _)) ?_
  unfold pendingBank
  cases d.bank with
  | none => exact List.nil_sublist _
  | some name =>
      rw [Option.filter_some]
      split
      · exact List.Sublist.refl _
      · exact List.nil_sublist _

end Draft

def Edit.queued : Edit → List Item
  | .addLocation l => [.location l]
  | .addContact c => [.contact c]
  | .setBank name => [.bank name]
  | _ => []

def Errand.queued : Errand → List Item
  | .edit e => e.queued
  | _ => []

/-- What is pending of a longer queue. -/
theorem Batch.pending_sublist_of_append {d later : Draft} {p : Progress} {batch : Batch}
    {added : List Item} (longer : batch.queue later = batch.queue d ++ added) :
    batch.pending later p <+ batch.pending d p ++ added := by
  unfold pending
  rw [longer, List.drop_append]
  exact (List.Sublist.refl _).append (List.drop_sublist _ _)

/-- The next item of a batch is the first of those that are pending. -/
theorem Batch.pending_of_next {d : Draft} {p : Progress} {batch : Batch} {item : Item}
    (next : item.IsNext d p) (tab : item.tab = batch.tab) :
    batch.pending d p = item :: batch.pending d (p.count item) := by
  have here := getElem?_entered next tab
  obtain ⟨within, found⟩ := List.getElem?_eq_some_iff.mp here
  unfold pending
  rw [entered_count, if_pos tab, List.drop_eq_getElem_cons within, found]

/-- What is pending after an edit was pending before it or is queued by it. -/
theorem Edit.pending_subperm (e : Edit) (d : Draft) (p : Progress) :
    (e.draft d).pending (e.progress p) <+~ d.pending p ++ e.queued := by
  -- What is added to a queue in front may as well stand at the end.
  have moved : ∀ front added back : List Item,
      front ++ (added ++ back) ~ front ++ (back ++ added) :=
    fun front _ _ => List.perm_append_comm.append_left front
  have fewer : ∀ {pending : List Item}, pending <+ d.pending p → pending <+~ d.pending p ++ [] := by
    intro pending sublist
    rw [List.append_nil]
    exact sublist.subperm
  cases e with
  | addLocation l =>
      have locations : Batch.locations.pending ((addLocation l).draft d) p <+
          Batch.locations.pending d p ++ [.location l] :=
        Batch.pending_sublist_of_append List.map_append
      have longer : ((addLocation l).draft d).pending p <+
          (Batch.locations.pending d p ++ [.location l]) ++ Batch.contacts.pending d p ++
            d.pendingBank p := (locations.append (.refl _)).append (.refl _)
      refine longer.subperm.trans ?_
      simpa only [Draft.pending, queued, List.append_assoc] using (moved
        (Batch.locations.pending d p) [.location l]
        (Batch.contacts.pending d p ++ d.pendingBank p)).subperm
  | addContact c =>
      have contacts : Batch.contacts.pending ((addContact c).draft d) p <+
          Batch.contacts.pending d p ++ [.contact c] :=
        Batch.pending_sublist_of_append List.map_append
      have longer : ((addContact c).draft d).pending p <+
          Batch.locations.pending d p ++ (Batch.contacts.pending d p ++ [.contact c]) ++
            d.pendingBank p := (contacts.append_left _).append (.refl _)
      refine longer.subperm.trans ?_
      simpa only [Draft.pending, queued, List.append_assoc] using (moved
        (Batch.locations.pending d p ++ Batch.contacts.pending d p) [.contact c]
        (d.pendingBank p)).subperm
  | setBank name =>
      have bank : ((setBank name).draft d).pendingBank p <+ [.bank name] := by
        change ((Option.filter (fun other => p.bank ≠ some other) (some name)).map _).toList <+ _
        rw [Option.filter_some]
        split
        · exact List.Sublist.refl _
        · exact List.nil_sublist _
      have longer : ((setBank name).draft d).pending p <+
          Batch.locations.pending d p ++ Batch.contacts.pending d p ++
            (d.pendingBank p ++ [.bank name]) :=
        (List.Sublist.refl _).append (bank.trans (List.sublist_append_right _ _))
      rw [← List.append_assoc] at longer
      exact longer.subperm
  | clearLocations =>
      have locations : Batch.locations.pending (clearLocations.draft d) p.resetLocations <+
          Batch.locations.pending d p := List.nil_sublist _
      exact fewer ((locations.append (.refl _)).append (.refl _))
  | clearContacts =>
      have contacts : Batch.contacts.pending (clearContacts.draft d) p.resetContacts <+
          Batch.contacts.pending d p := List.nil_sublist _
      exact fewer ((contacts.append_left _).append (.refl _))
  | _ => exact fewer (.refl _)

/-- The next item is pending until it is counted. -/
theorem Item.IsNext.pending_perm {item : Item} {d : Draft} {p : Progress} (next : item.IsNext d p) :
    d.pending p ~ item :: d.pending (p.count item) := by
  unfold Draft.pending
  cases item with
  | location l =>
      have first : Batch.locations.pending d p = _ := Batch.pending_of_next next rfl
      rw [first]
      exact .refl _
  | contact c =>
      have first : Batch.contacts.pending d p = _ := Batch.pending_of_next next rfl
      rw [first, List.append_assoc, List.append_assoc]
      exact List.perm_middle
  | bank name =>
      obtain ⟨asked, other⟩ := next
      have bank : d.pendingBank p = [.bank name] := by
        unfold Draft.pendingBank
        rw [asked, Option.filter_some, if_pos (decide_eq_true other)]
        rfl
      have nothing : d.pendingBank (p.count (.bank name)) = [] := by
        unfold Draft.pendingBank
        rw [asked, Option.filter_some, if_neg (by simp [Progress.count, Progress.recordBank])]
        rfl
      rw [bank, nothing, List.append_nil]
      exact List.perm_append_singleton _ _

/-! ## Accounts -/

def Item.makes (tab : DetailTab) (row : GridRow) (item : Item) : Bool :=
  item.tab = tab ∧ item.row = row

variable {σ : Type} {around : Surroundings σ}

/-- Items are entered at most as often as they are queued, what is pending included, and every row
on the screen is accounted for: it was there before, belongs to an item that was entered, or is in
the minutes. -/
structure Accounted (around : Surroundings σ) (before : Grids) (queued : List Item) (d : Draft)
    (p : Progress) (world : List Deed × Screen × Minutes × σ) : Prop where
  queued : (Book.read world.1).entered ++ d.pending p <+~ queued
  rows : ∀ tab row, (world.2.1.grids.rows tab).count row ≤ (before.rows tab).count row +
    (Book.read world.1).entered.countP (Item.makes tab row) + world.2.2.1.count (tab, row)
  prompt : around.IsPrompt → world.2.2.1 = []

theorem Book.entered_hear (book : Book) (event : Event) :
    (book.hear event).entered = book.entered := by
  cases event with
  | edited e => cases e <;> rfl
  | _ => rfl

theorem Book.entered_called (book : Book) {c : Call} (other : c ≠ .pressDone)
    (answer : Except ScreenError c.Answer) :
    (book.add (.called c answer)).entered = book.entered := by
  cases c with
  | pressDone => exact absurd rfl other
  | _ => rfl

namespace Accounted

variable {before : Grids} {queued : List Item} {d : Draft} {p : Progress}
variable {log later : List Deed} {s after : Screen} {minutes lost : Minutes} {rest rest' : σ}

/-- Accounts are in order as long as no more rows come to the screen than the minutes tell. -/
theorem kept (accounted : Accounted around before queued d p (log, s, minutes, rest))
    (same : (Book.read later).entered = (Book.read log).entered)
    (mislays : around.Mislays s after lost) :
    Accounted around before queued d p (later, after, minutes ++ lost, rest') := by
  obtain ⟨rows, prompt⟩ := mislays
  refine ⟨?_, fun tab row => ?_, fun isPrompt => ?_⟩
  · rw [same]
    exact accounted.queued
  · have known := accounted.rows tab row
    have more := rows tab row
    dsimp only at known ⊢
    rw [same, List.count_append]
    omega
  · exact List.append_eq_nil_iff.mpr ⟨accounted.prompt isPrompt, prompt isPrompt⟩

theorem noted {world : List Deed × Screen × Minutes × σ}
    (accounted : Accounted around before queued d p world) (event : Event) :
    Accounted around before queued d p (around.minuted.desk.recorded.note event world) := by
  have same : (Book.read (world.1 ++ [.noted event])).entered = (Book.read world.1).entered := by
    rw [Book.read_append, Book.add_noted, Book.entered_hear]
  refine ⟨?_, ?_, accounted.prompt⟩
  · change (Book.read (world.1 ++ _)).entered ++ _ <+~ _
    rw [same]
    exact accounted.queued
  · change ∀ tab row, _ ≤ _ + (Book.read (world.1 ++ _)).entered.countP _ + _
    rw [same]
    exact accounted.rows

theorem called (accounted : Accounted around before queued d p (log, s, minutes, rest)) {c : Call}
    (other : c ≠ .pressDone) :
    (around.minuted.desk.recorded.gesture c).Ends (log, s, minutes, rest)
      (fun _ => Accounted around before queued d p)
      fun _ => Accounted around before queued d p := by
  have same : ∀ answer,
      (Book.read (log ++ [.called c answer])).entered = (Book.read log).entered := by
    intro answer
    rw [Book.read_append, Book.entered_called _ other]
  refine Surroundings.minuted_gesture_ends ?_ ?_
  · intro value after rest performed
    have rows := s.count_rows_call_le c
    rw [performed, Screen.saves_eq_nil other] at rows
    have answered : Accounted around before queued d p
        (log ++ [.called c (.ok value)], after, minutes ++ [], rest) :=
      accounted.kept (same (.ok value)) ⟨rows, fun _ => rfl⟩
    rwa [List.append_nil] at answered
  · exact fun cause after lost rest mislays => accounted.kept (same (.error cause)) mislays

/-- Saving the form of the next item enters it. -/
theorem saved (accounted : Accounted around before queued d p (log, s, minutes, rest))
    {item : Item} (next : item.IsNext d p) (tab : s.tab = some item.tab)
    (form : s.form = some item.row) (subject : (Book.read log).subject = some item) :
    (around.minuted.desk.recorded.gesture .pressDone).Ends (log, s, minutes, rest)
      (fun _ => Accounted around before queued d (p.count item))
      fun _ => Accounted around before queued d p := by
  refine Surroundings.minuted_gesture_ends ?_ ?_
  · intro value after rest performed
    have entered : (Book.read (log ++ [.called .pressDone (.ok value)])).entered =
        (Book.read log).entered ++ [item] := by
      rw [Book.read_append]
      simp only [Book.add, subject, Option.elim, Book.enter]
    refine ⟨?_, fun other row => ?_, accounted.prompt⟩
    · rw [entered, List.append_assoc]
      exact (next.pending_perm.symm.append_left _).subperm.trans accounted.queued
    · have known := accounted.rows other row
      have rows := s.count_rows_call_le .pressDone other row
      rw [performed, Screen.saves_pressDone performed tab form] at rows
      dsimp only at known rows ⊢
      rw [entered, List.countP_append]
      have made : [(item.tab, item.row)].count (other, row) =
          [item].countP (Item.makes other row) := by
        simp [Item.makes, List.count_singleton]
      omega
  · intro cause after lost rest mislays
    refine accounted.kept ?_ mislays
    rw [Book.read_append, Book.add_refused]

theorem keeps : around.minuted.desk.recorded.Keeps (· ≠ .pressDone)
    (Accounted around before queued d p) where
  call _ other _ accounted := (Desk.ends_gesture.mp (accounted.called other)).afterwards
  note event _ accounted := accounted.noted event

theorem entered (accounted : Accounted around before queued d p (log, s, minutes, rest))
    {item : Item} (next : item.IsNext d p) :
    (item.enter around.minuted.desk.recorded).Ends (log, s, minutes, rest)
      (fun _ => Accounted around before queued d (p.count item))
      fun _ => Accounted around before queued d p := by
  have unsaved : ∀ c ∈ item.form ++ item.looks, c ≠ .pressDone := by
    rintro c member rfl
    obtain inForm | inLooks := List.mem_append.mp member
    · cases item.form_quiet _ inForm
    · cases item.looks_quiet _ inLooks
  have filling : (item.fill around.minuted.desk.recorded).Keeps _
    (Accounted around before queued d p) := Item.fill_keeps keeps unsaved
  rw [Item.enter_eq_fill, ends_bind]
  refine (item.fill_ends.and (filling _ accounted)).mono ?_ ?_
  · rintro _ ⟨log₁, s₁, minutes₁, rest₁⟩ ⟨⟨filled, begun⟩, accounted⟩
    refine accounted.saved next filled.tab filled.form ?_
    rw [begun]
    rfl
  · exact fun _ _ failed => failed.2.2

/-- A replay keeps accounts in order, wherever it stops. -/
theorem replayed (accounted : Accounted around before queued d p (log, s, minutes, rest)) :
    (Entry.replay around.minuted.desk.recorded d).Ends (p, log, s, minutes, rest)
      (fun _ state => Accounted around before queued d state.1 state.2)
      fun _ state => Accounted around before queued d state.1 state.2 := by
  refine Entry.replay_ends (Accounted around before queued d)
    (fun _ => Accounted around before queued d) ?_ ?_ accounted
  · rintro item p ⟨log, s, minutes, rest⟩ next accounted
    exact accounted.entered next
  · intro batch p world _ accounted
    have checking : (Entry.expectRows around.minuted.desk.recorded batch.tab (batch.rows p)).Keeps
      _ (Accounted around before queued d p) := Item.expectRows_keeps keeps nofun
    exact (checking world accounted).mono (fun _ _ kept => kept) fun _ _ failed => failed.2

/-- A dialogue with the server leaves accounts as they are. -/
theorem dialogue {trace : Exchanges} {start state : List Deed × Screen × Minutes × σ}
    (accounted : Accounted around before queued d p start)
    (dialogue : around.minuted.desk.Dialogue start trace state) :
    Accounted around before queued d p state := by
  induction dialogue with
  | silence => exact accounted
  | reported request _ ih => exact ih.noted _
  | replied request _ ih =>
      refine ⟨?_, ?_, ih.prompt⟩
      · rw [Book.read_append]
        exact ih.queued
      · rw [Book.read_append]
        exact ih.rows

section Errands

variable {window : PartnerWindow} {b : Builder} {world : List Deed × Screen × Minutes × σ}

theorem replay (accounted : Accounted around before queued b.draft b.progress world) :
    (Builder.replay window around.minuted.desk.recorded).Ends (b, world)
      (fun _ state => Accounted around before queued state.1.draft state.1.progress state.2)
      fun _ state => Accounted around before queued state.1.draft state.1.progress state.2 := by
  refine Builder.replay_ends (fun _ => accounted) (fun _ => accounted) fun record _ => ?_
  have visit : Call.visitWindow window.layout.windowId record ≠ .pressDone := nofun
  exact ((accounted.noted _).called visit).mono (fun _ _ visited => visited.replayed)
    fun _ _ failed => failed

theorem apply (accounted : Accounted around before queued b.draft b.progress world) :
    (Builder.apply window around.minuted.desk.recorded).Ends (b, world)
      (fun _ state => Accounted around before queued state.1.draft state.1.progress state.2)
      fun _ state => Accounted around before queued state.1.draft state.1.progress state.2 := by
  refine Builder.apply_ends (fun _ _ => accounted) fun unrecorded => ?_
  refine (Builder.persist_persisted unrecorded _).mono ?_ ?_
  · rintro record ⟨after, world⟩ ⟨trace, known, dialogue, -, same⟩
    obtain rfl : after = { b with record := known } := same
    have persisted := (accounted.noted _).dialogue dialogue
    exact replay (persisted.noted _)
  · rintro cause ⟨after, world⟩ ⟨trace, known, dialogue, -, same⟩
    obtain rfl : after = { b with record := known } := same
    exact (accounted.noted _).dialogue dialogue

/-- An errand adds to the accounts what it queues. -/
theorem errand (accounted : Accounted around before queued b.draft b.progress world)
    (window : PartnerWindow) (errand : Errand) :
    (errand.run window around.minuted.desk.recorded).Ends (b, world)
      (fun _ state => Accounted around before (queued ++ errand.queued)
        state.1.draft state.1.progress state.2)
      fun _ state => Accounted around before (queued ++ errand.queued)
        state.1.draft state.1.progress state.2 := by
  cases errand with
  | edit e =>
      rw [Errand.run_edit_ends]
      have noted := accounted.noted (.edited e)
      refine ⟨?_, noted.rows, noted.prompt⟩
      refine ((List.subperm_append_left _).mpr (e.pending_subperm b.draft b.progress)).trans ?_
      rw [← List.append_assoc]
      exact (List.subperm_append_right _).mpr noted.queued
  | apply =>
      have nothing : queued ++ Errand.apply.queued = queued := List.append_nil _
      rw [Errand.run_apply_ends, nothing]
      exact accounted.apply
  | replay =>
      have nothing : queued ++ Errand.replay.queued = queued := List.append_nil _
      rw [nothing]
      exact accounted.replay

theorem errands (accounted : Accounted around before queued b.draft b.progress world)
    (tasks : List (PartnerWindow × Errand)) :
    let state := Errand.runAll around.minuted.desk.recorded tasks (b, world)
    Accounted around before (queued ++ tasks.flatMap fun task => task.2.queued)
      state.1.draft state.1.progress state.2 := by
  induction tasks generalizing b world queued with
  | nil =>
      rw [List.flatMap_nil, List.append_nil]
      exact accounted
  | cons task rest ih =>
      have first := (accounted.errand task.1 task.2).afterwards
      rw [List.flatMap_cons, ← List.append_assoc]
      exact ih first

end Errands

end Accounted

/-- Whatever is asked of a builder, whatever screen it starts on, and whichever calls its driver
lets lapse, before or after they are performed: an item is entered at most as often as it was
queued, and its row occurs at most so often more than it did, and once more for each save of it
whose answer was lost. There is none of these as long as no answer is lost. -/
theorem entered_within_queue (around : Surroundings σ) (b : Builder) (s : Screen) (rest : σ)
    (tasks : List (PartnerWindow × Errand)) :
    let state := Errand.runAll around.minuted.desk.recorded tasks (b, [], s, [], rest)
    let queued := b.draft.items ++ tasks.flatMap fun task => task.2.queued
    let lost := state.2.2.2.1
    (Book.read state.2.1).entered <+~ queued ∧
      (∀ tab row, (state.2.2.1.grids.rows tab).count row ≤
        (s.grids.rows tab).count row + queued.countP (Item.makes tab row) +
          lost.count (tab, row)) ∧
      (around.IsPrompt → lost = []) := by
  have start : Accounted around s.grids b.draft.items b.draft b.progress ([], s, [], rest) :=
    ⟨(b.draft.pending_sublist_items b.progress).subperm, fun _ _ => Nat.le_refl _, fun _ => rfl⟩
  have accounted := start.errands tasks
  have entered : (Book.read (Errand.runAll around.minuted.desk.recorded tasks
      (b, [], s, [], rest)).2.1).entered <+~
        b.draft.items ++ tasks.flatMap fun task => task.2.queued :=
    (List.sublist_append_left _ _).subperm.trans accounted.queued
  refine ⟨entered, fun tab row => ?_, accounted.prompt⟩
  have known := accounted.rows tab row
  have counted := entered.countP_le (Item.makes tab row)
  omega

/-- Surroundings in which the answer to the first save is lost. -/
def Surroundings.forgetful : Surroundings Bool where
  exchange _ world := (.unsent, world.2)
  lapse c world :=
    if c = .pressDone ∧ world.2 = false then (some (.lost (.driver "timeout")), true)
    else (none, world.2)
  note _ world := world.2
  readOrder _ := .inTurn

/-- A contact that was queued once is on the screen twice after the answer to its save was lost and
a second attempt was made. -/
theorem saved_twice :
    let contact : Contact := { firstName := "First", lastName := "Last" }
    let draft : Draft := { name := "Partner", contacts := [contact] }
    let state := Errand.runAll Surroundings.forgetful.desk.recorded
      [(.sample, .replay), (.sample, .replay)] ({ draft, record := some ⟨"7"⟩ }, [], {}, false)
    draft.items.countP (Item.makes .contacts (Item.contact contact).row) = 1 ∧
      (state.2.2.1.grids.rows .contacts).count (Item.contact contact).row = 2 := by
  decide +kernel

end PartnerRecords
