import Mathlib.Data.List.Chain
import PartnerRecords.Proofs.Partner.Errand

/-!
# Books

A book of the rows that were entered is read off the deeds alone. It names the item whose
form is being filled; once the screen has acknowledged that the form is saved, the item has
been entered. Items are fresh until their queue is cleared.
-/

namespace PartnerRecords

structure Book where
  subject : Option Item := none
  entered : List Item := []
  fresh : List Item := []
deriving DecidableEq, Repr

namespace Book

variable {book : Book}

def enteredOn (book : Book) (tab : DetailTab) : List Item :=
  book.entered.filter (·.tab = tab)

/-- Of these, the items entered since the queue was last cleared. -/
def freshOn (book : Book) (tab : DetailTab) : List Item :=
  book.fresh.filter (·.tab = tab)

def about (book : Book) (item : Item) : Book :=
  { book with subject := some item }

def enter (book : Book) (item : Item) : Book where
  entered := book.entered ++ [item]
  fresh := book.fresh ++ [item]

def clear (book : Book) (tab : DetailTab) : Book :=
  { book with fresh := book.fresh.filter (·.tab ≠ tab) }

def hear (book : Book) : Event → Book
  | .enteringLocation l => book.about (.location l)
  | .enteringContact c => book.about (.contact c)
  | .enteringBank name => book.about (.bank name)
  | .edited .clearLocations => book.clear .locations
  | .edited .clearContacts => book.clear .contacts
  | _ => book

def add (book : Book) : Deed → Book
  | .noted event => book.hear event
  | .called .pressDone (.ok _) => book.subject.elim book book.enter
  | _ => book

def read (log : List Deed) : Book :=
  log.foldl add {}

theorem read_append (log : List Deed) (deed : Deed) :
    read (log ++ [deed]) = (read log).add deed := by
  unfold read
  rw [List.foldl_append]
  rfl

@[simp] theorem add_noted (event : Event) : book.add (.noted event) = book.hear event := rfl

@[simp] theorem add_refused (c : Call) (cause : ScreenError) :
    book.add (.called c (.error cause)) = book := by
  cases c <;> rfl

theorem add_quiet {c : Call} (quiet : c.isQuiet = true) (answer : Except ScreenError c.Answer) :
    book.add (.called c answer) = book := by
  cases c with
  | pressDone => cases quiet
  | _ => rfl

theorem hear_event (item : Item) : book.hear item.event = book.about item := by
  cases item <;> rfl

theorem enteredOn_enter (item : Item) (tab : DetailTab) :
    (book.enter item).enteredOn tab =
      if item.tab = tab then book.enteredOn tab ++ [item] else book.enteredOn tab := by
  unfold enteredOn enter
  rw [List.filter_append]
  by_cases same : item.tab = tab <;> simp [same]

theorem freshOn_enter (item : Item) (tab : DetailTab) :
    (book.enter item).freshOn tab =
      if item.tab = tab then book.freshOn tab ++ [item] else book.freshOn tab := by
  unfold freshOn enter
  rw [List.filter_append]
  by_cases same : item.tab = tab <;> simp [same]

theorem freshOn_clear (tab other : DetailTab) :
    (book.clear tab).freshOn other = if other = tab then [] else book.freshOn other := by
  unfold freshOn clear
  rw [List.filter_filter]
  by_cases same : other = tab
  · rw [if_pos same, List.filter_eq_nil_iff]
    intro item _
    simp [same]
  · rw [if_neg same]
    refine List.filter_congr fun item _ => ?_
    by_cases here : item.tab = other <;> simp [here, same]

theorem enteredOn_edited (e : Edit) (tab : DetailTab) :
    (book.hear (.edited e)).enteredOn tab = book.enteredOn tab := by
  cases e <;> rfl

theorem freshOn_edited (e : Edit) (batch : Batch) :
    (book.hear (.edited e)).freshOn batch.tab =
      if e = batch.clearing then [] else book.freshOn batch.tab := by
  cases e with
  | clearLocations =>
      change (book.clear .locations).freshOn batch.tab = _
      rw [freshOn_clear]
      cases batch <;> rfl
  | clearContacts =>
      change (book.clear .contacts).freshOn batch.tab = _
      rw [freshOn_clear]
      cases batch <;> rfl
  | _ => cases batch <;> rfl

end Book

/-- The book, the counters, the queues and the grids agree. -/
structure Tally (d : Draft) (p : Progress) (book : Book) (grids : Grids) : Prop where
  grids : ∀ tab, grids.rows tab = (book.enteredOn tab).map Item.row
  rows : ∀ batch : Batch, (book.enteredOn batch.tab).length = batch.rows p
  queued : ∀ batch : Batch, batch.entered p ≤ (batch.queue d).length
  fresh : ∀ batch : Batch, book.freshOn batch.tab = (batch.queue d).take (batch.entered p)
  banks : (book.enteredOn .bankAccounts).IsChain (· ≠ ·)
  bank : (book.enteredOn .bankAccounts).getLast? = p.bank.map Item.bank

namespace Tally

variable {d : Draft} {p : Progress} {book : Book} {grids : Grids}

theorem start (d : Draft) : Tally d {} {} {} where
  grids tab := by cases tab <;> rfl
  rows batch := by cases batch <;> rfl
  queued batch := by cases batch <;> exact Nat.zero_le _
  fresh batch := by cases batch <;> rfl
  banks := .nil
  bank := rfl

theorem about (tally : Tally d p book grids) (item : Item) : Tally d p (book.about item) grids :=
  ⟨tally.grids, tally.rows, tally.queued, tally.fresh, tally.banks, tally.bank⟩

/-- A grid has as many rows as were counted. -/
theorem length_rows (tally : Tally d p book grids) (batch : Batch) :
    (grids.rows batch.tab).length = batch.rows p := by
  rw [tally.grids, List.length_map, tally.rows]

/-- As many items are fresh as the queue counts as entered. -/
theorem length_fresh (tally : Tally d p book grids) (batch : Batch) :
    (book.freshOn batch.tab).length = batch.entered p := by
  rw [tally.fresh, List.length_take]
  exact Nat.min_eq_left (tally.queued batch)

/-- The bank accounts after one more item. A bank is next only if it is not the last. -/
theorem banks_count {item : Item} (tally : Tally d p book grids) (next : item.IsNext d p) :
    ((book.enter item).enteredOn .bankAccounts).IsChain (· ≠ ·) ∧
      ((book.enter item).enteredOn .bankAccounts).getLast? =
        (p.count item).bank.map Item.bank := by
  rw [Book.enteredOn_enter]
  cases item with
  | location l => exact ⟨tally.banks, tally.bank⟩
  | contact c => exact ⟨tally.banks, tally.bank⟩
  | bank name =>
      have here : (Item.bank name).tab = .bankAccounts := rfl
      rw [if_pos here]
      refine ⟨tally.banks.append (.singleton _) ?_, List.getLast?_concat⟩
      intro last isLast first isFirst same
      obtain rfl : Item.bank name = first := by simpa using isFirst
      rw [tally.bank, same] at isLast
      obtain ⟨other, entered, equal⟩ := Option.map_eq_some_iff.mp isLast
      cases equal
      exact next.2 entered

/-- Entering the next item keeps all in agreement. -/
theorem count {item : Item} (tally : Tally d p book grids) (next : item.IsNext d p) :
    Tally d (p.count item) (book.enter item) (grids.push item.tab item.row) := by
  obtain ⟨banks, bank⟩ := tally.banks_count next
  refine ⟨fun tab => ?_, fun batch => ?_, fun batch => ?_, fun batch => ?_, banks, bank⟩
  · rw [Grids.rows_push, Book.enteredOn_enter, tally.grids tab]
    by_cases same : tab = item.tab
    · rw [if_pos same, if_pos same.symm, List.map_append]
      rfl
    · rw [if_neg same, if_neg (Ne.symm same)]
  · rw [Book.enteredOn_enter, Batch.rows_count, ← tally.rows batch]
    by_cases same : item.tab = batch.tab
    · rw [if_pos same, if_pos same, List.length_append]
      rfl
    · rw [if_neg same, if_neg same]
      rfl
  · rw [Batch.entered_count]
    by_cases same : item.tab = batch.tab
    · rw [if_pos same]
      exact Batch.entered_lt next same
    · rw [if_neg same]
      exact tally.queued batch
  · rw [Book.freshOn_enter, Batch.entered_count, tally.fresh batch]
    by_cases same : item.tab = batch.tab
    · rw [if_pos same, if_pos same, List.take_add_one, Batch.getElem?_entered next same]
      rfl
    · rw [if_neg same, if_neg same]
      rfl

/-- An edit keeps all in agreement. -/
theorem edit (tally : Tally d p book grids) (e : Edit) :
    Tally (e.draft d) (e.progress p) (book.hear (.edited e)) grids := by
  refine ⟨fun tab => ?_, fun batch => ?_, fun batch => ?_, fun batch => ?_, ?_, ?_⟩
  · rw [Book.enteredOn_edited]
    exact tally.grids tab
  · rw [Book.enteredOn_edited, e.rows_progress]
    exact tally.rows batch
  · obtain ⟨-, entered, longer⟩ | ⟨-, entered, -⟩ := e.queue_cases d p batch
    · rw [entered]
      exact Nat.le_trans (tally.queued batch) longer.length_le
    · rw [entered]
      exact Nat.zero_le _
  · rw [Book.freshOn_edited]
    obtain ⟨other, entered, longer⟩ | ⟨clearing, entered, empty⟩ := e.queue_cases d p batch
    · rw [if_neg other, entered, tally.fresh batch]
      obtain ⟨added, queue⟩ := longer
      rw [← queue, List.take_append_of_le_length (tally.queued batch)]
    · rw [if_pos clearing, entered]
      rfl
  · rw [Book.enteredOn_edited]
    exact tally.banks
  · rw [Book.enteredOn_edited, e.bank_progress]
    exact tally.bank

end Tally

end PartnerRecords
