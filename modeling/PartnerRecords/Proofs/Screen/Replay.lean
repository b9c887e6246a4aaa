import PartnerRecords.Proofs.Screen.Item

/-!
# Replays

A replay enters items one after another, each when it is the next of its kind, and counts it.
An invariant of the progress and the world that every entry and every check of a grid keeps is
therefore kept by the whole replay, wherever it stops.
-/

namespace PartnerRecords

open Act

def Progress.count (p : Progress) : Item → Progress
  | .location _ => p.countLocation
  | .contact _ => p.countContact
  | .bank name => p.recordBank name

def Item.IsNext (d : Draft) (p : Progress) : Item → Prop
  | .location l => d.locations[p.locations]? = some l
  | .contact c => d.contacts[p.contacts]? = some c
  | .bank name => d.bank = some name ∧ p.bank ≠ some name

inductive Batch
  | locations
  | contacts
deriving DecidableEq, Repr

namespace Batch

def tab : Batch → DetailTab
  | .locations => .locations
  | .contacts => .contacts

theorem tab_injective {batch other : Batch} (same : batch.tab = other.tab) : batch = other := by
  cases batch <;> cases other <;> first | rfl | cases same

def queue (d : Draft) : Batch → List Item
  | .locations => d.locations.map .location
  | .contacts => d.contacts.map .contact

def entered (p : Progress) : Batch → Nat
  | .locations => p.locations
  | .contacts => p.contacts

/-- How many rows have been entered in all. -/
def rows (p : Progress) : Batch → Nat
  | .locations => p.locationRows
  | .contacts => p.contactRows

def count : Batch → Progress → Progress
  | .locations => Progress.countLocation
  | .contacts => Progress.countContact

def IsDone (d : Draft) (p : Progress) (batch : Batch) : Prop :=
  (batch.queue d).length ≤ batch.entered p

theorem hasPending_eq_false {d : Draft} {p : Progress} :
    p.hasPending d = false ↔
      (∀ batch : Batch, batch.IsDone d p) ∧ (d.bank = none ∨ d.bank = p.bank) := by
  have queues : (∀ batch : Batch, batch.IsDone d p) ↔
      d.locations.length ≤ p.locations ∧ d.contacts.length ≤ p.contacts := by
    unfold IsDone
    constructor
    · intro all
      exact ⟨by simpa [queue, entered] using all .locations,
        by simpa [queue, entered] using all .contacts⟩
    · rintro ⟨locations, contacts⟩ (_ | _)
      · simpa [queue, entered] using locations
      · simpa [queue, entered] using contacts
  rw [queues]
  unfold Progress.hasPending
  cases d.bank with
  | none => simp
  | some name => simp

theorem next_of_drop {batch : Batch} {d : Draft} {p : Progress} {item : Item} {rest : List Item}
    (pending : (batch.queue d).drop (batch.entered p) = item :: rest) :
    item.IsNext d p ∧ item.tab = batch.tab ∧ p.count item = batch.count p ∧
      (batch.queue d).drop (batch.entered (p.count item)) = rest := by
  have here : (batch.queue d)[batch.entered p]? = some item := by
    rw [← List.head?_drop, pending, List.head?_cons]
  have behind : (batch.queue d).drop (batch.entered p + 1) = rest := by
    rw [← List.tail_drop, pending, List.tail_cons]
  cases batch with
  | locations =>
      simp only [queue, entered, List.getElem?_map, Option.map_eq_some_iff] at here
      obtain ⟨l, found, rfl⟩ := here
      exact ⟨found, rfl, rfl, behind⟩
  | contacts =>
      simp only [queue, entered, List.getElem?_map, Option.map_eq_some_iff] at here
      obtain ⟨c, found, rfl⟩ := here
      exact ⟨found, rfl, rfl, behind⟩

theorem entered_count (batch : Batch) (p : Progress) (item : Item) :
    batch.entered (p.count item) = batch.entered p + if item.tab = batch.tab then 1 else 0 := by
  cases batch <;> cases item <;> rfl

theorem IsDone.count {batch : Batch} {d : Draft} {p : Progress} (finished : batch.IsDone d p)
    (item : Item) : batch.IsDone d (p.count item) := by
  unfold IsDone
  rw [entered_count]
  exact Nat.le_add_right_of_le finished

theorem rows_count (batch : Batch) (p : Progress) (item : Item) :
    batch.rows (p.count item) = batch.rows p + if item.tab = batch.tab then 1 else 0 := by
  cases batch <;> cases item <;> rfl

/-- The next item of a queue is the first that has not been entered. -/
theorem getElem?_entered {batch : Batch} {d : Draft} {p : Progress} {item : Item}
    (next : item.IsNext d p) (tab : item.tab = batch.tab) :
    (batch.queue d)[batch.entered p]? = some item := by
  cases item with
  | location l =>
      obtain rfl : batch = .locations := by cases batch <;> first | rfl | cases tab
      simp only [queue, entered, List.getElem?_map]
      exact congrArg (Option.map Item.location) next
  | contact c =>
      obtain rfl : batch = .contacts := by cases batch <;> first | rfl | cases tab
      simp only [queue, entered, List.getElem?_map]
      exact congrArg (Option.map Item.contact) next
  | bank name => cases batch <;> cases tab

theorem entered_lt {batch : Batch} {d : Draft} {p : Progress} {item : Item}
    (next : item.IsNext d p) (tab : item.tab = batch.tab) :
    batch.entered p < (batch.queue d).length :=
  (List.getElem?_eq_some_iff.mp (getElem?_entered next tab)).1

theorem IsDone.tab_ne {batch : Batch} {d : Draft} {p : Progress} (finished : batch.IsDone d p)
    {item : Item} (next : item.IsNext d p) : item.tab ≠ batch.tab :=
  fun tab => Nat.not_lt_of_le finished (entered_lt next tab)

variable {ω : Type}

def enterEach (desk : Desk ω) (batch : Batch) : List Item → Act (Progress × ω) Failure Unit :=
  Act.each fun item => do
    Act.inside (item.enter desk)
    Act.updateFirst batch.count

def run (desk : Desk ω) (d : Draft) (batch : Batch) : Act (Progress × ω) Failure Unit := do
  let (progress, _) ← Act.get
  Entry.batch desk batch.tab (fun item : Item => item.enter desk) batch.count
    (fun p => batch.rows p) ((batch.queue d).drop (batch.entered progress))

end Batch

theorem Act.each_map {ω ε α β : Type} (act : β → Act ω ε Unit) (f : α → β) (items : List α) :
    each act (items.map f) = each (fun item => act (f item)) items := by
  induction items with
  | nil => rfl
  | cons item rest ih =>
      simp only [List.map_cons, each]
      rw [ih]

variable {ω : Type} {desk : Desk ω} {d : Draft} {p : Progress} {world : ω}

theorem Entry.batch_map {α β : Type} (tab : DetailTab) (enter : β → Act ω Failure Unit)
    (count : Progress → Progress) (rows : Progress → Nat) (f : α → β) (items : List α) :
    Entry.batch desk tab enter count rows (items.map f) =
      Entry.batch desk tab (fun item => enter (f item)) count rows items := by
  unfold Entry.batch
  rw [each_map, List.isEmpty_map]

theorem Entry.pendingLocations_eq : Entry.pendingLocations desk d = Batch.locations.run desk d := by
  unfold Entry.pendingLocations Batch.run
  refine bind_congr fun (progress, _) => ?_
  simp only [Batch.queue, ← List.map_drop, Entry.batch_map]
  rfl

theorem Entry.pendingContacts_eq : Entry.pendingContacts desk d = Batch.contacts.run desk d := by
  unfold Entry.pendingContacts Batch.run
  refine bind_congr fun (progress, _) => ?_
  simp only [Batch.queue, ← List.map_drop, Entry.batch_map]
  rfl

section Rules

variable (before after good holds : Progress → ω → Prop)
variable (bad : Failure → Progress → ω → Prop)

/-- Items of a batch are entered one after another, each when it is the next of its kind. `after` is
what holds between two rows. -/
theorem Batch.enterEach_ends {batch : Batch}
    (enters : ∀ (item : Item) p world, item.tab = batch.tab → item.IsNext d p →
      before p world ∨ after p world →
        (item.enter desk).Ends world (fun _ => after (p.count item)) fun cause => bad cause p)
    (pending : ¬ batch.IsDone d p) (start : before p world) :
    (batch.enterEach desk ((batch.queue d).drop (batch.entered p))).Ends (p, world)
      (fun _ state => batch.IsDone d state.1 ∧ after state.1 state.2)
      fun cause state => bad cause state.1 state.2 := by
  have entry : ∀ item rest p world, (batch.queue d).drop (batch.entered p) = item :: rest →
      before p world ∨ after p world →
      Ends (do inside (item.enter desk); updateFirst batch.count) (p, world)
        (fun _ state => (batch.queue d).drop (batch.entered state.1) = rest ∧
          after state.1 state.2)
        fun cause state => bad cause state.1 state.2 := by
    intro item rest p world pending holds
    obtain ⟨next, tab, counted, rest_eq⟩ := next_of_drop pending
    rw [ends_bind, ends_inside]
    refine (enters item p world tab next holds).mono (fun _ world entered => ?_)
      fun _ _ failed => failed
    rw [ends_updateFirst, ← counted]
    exact ⟨rest_eq, entered⟩
  cases queued : (batch.queue d).drop (batch.entered p) with
  | nil => exact absurd (List.drop_eq_nil_iff.mp queued) pending
  | cons item rest =>
      change Ends (_ >>= fun _ => batch.enterEach desk rest) _ _ _
      rw [ends_bind]
      refine (entry item rest p world queued (.inl start)).mono (fun _ state kept => ?_)
        fun _ _ failed => failed
      refine (Ends.each (fun item rest state kept =>
        entry item rest state.1 state.2 kept.1 (.inr kept.2)) rest state kept).mono ?_
        fun _ _ failed => failed
      exact fun _ state kept => ⟨List.drop_eq_nil_iff.mp kept.1, kept.2⟩

/-- A batch of which nothing is pending touches nothing. -/
theorem Batch.run_idle {batch : Batch} (finished : batch.IsDone d p) :
    batch.run desk d (p, world) = (.ok (), (p, world)) := by
  change Entry.batch desk batch.tab (fun item : Item => item.enter desk) batch.count
    (fun p => batch.rows p) ((batch.queue d).drop (batch.entered p)) (p, world) = _
  rw [List.drop_eq_nil_iff.mpr finished]
  rfl

/-- A batch enters what is pending and looks at the grid once. -/
theorem Batch.run_pending {batch : Batch} (pending : ¬ batch.IsDone d p) :
    batch.run desk d (p, world) = (do
      batch.enterEach desk ((batch.queue d).drop (batch.entered p))
      let (progress, _) ← Act.get
      inside (Entry.expectRows desk batch.tab (batch.rows progress)) :
        Act (Progress × ω) Failure Unit) (p, world) := by
  change Entry.batch desk batch.tab (fun item : Item => item.enter desk) batch.count
    (fun p => batch.rows p) ((batch.queue d).drop (batch.entered p)) (p, world) = _
  have due : ((batch.queue d).drop (batch.entered p)).isEmpty = false := by
    rw [List.isEmpty_eq_false_iff]
    exact mt List.drop_eq_nil_iff.mp pending
  unfold Entry.batch
  rw [due]
  rfl

/-- A batch is over before it has begun, or it enters what is pending and looks at the grid
once. `after` is what holds between two rows. -/
theorem Batch.run_ends {batch : Batch}
    (enters : ∀ (item : Item) p world, item.tab = batch.tab → item.IsNext d p →
      before p world ∨ after p world →
        (item.enter desk).Ends world (fun _ => after (p.count item)) fun cause => bad cause p)
    (checks : ∀ p world, batch.IsDone d p → after p world →
      (Entry.expectRows desk batch.tab (batch.rows p)).Ends world (fun _ => good p)
        fun cause => bad cause p)
    (idle : batch.IsDone d p → good p world) (start : before p world) :
    (batch.run desk d).Ends (p, world) (fun _ state => good state.1 state.2)
      fun cause state => bad cause state.1 state.2 := by
  by_cases finished : batch.IsDone d p
  · rw [ends_of_eq (run_idle finished)]
    exact ⟨fun _ _ => idle finished, fun _ failed => by cases failed⟩
  · rw [ends_congr (run_pending finished), ends_bind]
    refine (enterEach_ends before after bad enters finished start).mono ?_
      fun _ _ failed => failed
    rintro _ state ⟨done, kept⟩
    rw [ends_bind, ends_get, ends_inside]
    exact checks state.1 state.2 done kept

/-- A bank account is entered if the draft names a bank other than the last one entered. -/
theorem Entry.pendingBank_ends
    (enters : ∀ name, (Item.bank name).IsNext d p →
      ((Item.bank name).enter desk).Ends world (fun _ => good (p.recordBank name))
        fun cause => bad cause p)
    (idle : d.bank = none ∨ d.bank = p.bank → good p world) :
    (Entry.pendingBank desk d).Ends (p, world) (fun _ state => good state.1 state.2)
      fun cause state => bad cause state.1 state.2 := by
  unfold Entry.pendingBank
  rw [ends_bind, ends_get]
  cases asked : d.bank with
  | none => exact idle (.inl asked)
  | some name =>
      by_cases same : p.bank = some name
      · simp only [same, if_true]
        exact idle (.inr (asked.trans same.symm))
      · simp only [same, if_false]
        rw [ends_bind, ends_inside]
        exact enters name ⟨asked, same⟩

theorem Entry.replay_eq : Entry.replay desk d = (do
    Batch.locations.run desk d
    Batch.contacts.run desk d
    Entry.pendingBank desk d) := by
  unfold Entry.replay
  rw [pendingLocations_eq, pendingContacts_eq]

/-- An invariant that every entry and every look at a grid keeps is kept by a replay. -/
theorem Entry.replay_ends
    (enters : ∀ (item : Item) p world, item.IsNext d p → holds p world →
      (item.enter desk).Ends world (fun _ => holds (p.count item)) fun cause => bad cause p)
    (checks : ∀ (batch : Batch) p world, batch.IsDone d p → holds p world →
      (Entry.expectRows desk batch.tab (batch.rows p)).Ends world (fun _ => holds p)
        fun cause => bad cause p)
    (start : holds p world) :
    (Entry.replay desk d).Ends (p, world) (fun _ state => holds state.1 state.2)
      fun cause state => bad cause state.1 state.2 := by
  have run : ∀ batch : Batch, ∀ p world, holds p world →
      (batch.run desk d).Ends (p, world) (fun _ state => holds state.1 state.2)
        fun cause state => bad cause state.1 state.2 := by
    intro batch p world start
    refine Batch.run_ends holds holds holds bad ?_ (checks batch) (fun _ => start) start
    exact fun item p world _ next kept => enters item p world next (kept.elim id id)
  rw [replay_eq, ends_bind]
  refine (run .locations p world start).mono (fun _ state kept => ?_) fun _ _ failed => failed
  rw [ends_bind]
  refine (run .contacts state.1 state.2 kept).mono (fun _ state kept => ?_)
    fun _ _ failed => failed
  exact pendingBank_ends holds bad (fun name next => enters (.bank name) state.1 state.2 next kept)
    fun _ => kept

/-- Nothing is pending after a replay that ends well. -/
theorem Entry.replay_complete :
    (Entry.replay desk d).Ends (p, world) (fun _ state => state.1.hasPending d = false)
      fun _ _ => True := by
  have run : ∀ batch : Batch, ∀ done : Progress → Prop,
      (∀ item p, done p → done (p.count item)) → ∀ p world, done p →
        (batch.run desk d).Ends (p, world) (fun _ state => done state.1 ∧ batch.IsDone d state.1)
          fun _ _ => True := by
    intro batch done counts p world start
    by_cases finished : batch.IsDone d p
    · rw [ends_of_eq (Batch.run_idle finished)]
      exact ⟨fun _ _ => ⟨start, finished⟩, fun _ _ => trivial⟩
    · refine Batch.run_ends (fun p _ => done p) (fun p _ => done p)
        (fun p _ => done p ∧ batch.IsDone d p) (fun _ _ _ => True) ?_ ?_
        (fun finished' => absurd finished' finished) start
      · intro item p world _ _ kept
        exact ends_of_forall (fun _ _ => counts item p (kept.elim id id)) fun _ _ => trivial
      · intro p world ended kept
        exact ends_of_forall (fun _ _ => ⟨kept, ended⟩) fun _ _ => trivial
  rw [replay_eq, ends_bind]
  refine (run .locations (fun _ => True) (fun _ _ _ => trivial) p world trivial).mono
    (fun _ state locations => ?_) fun _ _ _ => trivial
  rw [ends_bind]
  refine (run .contacts (Batch.locations.IsDone d) (fun item _ kept => kept.count item)
    state.1 state.2 locations.2).mono (fun _ state both => ?_) fun _ _ _ => trivial
  have all : ∀ batch : Batch, batch.IsDone d state.1 := by
    intro batch
    cases batch with
    | locations => exact both.1
    | contacts => exact both.2
  refine pendingBank_ends (fun p _ => p.hasPending d = false) (fun _ _ _ => True) ?_ ?_
  · intro name next
    refine ends_of_forall (fun _ _ => Batch.hasPending_eq_false.mpr ⟨fun batch => ?_, .inr next.1⟩)
      fun _ _ => trivial
    exact (all batch).count (.bank name)
  · exact fun bank => Batch.hasPending_eq_false.mpr ⟨all, bank⟩

end Rules

end PartnerRecords
