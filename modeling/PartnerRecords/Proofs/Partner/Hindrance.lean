import PartnerRecords.Proofs.Partner.Queue
import PartnerRecords.Proofs.Screen.Ready
import PartnerRecords.Proofs.Screen.Stage

/-!
# What hinders a replay

A replay begins with a visit, which leaves a ready screen whatever was open before, and every entry
leaves the next one a ready screen. So no call is ever refused for being out of turn: options,
addresses and rows are all that can be wrong. A grid is wrong only if it was so before the replay,
since each entry makes one row and counts one.
-/

namespace PartnerRecords

open Act

variable {σ : Type} {server : Server σ} {d : Draft} {p q : Progress}

/-- Why a replay fails once there is a record, on the screen that the visit leaves. -/
inductive Hindrance (d : Draft) (p : Progress) (s : Screen) : Failure → Prop
  /-- The country of a location is not among those listed. -/
  | country {l : Location} {names : List String} (asked : .location l ∈ d.pending p)
      (listed : s.options.get? Field.addressCountry = some names) (missing : l.country ∉ names) :
      Hindrance d p s (.screen (.unknownOption Field.addressCountry l.country))
  /-- The bank is not among those listed. -/
  | bank {name : String} {names : List String} (asked : .bank name ∈ d.pending p)
      (listed : s.options.get? Field.bank = some names) (missing : name ∉ names) :
      Hindrance d p s (.screen (.unknownOption Field.bank name))
  /-- The address of a location does not show the city. -/
  | address {l : Location} (asked : .location l ∈ d.pending p)
      (hidden : Text.contains l.summary l.city = false) :
      Hindrance d p s (.addressNotRendered l.summary l.city)
  /-- The grid of a batch did not show the rows counted before, and does not with those that are
  added to both. -/
  | rows (batch : Batch) (added : Nat)
      (before : (s.grids.rows batch.tab).length ≠ batch.rows p) :
      Hindrance d p s
        (.gridMismatch batch.tab ((s.grids.rows batch.tab).length + added) (batch.rows p + added))

/-- A call of a hindered replay is refused for its option and nothing else. -/
theorem Hindrance.eq_unknownOption {s : Screen} {cause : ScreenError}
    (hindrance : Hindrance d p s (.screen cause)) :
    ∃ field value, cause = .unknownOption field value := by
  cases hindrance with
  | country => exact ⟨_, _, rfl⟩
  | bank => exact ⟨_, _, rfl⟩

/-- What hinders an item hinders the draft that asks for it. -/
theorem Item.Hindered.hindrance {s : Screen} {item : Item} {cause : Failure}
    (hindered : item.Hindered s cause) (asked : item ∈ d.pending p) : Hindrance d p s cause := by
  cases hindered with
  | option picks refused =>
      obtain ⟨names, listed, missing⟩ := Screen.offers_eq_false_iff.mp refused
      cases item with
      | location l =>
          cases picks
          exact .country asked listed missing
      | contact c => cases picks
      | bank name =>
          cases picks
          exact .bank asked listed missing
  | address hidden => exact .address asked hidden

/-- As many rows of a batch have been counted since `p` as its grid shows more than at the start. -/
def Batch.GrowsAlike (start : Screen) (p q : Progress) (s : Screen) (batch : Batch) : Prop :=
  ∃ added, (s.grids.rows batch.tab).length = (start.grids.rows batch.tab).length + added ∧
    batch.rows q = batch.rows p + added

/-- One row more is shown and counted on the tab of an item, and none on the others. -/
theorem Batch.GrowsAlike.entered {start s after : Screen} {batch : Batch} {item : Item}
    (alike : batch.GrowsAlike start p q s) (entered : item.Entered s after) :
    batch.GrowsAlike start p (q.count item) after := by
  obtain ⟨added, shown, counted⟩ := alike
  unfold GrowsAlike
  rw [entered.grids, Grids.rows_push, batch.rows_count]
  by_cases same : item.tab = batch.tab
  · refine ⟨added + 1, ?_, ?_⟩
    · rw [if_pos same.symm, List.length_append, shown]
      rfl
    · rw [if_pos same, counted]
      rfl
  · refine ⟨added, ?_, ?_⟩
    · rw [if_neg (Ne.symm same), shown]
    · rw [if_neg same, counted, Nat.add_zero]

/-- Where a replay that began with `p` stands between two rows, with the progress `q`. -/
structure Poised (d : Draft) (p : Progress) (start : Screen × σ) (q : Progress)
    (world : Screen × σ) : Prop where
  ready : world.1.Ready
  stays : Server.Stays start world
  pending : d.pending q ⊆ d.pending p
  alike : ∀ batch : Batch, batch.GrowsAlike start.1 p q world.1

section Replaying

variable {start world : Screen × σ}

theorem Item.enter_poised (poised : Poised d p start q world) {item : Item}
    (next : item.IsNext d q) :
    (item.enter server.desk).Ends world
      (fun _ after => Poised d p start (q.count item) after ∧ after.1.tab = some item.tab)
      fun cause _ => Hindrance d p start.1 cause := by
  obtain ⟨s, rest⟩ := world
  have first := next.pending_perm
  refine ((item.enter_ready poised.ready).and (item.enter_stays server poised.stays)).mono ?_ ?_
  · rintro _ after ⟨⟨-, -, entered, ready⟩, stays⟩
    refine ⟨⟨ready, stays, fun other member => ?_, fun batch => ?_⟩, entered.tab⟩
    · exact poised.pending (first.mem_iff.mpr (List.mem_cons_of_mem item member))
    · exact (poised.alike batch).entered entered
  · rintro cause _ ⟨⟨-, hindered⟩, -⟩
    have asked : item ∈ d.pending p := poised.pending (first.mem_iff.mpr List.mem_cons_self)
    exact (hindered.congr poised.stays.options).hindrance asked

theorem Entry.expectRows_poised (poised : Poised d p start q world) {batch : Batch}
    (tab : world.1.tab = some batch.tab) :
    (Entry.expectRows server.desk batch.tab (batch.rows q)).Ends world
      (fun _ => Poised d p start q) fun cause _ => Hindrance d p start.1 cause := by
  obtain ⟨s, rest⟩ := world
  obtain ⟨⟨visited, form, editor⟩, stays, pending, alike⟩ := poised
  rw [ends_of_eq (expectRows_eq server s rest visited tab (batch.rows q))]
  refine ⟨fun _ _ => ?_, fun cause failed => ?_⟩
  · exact ⟨⟨visited, form, editor⟩, stays.trans ⟨rfl, rfl, rfl⟩, pending, alike⟩
  · obtain ⟨added, shown, counted⟩ := alike batch
    split at failed
    · cases failed
    · next different =>
        cases failed
        rw [shown, counted] at different ⊢
        exact .rows batch added fun same => different (congrArg (· + added) same)

theorem Batch.run_poised (poised : Poised d p start q world) (batch : Batch) :
    (batch.run server.desk d).Ends (q, world) (fun _ state => Poised d p start state.1 state.2)
      fun cause _ => Hindrance d p start.1 cause := by
  refine run_ends (Poised d p start)
    (fun q after => Poised d p start q after ∧ after.1.tab = some batch.tab) (Poised d p start)
    (fun cause _ _ => Hindrance d p start.1 cause) ?_ ?_ (fun _ => poised) poised
  · intro item q world tab next between
    rw [← tab]
    exact item.enter_poised (between.elim id And.left) next
  · rintro q world _ ⟨poised, tab⟩
    exact Entry.expectRows_poised poised tab

theorem Entry.replay_poised (poised : Poised d p start q world) :
    (Entry.replay server.desk d).Ends (q, world) (fun _ state => Poised d p start state.1 state.2)
      fun cause _ => Hindrance d p start.1 cause := by
  rw [replay_eq, ends_bind]
  refine (Batch.run_poised poised .locations).mono (fun _ state located => ?_)
    fun _ _ failed => failed
  rw [ends_bind]
  refine (Batch.run_poised located .contacts).mono (fun _ state contacted => ?_)
    fun _ _ failed => failed
  refine pendingBank_ends (Poised d p start) (fun cause _ _ => Hindrance d p start.1 cause) ?_
    fun _ => contacted
  intro name next
  exact (Item.enter_poised contacted next).mono (fun _ _ entered => entered.1)
    fun _ _ failed => failed

/-- Whatever the screen shows before it: a replay with a record ends with an idle builder, on a
ready screen of the record, or with a hindrance. -/
theorem Builder.replay_hindered (window : PartnerWindow) (server : Server σ) {b : Builder}
    {record : RecordId} (recorded : b.record = some record) (s : Screen) (rest : σ) :
    (Builder.replay window server.desk).Ends (b, s, rest)
      (fun _ after => b.progress.hasPending b.draft = false ∨
        after.2.1.visited = some (window.layout.windowId, record) ∧ after.2.1.Ready)
      fun cause _ => Hindrance b.draft b.progress
        (s.call (.visitWindow window.layout.windowId record)).2 cause := by
  refine replay_ends (fun unrecorded => ?_) .inl fun other same => ?_
  · rw [unrecorded] at recorded
    cases recorded
  · obtain rfl : other = record := Option.some.inj (same.symm.trans recorded)
    let c := Call.visitWindow window.layout.windowId other
    let shown := (s.call c).2
    have answered : s.call c = (.ok (), shown) := rfl
    change (server.desk.gesture c).Ends (s, rest) _ _
    rw [ends_of_eq (server.gesture_ok answered rest)]
    refine ⟨fun _ _ => ?_, fun _ failed => by cases failed⟩
    have poised : Poised b.draft b.progress (shown, rest) b.progress (shown, rest) :=
      ⟨(s.logged c).ready_visit window.layout.windowId other, .refl _, List.Subset.refl _,
        fun _ => ⟨0, rfl, rfl⟩⟩
    exact (Entry.replay_poised poised).mono
      (fun _ _ ended => .inr ⟨ended.stays.visited, ended.ready⟩) fun _ _ hindrance => hindrance

end Replaying

def ScreenError.isOutOfTurn : ScreenError → Bool
  | .notNavigated => true
  | .noTabSelected => true
  | .formOpen => true
  | .noOpenForm => true
  | .editorOpen => true
  | .editorClosed => true
  | .unexpectedValue _ _ _ => true
  | .unknownOption _ _ => false
  | .driver _ => false

/-- For every screen, whatever is open on it, and every builder with a record: no call of a replay
is out of turn, and the replay fails only for a country or a bank that is not listed, an address
that does not show its city, or a grid that did not show the rows counted before. If it has rows to
enter and succeeds, it leaves the screen on the record with no form and no editor open. -/
theorem hindrance_of_replay (window : PartnerWindow) (server : Server σ) (d : Draft) (p : Progress)
    (record : RecordId) (s : Screen) (rest : σ) :
    let b : Builder := { draft := d, record := some record, progress := p }
    let shown := (s.call (.visitWindow window.layout.windowId record)).2
    let run := Builder.replay window server.desk (b, s, rest)
    (∀ cause, run.1 = .error (.screen cause) → cause.isOutOfTurn = false) ∧
      (∀ cause, run.1 = .error cause → Hindrance d p shown cause) ∧
      (run.1 = .ok () → p.hasPending d = true →
        run.2.2.1.visited = some (window.layout.windowId, record) ∧
          run.2.2.1.form = none ∧ run.2.2.1.editor = none) ∧
      (p.hasPending d = false → run = (.ok (), b, s, rest)) := by
  intro b shown run
  have recorded : b.record = some record := rfl
  have ends := Builder.replay_hindered window server recorded s rest
  have hindered : ∀ cause, run.1 = .error cause → Hindrance d p shown cause :=
    fun _ failed => ends.of_error failed
  refine ⟨fun cause failed => ?_, hindered, fun answered pending => ?_,
    Builder.replay_idle recorded⟩
  · obtain ⟨field, value, rfl⟩ := (hindered _ failed).eq_unknownOption
    rfl
  · obtain idle | ⟨visited, ready⟩ := ends.of_ok answered
    · exact absurd pending (by rw [idle]; decide)
    · exact ⟨visited, ready.form, ready.editor⟩

end PartnerRecords
