import PartnerRecords.Proofs.Rest.Mirror
import PartnerRecords.Proofs.Screen.Replay

/-!
# Mirrored entries

At desks that mirror each other, what is pending is entered alike. An item takes calls that fill a
form and save it. Only a batch looks at a grid.
-/

namespace PartnerRecords

open Act

def Call.isOfForm : Call → Bool
  | .visitWindow _ _ => false
  | .countRows => false
  | _ => true

theorem Item.calls_ofForm (item : Item) : ∀ c ∈ item.calls, c.isOfForm = true := by
  cases item with
  | location l => simp [calls, form, looks, Call.isOfForm]
  | contact c =>
      cases isDefault : c.isDefault <;> simp [calls, form, looks, Call.isOfForm, isDefault]
  | bank name => simp [calls, form, looks, Call.isOfForm]

variable {ω ω' : Type} {desk : Desk ω} {other : Desk ω'} {allowed : Call → Prop}
  {related : ω → ω' → Prop} (mirrors : desk.Mirrors other allowed related)
include mirrors

namespace Item

theorem follow_mirrors {calls : List Call} (may : ∀ c ∈ calls, allowed c) :
    (follow desk calls).Mirrors (follow other calls) related := by
  induction calls with
  | nil => exact mirrors_done ()
  | cons c rest ih =>
      rw [follow_cons, follow_cons]
      refine (mirrors.gesture (may c List.mem_cons_self)).bind fun _ => ?_
      exact ih fun c member => may c (List.mem_cons_of_mem _ member)

theorem check_mirrors {item : Item} (may : ∀ c ∈ item.looks, allowed c) :
    (item.check desk).Mirrors (item.check other) related := by
  cases item with
  | location l =>
      refine (mirrors.gesture (may _ List.mem_cons_self)).bind fun summary => ?_
      split
      · exact mirrors_done ()
      · exact mirrors_fail _
  | contact c => exact mirrors_done ()
  | bank name => exact mirrors_done ()

/-- An entry comes out the same at desks that mirror each other. -/
theorem enter_mirrors {item : Item} (may : ∀ c ∈ item.calls, allowed c) :
    (item.enter desk).Mirrors (item.enter other) related := by
  rw [enter_eq, enter_eq]
  refine (mirrors.report item.event).bind fun _ => ?_
  refine (follow_mirrors mirrors fun c member => may c (by simp [calls, member])).bind fun _ => ?_
  refine (check_mirrors mirrors fun c member => may c (by simp [calls, member])).bind fun _ => ?_
  exact mirrors.gesture (may _ (by simp [calls]))

end Item

section Pending

variable (may : ∀ c, c.isOfForm = true → allowed c)
include may

theorem Item.enter_mirrors_ofForm (item : Item) :
    (item.enter desk).Mirrors (item.enter other) related :=
  enter_mirrors mirrors fun c member => may c (item.calls_ofForm c member)

theorem Batch.enterEach_mirrors (batch : Batch) (items : List Item) :
    (batch.enterEach desk items).Mirrors (batch.enterEach other items) (Beside Eq related) := by
  refine mirrors_each (fun item => ?_) items
  refine ((item.enter_mirrors_ofForm mirrors may).inside Eq).bind fun _ => mirrors_updateFirst ?_
  rintro p _ rfl
  rfl

theorem Entry.pendingBank_mirrors (d : Draft) :
    (Entry.pendingBank desk d).Mirrors (Entry.pendingBank other d) (Beside Eq related) := by
  refine mirrors_get ?_
  rintro ⟨p, world⟩ ⟨_, image⟩ ⟨rfl, -⟩
  dsimp only
  cases d.bank with
  | none => exact mirrors_done ()
  | some name =>
      have entry : ((Item.bank name).enter desk).Mirrors ((Item.bank name).enter other) related :=
        (Item.bank name).enter_mirrors_ofForm mirrors may
      dsimp only
      split
      · exact mirrors_done ()
      · refine (entry.inside Eq).bind fun _ => mirrors_updateFirst ?_
        rintro p _ rfl
        rfl

variable (looks : allowed .countRows)
include looks

theorem Batch.run_mirrors (d : Draft) (batch : Batch) :
    (batch.run desk d).Mirrors (batch.run other d) (Beside Eq related) := by
  have check : ∀ expected, (Entry.expectRows desk batch.tab expected).Mirrors
      (Entry.expectRows other batch.tab expected) related := by
    intro expected
    refine (mirrors.gesture looks).bind fun actual => ?_
    split
    · exact mirrors_done ()
    · exact mirrors_fail _
  refine mirrors_get ?_
  rintro ⟨p, world⟩ ⟨_, image⟩ ⟨rfl, -⟩
  dsimp only
  unfold Entry.batch
  split
  · exact mirrors_done ()
  · refine (batch.enterEach_mirrors mirrors may _).bind fun _ => mirrors_get ?_
    rintro ⟨q, world⟩ ⟨_, image⟩ ⟨rfl, -⟩
    exact (check _).inside Eq

/-- A replay comes out the same at desks that mirror each other in looks at the grids, too. -/
theorem Entry.replay_mirrors (d : Draft) :
    (Entry.replay desk d).Mirrors (Entry.replay other d) (Beside Eq related) := by
  rw [replay_eq, replay_eq]
  refine (Batch.locations.run_mirrors mirrors may looks d).bind fun _ => ?_
  refine (Batch.contacts.run_mirrors mirrors may looks d).bind fun _ => ?_
  exact pendingBank_mirrors mirrors may d

end Pending

end PartnerRecords
