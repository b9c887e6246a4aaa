import PartnerRecords.Proofs.Rest.Deed
import PartnerRecords.Proofs.Screen.Answer

/-!
# Screens and their surroundings

A desk with a screen as part of its world. The rest of the world answers requests, hears
reports, and drives the screen: it may let any call lapse, before it has reached the screen or
after.
-/

namespace PartnerRecords

/-- What becomes of a call that the driver fails to make. -/
inductive Lapse
  /-- The call does not reach the screen. -/
  | withheld (cause : ScreenError)
  /-- The call is performed and its answer is lost. -/
  | lost (cause : ScreenError)
deriving DecidableEq, Repr

structure Surroundings (σ : Type) where
  exchange : Request → Screen × σ → Reply × σ
  lapse : Call → Screen × σ → Option Lapse × σ
  note : Event → Screen × σ → σ
  readOrder : Screen × σ → ReadOrder

namespace Surroundings

variable {σ : Type} (around : Surroundings σ)

def drive (c : Call) (world : Screen × σ) : Except ScreenError c.Answer × Screen × σ :=
  match around.lapse c world with
  | (none, rest) => ((world.1.call c).1, (world.1.call c).2, rest)
  | (some (.withheld cause), rest) => (.error cause, world.1, rest)
  | (some (.lost cause), rest) => (.error cause, (world.1.call c).2, rest)

def desk : Desk (Screen × σ) where
  exchange request world :=
    let (reply, rest) := around.exchange request world
    (reply, (world.1, rest))
  call := around.drive
  note event world := (world.1, around.note event world)
  readOrder := around.readOrder

/-- No answer is lost: a call that fails to reach the screen is the only lapse. -/
def IsPrompt : Prop :=
  ∀ c world cause, (around.lapse c world).1 ≠ some (.lost cause)

def calm : Surroundings Unit where
  exchange _ _ := (.unsent, ())
  lapse _ _ := (none, ())
  note _ _ := ()
  readOrder _ := .inTurn

inductive Drives (c : Call) (s : Screen) : Except ScreenError c.Answer → Screen → Prop
  | answered {value : c.Answer} {after : Screen} : s.call c = (.ok value, after) →
      Drives c s (.ok value) after
  | refused {reason cause : ScreenError} {after : Screen} : s.call c = (.error reason, after) →
      Drives c s (.error cause) after
  | withheld {cause : ScreenError} : Drives c s (.error cause) s
  | lost {cause : ScreenError} {value : c.Answer} {after : Screen} : ¬ around.IsPrompt →
      s.call c = (.ok value, after) → Drives c s (.error cause) after

theorem drives (c : Call) (s : Screen) (rest : σ) :
    around.Drives c s (around.drive c (s, rest)).1 (around.drive c (s, rest)).2.1 := by
  unfold drive
  obtain ⟨⟨answer, after⟩, performed⟩ : ∃ result, s.call c = result := ⟨_, rfl⟩
  cases lapsed : around.lapse c (s, rest) with
  | mk lapse rest =>
      cases lapse with
      | none =>
          simp only [performed]
          cases answer with
          | ok value => exact .answered performed
          | error reason => exact .refused performed
      | some lapse =>
          cases lapse with
          | withheld cause => exact .withheld
          | lost cause =>
              simp only [performed]
              have late : ¬ around.IsPrompt := fun prompt =>
                prompt c (s, _) cause (by rw [lapsed])
              cases answer with
              | ok value => exact .lost late performed
              | error reason => exact .refused performed

variable {around} {c : Call} {s : Screen}

/-- A call that leaves the rows of any screen as they are does so however it ends. -/
theorem Drives.sameRows {answer : Except ScreenError c.Answer} {after : Screen}
    (drives : around.Drives c s answer after) (quiet : c.isQuiet = true) : s.SameRows after := by
  have same := s.sameRows_call quiet
  cases drives with
  | answered performed =>
      rw [performed] at same
      exact same
  | refused performed =>
      rw [performed] at same
      exact same
  | withheld => exact .refl s
  | lost _ performed =>
      rw [performed] at same
      exact same

/-- Counting rows stays on the tab that is shown. -/
theorem Drives.tab_eq {answer : Except ScreenError Call.countRows.Answer} {after : Screen}
    (drives : around.Drives .countRows s answer after) : after.tab = s.tab := by
  have stays := s.tab_call_countRows
  cases drives with
  | answered performed =>
      rw [performed] at stays
      exact stays
  | refused performed =>
      rw [performed] at stays
      exact stays
  | withheld => rfl
  | lost _ performed =>
      rw [performed] at stays
      exact stays

/-- A gesture on the screen, recorded: what follows from every way in which the call may end. -/
theorem gesture_ends {log : List Deed} {rest : σ}
    {good : c.Answer → List Deed × Screen × σ → Prop}
    {bad : Failure → List Deed × Screen × σ → Prop}
    (answered : ∀ value after rest, s.call c = (.ok value, after) →
      good value (log ++ [.called c (.ok value)], after, rest))
    (failed : ∀ cause after rest, around.Drives c s (.error cause) after →
      bad (.screen cause) (log ++ [.called c (.error cause)], after, rest)) :
    (around.desk.recorded.gesture c).Ends (log, s, rest) good bad := by
  rw [Desk.ends_gesture]
  have drives := around.drives c s rest
  unfold Act.Ends
  simp only [Desk.recorded, desk]
  generalize around.drive c (s, rest) = driven at drives
  obtain ⟨answer, after, rest⟩ := driven
  cases answer with
  | ok value =>
      cases drives with
      | answered performed => exact answered value after rest performed
  | error cause => exact failed cause after rest drives

end Surroundings

end PartnerRecords
