import PartnerRecords.Proofs.Screen.Surroundings

/-!
# Lost answers

When the answer to a save is lost, a row is on the screen of which nobody has been told. Minutes
of these rows are kept beside the surroundings, which take no notice of them.
-/

namespace PartnerRecords

open Act

abbrev Minutes := List (DetailTab × GridRow)

namespace Screen

def save? (s : Screen) : Option (DetailTab × GridRow) :=
  match s.call .pressDone with
  | (.ok _, _) => do return (← s.tab, ← s.form)
  | (.error _, _) => none

def saves (s : Screen) : Call → Minutes
  | .pressDone => s.save?.toList
  | _ => []

variable {s after : Screen}

theorem saves_eq_nil {c : Call} (other : c ≠ .pressDone) : s.saves c = [] := by
  cases c <;> first | rfl | exact absurd rfl other

theorem saves_refused {c : Call} {cause : ScreenError}
    (refused : s.call c = (.error cause, after)) : s.saves c = [] := by
  cases c with
  | pressDone =>
      unfold saves save?
      rw [refused]
      rfl
  | _ => rfl

theorem saves_pressDone {tab : DetailTab} {row : GridRow} {value : Unit}
    (performed : s.call .pressDone = (.ok value, after)) (onTab : s.tab = some tab)
    (form : s.form = some row) : s.saves .pressDone = [(tab, row)] := by
  unfold saves save?
  rw [performed, onTab, form]
  rfl

/-- No row comes to a grid but what a call saves. -/
theorem count_rows_call_le (s : Screen) (c : Call) (tab : DetailTab) (row : GridRow) :
    ((s.call c).2.grids.rows tab).count row ≤
      (s.grids.rows tab).count row + (s.saves c).count (tab, row) := by
  cases quiet : c.isQuiet with
  | true =>
      rw [(s.sameRows_call quiet).1]
      exact Nat.le_add_right _ _
  | false =>
      cases c with
      | visitWindow window record =>
          have opened : (s.call (.visitWindow window record)).2.grids =
              if s.visited = some (window, record) then s.grids else {} := rfl
          rw [opened]
          split
          · exact Nat.le_add_right _ _
          · cases tab <;> exact Nat.zero_le _
      | pressDone =>
          obtain ⟨⟨answer, after⟩, called⟩ : ∃ result, s.call .pressDone = result := ⟨_, rfl⟩
          cases answer with
          | error cause =>
              have same := s.sameRows_refused (c := .pressDone) nofun (by rw [called])
              rw [same.1]
              exact Nat.le_add_right _ _
          | ok value =>
              obtain ⟨-, shown, saved, -, onTab, form, rfl⟩ := call_pressDone_eq_ok.mp called
              rw [saves_pressDone called onTab form, called]
              change ((s.grids.push shown saved).rows tab).count row ≤ _
              rw [Grids.rows_push]
              split
              · next same =>
                  rw [same, List.count_append]
                  refine Nat.add_le_add_left (Nat.le_of_eq ?_) _
                  simp [List.count_singleton]
              · exact Nat.le_add_right _ _
      | _ => cases quiet

end Screen

namespace Surroundings

variable {σ : Type} (around : Surroundings σ)

/-- Rows that a lapse leaves on the screen unknown to anyone. -/
def mislaid (s : Screen) (c : Call) : Option Lapse → Minutes
  | some (.lost _) => s.saves c
  | _ => []

/-- The same surroundings, with minutes of the saves whose answers are lost. -/
def minuted : Surroundings (Minutes × σ) where
  exchange request := fun (s, minutes, rest) =>
    let (reply, rest) := around.exchange request (s, rest)
    (reply, minutes, rest)
  lapse c := fun (s, minutes, rest) =>
    let (lapse, rest) := around.lapse c (s, rest)
    (lapse, minutes ++ mislaid s c lapse, rest)
  note event := fun (s, minutes, rest) => (minutes, around.note event (s, rest))
  readOrder := fun (s, _, rest) => around.readOrder (s, rest)

variable {around} {c : Call} {s : Screen} {minutes : Minutes} {rest after : σ}

theorem minuted_lapse {lapse : Option Lapse} (lapsed : around.lapse c (s, rest) = (lapse, after)) :
    around.minuted.lapse c (s, minutes, rest) = (lapse, minutes ++ mislaid s c lapse, after) := by
  simp only [minuted, lapsed]

/-- Minutes change nothing of how a call is made. -/
theorem minuted_drive (around : Surroundings σ) (c : Call) (s : Screen) (minutes : Minutes)
    (rest : σ) :
    ((around.minuted.drive c (s, minutes, rest)).1,
      (around.minuted.drive c (s, minutes, rest)).2.1,
      (around.minuted.drive c (s, minutes, rest)).2.2.2) = around.drive c (s, rest) := by
  cases lapsed : around.lapse c (s, rest) with
  | mk lapse after =>
      unfold drive
      rw [lapsed, minuted_lapse lapsed]
      cases lapse with
      | none => rfl
      | some lapse => cases lapse <;> rfl

/-- What a failed call may have left on the screen is in the minutes, and that is nothing if no
answer is lost. -/
def Mislays (around : Surroundings σ) (s after : Screen) (lost : Minutes) : Prop :=
  (∀ tab row, (after.grids.rows tab).count row ≤
      (s.grids.rows tab).count row + lost.count (tab, row)) ∧
    (around.IsPrompt → lost = [])

/-- A gesture of which minutes are kept: what follows from every way in which the call may end. -/
theorem minuted_gesture_ends {log : List Deed}
    {good : c.Answer → List Deed × Screen × Minutes × σ → Prop}
    {bad : Failure → List Deed × Screen × Minutes × σ → Prop}
    (answered : ∀ value after rest, s.call c = (.ok value, after) →
      good value (log ++ [.called c (.ok value)], after, minutes, rest))
    (failed : ∀ cause after lost rest, around.Mislays s after lost →
      bad (.screen cause) (log ++ [.called c (.error cause)], after, minutes ++ lost, rest)) :
    (around.minuted.desk.recorded.gesture c).Ends (log, s, minutes, rest) good bad := by
  rw [Desk.ends_gesture]
  unfold Act.Ends
  simp only [Desk.recorded, desk, drive]
  cases lapsed : around.lapse c (s, rest) with
  | mk lapse after =>
      rw [minuted_lapse lapsed]
      have rows := s.count_rows_call_le c
      obtain ⟨⟨answer, later⟩, performed⟩ : ∃ result, s.call c = result := ⟨_, rfl⟩
      rw [performed] at rows
      cases lapse with
      | none =>
          simp only [mislaid, List.append_nil, performed]
          cases answer with
          | ok value => exact answered value later after performed
          | error cause =>
              rw [Screen.saves_refused performed] at rows
              have nothing := failed cause later [] after ⟨rows, fun _ => rfl⟩
              rwa [List.append_nil] at nothing
      | some lapse =>
          cases lapse with
          | withheld cause =>
              exact failed cause s [] after ⟨fun _ _ => Nat.le_refl _, fun _ => rfl⟩
          | lost cause =>
              simp only [performed]
              refine failed cause later (s.saves c) after ⟨rows, fun prompt => ?_⟩
              exact absurd (by rw [lapsed]) (prompt c (s, rest) cause)

end Surroundings

end PartnerRecords
