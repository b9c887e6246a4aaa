import PartnerRecords.Proofs.Partner.Entries
import PartnerRecords.Proofs.Screen.Mirror

/-!
# Twin screens

Two screens that show the same form are twins even if the grids of one begin with rows that are
gone from those of the other. What is done to enter a row comes out the same on both. Only a count
of rows tells them apart.
-/

namespace PartnerRecords

open Act

variable {σ : Type}

/-! ## Grids that begin with further rows -/

namespace Grids

def append (gone g : Grids) : Grids where
  locations := gone.locations ++ g.locations
  contacts := gone.contacts ++ g.contacts
  bankAccounts := gone.bankAccounts ++ g.bankAccounts

theorem rows_append (gone g : Grids) (tab : DetailTab) :
    (gone.append g).rows tab = gone.rows tab ++ g.rows tab := by
  cases tab <;> rfl

theorem rows_empty (tab : DetailTab) : ({} : Grids).rows tab = [] := by
  cases tab <;> rfl

theorem append_push (gone g : Grids) (tab : DetailTab) (row : GridRow) :
    (gone.append g).push tab row = gone.append (g.push tab row) := by
  cases tab <;> simp [append, push]

theorem empty_append (g : Grids) : append {} g = g := rfl

theorem append_empty (g : Grids) : g.append {} = g := by
  simp [append]

end Grids

namespace Screen

def refilled (s : Screen) (gone : Grids) (calls : List Call) : Screen :=
  { s with grids := gone.append s.grids, calls }

variable (s : Screen) (gone : Grids) (calls : List Call)

theorem write_refilled (field text : String) (scope : Scope) :
    (s.refilled gone calls).write field text scope =
      ((s.write field text scope).1, (s.write field text scope).2.refilled gone calls) := by
  have values : (s.refilled gone calls).scopeValues scope = s.scopeValues scope := by
    cases scope <;> rfl
  unfold write
  rw [values]
  cases s.scopeValues scope with
  | error cause => rfl
  | ok values => cases scope <;> rfl

theorem perform_refilled {c : Call} (ofForm : c.isOfForm = true) :
    (s.refilled gone calls).perform c =
      ((s.perform c).1, (s.perform c).2.refilled gone calls) := by
  cases c with
  | visitWindow window record => cases ofForm
  | countRows => cases ofForm
  | writeText field text scope => exact s.write_refilled gone calls field text scope
  | pickOption field query expected scope =>
      change (if s.offers field query expected then _ else _) = _
      simp only [perform]
      split
      · exact s.write_refilled gone calls field expected scope
      · rfl
  | clickCheckbox field expected scope =>
      have values : (s.refilled gone calls).scopeValues scope = s.scopeValues scope := by
        cases scope <;> rfl
      simp only [perform, values]
      cases s.scopeValues scope with
      | error cause => rfl
      | ok values =>
          dsimp only
          split <;> cases scope <;> rfl
  | selectTab tab =>
      obtain ⟨visited, _, _, form, _, _, _⟩ := s
      cases visited <;> cases form <;> rfl
  | pressAddNew =>
      obtain ⟨visited, tab, _, form, _, _, _⟩ := s
      cases visited <;> cases tab <;> cases form <;> rfl
  | clickFormTitle =>
      obtain ⟨_, _, _, form, editor, _, _⟩ := s
      cases editor <;> cases form <;> rfl
  | openAddressEditor field =>
      obtain ⟨_, _, _, form, editor, _, _⟩ := s
      cases editor <;> cases form <;> rfl
  | closeAddressEditor =>
      obtain ⟨_, _, _, form, editor, _, _⟩ := s
      cases editor <;> cases form <;> rfl
  | addressSummary field =>
      obtain ⟨_, _, _, form, _, _, _⟩ := s
      cases form <;> rfl
  | pressDone =>
      obtain ⟨visited, tab, grids, form, editor, _, _⟩ := s
      simp only [perform, requireTab, refilled, Grids.append_push]
      cases editor <;> cases visited <;> cases tab <;> cases form <;> rfl

theorem call_refilled {c : Call} (ofForm : c.isOfForm = true) :
    (s.refilled gone calls).call c =
      ((s.call c).1, (s.call c).2.refilled gone (calls ++ [c])) :=
  (s.logged c).perform_refilled gone _ ofForm

/-- No call but a visit goes to another record. -/
theorem visited_call {c : Call} (stays : ∀ window record, c ≠ .visitWindow window record) :
    (s.call c).2.visited = s.visited := by
  cases quiet : c.isQuiet with
  | true => exact (s.sameRows_call quiet).2
  | false =>
      cases c with
      | visitWindow window record => exact absurd rfl (stays window record)
      | pressDone =>
          obtain ⟨⟨answer, after⟩, called⟩ : ∃ result, s.call .pressDone = result := ⟨_, rfl⟩
          cases answer with
          | error cause => exact (s.sameRows_refused stays (by rw [called])).2
          | ok value =>
              obtain ⟨-, _, _, -, -, -, rfl⟩ := call_pressDone_eq_ok.mp called
              rw [called]
              rfl
      | _ => cases quiet

theorem options_write (field text : String) (scope : Scope) :
    (s.write field text scope).2.options = s.options := by
  unfold write
  cases s.scopeValues scope with
  | error cause => rfl
  | ok values => cases scope <;> rfl

/-- What a field offers is not up to any call. -/
theorem options_call (c : Call) : (s.call c).2.options = s.options := by
  change ((s.logged c).perform c).2.options = (s.logged c).options
  generalize s.logged c = s
  cases c with
  | visitWindow window record => rfl
  | writeText field text scope => exact s.options_write field text scope
  | pickOption field query expected scope =>
      simp only [perform]
      split
      · exact s.options_write field expected scope
      · rfl
  | clickCheckbox field expected scope =>
      simp only [perform]
      cases s.scopeValues scope with
      | error cause => rfl
      | ok values =>
          dsimp only
          split <;> cases scope <;> rfl
  | _ =>
      simp only [perform]
      repeat' split
      all_goals rfl

end Screen

/-! ## A server that takes no notice of screens -/

structure Server (σ : Type) where
  exchange : Request → σ → Reply × σ
  readOrder : σ → ReadOrder

namespace Server

variable (server : Server σ)

/-- The surroundings of a screen on which every call is performed. Reports go unheard. -/
def around : Surroundings σ where
  exchange request world := server.exchange request world.2
  lapse _ world := (none, world.2)
  note _ world := world.2
  readOrder world := server.readOrder world.2

def desk : Desk (Screen × σ) :=
  server.around.desk

theorem gesture_ok {c : Call} {s after : Screen} {value : c.Answer}
    (performed : s.call c = (.ok value, after)) (rest : σ) :
    server.desk.gesture c (s, rest) = (.ok value, after, rest) := by
  have called : server.desk.call c (s, rest) = (.ok value, after, rest) := by
    change ((s.call c).1, (s.call c).2, rest) = _
    rw [performed]
  unfold Desk.gesture orFail
  rw [called]

/-- Worlds that are twins: one screen shows further rows at the head of its grids. -/
inductive Twins (gone : Grids) : Screen × σ → Screen × σ → Prop
  | twins (s : Screen) (calls : List Call) (rest : σ) :
      Twins gone (s, rest) (s.refilled gone calls, rest)

theorem desk_mirrors_twins (gone : Grids) :
    server.desk.Mirrors server.desk (fun c => c.isOfForm = true) (Twins gone) where
  exchange := by
    rintro request _ _ ⟨s, calls, rest⟩
    exact ⟨rfl, .twins s calls _⟩
  call := by
    rintro c ofForm _ _ ⟨s, calls, rest⟩
    have called := s.call_refilled gone calls ofForm
    change (s.call c).1 = ((s.refilled gone calls).call c).1 ∧
      Twins gone ((s.call c).2, rest) (((s.refilled gone calls).call c).2, rest)
    rw [called]
    exact ⟨rfl, .twins _ _ rest⟩
  note := by
    rintro event _ _ ⟨s, calls, rest⟩
    exact .twins s calls rest
  readOrder := by
    rintro _ _ ⟨s, calls, rest⟩
    rfl

inductive Untouched (s s' : Screen) : Screen × σ → Screen × σ → Prop
  | untouched (rest : σ) : Untouched s s' (s, rest) (s', rest)

theorem desk_mirrors_untouched (s s' : Screen) :
    server.desk.Mirrors server.desk (fun _ => False) (Untouched s s') where
  exchange := by
    rintro request _ _ ⟨rest⟩
    exact ⟨rfl, .untouched _⟩
  call c never := never.elim
  note := by
    rintro event _ _ ⟨rest⟩
    exact .untouched rest
  readOrder := by
    rintro _ _ ⟨rest⟩
    rfl

structure Stays (world after : Screen × σ) : Prop where
  visited : after.1.visited = world.1.visited
  options : after.1.options = world.1.options
  server : after.2 = world.2

theorem Stays.refl (world : Screen × σ) : Stays world world :=
  ⟨rfl, rfl, rfl⟩

theorem Stays.trans {world middle after : Screen × σ} (first : Stays world middle)
    (last : Stays middle after) : Stays world after :=
  ⟨last.visited.trans first.visited, last.options.trans first.options,
    last.server.trans first.server⟩

theorem desk_keeps_stays (world : Screen × σ) :
    server.desk.Keeps (fun c => ∀ window record, c ≠ .visitWindow window record)
      (Stays world) where
  call c stays after kept :=
    kept.trans ⟨after.1.visited_call stays, after.1.options_call c, rfl⟩
  note _ _ kept := kept

end Server

/-! ## Entries -/

namespace Item

variable {server : Server σ} {s : Screen} {rest : σ}

/-- An entry that succeeds leaves the row of its item. -/
theorem enter_entered (item : Item) :
    (item.enter server.desk).Ends (s, rest) (fun _ after => item.Entered s after.1)
      fun _ _ => True := by
  have plain : (item.enter server.around.desk.recorded).Mirrors (item.enter server.desk)
      fun world image => world.2 = image :=
    enter_mirrors server.around.desk.recorded_mirrors fun _ _ => trivial
  have ends : (item.enter server.around.desk.recorded).Ends ([], s, rest) _ _ := item.enter_ends
  exact plain.unrecorded (ends.mono (fun _ _ entered => entered.1) fun _ _ _ => trivial)

end Item

/-- A grid is looked at on the tab that is shown. -/
theorem Entry.expectRows_eq (server : Server σ) (s : Screen) {tab : DetailTab} (rest : σ)
    (opened : s.visited ≠ none) (shown : s.tab = some tab) (expected : Nat) :
    Entry.expectRows server.desk tab expected (s, rest) =
      (if (s.grids.rows tab).length = expected then .ok ()
        else .error (.gridMismatch tab (s.grids.rows tab).length expected),
        s.logged .countRows, rest) := by
  have counted : s.call .countRows = (.ok (s.grids.rows tab).length, s.logged .countRows) :=
    Screen.call_countRows_eq_ok.mpr ⟨tab, opened, shown, rfl, rfl⟩
  unfold Entry.expectRows
  rw [bind_apply, server.gesture_ok counted]
  dsimp only
  split <;> rfl

end PartnerRecords
