import PartnerRecords.Proofs.Partner.Errand
import PartnerRecords.Proofs.Screen.Minutes
import PartnerRecords.Proofs.Screen.Mirror

/-!
# Mirrored errands

A builder fares alike at desks that mirror each other, whatever is asked of it. Records of the
deeds and minutes of lost saves therefore make no difference: without them, a run leaves the same
builder, screen and surroundings.
-/

namespace PartnerRecords

open Act

variable {ω ω' : Type} {desk : Desk ω} {other : Desk ω'} {related : ω → ω' → Prop}

section Mirroring

variable (mirrors : desk.Mirrors other (fun _ => True) related) (window : PartnerWindow)
include mirrors

theorem Builder.enterRows_mirrors (d : Draft) :
    (enterRows desk d).Mirrors (enterRows other d) (Beside Eq related) := by
  rintro ⟨b, world⟩ ⟨_, image⟩ ⟨rfl, both⟩
  have replays := Entry.replay_mirrors mirrors (fun _ _ => trivial) trivial d
    (b.progress, world) (b.progress, image) ⟨rfl, both⟩
  unfold enterRows
  dsimp only
  generalize Entry.replay desk d (b.progress, world) = ran at replays ⊢
  generalize Entry.replay other d (b.progress, image) = ran' at replays ⊢
  obtain ⟨result, progress, world⟩ := ran
  obtain ⟨result', progress', image⟩ := ran'
  obtain ⟨same, rfl, both⟩ := replays
  exact ⟨same, rfl, both⟩

theorem Builder.replay_mirrors :
    (replay window desk).Mirrors (replay window other) (Beside Eq related) := by
  refine mirrors_get ?_
  rintro ⟨b, world⟩ ⟨_, image⟩ ⟨rfl, -⟩
  dsimp only
  cases b.record with
  | none => exact mirrors_fail _
  | some record =>
      dsimp only
      split
      · refine ((mirrors.report _).inside Eq).bind fun _ => ?_
        refine ((mirrors.gesture trivial).inside Eq).bind fun _ => ?_
        exact enterRows_mirrors mirrors b.draft
      · exact mirrors_done ()

theorem Builder.apply_mirrors :
    (apply window desk).Mirrors (apply window other) (Beside Eq related) := by
  have persists : (persist window desk).Mirrors (persist window other) (Beside Eq related) :=
    mirrors.persist window Eq (by rintro b _ rfl; rfl) (by rintro b _ record rfl; rfl)
  refine mirrors_get ?_
  rintro ⟨b, world⟩ ⟨_, image⟩ ⟨rfl, -⟩
  dsimp only
  cases b.record with
  | some record => exact mirrors_fail _
  | none =>
      refine ((mirrors.report _).inside Eq).bind fun _ => persists.bind fun record => ?_
      refine ((mirrors.report _).inside Eq).bind fun _ => ?_
      exact (replay_mirrors mirrors window).bind fun _ => mirrors_done record

theorem Errand.run_mirrors (errand : Errand) :
    (errand.run window desk).Mirrors (errand.run window other) (Beside Eq related) := by
  cases errand with
  | edit e =>
      refine ((mirrors.report _).inside Eq).bind fun _ => mirrors_updateFirst ?_
      rintro b _ rfl
      rfl
  | apply => exact (Builder.apply_mirrors mirrors window).bind fun _ => mirrors_done ()
  | replay => exact Builder.replay_mirrors mirrors window

/-- Errands that begin with the same builder in related worlds leave it so. -/
theorem Errand.runAll_mirrors (tasks : List (PartnerWindow × Errand)) {state : Builder × ω}
    {image : Builder × ω'} (both : Beside Eq related state image) :
    Beside Eq related (runAll desk tasks state) (runAll other tasks image) := by
  induction tasks generalizing state image with
  | nil => exact both
  | cons task rest ih => exact ih (task.2.run_mirrors mirrors task.1 state image both).2

end Mirroring

/-! ## Runs without records and minutes -/

/-- Desks that mirror each other are recorded alike. -/
theorem Desk.Mirrors.recorded {allowed : Call → Prop}
    (mirrors : desk.Mirrors other allowed related) :
    desk.recorded.Mirrors other.recorded allowed (Beside Eq related) where
  exchange := by
    rintro request ⟨log, world⟩ ⟨_, image⟩ ⟨rfl, both⟩
    obtain ⟨reply, after⟩ := mirrors.exchange request world image both
    exact ⟨reply, congrArg (fun reply => log ++ [.sent request reply]) reply, after⟩
  call := by
    rintro c may ⟨log, world⟩ ⟨_, image⟩ ⟨rfl, both⟩
    obtain ⟨answer, after⟩ := mirrors.call c may world image both
    exact ⟨answer, congrArg (fun answer => log ++ [.called c answer]) answer, after⟩
  note := by
    rintro event ⟨log, world⟩ ⟨_, image⟩ ⟨rfl, both⟩
    exact ⟨rfl, mirrors.note event world image both⟩
  readOrder := by
    rintro ⟨log, world⟩ ⟨_, image⟩ ⟨-, both⟩
    exact mirrors.readOrder world image both

theorem Surroundings.minuted_mirrors {σ : Type} (around : Surroundings σ) :
    around.minuted.desk.Mirrors around.desk (fun _ => True)
      fun world image => (world.1, world.2.2) = image where
  exchange := by
    rintro request ⟨s, minutes, rest⟩ _ rfl
    exact ⟨rfl, rfl⟩
  call := by
    rintro c - ⟨s, minutes, rest⟩ _ rfl
    have same := around.minuted_drive c s minutes rest
    exact ⟨congrArg Prod.fst same, congrArg Prod.snd same⟩
  note := by
    rintro event ⟨s, minutes, rest⟩ _ rfl
    rfl
  readOrder := by
    rintro ⟨s, minutes, rest⟩ _ rfl
    rfl

namespace Errand

variable (tasks : List (PartnerWindow × Errand)) (b : Builder) (log : List Deed)

theorem runAll_recorded (desk : Desk ω) (world : ω) :
    let state := runAll desk.recorded tasks (b, log, world)
    runAll desk tasks (b, world) = (state.1, state.2.2) := by
  obtain ⟨builder, after⟩ := runAll_mirrors desk.recorded_mirrors tasks
    (⟨rfl, rfl⟩ : Beside Eq (fun world image => world.2 = image) (b, log, world) (b, world))
  exact Prod.ext builder.symm after.symm

theorem runAll_minuted {σ : Type} (around : Surroundings σ) (s : Screen) (minutes : Minutes)
    (rest : σ) :
    let state := runAll around.minuted.desk.recorded tasks (b, log, s, minutes, rest)
    runAll around.desk.recorded tasks (b, log, s, rest) =
      (state.1, state.2.1, state.2.2.1, state.2.2.2.2) := by
  obtain ⟨builder, deeds, after⟩ := runAll_mirrors around.minuted_mirrors.recorded tasks
    (⟨rfl, rfl, rfl⟩ : Beside Eq (Beside Eq fun world image => (world.1, world.2.2) = image)
      (b, log, s, minutes, rest) (b, log, s, rest))
  exact Prod.ext builder.symm (Prod.ext deeds.symm after.symm)

end Errand

end PartnerRecords
