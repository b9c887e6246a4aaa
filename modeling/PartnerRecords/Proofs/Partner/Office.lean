import Mathlib.Logic.Function.Basic
import PartnerRecords.Proofs.Partner.Abreast

/-!
# Builders at one screen

Builders take turns at the screen they share, each with a record of its own. What would have become
of the same errands if every builder had a screen to itself? The screen keeps the rows of a record
only until it goes on to another one. A builder that comes back is therefore disturbed as soon as it
completes a batch of a tab of which rows were shown before, and in no other way.
-/

namespace PartnerRecords

open Act

/-! ## Points of a run -/

/-- At some point of a run, something holds of what came before and what comes next. -/
def Somewhere {α : Type} (holds : List α → α → Prop) (run : List α) : Prop :=
  ∃ past task rest, run = past ++ task :: rest ∧ holds past task

theorem not_somewhere_nil {α : Type} {holds : List α → α → Prop} : ¬ Somewhere holds [] := by
  rintro ⟨past, task, rest, split, -⟩
  cases past <;> cases split

theorem somewhere_snoc {α : Type} {holds : List α → α → Prop} {run : List α} {last : α} :
    Somewhere holds (run ++ [last]) ↔ Somewhere holds run ∨ holds run last := by
  constructor
  · rintro ⟨past, task, rest, split, here⟩
    obtain rfl | ⟨later, final, rfl⟩ := rest.eq_nil_or_concat
    · obtain ⟨rfl, same⟩ := List.append_inj' split rfl
      cases same
      exact .inr here
    · rw [List.concat_eq_append, ← List.cons_append, ← List.append_assoc] at split
      obtain ⟨earlier, -⟩ := List.append_inj' split rfl
      exact .inl ⟨past, task, later, earlier, here⟩
  · rintro (⟨past, task, rest, rfl, here⟩ | here)
    · exact ⟨past, task, rest ++ [last], by simp, here⟩
    · exact ⟨run, last, [], rfl, here⟩

/-! ## Companies and their offices -/

/-- Builders at work in one window, what the server is to each of them, and what the fields of
every screen offer. -/
structure Company (ι σ : Type) where
  window : PartnerWindow
  builders : ι → Builder
  servers : ι → Server σ
  server : σ
  options : Dict (List String)

structure Office (ι κ σ : Type) where
  builder : ι → Builder
  screen : κ → Screen
  server : σ

def Office.Distinct {ι κ σ : Type} (o : Office ι κ σ) : Prop :=
  ∀ x y, (o.builder x).record ≠ none → (o.builder x).record = (o.builder y).record → x = y

namespace Company

variable {ι κ σ : Type} [DecidableEq ι] [DecidableEq κ]

section Offices

variable (c : Company ι σ) (seat : ι → κ)

def opening : Office ι κ σ where
  builder := c.builders
  screen _ := { options := c.options }
  server := c.server

def perform (o : Office ι κ σ) (task : ι × Errand) :
    Except Failure (Option RecordId) × Builder × Screen × σ :=
  task.2.answer c.window (c.servers task.1).desk
    (o.builder task.1, o.screen (seat task.1), o.server)

def next (o : Office ι κ σ) (task : ι × Errand) : Office ι κ σ where
  builder := Function.update o.builder task.1 (c.perform seat o task).2.1
  screen := Function.update o.screen (seat task.1) (c.perform seat o task).2.2.1
  server := (c.perform seat o task).2.2.2

/-- How things stand after errands, each run wherever the one before has left everything. -/
def office (past : List (ι × Errand)) : Office ι κ σ :=
  past.foldl (c.next seat) c.opening

def answer (past : List (ι × Errand)) (task : ι × Errand) : Except Failure (Option RecordId) :=
  (c.perform seat (c.office seat past) task).1

abbrev shared (past : List (ι × Errand)) : Office ι Unit σ :=
  c.office (fun _ => ()) past

abbrev apart (past : List (ι × Errand)) : Office ι ι σ :=
  c.office (fun x => x) past

variable (x : ι) (past : List (ι × Errand)) (task : ι × Errand)

/-- An errand of a builder gives another result at the shared screen than at a screen of its own,
or leaves another progress. -/
def Differs : Prop :=
  task.1 = x ∧ (c.answer (fun _ => ()) past task ≠ c.answer (fun x => x) past task ∨
    ((c.shared (past ++ [task])).builder x).progress ≠
      ((c.apart (past ++ [task])).builder x).progress)

/-- The shared screen goes on to another record, while it shows rows of the record of a builder. -/
def Ousted (tab : DetailTab) : Prop :=
  ((c.shared past).screen ()).Shows c.window ((c.shared past).builder x) ∧
    ((c.shared past).screen ()).grids.rows tab ≠ [] ∧
      ¬ ((c.shared (past ++ [task])).screen ()).Shows c.window
        ((c.shared (past ++ [task])).builder x)

/-- An attempt of a builder at the shared screen completes a batch of a tab of which rows were shown
when the screen went on to another record. -/
def Disturbed : Prop :=
  task.1 = x ∧ task.2.isAttempt = true ∧ ∃ batch : Batch,
    batch.Completes ((c.shared past).builder x).draft ((c.shared past).builder x).progress
        ((c.shared (past ++ [task])).builder x).progress ∧
      Somewhere (fun past task => c.Ousted x past task batch.tab) past

end Offices

section Running

variable {c : Company ι σ} {seat : ι → κ} {o : Office ι κ σ} {task : ι × Errand}
  {past : List (ι × Errand)} {x : ι}

theorem office_snoc : c.office seat (past ++ [task]) = c.next seat (c.office seat past) task :=
  List.foldl_concat ..

theorem next_builder_self :
    (c.next seat o task).builder task.1 = (c.perform seat o task).2.1 :=
  Function.update_self ..

theorem next_builder_of_ne (other : x ≠ task.1) : (c.next seat o task).builder x = o.builder x :=
  Function.update_of_ne other ..

theorem next_screen_self :
    (c.next seat o task).screen (seat task.1) = (c.perform seat o task).2.2.1 :=
  Function.update_self ..

theorem next_screen_of_ne {k : κ} (other : k ≠ seat task.1) :
    (c.next seat o task).screen k = o.screen k :=
  Function.update_of_ne other ..

theorem next_grows (c : Company ι σ) (seat : ι → κ) (o : Office ι κ σ) (task : ι × Errand)
    (x : ι) : (o.builder x).Grows ((c.next seat o task).builder x) := by
  by_cases own : x = task.1
  · rw [own, next_builder_self]
    exact Errand.answer_grows (c.servers task.1).desk
      (o.builder task.1, o.screen (seat task.1), o.server) task.2
  · rw [next_builder_of_ne own]
    exact .refl _

theorem distinct_of_next (distinct : (c.next seat o task).Distinct) : o.Distinct := by
  intro x y known same
  obtain ⟨record, recorded⟩ := Option.ne_none_iff_exists'.mp known
  have first := (c.next_grows seat o task x).record record recorded
  have second := (c.next_grows seat o task y).record record (same ▸ recorded)
  refine distinct x y ?_ (first.trans second.symm)
  rw [first]
  nofun

def Tidy (c : Company ι σ) (seat : ι → κ) (o : Office ι κ σ) : Prop :=
  ∀ k, (o.screen k).visited ≠ none →
    ∃ x, seat x = k ∧ (o.screen k).Shows c.window (o.builder x)

theorem next_left (c : Company ι σ) (seat : ι → κ) (o : Office ι κ σ) (task : ι × Errand) :
    (o.screen (seat task.1)).Left c.window ((c.next seat o task).builder task.1)
      ((c.next seat o task).screen (seat task.1)) := by
  rw [next_builder_self, next_screen_self]
  exact (c.servers task.1).answer_leaves c.window task.2 _ _ _

/-- A record that is shown goes on to be that of its builder. -/
theorem shows_next {s : Screen} (shows : s.Shows c.window (o.builder x)) :
    s.Shows c.window ((c.next seat o task).builder x) := by
  obtain ⟨record, recorded, visited⟩ := shows
  exact ⟨record, (c.next_grows seat o task x).record record recorded, visited⟩

theorem Tidy.next (tidy : c.Tidy seat o) : c.Tidy seat (c.next seat o task) := by
  intro k opened
  have kept : (c.next seat o task).screen k = o.screen k →
      ∃ x, seat x = k ∧ ((c.next seat o task).screen k).Shows c.window
        ((c.next seat o task).builder x) := by
    intro same
    rw [same] at opened ⊢
    obtain ⟨x, sits, shows⟩ := tidy k opened
    exact ⟨x, sits, shows_next shows⟩
  by_cases own : k = seat task.1
  · obtain same | shows := (c.next_left seat o task).shows
    · exact kept (own ▸ same)
    · exact ⟨task.1, own.symm, own ▸ shows⟩
  · exact kept (next_screen_of_ne own)

theorem tidy_office (c : Company ι σ) (seat : ι → κ) (past : List (ι × Errand)) :
    c.Tidy seat (c.office seat past) := by
  induction past using List.reverseRecOn with
  | nil => exact fun k opened => absurd rfl opened
  | append_singleton past task ih =>
      rw [office_snoc]
      exact ih.next

/-- The screens make no difference to the server, nor to what builders want and have. -/
structure Aligned {κ' : Type} (o : Office ι κ σ) (o' : Office ι κ' σ) : Prop where
  server : o.server = o'.server
  agrees : ∀ x, (o.builder x).Agrees (o'.builder x)

theorem Aligned.next {κ' : Type} [DecidableEq κ'] {seat' : ι → κ'} {o' : Office ι κ' σ}
    (aligned : Aligned o o') : Aligned (c.next seat o task) (c.next seat' o' task) := by
  have agrees : (c.perform seat o task).2.1.Agrees (c.perform seat' o' task).2.1 ∧
      (c.perform seat o task).2.2.2 = (c.perform seat' o' task).2.2.2 := by
    unfold perform
    rw [← aligned.server]
    exact (c.servers task.1).answer_agrees c.window task.2 (aligned.agrees task.1) _ _ _
  refine ⟨agrees.2, fun x => ?_⟩
  by_cases own : x = task.1
  · rw [own, next_builder_self, next_builder_self]
    exact agrees.1
  · rw [next_builder_of_ne own, next_builder_of_ne own]
    exact aligned.agrees x

theorem aligned_office {κ' : Type} [DecidableEq κ'] (c : Company ι σ) (seat : ι → κ)
    (seat' : ι → κ') (past : List (ι × Errand)) :
    Aligned (c.office seat past) (c.office seat' past) := by
  induction past using List.reverseRecOn with
  | nil => exact ⟨rfl, fun _ => ⟨rfl, rfl⟩⟩
  | append_singleton past task ih =>
      rw [office_snoc, office_snoc]
      exact ih.next

/-- A builder is where it would be at a screen of its own, and that screen shows the rows which the
shared one has shown of its record, too. -/
structure InStep (c : Company ι σ) (x : ι) (past : List (ι × Errand)) (gone : Grids) : Prop where
  builder : (c.shared past).builder x = (c.apart past).builder x
  coupled : Coupled c.window gone ((c.shared past).builder x) ((c.shared past).screen ())
    ((c.apart past).screen x)
  gone : ∀ tab, gone.rows tab ≠ [] ↔
    Somewhere (fun past task => c.Ousted x past task tab) past

variable {gone : Grids}

theorem inStep_nil (c : Company ι σ) (x : ι) : c.InStep x [] {} := by
  refine ⟨rfl, ⟨rfl, ?_⟩, fun tab => ?_⟩
  · rw [Grids.empty_append]
    rfl
  · rw [Grids.rows_empty]
    exact iff_of_false (fun row => row rfl) not_somewhere_nil

/-- Nobody is ousted by an errand of its own. -/
theorem not_ousted_self (tab : DetailTab) : ¬ c.Ousted task.1 past task tab := by
  rintro ⟨shows, -, away⟩
  rw [shared, office_snoc] at away
  obtain same | shown := (c.next_left (fun _ => ()) (c.shared past) task).shows
  · exact away (same ▸ shows_next shows)
  · exact away shown

/-- The rows that are gone after one more errand. -/
theorem InStep.gone_snoc (inStep : c.InStep x past gone) (more : Grids)
    (ousts : ∀ tab, more.rows tab ≠ [] ↔ c.Ousted x past task tab) (tab : DetailTab) :
    (gone.append more).rows tab ≠ [] ↔
      Somewhere (fun past task => c.Ousted x past task tab) (past ++ [task]) := by
  rw [Grids.rows_append, somewhere_snoc, ← inStep.gone tab, ← ousts tab]
  cases gone.rows tab <;> simp

/-- A builder stays in step while others are at work. What the shared screen shows of its record may
be gone afterwards. -/
theorem InStep.foreign (inStep : c.InStep x past gone) (other : x ≠ task.1)
    (distinct : (c.shared (past ++ [task])).Distinct) :
    ∃ gone, c.InStep x (past ++ [task]) gone := by
  have builder : (c.shared (past ++ [task])).builder x = (c.shared past).builder x := by
    rw [shared, office_snoc]
    exact next_builder_of_ne other
  have builder' : (c.apart (past ++ [task])).builder x = (c.apart past).builder x := by
    rw [apart, office_snoc]
    exact next_builder_of_ne other
  have screen' : (c.apart (past ++ [task])).screen x = (c.apart past).screen x := by
    rw [apart, office_snoc]
    exact next_screen_of_ne other
  have left : ((c.shared past).screen ()).Left c.window
      ((c.shared (past ++ [task])).builder task.1) ((c.shared (past ++ [task])).screen ()) := by
    rw [shared, office_snoc]
    exact c.next_left (fun _ => ()) (c.shared past) task
  obtain ⟨options, rows⟩ := inStep.coupled
  have same := inStep.builder
  by_cases shown :
      ((c.shared (past ++ [task])).screen ()).Shows c.window ((c.shared past).builder x)
  · -- No other builder leaves the screen on this record, so it was left alone.
    have alone : (c.shared (past ++ [task])).screen () = (c.shared past).screen () := by
      refine left.shows.resolve_right fun others => other ?_
      obtain ⟨known, equal⟩ := shown.unique others
      exact distinct x task.1 (builder ▸ known) (builder ▸ equal)
    refine ⟨gone.append {}, ?_, ?_, inStep.gone_snoc {} fun tab => ?_⟩
    · rw [builder, builder', same]
    · rw [builder, screen', alone, Grids.append_empty]
      exact inStep.coupled
    · rw [Grids.rows_empty]
      refine iff_of_false (fun row => row rfl) fun ousted => ousted.2.2 ?_
      rw [builder]
      exact shown
  · refine ⟨gone.append (((c.shared past).screen ()).gridsOf c.window ((c.shared past).builder x)),
      ?_, ?_, inStep.gone_snoc _ fun tab => ?_⟩
    · rw [builder, builder', same]
    · rw [builder, screen']
      refine ⟨options.trans left.options.symm, ?_⟩
      rw [Screen.gridsOf_of_not_shows shown, Grids.append_empty]
      exact rows
    · unfold Ousted
      rw [builder, Screen.rows_gridsOf_ne_nil, and_iff_left shown]

/-- A builder stays in step with an errand of its own that goes the same way at both screens. -/
theorem InStep.self (inStep : c.InStep task.1 past gone)
    (builder : (c.perform (fun _ => ()) (c.shared past) task).2.1 =
      (c.perform (fun x => x) (c.apart past) task).2.1)
    (coupled : Coupled c.window gone (c.perform (fun _ => ()) (c.shared past) task).2.1
      (c.perform (fun _ => ()) (c.shared past) task).2.2.1
      (c.perform (fun x => x) (c.apart past) task).2.2.1) :
    c.InStep task.1 (past ++ [task]) gone := by
  refine ⟨?_, ?_, fun tab => ?_⟩
  · rw [shared, apart, office_snoc, office_snoc, next_builder_self, next_builder_self]
    exact builder
  · have screen : (c.shared (past ++ [task])).screen () =
        (c.perform (fun _ => ()) (c.shared past) task).2.2.1 := by
      rw [shared, office_snoc]
      exact next_screen_self
    have screen' : (c.apart (past ++ [task])).screen task.1 =
        (c.perform (fun x => x) (c.apart past) task).2.2.1 := by
      rw [apart, office_snoc]
      exact next_screen_self
    rw [screen, screen', shared, office_snoc, next_builder_self]
    exact coupled
  · rw [somewhere_snoc, or_iff_left (not_ousted_self tab)]
    exact inStep.gone tab

theorem InStep.not_differs (inStep : c.InStep x (past ++ [task]) gone)
    (same : c.answer (fun _ => ()) past task = c.answer (fun x => x) past task) :
    ¬ c.Differs x past task := by
  rintro ⟨-, answers | progress⟩
  · exact answers same
  · exact progress (congrArg Builder.progress inStep.builder)

/-- A record that a builder learns has not been shown before, at either screen. -/
theorem unseen_of_distinct {record : RecordId}
    (unrecorded : ((c.shared past).builder task.1).record = none)
    (learned : ((c.shared (past ++ [task])).builder task.1).record = some record)
    (distinct : (c.shared (past ++ [task])).Distinct) :
    ((c.shared past).screen ()).visited ≠ some (c.window.layout.windowId, record) ∧
      ((c.apart past).screen task.1).visited ≠ some (c.window.layout.windowId, record) := by
  constructor
  · intro visited
    obtain ⟨y, -, known, recorded, shown⟩ :=
      c.tidy_office (fun _ => ()) past () (by rw [visited]; nofun)
    obtain rfl : record = known := by
      rw [visited] at shown
      cases shown
      rfl
    have later : ((c.shared (past ++ [task])).builder y).record = some record := by
      rw [shared, office_snoc]
      exact (c.next_grows _ _ task y).record record recorded
    obtain rfl : y = task.1 :=
      distinct y task.1 (by rw [later]; nofun) (later.trans learned.symm)
    rw [recorded] at unrecorded
    cases unrecorded
  · intro visited
    obtain ⟨y, sits, known, recorded, -⟩ :=
      c.tidy_office (fun x => x) past task.1 (by rw [visited]; nofun)
    obtain rfl : y = task.1 := sits
    have agrees := (c.aligned_office (fun _ => ()) (fun x => x) past).agrees task.1
    rw [← agrees.record, unrecorded] at recorded
    cases recorded

theorem InStep.edit {e : Edit} (inStep : c.InStep x past gone) :
    c.InStep x (past ++ [(x, .edit e)]) gone := by
  have own : c.InStep (x, Errand.edit e).1 past gone := inStep
  refine own.self ?_ ?_
  · exact congrArg (fun b => b.edit e) inStep.builder
  · exact ⟨inStep.coupled.options, inStep.coupled.rows⟩

/-- An attempt of a builder that is in step. -/
theorem InStep.attempt (inStep : c.InStep task.1 past gone) (attempt : task.2.isAttempt = true)
    (distinct : (c.shared (past ++ [task])).Distinct) :
    (c.InStep task.1 (past ++ [task]) gone ∧ ¬ c.Differs task.1 past task ∧
        ¬ c.Disturbed task.1 past task) ∨
      c.Differs task.1 past task ∧ c.Disturbed task.1 past task := by
  have after : (c.shared (past ++ [task])).builder task.1 =
      (c.perform (fun _ => ()) (c.shared past) task).2.1 := by
    rw [shared, office_snoc]
    exact next_builder_self
  have fares : Fares c.window gone ((c.shared past).builder task.1).draft
      ((c.shared past).builder task.1).progress (c.perform (fun _ => ()) (c.shared past) task)
      (c.perform (fun x => x) (c.apart past) task) := by
    have server := (c.aligned_office (fun _ => ()) (fun x => x) past).server
    unfold perform
    rw [← inStep.builder, ← server]
    refine (c.servers task.1).answer_fares c.window task.2 attempt _ inStep.coupled ?_
    intro record unrecorded learned
    exact unseen_of_distinct unrecorded (after ▸ learned) distinct
  cases fares with
  | parted batch completes missing different =>
      refine .inr ⟨⟨rfl, .inl different⟩, rfl, attempt, batch, ?_, (inStep.gone _).mp missing⟩
      rw [after]
      exact completes
  | alike harmless same builder coupled =>
      have next := inStep.self builder coupled
      refine .inl ⟨next, next.not_differs same, ?_⟩
      rintro ⟨-, -, batch, completes, ousted⟩
      rw [after] at completes
      exact (inStep.gone _).mpr ousted (harmless batch completes)

theorem InStep.step (inStep : c.InStep x past gone)
    (distinct : (c.shared (past ++ [task])).Distinct) :
    ((∃ gone, c.InStep x (past ++ [task]) gone) ∧ ¬ c.Differs x past task ∧
        ¬ c.Disturbed x past task) ∨
      c.Differs x past task ∧ c.Disturbed x past task := by
  obtain ⟨y, errand⟩ := task
  by_cases own : y = x
  · subst own
    cases attempt : errand.isAttempt with
    | true =>
        have own : c.InStep (y, errand).1 past gone := inStep
        refine (own.attempt attempt distinct).imp_left ?_
        rintro ⟨next, same, calm⟩
        exact ⟨⟨gone, next⟩, same, calm⟩
    | false =>
        cases errand with
        | edit e =>
            have next : c.InStep y (past ++ [(y, .edit e)]) gone := inStep.edit
            refine .inl ⟨⟨gone, next⟩, next.not_differs rfl, ?_⟩
            rintro ⟨-, attempts, -⟩
            cases attempts
        | apply => cases attempt
        | replay => cases attempt
  · refine .inl ⟨inStep.foreign (Ne.symm own) distinct, ?_, ?_⟩
    · exact fun differs => own differs.1
    · exact fun disturbed => own disturbed.1

/-- Either a builder is in step and was never disturbed, or it once was, and that made a
difference. -/
theorem inStep_or_disturbed (c : Company ι σ) (x : ι) (distinct : (c.shared past).Distinct) :
    ((∃ gone, c.InStep x past gone) ∧ ¬ Somewhere (c.Differs x) past ∧
        ¬ Somewhere (c.Disturbed x) past) ∨
      Somewhere (c.Differs x) past ∧ Somewhere (c.Disturbed x) past := by
  induction past using List.reverseRecOn with
  | nil => exact .inl ⟨⟨{}, inStep_nil c x⟩, not_somewhere_nil, not_somewhere_nil⟩
  | append_singleton past task ih =>
      have before : (c.shared past).Distinct := by
        rw [shared, office_snoc] at distinct
        exact distinct_of_next distinct
      simp only [somewhere_snoc, not_or]
      obtain ⟨⟨gone, inStep⟩, same, calm⟩ | ⟨differed, disturbed⟩ := ih before
      · obtain ⟨next, same₁, calm₁⟩ | ⟨differs, disturbs⟩ := inStep.step distinct
        · exact .inl ⟨next, ⟨same, same₁⟩, calm, calm₁⟩
        · exact .inr ⟨.inr differs, .inr disturbs⟩
      · exact .inr ⟨.inl differed, .inl disturbed⟩

theorem distinct_of_earlier {tasks : List (ι × Errand)} (earlier : past <+: tasks)
    (distinct : (c.shared tasks).Distinct) : (c.shared past).Distinct := by
  obtain ⟨rest, rfl⟩ := earlier
  induction rest using List.reverseRecOn with
  | nil => rwa [List.append_nil] at distinct
  | append_singleton rest task ih =>
      rw [← List.append_assoc, shared, office_snoc] at distinct
      exact ih (distinct_of_next distinct)

/-- Builders with records of their own share a screen. Up to any point of the run, an errand of a
builder has given another result or left another progress than at a screen of its own if and only if
an attempt of this builder has completed a batch of a tab of which the screen had shown rows when it
went on to another record. -/
theorem differs_iff_disturbed (c : Company ι σ) (tasks : List (ι × Errand))
    (distinct : (c.shared tasks).Distinct) (x : ι) (past : List (ι × Errand))
    (earlier : past <+: tasks) :
    Somewhere (c.Differs x) past ↔ Somewhere (c.Disturbed x) past := by
  have distinct := distinct_of_earlier earlier distinct
  obtain ⟨-, same, calm⟩ | ⟨differed, disturbed⟩ := c.inStep_or_disturbed x distinct
  · exact iff_of_false same calm
  · exact iff_of_true differed disturbed

end Running

/-! ## A builder that comes back -/

def pair : Company Bool Unit where
  window := .sample
  builders second := { draft := { name := "Acme" }, record := some ⟨if second then "2" else "1"⟩ }
  servers _ := { exchange := fun _ _ => (.unsent, ()), readOrder := fun _ => .inTurn }
  server := ()
  options := []

/-- Each of two builders enters a contact, and the first one is to enter another. -/
def turns : List (Bool × Errand) :=
  let jane := Edit.addContact { firstName := "Jane", lastName := "Doe" }
  let john := Edit.addContact { firstName := "John", lastName := "Roe" }
  [(false, .edit jane), (false, .replay), (true, .edit jane), (true, .replay), (false, .edit john)]

theorem distinct_turns : (pair.shared (turns ++ [(false, .replay)])).Distinct := by
  intro x y _ same
  cases x <;> cases y
  · rfl
  · exact absurd same (by decide +kernel)
  · exact absurd same (by decide +kernel)
  · rfl

/-- At the shared screen, the grid shows only the rows entered since the builder came back. -/
theorem mismatch_on_return : (pair.shared (turns ++ [(false, .replay)])).Distinct ∧
    pair.answer (fun _ => ()) turns (false, .replay) = .error (.gridMismatch .contacts 1 2) ∧
      pair.answer (fun x => x) turns (false, .replay) = .ok none :=
  ⟨distinct_turns, by decide +kernel, by decide +kernel⟩

theorem disturbed_on_return : (pair.shared (turns ++ [(false, .replay)])).Distinct ∧
    Somewhere (pair.Disturbed false) (turns ++ [(false, .replay)]) := by
  refine ⟨distinct_turns, ?_⟩
  refine (pair.differs_iff_disturbed (turns ++ [(false, .replay)]) distinct_turns false _
    (List.prefix_refl _)).mp ?_
  exact ⟨turns, (false, .replay), [], rfl, rfl, .inl (by decide +kernel)⟩

end Company

end PartnerRecords
